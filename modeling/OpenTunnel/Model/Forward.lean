/-
Module: OpenTunnel.Model.Forward
Layer: Model
Purpose: The header of a forwarded visitor (`cluster.rs`): the line that the forwarding machine signs and writes, and how the
  receiving machine reads a line, tells a forward from a mesh link and a control request, and verifies it. What follows
  the verification (the sender's address, the visitor's, the ClientHello) is not here.
Imports: OpenTunnel.Formats.Split, OpenTunnel.Formats.Utf8, OpenTunnel.Model.PeerAuth
Trusted boundary: the MAC (`ring::hmac`) is a parameter
Main exports: Forward.validId, Forward.slug, Forward.hex, Forward.sign, Forward.header, Forward.readHeader, Forward.parseLine,
  Forward.receive
Open obligations: none
-/
import OpenTunnel.Formats.Split
import OpenTunnel.Formats.Utf8
import OpenTunnel.Model.PeerAuth

namespace OpenTunnel.Forward

open Formats

def forwardMagic : Bytes := utf8 "OPENTUNNEL-FORWARD/2 ".toList
def meshMagic : Bytes := utf8 "OPENTUNNEL-MESH/2 ".toList
def forwardLabel : List Char := "opentunnel forward/2".toList
def maxHeader : Nat := 1024

/-- `valid_id` -/
def validId (id : List Char) : Bool :=
  let bytes := utf8 id
  !bytes.isEmpty && decide (bytes.length ≤ 191) &&
    bytes.all fun byte => 33 ≤ byte.toNat && byte.toNat ≤ 126 && byte.toNat != 32

/-- `slug`: a tunnel's ID, of 12 random bytes. -/
def slug (random : Bytes) : List Char :=
  random.map fun byte => "abcdefghijklmnopqrstuvwxyz234567".toList.getD (byte &&& 31).toNat 'a'

/-- `hex` -/
def hex (bytes : Bytes) : List Char :=
  bytes.flatMap fun byte => [Nat.digitChar (byte.toNat / 16), Nat.digitChar (byte.toNat % 16)]

section Sender

variable (hmac : Bytes → Bytes) (machineId : List Char)

/-- `sign`, at the time `now` and with a nonce of these bytes. -/
def sign (now : Nat) (random : Bytes) (label receiver : List Char) (fields : List (List Char)) : List Char :=
  let timestamp := Nat.toDigits 10 now
  let nonce := hex random
  let parts := [label, machineId, receiver, timestamp, nonce] ++ fields
  let proof := hex (hmac (message (parts.map utf8)))
  machineId ++ ' ' :: (receiver ++ ' ' :: (timestamp ++ ' ' :: (nonce ++ ' ' :: proof)))

/-- What `open` writes; nothing where it panics. -/
def header (now : Nat) (random : Bytes) (receiver tunnel route visitor : List Char) (initial : Bytes) : Option Bytes := do
  let signed := sign hmac machineId now random forwardLabel receiver [tunnel, route, visitor]
  let (identity, proof) ← rsplitOnce ' ' signed
  some (forwardMagic ++
    (utf8 (identity ++ ' ' :: (tunnel ++ ' ' :: (route ++ ' ' :: (visitor ++ ' ' :: (proof ++ ['\n']))))) ++ initial))

end Sender

/-! ### The receiving machine -/

/-- What a read gives: the buffer does not have more room. -/
abbrev Chunk := { bytes : Bytes // bytes.length < 2 ^ 31 }

/-- The buffer with a newline in it, and the reads that are still to come. -/
structure HeaderRead where
  buffer : Bytes
  lineEnd : Nat
  reads : List Chunk
  small : buffer.length < 2 ^ 32

/-- The loop of `internal_connection` that looks for the end of the line. -/
def readHeader (reads : List Chunk) (buffer : Bytes) (small : buffer.length < 2 ^ 32) : Option HeaderRead :=
  match buffer.findIdx? (· == 10) with
  | some lineEnd => some ⟨buffer, lineEnd, reads, small⟩
  | none =>
      if long : buffer.length ≥ maxHeader then none
      else
        match reads with
        | [] => none
        | chunk :: reads =>
            if chunk.1.isEmpty then none
            else readHeader reads (buffer ++ chunk.1) (by
              have room := chunk.2
              rw [List.length_append]
              unfold maxHeader at long
              omega)

theorem length_le_joined {parts : List (List Char)} {part : List Char} (listed : part ∈ parts) :
    (utf8 part).length ≤ (utf8 ([' '].intercalate parts)).length := by
  induction parts with
  | nil => cases listed
  | cons first parts ih =>
      cases parts with
      | nil =>
          have only : [' '].intercalate [first] = part := by
            rw [List.mem_singleton.mp listed, List.intercalate_singleton]
          exact Nat.le_of_eq (congrArg (fun chars => (utf8 chars).length) only.symm)
      | cons next parts =>
          rw [List.intercalate_cons_cons, utf8_append, utf8_append, List.length_append, List.length_append]
          rcases List.mem_cons.mp listed with rfl | later
          · omega
          · have rest := ih later
            omega

/-- The fields of a forward header: its line is UTF-8, with eight fields between single spaces. -/
def parseLine (line : Bytes) (small : line.length < 2 ^ 32) : Option SignedRequest :=
  match text : fromUtf8 line with
  | none => none
  | some chars =>
      match split : chars.splitOn ' ' with
      | [sender, receiver, timestamp, nonce, tunnel, route, visitor, proof] =>
          some
            { label := utf8 forwardLabel
              sender := utf8 sender
              receiver := utf8 receiver
              timestamp := utf8 timestamp
              nonce := utf8 nonce
              proof := utf8 proof
              fields := [utf8 tunnel, utf8 route, utf8 visitor]
              short := by
                have within (part : List Char) (listed : part ∈ chars.splitOn ' ') : (utf8 part).length < 2 ^ 32 := by
                  have least := length_le_joined listed
                  rw [List.intercalate_splitOn, utf8_of_fromUtf8 text] at least
                  omega
                rw [split] at within
                intro part listed
                simp only [List.cons_append, List.nil_append, List.mem_cons, List.not_mem_nil, or_false] at listed
                rcases listed with rfl | rfl | rfl | rfl | rfl | rfl | rfl | rfl
                · decide +kernel
                all_goals exact within _ (by simp) }
      | _ => none

inductive Received where
  /-- No line, or not a forward: a mesh link or a control request. -/
  | noHeader
  | mesh
  | control
  | malformed
  | refused (refusal : Refusal) (seen : Nonces)
  /-- Verified, with what was read behind the line and the reads that are still to come. -/
  | verified (request : SignedRequest) (rest : Bytes) (reads : List Chunk) (seen : Nonces)

/-- `internal_connection`, until a forward is verified. -/
def receive (hmac : Bytes → Bytes) (machineId : List Char) (now : Nat) (seen : Nonces) (reads : List Chunk) : Received :=
  match readHeader reads [] (by decide) with
  | none => .noHeader
  | some found =>
      if meshMagic.isPrefixOf found.buffer then .mesh
      else if !forwardMagic.isPrefixOf found.buffer then .control
      else
        have small : ((found.buffer.take found.lineEnd).drop forwardMagic.length).length < 2 ^ 32 := by
          have small := found.small
          rw [List.length_drop, List.length_take]
          omega
        match parseLine ((found.buffer.take found.lineEnd).drop forwardMagic.length) small with
        | none => .malformed
        | some request =>
            match verifyRequest hmac (utf8 machineId) request now seen with
            | (.error refusal, seen) => .refused refusal seen
            | (.ok (), seen) => .verified request (found.buffer.drop (found.lineEnd + 1)) found.reads seen

end OpenTunnel.Forward
