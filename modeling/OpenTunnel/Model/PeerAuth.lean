/-
Module: OpenTunnel.Model.PeerAuth
Layer: Model
Purpose: Signed requests between machines (`peer_auth.rs`, `verify` of `cluster.rs`): the message that is signed, the
  proof, the timestamp's window, and the memory of the nonces already accepted, which is pruned by age and, when that
  is not enough, by half. The MAC is a parameter.
Imports: OpenTunnel.Formats.BigEndian
Trusted boundary: the MAC (`ring::hmac`) is a parameter
Main exports: SignedRequest, message, decodeHex, parseU64, fresh, firstUse, verifyRequest, PeerAuth.step
Open obligations: none
-/
import OpenTunnel.Formats.BigEndian

namespace OpenTunnel

def maxSkewMs : Nat := 30000
def maxNonces : Nat := 100000

/-- `u32::to_be_bytes` -/
def be32 (n : Nat) : Bytes :=
  [UInt8.ofNat (n / 2 ^ 24), UInt8.ofNat (n / 2 ^ 16), UInt8.ofNat (n / 2 ^ 8), UInt8.ofNat n]

/-- `message`: each part after its length. -/
def message : List Bytes → Bytes
  | [] => []
  | part :: rest => be32 part.length ++ part ++ message rest

def hexDigit (byte : UInt8) : Option Nat :=
  let n := byte.toNat
  if 48 ≤ n ∧ n ≤ 57 then some (n - 48)
  else if 97 ≤ n ∧ n ≤ 102 then some (n - 87)
  else if 65 ≤ n ∧ n ≤ 70 then some (n - 55)
  else none

/-- `u8::from_str_radix(…, 16)` of two bytes, which takes a plus sign too. -/
def hexByte (first second : UInt8) : Option UInt8 :=
  if first = 43 then (hexDigit second).map UInt8.ofNat
  else (hexDigit first).bind fun high => (hexDigit second).map fun low => UInt8.ofNat (16 * high + low)

def hexBytes : Bytes → Option Bytes
  | [] => some []
  | [_] => none
  | first :: second :: rest => (hexByte first second).bind fun byte => (hexBytes rest).map (byte :: ·)

/-- `decode_hex` -/
def decodeHex (value : Bytes) : Option Bytes :=
  if value.length % 2 ≠ 0 ∨ 128 < value.length then none else hexBytes value

/-- `str::parse::<u64>` -/
def parseU64 (text : Bytes) : Option Nat :=
  let digits := match text with
    | 43 :: rest => rest
    | _ => text
  if digits.isEmpty ∨ ¬ digits.all fun byte => 48 ≤ byte.toNat && byte.toNat ≤ 57 then none
  else
    let value := digits.foldl (fun value byte => 10 * value + (byte.toNat - 48)) 0
    if value < 2 ^ 64 then some value else none

/-- `fresh` -/
def fresh (timestamp now : Nat) : Bool := (timestamp - now) + (now - timestamp) ≤ maxSkewMs

/-- A signed request. Its parts come from a header line or from HTTP headers of bounded size. -/
structure SignedRequest where
  label : Bytes
  sender : Bytes
  receiver : Bytes
  timestamp : Bytes
  nonce : Bytes
  proof : Bytes
  fields : List Bytes
  short : ∀ part ∈ [label, sender, receiver, timestamp, nonce] ++ fields, part.length < 2 ^ 32
deriving DecidableEq

namespace SignedRequest

/-- What its proof is over. -/
def parts (request : SignedRequest) : List Bytes :=
  [request.label, request.sender, request.receiver, request.timestamp, request.nonce] ++ request.fields

end SignedRequest

/-- The nonces seen, each with its timestamp. -/
abbrev Nonces := List (Bytes × Nat)

/-- `first_use`: what it forgets before it looks. -/
def forgetNonces (seen : Nonces) (now : Nat) : Nonces :=
  if maxNonces ≤ seen.length then
    let recent := seen.filter fun entry => now - maxSkewMs ≤ entry.2
    if maxNonces ≤ recent.length then
      let times := (recent.map (·.2)).mergeSort
      let median := times[times.length / 2]?.getD 0
      recent.filter fun entry => median < entry.2
    else recent
  else seen

/-- `first_use` -/
def firstUse (seen : Nonces) (nonce : Bytes) (timestamp now : Nat) : Bool × Nonces :=
  let seen := forgetNonces seen now
  if (seen.map (·.1)).contains nonce then (false, seen) else (true, (nonce, timestamp) :: seen)

/-- Why a request is refused. -/
inductive Refusal where
  | anotherMachine
  | timestamp
  | stale (clock signed : Nat)
  | badSignature
  | replayed
deriving DecidableEq, Repr

section Verify

variable (hmac : Bytes → Bytes) (machineId : Bytes)

/-- `Secret::verify` -/
def proves (parts : List Bytes) (proof : Bytes) : Bool :=
  match decodeHex proof with
  | none => false
  | some tag => tag = hmac (message parts)

/-- `Cluster::verify` -/
def verifyRequest (request : SignedRequest) (now : Nat) (seen : Nonces) : Except Refusal Unit × Nonces :=
  if request.receiver ≠ machineId then (.error .anotherMachine, seen)
  else match parseU64 request.timestamp with
    | none => (.error .timestamp, seen)
    | some signed =>
        if ¬ fresh signed now then (.error (.stale now signed), seen)
        else if ¬ proves hmac request.parts request.proof then (.error .badSignature, seen)
        else match firstUse seen request.nonce signed now with
          | (true, seen) => (.ok (), seen)
          | (false, seen) => (.error .replayed, seen)

/-- A request that was accepted, with the clock and the timestamp it was accepted with. -/
structure AcceptedRequest where
  request : SignedRequest
  now : Nat
  signed : Nat
deriving DecidableEq

/-- A machine's nonces, the clock of its last call, and the requests it accepted, the newest first. -/
structure PeerAuth where
  seen : Nonces := []
  clock : Nat := 0
  accepted : List AcceptedRequest := []

/-- A call of `verify`. -/
structure VerifyCall where
  request : SignedRequest
  now : Nat

def PeerAuth.step (call : VerifyCall) (s : PeerAuth) : Option PeerAuth :=
  match verifyRequest hmac machineId call.request call.now s.seen with
  | (.ok (), seen) =>
      some { seen := seen, clock := call.now,
             accepted := { request := call.request, now := call.now,
                           signed := (parseU64 call.request.timestamp).getD 0 } :: s.accepted }
  | (.error _, seen) => some { s with seen := seen, clock := call.now }

end Verify

end OpenTunnel
