/-
Module: OpenTunnel.Model.Handshake
Layer: Model
Purpose: The challenge and response of a mesh link (`accept`, `dial` and the start of `run_link` of `mesh.rs`, the mesh
  branch of `internal_connection` of `cluster.rs`). Every machine holds one secret. The network between them is not
  trusted: each line that a machine reads is any bytes, and the machines sign forwards and control requests with the same
  secret meanwhile. What a link does after the first frame is not here.
Imports: OpenTunnel.Model.Forward, OpenTunnel.Tasks.Steps
Trusted boundary: the MAC (`ring::hmac`) is a parameter
Main exports: Handshake.Session, Handshake.greeting, Handshake.accept, Handshake.accepted, Handshake.dial, Handshake.Event,
  Handshake.State.step
Open obligations: none
-/
import OpenTunnel.Model.Forward
import OpenTunnel.Tasks.Steps

namespace OpenTunnel.Handshake

open Formats
open Forward (validId hex meshMagic forwardLabel Chunk readHeader)

def acceptLabel : List Char := "opentunnel mesh/2 accept".toList
def dialLabel : List Char := "opentunnel mesh/2 dial".toList
def controlLabel : List Char := "opentunnel control/2".toList

/-- The longest line that `read_line` takes. -/
def maxLine : Nat := 1024

/-- A machine's ID: a text that fits in memory. -/
abbrev Machine := { id : List Char // (utf8 id).length < 2 ^ 32 }

/-- `valid_nonce` -/
def validNonce (nonce : List Char) : Bool :=
  let bytes := utf8 nonce
  decide (16 ≤ bytes.length) && decide (bytes.length ≤ 128) && bytes.all fun byte => (hexDigit byte).isSome

/-- The bytes of a nonce. -/
abbrev Random := { bytes : Bytes // bytes.length = 16 }

/-- `nonce` -/
def nonce (random : Random) : List Char := hex random.1

/-- Both machines and both nonces of a handshake, in the order they are signed. -/
structure Session where
  dialer : List Char
  acceptor : List Char
  dialNonce : List Char
  acceptNonce : List Char
deriving DecidableEq, Repr

def Session.parts (session : Session) (label : List Char) : List Bytes :=
  [label, session.dialer, session.acceptor, session.dialNonce, session.acceptNonce].map utf8

/-- Why a side gives up. -/
inductive Failure where
  | noGreeting
  | notText
  | malformed
  | itself
  | challenge
deriving DecidableEq, Repr

/-- `read_line`: the line, and what the reader keeps behind it. -/
def readLine (incoming : Bytes) : Except Failure (List Char × Bytes) :=
  match (incoming.take maxLine).findIdx? (· == 10) with
  | none => .error .noGreeting
  | some lineEnd =>
      match fromUtf8 (incoming.take lineEnd) with
      | none => .error .notText
      | some text => .ok (text, incoming.drop (lineEnd + 1))

section Machines

variable (hmac : Bytes → Bytes)

/-- `Secret::sign` -/
def proofOf (parts : List Bytes) : List Char := hex (hmac (message parts))

/-- What `dial` writes first. -/
def greeting (machine : Machine) (own : List Char) : Bytes :=
  meshMagic ++ utf8 (machine.1 ++ ' ' :: (own ++ ['\n']))

/-- `accept` until it has answered: the session, and what it writes. -/
def accept (machine : Machine) (own : List Char) (text : List Char) : Except Failure (Session × Bytes) :=
  match text.splitOn ' ' with
  | [dialer, dialNonce] =>
      if ¬ (validId dialer ∧ validNonce dialNonce) then .error .malformed
      else if dialer = machine.1 then .error .itself
      else
        let session : Session := ⟨dialer, machine.1, dialNonce, own⟩
        let proof := proofOf hmac (session.parts acceptLabel)
        .ok (session, meshMagic ++ utf8 (machine.1 ++ ' ' :: (own ++ ' ' :: (proof ++ ['\n']))))
  | _ => .error .malformed

/-- `accept` once its dialer answered: what the reader keeps. -/
def accepted (session : Session) (incoming : Bytes) : Except Failure Bytes :=
  match readLine incoming with
  | .error failure => .error failure
  | .ok (answer, rest) =>
      if proves hmac (session.parts dialLabel) (utf8 answer) then .ok rest else .error .challenge

/-- The fields of the acceptor's line. -/
def answerFields (text : List Char) : Option (List Char × List Char × List Char) :=
  if meshMagic.isPrefixOf (utf8 text) then
    match (text.drop meshMagic.length).splitOn ' ' with
    | [acceptor, acceptNonce, proof] => some (acceptor, acceptNonce, proof)
    | _ => none
  else none

/-- `dial` once its acceptor answered: the session, what it writes, and what the reader keeps. -/
def dial (machine : Machine) (own : List Char) (incoming : Bytes) : Except Failure (Session × Bytes × Bytes) :=
  match readLine incoming with
  | .error failure => .error failure
  | .ok (text, rest) =>
      if ¬ meshMagic.isPrefixOf (utf8 text) then .error .noGreeting
      else match answerFields text with
        | none => .error .malformed
        | some (acceptor, acceptNonce, proof) =>
            if ¬ (validId acceptor ∧ validNonce acceptNonce) then .error .malformed
            else
              let session : Session := ⟨machine.1, acceptor, own, acceptNonce⟩
              if ¬ proves hmac (session.parts acceptLabel) (utf8 proof) then .error .challenge
              else if acceptor = machine.1 then .error .itself
              else .ok (session, utf8 (proofOf hmac (session.parts dialLabel) ++ ['\n']), rest)

theorem nothing_read : ([] : Bytes).length < 2 ^ 32 := by decide

/-- The mesh branch of `internal_connection`: the greeting behind the magic, and what follows its line. -/
def meshGreeting (reads : List Chunk) : Option (List Char × Bytes × List Chunk) :=
  match readHeader reads [] nothing_read with
  | none => none
  | some found =>
      if meshMagic.isPrefixOf found.buffer then
        (fromUtf8 ((found.buffer.take found.lineEnd).drop meshMagic.length)).map fun text =>
          (text, found.buffer.drop (found.lineEnd + 1), found.reads)
      else none

/-! ### All machines -/

/-- One side's connection. `proven`: the handshake is over and the other side proved itself. `linked`: it said `hello` as
    this machine. -/
inductive Stage where
  | waiting
  | proven
  | linked (machineId : List Char)
  | failed
deriving DecidableEq, Repr

/-- A connection that a machine dialed; it knows its session once it is proven. -/
structure Dialing where
  machine : Machine
  random : Random
  session : Option Session := none
  stage : Stage := .waiting
deriving DecidableEq

/-- A connection that a machine answered. -/
structure Accepting where
  session : Session
  stage : Stage := .waiting
deriving DecidableEq, Repr

/-- The connections in the order they began, and everything that was signed. -/
structure State where
  dials : List Dialing := []
  accepts : List Accepting := []
  signed : List (List Bytes) := []
deriving DecidableEq

/-- What a machine does. A line is what arrives on its connection until the line is read. -/
inductive Event where
  | dial (machine : Machine) (random : Random)
  | greeted (machine : Machine) (random : Random) (reads : List Chunk)
  | answered (dialing : Nat) (incoming : Bytes)
  | finished (accepting : Nat) (incoming : Bytes)
  /-- The `hello` behind the handshake names a machine. -/
  | dialerHello (dialing : Nat) (machineId : List Char)
  | acceptorHello (accepting : Nat) (machineId : List Char)
  /-- A write fails, a wait takes too long, or the connection ends. -/
  | dialerFails (dialing : Nat)
  | acceptorFails (accepting : Nat)
  /-- `sign` of `cluster.rs`, for a forward or a control request. -/
  | signs (request : SignedRequest)

/-- `run_link`: whether the `hello` ends the link. -/
def helloStage (own other machineId : List Char) : Stage :=
  if machineId = own then .failed else if other ≠ machineId then .failed else .linked machineId

def State.step (event : Event) (s : State) : Option State :=
  match event with
  | .dial machine random => some { s with dials := s.dials ++ [{ machine := machine, random := random }] }
  | .greeted machine random reads =>
      match meshGreeting reads with
      | none => some s
      | some (text, _, _) =>
          match accept hmac machine (nonce random) text with
          | .error _ => some s
          | .ok (session, _) =>
              some { s with accepts := s.accepts ++ [{ session := session }],
                            signed := session.parts acceptLabel :: s.signed }
  | .answered i incoming =>
      match s.dials[i]? with
      | some { machine, random, session := none, stage := .waiting } =>
          match dial hmac machine (nonce random) incoming with
          | .error _ => some { s with dials := s.dials.set i { machine := machine, random := random, stage := .failed } }
          | .ok (session, _, _) =>
              some { s with dials := s.dials.set i { machine := machine, random := random, session := some session, stage := .proven },
                            signed := session.parts dialLabel :: s.signed }
      | _ => none
  | .finished j incoming =>
      match s.accepts[j]? with
      | some { session, stage := .waiting } =>
          match accepted hmac session incoming with
          | .error _ => some { s with accepts := s.accepts.set j { session := session, stage := .failed } }
          | .ok _ => some { s with accepts := s.accepts.set j { session := session, stage := .proven } }
      | _ => none
  | .dialerHello i machineId =>
      match s.dials[i]? with
      | some { machine, random, session := some session, stage := .proven } =>
          some { s with dials := s.dials.set i { machine := machine, random := random, session := some session,
                                                 stage := helloStage machine.1 session.acceptor machineId } }
      | _ => none
  | .acceptorHello j machineId =>
      match s.accepts[j]? with
      | some { session, stage := .proven } =>
          some { s with accepts := s.accepts.set j { session := session,
                                                     stage := helloStage session.acceptor session.dialer machineId } }
      | _ => none
  | .dialerFails i =>
      match s.dials[i]? with
      | some dialing => some { s with dials := s.dials.set i { dialing with stage := .failed } }
      | none => none
  | .acceptorFails j =>
      match s.accepts[j]? with
      | some accepting => some { s with accepts := s.accepts.set j { accepting with stage := .failed } }
      | none => none
  | .signs request =>
      if request.label = utf8 forwardLabel ∨ request.label = utf8 controlLabel then
        some { s with signed := request.parts :: s.signed }
      else none

end Machines

end OpenTunnel.Handshake
