/-
Module: OpenTunnel.Model.ReadBatches
Layer: Model
Purpose: Single-tunnel reads in batches (`read`, `read_batches` and `read_tunnels` of `store.rs`). Callers put requests
  into a queue and start a runner when fewer than `READ_BATCHES` run; a runner takes the front of the queue, reads its
  IDs with one statement for the plain ones and one for each other, answers, and ends when the queue is empty.
  Callers, runners and writers of the table interleave.
Imports: OpenTunnel.Model.Record
Trusted boundary: none (fully proved)
Main exports: ReadRequest, ReadStatement, BatchRunner, ReadState, ReadState.Event, ReadState.step
Open obligations: none
-/
import OpenTunnel.Model.Record

namespace OpenTunnel

def readBatch : Nat := 200
def readBatches : Nat := 8

/-- `literal`: the ID needs no escaping. -/
def isLiteral (value : String) : Bool :=
  !value.isEmpty && value.utf8ByteSize ≤ 191 && value.toList.all fun c =>
    ('a' ≤ c && c ≤ 'z') || ('A' ≤ c && c ≤ 'Z') || ('0' ≤ c && c ≤ '9') || c = '-' || c = '_' || c = '.' || c = '@'

/-- The statements of `read_tunnels`, each with the IDs it asks for. -/
def statementsOf (ids : List TunnelId) : List (List TunnelId) :=
  let literals := (ids.filter isLiteral).eraseDups
  (ids.filter fun id => !isLiteral id).map (fun id => [id]) ++ if literals.isEmpty then [] else [literals]

def storageUnavailable : String := "storage unavailable: "

/-- The error of a batch, as each of its requests gets it. -/
def batchError (error : String) : String :=
  if storageUnavailable.toList.isPrefixOf error.toList then error else storageUnavailable ++ error

/-- A request, with when it was put into the queue. -/
structure ReadRequest where
  ticket : Nat
  id : TunnelId
  enqueuedAt : Nat
deriving DecidableEq, Repr

section Reads

variable (Snapshot : Type)

/-- A row as the read decodes it, or the reason it could not be. -/
abbrev DecodedRow := Except String Snapshot

/-- A statement: when it ran, the requests of its batch, the IDs it asked for, the rows of the table at that moment, and
    its error if it failed. -/
structure ReadStatement where
  time : Nat
  batch : List ReadRequest
  ids : List TunnelId
  rows : TunnelId → Option (DecodedRow Snapshot)
  error : Option String

/-- A `read_batches`: at the top of its loop, or with a batch, the statements left and the rows found. -/
inductive BatchRunner where
  | top
  | reading (batch : List ReadRequest) (left : List (List TunnelId)) (found : List (TunnelId × DecodedRow Snapshot))

structure ReadAnswer where
  request : ReadRequest
  answer : Except String (Option Snapshot)

/-- The table, the queue, the runners by their numbers, and what has been asked, run and answered. -/
structure ReadState where
  rows : TunnelId → Option (DecodedRow Snapshot)
  clock : Nat := 0
  waiting : List ReadRequest := []
  running : Nat := 0
  runners : List (Nat × BatchRunner Snapshot) := []
  asked : List ReadRequest := []
  statements : List (ReadStatement Snapshot) := []
  answered : List (ReadAnswer Snapshot) := []

end Reads

variable {Snapshot : Type}

/-- What a request is answered, by the row found for its ID. -/
def answerOf : Option (DecodedRow Snapshot) → Except String (Option Snapshot)
  | none => .ok none
  | some (.ok snapshot) => .ok (some snapshot)
  | some (.error error) => .error error

/-- The rows that a statement returns. -/
def returned (rows : TunnelId → Option (DecodedRow Snapshot)) (ids : List TunnelId) :
    List (TunnelId × DecodedRow Snapshot) :=
  ids.filterMap fun id => (rows id).map fun row => (id, row)

namespace ReadState

/-- A row is written or removed, a read is called, or a runner goes on. `error` is the failure of the statement it is
    at, if it fails or times out. -/
inductive Event (Snapshot : Type) where
  | write (id : TunnelId) (row : Option (DecodedRow Snapshot))
  | read (id : TunnelId)
  | turn (runner : Nat) (error : Option String)

def setRunner (s : ReadState Snapshot) (runner : Nat) (at_ : BatchRunner Snapshot) : ReadState Snapshot :=
  { s with runners := s.runners.map fun entry => if entry.1 = runner then (runner, at_) else entry }

/-- The next request, for the ID given. -/
def request (s : ReadState Snapshot) (id : TunnelId) : ReadRequest :=
  { ticket := s.asked.length, id := id, enqueuedAt := s.clock }

def enqueue (s : ReadState Snapshot) (id : TunnelId) : ReadState Snapshot :=
  { s with waiting := s.waiting ++ [s.request id], asked := s.asked ++ [s.request id] }

/-- `read`, up to its wait for the answer. -/
def read (s : ReadState Snapshot) (id : TunnelId) : ReadState Snapshot :=
  if s.running < readBatches then
    { s.enqueue id with running := s.running + 1, runners := s.runners ++ [(s.clock, .top)] }
  else s.enqueue id

/-- A turn of `read_batches`: the top of the loop, a statement, or the answers. -/
def turn (s : ReadState Snapshot) (runner : Nat) (error : Option String) : Option (ReadState Snapshot) :=
  match s.runners.lookup runner with
  | none => none
  | some .top =>
      if s.waiting.isEmpty then
        some { s with running := s.running - 1, runners := s.runners.filter (·.1 ≠ runner) }
      else
        let take := min s.waiting.length readBatch
        let batch := s.waiting.take take
        some ({ s with waiting := s.waiting.drop take }.setRunner runner
          (.reading batch (statementsOf (batch.map ReadRequest.id)) []))
  | some (.reading batch [] found) =>
      let answers := batch.map fun request => { request := request, answer := answerOf (found.lookup request.id) }
      some ({ s with answered := s.answered ++ answers }.setRunner runner .top)
  | some (.reading batch (ids :: left) found) =>
      let statement := { time := s.clock, batch := batch, ids := ids, rows := s.rows, error := error }
      let s := { s with statements := s.statements ++ [statement] }
      match error with
      | none => some (s.setRunner runner (.reading batch left (returned s.rows ids ++ found)))
      | some error =>
          let answers := batch.map fun request => { request := request, answer := .error (batchError error) }
          some ({ s with answered := s.answered ++ answers }.setRunner runner .top)

def next (e : Event Snapshot) (s : ReadState Snapshot) : Option (ReadState Snapshot) :=
  match e with
  | .write id row => some { s with rows := fun other => if other = id then row else s.rows other }
  | .read id => some (s.read id)
  | .turn runner error => s.turn runner error

/-- Every event takes a tick of the clock. -/
def step (e : Event Snapshot) (s : ReadState Snapshot) : Option (ReadState Snapshot) :=
  (next e s).map fun s => { s with clock := s.clock + 1 }

end ReadState

end OpenTunnel
