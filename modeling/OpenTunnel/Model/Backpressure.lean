/-
Module: OpenTunnel.Model.Backpressure
Layer: Model
Purpose: Backpressure on one bridge (`data`, `hold_inbound` and `reset_stalled` of `bridge.rs`, `download` and
  `write_watched` of `relay.rs`), with the clock and the times that are noted. The reader handles one frame after another;
  every visitor's task takes data and gives its share of the budgets back. What runs without an await is cut where
  another thread can come in between: a share notes the time when it is dropped and is then given back part by part, and
  `reset_stalled` reads the clock and looks at one connection after another. A `select!` with several branches ready
  takes any of them.
Imports: OpenTunnel.Model.Download
Trusted boundary: none (fully proved)
Main exports: Backpressure.Visit, Backpressure.Visit.act, Backpressure.Reader, Backpressure.Bridge, Backpressure.Event,
  Backpressure.step
Open obligations: none
-/
import OpenTunnel.Model.Download

namespace OpenTunnel.Backpressure

open Download (Budget Outcome channelBudget bridgeBudget)

def stallMs : Nat := 5000
def progress : Nat := 64 * 1024

/-! ### A visitor's task (`relay.rs`) -/

/-- What the task does with the data it took off its queue. -/
inductive Hand where
  | empty
  /-- in `write_watched`, with its `previous` and `acked` -/
  | writing (len : Nat) (previous : Option Nat) (acked : Nat)
  /-- the share is dropped: the time is noted, and this part is given back next -/
  | dropping (len : Nat) (next : Budget)
deriving DecidableEq, Repr

/-- A public connection: its `ChannelHandle` and its task. -/
structure Visit where
  drainedAt : Nat
  /-- what is left of the connection's budget -/
  budget : Nat := channelBudget
  /-- the lengths of the data queued for it -/
  queue : List Nat := []
  hand : Hand := .empty
  /-- the task still has the receiver -/
  receiving : Bool := true
  outcome : Option Outcome := none
deriving DecidableEq, Repr

/-- `Finish::finish` -/
def Visit.finish (visit : Visit) (outcome : Outcome) : Visit :=
  if visit.outcome.isSome then visit else { visit with outcome := some outcome }

/-- The part of a share that is given back after this one; its fields are dropped in order. -/
def following : Budget → Option Budget
  | .channel => some .bridge
  | .bridge => some .machine
  | .machine => none

inductive TaskEvent where
  /-- `inbound.recv` gives data -/
  | take
  /-- the watcher of the write reads what the visitor has not acknowledged -/
  | check (queued : Option Nat)
  /-- the write returned, or the connection was aborted meanwhile: the share is dropped -/
  | wrote
  | giveBack
  /-- `download` returns: the receiver is dropped, with all that is queued, one by one -/
  | hangUp
  | discard
deriving DecidableEq, Repr

namespace Visit

/-- `acked` after a check. -/
def ackedBy (queued : Nat) (previous : Option Nat) (acked : Nat) : Nat :=
  match previous with
  | some previous => if queued < previous then acked + (previous - queued) else acked
  | none => acked

def act (now : Nat) : TaskEvent → Visit → Option Visit
  | .take, visit => match visit.receiving, visit.hand, visit.queue with
      | true, .empty, len :: rest => some { visit with queue := rest, hand := .writing len none 0 }
      | _, _, _ => none
  | .check queued, visit => match visit.hand, queued with
      | .writing _ _ _, none => some visit
      | .writing len previous acked, some queued =>
          let acked := ackedBy queued previous acked
          if progress ≤ acked then some { visit with hand := .writing len (some queued) 0, drainedAt := now }
          else some { visit with hand := .writing len (some queued) acked }
      | _, _ => none
  | .wrote, visit => match visit.hand with
      | .writing len _ _ => some { visit with hand := .dropping len .channel, drainedAt := now }
      | _ => none
  | .giveBack, visit => match visit.hand with
      | .dropping len next => some { visit with
          budget := if next = .channel then visit.budget + len else visit.budget
          hand := match following next with
            | some next => .dropping len next
            | none => .empty }
      | _ => none
  | .hangUp, visit => match visit.receiving, visit.hand with
      | true, .empty => some { visit with receiving := false }
      | _, _ => none
  | .discard, visit => match visit.receiving, visit.hand, visit.queue with
      | false, .empty, len :: rest =>
          some { visit with queue := rest, hand := .dropping len .channel, drainedAt := now }
      | _, _, _ => none

/-- What an act of the task gives back of a share. -/
def released : TaskEvent → Visit → Option (Budget × Nat)
  | .giveBack, visit => match visit.hand with
      | .dropping len next => some (next, len)
      | _ => none
  | _, _ => none

end Visit

/-! ### The reader (`bridge.rs`) -/

/-- A frame in `hold_inbound`: whether nothing was waiting for the visitor when it came, and when `deadline` was set. -/
structure Wait where
  conn : Nat
  visit : Nat
  len : Nat
  empty : Bool
  since : Nat
deriving DecidableEq, Repr

/-- Where the reader is. A connection is given by its number and the visit that has it. -/
inductive Reader where
  | reading
  /-- in the `select!`; `waiting` acquires this budget next -/
  | waiting (wait : Wait) (next : Budget)
  /-- `waiting` was dropped -/
  | stalled (wait : Wait)
  /-- `reset_stalled` read the clock and goes through the connections; those it found -/
  | looking (wait : Wait) (now : Nat) (left found : List (Nat × Nat))
  | resetting (wait : Wait) (found : List (Nat × Nat))
  /-- in `reset`, sending the message -/
  | sending (wait : Wait) (found : List (Nat × Nat))
  /-- in the last `reset`, of the connection whose frame did not fit -/
  | givingUp
  /-- drops the share of data that no task receives -/
  | dropping (v len : Nat) (next : Budget)
deriving DecidableEq, Repr

/-- The bridge. `table` is its `channels`; what is left of the machine's budget is shared with other bridges. -/
structure Bridge where
  clock : Nat
  visits : Nat → Option Visit := fun _ => none
  routed : Nat := 0
  table : List (Nat × Nat) := []
  inboundBudget : Nat := bridgeBudget
  buffer : Nat
  reader : Reader := .reading

inductive Event where
  | tick (ms : Nat)
  /-- other bridges take or give back of the machine's budget -/
  | machine (buffer : Nat)
  | route (conn : Nat)
  /-- the connection's number is taken out of the table, for whatever reason but backpressure -/
  | unroute (conn : Nat)
  | finish (v : Nat) (outcome : Outcome)
  | task (v : Nat) (act : TaskEvent)
  -- the reader
  | data (conn len : Nat)
  | acquire
  | deadline
  | cancelled
  | scan (order : List (Nat × Nat))
  | look
  | reset
  | sent
  | retry
  | dropped
deriving DecidableEq, Repr

namespace Bridge

def change (s : Bridge) (v : Nat) (f : Visit → Visit) : Bridge :=
  { s with visits := fun v' => if v' = v then (s.visits v).map f else s.visits v' }

/-- `channels.remove` -/
def unmap (s : Bridge) (conn : Nat) : Bridge := { s with table := s.table.filter fun entry => entry.1 ≠ conn }

/-- The budgets that connections share. -/
def giveShared (s : Bridge) : Option (Budget × Nat) → Bridge
  | some (.bridge, len) => { s with inboundBudget := s.inboundBudget + len }
  | some (.machine, len) => { s with buffer := s.buffer + len }
  | _ => s

def available (s : Bridge) (visit : Visit) : Budget → Nat
  | .channel => visit.budget
  | .bridge => s.inboundBudget
  | .machine => s.buffer

def take (s : Bridge) (v len : Nat) : Budget → Bridge
  | .channel => s.change v fun visit => { visit with budget := visit.budget - len }
  | .bridge => { s with inboundBudget := s.inboundBudget - len }
  | .machine => { s with buffer := s.buffer - len }

def give (s : Bridge) (v len : Nat) : Budget → Bridge
  | .channel => s.change v fun visit => { visit with budget := visit.budget + len }
  | part => s.giveShared (some (part, len))

/-- `try_hold` would succeed. -/
def fits (s : Bridge) (v len : Nat) : Bool :=
  match s.visits v with
  | none => false
  | some visit => decide (len ≤ visit.budget ∧ len ≤ s.inboundBudget ∧ len ≤ s.buffer)

/-- Notes that data starts waiting for this visitor now. -/
def starts (s : Bridge) (v : Nat) (empty : Bool) : Bridge :=
  if empty then s.change v fun visit => { visit with drainedAt := s.clock } else s

/-- `inbound.send` of data with its share: a visitor that is gone drops both. -/
def send (s : Bridge) (v len : Nat) : Bridge :=
  match s.visits v with
  | none => { s with reader := .reading }
  | some visit =>
      if visit.receiving then
        { s.change v fun visit => { visit with queue := visit.queue ++ [len] } with reader := .reading }
      else { s.starts v true with reader := .dropping v len .channel }

/-- `try_hold` where it succeeds, and the send that follows. -/
def hold (s : Bridge) (v len : Nat) (empty : Bool) : Bridge :=
  ((((s.take v len .channel).take v len .bridge).take v len .machine).starts v empty).send v len

/-- `waiting` is dropped, which acquires this budget next. -/
def dropWaiting (s : Bridge) (wait : Wait) : Budget → Bridge
  | .channel => s
  | .bridge => s.give wait.visit wait.len .channel
  | .machine => (s.give wait.visit wait.len .channel).give wait.visit wait.len .bridge

/-- `data` -/
def data (s : Bridge) (conn len : Nat) : Bridge :=
  match s.table.lookup conn with
  | none => s
  | some v => match s.visits v with
      | none => s
      | some visit =>
          let empty := decide (visit.budget = channelBudget)
          if s.fits v len then s.hold v len empty
          else { s.starts v empty with
            reader := .waiting { conn := conn, visit := v, len := len, empty := empty, since := s.clock } .channel }

/-- The test of `reset_stalled`. -/
def isStalled (s : Bridge) (now v : Nat) : Bool :=
  match s.visits v with
  | none => false
  | some visit => decide (visit.budget < channelBudget ∧ stallMs ≤ now - visit.drainedAt)

/-- `reset`, up to its send. -/
def reset (s : Bridge) (conn v : Nat) : Bridge := (s.unmap conn).change v fun visit => visit.finish .backpressure

/-- Somebody holds the lock of `channels` while others run. -/
def locked (s : Bridge) : Bool :=
  match s.reader with
  | .looking _ _ _ _ => true
  | _ => false

def acquire (s : Bridge) : Option Bridge :=
  match s.reader with
  | .waiting wait next => match s.visits wait.visit with
      | none => none
      | some visit =>
          if wait.len ≤ s.available visit next then
            match following next with
            | some after => some { s.take wait.visit wait.len next with reader := .waiting wait after }
            | none => some ((s.take wait.visit wait.len next).send wait.visit wait.len)
          else none
  | _ => none

/-- `reset_stalled` looks at the next connection, or has looked at all. -/
def look (s : Bridge) : Option Bridge :=
  match s.reader with
  | .looking wait now ((conn, v) :: left) found =>
      let found := if s.isStalled now v then found ++ [(conn, v)] else found
      some { s with reader := .looking wait now left found }
  | .looking wait _ [] found => some { s with reader := .resetting wait found }
  | _ => none

/-- What follows `reset_stalled`. -/
def retry (s : Bridge) : Option Bridge :=
  match s.reader with
  | .resetting wait [] =>
      if (s.table.lookup wait.conn).isNone then some { s with reader := .reading }
      else if s.fits wait.visit wait.len then some (s.hold wait.visit wait.len wait.empty)
      else some { s.reset wait.conn wait.visit with reader := .givingUp }
  | _ => none

def route (s : Bridge) (conn : Nat) : Bridge :=
  { s with
    visits := fun v => if v = s.routed then some { drainedAt := s.clock } else s.visits v
    routed := s.routed + 1
    table := (conn, s.routed) :: s.table }

end Bridge

def step (e : Event) (s : Bridge) : Option Bridge :=
  match e with
  | .tick ms => some { s with clock := s.clock + ms }
  | .machine buffer => some { s with buffer := buffer }
  | .route conn => if s.locked ∨ (s.table.lookup conn).isSome then none else some (s.route conn)
  | .unroute conn => if s.locked then none else some (s.unmap conn)
  | .finish v outcome =>
      if outcome = .backpressure then none else some (s.change v fun visit => visit.finish outcome)
  | .task v act => match s.visits v with
      | none => none
      | some visit => (visit.act s.clock act).map fun visit' =>
          (s.change v fun _ => visit').giveShared (visit.released act)
  | .data conn len => match s.reader with
      | .reading => some (s.data conn len)
      | _ => none
  | .acquire => s.acquire
  | .deadline => match s.reader with
      | .waiting wait next =>
          if wait.since + stallMs ≤ s.clock then some { s.dropWaiting wait next with reader := .stalled wait } else none
      | _ => none
  | .cancelled => match s.reader with
      | .waiting wait next => some { s.dropWaiting wait next with reader := .reading }
      | _ => none
  | .scan order => match s.reader with
      | .stalled wait => if order.isPerm s.table then some { s with reader := .looking wait s.clock order [] } else none
      | _ => none
  | .look => s.look
  | .reset => match s.reader with
      | .resetting wait ((conn, v) :: found) => some { s.reset conn v with reader := .sending wait found }
      | _ => none
  | .sent => match s.reader with
      | .sending wait found => some { s with reader := .resetting wait found }
      | .givingUp => some { s with reader := .reading }
      | _ => none
  | .retry => s.retry
  | .dropped => match s.reader with
      | .dropping v len next => some { s.give v len next with
          reader := match following next with
            | some next => .dropping v len next
            | none => .reading }
      | _ => none

end OpenTunnel.Backpressure
