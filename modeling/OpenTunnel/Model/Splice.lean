/-
Module: OpenTunnel.Model.Splice
Layer: Model
Purpose: A visitor's connection carried to another machine (`Activity`, `splice` and `copy` of `net.rs`, `splice` of
  `cluster.rs`): two directions that share one note of when the connection last moved. Between two polls anything can
  come: bytes, an end, a failure of a socket, time.
Imports: OpenTunnel.Formats.BigEndian, OpenTunnel.Tasks.Steps
Trusted boundary: none (fully proved)
Main exports: Splice.Timeouts, Splice.Activity, Splice.Pipe, Splice.State, Splice.State.step, Splice.Timely
Open obligations: none
-/
import OpenTunnel.Formats.BigEndian
import OpenTunnel.Tasks.Steps

namespace OpenTunnel.Splice

/-- `COPY_BUFFER` -/
def copyBuffer : Nat := 32 * 1024

def millisecond : Nat := 1000000

/-- Durations, in nanoseconds. -/
structure Timeouts where
  idle : Nat
  halfClose : Nat

def Timeouts.default : Timeouts := { idle := 15 * 60 * 1000 * millisecond, halfClose := 60 * 1000 * millisecond }

/-! ### When it last moved -/

/-- Times are counted from its start: the clock in nanoseconds, `last` in milliseconds. -/
structure Activity where
  last : Nat := 0
  halfClosed : Bool := false
deriving DecidableEq, Repr

namespace Activity

def touch (activity : Activity) (clock : Nat) : Activity :=
  { activity with last := max activity.last (clock / millisecond) }

def halfClose (activity : Activity) (clock : Nat) : Activity :=
  { activity.touch clock with halfClosed := true }

def limit (activity : Activity) (timeouts : Timeouts) : Nat :=
  if activity.halfClosed then timeouts.halfClose else timeouts.idle

def deadline (activity : Activity) (timeouts : Timeouts) : Nat :=
  activity.last * millisecond + activity.limit timeouts

end Activity

/-! ### One direction -/

/-- Where `copy` waits. -/
inductive Stage where
  | reading
  | writing (left : Bytes)
  | shutting
  | done
deriving DecidableEq, Repr

namespace Stage

/-- What was read and is not written yet. -/
def held : Stage → Bytes
  | writing left => left
  | _ => []

/-- The end was read. -/
def closing : Stage → Bool
  | shutting => true
  | done => true
  | _ => false

end Stage

/-- A direction, between two sockets: what its sender gave (`given` counts all of it), and what its receiver was written. -/
structure Pipe where
  given : Bytes := []
  unread : Bytes := []
  ended : Bool := false
  stage : Stage := .reading
  written : Bytes := []
deriving DecidableEq, Repr

namespace Pipe

variable (pipe : Pipe)

/-- The sender's bytes come in, until it ends. -/
def arrive (bytes : Bytes) : Option Pipe :=
  if pipe.ended then none else some { pipe with given := pipe.given ++ bytes, unread := pipe.unread ++ bytes }

def finish : Option Pipe :=
  if pipe.ended then none else some { pipe with ended := true }

def read (n : Nat) : Option Pipe :=
  if pipe.stage = .reading ∧ 0 < n ∧ n ≤ copyBuffer ∧ n ≤ pipe.unread.length then
    some { pipe with unread := pipe.unread.drop n, stage := .writing (pipe.unread.take n) }
  else none

/-- A read of no bytes. -/
def readEnd : Option Pipe :=
  if pipe.stage = .reading ∧ pipe.unread = [] ∧ pipe.ended then some { pipe with stage := .shutting } else none

/-- One write of `write_all`. -/
def write (n : Nat) : Option Pipe :=
  match pipe.stage with
  | .writing left =>
      if 0 < n ∧ n ≤ left.length then
        some { pipe with written := pipe.written ++ left.take n,
                         stage := if left.drop n = [] then .reading else .writing (left.drop n) }
      else none
  | _ => none

def shutdown : Option Pipe :=
  if pipe.stage = .shutting then some { pipe with stage := .done } else none

end Pipe

/-! ### Both -/

inductive Direction where
  | forward
  | backward
deriving DecidableEq, Repr

/-- What `splice` returns. -/
inductive Outcome where
  | ok
  | failed
  | timedOut
deriving DecidableEq, Repr

/-- `splice` of `cluster.rs`: both sockets are reset after an error. -/
def Outcome.resets : Outcome → Bool
  | ok => false
  | failed => true
  | timedOut => true

/-- A connection; `expired` sleeps until `wake`. `moved` is the clock when the activity was last noted. -/
structure State where
  forward : Pipe := {}
  backward : Pipe := {}
  activity : Activity := {}
  clock : Nat := 0
  wake : Nat := 0
  outcome : Option Outcome := none
  moved : Nat := 0
deriving DecidableEq, Repr

inductive Event where
  | arrive (direction : Direction) (bytes : Bytes)
  | finish (direction : Direction)
  | read (direction : Direction) (n : Nat)
  | readEnd (direction : Direction)
  | write (direction : Direction) (n : Nat)
  | shutdown (direction : Direction)
  /-- A read, a write or the shutdown of this direction fails. -/
  | fail (direction : Direction)
  | tick (passed : Nat)
  /-- `expired` looks at the clock. -/
  | check
deriving DecidableEq, Repr

namespace State

def pipe (s : State) : Direction → Pipe
  | .forward => s.forward
  | .backward => s.backward

def setPipe (s : State) : Direction → Pipe → State
  | .forward, pipe => { s with forward := pipe }
  | .backward, pipe => { s with backward := pipe }

/-- A whole read was written. -/
def touch (s : State) : State := { s with activity := s.activity.touch s.clock, moved := s.clock }

def halfClose (s : State) : State := { s with activity := s.activity.halfClose s.clock, moved := s.clock }

/-- The end of the loop, or another turn of it: `expired` starts anew. -/
def turn (s : State) : State :=
  if s.forward.stage = .done ∧ s.backward.stage = .done then { s with outcome := some .ok }
  else { s with wake := min s.wake s.clock }

/-- A turn of the loop in `expired`, once it is awake. -/
def check (timeouts : Timeouts) (s : State) : Option State :=
  if s.clock < s.wake then none
  else if s.activity.deadline timeouts ≤ s.clock then some { s with outcome := some .timedOut }
  else some { s with wake := min (s.activity.deadline timeouts) (s.clock + timeouts.halfClose) }

/-- Nothing happens once it has returned. -/
def step (timeouts : Timeouts) (event : Event) (s : State) : Option State :=
  if s.outcome.isSome then none
  else
    match event with
    | .arrive direction bytes => ((s.pipe direction).arrive bytes).map (s.setPipe direction)
    | .finish direction => (s.pipe direction).finish.map (s.setPipe direction)
    | .read direction n => ((s.pipe direction).read n).map (s.setPipe direction)
    | .readEnd direction => (s.pipe direction).readEnd.map fun pipe => (s.setPipe direction pipe).halfClose
    | .write direction n =>
        ((s.pipe direction).write n).map fun pipe =>
          if pipe.stage = .reading then (s.setPipe direction pipe).touch else s.setPipe direction pipe
    | .shutdown direction => (s.pipe direction).shutdown.map fun pipe => (s.setPipe direction pipe).turn
    | .fail direction => if (s.pipe direction).stage = .done then none else some { s with outcome := some .failed }
    | .tick passed => some { s with clock := s.clock + passed }
    | .check => s.check timeouts

end State

/-- The time that an event takes. -/
def Event.passes : Event → Nat
  | tick passed => passed
  | _ => 0

/-- The task runs no later than that after its timer. -/
def Timely (slack : Nat) (event : Event) (s : State) : Prop :=
  event.passes = 0 ∨ s.clock + event.passes ≤ s.wake + slack

instance (slack : Nat) (event : Event) (s : State) : Decidable (Timely slack event s) :=
  inferInstanceAs (Decidable (_ ∨ _))

end OpenTunnel.Splice
