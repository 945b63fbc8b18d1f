/-
Module: OpenTunnel.Model.ConnIds
Layer: Model
Purpose: The numbers of public connections (the loop of `route` in `service.rs`). `route` looks for a number and registers
  its connection under the tunnel's lock, which bridges come and go under too; each bridge's table of channels has a lock
  of its own, so that connections of other numbers end between any two looks.
Imports: Mathlib.Algebra.GroupWithZero.Nat
Trusted boundary: none (fully proved)
Main exports: ConnIds.State, ConnIds.Event, ConnIds.State.step, ConnIds.State.run
Open obligations: none
-/
import Mathlib.Algebra.GroupWithZero.Nat

namespace OpenTunnel.ConnIds

/-- A bridge that the tunnel lists, and its table of channels: the connection that has a number. -/
structure Bridge where
  id : Nat
  channels : List (UInt32 × Nat) := []
deriving DecidableEq, Repr

/-- `contains_key` -/
def Bridge.holds (bridge : Bridge) (conn : UInt32) : Bool := bridge.channels.any fun channel => channel.1 = conn

/-- `remove` -/
def Bridge.remove (bridge : Bridge) (conn : UInt32) : Bridge :=
  { bridge with channels := bridge.channels.filter fun channel => channel.1 ≠ conn }

/-- `insert`, which replaces the channel of the same number. -/
def Bridge.insert (bridge : Bridge) (conn : UInt32) (connection : Nat) : Bridge :=
  { bridge with channels := (conn, connection) :: (bridge.remove conn).channels }

/-- Where the loop is. -/
inductive Phase where
  /-- The next candidate is taken. -/
  | next
  /-- These bridges are still to be asked for the candidate. -/
  | checking (candidate : UInt32) (unasked : List Nat)
  /-- The loop ended. -/
  | found (conn : UInt32)
deriving DecidableEq, Repr

/-- A `route` that holds the tunnel's lock, for a connection that a bridge takes. -/
structure Routing where
  bridge : Nat
  connection : Nat
  phase : Phase := .next
deriving DecidableEq, Repr

structure State where
  sequence : UInt32 := 0
  bridges : List Bridge := []
  routing : Option Routing := none
deriving DecidableEq, Repr

inductive Event where
  /-- `route` has the lock and picked a bridge. -/
  | route (bridge connection : Nat)
  /-- `route` goes one step on. -/
  | advance
  /-- A connection leaves its bridge's table. -/
  | ended (bridge : Nat) (conn : UInt32)
  /-- `finish_channels` -/
  | finished (bridge : Nat)
  /-- A bridge registers. -/
  | registered (bridge : Nat)
  /-- A bridge is no longer listed. -/
  | gone (bridge : Nat)
deriving DecidableEq, Repr

namespace State

/-- Changes a bridge that is listed. -/
def onBridge (s : State) (id : Nat) (change : Bridge → Bridge) : State :=
  { s with bridges := s.bridges.map fun bridge => if bridge.id = id then change bridge else bridge }

/-- A bridge that is listed holds the number. -/
def used (s : State) (id : Nat) (conn : UInt32) : Bool := s.bridges.any fun bridge => bridge.id = id && bridge.holds conn

/-- A step of the loop, or the registration after it. -/
def advance (s : State) (routing : Routing) : State :=
  match routing.phase with
  | .next =>
      let candidate := s.sequence
      { s with
        sequence := s.sequence + 1
        routing := some { routing with
          phase := if candidate ≠ 0 then .checking candidate (s.bridges.map Bridge.id) else .next } }
  | .checking candidate [] => { s with routing := some { routing with phase := .found candidate } }
  | .checking candidate (id :: unasked) =>
      { s with routing := some { routing with
          phase := if s.used id candidate then .next else .checking candidate unasked } }
  | .found conn => { s.onBridge routing.bridge (·.insert conn routing.connection) with routing := none }

def step (s : State) : Event → State
  | .route bridge connection =>
      if s.routing = none ∧ s.bridges.any (fun listed => listed.id = bridge) then
        { s with routing := some { bridge := bridge, connection := connection } }
      else s
  | .advance =>
      match s.routing with
      | some routing => s.advance routing
      | none => s
  | .ended bridge conn => s.onBridge bridge (·.remove conn)
  | .finished bridge => s.onBridge bridge fun bridge => { bridge with channels := [] }
  | .registered bridge =>
      if s.routing = none ∧ ¬ s.bridges.any (fun listed => listed.id = bridge) then
        { s with bridges := s.bridges ++ [{ id := bridge }] }
      else s
  | .gone bridge =>
      if s.routing = none then { s with bridges := s.bridges.filter fun listed => listed.id ≠ bridge } else s

def run (s : State) (events : List Event) : State := events.foldl step s

/-- The open channels of the tunnel's bridges. -/
def channelCount (s : State) : Nat := (s.bridges.map fun bridge => bridge.channels.length).sum

end State

end OpenTunnel.ConnIds
