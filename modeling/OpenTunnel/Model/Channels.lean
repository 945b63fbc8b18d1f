/-
Module: OpenTunnel.Model.Channels
Layer: Model
Purpose: The client's end of a bridge (`session`, `deliver`, `stalled` and `run_channel` of `tunnel.rs`) behind the
  server's (`Model.Relay`), as a machine whose events are the pieces between two awaits. The session reads the messages
  that the server's writer took, in their order, and waits while a connection's queue is full. A connection's `receive`
  task moves its queue into a pipe that the TLS side reads. Aborting a task lets it run until its next await; the
  `receive` task is a task of its own, which ends by itself. What the client sends is left to the server's events.
Imports: OpenTunnel.Model.Relay
Trusted boundary: none (fully proved)
Main exports: Channels.Channel, Channels.State, Channels.Event, Channels.State.step
Open obligations: none
-/
import OpenTunnel.Model.Relay

namespace OpenTunnel.Channels

open Relay (Outbound Carrier)

/-! ### Constants (`tunnel.rs`) -/

def maxConns : Nat := 256
def inboundQueue : Nat := 64
def duplexBuffer : Nat := 64 * 1024

/-! ### Connections -/

/-- What `deliver` queues for a connection. -/
inductive Inbound where
  | data (payload : Bytes)
  | end_
deriving DecidableEq, Repr

/-- Where the `receive` task is: at the queue, in `write_all` with this left, past the shutdown, or failed or aborted. -/
inductive Receive where
  | receiving
  | writing (rest : Bytes)
  | shut
  | gone
deriving DecidableEq, Repr

/-- Where `run_channel` is: running, returned, taken by the session after it returned, or cancelled. -/
inductive Task where
  | running
  | returned
  | joined
  | cancelled
deriving DecidableEq, Repr

/-- A connection that the client accepted, with the state of its `run_channel`. -/
structure Channel where
  /-- the public connection that its `open` was for -/
  visit : Option Nat
  conn : Nat
  inbound : List Inbound := []
  receive : Receive := .receiving
  /-- what was written to the pipe and not yet read -/
  pipe : Bytes := []
  /-- the TLS side is there -/
  serving : Bool := true
  /-- what the TLS side read -/
  read : Bytes := []
  /-- the TLS side read the end of the stream -/
  ended : Bool := false
  task : Task := .running
  /-- the session aborted its task -/
  aborted : Bool := false
deriving DecidableEq, Repr

namespace Channel

/-- `run_channel` may still return. -/
def active (channel : Channel) : Bool := channel.task = .running || channel.task = .returned

/-- The queue's receiver was dropped. -/
def closed (channel : Channel) : Bool := channel.receive = .shut || channel.receive = .gone

/-- `write_all` goes on with what is left, or is done. -/
def writes (channel : Channel) (rest : Bytes) : Channel :=
  { channel with receive := if rest = [] then .receiving else .writing rest }

end Channel

/-- The server's end and the client's. `taken` messages were read by the session; `channels` is its table by connection
    number. -/
structure State where
  server : Carrier := {}
  taken : Nat := 0
  channels : Nat → Option Nat := fun _ => none
  opened : Nat := 0
  locals : Nat → Option Channel := fun _ => none
  /-- the session ended -/
  finished : Bool := false

inductive Event where
  | server (event : Relay.Event)
  -- the session
  | reads (routed stalls : Bool)
  | joins (i : Nat)
  | ends
  -- a connection's tasks
  | receives (i : Nat)
  | writes (i count : Nat)
  | breaks (i : Nat)
  | tlsReads (i count : Nat)
  | tlsEnds (i : Nat)
  | leaves (i : Nat)
  | returns (i : Nat)
  | cancelled (i : Nat)
deriving DecidableEq, Repr

namespace State

def change (s : State) (i : Nat) (f : Channel → Channel) : State :=
  { s with locals := fun i' => if i' = i then (s.locals i).map f else s.locals i' }

/-- `channels.remove` -/
def unmap (s : State) (conn : Nat) : State :=
  { s with channels := fun n => if n = conn then none else s.channels n }

/-- A connection that is in the table. -/
def tabled (s : State) (i : Nat) : Bool := (s.locals i).any fun channel => s.channels channel.conn = some i

/-- `channels.len` -/
def connections (s : State) : Nat := ((List.range s.opened).filter s.tabled).length

/-- The next message for the session. -/
def next (s : State) : Option (Option Nat × Outbound) :=
  if s.taken < s.server.written then s.server.queued[s.taken]? else none

def abort (s : State) (conn i : Nat) : State := (s.unmap conn).change i fun channel => { channel with aborted := true }

/-- `deliver`, and `stalled` when it gave up waiting. -/
def deliver (s : State) (conn i : Nat) (channel : Channel) (item : Inbound) (stalls : Bool) : Option State :=
  if channel.closed then some s
  else if channel.inbound.length < inboundQueue then
    some (s.change i fun channel => { channel with inbound := channel.inbound ++ [item] })
  else if stalls then some (s.abort conn i)
  else none

/-- An item for the connection that the table has under the number. -/
def item (s : State) (conn : Nat) (item : Inbound) (stalls : Bool) : Option State :=
  match s.channels conn with
  | some i =>
      match s.locals i with
      | some channel => s.deliver conn i channel item stalls
      | none => none
  | none => some s

/-- `Open` with a known route: refused at the limit, otherwise in the place of what the table had. -/
def accept (s : State) (visit : Option Nat) (conn : Nat) : State :=
  if maxConns ≤ s.connections then s
  else
    { s with
      channels := fun n => if n = conn then some s.opened else s.channels n
      opened := s.opened + 1
      locals := fun i => if i = s.opened then some { visit := visit, conn := conn } else s.locals i }

/-- A message that the session read. -/
def handle (s : State) (routed stalls : Bool) : Option Nat × Outbound → Option State
  | (visit, .open_ conn) => some (if routed then s.accept visit conn else s)
  | (_, .data conn payload) => s.item conn (.data payload) stalls
  | (_, .end_ conn) => s.item conn .end_ stalls
  | (_, .reset conn) =>
      match s.channels conn with
      | some i => some (s.abort conn i)
      | none => some s
  | (_, .other) => some s

/-- An event of a connection's tasks. -/
def onChannel (s : State) (i : Nat) (run : Channel → Option Channel) : Option State :=
  match s.locals i with
  | some channel => (run channel).map fun after => s.change i fun _ => after
  | none => none

def step : Event → State → Option State
  | .server event, s => (s.server.step event).map fun server => { s with server := server }
  | .reads routed stalls, s =>
      if s.finished then none
      else
        match s.next with
        | some message => (s.handle routed stalls message).map fun s => { s with taken := s.taken + 1 }
        | none => none
  | .joins i, s =>
      match s.locals i with
      | some channel =>
          if !s.finished && channel.task = .returned then
            some ((s.unmap channel.conn).change i fun channel => { channel with task := .joined })
          else none
      | none => none
  | .ends, s =>
      some { s with
        finished := true
        channels := fun _ => none
        locals := fun i => (s.locals i).map fun channel => { channel with aborted := channel.aborted || channel.active } }
  | .receives i, s => s.onChannel i fun channel =>
      if channel.receive = .receiving then
        match channel.inbound with
        | .data payload :: rest => some ({ channel with inbound := rest }.writes payload)
        | .end_ :: rest => some { channel with inbound := rest, receive := .shut }
        | [] => if s.channels channel.conn ≠ some i then some { channel with receive := .shut } else none
      else none
  | .writes i count, s => s.onChannel i fun channel =>
      match channel.receive with
      | .writing rest =>
          if channel.serving ∧ 0 < count ∧ count ≤ rest.length ∧ channel.pipe.length + count ≤ duplexBuffer then
            some ({ channel with pipe := channel.pipe ++ rest.take count }.writes (rest.drop count))
          else none
      | _ => none
  | .breaks i, s => s.onChannel i fun channel =>
      match channel.receive with
      | .writing _ => if !channel.serving then some { channel with receive := .gone } else none
      | _ => none
  | .tlsReads i count, s => s.onChannel i fun channel =>
      if channel.serving ∧ 0 < count ∧ count ≤ channel.pipe.length then
        some { channel with read := channel.read ++ channel.pipe.take count, pipe := channel.pipe.drop count }
      else none
  | .tlsEnds i, s => s.onChannel i fun channel =>
      if channel.serving ∧ channel.receive = .shut ∧ channel.pipe = [] then some { channel with ended := true } else none
  | .leaves i, s => s.onChannel i fun channel => some { channel with serving := false }
  | .returns i, s => s.onChannel i fun channel =>
      if channel.task = .running ∧ channel.serving = false then
        some { channel with
          task := .returned
          receive := if channel.receive = .shut then .shut else .gone }
      else none
  | .cancelled i, s => s.onChannel i fun channel =>
      if channel.aborted ∧ channel.task = .running then some { channel with serving := false, task := .cancelled } else none

end State

end OpenTunnel.Channels
