/-
Module: OpenTunnel.Model.Download
Layer: Model
Purpose: One bridge's data from the client to its visitors (`bridge.rs`, `relay.rs`, the `Finish` of `service.rs`). The
  session's reader takes the client's frames one by one, holds a share of three budgets for each data frame and queues
  it for its connection; every connection has a task that writes its queue to the visitor. A `select!` with several
  branches ready takes any of them. Times are left to the scheduler: when a wait has lasted too long, and which
  visitors took nothing for so long.
Imports: OpenTunnel.Formats.BigEndian, OpenTunnel.Tasks.System
Trusted boundary: none (fully proved)
Main exports: ClientFrame, Channel, Session, DownAct, Session.exec, Session.move, read, data, holdInbound, download,
  downloads
Open obligations: none
-/
import OpenTunnel.Formats.BigEndian
import OpenTunnel.Tasks.System

namespace OpenTunnel.Download

open Tasks (Prog)

/-! ### Constants (`bridge.rs`) -/

def channelBudget : Nat := 512 * 1024
def bridgeBudget : Nat := 4 * 1024 * 1024

/-! ### Connections -/

/-- What the client sends once its bridge is attached: data, an end or a reset for a connection, or anything else. -/
inductive ClientFrame where
  | data (conn : Nat) (payload : Bytes)
  | end_ (conn : Nat)
  | reset (conn : Nat)
  | other
deriving DecidableEq, Repr

inductive Inbound where
  | data (payload : Bytes)
  | end_
deriving DecidableEq, Repr

inductive Outcome where
  | closed
  | reset
  | bridgeDisconnected
  | deleted
  | backpressure
  | clientError
deriving DecidableEq, Repr

/-- A public connection: its `ChannelHandle` with the `Finish`, the receiving end of its queue, and its visitor. -/
structure Channel where
  conn : Nat
  queue : List Inbound := []
  /-- the visitor's task still has the receiver -/
  receiving : Bool := true
  outcome : Option Outcome := none
  abort : Bool := false
  /-- clones of the handle outside the bridge's table -/
  handles : Nat := 0
  /-- what is left of the connection's budget, and the share of the data being written -/
  budget : Nat := channelBudget
  writing : Nat := 0
  /-- what the visitor's socket took, and whether its write side was shut down -/
  written : Bytes := []
  halfClosed : Bool := false
  /-- the data frames the client sent for it so far, each with whether it was queued -/
  frames : List (Bytes × Bool) := []
  /-- how many of them came before the client's end, once that is queued -/
  ended : Option Nat := none
deriving DecidableEq, Repr

/-- `Finish::finish` -/
def Channel.finish (ch : Channel) (outcome : Outcome) (abort : Bool) : Channel :=
  if ch.outcome.isSome then ch else { ch with outcome := some outcome, abort := ch.abort || abort }

def Inbound.length : Inbound → Nat
  | .data payload => payload.length
  | .end_ => 0

/-- The shares of what is queued or being written. -/
def Channel.waiting (ch : Channel) : Nat := (ch.queue.map (·.length)).sum + ch.writing

/-- The bridge of a session. Connections are listed in the order they were routed; `channels` is the bridge's table by
    connection number, `numbers` the connection that was last given a number. -/
structure Session where
  visitors : Nat → Option Channel := fun _ => none
  opened : Nat := 0
  channels : Nat → Option Nat := fun _ => none
  numbers : Nat → Option Nat := fun _ => none
  serverClose : Bool := false
  cancelled : Bool := false
  /-- the reader dropped data because the session was cancelled -/
  gaveUp : Bool := false
  inboundBudget : Nat := bridgeBudget
  /-- what is left of the machine's budget, which other bridges use too -/
  buffer : Nat

inductive Budget where
  | channel
  | bridge
  | machine
deriving DecidableEq, Repr

namespace Session

def change (s : Session) (v : Nat) (f : Channel → Channel) : Session :=
  { s with visitors := fun v' => if v' = v then (s.visitors v).map f else s.visitors v' }

/-- Takes a number out of the bridge's table. -/
def unmap (s : Session) (conn : Nat) : Session :=
  { s with channels := fun n => if n = conn then none else s.channels n }

def available (s : Session) (ch : Channel) : Budget → Nat
  | .channel => ch.budget
  | .bridge => s.inboundBudget
  | .machine => s.buffer

def take (s : Session) (v len : Nat) : Budget → Session
  | .channel => s.change v fun ch => { ch with budget := ch.budget - len }
  | .bridge => { s with inboundBudget := s.inboundBudget - len }
  | .machine => { s with buffer := s.buffer - len }

def give (s : Session) (v len : Nat) : Budget → Session
  | .channel => s.change v fun ch => { ch with budget := ch.budget + len }
  | .bridge => { s with inboundBudget := s.inboundBudget + len }
  | .machine => { s with buffer := s.buffer + len }

def budgets : List Budget := [.channel, .bridge, .machine]

def giveAll (s : Session) (v len : Nat) : Session := budgets.foldl (fun s part => s.give v len part) s

/-- The receiver of a connection's queue is dropped, with everything in it. -/
def hangUp (s : Session) (v : Nat) (ch : Channel) : Session :=
  (s.giveAll v ch.waiting).change v fun ch => { ch with receiving := false, queue := [], writing := 0 }

end Session

/-! ### Acts -/

inductive Waited where
  | acquired
  | stalled
  | cancelled
deriving DecidableEq, Repr

/-- What the `select!` of a download took. -/
inductive Received where
  | aborted
  | item (item : Option Inbound)
deriving DecidableEq, Repr

inductive Wrote where
  | took (count : Nat)
  | failed
  | aborted
deriving DecidableEq, Repr

inductive DownAct where
  -- the reader
  | receive (frame : ClientFrame)
  | closing
  | channel (conn : Nat) (payload : Bytes)
  | release (v : Nat)
  | tryHold (v len : Nat)
  | acquire (part : Budget) (v len : Nat)
  | giveBack (parts : List Budget) (v len : Nat)
  | stalled
  | carries (conn : Nat)
  | reset (conn v : Nat)
  | send
  | queue (v : Nat) (payload : Bytes)
  | dropped (conn : Nat) (payload : Bytes)
  | endChannel (conn : Nat)
  | resetChannel (conn : Nat)
  -- a download
  | recv (v : Nat)
  | write (v : Nat) (data : Bytes)
  | drained (v : Nat)
  | fail (v : Nat)
  | shutdown (v : Nat)
  | hangUp (v : Nat)

@[reducible] def DownAct.Ans : DownAct → Type
  | .receive _ => Bool
  | .closing => Bool
  | .channel .. => Option Nat
  | .tryHold .. => Bool
  | .acquire .. => Waited
  | .stalled => List (Nat × Nat)
  | .carries _ => Bool
  | .recv _ => Received
  | .write .. => Wrote
  | _ => Unit

/-- Which branch of a `select!` is taken, what a socket does, and which visitors took nothing for long. -/
structure DownChoice where
  cancel : Bool := false
  waited : Waited := .acquired
  stalled : List Nat := []
  aborts : Bool := false
  wrote : Wrote := .failed

namespace Session

/-- A data frame of the number is not queued. -/
def drop (s : Session) (conn : Nat) (payload : Bytes) : Session :=
  match s.numbers conn with
  | none => s
  | some v => s.change v fun ch => { ch with frames := ch.frames ++ [(payload, false)] }

/-- The connections `reset_stalled` collects, of those that took nothing for long: the ones with data waiting. -/
def stalled (s : Session) (conns : List Nat) : List (Nat × Nat) :=
  conns.filterMap fun conn => (s.channels conn).bind fun v => (s.visitors v).bind fun ch =>
    if ch.budget < channelBudget then some (conn, v) else none

/-- `channel.inbound.send` of data: a visitor that is gone drops it and its share. -/
def queue (s : Session) (v : Nat) (payload : Bytes) : Session :=
  match s.visitors v with
  | none => s
  | some ch =>
      if ch.receiving then
        s.change v fun ch => { ch with queue := ch.queue ++ [.data payload], frames := ch.frames ++ [(payload, true)] }
      else
        (s.giveAll v payload.length).change v fun ch => { ch with frames := ch.frames ++ [(payload, false)] }

/-- An act of a download whose task still runs. -/
def receiving {α : Type} (s : Session) (v : Nat) (run : Channel → Option (α × Session)) : Option (α × Session) :=
  match s.visitors v with
  | none => none
  | some ch => if ch.receiving then run ch else none

def exec : (op : DownAct) → DownChoice → Session → Option (op.Ans × Session)
  | .receive _, c, s =>
      if c.cancel then if s.cancelled then some (false, s) else none
      else some (true, s)
  | .closing, _, s => some (s.serverClose, s)
  | .channel conn payload, _, s =>
      match s.channels conn with
      | none => some (none, s.drop conn payload)
      | some v => some (some v, s.change v fun ch => { ch with handles := ch.handles + 1 })
  | .release v, _, s => some ((), s.change v fun ch => { ch with handles := ch.handles - 1 })
  | .tryHold v len, _, s =>
      match s.visitors v with
      | none => none
      | some ch =>
          if budgets.all fun part => decide (len ≤ s.available ch part) then
            some (true, budgets.foldl (fun s part => s.take v len part) s)
          else some (false, s)
  | .acquire part v len, c, s =>
      match s.visitors v, c.waited with
      | none, _ => none
      | some ch, .acquired => if len ≤ s.available ch part then some (.acquired, s.take v len part) else none
      | some _, .stalled => some (.stalled, s)
      | some _, .cancelled => if s.cancelled then some (.cancelled, { s with gaveUp := true }) else none
  | .giveBack parts v len, _, s => some ((), parts.foldl (fun s part => s.give v len part) s)
  | .stalled, c, s =>
      let found := s.stalled c.stalled
      some (found, found.foldl (fun s found => s.change found.2 fun ch => { ch with handles := ch.handles + 1 }) s)
  | .carries conn, _, s => some ((s.channels conn).isSome, s)
  | .reset conn v, _, s => some ((), (s.unmap conn).change v fun ch => ch.finish .backpressure true)
  | .send, _, s => some ((), s)
  | .queue v payload, _, s => some ((), s.queue v payload)
  | .dropped conn payload, _, s => some ((), s.drop conn payload)
  | .endChannel conn, _, s =>
      match s.channels conn with
      | none => some ((), s)
      | some v => some ((), (s.unmap conn).change v fun ch =>
          let ch := ch.finish .closed false
          if ch.receiving then { ch with queue := ch.queue ++ [.end_], ended := some ch.frames.length } else ch)
  | .resetChannel conn, _, s =>
      match s.channels conn with
      | none => some ((), s)
      | some v => some ((), (s.unmap conn).change v fun ch => ch.finish .reset true)
  | .recv v, c, s => s.receiving v fun ch =>
      if c.aborts then if ch.abort then some (.aborted, s) else none
      else match ch.queue with
        | item :: rest =>
            some (.item (some item), s.change v fun ch => { ch with queue := rest, writing := item.length })
        | [] => if s.channels ch.conn ≠ some v ∧ ch.handles = 0 then some (.item none, s) else none
  | .write v data, c, s => s.receiving v fun ch =>
      match c.wrote with
      | .took count =>
          if 0 < count ∧ count ≤ data.length then
            some (.took count, s.change v fun ch => { ch with written := ch.written ++ data.take count })
          else none
      | .failed => some (.failed, s)
      | .aborted => if ch.abort then some (.aborted, s) else none
  | .drained v, _, s => s.receiving v fun ch =>
      some ((), (s.giveAll v ch.writing).change v fun ch => { ch with writing := 0 })
  | .fail v, _, s => s.receiving v fun ch =>
      some ((), (s.unmap ch.conn).change v fun ch => ch.finish .clientError true)
  | .shutdown v, _, s => s.receiving v fun _ =>
      some ((), s.change v fun ch => { ch with halfClosed := true })
  | .hangUp v, _, s => s.receiving v fun ch => some ((), s.hangUp v ch)

end Session

/-! ### What happens around the reader and the downloads -/

/-- A connection is routed and given a number; its upload fails on the visitor's or the bridge's side; it is idle for too
    long, or the machine that forwarded it is gone; both its directions are over. The bridge's connections are finished
    (the session ended, the bridge was silent, the tunnel was deleted), the server closes the session, the session is
    cancelled, and other bridges take and give back shares of the machine's budget. -/
inductive DownMove where
  | route (conn : Nat)
  | uploadFails (v : Nat)
  | uploadCut (v : Nat)
  | idle (v : Nat)
  | refused (v : Nat)
  | over (v : Nat)
  | finishChannels (outcome : Outcome)
  | serverClose
  | cancel
  | machine (buffer : Nat)
deriving DecidableEq, Repr

namespace Session

/-- `route`: the number is not 0 and no open channel's. -/
def route (s : Session) (conn : Nat) : Option Session :=
  if conn ≠ 0 ∧ conn < 2 ^ 32 ∧ s.channels conn = none then
    some { s with
      visitors := fun v => if v = s.opened then some { conn := conn } else s.visitors v
      opened := s.opened + 1
      channels := fun n => if n = conn then some s.opened else s.channels n
      numbers := fun n => if n = conn then some s.opened else s.numbers n }
  else none

/-- `finish_channels` -/
def finishChannels (s : Session) (outcome : Outcome) : Session :=
  { s with
    channels := fun _ => none
    visitors := fun v => (s.visitors v).map fun ch =>
      if s.channels ch.conn = some v then ch.finish outcome true else ch }

def move : DownMove → Session → Option Session
  | .route conn, s => s.route conn
  | .uploadFails v, s => (s.visitors v).map fun ch => (s.unmap ch.conn).change v fun ch => ch.finish .clientError true
  | .uploadCut v, s => some (s.change v fun ch => ch.finish .bridgeDisconnected true)
  | .idle v, s => (s.visitors v).map fun ch => ((s.giveAll v ch.waiting).unmap ch.conn).change v fun ch =>
      { ch.finish .clientError true with receiving := false, queue := [], writing := 0 }
  | .refused v, s => (s.visitors v).map fun ch => ((s.giveAll v ch.waiting).unmap ch.conn).change v fun ch =>
      { ch with receiving := false, queue := [], writing := 0 }
  | .over v, s =>
      match s.visitors v with
      | none => none
      | some ch =>
          if ch.receiving then none else some ((s.unmap ch.conn).change v fun ch => ch.finish .closed false)
  | .finishChannels outcome, s => some (s.finishChannels outcome)
  | .serverClose, s => some { s with serverClose := true }
  | .cancel, s => some { s with cancelled := true }
  | .machine buffer, s => some { s with buffer := buffer }

end Session

/-! ### The reader (`bridge.rs`) -/

abbrev DownProg := Prog DownAct DownAct.Ans

def act (op : DownAct) : DownProg op.Ans := Prog.act op

/-- The `waiting` of `hold_inbound`: one budget after the other. What was taken is given back when it ends early. -/
def acquireAll (v len : Nat) (held : List Budget) : List Budget → DownProg Waited
  | [] => return .acquired
  | part :: rest => do
      match ← act (.acquire part v len) with
      | .acquired => acquireAll v len (part :: held) rest
      | ended =>
          act (.giveBack held v len)
          return ended

/-- `reset` -/
def reset (conn v : Nat) : DownProg Unit := do
  act (.reset conn v)
  act .send

/-- The loop of `reset_stalled`. -/
def resetAll : List (Nat × Nat) → DownProg Unit
  | [] => return
  | (conn, v) :: rest => do
      reset conn v
      act (.release v)
      resetAll rest

/-- `hold_inbound` -/
def holdInbound (conn v len : Nat) : DownProg Bool := do
  if ← act (.tryHold v len) then
    return true
  match ← acquireAll v len [] Session.budgets with
  | .acquired => return true
  | .cancelled => return false
  | .stalled =>
      let stalled ← act .stalled
      resetAll stalled
      if !(← act (.carries conn)) then
        return false
      if ← act (.tryHold v len) then
        return true
      reset conn v
      return false

/-- `data` -/
def data (conn : Nat) (payload : Bytes) : DownProg Unit := do
  match ← act (.channel conn payload) with
  | none => return
  | some v =>
      if ← holdInbound conn v payload.length then
        act (.queue v payload)
      else
        act (.dropped conn payload)
      act (.release v)

/-- What the reader does with a frame of an open session. -/
def handle : ClientFrame → DownProg Unit
  | .data conn payload => data conn payload
  | .end_ conn => act (.endChannel conn)
  | .reset conn => act (.resetChannel conn)
  | .other => return

/-- What the reader does with a frame once the server has closed the session: nothing. -/
def skip : ClientFrame → DownProg Unit
  | .data conn payload => act (.dropped conn payload)
  | _ => return

/-- `read`, of the frames the client sends. -/
def read : List ClientFrame → DownProg Unit
  | [] => return
  | frame :: rest => do
      if ← act (.receive frame) then
        if ← act .closing then
          skip frame
        else
          handle frame
        read rest

/-! ### A download (`relay.rs`) -/

/-- `write_watched`, for as many writes as there are before the process is stopped; answers how it ended. -/
def writeWatched (v : Nat) : Nat → Bytes → DownProg (Option Wrote)
  | 0, _ => return none
  | _ + 1, [] => return some (.took 0)
  | writes + 1, data => do
      match ← act (.write v data) with
      | .took count => writeWatched v writes (data.drop count)
      | ended => return some ended

/-- `download`, for as many rounds as there are before the process is stopped. -/
def download (v : Nat) : Nat → DownProg Unit
  | 0 => return
  | rounds + 1 => do
      match ← act (.recv v) with
      | .aborted => act (.hangUp v)
      | .item (some (.data payload)) =>
          match ← writeWatched v rounds payload with
          | none => return
          | some (.took _) =>
              act (.drained v)
              download v rounds
          | some .failed =>
              act (.drained v)
              act (.fail v)
              act (.hangUp v)
          | some .aborted => act (.hangUp v)
      | .item _ =>
          act (.shutdown v)
          act (.hangUp v)

/-! ### The session -/

/-- The reader, and the download of each connection. -/
inductive DownTask where
  | reader
  | visitor (v : Nat)
deriving DecidableEq, Repr

inductive DownJob where
  | read (frames : List ClientFrame)
  | download (rounds : Nat)
deriving DecidableEq, Repr

def downloads : Tasks.Semantics DownTask DownAct DownAct.Ans Session DownJob where
  Choice := DownChoice
  Move := DownMove
  exec := fun _ op c s => Session.exec op c s
  move := Session.move
  program := fun t job =>
    match t, job with
    | .reader, .read frames => read frames
    | .visitor v, .download rounds => download v rounds
    | _, _ => .ret ()

end OpenTunnel.Download
