/-
Module: OpenTunnel.Model.Relay
Layer: Model
Purpose: The public connections one bridge carries (`route_tunnel`, `upload` and `download` of `relay.rs`, the control
  messages and backpressure resets of `bridge.rs`), as a machine whose events are the pieces between two awaits. The
  messages for the client's socket go through a queue of `OUTBOUND_QUEUE` places: `send` waits for a place, `try_send`
  drops the message when there is none. A `select!` with several branches ready takes any of them. Budgets and timers
  only decide when something happens and are left to the events; what the download writes is in `Model.Download`.
Imports: OpenTunnel.Model.Download
Trusted boundary: none (fully proved)
Main exports: Relay.Outbound, Relay.Visit, Relay.Carrier, Relay.Event, Relay.Carrier.step
Open obligations: none
-/
import OpenTunnel.Model.Download

namespace OpenTunnel.Relay

open Download (ClientFrame Inbound Outcome)

/-! ### Constants (`bridge.rs`, `protocol/bridge.rs`) -/

def outboundQueue : Nat := 256
def maxPayload : Nat := 32 * 1024

/-! ### Connections -/

/-- A message for the client's socket: one for a connection, or anything else. -/
inductive Outbound where
  | open_ (conn : Nat)
  | data (conn : Nat) (payload : Bytes)
  | end_ (conn : Nat)
  | reset (conn : Nat)
  | other
deriving DecidableEq, Repr

/-- Where `upload` is: in its first `select!`, in its second one, sending the `end`, or returned. -/
inductive Upload where
  | reading
  | sending (payload : Bytes)
  | ending
  | returned
deriving DecidableEq, Repr

/-- Where `download` is: in its first `select!`, in its second one, in the shutdown, or returned. -/
inductive Downloading where
  | receiving
  | writing (payload : Bytes)
  | shutting
  | returned
deriving DecidableEq, Repr

/-- The visitor's socket, and how it was dropped: with a clean close or with a reset. -/
inductive Socket where
  | connected
  | closed
  | reset
deriving DecidableEq, Repr

/-- What a connection had done when the client's reset was handled. -/
structure Mark where
  came : Nat
  uploads : Nat
deriving DecidableEq, Repr

/-- A public connection: the rest of `route_tunnel` once `route` answered a bridge. -/
structure Visit where
  conn : Nat
  /-- `open` was sent -/
  opened : Bool := false
  /-- what of the ClientHello is still to be sent -/
  hello : Bytes
  upload : Upload := .reading
  download : Downloading := .receiving
  inbound : List Inbound := []
  outcome : Option Outcome := none
  abort : Bool := false
  idled : Bool := false
  /-- it has its visitor slot -/
  carried : Bool := true
  socket : Socket := .connected
  /-- the bytes taken from the visitor's socket, the ClientHello first -/
  came : Bytes
  /-- the data frames that `upload` queued -/
  uploads : Nat := 0
  /-- the client sent `end` for it -/
  ended : Bool := false
  /-- the client sent `reset` for it while it was carried -/
  asked : Option Mark := none
  /-- how many messages had been queued when it stopped abnormally -/
  failedAt : Option Nat := none
deriving DecidableEq, Repr

/-- `Finish::finish` -/
def Visit.finish (visit : Visit) (outcome : Outcome) (abort : Bool) : Visit :=
  if visit.outcome.isSome then visit else { visit with outcome := some outcome, abort := visit.abort || abort }

/-- Both directions may run: `open` and the ClientHello were sent. -/
def Visit.carrying (visit : Visit) : Bool := visit.carried && visit.opened && visit.hello.isEmpty

/-- The bridge. `channels` is its table by connection number, `numbers` the connection that was last given a number;
    `queued` is everything ever put on the outbound queue, with the connection it is for, of which the writer took the
    first `written`. -/
structure Carrier where
  visits : Nat → Option Visit := fun _ => none
  routed : Nat := 0
  channels : Nat → Option Nat := fun _ => none
  numbers : Nat → Option Nat := fun _ => none
  queued : List (Option Nat × Outbound) := []
  written : Nat := 0
  /-- places that are promised to waiting senders which did not run yet -/
  promised : Nat := 0
  /-- the queue's receiver was dropped -/
  gone : Bool := false
  /-- the server sent a close -/
  closing : Bool := false
  /-- the connections the reader still has to reset for backpressure, and the one whose reset it is sending -/
  resetting : List Nat := []
  sending : Option Nat := none

namespace Carrier

def change (s : Carrier) (v : Nat) (f : Visit → Visit) : Carrier :=
  { s with visits := fun v' => if v' = v then (s.visits v).map f else s.visits v' }

/-- `channels.remove` -/
def unmap (s : Carrier) (conn : Nat) : Carrier :=
  { s with channels := fun n => if n = conn then none else s.channels n }

def push (s : Carrier) (v : Option Nat) (message : Outbound) : Carrier := { s with queued := s.queued ++ [(v, message)] }

def waiting (s : Carrier) : Nat := s.queued.length - s.written

/-- `tx.send`: waits for a place; answers whether the message was queued. -/
def send (s : Carrier) (v : Option Nat) (message : Outbound) : Option (Bool × Carrier) :=
  if s.gone then some (false, s)
  else if s.waiting < outboundQueue then some (true, s.push v message)
  else none

/-- A `try_send` would find a place. -/
def room (s : Carrier) : Bool := decide (s.waiting + s.promised < outboundQueue)

/-- `tx.try_send`, its result ignored. -/
def trySend (s : Carrier) (v : Option Nat) (message : Outbound) : Carrier :=
  if s.gone || !s.room then s else s.push v message

/-- A connection that is still carried stops abnormally. -/
def fails (s : Carrier) (v : Nat) : Carrier :=
  s.change v fun visit => { visit with
    failedAt := if visit.carried then visit.failedAt.or (some s.queued.length) else visit.failedAt }

end Carrier

/-! ### Events -/

/-- What the visitor's socket gives `upload`. -/
inductive Taken where
  | bytes (payload : Bytes)
  | eof
  | error
  | aborted
deriving DecidableEq, Repr

inductive Wrote where
  | all
  | failed
  | aborted
deriving DecidableEq, Repr

inductive Event where
  -- a connection, from `route` until its slot is given back
  | route (conn : Nat) (initial : Bytes)
  | refused (v : Nat)
  | opens (v : Nat)
  | greets (v : Nat)
  | uploadTakes (v : Nat) (taken : Taken)
  | uploadSends (v : Nat) (aborted : Bool)
  | uploadEnds (v : Nat)
  | downloadTakes (v : Nat) (aborted : Bool)
  | downloadWrites (v : Nat) (wrote : Wrote)
  | shutsDown (v : Nat)
  | idle (v : Nat)
  | over (v : Nat)
  -- the reader
  | frame (frame : ClientFrame) (fits : Bool)
  | stalls (visits : List Nat)
  | resets
  | resetSent
  -- the writer, other messages for it, and the end of the bridge
  | takes
  | sends
  | promises (count : Nat)
  | close
  | writerEnds
  | finishChannels (outcome : Outcome)
deriving DecidableEq, Repr

namespace Carrier

/-- `route`: the number is not 0 and no open channel's. The u32 sequence the numbers come from is left out: any number that
    is free then may be given, also one that was in use just before, which the code gives again only once the sequence
    has wrapped. -/
def route (s : Carrier) (conn : Nat) (initial : Bytes) : Option Carrier :=
  if conn ≠ 0 ∧ conn < 2 ^ 32 ∧ s.channels conn = none then
    some { s with
      visits := fun v => if v = s.routed then some { conn := conn, hello := initial, came := initial } else s.visits v
      routed := s.routed + 1
      channels := fun n => if n = conn then some s.routed else s.channels n
      numbers := fun n => if n = conn then some s.routed else s.numbers n }
  else none

/-- Drops the connection's socket and gives its slot back. -/
def drop (s : Carrier) (v : Nat) (visit : Visit) : Carrier :=
  ((s.unmap visit.conn).change v fun visit => visit.finish .closed false).change v fun visit =>
    { visit with
      carried := false
      socket := if visit.idled || visit.abort then .reset else .closed }

/-- The error paths of `upload` and `download` and the idle path of `route_tunnel`: the client is told as far as there
    is room, and the connection is aborted. -/
def giveUp (s : Carrier) (v : Nat) (visit : Visit) : Carrier :=
  (((s.fails v).trySend (some v) (.reset visit.conn)).unmap visit.conn).change v fun visit =>
    visit.finish .clientError true

/-- The first `select!` of `upload`, and what follows it without waiting. -/
def uploadTakes (s : Carrier) (v : Nat) (visit : Visit) : Taken → Option Carrier
  | .bytes payload =>
      if 0 < payload.length ∧ payload.length ≤ maxPayload then
        some (s.change v fun visit => { visit with came := visit.came ++ payload, upload := .sending payload })
      else none
  | .eof => some (s.change v fun visit => { visit with upload := .ending })
  | .error => some ((s.giveUp v visit).change v fun visit => { visit with upload := .returned })
  | .aborted => if visit.abort then some (s.change v fun visit => { visit with upload := .returned }) else none

/-- The second `select!` of `upload`. -/
def uploadSends (s : Carrier) (v : Nat) (visit : Visit) (payload : Bytes) (aborted : Bool) : Option Carrier :=
  if aborted then
    if visit.abort then some (s.change v fun visit => { visit with upload := .returned }) else none
  else
    match s.send (some v) (.data visit.conn payload) with
    | some (true, s) => some (s.change v fun visit => { visit with upload := .reading, uploads := visit.uploads + 1 })
    | some (false, s) => some (s.change v fun visit =>
        { visit.finish .bridgeDisconnected true with upload := .returned })
    | none => none

/-- The first `select!` of `download`. A queue nobody can send to any more ends like an `end`. -/
def downloadTakes (s : Carrier) (v : Nat) (visit : Visit) (aborted : Bool) : Option Carrier :=
  if aborted then
    if visit.abort then some (s.change v fun visit => { visit with download := .returned }) else none
  else
    match visit.inbound with
    | .data payload :: rest =>
        some (s.change v fun visit => { visit with inbound := rest, download := .writing payload })
    | .end_ :: rest => some (s.change v fun visit => { visit with inbound := rest, download := .shutting })
    | [] =>
        if s.channels visit.conn ≠ some v ∧ v ∉ s.resetting ∧ s.sending ≠ some v then
          some (s.change v fun visit => { visit with download := .shutting })
        else none

/-- The second `select!` of `download`, and what follows it. -/
def downloadWrites (s : Carrier) (v : Nat) (visit : Visit) : Wrote → Option Carrier
  | .all => some (s.change v fun visit => { visit with download := .receiving })
  | .failed => some ((s.giveUp v visit).change v fun visit => { visit with download := .returned })
  | .aborted => if visit.abort then some (s.change v fun visit => { visit with download := .returned }) else none

/-- Notes what the client asked for the connection that was last given the number. -/
def note (s : Carrier) : ClientFrame → Carrier
  | .end_ conn =>
      match s.numbers conn with
      | some v => s.change v fun visit => { visit with ended := true }
      | none => s
  | .reset conn =>
      match s.numbers conn with
      | some v => s.change v fun visit =>
          if visit.carried then { visit with asked := visit.asked.or (some ⟨visit.came.length, visit.uploads⟩) }
          else visit
      | none => s
  | _ => s

/-- `handle_control` and `data`; data that does not fit the budgets is dropped. -/
def handle (s : Carrier) (fits : Bool) : ClientFrame → Carrier
  | .data conn payload =>
      match s.channels conn with
      | some v => s.change v fun visit =>
          if fits && decide (visit.download ≠ .returned) then
            { visit with inbound := visit.inbound ++ [.data payload] }
          else visit
      | none => s
  | .end_ conn =>
      match s.channels conn with
      | some v => (s.unmap conn).change v fun visit =>
          { visit.finish .closed false with inbound := visit.inbound ++ [.end_] }
      | none => s
  | .reset conn =>
      match s.channels conn with
      | some v => (s.unmap conn).change v fun visit => visit.finish .reset true
      | none => s
  | .other => s

/-- `finish_channels` -/
def finishChannels (s : Carrier) (outcome : Outcome) : Carrier :=
  { s with
    channels := fun _ => none
    visits := fun v => (s.visits v).map fun visit =>
      if s.channels visit.conn = some v then visit.finish outcome true else visit }

/-- An event of a connection that still has its slot. -/
def onVisit (s : Carrier) (v : Nat) (run : Visit → Option Carrier) : Option Carrier :=
  match s.visits v with
  | some visit => if visit.carried then run visit else none
  | none => none

def step : Event → Carrier → Option Carrier
  | .route conn initial, s => s.route conn initial
  | .refused v, s => s.onVisit v fun visit =>
      if visit.opened then none
      else some ((s.unmap visit.conn).change v fun visit => { visit with carried := false, socket := .closed })
  | .opens v, s => s.onVisit v fun visit =>
      if visit.opened then none
      else (s.send (some v) (.open_ visit.conn)).map fun sent =>
        sent.2.change v fun visit => { visit with opened := true }
  | .greets v, s => s.onVisit v fun visit =>
      if visit.opened ∧ visit.hello ≠ [] then
        (s.send (some v) (.data visit.conn (visit.hello.take maxPayload))).map fun sent =>
          sent.2.change v fun visit => { visit with hello := visit.hello.drop maxPayload }
      else none
  | .uploadTakes v taken, s => s.onVisit v fun visit =>
      if visit.carrying ∧ visit.upload = .reading then s.uploadTakes v visit taken else none
  | .uploadSends v aborted, s => s.onVisit v fun visit =>
      match visit.upload with
      | .sending payload => s.uploadSends v visit payload aborted
      | _ => none
  | .uploadEnds v, s => s.onVisit v fun visit =>
      if visit.upload = .ending then
        (s.send (some v) (.end_ visit.conn)).map fun sent =>
          sent.2.change v fun visit => { visit with upload := .returned }
      else none
  | .downloadTakes v aborted, s => s.onVisit v fun visit =>
      if visit.carrying ∧ visit.download = .receiving then s.downloadTakes v visit aborted else none
  | .downloadWrites v wrote, s => s.onVisit v fun visit =>
      match visit.download with
      | .writing _ => s.downloadWrites v visit wrote
      | _ => none
  | .shutsDown v, s => s.onVisit v fun visit =>
      if visit.download = .shutting then some (s.change v fun visit => { visit with download := .returned }) else none
  | .idle v, s => s.onVisit v fun visit =>
      if visit.carrying ∧ ¬ (visit.upload = .returned ∧ visit.download = .returned) then
        some ((s.giveUp v visit).change v fun visit =>
          { visit with upload := .returned, download := .returned, idled := true })
      else none
  | .over v, s => s.onVisit v fun visit =>
      if visit.carrying ∧ visit.upload = .returned ∧ visit.download = .returned then some (s.drop v visit) else none
  | .frame frame fits, s =>
      if s.resetting = [] ∧ s.sending = none then
        if s.closing then some s else some ((s.note frame).handle fits frame)
      else none
  | .stalls visits, s =>
      if s.resetting = [] ∧ s.sending = none ∧
          ∀ v ∈ visits, (s.visits v).any (fun visit => (s.channels visit.conn).isSome) = true then
        some { s with resetting := visits }
      else none
  | .resets, s =>
      match s.resetting, s.sending with
      | v :: rest, none => (s.visits v).map fun visit =>
          ((({ s with resetting := rest, sending := some v } : Carrier).fails v).unmap visit.conn).change v fun visit =>
            visit.finish .backpressure true
      | _, _ => none
  | .resetSent, s =>
      match s.sending with
      | some v => (s.visits v).bind fun visit => (s.send (some v) (.reset visit.conn)).map fun sent =>
          { sent.2 with sending := none }
      | none => none
  | .takes, s => if s.written < s.queued.length ∧ !s.gone then some { s with written := s.written + 1 } else none
  | .sends, s => (s.send none .other).map (·.2)
  | .promises count, s => if s.waiting + count ≤ outboundQueue then some { s with promised := count } else none
  | .close, s => some { s with closing := true }
  | .writerEnds, s => some { s with gone := true }
  | .finishChannels outcome, s => some (s.finishChannels outcome)

end Carrier

end OpenTunnel.Relay
