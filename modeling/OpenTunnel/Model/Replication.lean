/-
Module: OpenTunnel.Model.Replication
Layer: Model
Purpose: One machine's entries on their way to another over any number of links (`mesh.rs`). The sender announces,
  leaves and subscribes links, its writers move what is queued to the wires; the receiver registers the links,
  applies what arrives and lets links end, while its links to other machines and to other lives of this one go on.
Imports: OpenTunnel.Model.Mesh
Trusted boundary: none (fully proved)
Main exports: Mesh.Replication, Mesh.ReplicaMove, Mesh.Replication.step, Mesh.Stamps, Mesh.Replication.stored,
  Mesh.Replication.Reached
Open obligations: none
-/
import OpenTunnel.Model.Mesh

namespace OpenTunnel.Mesh

open Tasks (Table)

/-- How far `leave` is: `draining` is stored first, then the event is published. -/
inductive Leave where
  | no
  | draining
  | published
deriving DecidableEq, Repr

/-- How far the receiver is with a link. -/
inductive Reading where
  | waiting
  | up
  /-- A frame was refused; `link_down` is still to come. -/
  | failed
  | ended
deriving DecidableEq, Repr

/-- The sender's life, and which of the receiver's link numbers are links to it. -/
structure ReplicaSetup where
  sender : Machine
  own : LinkId → Bool

structure Replication where
  announcer : Local
  leave : Leave
  /-- The links that were subscribed. -/
  opened : LinkId → Bool
  /-- What the writer of a link that was closed for its full queue may still write. -/
  closed : LinkId → List Frame
  hello : LinkId → Option Hello
  /-- What was written and not applied yet. -/
  wire : LinkId → List Frame
  reading : LinkId → Reading
  remote : Remote

inductive ReplicaMove where
  | attached (tunnel : TunnelId) (bridge : BridgeId) (routes : List String) (attachedAt : Nat)
  | detached (tunnel : TunnelId) (bridge : BridgeId)
  | publish (event : Event)
  | drain
  | leave
  | subscribe (link : LinkId) (length : Entry → Nat) (limit : Nat) (order : List Entry)
  | greet (link : LinkId)
  | write (link : LinkId)
  | ping (link : LinkId)
  | close (link : LinkId)
  | register (link : LinkId) (dialer : String)
  | apply (link : LinkId) (now : Nat)
  | linkDown (link : LinkId)
  | other (op : RemoteOp)

/-- The link an operation is about. -/
def RemoteOp.link : RemoteOp → LinkId
  | .register _ link _ => link
  | .linkDown _ link => link
  | .apply _ link _ _ => link

namespace Replication

/-- A function of the source under the lock of `local`. What was queued on a link that it closes stays with the link's
writer. -/
def announce (s : Replication) (f : Local → Local) : Replication :=
  { s with announcer := f s.announcer
           closed := fun link =>
             match s.announcer.links.get link, (f s.announcer).links.get link with
             | some queue, none => queue
             | _, _ => s.closed link }

def setWire (s : Replication) (link : LinkId) (frames : List Frame) : Replication :=
  { s with wire := fun link' => if link' = link then frames else s.wire link' }

def setReading (s : Replication) (link : LinkId) (reading : Reading) : Replication :=
  { s with reading := fun link' => if link' = link then reading else s.reading link' }

/-- The effect of a move, where it can be made. -/
def step (setup : ReplicaSetup) : ReplicaMove → Replication → Option Replication
  | .attached tunnel bridge routes attachedAt, s =>
      some (s.announce fun l => l.attached tunnel bridge routes attachedAt)
  | .detached tunnel bridge, s => some (s.announce fun l => l.detached tunnel bridge)
  | .publish event, s => if event = .leaving then none else some (s.announce fun l => l.publish event)
  | .drain, s => if s.leave = .no then some { s with leave := .draining } else none
  | .leave, s =>
      if s.leave = .no then none else some { s.announce (fun l => l.publish .leaving) with leave := .published }
  | .subscribe link length limit order, s =>
      if setup.own link = true ∧ s.opened link = false ∧ order.isPerm (values s.announcer.entries) = true then
        some { s with announcer := s.announcer.subscribe setup.sender.epoch length limit order link
                      opened := fun link' => if link' = link then true else s.opened link' }
      else none
  | .greet link, s =>
      if s.opened link = true ∧ s.hello link = none then
        some { s with hello := fun link' =>
                 if link' = link then some (setup.sender.hello (decide (s.leave ≠ .no))) else s.hello link' }
      else none
  | .write link, s =>
      if s.hello link = none then none
      else
        match s.announcer.links.get link with
        | some (frame :: rest) =>
            some { s.setWire link (s.wire link ++ [frame]) with
                   announcer := { s.announcer with links := s.announcer.links.put link rest } }
        | some [] => none
        | none =>
            match s.closed link with
            | frame :: rest =>
                some { s.setWire link (s.wire link ++ [frame]) with
                       closed := fun link' => if link' = link then rest else s.closed link' }
            | [] => none
  | .ping link, s => if s.hello link = none then none else some (s.setWire link (s.wire link ++ [.ping]))
  | .close link, s =>
      some { s with announcer := s.announcer.unsubscribe link
                    closed := fun link' => if link' = link then [] else s.closed link' }
  | .register link dialer, s =>
      match s.hello link with
      | some hello =>
          if setup.own link = true ∧ s.reading link = .waiting then
            let registered := s.remote.register hello link dialer
            some { s.setReading link (if registered.accepted then .up else .ended) with
                   remote := registered.remote }
          else none
      | none => none
  | .apply link now, s =>
      match s.wire link with
      | frame :: rest =>
          if setup.own link = true ∧ s.reading link = .up then
            match s.remote.apply setup.sender.machineId link frame now with
            | .ok (_, applied) => some { s.setWire link rest with remote := applied }
            | .error _ => some ((s.setWire link rest).setReading link .failed)
          else none
      | [] => none
  | .linkDown link, s =>
      if setup.own link = true ∧ (s.reading link = .up ∨ s.reading link = .failed) then
        some { s.setReading link .ended with remote := s.remote.linkDown setup.sender.machineId link }
      else none
  | .other op, s => if setup.own op.link = true then none else some { s with remote := s.remote.perform op }

/-- The receiver's peer of the sender. -/
def peer (setup : ReplicaSetup) (s : Replication) : Option Peer := s.remote.peers.get setup.sender.machineId

end Replication

/-! ### When entries were stored -/

/-- The receiver's clock at the `apply` that stored the entry of a bridge over the current link to the sender; none for what
was kept from the link before. A record beside the run: no function of the source reads it. -/
abbrev Stamps := BridgeId → Option Nat

/-- The bridges whose entries a frame brings. -/
def Frame.brings : Frame → List BridgeId
  | .snapshot _ _ entries _ | .snapshotPart entries _ => entries.map Entry.bridge
  | .attached _ entry => [entry.bridge]
  | _ => []

def Stamps.put (stamps : Stamps) (bridges : List BridgeId) (now : Nat) : Stamps :=
  fun b => if b ∈ bridges then some now else stamps b

/-- What a frame brings is stored at this clock, unless the machine drains. -/
def Stamps.after (stamps : Stamps) (frame : Frame) (draining : Bool) (now : Nat) : Stamps :=
  if draining then stamps else stamps.put frame.brings now

namespace Replication

/-- The record after a move. -/
def stored (setup : ReplicaSetup) (s : Replication) (stamps : Stamps) : ReplicaMove → Stamps
  | .apply link now =>
      match s.wire link, s.peer setup with
      | frame :: _, some known =>
          if known.link = link then stamps.after frame known.hello.draining now else stamps
      | _, _ => stamps
  | .register link dialer =>
      match s.hello link with
      | some hello => if (s.remote.register hello link dialer).accepted then fun _ => none else stamps
      | none => stamps
  | _ => stamps

/-- The states reached from one where no link was opened, by moves that meet `C`, with when their entries were stored. -/
inductive Reached (setup : ReplicaSetup) (C : ReplicaMove → Replication → Prop) (s₀ : Replication) :
    Stamps → Replication → Prop where
  | start : Reached setup C s₀ (fun _ => none) s₀
  | step {stamps : Stamps} {s s' : Replication} (move : ReplicaMove) : Reached setup C s₀ stamps s → C move s →
      s.step setup move = some s' → Reached setup C s₀ (s.stored setup stamps move) s'

end Replication

end OpenTunnel.Mesh
