/-
Module: OpenTunnel.Model.Mesh
Layer: Model
Purpose: The mesh between the machines (`mesh.rs`): what a machine announces of its own bridges and queues for each link
  (`Local`), and what it knows of its peers' (`Remote`): the peers with the link each is known through, their
  entries, and the index from a tunnel to the entries that name it. Every function here is one critical section of
  its source function, under the lock of `local` or of `remote`.
Imports: OpenTunnel.Tasks.Table, OpenTunnel.Model.Record
Trusted boundary: none (fully proved)
Main exports: Mesh.Remote.register, Mesh.Remote.linkDown, Mesh.Remote.apply, Mesh.Remote.locate, Mesh.Remote.holders,
  Mesh.Local.attached, Mesh.Local.detached, Mesh.Local.publish, Mesh.Local.subscribe
Open obligations: none
-/
import OpenTunnel.Tasks.Table
import OpenTunnel.Model.Record

namespace OpenTunnel.Mesh

open Tasks (Table)

/-- A peer's clock may be this far ahead. -/
def maxClockAheadMs : Nat := 5 * secondMs

/-- Frames queued for a link. -/
def linkQueue : Nat := 200000

abbrev LinkId := Nat

/-- One attached bridge and the routes it claims. -/
structure Entry where
  tunnel : TunnelId
  bridge : BridgeId
  routes : List String
  attachedAt : Nat
deriving DecidableEq, Repr

inductive Event where
  | tunnelCreated (tunnel : TunnelId)
  | certificateChanged (tunnel : TunnelId)
  | tunnelDeleted (tunnel : TunnelId)
  | leaving
  | jobEnqueued
  | unknown
deriving DecidableEq, Repr

structure Hello where
  machineId : MachineId
  region : String
  address : String
  epoch : Nat
  startedAt : Nat
  draining : Bool
deriving DecidableEq, Repr

/-- A life of a machine. -/
structure Machine where
  machineId : MachineId
  region : String
  address : String
  epoch : Nat
  startedAt : Nat
deriving DecidableEq, Repr

/-- `hello` -/
def Machine.hello (machine : Machine) (draining : Bool) : Hello :=
  { machineId := machine.machineId, region := machine.region, address := machine.address, epoch := machine.epoch,
    startedAt := machine.startedAt, draining := draining }

inductive Frame where
  | hello (hello : Hello)
  | snapshot (epoch seq : Nat) (entries : List Entry) (more : Bool)
  | snapshotPart (entries : List Entry) (more : Bool)
  | attached (seq : Nat) (entry : Entry)
  | detached (seq : Nat) (tunnel : TunnelId) (bridge : BridgeId)
  | event (event : Event)
  | ping
  | unknown
deriving DecidableEq, Repr

/-- A machine holding a route. -/
structure Location where
  machineId : MachineId
  region : String
  address : String
deriving DecidableEq, Repr

/-- A peer, the link it is known through and the address of the side that dialed that link. -/
structure Peer where
  hello : Hello
  link : LinkId
  dialer : String
  seq : Nat
  entries : Table BridgeId Entry
  /-- A snapshot in several frames is arriving. -/
  snapshotOpen : Bool

/-- The peers, and tunnel to `(machine, bridge)`. -/
structure Remote where
  peers : Table MachineId Peer
  index : Table TunnelId (List (MachineId × BridgeId))

/-- `sane_time`: a peer's time, or `now` when it is further ahead than clocks drift. -/
def saneTime (at_ now : Nat) : Nat := if at_ > now + maxClockAheadMs then now else at_

/-- The table without a row. -/
def without {κ ν : Type} [DecidableEq κ] (t : Table κ ν) (k : κ) : Table κ ν :=
  t.update fun k' v => if k' = k then none else some v

@[simp] theorem get_without {κ ν : Type} [DecidableEq κ] (t : Table κ ν) (k k' : κ) :
    (without t k).get k' = if k' = k then none else t.get k' := by
  by_cases same : k' = k
  · cases held : t.get k' <;> simp [without, same]
  · cases held : t.get k' <;> simp [without, held, same]

/-- The values of a table. -/
def values {κ ν : Type} (t : Table κ ν) : List ν := t.present.filterMap t.get

theorem mem_values {κ ν : Type} {t : Table κ ν} {v : ν} : v ∈ values t ↔ ∃ k, t.get k = some v := by
  constructor
  · intro listed
    obtain ⟨k, _, held⟩ := List.mem_filterMap.mp listed
    exact ⟨k, held⟩
  · rintro ⟨k, held⟩
    exact List.mem_filterMap.mpr ⟨k, Table.mem_present.mpr (by simp [held]), held⟩

namespace Remote

abbrev Index := Table TunnelId (List (MachineId × BridgeId))

def indexAdd (index : Index) (machine : MachineId) (entry : Entry) : Index :=
  let holders := (index.get entry.tunnel).getD []
  index.put entry.tunnel
    (if (machine, entry.bridge) ∈ holders then holders else holders ++ [(machine, entry.bridge)])

def indexRemove (index : Index) (machine : MachineId) (entry : Entry) : Index :=
  match index.get entry.tunnel with
  | some holders =>
      let left := holders.filter (· ≠ (machine, entry.bridge))
      if left.isEmpty then without index entry.tunnel else index.put entry.tunnel left
  | none => index

/-- The index without a table's entries. -/
def indexRemoveAll (index : Index) (machine : MachineId) (entries : Table BridgeId Entry) : Index :=
  (values entries).foldl (fun index entry => indexRemove index machine entry) index

def setPeer (r : Remote) (machine : MachineId) (peer : Peer) : Remote :=
  { r with peers := r.peers.put machine peer }

/-- Empties a peer's entries. -/
def clear (r : Remote) (machine : MachineId) : Remote :=
  match r.peers.get machine with
  | some peer =>
      { peers := r.peers.put machine { peer with entries := Table.empty }
        index := indexRemoveAll r.index machine peer.entries }
  | none => r

end Remote

/-- The life of a machine. -/
def Hello.life (hello : Hello) : Nat × Nat := (hello.startedAt, hello.epoch)

/-- `life > known`, as tuples compare. -/
def newerLife (life known : Nat × Nat) : Bool := known.1 < life.1 ∨ (known.1 = life.1 ∧ known.2 < life.2)

/-- The new link takes the place of the one a peer is known through. -/
def Peer.yields (existing : Peer) (hello : Hello) (dialer : String) : Bool :=
  if existing.hello.address ≠ hello.address then false
  else if hello.life ≠ existing.hello.life then newerLife hello.life existing.hello.life
  else if existing.dialer ≠ dialer then decide (dialer < existing.dialer)
  else true

/-- What `register` answers: the peers as they are then, the link it cancelled, and whether the new one was taken. -/
structure Registered where
  accepted : Bool
  cancelled : Option LinkId
  remote : Remote

namespace Remote

/-- `register`: records a new link to a peer, unless a better one exists. -/
def register (r : Remote) (hello : Hello) (link : LinkId) (dialer : String) : Registered :=
  let peer (entries : Table BridgeId Entry) : Peer :=
    { hello := hello, link := link, dialer := dialer, seq := 0, entries := entries, snapshotOpen := false }
  match r.peers.get hello.machineId with
  | some existing =>
      if existing.yields hello dialer = false then { accepted := false, cancelled := none, remote := r }
      else if hello.life = existing.hello.life then
        -- the snapshot that follows replaces them; until then they are still right
        { accepted := true, cancelled := some existing.link,
          remote := r.setPeer hello.machineId (peer existing.entries) }
      else
        { accepted := true, cancelled := some existing.link,
          remote := (r.clear hello.machineId).setPeer hello.machineId (peer Table.empty) }
  | none =>
      { accepted := true, cancelled := none, remote := r.setPeer hello.machineId (peer Table.empty) }

/-- `link_down` -/
def linkDown (r : Remote) (machine : MachineId) (link : LinkId) : Remote :=
  match r.peers.get machine with
  | some peer =>
      if peer.link ≠ link then r
      else { r.clear machine with peers := without (r.clear machine).peers machine }
  | none => r

end Remote

/-- What the links of a machine do to what it knows of its peers. -/
inductive RemoteOp where
  | register (hello : Hello) (link : LinkId) (dialer : String)
  | linkDown (machine : MachineId) (link : LinkId)
  | apply (machine : MachineId) (link : LinkId) (frame : Frame) (now : Nat)
deriving DecidableEq, Repr

/-- Why `apply` fails. -/
inductive ApplyError where
  | replaced
  | secondHello
  | otherEpoch
  | partWithoutSnapshot
  | changeInSnapshot
  | sequence (seq after : Nat)
deriving DecidableEq, Repr

def ApplyError.message : ApplyError → String
  | .replaced => "the link was replaced"
  | .secondHello => "a second hello"
  | .otherEpoch => "a snapshot of another epoch"
  | .partWithoutSnapshot => "a snapshot part without a snapshot"
  | .changeInSnapshot => "a change inside a snapshot"
  | .sequence seq after => s!"sequence {seq} after {after}"

namespace Remote

/-- The loop over a snapshot's entries: each is indexed and takes the place of the one with its bridge. -/
def addAll (machine : MachineId) (now : Nat) :
    List Entry → Index × Table BridgeId Entry → Index × Table BridgeId Entry
  | [], held => held
  | entry :: rest, (index, entries) =>
      let entry := { entry with attachedAt := saneTime entry.attachedAt now }
      addAll machine now rest (indexAdd index machine entry, entries.put entry.bridge entry)

/-- The entries of a snapshot frame, which a draining peer no longer has. -/
def addSnapshot (machine : MachineId) (now : Nat) (peer : Peer) (entries : List Entry)
    (held : Index × Table BridgeId Entry) : Index × Table BridgeId Entry :=
  if peer.hello.draining then held else addAll machine now entries held

/-- `apply`: a frame from a peer's current link, with the event the service is told of. -/
def apply (r : Remote) (machine : MachineId) (link : LinkId) (frame : Frame) (now : Nat) :
    Except ApplyError (Option Event × Remote) :=
  match r.peers.get machine with
  | none => .error .replaced
  | some peer =>
  if peer.link ≠ link then .error .replaced
  else
    match frame with
    | .ping | .unknown => .ok (none, r)
    | .hello _ => .error .secondHello
    | .snapshot epoch seq entries more =>
        if epoch ≠ peer.hello.epoch then .error .otherEpoch
        else
          let held := addSnapshot machine now peer entries (indexRemoveAll r.index machine peer.entries, Table.empty)
          .ok (none, { peers := r.peers.put machine
                          { peer with seq := seq, snapshotOpen := more, entries := held.2 }
                       index := held.1 })
    | .snapshotPart entries more =>
        if peer.snapshotOpen = false then .error .partWithoutSnapshot
        else
          let held := addSnapshot machine now peer entries (r.index, peer.entries)
          .ok (none, { peers := r.peers.put machine { peer with snapshotOpen := more, entries := held.2 }
                       index := held.1 })
    | .attached seq entry =>
        let entry := { entry with attachedAt := saneTime entry.attachedAt now }
        if peer.snapshotOpen then .error .changeInSnapshot
        else if seq ≠ peer.seq + 1 then .error (.sequence seq peer.seq)
        else if peer.hello.draining then
          .ok (none, r.setPeer machine { peer with seq := seq })
        else
          let index := match peer.entries.get entry.bridge with
            | some previous => indexRemove r.index machine previous
            | none => r.index
          .ok (none, { peers := r.peers.put machine
                          { peer with seq := seq, entries := peer.entries.put entry.bridge entry }
                       index := indexAdd index machine entry })
    | .detached seq _ bridge =>
        if seq ≠ peer.seq + 1 then .error (.sequence seq peer.seq)
        else
          match peer.entries.get bridge with
          | some entry =>
              .ok (none, { peers := r.peers.put machine
                              { peer with seq := seq, entries := without peer.entries bridge }
                           index := indexRemove r.index machine entry })
          | none => .ok (none, r.setPeer machine { peer with seq := seq })
    | .event event =>
        match event with
        | .leaving =>
            .ok (none, { peers := r.peers.put machine
                            { peer with hello := { peer.hello with draining := true }, entries := Table.empty }
                         index := indexRemoveAll r.index machine peer.entries })
        | .unknown => .ok (none, r)
        | event => .ok (some event, r)

def empty : Remote := { peers := Table.empty, index := Table.empty }

/-- The operation's effect: a frame that is refused has none. -/
def perform (r : Remote) : RemoteOp → Remote
  | .register hello link dialer => (r.register hello link dialer).remote
  | .linkDown machine link => r.linkDown machine link
  | .apply machine link frame now =>
      match r.apply machine link frame now with
      | .ok (_, applied) => applied
      | .error _ => r

/-! ### Lookups -/

def location (peer : Peer) : Location :=
  { machineId := peer.hello.machineId, region := peer.hello.region, address := peer.hello.address }

/-- The peer's entry behind an indexed pair, when it claims what is asked for and the peer is not draining. -/
def claiming (r : Remote) (claims : Entry → Bool) (pair : MachineId × BridgeId) : Option (Entry × Peer) := do
  let peer ← r.peers.get pair.1
  let entry ← peer.entries.get pair.2
  if !peer.hello.draining && claims entry then some (entry, peer) else none

/-- `max_by_key`: the last of the greatest. -/
def newest : List (Entry × Peer) → Option (Entry × Peer)
  | [] => none
  | found :: rest =>
      match newest rest with
      | none => some found
      | some later => if found.1.attachedAt ≤ later.1.attachedAt then some later else some found

/-- `locate`, the tunnel's pairs in the order `pairs` that the set gives them. -/
def locate (r : Remote) (pairs : List (MachineId × BridgeId)) (route : String) (except : Option MachineId) :
    Option Location :=
  (newest ((pairs.filter fun pair => some pair.1 ≠ except).filterMap
    (r.claiming fun entry => entry.routes.contains route))).map fun found => location found.2

/-- `holders`, the tunnel's pairs in the order `pairs`. -/
def holders (r : Remote) (routes : List String) : List (MachineId × BridgeId) → List Location → List Location
  | [], found => found
  | pair :: rest, found =>
      match r.claiming (fun entry => routes.isEmpty || entry.routes.any (routes.contains ·)) pair with
      | some (_, peer) =>
          if found.any (·.machineId = pair.1) then holders r routes rest found
          else holders r routes rest (found ++ [location peer])
      | none => holders r routes rest found

end Remote

/-! ### This machine's entries -/

/-- This machine's entries, and of each link it announces them on what is queued. -/
structure Local where
  seq : Nat
  entries : Table BridgeId Entry
  links : Table LinkId (List Frame)

namespace Local

/-- `broadcast`: a link whose queue is full is closed. -/
def broadcast (l : Local) (frame : Frame) : Local :=
  { l with links := l.links.update fun _ queue =>
      if queue.length < linkQueue then some (queue ++ [frame]) else none }

/-- `attached` -/
def attached (l : Local) (tunnel : TunnelId) (bridge : BridgeId) (routes : List String) (attachedAt : Nat) : Local :=
  let entry : Entry := { tunnel := tunnel, bridge := bridge, routes := routes, attachedAt := attachedAt }
  ({ l with seq := l.seq + 1, entries := l.entries.put bridge entry } : Local).broadcast
    (.attached (l.seq + 1) entry)

/-- `detached` -/
def detached (l : Local) (tunnel : TunnelId) (bridge : BridgeId) : Local :=
  match l.entries.get bridge with
  | none => l
  | some _ =>
      ({ l with seq := l.seq + 1, entries := without l.entries bridge } : Local).broadcast
        (.detached (l.seq + 1) tunnel bridge)

/-- `publish` -/
def publish (l : Local) (event : Event) : Local := l.broadcast (.event event)

/-- The chunks of a snapshot: the last one takes the next entry unless that would make it too long, by the encoded
length of its entries. -/
def chunks (length : Entry → Nat) (limit : Nat) : List Entry → List Entry → Nat → List (List Entry)
  | [], chunk, _ => [chunk]
  | entry :: rest, chunk, size =>
      if size + length entry > limit ∧ chunk ≠ [] then chunk :: chunks length limit rest [entry] (length entry)
      else chunks length limit rest (chunk ++ [entry]) (size + length entry)

/-- The frames that follow the first. -/
def parts : List (List Entry) → List Frame
  | [] => []
  | chunk :: rest => .snapshotPart chunk (!rest.isEmpty) :: parts rest

/-- The frames of a snapshot. -/
def snapshot (epoch seq : Nat) : List (List Entry) → List Frame
  | [] => []
  | chunk :: rest => .snapshot epoch seq chunk (!rest.isEmpty) :: parts rest

/-- `subscribe`: a new link's queue, starting with a snapshot of this machine's entries, which the map gives in the
order `order`. -/
def subscribe (l : Local) (epoch : Nat) (length : Entry → Nat) (limit : Nat) (order : List Entry) (link : LinkId) :
    Local :=
  { l with links := l.links.put link ((snapshot epoch l.seq (chunks length limit order [] 0)).take linkQueue) }

/-- `unsubscribe` -/
def unsubscribe (l : Local) (link : LinkId) : Local := { l with links := without l.links link }

end Local

end OpenTunnel.Mesh
