/-
Module: OpenTunnel.Model.World
Layer: Model
Purpose: The state the tasks of a deployment share: the database, and on each machine the cached tunnel entries
  with their locks, the bridges, the mesh's table of announced bridges, the queue of notices and the jobs
  running there (`service.rs`, `cluster.rs`, `jobs.rs`, `mesh.rs`). Between machines only the wires of the mesh
  carry events here; how the mesh replicates a table over them is modelled in `Model.Mesh`.
Imports: OpenTunnel.Model.Store
Trusted boundary: none (fully proved)
Main exports: Entry, Bridge, Machine, World, Setup, World.entry, World.setEntry
Open obligations: none
-/
import OpenTunnel.Model.Store

namespace OpenTunnel

open Tasks (Table)

/-! ### Entries and bridges -/

/-- `EntryState`, with who holds the entry's lock. -/
structure Entry where
  loaded : Bool := false
  record : Option StoredTunnel := none
  revision : Nat := 0
  checkedAt : Nat := 0
  stale : Bool := false
  generation : Nat := 0
  bridges : List BridgeId := []
  sequence : Nat := 0
  alarm : Option (Nat × Option Nat) := none
  holder : Option Task := none
deriving DecidableEq, Repr

namespace Entry

/-- `EntryState::record`: the cached record unless it is deleted. -/
def live (e : Entry) : Option StoredTunnel := e.record.filter fun record => !record.isDeleted

def unloaded (e : Entry) : Entry := { e with loaded := false, record := none, revision := 0 }

end Entry

/-- `Bridge` and `BridgeState`. `owner` is the session that registered it. -/
structure Bridge where
  owner : Task
  attached : Bool := false
  detached : Bool := false
  session : Option String := none
  routes : List String := []
  maxConns : Option Nat := none
  attachedAt : Nat := 0
  serverClose : Option Nat := none
  seenAt : Nat
  channels : List Nat := []
  visitors : Nat := 0
deriving DecidableEq, Repr

namespace Bridge

def isAttached (b : Bridge) : Bool := b.attached && !b.detached

def claims (b : Bridge) (route : String) : Bool := b.isAttached && b.routes.contains route

def isClosing (b : Bridge) : Bool := b.serverClose.isSome

def finishChannels (b : Bridge) : Bridge := { b with channels := [] }

def close (b : Bridge) (code : Nat) : Bridge := { b with serverClose := some code }

/-- The public connections it may carry: what its client advertised, at most `limit`. -/
def connLimit (b : Bridge) (limit : Nat) : Nat :=
  match b.maxConns with
  | some maxConns => max 1 (min maxConns limit)
  | none => limit

end Bridge

/-- What `mesh.attached` announces of a bridge. -/
structure Announcement where
  tunnel : TunnelId
  routes : List String
  attachedAt : Nat
deriving DecidableEq, Repr

/-- The events of the mesh that are about tunnels and jobs. -/
inductive Event where
  | tunnelCreated (tunnel : TunnelId)
  | certificateChanged (tunnel : TunnelId)
  | tunnelDeleted (tunnel : TunnelId)
  | jobEnqueued
deriving DecidableEq, Repr

inductive Notice where
  | event (event : Event)
  | linkUp
deriving DecidableEq, Repr

/-! ### Machines -/

structure Machine where
  clock : Nat := 0
  tunnels : Table TunnelId Entry := .empty
  bridges : BridgeId → Option Bridge := fun _ => none
  nextBridge : BridgeId := 1
  announced : BridgeId → Option Announcement := fun _ => none
  refreshFailedAt : Nat := 0
  generation : Nat := 0
  draining : Bool := false
  complete : Bool := true
  running : List CertificateId := []
  notices : List Notice := []
  reconcileQueued : Bool := false

/-- What stays as it was configured: the crates' functions, the domain, which machines are one of many
    (`set_cluster`), which have limits (`set_limits`), and `BridgeLimits`. -/
structure Setup where
  externals : Externals
  domain : String
  clustered : MachineId → Bool
  limited : MachineId → Bool
  connsPerBridge : Nat := 256
  connsPerTunnel : Nat := 1024

structure World where
  db : Db
  machines : MachineId → Machine
  /-- The random names handed out. -/
  uuids : List String
  /-- The events in flight from one machine to another, while the link between them is up. -/
  wires : MachineId → MachineId → Option (List Event)

namespace World

def machine (w : World) (m : MachineId) : Machine := w.machines m

def setMachine (w : World) (m : MachineId) (machine : Machine) : World :=
  { w with machines := fun m' => if m' = m then machine else w.machines m' }

def setDb (w : World) (db : Db) : World := { w with db := db }

/-- A tunnel's entry; one is made with nothing loaded when there is none. -/
def entry (w : World) (m : MachineId) (id : TunnelId) : Entry := ((w.machine m).tunnels.get id).getD {}

def setEntry (w : World) (m : MachineId) (id : TunnelId) (e : Entry) : World :=
  w.setMachine m { w.machine m with tunnels := (w.machine m).tunnels.put id e }

def bridge (w : World) (m : MachineId) (b : BridgeId) : Option Bridge := (w.machine m).bridges b

def announced (w : World) (m : MachineId) (b : BridgeId) : Option Announcement :=
  (w.machine m).announced b

def now (w : World) (m : MachineId) : Nat := (w.machine m).clock

def holds (w : World) (t : Task) (id : TunnelId) : Bool := (w.entry t.machine id).holder = some t

@[simp] theorem machine_setMachine (w : World) (m m' : MachineId) (machine : Machine) :
    (w.setMachine m machine).machine m' = if m' = m then machine else w.machine m' := rfl

@[simp] theorem db_setMachine (w : World) (m : MachineId) (machine : Machine) :
    (w.setMachine m machine).db = w.db := rfl

@[simp] theorem uuids_setMachine (w : World) (m : MachineId) (machine : Machine) :
    (w.setMachine m machine).uuids = w.uuids := rfl

@[simp] theorem wires_setMachine (w : World) (m : MachineId) (machine : Machine) :
    (w.setMachine m machine).wires = w.wires := rfl

@[simp] theorem db_setDb (w : World) (db : Db) : (w.setDb db).db = db := rfl

@[simp] theorem machine_setDb (w : World) (db : Db) (m : MachineId) :
    (w.setDb db).machine m = w.machine m := rfl

@[simp] theorem entry_setDb (w : World) (db : Db) (m : MachineId) (id : TunnelId) :
    (w.setDb db).entry m id = w.entry m id := rfl

@[simp] theorem bridge_setDb (w : World) (db : Db) (m : MachineId) (b : BridgeId) :
    (w.setDb db).bridge m b = w.bridge m b := rfl

@[simp] theorem announced_setDb (w : World) (db : Db) (m : MachineId) (b : BridgeId) :
    (w.setDb db).announced m b = w.announced m b := rfl

@[simp] theorem uuids_setDb (w : World) (db : Db) : (w.setDb db).uuids = w.uuids := rfl

@[simp] theorem wires_setDb (w : World) (db : Db) : (w.setDb db).wires = w.wires := rfl

@[simp] theorem db_setEntry (w : World) (m : MachineId) (id : TunnelId) (e : Entry) :
    (w.setEntry m id e).db = w.db := rfl

@[simp] theorem uuids_setEntry (w : World) (m : MachineId) (id : TunnelId) (e : Entry) :
    (w.setEntry m id e).uuids = w.uuids := rfl

@[simp] theorem wires_setEntry (w : World) (m : MachineId) (id : TunnelId) (e : Entry) :
    (w.setEntry m id e).wires = w.wires := rfl

@[simp] theorem entry_setEntry (w : World) (m m' : MachineId) (id id' : TunnelId) (e : Entry) :
    (w.setEntry m id e).entry m' id' = if m' = m ∧ id' = id then e else w.entry m' id' := by
  by_cases hm : m' = m
  · subst hm
    by_cases hid : id' = id
    · simp [setEntry, entry, hid]
    · simp [setEntry, entry, hid]
  · simp [setEntry, entry, hm]

@[simp] theorem bridge_setEntry (w : World) (m m' : MachineId) (id : TunnelId) (e : Entry)
    (b : BridgeId) : (w.setEntry m id e).bridge m' b = w.bridge m' b := by
  by_cases hm : m' = m
  · subst hm
    simp [setEntry, bridge]
  · simp [setEntry, bridge, hm]

@[simp] theorem announced_setEntry (w : World) (m m' : MachineId) (id : TunnelId) (e : Entry)
    (b : BridgeId) : (w.setEntry m id e).announced m' b = w.announced m' b := by
  by_cases hm : m' = m
  · subst hm
    simp [setEntry, announced]
  · simp [setEntry, announced, hm]

end World

end OpenTunnel
