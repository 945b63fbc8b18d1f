/-
Module: OpenTunnel.Proofs.Frame
Layer: Proofs
Purpose: What each act leaves alone. The observers of the state (rows, jobs, cached entries, bridges, announcements)
  after each helper of `exec`, and for each part of the state the acts that may change it, so that an invariant
  of one part is proved by looking at those acts only.
Imports: OpenTunnel.Model.Act
Trusted boundary: none (fully proved)
Main exports: RowStep, exec_rows, exec_save, EntryStep, exec_entry, BridgeStep, exec_bridges, MeshStep,
  exec_mesh, exec_elsewhere, move_frame, move_bridges
Open obligations: none
-/
import OpenTunnel.Model.Act

namespace OpenTunnel

namespace World

section SetMachine

variable (w : World) (m m' : MachineId) {machine : Machine}

/-- A machine with the same tunnels has the same entries. -/
theorem entry_setMachine (id : TunnelId) (same : machine.tunnels = (w.machine m).tunnels) :
    (w.setMachine m machine).entry m' id = w.entry m' id := by
  by_cases hm : m' = m
  · subst hm
    simp [entry, same]
  · simp [entry, hm]

/-- A machine with the same bridges has them as they were. -/
theorem bridge_setMachine (b : BridgeId) (same : machine.bridges = (w.machine m).bridges) :
    (w.setMachine m machine).bridge m' b = w.bridge m' b := by
  by_cases hm : m' = m
  · subst hm
    simp [bridge, same]
  · simp [bridge, hm]

/-- A machine that announces the same is seen with the same announcements. -/
theorem announced_setMachine (b : BridgeId) (same : machine.announced = (w.machine m).announced) :
    (w.setMachine m machine).announced m' b = w.announced m' b := by
  by_cases hm : m' = m
  · subst hm
    simp [announced, same]
  · simp [announced, hm]

end SetMachine

section MapBridges

variable (w : World) (m m' : MachineId) (ids : List BridgeId) (f : Bridge → Bridge)
  (gone : BridgeId → Bool)

@[simp] theorem db_mapBridges : (w.mapBridges m ids f).db = w.db := rfl

@[simp] theorem uuids_mapBridges : (w.mapBridges m ids f).uuids = w.uuids := rfl

@[simp] theorem wires_mapBridges : (w.mapBridges m ids f).wires = w.wires := rfl

@[simp] theorem entry_mapBridges (id : TunnelId) :
    (w.mapBridges m ids f).entry m' id = w.entry m' id := entry_setMachine w m m' id rfl

@[simp] theorem announced_mapBridges (b : BridgeId) :
    (w.mapBridges m ids f).announced m' b = w.announced m' b := announced_setMachine w m m' b rfl

/-- The bridges named are changed, and no others. -/
@[simp] theorem bridge_mapBridges (b : BridgeId) :
    (w.mapBridges m ids f).bridge m' b =
      if m' = m ∧ b ∈ ids then (w.bridge m' b).map f else w.bridge m' b := by
  by_cases hm : m' = m
  · subst hm
    simp [mapBridges, bridge]
  · simp [mapBridges, bridge, hm]

@[simp] theorem db_detachAll : (w.detachAll m gone).db = w.db := rfl

@[simp] theorem uuids_detachAll : (w.detachAll m gone).uuids = w.uuids := rfl

@[simp] theorem wires_detachAll : (w.detachAll m gone).wires = w.wires := rfl

@[simp] theorem entry_detachAll (id : TunnelId) : (w.detachAll m gone).entry m' id = w.entry m' id :=
  entry_setMachine w m m' id rfl

@[simp] theorem bridge_detachAll (b : BridgeId) : (w.detachAll m gone).bridge m' b = w.bridge m' b :=
  bridge_setMachine w m m' b rfl

/-- What is gone is announced no more. -/
@[simp] theorem announced_detachAll (b : BridgeId) :
    (w.detachAll m gone).announced m' b =
      if m' = m ∧ gone b = true then none else w.announced m' b := by
  by_cases hm : m' = m
  · subst hm
    simp [detachAll, announced]
  · simp [detachAll, announced, hm]

@[simp] theorem db_announce (b : BridgeId) (a : Announcement) : (w.announce m b a).db = w.db := rfl

@[simp] theorem entry_announce (b : BridgeId) (a : Announcement) (id : TunnelId) :
    (w.announce m b a).entry m' id = w.entry m' id := entry_setMachine w m m' id rfl

@[simp] theorem bridge_announce (b b' : BridgeId) (a : Announcement) :
    (w.announce m b a).bridge m' b' = w.bridge m' b' := bridge_setMachine w m m' b' rfl

/-- One bridge is announced, the others as before. -/
@[simp] theorem announced_announce (b b' : BridgeId) (a : Announcement) :
    (w.announce m b a).announced m' b' = if m' = m ∧ b' = b then some a else w.announced m' b' := by
  by_cases hm : m' = m
  · subst hm
    simp [announce, announced]
  · simp [announce, announced, hm]

@[simp] theorem db_addBridge (bridge : Bridge) : (w.addBridge m bridge).db = w.db := rfl

@[simp] theorem entry_addBridge (bridge : Bridge) (id : TunnelId) :
    (w.addBridge m bridge).entry m' id = w.entry m' id := entry_setMachine w m m' id rfl

@[simp] theorem announced_addBridge (bridge : Bridge) (b : BridgeId) :
    (w.addBridge m bridge).announced m' b = w.announced m' b := announced_setMachine w m m' b rfl

/-- A bridge is added under the next number. -/
@[simp] theorem bridge_addBridge (bridge : Bridge) (b : BridgeId) :
    (w.addBridge m bridge).bridge m' b =
      if m' = m ∧ b = (w.machine m).nextBridge then some bridge else w.bridge m' b := by
  by_cases hm : m' = m
  · subst hm
    simp [addBridge, World.bridge]
  · simp [addBridge, World.bridge, hm]

end MapBridges

section Bridges

variable (setup : Setup) (w : World) (m m' : MachineId) (id : TunnelId)

@[simp] theorem db_retireStale : (w.retireStale setup m id).db = w.db := by
  unfold retireStale
  dsimp only
  split <;> simp

@[simp] theorem entry_retireStale (id' : TunnelId) :
    (w.retireStale setup m id).entry m' id' = w.entry m' id' := by
  unfold retireStale
  dsimp only
  split <;> simp

@[simp] theorem db_attachBridge (b : BridgeId) (session : String) (routes : List String)
    (maxConns : Option Nat) (now : Nat) :
    (w.attachBridge setup m id b session routes maxConns now).db = w.db := by
  unfold attachBridge
  dsimp only
  split <;> simp

@[simp] theorem entry_attachBridge (b : BridgeId) (session : String) (routes : List String)
    (maxConns : Option Nat) (now : Nat) (id' : TunnelId) :
    (w.attachBridge setup m id b session routes maxConns now).entry m' id' = w.entry m' id' := by
  unfold attachBridge
  dsimp only
  split <;> simp

@[simp] theorem db_closedBridge (b : BridgeId) : (w.closedBridge setup m id b).db = w.db := by
  unfold closedBridge
  dsimp only
  split
  · split <;> simp
  · simp

/-- A bridge that closed leaves the list of its entry. -/
@[simp] theorem entry_closedBridge (b : BridgeId) (id' : TunnelId) :
    (w.closedBridge setup m id b).entry m' id' =
      if m' = m ∧ id' = id then
        { w.entry m id with bridges := (w.entry m id).bridges.filter (· != b) }
      else w.entry m' id' := by
  unfold closedBridge
  dsimp only
  split
  · split <;> simp
  · simp

@[simp] theorem db_registerBridge (t : Task) : (w.registerBridge t id).db = w.db := rfl

@[simp] theorem entry_registerBridge (t : Task) (id' : TunnelId) :
    (w.registerBridge t id).entry m' id' =
      if m' = t.machine ∧ id' = id then
        { w.entry t.machine id with
          bridges := (w.entry t.machine id).bridges ++ [(w.machine t.machine).nextBridge] }
      else w.entry m' id' := by
  simp [registerBridge]

/-- A bridge is registered under the next number, closed at once on a machine that drains. -/
@[simp] theorem bridge_registerBridge (t : Task) (b : BridgeId) :
    (w.registerBridge t id).bridge m' b =
      if m' = t.machine ∧ b = (w.machine t.machine).nextBridge then
        some (if (w.machine t.machine).draining then
          ({ owner := t, seenAt := w.now t.machine } : Bridge).close 1012
          else { owner := t, seenAt := w.now t.machine })
      else w.bridge m' b := by
  simp [registerBridge]

@[simp] theorem announced_registerBridge (t : Task) (b : BridgeId) :
    (w.registerBridge t id).announced m' b = w.announced m' b := by
  simp [registerBridge]

/-- The next number is used up. -/
@[simp] theorem nextBridge_registerBridge (t : Task) :
    ((w.registerBridge t id).machine m').nextBridge =
      if m' = t.machine then (w.machine t.machine).nextBridge + 1 else (w.machine m').nextBridge := by
  by_cases here : m' = t.machine
  · subst here
    simp [registerBridge, setEntry, addBridge]
  · simp [registerBridge, setEntry, addBridge, here]

/-- The bridges of an entry that `retire_stale` retires. -/
def staleBridges : List BridgeId := (w.entry m id).bridges.filter fun b => w.isStale m b

/-- The stale bridges of the tunnel are detached and closed. -/
@[simp] theorem bridge_retireStale (b : BridgeId) :
    (w.retireStale setup m id).bridge m' b =
      if m' = m ∧ b ∈ w.staleBridges m id then
        (w.bridge m' b).map fun bridge => ({ bridge with detached := true }.finishChannels).close 1001
      else w.bridge m' b := by
  unfold retireStale staleBridges
  dsimp only
  split <;> simp

/-- They are announced no more, if the record of the tunnel is cached. -/
@[simp] theorem announced_retireStale (b : BridgeId) :
    (w.retireStale setup m id).announced m' b =
      if m' = m ∧ b ∈ w.staleBridges m id ∧ (w.entry m id).record.isSome = true ∧ setup.clustered m = true then none
      else w.announced m' b := by
  unfold retireStale staleBridges
  dsimp only
  by_cases named : ((w.entry m id).record.isSome && setup.clustered m) = true
  · rw [if_pos named, announced_detachAll, announced_mapBridges]
    simp only [Bool.and_eq_true] at named
    simp [named]
  · rw [if_neg named, announced_mapBridges]
    simp only [Bool.and_eq_true] at named
    rw [if_neg]
    exact fun found => named found.2.2

@[simp] theorem nextBridge_retireStale :
    ((w.retireStale setup m id).machine m').nextBridge = (w.machine m').nextBridge := by
  by_cases here : m' = m
  · subst here
    unfold retireStale
    dsimp only
    split <;> simp [mapBridges, detachAll]
  · unfold retireStale
    dsimp only
    split <;> simp [mapBridges, detachAll, here]

section Attach

variable (b b' : BridgeId) (session : String) (routes : List String) (maxConns : Option Nat) (now : Nat)

/-- The bridge has a session, and nothing else of it or of others changes. -/
@[simp] theorem bridge_attachBridge :
    (w.attachBridge setup m id b session routes maxConns now).bridge m' b' =
      if m' = m ∧ b' = b then
        (w.bridge m' b').map fun bridge =>
          { bridge with attached := true, session := some session, routes := routes, maxConns := maxConns,
                        attachedAt := now, seenAt := now }
      else w.bridge m' b' := by
  unfold attachBridge
  dsimp only
  split <;> simp

/-- An attached bridge is announced if there are other machines. -/
@[simp] theorem announced_attachBridge :
    (w.attachBridge setup m id b session routes maxConns now).announced m' b' =
      if m' = m ∧ b' = b ∧ setup.clustered m = true then some ⟨id, routes, now⟩ else w.announced m' b' := by
  unfold attachBridge
  dsimp only
  split
  · rename_i clustered
    simp [clustered]
  · rename_i single
    simp [single]

@[simp] theorem nextBridge_attachBridge :
    ((w.attachBridge setup m id b session routes maxConns now).machine m').nextBridge =
      (w.machine m').nextBridge := by
  by_cases here : m' = m
  · subst here
    unfold attachBridge
    dsimp only
    split <;> simp [mapBridges, announce]
  · unfold attachBridge
    dsimp only
    split <;> simp [mapBridges, announce, here]

/-- An attached bridge is detached. -/
@[simp] theorem bridge_closedBridge :
    (w.closedBridge setup m id b).bridge m' b' =
      if m' = m ∧ b' = b ∧ (w.bridge m b).any (·.isAttached) = true then
        (w.bridge m' b').map fun bridge => { bridge with detached := true }.finishChannels
      else w.bridge m' b' := by
  unfold closedBridge
  dsimp only
  by_cases attached : (w.bridge m b).any (·.isAttached) = true
  · rw [if_pos attached]
    split <;> simp [attached]
  · rw [if_neg attached]
    simp [attached]

/-- It is announced no more. -/
@[simp] theorem announced_closedBridge :
    (w.closedBridge setup m id b).announced m' b' =
      if m' = m ∧ b' = b ∧ (w.bridge m b).any (·.isAttached) = true ∧ setup.clustered m = true then none
      else w.announced m' b' := by
  unfold closedBridge
  dsimp only
  by_cases attached : (w.bridge m b).any (·.isAttached) = true
  · rw [if_pos attached]
    split
    · rename_i clustered
      simp [attached, clustered]
    · rename_i single
      simp [single]
  · rw [if_neg attached]
    simp [attached]

@[simp] theorem nextBridge_closedBridge :
    ((w.closedBridge setup m id b).machine m').nextBridge = (w.machine m').nextBridge := by
  by_cases here : m' = m
  · subst here
    unfold closedBridge
    dsimp only
    split
    · split <;> simp [mapBridges, detachAll, setEntry]
    · simp [setEntry]
  · unfold closedBridge
    dsimp only
    split
    · split <;> simp [mapBridges, detachAll, setEntry, here]
    · simp [setEntry, here]

end Attach

/-- Routing leaves the state as it is, or registers the connection on a bridge. -/
theorem pick_cases (hostname : String) (ready : Bool) (sni : String) :
    (w.pick setup m id hostname ready sni).2 = w ∨
      ∃ b, (w.pick setup m id hostname ready sni).2 = (w.connect m id b).2 := by
  unfold pick
  dsimp only
  split
  · split
    · split
      · exact Or.inl rfl
      · exact Or.inr ⟨_, rfl⟩
    · exact Or.inl rfl
  · exact Or.inl rfl

@[simp] theorem db_connect (b : BridgeId) : (w.connect m id b).2.db = w.db := rfl

@[simp] theorem announced_connect (b b' : BridgeId) :
    (w.connect m id b).2.announced m' b' = w.announced m' b' := by
  simp [connect]

@[simp] theorem db_collectIdle (inUse : List TunnelId) : (w.collectIdle m inUse).db = w.db := rfl

/-- Collecting drops whole entries that nobody holds and that have no bridges. -/
theorem entry_collectIdle (inUse : List TunnelId) (id' : TunnelId) :
    (w.collectIdle m inUse).entry m' id' = w.entry m' id' ∨
      ((w.collectIdle m inUse).entry m' id' = {} ∧ (w.entry m' id').holder = none ∧
        (w.entry m' id').bridges = []) := by
  by_cases hm : m' = m
  · subst hm
    simp only [collectIdle, entry, machine_setMachine, if_true, Tasks.Table.get_update]
    cases held : (w.machine m').tunnels.get id' with
    | none => exact Or.inl rfl
    | some e =>
        simp only [Option.bind_some, Option.getD_some]
        split
        · exact Or.inl rfl
        · rename_i idle
          simp only [not_or, not_and] at idle
          obtain ⟨-, free, bare, -⟩ := idle
          right
          refine ⟨rfl, by simpa using free, by simpa using bare⟩
  · left
    simp [collectIdle, entry, hm]

@[simp] theorem db_publish (event : Event) : (w.publish m event).db = w.db := rfl

@[simp] theorem entry_publish (event : Event) : (w.publish m event).entry m' id = w.entry m' id := rfl

@[simp] theorem machine_write {α : Type} (w : World) (c : Choice) (run : Except Err α × Db)
    (m : MachineId) : (w.write c run).2.machine m = w.machine m := by
  unfold write
  cases c.fault <;> rfl

@[simp] theorem entry_write {α : Type} (w : World) (c : Choice) (run : Except Err α × Db)
    (m : MachineId) (id : TunnelId) : (w.write c run).2.entry m id = w.entry m id := by
  simp [entry]

end Bridges

end World

/-! ### Rows -/

namespace Db

section JobStatements

variable (db : Db) (c : CertificateId)

/-- A guarded update of a job changes nothing, or its row where the guard holds. -/
theorem updateJob_cases (guard : JobRow → Bool) (update : JobRow → JobRow) :
    (db.updateJob c guard update = (false, db) ∧ (∀ row, db.job c = some row → guard row = false)) ∨
      ∃ row, db.job c = some row ∧ guard row = true ∧
        db.updateJob c guard update = (true, db.putJob c (update row)) := by
  unfold updateJob
  cases found : db.job c with
  | none => exact Or.inl ⟨rfl, by simp⟩
  | some row =>
      cases met : guard row with
      | false => exact Or.inl ⟨by simp [met], by simp [met]⟩
      | true => exact Or.inr ⟨row, rfl, met, by simp [met]⟩

/-- Two databases with the same `tunnels` table and the same transactions on it. -/
structure SameTunnels (db db' : Db) : Prop where
  tunnels : db'.tunnels = db.tunnels
  transactions : db'.transactions = db.transactions

theorem SameTunnels.refl (db : Db) : SameTunnels db db := ⟨rfl, rfl⟩

theorem SameTunnels.of_eq {db db' : Db} (same : db' = db) : SameTunnels db db' := same ▸ .refl db

theorem sameTunnels_updateJob (guard : JobRow → Bool) (update : JobRow → JobRow) :
    SameTunnels db (db.updateJob c guard update).2 := by
  rcases updateJob_cases db c guard update with ⟨same, -⟩ | ⟨row, -, -, changed⟩
  · rw [same]
    exact .refl db
  · rw [changed]
    exact ⟨rfl, rfl⟩

theorem sameTunnels_addJob (job : Job) (runAt : Nat) : SameTunnels db (db.addJob job runAt).2 := by
  unfold addJob
  split
  · exact ⟨rfl, rfl⟩
  · exact .refl db

theorem sameTunnels_claimJob (owner : MachineId) (now : Nat) :
    SameTunnels db (db.claimJob c owner now).2 := by
  unfold claimJob
  split
  · split
    · exact ⟨rfl, rfl⟩
    · exact .refl db
  · exact .refl db

end JobStatements

end Db

/-- What an act may do to the rows of `tunnels`. -/
inductive RowStep (t : Task) (op : Act) (w w' : World) : Prop where
  | same (rows : Db.SameTunnels w.db w'.db)
  | saved (id : TunnelId) (change : Change) (record : StoredTunnel) (revision : Nat)
      (act : op = .save id change) (held : w.holds t id = true) (made : change.apply id (w.entry t.machine id).record = some record)
      (free : w.db.free record.id = true)
      (wrote : w.db.saveTunnel record (w.entry t.machine id).revision = (.ok revision, w'.db))
  | alarm (id : TunnelId) (at_ : Option Nat)
      (act : op = .setAlarm id at_ ∨ ∃ due, op = .clearAlarm id due ∧ w.db.alarm id = some due ∧ at_ = none)
      (free : w.db.free id = true) (wrote : w'.db = w.db.setAlarm id at_)
  | inserted (record : StoredTunnel) (alarmAt : Option Nat) (act : op = .importInsert record alarmAt)
      (missing : w.db.row record.id = none)
      (wrote : w'.db = w.db.putRow record.id (Db.importedRow record 1 alarmAt))
  | began (id : TunnelId) (row : Row) (free : w.db.free id = true) (found : w.db.row id = some row)
      (wrote : w'.db = w.db.begin t id row)
  | staged (record : StoredTunnel) (alarmAt : Option Nat) (act : op = .importUpdate record alarmAt)
      (within : w.db.inTransaction t record.id = true)
      (wrote : w'.db = w.db.stage t record alarmAt)
  | rolledBack (id : TunnelId) (within : w.db.inTransaction t id = true)
      (wrote : w'.db = w.db.rollback id)
  | committed (id : TunnelId) (act : op = .importCommit id) (within : w.db.inTransaction t id = true)
      (wrote : w'.db = w.db.commit id)

namespace World

/-- A statement that was sent took effect or not, and changed nothing but the database. -/
theorem write_spec {α : Type} {w w' : World} {c : Choice} {run : Except Err α × Db} {ans : Except Err α}
    (h : w.write c run = (ans, w')) :
    (c.fault = .none ∧ ans = run.1 ∧ w' = w.setDb run.2) ∨
      (c.fault = .failed ∧ ans = .error c.error ∧ w' = w) ∨
      (c.fault = .late ∧ ans = .error c.error ∧ w' = w.setDb run.2) := by
  unfold write at h
  cases fault : c.fault with
  | none =>
      rw [fault] at h
      cases h
      exact Or.inl ⟨rfl, rfl, rfl⟩
  | failed =>
      rw [fault] at h
      cases h
      exact Or.inr (Or.inl ⟨rfl, rfl, rfl⟩)
  | late =>
      rw [fault] at h
      cases h
      exact Or.inr (Or.inr ⟨rfl, rfl, rfl⟩)

/-- A statement took effect or not, whatever it answers. -/
theorem write_db {α : Type} {w w' : World} {c : Choice} {run : Except Err α × Db} {ans : Except Err α}
    (h : w.write c run = (ans, w')) : w'.db = w.db ∨ w'.db = run.2 := by
  rcases write_spec h with ⟨-, -, rfl⟩ | ⟨-, -, rfl⟩ | ⟨-, -, rfl⟩
  · exact Or.inr rfl
  · exact Or.inl rfl
  · exact Or.inr rfl

/-- A statement on a row waits for no transaction. -/
theorem onRow_spec {α : Type} {w w' : World} {id : TunnelId} {c : Choice}
    {run : Except Err α × Db} {ans : Except Err α} (h : w.onRow id c run = some (ans, w')) :
    w.db.free id = true ∧ w.write c run = (ans, w') := by
  unfold onRow at h
  split at h
  · rename_i free
    exact ⟨free, Option.some.inj h⟩
  · cases h

/-- An act on an entry needs its lock. -/
theorem onEntry_spec {α : Type} {w w' : World} {t : Task} {id : TunnelId} {run : Entry → α × World}
    {ans : α} (h : w.onEntry t id run = some (ans, w')) :
    w.holds t id = true ∧ run (w.entry t.machine id) = (ans, w') := by
  unfold onEntry at h
  split at h
  · rename_i held
    exact ⟨held, Option.some.inj h⟩
  · cases h

end World

/-- An alarm is cleared only if it is still the one that was due. -/
theorem Db.clearAlarm_cases (db : Db) (id : TunnelId) (at_ : Nat) :
    (db.clearAlarm id at_ = (false, db) ∧ db.alarm id ≠ some at_) ∨
      (db.clearAlarm id at_ = (true, db.setAlarm id none) ∧ db.alarm id = some at_) := by
  unfold clearAlarm setAlarm alarm
  cases found : db.row id with
  | none => exact Or.inl ⟨rfl, by simp⟩
  | some row =>
      by_cases due : row.alarmAt = some at_
      · exact Or.inr ⟨by simp [due], by simpa using due⟩
      · exact Or.inl ⟨by simp [due], by simpa using due⟩

/-- A save is refused, or adds a first row, or replaces the revision that was read. -/
theorem Db.saveTunnel_cases (db : Db) (record : StoredTunnel) (revision : Nat) :
    db.saveTunnel record revision = (.error .conflict, db) ∨
      (revision = 0 ∧ db.row record.id = none ∧
        db.saveTunnel record revision = (.ok 1, db.putRow record.id (savedRow record 1 none))) ∨
      (∃ row, revision ≠ 0 ∧ db.row record.id = some row ∧ row.revision = revision ∧
        db.saveTunnel record revision =
          (.ok (revision + 1), db.putRow record.id (savedRow record (revision + 1) row.alarmAt))) := by
  unfold saveTunnel
  cases found : db.row record.id with
  | none =>
      by_cases fresh : revision = 0
      · exact Or.inr (Or.inl ⟨fresh, rfl, by simp [fresh]⟩)
      · exact Or.inl (by simp [fresh])
  | some row =>
      by_cases fresh : revision = 0
      · exact Or.inl (by simp [fresh])
      · by_cases same : row.revision = revision
        · exact Or.inr (Or.inr ⟨row, fresh, rfl, same, by simp [fresh, same]⟩)
        · exact Or.inl (by simp [fresh, same])

namespace World

section Save

variable {w : World} {m : MachineId} {id : TunnelId} {c : Choice} {record : StoredTunnel}

/-- A save that failed wrote nothing. -/
theorem save_failed (fault : c.fault = .failed) : w.save m id c record = (.error c.error, w) := by
  unfold save write Choice.error
  rw [fault]
  cases c.contended <;> rfl

/-- A save whose answer was lost did what the statement does. -/
theorem save_late (fault : c.fault = .late) :
    w.save m id c record =
      (.error c.error, w.setDb (w.db.saveTunnel record (w.entry m id).revision).2) := by
  unfold save write Choice.error
  rw [fault]
  cases c.contended <;> rfl

/-- A refused save drops the cached record. -/
theorem save_conflict (fault : c.fault = .none)
    (conflict : w.db.saveTunnel record (w.entry m id).revision = (.error .conflict, w.db)) :
    w.save m id c record = (.error .conflict, w.setEntry m id (w.entry m id).unloaded) := by
  unfold save write
  dsimp only
  rw [fault]
  dsimp only
  rw [conflict]
  rfl

/-- A save that succeeded leaves the row and the entry with the new revision. -/
theorem save_ok {revision : Nat} {db : Db} (fault : c.fault = .none)
    (wrote : w.db.saveTunnel record (w.entry m id).revision = (.ok revision, db)) :
    w.save m id c record =
      (.ok (), (w.setDb db).setEntry m id
        { w.entry m id with revision := revision, record := some record }) := by
  unfold save write
  dsimp only
  rw [fault]
  dsimp only
  rw [wrote]

end Save

end World

section Exec

variable {setup : Setup} {t : Task} {op : Act} {c : Choice} {w w' : World} {ans : op.Ans}

/-- What a save does: it fails and leaves the database, it conflicts and the entry is dropped, or it writes the
    row, and then the entry follows unless the answer was lost. -/
theorem exec_save {id : TunnelId} {change : Change} {ans : Except Err Unit}
    (h : exec setup t (.save id change) c w = some (ans, w')) :
    ∃ record, w.holds t id = true ∧ change.apply id (w.entry t.machine id).record = some record ∧
      w.db.free record.id = true ∧
      ((c.fault = .failed ∧ ans = .error c.error ∧ w' = w) ∨
       (c.fault = .late ∧ ans = .error c.error ∧
         w' = w.setDb (w.db.saveTunnel record (w.entry t.machine id).revision).2) ∨
       (c.fault = .none ∧ ans = .error .conflict ∧
         w.db.saveTunnel record (w.entry t.machine id).revision = (.error .conflict, w.db) ∧
         w' = w.setEntry t.machine id (w.entry t.machine id).unloaded) ∨
       (∃ revision db, c.fault = .none ∧ ans = .ok () ∧
         w.db.saveTunnel record (w.entry t.machine id).revision = (.ok revision, db) ∧
         w' = (w.setDb db).setEntry t.machine id
           { w.entry t.machine id with revision := revision, record := some record })) := by
  simp only [exec] at h
  split at h
  · rename_i held
    cases made : change.apply id (w.entry t.machine id).record with
    | none => simp [made] at h
    | some record =>
        simp only [made, Option.bind_some] at h
        split at h
        · rename_i free
          refine ⟨record, held, rfl, free, ?_⟩
          have saved := Option.some.inj h
          cases fault : c.fault with
          | failed =>
              rw [World.save_failed fault] at saved
              cases saved
              exact Or.inl ⟨rfl, rfl, rfl⟩
          | late =>
              rw [World.save_late fault] at saved
              cases saved
              exact Or.inr (Or.inl ⟨rfl, rfl, rfl⟩)
          | none =>
              right; right
              rcases Db.saveTunnel_cases w.db record (w.entry t.machine id).revision with
                conflict | ⟨-, -, wrote⟩ | ⟨row, -, -, -, wrote⟩
              · rw [World.save_conflict fault conflict] at saved
                cases saved
                exact Or.inl ⟨rfl, rfl, conflict, rfl⟩
              · rw [World.save_ok fault wrote] at saved
                cases saved
                exact Or.inr ⟨_, _, rfl, rfl, wrote, rfl⟩
              · rw [World.save_ok fault wrote] at saved
                cases saved
                exact Or.inr ⟨_, _, rfl, rfl, wrote, rfl⟩
        · cases h
  · cases h

/-- The acts change the rows of `tunnels` in these ways only. -/
theorem exec_rows (h : exec setup t op c w = some (ans, w')) : RowStep t op w w' := by
  cases op
  case save id change =>
      obtain ⟨record, held, made, free, ⟨-, -, rfl⟩ | ⟨-, -, rfl⟩ | ⟨-, -, -, rfl⟩ |
        ⟨revision, db, -, -, wrote, rfl⟩⟩ := exec_save h
      · exact .same (.refl _)
      · rcases Db.saveTunnel_cases w.db record (w.entry t.machine id).revision with
          conflict | ⟨-, -, wrote⟩ | ⟨row, -, -, -, wrote⟩
        · rw [conflict]
          exact .same (.refl _)
        · rw [wrote]
          exact .saved id change record _ rfl held made free wrote
        · rw [wrote]
          exact .saved id change record _ rfl held made free wrote
      · exact .same (.refl _)
      · exact .saved id change record revision rfl held made free wrote
  case setAlarm id at_ =>
      obtain ⟨free, sent⟩ := World.onRow_spec h
      rcases World.write_db sent with same | changed
      · exact .same (.of_eq same)
      · exact .alarm id at_ (Or.inl rfl) free changed
  case clearAlarm id at_ =>
      obtain ⟨free, sent⟩ := World.onRow_spec h
      rcases World.write_db sent with same | changed
      · exact .same (.of_eq same)
      · rcases Db.clearAlarm_cases w.db id at_ with ⟨kept, -⟩ | ⟨cleared, due⟩
        · rw [kept] at changed
          exact .same (.of_eq changed)
        · rw [cleared] at changed
          exact .alarm id none (Or.inr ⟨at_, rfl, due, rfl⟩) free changed
  case importInsert record alarmAt =>
      obtain ⟨-, sent⟩ := World.onRow_spec h
      rcases World.write_db sent with same | changed
      · exact .same (.of_eq same)
      · cases found : w.db.row record.id with
        | none =>
            simp only [sure, Db.importInsert, found] at changed
            exact .inserted record alarmAt rfl found changed
        | some row =>
            simp only [sure, Db.importInsert, found] at changed
            exact .same (.of_eq changed)
  case importSelect id =>
      simp only [exec] at h
      split at h
      · rename_i free
        split at h
        · rename_i row found _
          cases h
          exact .began id row free found rfl
        · cases h
          exact .same (.refl _)
      · cases h
  case importUpdate record alarmAt =>
      simp only [exec] at h
      split at h
      · rename_i within
        split at h
        · cases h
          exact .staged record alarmAt rfl within rfl
        · cases h
          exact .rolledBack record.id within rfl
      · cases h
  case importCommit id =>
      simp only [exec] at h
      split at h
      · rename_i within
        split at h
        · cases h
          exact .committed id rfl within rfl
        · cases h
          exact .rolledBack id within rfl
        · cases h
          exact .committed id rfl within rfl
      · cases h
  case addJob | claimJob | extendLease | releaseLeases | finishJob | retryJob | requeueFailedJob |
      requeueJobQueuedBefore =>
      -- a statement on `jobs`
      rcases World.write_db (Option.some.inj h) with same | changed
      · exact .same (.of_eq same)
      · refine .same ?_
        rw [changed]
        first
          | exact Db.sameTunnels_updateJob ..
          | exact Db.sameTunnels_addJob ..
          | exact Db.sameTunnels_claimJob ..
          | exact ⟨rfl, rfl⟩
  case pick id hostname ready sni =>
      simp only [exec] at h
      obtain ⟨-, picked⟩ := World.onEntry_spec h
      have after : w' = (w.pick setup t.machine id hostname ready sni).2 := by rw [picked]
      rcases World.pick_cases setup w t.machine id hostname ready sni with same | ⟨b, same⟩
      · exact .same (.of_eq (by rw [after, same]))
      · exact .same (.of_eq (by rw [after, same, World.db_connect]))
  all_goals
    -- no statement that writes
    refine .same (.of_eq ?_)
    simp only [exec, World.onEntry, World.receive] at h
    repeat' split at h
    all_goals cases h
    all_goals first | rfl | simp

end Exec

/-! ### Entries -/

/-- What an act may do to one entry. Only the task that holds an entry's lock changes it, except that a free one
    may be locked and an idle one collected. -/
inductive EntryStep (t : Task) (op : Act) (w w' : World) (m : MachineId) (id : TunnelId) : Prop where
  | same (after : w'.entry m id = w.entry m id)
  | collected (free : (w.entry m id).holder = none) (bare : (w.entry m id).bridges = [])
      (after : w'.entry m id = {})
  | locked (here : m = t.machine) (free : (w.entry m id).holder = none)
      (after : w'.entry m id = { w.entry m id with holder := some t })
  | unlocked (act : op = .unlock id) (here : m = t.machine) (held : w.holds t id = true)
      (after : w'.entry m id = { w.entry m id with holder := none })
  | read (here : m = t.machine) (held : w.holds t id = true) (rows : w'.db = w.db)
      (after : w'.entry m id =
        { w.entry m id with
          loaded := true, record := (w.db.stored id).1, revision := (w.db.stored id).2 })
  | noted (here : m = t.machine) (held : w.holds t id = true) (checkedAt generation sequence : Nat)
      (stale : Bool) (alarm : Option (Nat × Option Nat))
      (after : w'.entry m id =
        { w.entry m id with
          checkedAt := checkedAt, generation := generation, sequence := sequence, stale := stale,
          alarm := alarm })
  | unloaded (here : m = t.machine) (held : w.holds t id = true)
      (after : w'.entry m id = (w.entry m id).unloaded)
  | saved (here : m = t.machine) (held : w.holds t id = true) (change : Change) (record : StoredTunnel)
      (revision : Nat) (made : change.apply id (w.entry m id).record = some record)
      (wrote : w.db.saveTunnel record (w.entry m id).revision = (.ok revision, w'.db))
      (after : w'.entry m id = { w.entry m id with revision := revision, record := some record })
  | bridged (here : m = t.machine) (held : w.holds t id = true) (bridges : List BridgeId)
      (after : w'.entry m id = { w.entry m id with bridges := bridges })

section ExecEntry

variable {setup : Setup} {t : Task} {op : Act} {c : Choice} {w w' : World} {ans : op.Ans}

/-- An entry set by the task that holds it: the step is the one at that entry, and no other changes. -/
theorem EntryStep.of_setEntry {id' : TunnelId} {e : Entry}
    (changed : ∀ m id, w'.entry m id = if m = t.machine ∧ id = id' then e else w.entry m id)
    (m : MachineId) (id : TunnelId)
    (at_ : m = t.machine → id = id' → w'.entry m id = e → EntryStep t op w w' m id) :
    EntryStep t op w w' m id := by
  by_cases here : m = t.machine ∧ id = id'
  · obtain ⟨rfl, rfl⟩ := here
    exact at_ rfl rfl (by simp [changed])
  · exact .same (by simp [changed, here])

/-- The acts change entries in these ways only. -/
theorem exec_entry (h : exec setup t op c w = some (ans, w')) (m : MachineId) (id : TunnelId) :
    EntryStep t op w w' m id := by
  cases op
  case lock id' =>
      simp only [exec] at h
      split at h
      · rename_i free
        cases h
        refine .of_setEntry (fun _ _ => World.entry_setEntry ..) m id fun here hid after => ?_
        subst here hid
        exact .locked rfl free after
      · cases h
  case unlock id' =>
      simp only [exec] at h
      obtain ⟨held, run⟩ := World.onEntry_spec h
      cases run
      refine .of_setEntry (fun _ _ => World.entry_setEntry ..) m id fun here hid after => ?_
      subst here hid
      exact .unlocked rfl rfl held after
  case collectIdle =>
      simp only [exec] at h
      cases h
      rcases World.entry_collectIdle w t.machine m c.inUse id with same | ⟨after, free, bare⟩
      · exact .same same
      · exact .collected free bare after
  case read id' =>
      simp only [exec] at h
      obtain ⟨held, run⟩ := World.onEntry_spec h
      split at run
      · cases run
        refine .of_setEntry (fun _ _ => World.entry_setEntry ..) m id fun here hid after => ?_
        subst here hid
        exact .read rfl held rfl after
      · cases run
        exact .same rfl
  case stamp id' stamp =>
      simp only [exec] at h
      obtain ⟨held, run⟩ := World.onEntry_spec h
      cases run
      refine .of_setEntry (fun _ _ => World.entry_setEntry ..) m id fun here hid after => ?_
      subst here hid
      exact .noted rfl held _ _ _ _ _ after
  case unload id' =>
      simp only [exec] at h
      obtain ⟨held, run⟩ := World.onEntry_spec h
      cases run
      refine .of_setEntry (fun _ _ => World.entry_setEntry ..) m id fun here hid after => ?_
      subst here hid
      exact .unloaded rfl held after
  case markStale id' =>
      simp only [exec] at h
      obtain ⟨held, run⟩ := World.onEntry_spec h
      cases run
      refine .of_setEntry (fun _ _ => World.entry_setEntry ..) m id fun here hid after => ?_
      subst here hid
      exact .noted rfl held _ _ _ _ _ after
  case save id' change =>
      obtain ⟨record, held, made, -, ⟨-, -, rfl⟩ | ⟨-, -, rfl⟩ | ⟨-, -, -, rfl⟩ |
        ⟨revision, db, -, -, wrote, rfl⟩⟩ := exec_save h
      · exact .same rfl
      · exact .same rfl
      · refine .of_setEntry (fun _ _ => World.entry_setEntry ..) m id fun here hid after => ?_
        subst here hid
        exact .unloaded rfl held after
      · refine .of_setEntry (fun m id => by rw [World.entry_setEntry, World.entry_setDb]) m id
          fun here hid after => ?_
        subst here hid
        exact .saved rfl held change record revision made wrote after
  case registerBridge id' =>
      simp only [exec] at h
      obtain ⟨held, run⟩ := World.onEntry_spec h
      cases run
      refine .of_setEntry (fun _ _ => World.entry_registerBridge ..) m id
        fun here hid after => ?_
      subst here hid
      exact .bridged rfl held _ after
  case closedBridge id' b =>
      simp only [exec] at h
      obtain ⟨held, run⟩ := World.onEntry_spec h
      cases run
      refine .of_setEntry (fun _ _ => World.entry_closedBridge ..) m id
        fun here hid after => ?_
      subst here hid
      exact .bridged rfl held _ after
  case pick id' hostname ready sni =>
      simp only [exec] at h
      obtain ⟨held, picked⟩ := World.onEntry_spec h
      have after : w' = (w.pick setup t.machine id' hostname ready sni).2 := by rw [picked]
      rcases World.pick_cases setup w t.machine id' hostname ready sni with same | ⟨b, same⟩
      · exact .same (by rw [after, same])
      · rw [same] at after
        subst after
        refine .of_setEntry (fun _ _ => (World.entry_mapBridges ..).trans (World.entry_setEntry ..)) m id
          fun here hid after => ?_
        subst here hid
        exact .noted rfl held _ _ _ _ _ after
  all_goals
    refine .same ?_
    simp only [exec, World.onEntry, World.receive] at h
    repeat' split at h
    all_goals first
      | cases h
      | (rcases World.write_spec (Option.some.inj h) with ⟨-, -, rfl⟩ | ⟨-, -, rfl⟩ | ⟨-, -, rfl⟩ <;> rfl)
      | (obtain ⟨-, sent⟩ := World.onRow_spec h
         rcases World.write_spec sent with ⟨-, -, rfl⟩ | ⟨-, -, rfl⟩ | ⟨-, -, rfl⟩ <;> rfl)
    all_goals first | rfl | simp | (exact World.entry_setMachine _ _ _ _ rfl)

end ExecEntry

/-! ### Locked entries -/

section Held

variable {setup : Setup} {t : Task} {c : Choice} {w w' : World} {id : TunnelId}

theorem World.holds_iff : w.holds t id = true ↔ (w.entry t.machine id).holder = some t := by
  simp [World.holds]

/-- A lock is taken when nobody holds it. -/
theorem exec_lock {ans : Unit} (h : exec setup t (.lock id) c w = some (ans, w')) :
    (w.entry t.machine id).holder = none ∧
      w' = w.setEntry t.machine id { w.entry t.machine id with holder := some t } := by
  simp only [exec] at h
  split at h
  · rename_i free
    cases h
    exact ⟨free, rfl⟩
  · cases h

/-- Only the holder gives a lock back. -/
theorem exec_unlock {ans : Unit} (h : exec setup t (.unlock id) c w = some (ans, w')) :
    w.holds t id = true ∧ w' = w.setEntry t.machine id { w.entry t.machine id with holder := none } := by
  simp only [exec] at h
  obtain ⟨held, run⟩ := World.onEntry_spec h
  cases run
  exact ⟨held, rfl⟩

/-- The holder sees the entry as it is. -/
theorem exec_peek {e : Entry} (h : exec setup t (.peek id) c w = some (e, w')) :
    w.holds t id = true ∧ e = w.entry t.machine id ∧ w' = w := by
  simp only [exec] at h
  obtain ⟨held, run⟩ := World.onEntry_spec h
  cases run
  exact ⟨held, rfl, rfl⟩

/-- A read loads the row into the entry, or fails and leaves it. -/
theorem exec_read {ans : Except Err (Option (Option Nat))} (h : exec setup t (.read id) c w = some (ans, w')) :
    w.holds t id = true ∧
      ((ans = .ok ((w.db.row id).map (·.alarmAt)) ∧ c.fault = .none ∧
        w' = w.setEntry t.machine id
          { w.entry t.machine id with
            loaded := true, record := (w.db.stored id).1, revision := (w.db.stored id).2 }) ∨
      (ans = .error c.error ∧ c.fault ≠ .none ∧ w' = w)) := by
  simp only [exec] at h
  obtain ⟨held, run⟩ := World.onEntry_spec h
  refine ⟨held, ?_⟩
  cases fault : c.fault with
  | none =>
      simp only [Choice.query, fault] at run
      cases run
      exact Or.inl ⟨rfl, rfl, rfl⟩
  | failed =>
      simp only [Choice.query, fault] at run
      cases run
      exact Or.inr ⟨rfl, by simp, rfl⟩
  | late =>
      simp only [Choice.query, fault] at run
      cases run
      exact Or.inr ⟨rfl, by simp, rfl⟩

/-- The holder notes when it checked the entry. -/
theorem exec_stamp {stamp : Stamp} {ans : Unit} (h : exec setup t (.stamp id stamp) c w = some (ans, w')) :
    w.holds t id = true ∧ w' = w.setEntry t.machine id
      { w.entry t.machine id with
        checkedAt := stamp.checkedAt, stale := false, generation := stamp.generation, alarm := stamp.alarm } := by
  simp only [exec] at h
  obtain ⟨held, run⟩ := World.onEntry_spec h
  cases run
  exact ⟨held, rfl⟩

end Held

/-! ### Moves -/

/-- The surroundings change neither the database nor the entries. -/
theorem move_frame {mv : Move} {w w' : World} (h : move mv w = some w') :
    w'.db = w.db ∧ ∀ m id, w'.entry m id = w.entry m id := by
  cases mv with
  | clocks times =>
      cases h
      exact ⟨rfl, fun _ _ => rfl⟩
  | touch m b =>
      cases h
      exact ⟨rfl, fun _ _ => World.entry_mapBridges ..⟩
  | close m b code =>
      cases h
      exact ⟨rfl, fun _ _ => World.entry_mapBridges ..⟩
  | channelEnds m b conn =>
      cases h
      exact ⟨rfl, fun _ _ => World.entry_mapBridges ..⟩
  | visitorEnds m b =>
      cases h
      exact ⟨rfl, fun _ _ => World.entry_mapBridges ..⟩
  | meshComplete m complete =>
      cases h
      exact ⟨rfl, fun _ _ => World.entry_setMachine _ _ _ _ rfl⟩
  | deliver source target =>
      simp only [move] at h
      split at h
      · cases h
        exact ⟨rfl, fun _ _ => World.entry_setMachine _ _ _ _ rfl⟩
      · cases h
  | linkDown source target =>
      cases h
      exact ⟨rfl, fun _ _ => rfl⟩
  | linkUp source target =>
      cases h
      exact ⟨rfl, fun _ _ => World.entry_setMachine _ _ _ _ rfl⟩

/-! ### Bridges -/

/-- A bridge as it was, except for its traffic; once closing it stays so. -/
structure Bridge.Kept (old new : Bridge) : Prop where
  owner : new.owner = old.owner
  attached : new.attached = old.attached
  detached : new.detached = old.detached
  routes : new.routes = old.routes
  closing : old.isClosing = true → new.isClosing = true

theorem Bridge.Kept.refl (bridge : Bridge) : bridge.Kept bridge := ⟨rfl, rfl, rfl, rfl, id⟩

theorem Bridge.Kept.isAttached {old new : Bridge} (kept : old.Kept new) : new.isAttached = old.isAttached := by
  unfold Bridge.isAttached
  rw [kept.attached, kept.detached]

/-- No bridge is registered, attached, detached or announced. -/
structure SameBridges (w w' : World) : Prop where
  kept : ∀ m b, (w.bridge m b = none ∧ w'.bridge m b = none) ∨
    ∃ old new, w.bridge m b = some old ∧ w'.bridge m b = some new ∧ old.Kept new
  announced : ∀ m b, w'.announced m b = w.announced m b
  listed : ∀ m id, (w'.entry m id).bridges = (w.entry m id).bridges
  next : ∀ m, (w'.machine m).nextBridge = (w.machine m).nextBridge

namespace SameBridges

variable {w w' : World}

theorem of_bridges (bridges : ∀ m b, w'.bridge m b = w.bridge m b)
    (announced : ∀ m b, w'.announced m b = w.announced m b)
    (listed : ∀ m id, (w'.entry m id).bridges = (w.entry m id).bridges)
    (next : ∀ m, (w'.machine m).nextBridge = (w.machine m).nextBridge) : SameBridges w w' := by
  refine ⟨?_, announced, listed, next⟩
  intro m b
  rw [bridges]
  cases found : w.bridge m b with
  | none => exact Or.inl ⟨rfl, rfl⟩
  | some bridge => exact Or.inr ⟨bridge, bridge, rfl, rfl, .refl bridge⟩

theorem refl (w : World) : SameBridges w w :=
  of_bridges (fun _ _ => rfl) (fun _ _ => rfl) (fun _ _ => rfl) fun _ => rfl

theorem of_machine (m : MachineId) {machine : Machine} (bridges : machine.bridges = (w.machine m).bridges)
    (announced : machine.announced = (w.machine m).announced) (tunnels : machine.tunnels = (w.machine m).tunnels)
    (next : machine.nextBridge = (w.machine m).nextBridge) : SameBridges w (w.setMachine m machine) := by
  refine of_bridges (fun _ _ => World.bridge_setMachine _ _ _ _ bridges)
    (fun _ _ => World.announced_setMachine _ _ _ _ announced) ?_ ?_
  · intro m' id
    rw [World.entry_setMachine _ _ _ _ tunnels]
  · intro m'
    by_cases here : m' = m
    · subst here
      simpa using next
    · simp [here]

theorem of_setEntry (m : MachineId) (id : TunnelId) {e : Entry} (bridges : e.bridges = (w.entry m id).bridges) :
    SameBridges w (w.setEntry m id e) := by
  refine of_bridges (fun _ _ => World.bridge_setEntry ..) (fun _ _ => World.announced_setEntry ..) ?_ ?_
  · intro m' id'
    rw [World.entry_setEntry]
    split
    · rename_i here
      rw [bridges, here.1, here.2]
    · rfl
  · intro m'
    by_cases here : m' = m
    · subst here
      simp [World.setEntry]
    · simp [World.setEntry, here]

theorem of_setDb (db : Db) : SameBridges w (w.setDb db) :=
  of_bridges (fun _ _ => rfl) (fun _ _ => rfl) (fun _ _ => rfl) fun _ => rfl

theorem of_mapBridges (m : MachineId) (ids : List BridgeId) {f : Bridge → Bridge}
    (keeps : ∀ bridge : Bridge, bridge.Kept (f bridge)) :
    SameBridges w (w.mapBridges m ids f) := by
  refine ⟨?_, fun _ _ => World.announced_mapBridges .., ?_, ?_⟩
  · intro m' b
    rw [World.bridge_mapBridges]
    cases found : w.bridge m' b with
    | none => simp
    | some bridge =>
        right
        split
        · exact ⟨bridge, f bridge, rfl, rfl, keeps bridge⟩
        · exact ⟨bridge, bridge, rfl, rfl, .refl bridge⟩
  · intro m' id
    rw [World.entry_mapBridges]
  · intro m'
    by_cases here : m' = m
    · subst here
      simp [World.mapBridges]
    · simp [World.mapBridges, here]

theorem trans {w'' : World} (first : SameBridges w w') (second : SameBridges w' w'') : SameBridges w w'' := by
  refine ⟨?_, fun m b => (second.announced m b).trans (first.announced m b),
    fun m id => (second.listed m id).trans (first.listed m id),
    fun m => (second.next m).trans (first.next m)⟩
  intro m b
  rcases first.kept m b with ⟨before, mid⟩ | ⟨old, new, before, mid, kept⟩
  · rcases second.kept m b with ⟨-, after⟩ | ⟨old', new', mid', -, -⟩
    · exact Or.inl ⟨before, after⟩
    · rw [mid] at mid'
      cases mid'
  · rcases second.kept m b with ⟨mid', -⟩ | ⟨old', new', mid', after, kept'⟩
    · rw [mid] at mid'
      cases mid'
    · rw [mid] at mid'
      cases mid'
      exact Or.inr ⟨old, new', before, after,
        ⟨kept'.owner.trans kept.owner, kept'.attached.trans kept.attached, kept'.detached.trans kept.detached,
          kept'.routes.trans kept.routes, fun closing => kept'.closing (kept.closing closing)⟩⟩

theorem of_notify (m : MachineId) (notice : Notice) : SameBridges w (w.notify m notice) :=
  of_machine m rfl rfl rfl rfl

theorem of_setWire (a b : MachineId) (wire : Option (List Event)) : SameBridges w (w.setWire a b wire) :=
  of_bridges (fun _ _ => rfl) (fun _ _ => rfl) (fun _ _ => rfl) fun _ => rfl

theorem of_collectIdle (m : MachineId) (inUse : List TunnelId) : SameBridges w (w.collectIdle m inUse) := by
  refine of_bridges (fun _ _ => World.bridge_setMachine _ _ _ _ rfl)
    (fun _ _ => World.announced_setMachine _ _ _ _ rfl) ?_ ?_
  · intro m' id
    rcases World.entry_collectIdle w m m' inUse id with same | ⟨after, -, bare⟩
    · rw [same]
    · rw [after, bare]
  · intro m'
    by_cases here : m' = m
    · subst here
      simp [World.collectIdle]
    · simp [World.collectIdle, here]

theorem of_write {α : Type} {c : Choice} {run : Except Err α × Db} {ans : Except Err α}
    (sent : w.write c run = (ans, w')) : SameBridges w w' := by
  rcases World.write_spec sent with ⟨-, -, rfl⟩ | ⟨-, -, rfl⟩ | ⟨-, -, rfl⟩
  · exact of_setDb _
  · exact refl _
  · exact of_setDb _

theorem of_connect (m : MachineId) (id : TunnelId) (b : BridgeId) : SameBridges w (w.connect m id b).2 := by
  unfold World.connect
  dsimp only
  refine trans (of_setEntry m id ?_) (of_mapBridges m [b] ?_)
  · rfl
  · exact fun _ => ⟨rfl, rfl, rfl, rfl, fun closing => closing⟩

end SameBridges

/-- What an act may do to the bridges. -/
inductive BridgeStep (setup : Setup) (t : Task) (op : Act) (w w' : World) : Prop where
  | same (same : SameBridges w w')
  | registered (id : TunnelId) (act : op = .registerBridge id) (held : w.holds t id = true)
      (after : w' = w.registerBridge t id)
  | retired (id : TunnelId) (act : op = .retireStale id) (held : w.holds t id = true)
      (after : w' = w.retireStale setup t.machine id)
  | attached (id : TunnelId) (b : BridgeId) (session : String) (routes : List String) (maxConns : Option Nat)
      (now : Nat) (act : op = .attachBridge id b session routes maxConns now) (held : w.holds t id = true)
      (after : w' = w.attachBridge setup t.machine id b session routes maxConns now)
  | closed (id : TunnelId) (b : BridgeId) (act : op = .closedBridge id b) (held : w.holds t id = true)
      (after : w' = w.closedBridge setup t.machine id b)

section ExecBridges

variable {setup : Setup} {t : Task} {op : Act} {c : Choice} {w w' : World} {ans : op.Ans}

/-- The acts change bridges in these ways only. -/
theorem exec_bridges (h : exec setup t op c w = some (ans, w')) : BridgeStep setup t op w w' := by
  cases op
  case registerBridge id =>
      simp only [exec] at h
      obtain ⟨held, run⟩ := World.onEntry_spec h
      cases run
      exact .registered id rfl held rfl
  case retireStale id =>
      simp only [exec] at h
      obtain ⟨held, run⟩ := World.onEntry_spec h
      cases run
      exact .retired id rfl held rfl
  case attachBridge id b session routes maxConns now =>
      simp only [exec] at h
      obtain ⟨held, run⟩ := World.onEntry_spec h
      cases run
      exact .attached id b session routes maxConns now rfl held rfl
  case closedBridge id b =>
      simp only [exec] at h
      obtain ⟨held, run⟩ := World.onEntry_spec h
      cases run
      exact .closed id b rfl held rfl
  case save id change =>
      obtain ⟨record, held, made, -, ⟨-, -, rfl⟩ | ⟨-, -, rfl⟩ | ⟨-, -, -, rfl⟩ |
        ⟨revision, db, -, -, wrote, rfl⟩⟩ := exec_save h
      · exact .same (.refl _)
      · exact .same (.of_setDb _)
      · exact .same (.of_setEntry _ _ rfl)
      · exact .same ((SameBridges.of_setDb db).trans (.of_setEntry _ _ rfl))
  case pick id hostname ready sni =>
      simp only [exec] at h
      obtain ⟨-, picked⟩ := World.onEntry_spec h
      have after : w' = (w.pick setup t.machine id hostname ready sni).2 := by rw [picked]
      rcases World.pick_cases setup w t.machine id hostname ready sni with same | ⟨b, same⟩
      · rw [after, same]
        exact .same (.refl _)
      · rw [after, same]
        exact .same (.of_connect ..)
  case collectIdle =>
      cases h
      exact .same (.of_collectIdle ..)
  case closeBridges id =>
      simp only [exec] at h
      obtain ⟨-, run⟩ := World.onEntry_spec h
      cases run
      exact .same (.of_mapBridges _ _ fun _ => ⟨rfl, rfl, rfl, rfl, fun _ => rfl⟩)
  case drainBridge b =>
      cases h
      exact .same (.of_mapBridges _ _ fun _ => ⟨rfl, rfl, rfl, rfl, fun _ => rfl⟩)
  all_goals
    refine .same ?_
    simp only [exec, World.onEntry, World.receive] at h
    repeat' split at h
    all_goals first
      | cases h
      | exact .of_write (Option.some.inj h)
      | exact .of_write (World.onRow_spec h).2
    all_goals first
      | exact .refl _
      | exact .of_setDb _
      | exact .of_setEntry _ _ rfl
      | exact .of_machine _ rfl rfl rfl rfl
      | exact .of_bridges (fun _ _ => rfl) (fun _ _ => rfl) (fun _ _ => rfl) fun _ => rfl

end ExecBridges

/-- The surroundings change only the bridges' traffic. -/
theorem move_bridges {mv : Move} {w w' : World} (h : move mv w = some w') : SameBridges w w' := by
  cases mv with
  | clocks times =>
      cases h
      exact .of_bridges (fun _ _ => rfl) (fun _ _ => rfl) (fun _ _ => rfl) fun _ => rfl
  | touch m b =>
      cases h
      exact .of_mapBridges _ _ fun _ => ⟨rfl, rfl, rfl, rfl, fun closing => closing⟩
  | close m b code =>
      cases h
      exact .of_mapBridges _ _ fun _ => ⟨rfl, rfl, rfl, rfl, fun _ => rfl⟩
  | channelEnds m b conn =>
      cases h
      exact .of_mapBridges _ _ fun _ => ⟨rfl, rfl, rfl, rfl, fun closing => closing⟩
  | visitorEnds m b =>
      cases h
      exact .of_mapBridges _ _ fun _ => ⟨rfl, rfl, rfl, rfl, fun closing => closing⟩
  | meshComplete m complete =>
      cases h
      exact .of_machine _ rfl rfl rfl rfl
  | deliver source target =>
      simp only [move] at h
      split at h
      · cases h
        exact (SameBridges.of_setWire ..).trans (.of_notify ..)
      · cases h
  | linkDown source target =>
      cases h
      exact .of_setWire ..
  | linkUp source target =>
      cases h
      exact (SameBridges.of_setWire ..).trans (.of_notify ..)

/-! ### The mesh -/

/-- No event is sent, delivered or taken. -/
structure SameMesh (w w' : World) : Prop where
  wires : w'.wires = w.wires
  notices : ∀ m, (w'.machine m).notices = (w.machine m).notices

namespace SameMesh

variable {w w' : World}

theorem refl (w : World) : SameMesh w w := ⟨rfl, fun _ => rfl⟩

theorem of_setDb (db : Db) : SameMesh w (w.setDb db) := ⟨rfl, fun _ => rfl⟩

theorem of_machine (m : MachineId) {machine : Machine} (notices : machine.notices = (w.machine m).notices) :
    SameMesh w (w.setMachine m machine) := by
  refine ⟨rfl, fun m' => ?_⟩
  rw [World.machine_setMachine]
  split
  · rename_i here
    rw [here, notices]
  · rfl

theorem of_setEntry (m : MachineId) (id : TunnelId) (e : Entry) : SameMesh w (w.setEntry m id e) :=
  of_machine m rfl

theorem of_mapBridges (m : MachineId) (ids : List BridgeId) (f : Bridge → Bridge) :
    SameMesh w (w.mapBridges m ids f) := of_machine m rfl

theorem of_addBridge (m : MachineId) (bridge : Bridge) : SameMesh w (w.addBridge m bridge) := of_machine m rfl

theorem trans {w'' : World} (first : SameMesh w w') (second : SameMesh w' w'') : SameMesh w w'' :=
  ⟨second.wires.trans first.wires, fun m => (second.notices m).trans (first.notices m)⟩

theorem of_write {α : Type} {c : Choice} {run : Except Err α × Db} {ans : Except Err α}
    (sent : w.write c run = (ans, w')) : SameMesh w w' := by
  rcases World.write_spec sent with ⟨-, -, rfl⟩ | ⟨-, -, rfl⟩ | ⟨-, -, rfl⟩
  · exact of_setDb _
  · exact refl _
  · exact of_setDb _

theorem of_retireStale (setup : Setup) (m : MachineId) (id : TunnelId) :
    SameMesh w (w.retireStale setup m id) := by
  unfold World.retireStale
  dsimp only
  split
  · exact trans (of_mapBridges _ _ _) (of_machine _ rfl)
  · exact of_mapBridges _ _ _

theorem of_attachBridge (setup : Setup) (m : MachineId) (id : TunnelId) (b : BridgeId) (session : String)
    (routes : List String) (maxConns : Option Nat) (now : Nat) :
    SameMesh w (w.attachBridge setup m id b session routes maxConns now) := by
  unfold World.attachBridge
  dsimp only
  split
  · exact trans (of_mapBridges _ _ _) (of_machine _ rfl)
  · exact of_mapBridges _ _ _

theorem of_closedBridge (setup : Setup) (m : MachineId) (id : TunnelId) (b : BridgeId) :
    SameMesh w (w.closedBridge setup m id b) := by
  unfold World.closedBridge
  dsimp only
  split
  · split
    · exact trans (trans (of_setEntry _ _ _) (of_mapBridges _ _ _)) (of_machine _ rfl)
    · exact trans (of_setEntry _ _ _) (of_mapBridges _ _ _)
  · exact of_setEntry _ _ _

end SameMesh

/-- What an act may do to the mesh. -/
inductive MeshStep (setup : Setup) (t : Task) (op : Act) (w w' : World) : Prop where
  | same (same : SameMesh w w')
  | published (event : Event) (act : op = .publish event) (clustered : setup.clustered t.machine = true)
      (after : w' = w.publish t.machine event)
  | received (notice : Notice) (rest : List Notice) (act : op = .receive)
      (queue : (w.machine t.machine).notices = notice :: rest)
      (after : w' = w.setMachine t.machine { w.machine t.machine with notices := rest })

section ExecMesh

variable {setup : Setup} {t : Task} {op : Act} {c : Choice} {w w' : World} {ans : op.Ans}

/-- A notice is taken off the queue. -/
theorem exec_receive {notice : Notice} (h : exec setup t .receive c w = some (notice, w')) :
    ∃ rest, (w.machine t.machine).notices = notice :: rest ∧
      w' = w.setMachine t.machine { w.machine t.machine with notices := rest } := by
  simp only [exec, World.receive] at h
  split at h
  · cases h
  · rename_i first rest queue
    cases h
    exact ⟨rest, queue, rfl⟩

/-- The acts change the mesh in these ways only. -/
theorem exec_mesh (h : exec setup t op c w = some (ans, w')) : MeshStep setup t op w w' := by
  cases op
  case publish event =>
      simp only [exec] at h
      split at h
      · rename_i clustered
        cases h
        exact .published event rfl clustered rfl
      · cases h
        exact .same (.refl _)
  case receive =>
      obtain ⟨rest, queue, after⟩ := exec_receive h
      exact .received ans rest rfl queue after
  case save id change =>
      obtain ⟨record, held, made, -, ⟨-, -, rfl⟩ | ⟨-, -, rfl⟩ | ⟨-, -, -, rfl⟩ |
        ⟨revision, db, -, -, wrote, rfl⟩⟩ := exec_save h
      · exact .same (.refl _)
      · exact .same (.of_setDb _)
      · exact .same (.of_setEntry _ _ _)
      · exact .same ((SameMesh.of_setDb db).trans (.of_setEntry _ _ _))
  case pick id hostname ready sni =>
      simp only [exec] at h
      obtain ⟨-, picked⟩ := World.onEntry_spec h
      have after : w' = (w.pick setup t.machine id hostname ready sni).2 := by rw [picked]
      rcases World.pick_cases setup w t.machine id hostname ready sni with same | ⟨b, same⟩
      · rw [after, same]
        exact .same (.refl _)
      · rw [after, same]
        exact .same ((SameMesh.of_setEntry _ _ _).trans (.of_mapBridges _ _ _))
  case registerBridge id =>
      simp only [exec] at h
      obtain ⟨-, run⟩ := World.onEntry_spec h
      cases run
      exact .same ((SameMesh.of_addBridge _ _).trans (.of_setEntry _ _ _))
  all_goals
    refine .same ?_
    simp only [exec, World.onEntry] at h
    repeat' split at h
    all_goals first
      | cases h
      | exact .of_write (Option.some.inj h)
      | exact .of_write (World.onRow_spec h).2
    all_goals first
      | exact .refl _
      | exact .of_setDb _
      | exact .of_setEntry _ _ _
      | exact .of_mapBridges _ _ _
      | exact .of_retireStale ..
      | exact .of_attachBridge ..
      | exact .of_closedBridge ..
      | exact .of_machine _ rfl
      | exact ⟨rfl, fun _ => rfl⟩

end ExecMesh

/-! ### Other machines -/

section Elsewhere

variable {setup : Setup} {t : Task} {op : Act} {c : Choice} {w w' : World} {ans : op.Ans} {m : MachineId}

theorem machine_other {machine : Machine} (other : m ≠ t.machine) :
    (w.setMachine t.machine machine).machine m = w.machine m := if_neg other

/-- An act changes no machine but its task's. -/
theorem exec_elsewhere (h : exec setup t op c w = some (ans, w')) (other : m ≠ t.machine) :
    w'.machine m = w.machine m := by
  have entry (w : World) (id : TunnelId) (e : Entry) : (w.setEntry t.machine id e).machine m = w.machine m :=
    machine_other other
  have mapped (w : World) (ids : List BridgeId) (f : Bridge → Bridge) :
      (w.mapBridges t.machine ids f).machine m = w.machine m := machine_other other
  have detached (w : World) (gone : BridgeId → Bool) : (w.detachAll t.machine gone).machine m = w.machine m :=
    machine_other other
  have announced (w : World) (b : BridgeId) (a : Announcement) : (w.announce t.machine b a).machine m = w.machine m :=
    machine_other other
  have added (w : World) (bridge : Bridge) : (w.addBridge t.machine bridge).machine m = w.machine m :=
    machine_other other
  have written {α : Type} {run : Except Err α × Db} {ans : Except Err α} (sent : w.write c run = (ans, w')) :
      w'.machine m = w.machine m := by
    have same := World.machine_write w c run m
    rw [sent] at same
    exact same
  cases op
  case save id change =>
      obtain ⟨record, held, made, -, ⟨-, -, rfl⟩ | ⟨-, -, rfl⟩ | ⟨-, -, -, rfl⟩ |
        ⟨revision, db, -, -, wrote, rfl⟩⟩ := exec_save h
      · rfl
      · rfl
      · exact entry _ _ _
      · exact entry _ _ _
  case pick id hostname ready sni =>
      simp only [exec] at h
      obtain ⟨-, picked⟩ := World.onEntry_spec h
      have after : w' = (w.pick setup t.machine id hostname ready sni).2 := by rw [picked]
      rcases World.pick_cases setup w t.machine id hostname ready sni with same | ⟨b, same⟩
      · rw [after, same]
      · rw [after, same]
        exact (mapped _ _ _).trans (entry _ _ _)
  case registerBridge id =>
      simp only [exec] at h
      obtain ⟨-, run⟩ := World.onEntry_spec h
      cases run
      exact (entry _ _ _).trans (added _ _)
  case retireStale id =>
      simp only [exec] at h
      obtain ⟨-, run⟩ := World.onEntry_spec h
      cases run
      unfold World.retireStale
      dsimp only
      split
      · exact (detached _ _).trans (mapped _ _ _)
      · exact mapped _ _ _
  case attachBridge id b session routes maxConns now =>
      simp only [exec] at h
      obtain ⟨-, run⟩ := World.onEntry_spec h
      cases run
      unfold World.attachBridge
      dsimp only
      split
      · exact (announced _ _ _).trans (mapped _ _ _)
      · exact mapped _ _ _
  case closedBridge id b =>
      simp only [exec] at h
      obtain ⟨-, run⟩ := World.onEntry_spec h
      cases run
      unfold World.closedBridge
      dsimp only
      split
      · split
        · exact ((detached _ _).trans (mapped _ _ _)).trans (entry _ _ _)
        · exact (mapped _ _ _).trans (entry _ _ _)
      · exact entry _ _ _
  all_goals
    simp only [exec, World.onEntry, World.receive] at h
    repeat' split at h
    all_goals first
      | cases h
      | exact written (Option.some.inj h)
      | exact written (World.onRow_spec h).2
    all_goals first
      | rfl
      | exact entry _ _ _
      | exact mapped _ _ _
      | exact machine_other other

end Elsewhere

end OpenTunnel
