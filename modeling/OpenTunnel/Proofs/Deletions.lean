/-
Module: OpenTunnel.Proofs.Deletions
Layer: Proofs
Purpose: Deleted tunnels lose their bridges on every machine. A history says who deleted a tunnel last, which
  machines may have missed it because the link from there was down, and which notices are being handled. A machine
  that was linked either still has the notice before it, on the wire, in its queue or in a task's hands, or takes
  the tunnel for a live one no more. The handling of a notice reads the database once and gives up when that
  fails, so this holds in the runs in which no such read fails while the tunnel is live on the machine.
Imports: OpenTunnel.Tasks.Ghost, OpenTunnel.Proofs.Executions, OpenTunnel.Proofs.Revisions
Trusted boundary: none (fully proved)
Main exports: Deletions, MissesDeletion, Settled, deleted_tunnels_lose_bridges
Open obligations: none
-/
import OpenTunnel.Tasks.Ghost
import OpenTunnel.Proofs.Executions
import OpenTunnel.Proofs.Revisions

namespace OpenTunnel

open Tasks Semantics

/-! ### Deleted tunnels -/

/-- The database shows the tunnel as deleted. -/
def Db.Deleted (db : Db) (id : TunnelId) : Prop := (db.row id).any (·.record.isDeleted) = true

/-- Every bridge of the tunnel has been told to close. -/
def World.Shut (w : World) (m : MachineId) (id : TunnelId) : Prop :=
  ∀ b ∈ (w.entry m id).bridges, (w.bridge m b).any (·.isClosing) = true

/-- Nothing on the machine takes the tunnel for a live one. -/
def World.Clean (w : World) (m : MachineId) (id : TunnelId) : Prop :=
  w.Shut m id ∧ (w.entry m id).live = none

instance (db : Db) (id : TunnelId) : Decidable (db.Deleted id) := inferInstanceAs (Decidable (_ = true))

instance (w : World) (m : MachineId) (id : TunnelId) : Decidable (w.Shut m id) :=
  inferInstanceAs (Decidable (∀ b ∈ (w.entry m id).bridges, (w.bridge m b).any (·.isClosing) = true))

instance (w : World) (m : MachineId) (id : TunnelId) : Decidable (w.Clean m id) :=
  inferInstanceAs (Decidable (_ ∧ _))

theorem Db.deleted_iff {db : Db} {id : TunnelId} :
    db.Deleted id ↔ ∃ row, db.row id = some row ∧ row.record.isDeleted = true := by
  unfold Db.Deleted
  rw [Option.any_eq_true]

/-! ### The history of deletions -/

/-- Who deleted each tunnel last, the machines that may have missed it because the link from the deleting machine was
    not up all the time since, and the notices taken off a queue whose handling has not ended. -/
structure Deletions where
  deletedBy : TunnelId → Option MachineId := fun _ => none
  missed : MachineId → TunnelId → Bool := fun _ _ => false
  handling : Task → Option Notice := fun _ => none

namespace Deletions

def delete (h : Deletions) (w : World) (m : MachineId) (id : TunnelId) : Deletions :=
  { h with
    deletedBy := fun id' => if id' = id then some m else h.deletedBy id'
    missed := fun m' id' => if id' = id then decide (m' ≠ m) && (w.wires m m').isNone else h.missed m' id' }

def take (h : Deletions) (t : Task) (notice : Option Notice) : Deletions :=
  { h with handling := fun t' => if t' = t then notice else h.handling t' }

/-- The link was down. -/
def cut (h : Deletions) (source target : MachineId) : Deletions :=
  { h with
    missed := fun m id =>
      h.missed m id || (decide (m = target) && decide (source ≠ target) && h.deletedBy id == some source) }

def call (t : Task) (op : Act) (ans : op.Ans) (w : World) (h : Deletions) : Deletions :=
  match op, ans with
  | .save id (.delete _), .ok () => h.delete w t.machine id
  | .receive, notice => h.take t (some notice)
  | .handled, _ => h.take t none
  | _, _ => h

def move (mv : Move) (h : Deletions) : Deletions :=
  match mv with
  | .linkDown source target => h.cut source target
  | .linkUp source target => h.cut source target
  | _ => h

end Deletions

def deletions (setup : Setup) : Ghost (system setup) Deletions where
  call := fun t op ans w _ h => h.call t op ans w
  move := fun mv _ _ h => h.move mv

/-! ### Runs -/

def Operation.isImport : Operation → Bool
  | .importFile .. => true
  | _ => false

/-- A deletion is lost here: its answer is lost, so that nobody is told, or a machine that takes the tunnel for a
    live one fails to read whether it is deleted while it handles the notice. -/
def MissesDeletion (t : Task) (op : Act) (c : Choice) (s : World × Deletions) : Prop :=
  match op with
  | .save _ (.delete _) => c.fault = .late
  | .deletedTunnels _ => c.fault ≠ .none ∧
      match s.2.handling t with
      | some (.event (.tunnelDeleted id)) => s.1.db.Deleted id ∧ ¬ s.1.Clean t.machine id
      | _ => False
  | _ => False

/-- The runs of every operation but imports in which no deletion is lost. -/
def deletionsTold (setup : Setup) : Assumptions ((system setup).withGhost (deletions setup)) where
  start := fun _ op _ => op.isImport = false
  call := fun t op c s => ¬ MissesDeletion t op c s

instance MissesDeletion.decidable (t : Task) (op : Act) (c : Choice) (s : World × Deletions) :
    Decidable (MissesDeletion t op c s) := by
  unfold MissesDeletion
  split
  · infer_instance
  · have : Decidable (match s.2.handling t with
        | some (.event (.tunnelDeleted id)) => s.1.db.Deleted id ∧ ¬ s.1.Clean t.machine id
        | _ => False) := by split <;> infer_instance
    infer_instance
  · infer_instance

instance (setup : Setup) : (deletionsTold setup).Checkable where
  start := fun _ op _ => inferInstanceAs (Decidable (op.isImport = false))
  call := fun t op c s => @instDecidableNot _ (MissesDeletion.decidable t op c s)
  move := fun _ _ => inferInstanceAs (Decidable True)

/-- Every notice has been handled, no reconcile is pending and no operation holds an entry's lock. -/
structure Settled (w : World) (h : Deletions) : Prop where
  wires : ∀ a m events, w.wires a m = some events → events = []
  notices : ∀ m, (w.machine m).notices = []
  handled : ∀ t, h.handling t = none
  reconciled : ∀ m, (w.machine m).reconcileQueued = false
  unlocked : ∀ m id, (w.entry m id).holder = none

/-! ### Duties -/

/-- What a task has taken on about a deletion: to announce the one it saved, to check one it was told of, to close
    the bridges of one it checked. -/
inductive Duty where
  | announce (id : TunnelId)
  | check (id : TunnelId)
  | close (id : TunnelId)
deriving DecidableEq, Repr

def Duty.next (op : Act) (ans : op.Ans) (duty : Option Duty) : Option Duty :=
  match op, ans with
  | .save id (.delete _), .ok () => some (.announce id)
  | .publish (.tunnelDeleted id), _ => if duty = some (.announce id) then none else duty
  | .receive, .event (.tunnelDeleted id) => some (.check id)
  | .deletedTunnels _, answer =>
      match duty, answer with
      | some (.check id), .ok deleted => if id ∈ deleted then some (.close id) else none
      | some (.check _), .error _ => none
      | duty, _ => duty
  | .known id, false => if duty = some (.close id) then none else duty
  | .unload id, _ => if duty = some (.close id) then none else duty
  | _, _ => duty

def setDuty (duty : Task → Option Duty) (t : Task) (next : Option Duty) : Task → Option Duty :=
  fun t' => if t' = t then next else duty t'

@[simp] theorem setDuty_self (duty : Task → Option Duty) (t : Task) (next : Option Duty) :
    setDuty duty t next t = next := if_pos rfl

theorem setDuty_other (duty : Task → Option Duty) {t t' : Task} (next : Option Duty) (other : t' ≠ t) :
    setDuty duty t next t' = duty t' := if_neg other

theorem setDuty_same (duty : Task → Option Duty) (t : Task) : setDuty duty t (duty t) = duty := by
  funext t'
  by_cases same : t' = t
  · rw [same, setDuty_self]
  · exact setDuty_other duty _ same

def duties (setup : Setup) : Ghost ((system setup).withGhost (deletions setup)) (Task → Option Duty) where
  call := fun t op ans _ _ duty => setDuty duty t (Duty.next op ans (duty t))

/-! ### Rows -/

/-- Only a delete makes a record a deleted one. -/
theorem Change.apply_deleted {id : TunnelId} {change : Change} {before : Option StoredTunnel}
    {record : StoredTunnel} (made : change.apply id before = some record) (kept : change.kind ≠ .delete)
    (deleted : record.isDeleted = true) : ∃ old, before = some old ∧ old.isDeleted = true := by
  cases before with
  | none =>
      cases change <;> simp only [apply, Option.some.injEq, reduceCtorEq] at made
      rw [← made] at deleted
      simp [StoredTunnel.isDeleted] at deleted
  | some old =>
      refine ⟨old, rfl, ?_⟩
      cases change
      case delete at_ => exact absurd rfl kept
      case create hostname tokenHash createdAt =>
          simp only [apply, Option.some.injEq] at made
          rw [← made] at deleted
          simp [StoredTunnel.isDeleted] at deleted
      all_goals
        simp only [apply, Option.some.injEq] at made
        rw [← made] at deleted
        exact deleted

section Rows

variable {setup : Setup} {job : Task → Operation} {t : Task} {op : Act} {c : Choice} {w w' : World}
  {ans : op.Ans} {m : MachineId} {id : TunnelId}

/-- A save that took effect was made over what its entry had read. -/
theorem Revisions.saved_over (inv : Revisions job w) {record : StoredTunnel} {revision : Nat} {db : Db}
    (keyed : record.id = id) (wrote : w.db.saveTunnel record (w.entry m id).revision = (.ok revision, db)) :
    w.db.stored id = ((w.entry m id).record, (w.entry m id).revision) := by
  rcases Db.saveTunnel_cases w.db record (w.entry m id).revision with
    conflict | ⟨fresh, missing, -⟩ | ⟨row, -, found, current, -⟩
  · rw [conflict] at wrote
    cases wrote
  · rw [keyed] at missing
    rcases inv.seen m id with read | older
    · exact read.symm
    · simp [Db.stored, missing] at older
  · rw [keyed] at found
    rcases inv.seen m id with read | older
    · exact read.symm
    · simp [Db.stored, found, current] at older

theorem deleted_of_stored {db : Db} {record : StoredTunnel} {revision : Nat}
    (stored : db.stored id = (some record, revision)) : db.Deleted id ↔ record.isDeleted = true := by
  unfold Db.stored at stored
  cases found : db.row id with
  | none => simp [found] at stored
  | some row =>
      simp only [found, Prod.mk.injEq, Option.some.injEq] at stored
      simp [Db.Deleted, found, stored.1]

/-- No act but a delete and an import makes a tunnel a deleted one. -/
theorem exec_deleted (inv : Revisions job w) (h : exec setup t op c w = some (ans, w'))
    (imports : op.tag ≠ .importing) (kept : ∀ at_, op ≠ .save id (.delete at_)) (deleted : w'.db.Deleted id) :
    w.db.Deleted id := by
  obtain ⟨row, found, gone⟩ := Db.deleted_iff.mp deleted
  cases exec_rows h with
  | same rows =>
      refine Db.deleted_iff.mpr ⟨row, ?_, gone⟩
      rw [← found]
      unfold Db.row
      rw [rows.tunnels]
  | saved id' change record revision is held made free wrote =>
      have keyed : record.id = id' := Change.apply_id made (inv.cached t.machine id')
      have after := Db.stored_saveTunnel wrote
      by_cases same : id = id'
      · subst same
        rw [keyed] at after
        have stored := inv.saved_over keyed wrote
        have alive : change.kind ≠ .delete := by
          intro deletes
          cases change <;> simp only [Change.kind, reduceCtorEq] at deletes
          exact kept _ is
        obtain ⟨old, before, dead⟩ :=
          Change.apply_deleted made alive ((deleted_of_stored after).mp deleted)
        rw [before] at stored
        exact (deleted_of_stored stored).mpr dead
      · -- another row
        refine Db.deleted_iff.mpr ⟨row, ?_, gone⟩
        rw [← found]
        rcases Db.saveTunnel_cases w.db record (w.entry t.machine id').revision with
          conflict | ⟨_, _, saved⟩ | ⟨_, _, _, _, saved⟩
        · rw [conflict] at wrote
          cases wrote
        · rw [saved] at wrote
          rw [← (Prod.mk.inj wrote).2, keyed]
          simp [same]
        · rw [saved] at wrote
          rw [← (Prod.mk.inj wrote).2, keyed]
          simp [same]
  | alarm id' at_ _ free wrote =>
      rw [wrote, Db.row_setAlarm] at found
      obtain ⟨old, before, rfl⟩ := Option.map_eq_some_iff.mp found
      refine Db.deleted_iff.mpr ⟨old, before, ?_⟩
      split at gone <;> exact gone
  | inserted record alarmAt is missing wrote => exact absurd (by rw [is]; rfl) imports
  | began id' row' free before wrote =>
      rw [wrote] at found
      exact Db.deleted_iff.mpr ⟨row, found, gone⟩
  | staged record alarmAt is within wrote => exact absurd (by rw [is]; rfl) imports
  | rolledBack id' within wrote =>
      rw [wrote] at found
      exact Db.deleted_iff.mpr ⟨row, found, gone⟩
  | committed id' is within wrote => exact absurd (by rw [is]; rfl) imports

end Rows

/-! ### Bridges -/

section Acts

variable {setup : Setup} {job : Task → Operation} {t : Task} {op : Act} {c : Choice} {w w' : World}
  {ans : op.Ans} {m : MachineId} {id : TunnelId}

/-- The numbers of bridges to come are unused. -/
def World.Unused (w : World) : Prop := ∀ m b, (w.machine m).nextBridge ≤ b → w.bridge m b = none

/-- The bridge has been told to close. -/
def World.Closing (w : World) (m : MachineId) (b : BridgeId) : Prop := (w.bridge m b).any (·.isClosing) = true

theorem World.Closing.same {b : BridgeId} (closing : w.Closing m b) (same : SameBridges w w') : w'.Closing m b := by
  unfold World.Closing at closing ⊢
  rcases same.kept m b with ⟨missing, -⟩ | ⟨old, new, before, after, kept⟩
  · simp [missing] at closing
  · simp only [before, Option.any_some] at closing
    simpa [after] using kept.closing closing

theorem exec_unused (unused : w.Unused) (h : exec setup t op c w = some (ans, w')) : w'.Unused := by
  intro m b later
  cases exec_bridges h with
  | same same =>
      rw [same.next] at later
      rcases same.kept m b with ⟨-, after⟩ | ⟨old, new, before, -, -⟩
      · exact after
      · rw [unused m b later] at before
        cases before
  | registered id is held after =>
      subst after
      rw [World.nextBridge_registerBridge] at later
      rw [World.bridge_registerBridge]
      split at later
      · rename_i here
        subst here
        have other : b ≠ (w.machine t.machine).nextBridge := Nat.ne_of_gt later
        simpa [other] using unused t.machine b (Nat.le_of_succ_le later)
      · rename_i elsewhere
        simpa [elsewhere] using unused m b later
  | retired id is held after =>
      subst after
      rw [World.nextBridge_retireStale] at later
      simp [unused m b later]
  | attached id b' session routes maxConns now is held after =>
      subst after
      rw [World.nextBridge_attachBridge] at later
      simp [unused m b later]
  | closed id b' is held after =>
      subst after
      rw [World.nextBridge_closedBridge] at later
      simp [unused m b later]

/-- The bridges of every tunnel are registered ones. -/
def World.Registered (w : World) : Prop := ∀ m id, ∀ b ∈ (w.entry m id).bridges, (w.bridge m b).isSome = true

theorem World.Registered.same (registered : w.Registered) (same : SameBridges w w') : w'.Registered := by
  intro m id b listed
  rw [same.listed] at listed
  have exists_ := registered m id b listed
  rcases same.kept m b with ⟨missing, -⟩ | ⟨old, new, -, after, -⟩
  · simp [missing] at exists_
  · simp [after]

theorem exec_registered (registered : w.Registered) (h : exec setup t op c w = some (ans, w')) : w'.Registered := by
  cases exec_bridges h with
  | same same => exact registered.same same
  | registered id' is held after =>
      subst after
      intro m id b listed
      rw [World.bridge_registerBridge]
      split
      · rfl
      · rename_i old
        rw [World.entry_registerBridge] at listed
        split at listed
        · rename_i here
          obtain ⟨rfl, rfl⟩ := here
          rcases List.mem_append.mp listed with listed | new
          · exact registered _ _ b listed
          · exact absurd ⟨rfl, List.mem_singleton.mp new⟩ old
        · exact registered m id b listed
  | retired id' is held after =>
      subst after
      intro m id b listed
      rw [World.entry_retireStale] at listed
      have exists_ := registered m id b listed
      rw [World.bridge_retireStale]
      split <;> simpa using exists_
  | attached id' b' session routes maxConns now is held after =>
      subst after
      intro m id b listed
      rw [World.entry_attachBridge] at listed
      have exists_ := registered m id b listed
      rw [World.bridge_attachBridge]
      split <;> simpa using exists_
  | closed id' b' is held after =>
      subst after
      intro m id b listed
      have before : b ∈ (w.entry m id).bridges := by
        rw [World.entry_closedBridge] at listed
        split at listed
        · rename_i here
          rw [here.1, here.2]
          exact (List.mem_filter.mp listed).1
        · exact listed
      have exists_ := registered m id b before
      rw [World.bridge_closedBridge]
      split <;> simpa using exists_

/-- A bridge told to close stays so. -/
theorem exec_closing (unused : w.Unused) (h : exec setup t op c w = some (ans, w')) {b : BridgeId}
    (closing : w.Closing m b) : w'.Closing m b := by
  cases exec_bridges h with
  | same same => exact closing.same same
  | registered id is held after =>
      subst after
      unfold World.Closing at closing ⊢
      rw [World.bridge_registerBridge, if_neg]
      · exact closing
      · rintro ⟨rfl, rfl⟩
        simp [unused _ _ (Nat.le_refl _)] at closing
  | retired id is held after =>
      subst after
      unfold World.Closing at closing ⊢
      rw [World.bridge_retireStale]
      split
      · obtain ⟨bridge, found, -⟩ := (Option.any_eq_true _ _).mp closing
        simp [found, Bridge.close, Bridge.isClosing]
      · exact closing
  | attached id b' session routes maxConns now is held after =>
      subst after
      unfold World.Closing at closing ⊢
      rw [World.bridge_attachBridge]
      split
      · obtain ⟨bridge, found, closed⟩ := (Option.any_eq_true _ _).mp closing
        simpa [found, Bridge.isClosing] using closed
      · exact closing
  | closed id b' is held after =>
      subst after
      unfold World.Closing at closing ⊢
      rw [World.bridge_closedBridge]
      split
      · obtain ⟨bridge, found, closed⟩ := (Option.any_eq_true _ _).mp closing
        simpa [found, Bridge.isClosing, Bridge.finishChannels] using closed
      · exact closing

/-- The bridges of a tunnel after an act were its bridges before, unless one was registered. -/
theorem exec_listed (h : exec setup t op c w = some (ans, w'))
    (registers : m = t.machine → op ≠ .registerBridge id) {b : BridgeId} (listed : b ∈ (w'.entry m id).bridges) :
    b ∈ (w.entry m id).bridges := by
  cases exec_bridges h with
  | same same =>
      rw [same.listed] at listed
      exact listed
  | registered id' is held after =>
      subst after
      rw [World.entry_registerBridge, if_neg] at listed
      · exact listed
      · rintro ⟨here, rfl⟩
        exact registers here is
  | retired id' is held after =>
      subst after
      rw [World.entry_retireStale] at listed
      exact listed
  | attached id' b' session routes maxConns now is held after =>
      subst after
      rw [World.entry_attachBridge] at listed
      exact listed
  | closed id' b' is held after =>
      subst after
      rw [World.entry_closedBridge] at listed
      split at listed
      · rename_i here
        rw [here.1, here.2]
        exact (List.mem_filter.mp listed).1
      · exact listed

theorem exec_shut (unused : w.Unused) (h : exec setup t op c w = some (ans, w'))
    (registers : m = t.machine → op ≠ .registerBridge id) (shut : w.Shut m id) : w'.Shut m id := by
  intro b listed
  exact exec_closing unused h (shut b (exec_listed h registers listed))

theorem live_deleted {e : Entry} {record : StoredTunnel} (found : e.record = some record)
    (deleted : record.isDeleted = true) : e.live = none := by
  simp [Entry.live, found, deleted]

/-- A machine that does not take a deleted tunnel for a live one does not start to. -/
theorem exec_clean (inv : Revisions job w) (unused : w.Unused) (h : exec setup t op c w = some (ans, w'))
    (registers : m = t.machine → op = .registerBridge id → (w.entry m id).live ≠ none)
    (deleted : w'.db.Deleted id) (clean : w.Clean m id) : w'.Clean m id := by
  refine ⟨exec_shut unused h (fun here is => registers here is clean.2) clean.1, ?_⟩
  cases exec_entry h m id with
  | same after => rw [after]; exact clean.2
  | collected free bare after => rw [after]; rfl
  | locked here free after => rw [after]; exact clean.2
  | unlocked _ here held after => rw [after]; exact clean.2
  | read here held rows after =>
      rw [rows] at deleted
      obtain ⟨row, found, gone⟩ := Db.deleted_iff.mp deleted
      rw [after]
      exact live_deleted (by simp [Db.stored, found]) gone
  | noted here held _ _ _ _ _ after => rw [after]; exact clean.2
  | unloaded here held after => rw [after]; rfl
  | saved here held change record revision made wrote after =>
      have keyed : record.id = id := Change.apply_id made (inv.cached m id)
      have stored := Db.stored_saveTunnel wrote
      rw [keyed] at stored
      rw [after]
      exact live_deleted rfl ((deleted_of_stored stored).mp deleted)
  | bridged here held bridges after => rw [after]; exact clean.2

/-- A lock is given up only by unlocking. -/
theorem exec_holds (h : exec setup t op c w = some (ans, w')) (keeps : op ≠ .unlock id) (held : w.holds t id = true) :
    w'.holds t id = true := by
  have holder := World.holds_iff.mp held
  apply World.holds_iff.mpr
  cases exec_entry h t.machine id with
  | same after => rw [after]; exact holder
  | collected free bare after => rw [free] at holder; cases holder
  | locked here free after => rw [after]
  | unlocked is here held after => exact absurd is keeps
  | read here held rows after => rw [after]; exact holder
  | noted here held _ _ _ _ _ after => rw [after]; exact holder
  | unloaded here held after => rw [after]; exact holder
  | saved here held change record revision made wrote after => rw [after]; exact holder
  | bridged here held bridges after => rw [after]; exact holder

end Acts

/-! ### The invariant -/

/-- Why a machine that was linked need not be clean of a deleted tunnel, or that it is. -/
inductive Covered (w : World) (h : Deletions) (duty : Task → Option Duty) (m : MachineId) (id : TunnelId) : Prop where
  | announced (t : Task) (has : duty t = some (.announce id)) (deletes : h.deletedBy id = some t.machine)
      (far : t.machine ≠ m)
  | sent (a : MachineId) (events : List Event) (deletes : h.deletedBy id = some a) (far : a ≠ m)
      (wire : w.wires a m = some events) (listed : .tunnelDeleted id ∈ events)
  | queued (listed : .event (.tunnelDeleted id) ∈ (w.machine m).notices)
  | handled (t : Task) (here : t.machine = m) (has : duty t = some (.check id) ∨ duty t = some (.close id))
  | clean (clean : w.Clean m id)

structure Tracked (w : World) (h : Deletions) (duty : Task → Option Duty) : Prop where
  unused : w.Unused
  registered : w.Registered
  covered : ∀ m id, w.db.Deleted id → h.missed m id = false → Covered w h duty m id
  linked : ∀ m id a, h.missed m id = false → h.deletedBy id = some a → a ≠ m → ∃ events, w.wires a m = some events
  locked : ∀ t id, duty t = some (.announce id) → w.holds t id = true
  busy : ∀ t id, duty t = some (.check id) ∨ duty t = some (.close id) →
    h.handling t = some (.event (.tunnelDeleted id))

theorem World.Started.tracked {w : World} (started : w.Started) : Tracked w {} fun _ => none where
  unused := by
    intro m b _
    simp [World.bridge, started.machines m]
  registered := by
    intro m id b listed
    simp [started.cold m id] at listed
  covered := by
    intro m id _ _
    refine .clean ⟨?_, ?_⟩
    · intro b listed
      simp [started.cold m id] at listed
    · rw [started.cold m id]
      rfl
  linked := by simp
  locked := by simp
  busy := by simp

/-- What the invariant asks of an act of a task. -/
structure Permitted (w : World) (duty : Option Duty) (t : Task) (op : Act) (c : Choice) : Prop where
  imports : op.tag ≠ .importing
  registers : ∀ id, op = .registerBridge id → (w.entry t.machine id).live ≠ none
  deletes : ∀ id at_, op = .save id (.delete at_) → duty = none ∧ w.Shut t.machine id ∧ c.fault ≠ .late
  receives : op = .receive → duty = none
  checks : ∀ ids id, op = .deletedTunnels ids → duty = some (.check id) →
    id ∈ ids ∧ (c.fault ≠ .none → w.db.Deleted id → w.Clean t.machine id)
  unloads : ∀ id, op = .unload id → duty = some (.close id) → w.Shut t.machine id
  unlocks : ∀ id, op = .unlock id → duty ≠ some (.announce id)
  ends : op = .handled → duty = none

section Step

variable {setup : Setup} {job : Task → Operation} {t : Task} {op : Act} {c : Choice} {w w' : World}
  {ans : op.Ans} {m : MachineId} {id : TunnelId} {h h' : Deletions} {duty : Task → Option Duty} {d : Option Duty}

/-- Nothing is taken off a wire. -/
theorem exec_wires (ex : exec setup t op c w = some (ans, w')) {a : MachineId} {events : List Event}
    (wire : w.wires a m = some events) : ∃ events', w'.wires a m = some events' ∧ ∀ e ∈ events, e ∈ events' := by
  cases exec_mesh ex with
  | same same => exact ⟨events, by rw [same.wires]; exact wire, fun _ listed => listed⟩
  | published event is clustered after =>
      subst after
      by_cases here : a = t.machine
      · refine ⟨events ++ [event], ?_, fun e listed => List.mem_append_left _ listed⟩
        simp only [World.publish, here, if_true]
        rw [here] at wire
        rw [wire]
        rfl
      · refine ⟨events, ?_, fun _ listed => listed⟩
        simp only [World.publish, here, if_false]
        exact wire
  | received notice rest is queue after =>
      subst after
      exact ⟨events, wire, fun _ listed => listed⟩

theorem exec_notices (ex : exec setup t op c w = some (ans, w')) (keeps : op ≠ .receive) (m : MachineId) :
    (w'.machine m).notices = (w.machine m).notices := by
  cases exec_mesh ex with
  | same same => exact same.notices m
  | published event is clustered after => rw [after]; rfl
  | received notice rest is queue after => exact absurd is keeps

/-- An act that deletes nothing keeps the invariant, once what it does about its own task's duty and about the
    notice it takes is accounted for. -/
theorem Tracked.next (inv : Revisions job w) (tr : Tracked w h duty) (ex : exec setup t op c w = some (ans, w'))
    (registers : ∀ id, op = .registerBridge id → (w.entry t.machine id).live ≠ none)
    (still : ∀ id, w'.db.Deleted id → w.db.Deleted id)
    (deleters : h'.deletedBy = h.deletedBy) (missed : h'.missed = h.missed)
    (others : ∀ t', t' ≠ t → h'.handling t' = h.handling t')
    (locked : ∀ id, d = some (.announce id) → w'.holds t id = true)
    (busy : ∀ id, d = some (.check id) ∨ d = some (.close id) → h'.handling t = some (.event (.tunnelDeleted id)))
    (announces : ∀ m id, h.missed m id = false → duty t = some (.announce id) → h.deletedBy id = some t.machine →
      t.machine ≠ m → Covered w' h' (setDuty duty t d) m id)
    (takes : ∀ m id, .event (.tunnelDeleted id) ∈ (w.machine m).notices → Covered w' h' (setDuty duty t d) m id)
    (handles : ∀ id, w'.db.Deleted id → duty t = some (.check id) ∨ duty t = some (.close id) →
      Covered w' h' (setDuty duty t d) t.machine id) :
    Tracked w' h' (setDuty duty t d) where
  unused := exec_unused tr.unused ex
  registered := exec_registered tr.registered ex
  covered := by
    intro m id deleted linked
    rw [missed] at linked
    cases tr.covered m id (still id deleted) linked with
    | announced t' has deletes far =>
        by_cases same : t' = t
        · subst same
          exact announces m id linked has deletes far
        · refine .announced t' ?_ (by rw [deleters]; exact deletes) far
          rw [setDuty_other duty d same]
          exact has
    | sent a events deletes far wire listed =>
        obtain ⟨events', wire', kept⟩ := exec_wires ex wire
        exact .sent a events' (by rw [deleters]; exact deletes) far wire' (kept _ listed)
    | queued listed => exact takes m id listed
    | handled t' here has =>
        by_cases same : t' = t
        · subst same here
          exact handles id deleted has
        · refine .handled t' here ?_
          rw [setDuty_other duty d same]
          exact has
    | clean clean =>
        refine .clean (exec_clean inv tr.unused ex ?_ deleted clean)
        rintro rfl is
        exact registers id is
  linked := by
    intro m id a linked deletes far
    rw [missed] at linked
    rw [deleters] at deletes
    obtain ⟨events, wire⟩ := tr.linked m id a linked deletes far
    obtain ⟨events', wire', -⟩ := exec_wires ex wire
    exact ⟨events', wire'⟩
  locked := by
    intro t' id has
    by_cases same : t' = t
    · subst same
      rw [setDuty_self] at has
      exact locked id has
    · rw [setDuty_other duty d same] at has
      have held := tr.locked t' id has
      have kept := others_entry (Or.inl ⟨t, op, c, ans, Ne.symm same, ex⟩) held
      rw [World.holds_iff, kept]
      exact World.holds_iff.mp held
  busy := by
    intro t' id has
    by_cases same : t' = t
    · subst same
      rw [setDuty_self] at has
      exact busy id has
    · rw [setDuty_other duty d same] at has
      rw [others t' same]
      exact tr.busy t' id has

/-- An act that has nothing to do with deletions. -/
theorem Tracked.quiet (inv : Revisions job w) (tr : Tracked w h duty) (ex : exec setup t op c w = some (ans, w'))
    (registers : ∀ id, op = .registerBridge id → (w.entry t.machine id).live ≠ none)
    (still : ∀ id, w'.db.Deleted id → w.db.Deleted id) (receives : op ≠ .receive)
    (unlocks : ∀ id, op = .unlock id → duty t ≠ some (.announce id)) : Tracked w' h duty := by
  rw [← setDuty_same duty t]
  refine tr.next inv ex registers still rfl rfl (fun _ _ => rfl) ?_ (tr.busy t) ?_ ?_ ?_
  · intro id has
    exact exec_holds ex (fun is => unlocks id is has) (tr.locked t id has)
  · intro m id _ has deletes far
    exact .announced t (by rw [setDuty_self]; exact has) deletes far
  · intro m id listed
    refine .queued ?_
    rw [exec_notices ex receives]
    exact listed
  · intro id _ has
    exact .handled t rfl (by rw [setDuty_self]; exact has)

/-- The deletion is saved: the machine itself is clean, and the task goes on to announce it. -/
theorem Tracked.deleted (inv : Revisions job w) (tr : Tracked w h duty) {at_ : String} {ans : Except Err Unit}
    (idle : duty t = none) (shut : w.Shut t.machine id)
    (ex : exec setup t (.save id (.delete at_)) c w = some (ans, w')) (saved : ans = .ok ()) :
    Tracked w' (h.delete w t.machine id) (setDuty duty t (some (.announce id))) := by
  have shut' : w'.Shut t.machine id := exec_shut tr.unused ex (by simp) shut
  obtain ⟨record, held, made, free, ⟨-, failed, -⟩ | ⟨-, failed, -⟩ | ⟨-, failed, -⟩ |
    ⟨revision, db, -, -, wrote, after⟩⟩ := exec_save ex
  · rw [saved] at failed
    cases failed
  · rw [saved] at failed
    cases failed
  · rw [saved] at failed
    cases failed
  have wires : w'.wires = w.wires := by rw [after]; rfl
  have notices (m : MachineId) : (w'.machine m).notices = (w.machine m).notices := exec_notices ex (by simp) m
  have gone : record.isDeleted = true := by
    cases before : (w.entry t.machine id).record with
    | none => simp [before, Change.apply] at made
    | some old =>
        simp only [before, Change.apply, Option.some.injEq] at made
        rw [← made]
        rfl
  refine ⟨exec_unused tr.unused ex, exec_registered tr.registered ex, ?_, ?_, ?_, ?_⟩
  · intro m id' deleted linked
    by_cases same : id' = id
    · subst same
      by_cases here : m = t.machine
      · subst here
        have cached : (w'.entry t.machine id').record = some record := by
          rw [after]
          simp
        exact .clean ⟨shut', live_deleted cached gone⟩
      · exact .announced t (by rw [setDuty_self]) (by simp [Deletions.delete]) (Ne.symm here)
    · have before : w.db.Deleted id' := by
        refine exec_deleted inv ex (by simp [Act.tag]) ?_ deleted
        intro at' is
        injection is with is
        exact same is.symm
      have linked' : h.missed m id' = false := by simpa [Deletions.delete, same] using linked
      cases tr.covered m id' before linked' with
      | announced t' has deletes far =>
          have other : t' ≠ t := by
            rintro rfl
            rw [idle] at has
            cases has
          refine .announced t' ?_ (by simpa [Deletions.delete, same] using deletes) far
          rw [setDuty_other duty _ other]
          exact has
      | sent a events deletes far wire listed =>
          refine .sent a events (by simpa [Deletions.delete, same] using deletes) far ?_ listed
          rw [wires]
          exact wire
      | queued listed =>
          refine .queued ?_
          rw [notices]
          exact listed
      | handled t' here has =>
          have other : t' ≠ t := by
            rintro rfl
            rw [idle] at has
            rcases has with has | has <;> cases has
          refine .handled t' here ?_
          rw [setDuty_other duty _ other]
          exact has
      | clean clean => exact .clean (exec_clean inv tr.unused ex (by simp) deleted clean)
  · intro m id' a linked deletes far
    rw [wires]
    by_cases same : id' = id
    · subst same
      simp only [Deletions.delete, if_true, Option.some.injEq] at deletes linked
      subst deletes
      simpa [Ne.symm far, Option.isSome_iff_exists] using linked
    · simp only [Deletions.delete, same, if_false] at deletes linked
      exact tr.linked m id' a linked deletes far
  · intro t' id' has
    by_cases same : t' = t
    · subst same
      rw [setDuty_self] at has
      cases has
      exact exec_holds ex (by simp) held
    · rw [setDuty_other duty _ same] at has
      have mine := tr.locked t' id' has
      have kept := others_entry (Or.inl ⟨t, .save id (.delete at_), c, ans, Ne.symm same, ex⟩) mine
      rw [World.holds_iff, kept]
      exact World.holds_iff.mp mine
  · intro t' id' has
    by_cases same : t' = t
    · subst same
      rw [setDuty_self] at has
      rcases has with has | has <;> cases has
    · rw [setDuty_other duty _ same] at has
      exact tr.busy t' id' has

/-- The deletion is announced: it is on the wire to every machine that was linked since. -/
theorem Tracked.announced (inv : Revisions job w) (tr : Tracked w h duty) (cluster : setup.clustered t.machine = true)
    (has : duty t = some (.announce id)) {ans : Unit}
    (ex : exec setup t (.publish (.tunnelDeleted id)) c w = some (ans, w')) :
    Tracked w' h (setDuty duty t none) := by
  have after : w' = w.publish t.machine (.tunnelDeleted id) := by
    simp only [exec, cluster, if_true, Option.some.injEq, Prod.mk.injEq] at ex
    exact ex.2.symm
  refine tr.next inv ex (by simp) ?_ rfl rfl (fun _ _ => rfl) (by simp) (by simp) ?_ ?_ ?_
  · intro id' deleted
    rw [after] at deleted
    exact deleted
  · intro m id' linked has' deletes far
    rw [has] at has'
    cases has'
    obtain ⟨events, wire⟩ := tr.linked m id t.machine linked deletes far
    refine .sent t.machine (events ++ [.tunnelDeleted id]) deletes far ?_ (by simp)
    rw [after]
    simp [World.publish, wire]
  · intro m id' listed
    refine .queued ?_
    rw [exec_notices ex (by simp)]
    exact listed
  · intro id' _ has'
    rw [has] at has'
    rcases has' with has' | has' <;> cases has'

/-- A notice is taken off the queue: whoever takes the one of a deletion goes on to check it. -/
theorem Tracked.received (inv : Revisions job w) (tr : Tracked w h duty) (idle : duty t = none) {notice : Notice}
    (ex : exec setup t .receive c w = some (notice, w')) :
    Tracked w' (h.take t (some notice)) (setDuty duty t (Duty.next .receive notice (duty t))) := by
  obtain ⟨rest, queue, after⟩ := exec_receive ex
  refine tr.next inv ex (by simp) ?_ rfl rfl ?_ ?_ ?_ ?_ ?_ ?_
  · intro id' deleted
    rw [after] at deleted
    exact deleted
  · intro t' other
    simp [Deletions.take, other]
  · intro id' has
    rw [idle] at has
    cases notice with
    | event event => cases event <;> simp [Duty.next] at has
    | linkUp => simp [Duty.next] at has
  · intro id' has
    rw [idle] at has
    cases notice with
    | event event =>
        cases event <;> simp [Duty.next] at has
        simp [Deletions.take, has]
    | linkUp => simp [Duty.next] at has
  · intro m id' _ has
    rw [idle] at has
    cases has
  · intro m id' listed
    by_cases here : m = t.machine
    · subst here
      rw [queue] at listed
      rcases List.mem_cons.mp listed with first | later
      · subst first
        exact .handled t rfl (Or.inl (by rw [setDuty_self]; rfl))
      · refine .queued ?_
        rw [after]
        simpa using later
    · refine .queued ?_
      rw [after]
      simpa [here] using listed
  · intro id' _ has
    rw [idle] at has
    rcases has with has | has <;> cases has

/-- The end of a notice's handling. -/
theorem Tracked.ended (inv : Revisions job w) (tr : Tracked w h duty) (idle : duty t = none) {ans : Unit}
    (ex : exec setup t .handled c w = some (ans, w')) : Tracked w' (h.take t none) duty := by
  have after : w' = w := by
    cases ex
    rfl
  rw [← setDuty_same duty t]
  refine tr.next inv ex (by simp) ?_ rfl rfl ?_ ?_ ?_ ?_ ?_ ?_
  · intro id' deleted
    rw [after] at deleted
    exact deleted
  · intro t' other
    simp [Deletions.take, other]
  · simp [idle]
  · simp [idle]
  · simp [idle]
  · intro m id' listed
    refine .queued ?_
    rw [after]
    exact listed
  · simp [idle]

/-- The check of a deletion: a read that answers finds it deleted if it is, and one that fails is not allowed while
    the machine takes the tunnel for a live one. -/
theorem Tracked.checked (inv : Revisions job w) (tr : Tracked w h duty) {ids : List TunnelId}
    (has : duty t = some (.check id)) (asked : id ∈ ids)
    (fails : c.fault ≠ .none → w.db.Deleted id → w.Clean t.machine id) {answer : Except Err (List TunnelId)}
    (ex : exec setup t (.deletedTunnels ids) c w = some (answer, w')) :
    Tracked w' h (setDuty duty t (Duty.next (.deletedTunnels ids) answer (duty t))) := by
  simp only [exec, Option.some.injEq, Prod.mk.injEq] at ex
  obtain ⟨answers, after⟩ := ex
  subst after
  have busy := tr.busy t id (Or.inl has)
  have ex : exec setup t (.deletedTunnels ids) c w = some (answer, w) := by
    simp only [exec]
    rw [answers]
  have listed (gone : w.db.Deleted id) : id ∈ w.db.deletedTunnels ids := by
    obtain ⟨row, found, deleted⟩ := Db.deleted_iff.mp gone
    have derived := (inv.rows id row found).2.2
    simp only [Row.Derived, recordFlags, Prod.mk.injEq] at derived
    unfold Db.deletedTunnels
    refine List.mem_filter.mpr ⟨asked, ?_⟩
    simp [found, derived.1, deleted]
  refine tr.next inv ex (by simp) (fun _ gone => gone) rfl rfl (fun _ _ => rfl) ?_ ?_ ?_ (fun m id' => .queued) ?_
  · intro id' has'
    rw [has] at has'
    cases answer with
    | error err => simp [Duty.next] at has'
    | ok deleted =>
        simp only [Duty.next] at has'
        split at has' <;> cases has'
  · intro id' has'
    rw [has] at has'
    cases answer with
    | error err => simp [Duty.next] at has'
    | ok deleted =>
        simp only [Duty.next] at has'
        split at has'
        · rcases has' with has' | has'
          · cases has'
          · cases has'
            exact busy
        · rcases has' with has' | has' <;> cases has'
  · intro m id' _ has'
    rw [has] at has'
    cases has'
  · intro id' gone has'
    rw [has] at has'
    have same : id = id' := by
      rcases has' with has' | has' <;> cases has'
      rfl
    subst same
    cases fault : c.fault with
    | none =>
        simp only [Choice.query, fault] at answers
        subst answers
        refine .handled t rfl (Or.inr ?_)
        rw [setDuty_self, has]
        simp [Duty.next, listed gone]
    | failed => exact .clean (fails (by simp [fault]) gone)
    | late => exact .clean (fails (by simp [fault]) gone)

/-- The bridges of a deleted tunnel are closed: the duty ends where the machine is clean. -/
theorem Tracked.done (inv : Revisions job w) (tr : Tracked w h duty) (ex : exec setup t op c w = some (ans, w'))
    (has : duty t = some (.close id)) (still : ∀ id, w'.db.Deleted id → w.db.Deleted id)
    (registers : ∀ id, op ≠ .registerBridge id) (receives : op ≠ .receive) (clean : w'.Clean t.machine id) :
    Tracked w' h (setDuty duty t none) := by
  refine tr.next inv ex (fun id' is => absurd is (registers id')) still rfl rfl (fun _ _ => rfl) (by simp) (by simp)
    ?_ ?_ ?_
  · intro m id' _ has'
    rw [has] at has'
    cases has'
  · intro m id' listed
    refine .queued ?_
    rw [exec_notices ex receives]
    exact listed
  · intro id' _ has'
    rw [has] at has'
    have same : id = id' := by
      rcases has' with has' | has' <;> cases has'
      rfl
    exact same ▸ .clean clean

/-- A delete that reports an error and was not sent in vain has deleted nothing. -/
theorem deleted_of_failed {at_ : String} {err : Err} (sent : c.fault ≠ .late)
    (ex : exec setup t (.save id (.delete at_)) c w = some (.error err, w')) {id' : TunnelId}
    (deleted : w'.db.Deleted id') : w.db.Deleted id' := by
  obtain ⟨record, held, made, free, ⟨-, -, after⟩ | ⟨late, -, -⟩ | ⟨-, -, -, after⟩ |
    ⟨revision, db, -, saved, -, -⟩⟩ := exec_save ex
  · rw [after] at deleted
    exact deleted
  · exact absurd late sent
  · rw [after] at deleted
    exact deleted
  · cases saved

theorem Tracked.step (inv : Revisions job w) (tr : Tracked w h duty) (cluster : ∀ m, setup.clustered m = true)
    (permitted : Permitted w (duty t) t op c) (ex : exec setup t op c w = some (ans, w')) :
    Tracked w' (h.call t op ans w) (setDuty duty t (Duty.next op ans (duty t))) := by
  have quiet (receives : op ≠ .receive) (deletes : ∀ id at_, op ≠ .save id (.delete at_)) : Tracked w' h duty := by
    refine tr.quiet inv ex permitted.registers ?_ receives permitted.unlocks
    intro id deleted
    exact exec_deleted inv ex permitted.imports (deletes id) deleted
  cases op
  case save id change =>
      cases change
      case delete at_ =>
          obtain ⟨idle, shut, sent⟩ := permitted.deletes id at_ rfl
          cases ans with
          | ok done => exact tr.deleted inv idle shut ex rfl
          | error err =>
              show Tracked w' h (setDuty duty t (duty t))
              rw [setDuty_same]
              exact tr.quiet inv ex (by simp) (fun _ => deleted_of_failed sent ex) (by simp) (by simp)
      all_goals
        show Tracked w' h (setDuty duty t (duty t))
        rw [setDuty_same]
        exact quiet (by simp) (by simp)
  case publish event =>
      by_cases mine : ∃ id, event = .tunnelDeleted id ∧ duty t = some (.announce id)
      · obtain ⟨id, rfl, has⟩ := mine
        have ends : Duty.next (.publish (.tunnelDeleted id)) ans (duty t) = none := by simp [Duty.next, has]
        rw [ends]
        exact tr.announced inv (cluster t.machine) has ex
      · have same : Duty.next (.publish event) ans (duty t) = duty t := by
          cases event
          case tunnelDeleted id =>
              have other : duty t ≠ some (.announce id) := fun has => mine ⟨id, rfl, has⟩
              simp [Duty.next, other]
          all_goals rfl
        rw [same, setDuty_same]
        exact quiet (by simp) (by simp)
  case receive => exact tr.received inv (permitted.receives rfl) ex
  case handled =>
      have idle := permitted.ends rfl
      show Tracked w' (h.take t none) (setDuty duty t (duty t))
      rw [setDuty_same]
      exact tr.ended inv idle ex
  case deletedTunnels ids =>
      by_cases mine : ∃ id, duty t = some (.check id)
      · obtain ⟨id, has⟩ := mine
        obtain ⟨asked, fails⟩ := permitted.checks ids id rfl has
        exact tr.checked inv has asked fails ex
      · have same : Duty.next (.deletedTunnels ids) ans (duty t) = duty t := by
          cases has : duty t with
          | none => rfl
          | some other =>
              cases other
              case check id => exact absurd ⟨id, has⟩ mine
              all_goals rfl
        rw [same, setDuty_same]
        exact quiet (by simp) (by simp)
  case known id =>
      by_cases mine : ans = false ∧ duty t = some (.close id)
      · obtain ⟨rfl, has⟩ := mine
        have ends : Duty.next (.known id) false (duty t) = none := by simp [Duty.next, has]
        rw [ends]
        simp only [exec, Option.some.injEq, Prod.mk.injEq] at ex
        obtain ⟨absent, after⟩ := ex
        subst after
        have cold : w.entry t.machine id = {} := by
          unfold World.entry
          cases found : (w.machine t.machine).tunnels.get id with
          | none => rfl
          | some e => simp [found] at absent
        have ex : exec setup t (.known id) c w = some (false, w) := by
          simp only [exec]
          rw [absent]
        refine tr.done inv ex has (fun _ deleted => deleted) (by simp) (by simp) ⟨?_, ?_⟩
        · intro b listed
          simp [cold] at listed
        · rw [cold]
          rfl
      · have same : Duty.next (.known id) ans (duty t) = duty t := by
          cases ans with
          | true => rfl
          | false =>
              have other : duty t ≠ some (.close id) := fun has => mine ⟨rfl, has⟩
              simp [Duty.next, other]
        rw [same, setDuty_same]
        exact quiet (by simp) (by simp)
  case unload id =>
      by_cases has : duty t = some (.close id)
      · have ends : Duty.next (.unload id) ans (duty t) = none := by simp [Duty.next, has]
        rw [ends]
        have shut := exec_shut (m := t.machine) tr.unused ex (by simp) (permitted.unloads id rfl has)
        have after : w' = w.setEntry t.machine id (w.entry t.machine id).unloaded := by
          simp only [exec] at ex
          obtain ⟨-, run⟩ := World.onEntry_spec ex
          cases run
          rfl
        refine tr.done inv ex has ?_ (by simp) (by simp) ⟨shut, ?_⟩
        · intro id' deleted
          rw [after] at deleted
          exact deleted
        · rw [after]
          simp [Entry.live, Entry.unloaded]
      · have same : Duty.next (.unload id) ans (duty t) = duty t := by simp [Duty.next, has]
        rw [same, setDuty_same]
        exact quiet (by simp) (by simp)
  all_goals
    show Tracked w' h (setDuty duty t (duty t))
    rw [setDuty_same]
    exact quiet (by simp) (by simp)

end Step

/-! ### Moves -/

section Moves

variable {mv : Move} {w w' : World} {m : MachineId} {id : TunnelId} {h : Deletions} {duty : Task → Option Duty}

/-- A machine that has not missed a deletion after a move had not before, and its link from the deleting machine was
    not cut by it. -/
theorem missed_move (linked : (h.move mv).missed m id = false) :
    h.missed m id = false ∧ ∀ a, h.deletedBy id = some a → a ≠ m →
      mv ≠ .linkDown a m ∧ mv ≠ .linkUp a m := by
  cases mv
  case linkDown source target =>
      simp only [Deletions.move, Deletions.cut, Bool.or_eq_false_iff] at linked
      refine ⟨linked.1, ?_⟩
      intro a deletes far
      refine ⟨?_, by simp⟩
      rintro ⟨rfl, rfl⟩
      simp [deletes, far] at linked
  case linkUp source target =>
      simp only [Deletions.move, Deletions.cut, Bool.or_eq_false_iff] at linked
      refine ⟨linked.1, ?_⟩
      intro a deletes far
      refine ⟨by simp, ?_⟩
      rintro ⟨rfl, rfl⟩
      simp [deletes, far] at linked
  all_goals exact ⟨linked, by simp⟩

theorem deletedBy_move : (h.move mv).deletedBy = h.deletedBy := by
  cases mv <;> rfl

theorem handling_move : (h.move mv).handling = h.handling := by
  cases mv <;> rfl

/-- An event on a wire that is not cut stays there, or is delivered. -/
theorem move_wires (moved : move mv w = some w') {a : MachineId} {events : List Event}
    (wire : w.wires a m = some events) (down : mv ≠ .linkDown a m) (up : mv ≠ .linkUp a m) :
    ∃ events', w'.wires a m = some events' ∧
      ∀ e ∈ events, e ∈ events' ∨ .event e ∈ (w'.machine m).notices := by
  cases mv with
  | deliver source target =>
      simp only [move] at moved
      split at moved
      · rename_i first rest queue
        cases moved
        by_cases here : a = source ∧ m = target
        · obtain ⟨rfl, rfl⟩ := here
          rw [queue] at wire
          cases wire
          refine ⟨rest, by simp [World.notify, World.setWire], ?_⟩
          intro e listed
          rcases List.mem_cons.mp listed with rfl | later
          · exact Or.inr (by simp [World.notify])
          · exact Or.inl later
        · refine ⟨events, ?_, fun e listed => Or.inl listed⟩
          simp only [World.notify, World.wires_setMachine, World.setWire, here, if_false]
          exact wire
      · cases moved
  | linkDown source target =>
      cases moved
      have elsewhere : ¬ (a = source ∧ m = target) := by
        rintro ⟨rfl, rfl⟩
        exact down rfl
      refine ⟨events, ?_, fun e listed => Or.inl listed⟩
      simp only [World.setWire, elsewhere, if_false]
      exact wire
  | linkUp source target =>
      cases moved
      have elsewhere : ¬ (a = source ∧ m = target) := by
        rintro ⟨rfl, rfl⟩
        exact up rfl
      refine ⟨events, ?_, fun e listed => Or.inl listed⟩
      simp only [World.notify, World.wires_setMachine, World.setWire, elsewhere, if_false]
      exact wire
  | clocks times =>
      cases moved
      exact ⟨events, wire, fun e listed => Or.inl listed⟩
  | touch m' b =>
      cases moved
      exact ⟨events, wire, fun e listed => Or.inl listed⟩
  | close m' b code =>
      cases moved
      exact ⟨events, wire, fun e listed => Or.inl listed⟩
  | channelEnds m' b conn =>
      cases moved
      exact ⟨events, wire, fun e listed => Or.inl listed⟩
  | visitorEnds m' b =>
      cases moved
      exact ⟨events, wire, fun e listed => Or.inl listed⟩
  | meshComplete m' complete =>
      cases moved
      exact ⟨events, wire, fun e listed => Or.inl listed⟩

/-- Moves only add to the queues of notices. -/
theorem move_notices (moved : move mv w = some w') {notice : Notice} (listed : notice ∈ (w.machine m).notices) :
    notice ∈ (w'.machine m).notices := by
  have notified {w : World} {m' : MachineId} {new : Notice} (listed : notice ∈ (w.machine m).notices) :
      notice ∈ ((w.notify m' new).machine m).notices := by
    simp only [World.notify, World.machine_setMachine]
    split
    · rename_i here
      subst here
      exact List.mem_append_left _ listed
    · exact listed
  have mapped {m' : MachineId} {ids : List BridgeId} {f : Bridge → Bridge} :
      notice ∈ ((w.mapBridges m' ids f).machine m).notices := by
    have same : SameMesh w (w.mapBridges m' ids f) := .of_mapBridges m' ids f
    rw [same.notices]
    exact listed
  cases mv with
  | deliver source target =>
      simp only [move] at moved
      split at moved
      · cases moved
        exact notified listed
      · cases moved
  | linkDown source target => cases moved; exact listed
  | linkUp source target => cases moved; exact notified listed
  | clocks times => cases moved; exact listed
  | touch m' b => cases moved; exact mapped
  | close m' b code => cases moved; exact mapped
  | channelEnds m' b conn => cases moved; exact mapped
  | visitorEnds m' b => cases moved; exact mapped
  | meshComplete m' complete =>
      cases moved
      have same : SameMesh w (w.setMachine m' { w.machine m' with complete := complete }) := .of_machine m' rfl
      rw [same.notices]
      exact listed

theorem Tracked.move (tr : Tracked w h duty) (moved : OpenTunnel.move mv w = some w') : Tracked w' (h.move mv) duty := by
  obtain ⟨rows, entries⟩ := move_frame moved
  have same := move_bridges moved
  refine ⟨?_, tr.registered.same same, ?_, ?_, ?_, ?_⟩
  · intro m b later
    rw [same.next] at later
    rcases same.kept m b with ⟨-, after⟩ | ⟨old, new, before, -, -⟩
    · exact after
    · rw [tr.unused m b later] at before
      cases before
  · intro m id deleted linked
    rw [rows] at deleted
    obtain ⟨linked, uncut⟩ := missed_move linked
    cases tr.covered m id deleted linked with
    | announced t has deletes far => exact .announced t has (by rw [deletedBy_move]; exact deletes) far
    | sent a events deletes far wire listed =>
        obtain ⟨down, up⟩ := uncut a deletes far
        obtain ⟨events', wire', kept⟩ := move_wires moved wire down up
        rcases kept _ listed with still | arrived
        · exact .sent a events' (by rw [deletedBy_move]; exact deletes) far wire' still
        · exact .queued arrived
    | queued listed => exact .queued (move_notices moved listed)
    | handled t here has => exact .handled t here has
    | clean clean =>
        refine .clean ⟨?_, by rw [entries]; exact clean.2⟩
        intro b listed
        rw [entries] at listed
        have closing : w.Closing m b := clean.1 b listed
        exact closing.same same
  · intro m id a linked deletes far
    obtain ⟨linked, uncut⟩ := missed_move linked
    rw [deletedBy_move] at deletes
    obtain ⟨events, wire⟩ := tr.linked m id a linked deletes far
    obtain ⟨down, up⟩ := uncut a deletes far
    obtain ⟨events', wire', -⟩ := move_wires moved wire down up
    exact ⟨events', wire'⟩
  · intro t id has
    rw [World.holds_iff, entries]
    exact World.holds_iff.mp (tr.locked t id has)
  · intro t id has
    rw [handling_move]
    exact tr.busy t id has

end Moves

/-! ### What a task relies on -/

/-- The system with both histories. -/
abbrev tracking (setup : Setup) : Semantics Task Act Act.Ans ((World × Deletions) × (Task → Option Duty)) Operation :=
  ((system setup).withGhost (deletions setup)).withGhost (duties setup)

abbrev trackingTold (setup : Setup) : Assumptions (tracking setup) := (deletionsTold setup).withGhost (duties setup)

/-- Nobody else touches a task's duty, nor the entries it holds, and closing bridges stay so. -/
structure LeavesDuty (t : Task) (s s' : (World × Deletions) × (Task → Option Duty)) : Prop where
  duty : s'.2 t = s.2 t
  entry : ∀ id, s.1.1.holds t id = true → s'.1.1.entry t.machine id = s.1.1.entry t.machine id
  closing : ∀ b, s.1.1.Closing t.machine b → s'.1.1.Closing t.machine b

def deletionRules : Rules Task ((World × Deletions) × (Task → Option Duty)) where
  inv := fun s => Revisions (fun _ => .sweep) s.1.1 ∧ Tracked s.1.1 s.1.2 s.2
  rely := LeavesDuty

section Programs

variable {setup : Setup} {t : Task} {id : TunnelId} {s s' : (World × Deletions) × (Task → Option Duty)}

theorem tracking_exec {op : Act} {c : Choice} {ans : op.Ans} (h : (tracking setup).exec t op c s = some (ans, s')) :
    exec setup t op c s.1.1 = some (ans, s'.1.1) ∧ s'.1.2 = s.1.2.call t op ans s.1.1 ∧
      s'.2 = setDuty s.2 t (Duty.next op ans (s.2 t)) := by
  obtain ⟨inner, duty⟩ := withGhost_exec.mp h
  obtain ⟨ex, history⟩ := withGhost_exec.mp inner
  exact ⟨ex, history, duty⟩

/-- A permitted act keeps the invariant and what the others rely on. -/
theorem harmless_of_permitted (cluster : ∀ m, setup.clustered m = true) {op : Act} {c : Choice} {ans : op.Ans}
    (inv : deletionRules.inv s) (permitted : Permitted s.1.1 (s.2 t) t op c)
    (h : (tracking setup).exec t op c s = some (ans, s')) : deletionRules.Harmless t s s' := by
  obtain ⟨ex, history, duty⟩ := tracking_exec h
  refine ⟨⟨?_, ?_⟩, ?_⟩
  · refine inv.1.step ex ?_
    intro record alarmAt open_ is
    rw [is] at permitted
    exact absurd rfl permitted.imports
  · rw [history, duty]
    exact inv.2.step inv.1 cluster permitted ex
  · intro t' other
    refine ⟨?_, ?_, ?_⟩
    · rw [duty, setDuty_other s.2 _ other]
    · intro id held
      exact others_entry (Or.inl ⟨t, op, c, ans, Ne.symm other, ex⟩) held
    · intro b closing
      exact exec_closing inv.2.unused ex closing

theorem safe_permitted (cluster : ∀ m, setup.clustered m = true) {op : Act}
    {Q : op.Ans → (World × Deletions) × (Task → Option Duty) → Prop}
    (h : ∀ s₁, deletionRules.Drift t s s₁ → deletionRules.inv s₁ → ∀ c, ¬ MissesDeletion t op c s₁.1 →
      Permitted s₁.1.1 (s₁.2 t) t op c ∧
        ∀ ans s₂, exec setup t op c s₁.1.1 = some (ans, s₂.1.1) → s₂.2 t = Duty.next op ans (s₁.2 t) → Q ans s₂) :
    deletionRules.Safe (trackingTold setup) t (act op) Q s := by
  refine Rules.safe_act fun s₁ drift inv c ans s₂ meets executed => ?_
  obtain ⟨permitted, post⟩ := h s₁ drift inv c meets
  refine ⟨harmless_of_permitted cluster inv permitted executed, ?_⟩
  obtain ⟨ex, -, duty⟩ := tracking_exec executed
  exact post ans s₂ ex (by rw [duty, setDuty_self])

/-! ### What a task knows -/

theorem stable_duty (d : Option Duty) : deletionRules.Stable t fun s => s.2 t = d := by
  intro s s' _ leaves has
  rw [leaves.duty]
  exact has

/-- The entry is locked by the task, and as it was looked up. -/
def Holding (t : Task) (id : TunnelId) (e : Entry) (s : (World × Deletions) × (Task → Option Duty)) : Prop :=
  s.1.1.holds t id = true ∧ s.1.1.entry t.machine id = e

theorem stable_holding (e : Entry) : deletionRules.Stable t (Holding t id e) := by
  rintro s s' _ leaves ⟨held, same⟩
  have kept := leaves.entry id held
  refine ⟨?_, kept.trans same⟩
  rw [World.holds_iff, kept]
  exact World.holds_iff.mp held

/-- The entry is locked by the task, and its bridges are told to close. -/
def Closed (t : Task) (id : TunnelId) (s : (World × Deletions) × (Task → Option Duty)) : Prop :=
  s.1.1.holds t id = true ∧ s.1.1.Shut t.machine id

theorem stable_closed : deletionRules.Stable t (Closed t id) := by
  rintro s s' _ leaves ⟨held, shut⟩
  have kept := leaves.entry id held
  refine ⟨?_, ?_⟩
  · rw [World.holds_iff, kept]
    exact World.holds_iff.mp held
  · intro b listed
    rw [kept] at listed
    exact leaves.closing b (shut b listed)

/-- A task without a duty gets none but by taking a notice and by deleting. -/
theorem Duty.next_none {op : Act} (ans : op.Ans) (receives : op.tag ≠ .receive) (deletes : op.tag ≠ .save .delete) :
    Duty.next op ans none = none := by
  cases op
  case save id change =>
      cases change
      case delete at_ => exact absurd rfl deletes
      all_goals rfl
  case receive => exact absurd rfl receives
  case publish event => cases event <;> simp [Duty.next]
  case known id => cases ans <;> simp [Duty.next]
  case unload id => simp [Duty.next]
  all_goals rfl

/-- Acts that a task without a duty may always make. -/
def Act.unbound (op : Act) : Prop :=
  op.tag ≠ .importing ∧ op.tag ≠ .register ∧ op.tag ≠ .save .delete ∧ op.tag ≠ .receive

theorem Act.unbound.permitted {op : Act} (unbound : op.unbound) (w : World) (c : Choice) :
    Permitted w none t op c where
  imports := unbound.1
  registers := fun id is => absurd (by rw [is]; rfl) unbound.2.1
  deletes := fun id at_ is => absurd (by rw [is]; rfl) unbound.2.2.1
  receives := fun _ => rfl
  checks := by simp
  unloads := by simp
  unlocks := by simp
  ends := fun _ => rfl

/-- Programs of such acts are safe, and a fact they keep is kept. -/
theorem safe_unbound (cluster : ∀ m, setup.clustered m = true) {α : Type} {p : Call α}
    (all : Prog.All Act.unbound p) (idle : s.2 t = none) :
    deletionRules.Safe (trackingTold setup) t p (fun _ s' => s'.2 t = none) s := by
  refine Rules.safe_of_all (stable_duty none) ?_ all idle
  intro op c s ans s' unbound inv idle _ executed
  have permitted : Permitted s.1.1 (s.2 t) t op c := by
    rw [idle]
    exact unbound.permitted s.1.1 c
  refine ⟨harmless_of_permitted cluster inv permitted executed, ?_⟩
  obtain ⟨-, -, duty⟩ := tracking_exec executed
  rw [duty, setDuty_self, idle]
  exact Duty.next_none ans unbound.2.2.2 unbound.2.2.1

theorem all_unbound {α : Type} {p : Call α} {tags : List Tag} (uses : Uses tags p) (imports : Tag.importing ∉ tags)
    (registers : Tag.register ∉ tags) (deletes : Tag.save .delete ∉ tags) (receives : Tag.receive ∉ tags) :
    Prog.All Act.unbound p := by
  refine uses.all.mono ?_
  intro op tagged
  refine ⟨?_, ?_, ?_, ?_⟩
  · intro is
    exact imports (is ▸ tagged)
  · intro is
    exact registers (is ▸ tagged)
  · intro is
    exact deletes (is ▸ tagged)
  · intro is
    exact receives (is ▸ tagged)

/-! ### Programs -/

/-- An act outside the handling of notices, by a task without a duty. -/
theorem safe_unbound_act (cluster : ∀ m, setup.clustered m = true) {op : Act} (unbound : op.unbound)
    (idle : s.2 t = none) : deletionRules.Safe (trackingTold setup) t (act op) (fun _ s' => s'.2 t = none) s :=
  safe_unbound cluster (p := act op) ⟨unbound, fun _ => trivial⟩ idle

/-- Dropping the guard at the end, without a duty. -/
theorem safe_guarded (cluster : ∀ m, setup.clustered m = true) {α : Type} {body : Fallible α}
    (safe : deletionRules.Safe (trackingTold setup) t body.run (fun _ s' => s'.2 t = none) s) :
    deletionRules.Safe (trackingTold setup) t (holding id body).run (fun _ s' => s'.2 t = none) s := by
  refine Rules.safe_bind (Rules.safe_mono safe ?_)
  intro result s₁ idle
  refine Rules.safe_bind (Rules.safe_mono (safe_unbound_act cluster (by simp [Act.unbound, Act.tag]) idle) ?_)
  intro _ s₂ idle
  exact idle

/-- The entry a task holds is as it was looked up. -/
theorem safe_peek (cluster : ∀ m, setup.clustered m = true) (idle : s.2 t = none) :
    deletionRules.Safe (trackingTold setup) t (act (.peek id)) (fun e s' => Holding t id e s' ∧ s'.2 t = none) s := by
  refine safe_permitted cluster fun s₁ drift _ c _ => ?_
  have idle₁ := (stable_duty none).drift drift idle
  have unbound : (Act.peek id).unbound := by simp [Act.unbound, Act.tag]
  rw [idle₁]
  refine ⟨unbound.permitted s₁.1.1 c, ?_⟩
  intro e s₂ ex duty
  obtain ⟨held, same, after⟩ := exec_peek ex
  refine ⟨⟨?_, ?_⟩, by rw [duty]; rfl⟩
  · rw [after]
    exact held
  · rw [after]
    exact same.symm

theorem locks_unbound {p : Fallible Unit} (uses : UsesE [.look, .read] p) : Prog.All Act.unbound p.run :=
  all_unbound (obeys_run uses) (by decide) (by decide) (by decide) (by decide)

/-- A bridge is registered only while the record is a live one. -/
theorem registerBridge_tracked (cluster : ∀ m, setup.clustered m = true) (idle : s.2 t = none) :
    deletionRules.Safe (trackingTold setup) t (registerBridge setup t.machine id).run (fun _ s' => s'.2 t = none) s := by
  unfold registerBridge
  refine Rules.safe_exceptBind (Rules.safe_mono (safe_unbound cluster (locks_unbound inferInstance) idle) ?_)
  intro result s₁ idle₁
  cases result with
  | error err => exact idle₁
  | ok _ =>
  refine safe_guarded cluster ?_
  refine Rules.safe_liftBind (Rules.safe_mono (safe_peek cluster idle₁) ?_)
  rintro e s₂ ⟨holding₂, idle₂⟩
  split
  · exact idle₂
  · rename_i live
    refine Rules.safe_liftBind (safe_permitted cluster fun s₃ drift _ c _ => ?_)
    have idle₃ := (stable_duty none).drift drift idle₂
    obtain ⟨-, same⟩ := (stable_holding e).drift drift holding₂
    rw [idle₃]
    refine ⟨⟨by simp [Act.tag], ?_, by simp, by simp, by simp, by simp, by simp, by simp⟩, ?_⟩
    · intro id' is
      injection is with is
      subst is
      rw [same]
      intro dead
      simp [dead] at live
    · intro b s₄ _ duty
      exact duty

theorem session_tracked (cluster : ∀ m, setup.clustered m = true) (requests : List AttachRequest)
    (idle : s.2 t = none) :
    deletionRules.Safe (trackingTold setup) t (session setup t.machine id requests) (fun _ _ => True) s := by
  unfold session
  refine Rules.safe_bind (Rules.safe_mono (registerBridge_tracked cluster idle) ?_)
  intro result s₁ idle₁
  split
  · rename_i b
    have uses : Uses [.look, .read, .retire, .attach, .closed] (do
        attachUntil setup t.machine id b requests
        bridgeClosed id b : Call Unit) := obeys_bind inferInstance fun _ => inferInstance
    exact Rules.safe_mono
      (safe_unbound cluster (all_unbound uses (by decide) (by decide) (by decide) (by decide)) idle₁)
      fun _ _ _ => trivial
  · trivial

/-- The bridges are told to close. -/
theorem safe_closeBridges (cluster : ∀ m, setup.clustered m = true) {d : Option Duty} (has : s.2 t = d) :
    deletionRules.Safe (trackingTold setup) t (act (.closeBridges id))
      (fun _ s' => Closed t id s' ∧ s'.2 t = d) s := by
  refine safe_permitted cluster fun s₁ drift inv c _ => ?_
  have has₁ := (stable_duty d).drift drift has
  refine ⟨⟨by simp [Act.tag], by simp, by simp, by simp, by simp, by simp, by simp, by simp⟩, ?_⟩
  intro _ s₂ ex duty
  refine ⟨?_, by rw [duty]; exact has₁⟩
  simp only [exec] at ex
  obtain ⟨held, run⟩ := World.onEntry_spec ex
  have after : s₂.1.1 = s₁.1.1.mapBridges t.machine (s₁.1.1.entry t.machine id).bridges
      fun bridge => bridge.finishChannels.close 1000 := (Prod.mk.inj run).2.symm
  refine ⟨?_, ?_⟩
  · rw [World.holds_iff, after, World.entry_mapBridges]
    exact World.holds_iff.mp held
  · intro b listed
    rw [after, World.entry_mapBridges] at listed
    obtain ⟨bridge, found⟩ := Option.isSome_iff_exists.mp (inv.2.registered t.machine id b listed)
    rw [after, World.bridge_mapBridges, if_pos ⟨rfl, listed⟩, found]
    rfl

/-- `remove` closes its bridges before it deletes, and announces what it deleted before it gives up the lock. -/
theorem remove_tracked (cluster : ∀ m, setup.clustered m = true) {token : String} (idle : s.2 t = none) :
    deletionRules.Safe (trackingTold setup) t (remove setup t.machine id token).run (fun _ s' => s'.2 t = none) s := by
  unfold remove
  refine Rules.safe_exceptBind (Rules.safe_mono (safe_unbound cluster (locks_unbound inferInstance) idle) ?_)
  intro result s₁ idle₁
  cases result with
  | error err => exact idle₁
  | ok _ =>
  refine safe_guarded cluster ?_
  refine Rules.safe_liftBind (Rules.safe_mono (safe_peek cluster idle₁) ?_)
  rintro e s₂ ⟨-, idle₂⟩
  split
  · exact idle₂
  split
  · exact idle₂
  refine Rules.safe_liftBind (Rules.safe_mono (safe_closeBridges cluster idle₂) ?_)
  rintro _ s₃ ⟨closed₃, idle₃⟩
  -- the time is read with the bridges told to close
  have clock : deletionRules.Safe (trackingTold setup) t (act .now)
      (fun _ s' => Closed t id s' ∧ s'.2 t = none) s₃ := by
    refine safe_permitted cluster fun s₄ drift _ c _ => ?_
    have idle₄ := (stable_duty none).drift drift idle₃
    have unbound : Act.now.unbound := by simp [Act.unbound, Act.tag]
    rw [idle₄]
    refine ⟨unbound.permitted s₄.1.1 c, ?_⟩
    intro now s₅ ex duty
    have after : s₄.1.1 = s₅.1.1 := (Prod.mk.inj (Option.some.inj ex)).2
    have closed₄ := stable_closed.drift drift closed₃
    unfold Closed at closed₄ ⊢
    rw [← after]
    exact ⟨closed₄, duty⟩
  refine Rules.safe_liftBind (Rules.safe_mono clock ?_)
  rintro now s₄ ⟨closed₄, idle₄⟩
  refine Rules.safe_exceptBind (Rules.safe_mono
    (Q := fun result s' => s'.2 t = if result.isOk then some (.announce id) else none) (safe_permitted cluster fun s₅ drift _ c told => ?_) ?_)
  · have idle₅ := (stable_duty none).drift drift idle₄
    obtain ⟨-, shut⟩ := stable_closed.drift drift closed₄
    rw [idle₅]
    refine ⟨⟨by simp [Act.tag], by simp, ?_, by simp, by simp, by simp, by simp, by simp⟩, ?_⟩
    · intro id' at_ is
      injection is with is
      subst is
      exact ⟨rfl, shut, told⟩
    · intro answer s₆ _ duty
      cases answer with
      | ok _ => exact duty
      | error err => exact duty
  · intro result s₅ has
    cases result with
    | error err => exact has
    | ok _ =>
    have publishes : deletionRules.Safe (trackingTold setup) t (act (.publish (.tunnelDeleted id)))
        (fun _ s' => s'.2 t = none) s₅ := by
      refine safe_permitted cluster fun s₆ drift _ c _ => ?_
      have has₆ := (stable_duty (some (.announce id))).drift drift has
      rw [has₆]
      refine ⟨⟨by simp [Act.tag], by simp, by simp, by simp, by simp, by simp, by simp, by simp⟩, ?_⟩
      intro _ s₇ _ duty
      simpa [Duty.next] using duty
    refine Rules.safe_liftBind (Rules.safe_mono publishes ?_)
    intro _ s₆ idle₆
    refine Rules.safe_exceptBind (Rules.safe_mono
      (safe_unbound_act cluster (by simp [Act.unbound, Act.tag]) idle₆) ?_)
    intro result s₇ idle₇
    cases result with
    | error err => exact idle₇
    | ok _ => exact idle₇

/-- `close_deleted` does what the check of a deletion called for. -/
theorem closeDeleted_tracked (cluster : ∀ m, setup.clustered m = true) (has : s.2 t = some (.close id)) :
    deletionRules.Safe (trackingTold setup) t (closeDeleted id) (fun _ s' => s'.2 t = none) s := by
  unfold closeDeleted
  refine Rules.safe_bind (Rules.safe_mono
    (Q := fun known s' => s'.2 t = if known = true then some (.close id) else none)
    (safe_permitted cluster fun s₁ drift _ c _ => ?_) ?_)
  · have has₁ := (stable_duty (some (.close id))).drift drift has
    rw [has₁]
    refine ⟨⟨by simp [Act.tag], by simp, by simp, by simp, by simp, by simp, by simp, by simp⟩, ?_⟩
    intro known s₂ _ duty
    cases known with
    | true => exact duty
    | false => simpa [Duty.next] using duty
  intro known s₁ has₁
  cases known with
  | false => exact has₁
  | true =>
  simp only [if_true] at has₁ ⊢
  have locks : deletionRules.Safe (trackingTold setup) t (act (.lock id))
      (fun _ s' => s'.2 t = some (.close id)) s₁ := by
    refine safe_permitted cluster fun s₂ drift _ c _ => ?_
    have has₂ := (stable_duty (some (.close id))).drift drift has₁
    rw [has₂]
    refine ⟨⟨by simp [Act.tag], by simp, by simp, by simp, by simp, by simp, by simp, by simp⟩, ?_⟩
    intro _ s₃ _ duty
    exact duty
  refine Rules.safe_bind (Rules.safe_mono locks ?_)
  intro _ s₂ has₂
  refine Rules.safe_bind (Rules.safe_mono (safe_closeBridges cluster has₂) ?_)
  rintro _ s₃ ⟨closed₃, has₃⟩
  have unloads : deletionRules.Safe (trackingTold setup) t (act (.unload id)) (fun _ s' => s'.2 t = none) s₃ := by
    refine safe_permitted cluster fun s₄ drift _ c _ => ?_
    have has₄ := (stable_duty (some (.close id))).drift drift has₃
    obtain ⟨-, shut⟩ := stable_closed.drift drift closed₃
    rw [has₄]
    refine ⟨⟨by simp [Act.tag], by simp, by simp, by simp, by simp, ?_, by simp, by simp⟩, ?_⟩
    · intro id' is _
      injection is with is
      exact is ▸ shut
    · intro _ s₅ _ duty
      simpa [Duty.next] using duty
  refine Rules.safe_bind (Rules.safe_mono unloads ?_)
  intro _ s₄ idle₄
  exact safe_unbound_act cluster (by simp [Act.unbound, Act.tag]) idle₄

/-- The check of a deletion: it fails only where the machine does not take the tunnel for a live one. -/
theorem check_tracked (cluster : ∀ m, setup.clustered m = true) (has : s.2 t = some (.check id)) :
    deletionRules.Safe (trackingTold setup) t (act (.deletedTunnels [id]))
      (fun answer s' => s'.2 t = Duty.next (.deletedTunnels [id]) answer (some (.check id))) s := by
  refine safe_permitted cluster fun s₁ drift inv c told => ?_
  have has₁ := (stable_duty (some (.check id))).drift drift has
  have busy := inv.2.busy t id (Or.inl has₁)
  rw [has₁]
  refine ⟨⟨by simp [Act.tag], by simp, by simp, by simp, ?_, by simp, by simp, by simp⟩, ?_⟩
  · intro ids id' is same
    injection is with is
    cases same
    subst is
    refine ⟨by simp, ?_⟩
    intro fails deleted
    by_cases clean : s₁.1.1.Clean t.machine id
    · exact clean
    · refine absurd ⟨fails, ?_⟩ told
      rw [busy]
      exact ⟨deleted, clean⟩
  · intro answer s₂ _ duty
    exact duty

theorem handleNotice_tracked (cluster : ∀ m, setup.clustered m = true) (idle : s.2 t = none) :
    deletionRules.Safe (trackingTold setup) t handleNotice (fun _ _ => True) s := by
  have ends {s : (World × Deletions) × (Task → Option Duty)} (idle : s.2 t = none) :
      deletionRules.Safe (trackingTold setup) t (act .handled) (fun _ _ => True) s :=
    Rules.safe_mono (safe_unbound_act cluster (by simp [Act.unbound, Act.tag]) idle) fun _ _ _ => trivial
  have plain {p : Call Unit} {s : (World × Deletions) × (Task → Option Duty)} {tags : List Tag} (uses : Uses tags p)
      (imports : Tag.importing ∉ tags) (registers : Tag.register ∉ tags) (deletes : Tag.save .delete ∉ tags)
      (receives : Tag.receive ∉ tags) (idle : s.2 t = none) :
      deletionRules.Safe (trackingTold setup) t (p >>= fun _ => act .handled) (fun _ _ => True) s := by
    refine Rules.safe_bind (Rules.safe_mono
      (safe_unbound cluster (all_unbound uses imports registers deletes receives) idle) ?_)
    intro _ s' idle'
    exact ends idle'
  unfold handleNotice
  refine Rules.safe_bind (Rules.safe_mono
    (Q := fun notice s' => s'.2 t = Duty.next .receive notice none)
    (safe_permitted cluster fun s₁ drift _ c _ => ?_) ?_)
  · have idle₁ := (stable_duty none).drift drift idle
    rw [idle₁]
    refine ⟨⟨by simp [Act.tag], by simp, by simp, by simp, by simp, by simp, by simp, by simp⟩, ?_⟩
    intro notice s₂ _ duty
    exact duty
  intro notice s₁ has₁
  cases notice with
  | linkUp =>
      have uses : Uses [.look, .closeBridges, .unload, .handled] (do
          act .bumpGeneration
          if !(← act .swapReconcile) then
            act .clearReconcile
            closeDeletedTunnels
          act .handled : Call Unit) := .of_rules
      exact Rules.safe_mono (safe_unbound cluster
        (all_unbound uses (by decide) (by decide) (by decide) (by decide)) has₁) fun _ _ _ => trivial
  | event event =>
  cases event with
  | tunnelCreated id =>
      have uses : Uses [.look] (expire id) := inferInstance
      exact plain uses (by decide) (by decide) (by decide) (by decide) has₁
  | certificateChanged id =>
      have uses : Uses [.look] (expire id) := inferInstance
      exact plain uses (by decide) (by decide) (by decide) (by decide) has₁
  | jobEnqueued => exact ends has₁
  | tunnelDeleted id =>
      refine Rules.safe_bind (Rules.safe_mono (check_tracked cluster has₁) ?_)
      intro answer s₂ has₂
      cases answer with
      | error err => exact ends has₂
      | ok deleted =>
          by_cases listed : id ∈ deleted
          · simp only [Duty.next, listed, if_true] at has₂
            simp only [List.contains_iff_mem.mpr listed, if_true]
            exact Rules.safe_bind (Rules.safe_mono (closeDeleted_tracked cluster has₂) fun _ _ idle => ends idle)
          · simp only [Duty.next, listed, if_false] at has₂
            have missing : deleted.contains id = false := by simpa using listed
            simp only [missing]
            exact ends has₂

/-- Every operation but an import. -/
theorem program_tracked (cluster : ∀ m, setup.clustered m = true) {op : Operation} (local_ : op.isImport = false)
    (idle : s.2 t = none) :
    deletionRules.Safe (trackingTold setup) t (program setup t op) (fun _ _ => True) s := by
  have unbound (imports : Tag.importing ∉ footprint op) (registers : Tag.register ∉ footprint op)
      (deletes : Tag.save .delete ∉ footprint op) (receives : Tag.receive ∉ footprint op) :
      deletionRules.Safe (trackingTold setup) t (program setup t op) (fun _ _ => True) s :=
    Rules.safe_mono (safe_unbound cluster (all_unbound (program_uses setup t op) imports registers deletes receives) idle)
      fun _ _ _ => trivial
  cases op with
  | remove id token =>
      refine Rules.safe_bind (Rules.safe_mono (remove_tracked cluster idle) ?_)
      intro _ _ _
      trivial
  | session id requests => exact session_tracked cluster requests idle
  | handleNotice => exact handleNotice_tracked cluster idle
  | importFile force records => cases local_
  | _ => exact unbound (by simp [footprint]) (by simp [footprint]) (by simp [footprint]) (by simp [footprint])

end Programs

/-! ### Runs -/

/-- Every run in which no deletion is lost keeps track of the deletions. -/
theorem reach_tracked {setup : Setup} (cluster : ∀ m, setup.clustered m = true) {w₀ : World} (started : w₀.Started)
    {cfg : Config Task Act Act.Ans (World × Deletions)}
    (reach : ((system setup).withGhost (deletions setup)).Reach (deletionsTold setup) (idle (w₀, {})) cfg) :
    ∃ duty, Tracked cfg.shared.1 cfg.shared.2 duty := by
  obtain ⟨duty, recorded⟩ := reach.record (G := duties setup) fun _ => none
  refine ⟨duty, ?_⟩
  have all := recorded.safe_fresh (R := deletionRules) (F := fun t s => s.2 t = none)
    ⟨started.revisions _, started.tracked⟩ (fun _ => rfl) (fun t => stable_duty none) ?_ ?_
  · exact all.1.2
  · intro t op s local_ _ idle
    exact program_tracked cluster local_ idle
  · intro mv s s' _ inv moved
    obtain ⟨inner, duty⟩ := withGhost_move.mp moved
    obtain ⟨ran, history⟩ := withGhost_move.mp inner
    have same := move_bridges ran
    refine ⟨⟨(move_relied ran inv.1).1, ?_⟩, ?_⟩
    · rw [history, duty]
      exact inv.2.move ran
    · intro t
      refine ⟨by rw [duty]; rfl, ?_, ?_⟩
      · intro id _
        exact (move_frame ran).2 t.machine id
      · intro b closing
        exact closing.same same

namespace Sample

/-- The runs of every operation but imports. -/
def unimported (setup : Setup) : Assumptions ((system setup).withGhost (deletions setup)) where
  start := fun _ op _ => op.isImport = false

/-- Only these tasks act, on two machines, and only the link from the first to the second comes up and delivers. -/
def pair (setup : Setup) (tasks : List Task) : Assumptions ((system setup).withGhost (deletions setup)) where
  call := fun t _ _ _ => t ∈ tasks ∧ (t.machine = "m1" ∨ t.machine = "m2")
  move := fun (mv : Move) _ =>
    match mv with
    | .linkUp source target => source = "m1" ∧ target = "m2"
    | .deliver source target => source = "m1" ∧ target = "m2"
    | _ => False

instance (setup : Setup) : (unimported setup).Checkable where
  start := fun _ op _ => inferInstanceAs (Decidable (op.isImport = false))
  call := fun _ _ _ _ => inferInstanceAs (Decidable True)
  move := fun _ _ => inferInstanceAs (Decidable True)

instance (setup : Setup) (tasks : List Task) : (pair setup tasks).Checkable where
  start := fun _ _ _ => inferInstanceAs (Decidable True)
  call := fun t _ _ _ => inferInstanceAs (Decidable (t ∈ tasks ∧ (t.machine = "m1" ∨ t.machine = "m2")))
  move := fun (mv : Move) _ =>
    match mv with
    | .linkUp source target => inferInstanceAs (Decidable (source = "m1" ∧ target = "m2"))
    | .deliver source target => inferInstanceAs (Decidable (source = "m1" ∧ target = "m2"))
    | .clocks _ => isFalse id
    | .touch .. => isFalse id
    | .close .. => isFalse id
    | .channelEnds .. => isFalse id
    | .visitorEnds .. => isFalse id
    | .meshComplete .. => isFalse id
    | .linkDown .. => isFalse id

/-- Nothing happens away from the two machines, their link and the tasks. -/
structure Apart (tasks : List Task) (w₀ : World) (s : World × Deletions) : Prop where
  machines : ∀ m, m ≠ "m1" → m ≠ "m2" → s.1.machine m = w₀.machine m
  wires : ∀ a m, ¬ (a = "m1" ∧ m = "m2") → s.1.wires a m = none
  handling : ∀ t, t ∉ tasks → s.2.handling t = none

theorem handling_call (h : Deletions) {t t' : Task} (op : Act) (ans : op.Ans) (w : World) (other : t' ≠ t) :
    (h.call t op ans w).handling t' = h.handling t' := by
  cases op
  case save id change =>
      cases change
      case delete at_ => cases ans <;> rfl
      all_goals rfl
  case receive => simp [Deletions.call, Deletions.take, other]
  case handled => simp [Deletions.call, Deletions.take, other]
  all_goals rfl

theorem reach_apart {setup : Setup} {tasks : List Task} {w₀ : World} (bare : ∀ a m, w₀.wires a m = none)
    {cfg : Config Task Act Act.Ans (World × Deletions)}
    (reach : ((system setup).withGhost (deletions setup)).Reach (pair setup tasks) (idle (w₀, {})) cfg) :
    Apart tasks w₀ cfg.shared := by
  refine reach.shared_inv (J := Apart tasks w₀) (K := fun _ => True) (fun _ _ => trivial)
    ⟨fun _ _ _ => rfl, fun a m _ => bare a m, fun _ _ => rfl⟩ ?_ ?_
  · intro t op c s ans s' allowed _ apart executed
    obtain ⟨ex, history⟩ := withGhost_exec.mp executed
    obtain ⟨listed, here⟩ := allowed
    refine ⟨?_, ?_, ?_⟩
    · intro m first second
      have other : m ≠ t.machine := by
        rintro rfl
        rcases here with here | here
        · exact first here
        · exact second here
      exact (exec_elsewhere ex other).trans (apart.machines m first second)
    · intro a m far
      have before := apart.wires a m far
      cases exec_mesh ex with
      | same same => rw [same.wires]; exact before
      | published event is clustered after =>
          rw [after]
          simp [World.publish, before]
      | received notice rest is queue after => rw [after]; exact before
    · intro t' other
      have different : t' ≠ t := by
        rintro rfl
        exact other listed
      rw [history]
      exact (handling_call s.2 op ans s.1 different).trans (apart.handling t' other)
  · intro mv s s' allowed apart moved
    obtain ⟨ran, history⟩ := withGhost_move.mp moved
    have ran : move mv s.1 = some s'.1 := ran
    have same : s'.2.handling = s.2.handling := by
      rw [history]
      exact handling_move
    refine ⟨?_, ?_, fun t' other => by rw [same]; exact apart.handling t' other⟩
    · intro m first second
      refine Eq.trans ?_ (apart.machines m first second)
      cases mv
      case linkUp source target =>
          obtain ⟨rfl, rfl⟩ := allowed
          rw [← Option.some.inj ran]
          exact if_neg second
      case deliver source target =>
          obtain ⟨rfl, rfl⟩ := allowed
          simp only [move] at ran
          split at ran
          · rw [← Option.some.inj ran]
            exact if_neg second
          · cases ran
      all_goals exact absurd allowed id
    · intro a m far
      refine Eq.trans ?_ (apart.wires a m far)
      cases mv
      case linkUp source target =>
          obtain ⟨rfl, rfl⟩ := allowed
          rw [← Option.some.inj ran]
          simp [World.notify, World.setWire, far]
      case deliver source target =>
          obtain ⟨rfl, rfl⟩ := allowed
          simp only [move] at ran
          split at ran
          · rw [← Option.some.inj ran]
            simp [World.notify, World.setWire, far]
          · cases ran
      all_goals exact absurd allowed id

/-- What is left to see of the two machines. -/
def rested (tasks : List Task) (s : World × Deletions) : Bool :=
  s.1.wires "m1" "m2" == some [] &&
    (["m1", "m2"].all fun m => (s.1.machine m).notices.isEmpty && !(s.1.machine m).reconcileQueued &&
      (s.1.machine m).tunnels.present.all fun id => (s.1.entry m id).holder.isNone) &&
    tasks.all fun t => (s.2.handling t).isNone

theorem settled_of_rested {tasks : List Task} {w₀ : World} (started : w₀.Started) {s : World × Deletions}
    (apart : Apart tasks w₀ s) (rested : rested tasks s = true) : Settled s.1 s.2 := by
  simp only [Sample.rested, Bool.and_eq_true, List.all_cons, List.all_nil, Bool.and_true, beq_iff_eq,
    List.isEmpty_iff, Bool.not_eq_true', List.all_eq_true, Option.isNone_iff_eq_none] at rested
  obtain ⟨⟨link, ⟨⟨first, firstQuiet⟩, firstFree⟩, ⟨second, secondQuiet⟩, secondFree⟩, done⟩ := rested
  have elsewhere (m : MachineId) (hm : m ≠ "m1") (hm' : m ≠ "m2") :
      s.1.machine m = { clock := w₀.now m } := (apart.machines m hm hm').trans (started.machines m)
  have free (m : MachineId) (all : ∀ id ∈ (s.1.machine m).tunnels.present, (s.1.entry m id).holder = none)
      (id : TunnelId) : (s.1.entry m id).holder = none := by
    by_cases listed : id ∈ (s.1.machine m).tunnels.present
    · exact all id listed
    · have absent : (s.1.machine m).tunnels.get id = none := by
        simpa using fun found => listed (Table.mem_present.mpr found)
      simp [World.entry, absent]
  refine ⟨?_, ?_, ?_, ?_, ?_⟩
  · intro a m events wire
    by_cases here : a = "m1" ∧ m = "m2"
    · obtain ⟨rfl, rfl⟩ := here
      rw [link] at wire
      exact (Option.some.inj wire).symm
    · rw [apart.wires a m here] at wire
      cases wire
  · intro m
    by_cases hm : m = "m1"
    · rw [hm, first]
    by_cases hm' : m = "m2"
    · rw [hm', second]
    rw [elsewhere m hm hm']
  · intro t
    by_cases listed : t ∈ tasks
    · exact done t listed
    · exact apart.handling t listed
  · intro m
    by_cases hm : m = "m1"
    · rw [hm, firstQuiet]
    by_cases hm' : m = "m2"
    · rw [hm', secondQuiet]
    rw [elsewhere m hm hm']
  · intro m id
    by_cases hm : m = "m1"
    · rw [hm]
      exact free "m1" firstFree id
    by_cases hm' : m = "m2"
    · rw [hm']
      exact free "m2" secondFree id
    unfold World.entry
    rw [elsewhere m hm hm']
    rfl

/-- The link comes up and is followed up, a client attaches on the second machine, the first one removes the tunnel, and
    the second one handles the notice under the choices given. -/
def removal (choices : List Choice) : List ((system (setup true)).withGhost (deletions (setup true))).Turn :=
  let calls (t : Task) (choices : List Choice) :
      List ((system (setup true)).withGhost (deletions (setup true))).Turn := choices.map fun c => .call t c
  .move (.linkUp "m1" "m2") ::
    .start ⟨"m2", 1⟩ .handleNotice :: calls ⟨"m2", 1⟩ (List.replicate 6 plain) ++
    .start ⟨"m2", 2⟩ (.session "a" [⟨"secret", ["@"], none⟩]) :: calls ⟨"m2", 2⟩ (List.replicate 25 plain) ++
    .start ⟨"m1", 1⟩ (.remove "a" "secret") :: calls ⟨"m1", 1⟩ (List.replicate 16 plain) ++
    .move (.deliver "m1" "m2") ::
    .start ⟨"m2", 3⟩ .handleNotice :: calls ⟨"m2", 3⟩ choices

def removalTasks : List Task := [⟨"m2", 1⟩, ⟨"m2", 2⟩, ⟨"m1", 1⟩, ⟨"m2", 3⟩]

/-- A database with the tunnel, and the machines on it. -/
def tunnelled : World := world (db [tunnel "2027-04-15T08:00:00.000Z"])

end Sample

end OpenTunnel
