/-
Module: OpenTunnel.Proofs.Revisions
Layer: Proofs
Purpose: No update of a tunnel record is lost. The invariant says what every machine's cached revision, every open
  transaction and every row have to do with each other: a cached revision that is the row's own comes with the
  row's own record, and a transaction holds the row it read until it ends. Each write is then the next
  revision of exactly what its writer had read.
Imports: OpenTunnel.Tasks.Contract, OpenTunnel.Proofs.Frame, OpenTunnel.Proofs.Footprint,
  OpenTunnel.Model.Sample
Trusted boundary: none (fully proved)
Main exports: Revisions, RowChange, no_lost_update
Open obligations: none
-/
import OpenTunnel.Tasks.Contract
import OpenTunnel.Proofs.Frame
import OpenTunnel.Proofs.Footprint
import OpenTunnel.Model.Sample

namespace OpenTunnel

open Tasks Semantics

/-! ### Runs -/

/-- Each task runs the operation it was given; nothing else is assumed. -/
def running (setup : Setup) (job : Task → Operation) : Assumptions (system setup) where
  start := fun t op _ => op = job t

instance (setup : Setup) (job : Task → Operation) : (running setup job).Checkable where
  start := fun t op _ => inferInstanceAs (Decidable (op = job t))
  call := fun _ _ _ _ => inferInstanceAs (Decidable True)
  move := fun _ _ => inferInstanceAs (Decidable True)

/-- The derived columns of a row are those of its record. -/
def Row.Derived (row : Row) : Prop := (row.deleted, row.issuing) = recordFlags row.record

/-- A database servers may start on: rows are stored under their IDs with their derived columns, from revision 1
    on, and no transaction is open. -/
structure Db.WellFormed (db : Db) : Prop where
  rows : ∀ id row, db.row id = some row → row.record.id = id ∧ 0 < row.revision ∧ row.Derived
  closed : ∀ id, db.transactions.get id = none

/-- Servers that have just started, at whatever time their clocks show. -/
structure World.Started (w : World) : Prop where
  db : w.db.WellFormed
  machines : ∀ m, w.machine m = { clock := w.now m }

/-- Nothing is cached yet. -/
theorem World.Started.cold {w : World} (started : w.Started) (m : MachineId) (id : TunnelId) :
    w.entry m id = {} := by
  unfold World.entry
  rw [started.machines m]
  rfl

/-! ### The invariant -/

/-- The task imports with `force`. -/
def Forced (job : Task → Operation) (t : Task) : Prop := ∃ records, job t = .importFile true records

/-- The update an import has staged on the row it read. -/
structure Transaction.Sound (job : Task → Operation) (id : TunnelId) (open_ : Transaction) (row : Row) : Prop where
  keyed : row.record.id = id
  next : row.revision = open_.read.revision + 1
  derived : row.Derived
  imported : row.localUpdate = false
  allowed : open_.read.localUpdate = true → Forced job open_.owner

structure Revisions (job : Task → Operation) (w : World) : Prop where
  rows : ∀ id row, w.db.row id = some row → row.record.id = id ∧ 0 < row.revision ∧ row.Derived
  cached : ∀ m id record, (w.entry m id).record = some record → record.id = id
  seen : ∀ m id, ((w.entry m id).record, (w.entry m id).revision) = w.db.stored id ∨
    (w.entry m id).revision < (w.db.stored id).2
  locked : ∀ id open_, w.db.transactions.get id = some open_ →
    w.db.row id = some open_.read ∧ ∀ row, open_.staged = some row → open_.Sound job id row

theorem World.Started.revisions {w : World} (started : w.Started) (job : Task → Operation) :
    Revisions job w where
  rows := started.db.rows
  cached := by
    intro m id record found
    simp [started.cold m id] at found
  seen := by
    intro m id
    rw [started.cold m id]
    cases found : w.db.row id with
    | none => exact Or.inl (by simp [Db.stored, found])
    | some row => exact Or.inr (by simpa [Db.stored, found] using (started.db.rows id row found).2.1)
  locked := by
    intro id open_ found
    rw [started.db.closed id] at found
    cases found

/-! ### Changes of rows -/

/-- The columns of a row but its alarm. -/
def Row.content (row : Row) : StoredTunnel × Nat × Bool × Bool × Bool :=
  (row.record, row.revision, row.deleted, row.issuing, row.localUpdate)

/-- What a turn may do to a row: its content stays, a task saves the next revision of the very record and revision
    its entry had read, an import inserts a missing row, or an import replaces the row it has locked and read,
    which without `force` was not written locally since it was last imported. -/
inductive RowChange (job : Task → Operation) (actor : Option Task) (w w' : World) (id : TunnelId) : Prop where
  | kept (same : (w'.db.row id).map Row.content = (w.db.row id).map Row.content)
  | saved (t : Task) (acts : actor = some t) (change : Change) (row : Row) (derived : row.Derived) (held : w.holds t id = true)
      (read : w.db.stored id = ((w.entry t.machine id).record, (w.entry t.machine id).revision))
      (made : change.apply id (w.entry t.machine id).record = some row.record)
      (wrote : w'.db.row id = some row) (next : row.revision = (w.entry t.machine id).revision + 1)
      (local_ : row.localUpdate = true)
  | inserted (row : Row) (derived : row.Derived) (keyed : row.record.id = id)
      (missing : w.db.row id = none) (wrote : w'.db.row id = some row) (first : row.revision = 1)
      (imported : row.localUpdate = false)
  | imported (open_ : Transaction) (acts : actor = some open_.owner) (row : Row) (derived : row.Derived) (keyed : row.record.id = id)
      (within : w.db.transactions.get id = some open_)
      (read : w.db.row id = some open_.read) (wrote : w'.db.row id = some row)
      (next : row.revision = open_.read.revision + 1) (imported : row.localUpdate = false)
      (kept : open_.read.localUpdate = true → Forced job open_.owner)

/-! ### One act -/

namespace Db

@[simp] theorem stored_putRow (db : Db) (id id' : TunnelId) (row : Row) :
    (db.putRow id row).stored id' = if id' = id then (some row.record, row.revision) else db.stored id' := by
  unfold stored
  rw [row_putRow]
  by_cases same : id' = id
  · simp [same]
  · simp [same]

/-- Setting an alarm keeps every row's content. -/
theorem row_setAlarm (db : Db) (id : TunnelId) (at_ : Option Nat) (id' : TunnelId) :
    (db.setAlarm id at_).row id' =
      (db.row id').map fun row => if id' = id then { row with alarmAt := at_ } else row := by
  unfold setAlarm
  cases found : db.row id with
  | none =>
      by_cases same : id' = id
      · simp [same, found]
      · simp [same]
  | some row =>
      by_cases same : id' = id
      · simp [same, found]
      · simp [same]

theorem content_setAlarm (db : Db) (id : TunnelId) (at_ : Option Nat) (id' : TunnelId) :
    ((db.setAlarm id at_).row id').map Row.content = (db.row id').map Row.content := by
  rw [row_setAlarm]
  cases db.row id' with
  | none => rfl
  | some row =>
      by_cases same : id' = id
      · simp [same, Row.content]
      · simp [same]

/-- The content of a row determines what is stored. -/
theorem stored_eq_of_content {db db' : Db} {id : TunnelId}
    (same : (db'.row id).map Row.content = (db.row id).map Row.content) : db'.stored id = db.stored id := by
  unfold stored
  cases before : db.row id with
  | none =>
      cases after : db'.row id with
      | none => rfl
      | some row => simp [before, after] at same
  | some row =>
      cases after : db'.row id with
      | none => simp [before, after] at same
      | some row' =>
          simp only [before, after, Option.map_some, Option.some.injEq, Row.content, Prod.mk.injEq] at same
          simp [same.1, same.2.1]

theorem inTransaction_iff {db : Db} {t : Task} {id : TunnelId} :
    db.inTransaction t id = true ↔ ∃ open_, db.transactions.get id = some open_ ∧ open_.owner = t := by
  unfold inTransaction
  cases found : db.transactions.get id with
  | none => simp
  | some open_ => simp

/-- The transactions left once one has ended are those on other rows. -/
theorem transactions_rollback {db : Db} {id id' : TunnelId} {open_ : Transaction}
    (found : (db.rollback id').transactions.get id = some open_) :
    id ≠ id' ∧ db.transactions.get id = some open_ := by
  simp only [rollback, Table.get_update] at found
  by_cases same : id = id'
  · simp [same] at found
  · simp only [same, if_false] at found
    exact ⟨same, by simpa using found⟩

theorem transactions_commit {db : Db} {id id' : TunnelId} {open_ : Transaction}
    (found : (db.commit id').transactions.get id = some open_) :
    id ≠ id' ∧ db.transactions.get id = some open_ := by
  unfold commit at found
  split at found
  · exact transactions_rollback found
  · exact transactions_rollback found

/-- A save that succeeded stored its record at the revision it answers. -/
theorem stored_saveTunnel {db db' : Db} {record : StoredTunnel} {before after : Nat}
    (wrote : db.saveTunnel record before = (.ok after, db')) : db'.stored record.id = (some record, after) := by
  rcases saveTunnel_cases db record before with conflict | ⟨_, _, saved⟩ | ⟨row, _, _, _, saved⟩
  · rw [conflict] at wrote
    cases wrote
  · rw [saved] at wrote
    cases wrote
    simp [savedRow]
  · rw [saved] at wrote
    cases wrote
    simp [savedRow]

end Db

section Step

variable {setup : Setup} {job : Task → Operation} {t : Task} {op : Act} {c : Choice} {w w' : World}
  {ans : op.Ans}

/-- Every act changes each row in one of the ways of `RowChange`. -/
theorem Revisions.rowChange (inv : Revisions job w) (h : exec setup t op c w = some (ans, w'))
    (id : TunnelId) : RowChange job (some t) w w' id := by
  cases exec_rows h with
  | same rows => exact .kept (by unfold Db.row; rw [rows.tunnels])
  | saved id' change record revision _ held made free wrote =>
      have keyed : record.id = id' := Change.apply_id made (inv.cached t.machine id')
      by_cases same : id = id'
      · subst same
        rcases Db.saveTunnel_cases w.db record (w.entry t.machine id).revision with
          conflict | ⟨fresh, missing, saved⟩ | ⟨row, _, found, current, saved⟩
        · rw [conflict] at wrote
          cases wrote
        · rw [saved] at wrote
          obtain ⟨-, after⟩ := Prod.mk.inj wrote
          refine .saved t rfl change (Db.savedRow record 1 none) rfl held ?_ made ?_ (by rw [fresh]; rfl) rfl
          · rw [keyed] at missing
            rcases inv.seen t.machine id with read | older
            · exact read.symm
            · simp [Db.stored, missing] at older
          · rw [← after, keyed]
            simp
        · rw [saved] at wrote
          obtain ⟨-, after⟩ := Prod.mk.inj wrote
          refine .saved t rfl change (Db.savedRow record ((w.entry t.machine id).revision + 1) row.alarmAt)
            rfl held ?_ made ?_ rfl rfl
          · rw [keyed] at found
            rcases inv.seen t.machine id with read | older
            · exact read.symm
            · simp [Db.stored, found, current] at older
          · rw [← after, keyed]
            simp
      · refine .kept ?_
        rcases Db.saveTunnel_cases w.db record (w.entry t.machine id').revision with
          conflict | ⟨_, _, saved⟩ | ⟨row, _, _, _, saved⟩
        · rw [conflict] at wrote
          cases wrote
        · rw [saved] at wrote
          rw [← (Prod.mk.inj wrote).2, keyed]
          simp [same]
        · rw [saved] at wrote
          rw [← (Prod.mk.inj wrote).2, keyed]
          simp [same]
  | alarm id' at_ _ free wrote => exact .kept (by rw [wrote]; exact Db.content_setAlarm ..)
  | inserted record alarmAt _ missing wrote =>
      by_cases same : id = record.id
      · subst same
        exact .inserted (Db.importedRow record 1 alarmAt) rfl rfl missing (by rw [wrote]; simp) rfl rfl
      · exact .kept (by rw [wrote]; simp [same])
  | began id' row free found wrote => exact .kept (by rw [wrote]; rfl)
  | staged record alarmAt is within wrote =>
      refine .kept ?_
      rw [wrote]
      unfold Db.stage
      split <;> rfl
  | rolledBack id' within wrote => exact .kept (by rw [wrote]; rfl)
  | committed id' _ within wrote =>
      unfold Db.commit at wrote
      cases staged : (w.db.transactions.get id').bind (·.staged) with
      | none =>
          rw [staged] at wrote
          exact .kept (by rw [wrote]; rfl)
      | some row =>
          rw [staged] at wrote
          obtain ⟨open_, found, update⟩ := Option.bind_eq_some_iff.mp staged
          obtain ⟨read, sound⟩ := inv.locked id' open_ found
          have good := sound row update
          have mine : some t = some open_.owner := by
            obtain ⟨open', found', owner⟩ := Db.inTransaction_iff.mp within
            rw [found] at found'
            cases found'
            rw [owner]
          by_cases same : id = id'
          · subst same
            refine .imported open_ mine row good.derived good.keyed found read ?_ good.next good.imported good.allowed
            rw [wrote]
            exact (Db.row_putRow w.db id id row).trans (if_pos rfl)
          · refine .kept ?_
            rw [wrote]
            exact congrArg _ ((Db.row_putRow w.db id' id row).trans (if_neg same))

/-- A row's revision never falls, and stays only with what is stored. -/
theorem RowChange.stored_mono {actor : Option Task} {id : TunnelId} (change : RowChange job actor w w' id) :
    w'.db.stored id = w.db.stored id ∨ (w.db.stored id).2 < (w'.db.stored id).2 := by
  cases change with
  | kept same => exact Or.inl (Db.stored_eq_of_content same)
  | saved t _ change row _ _ read _ wrote next _ =>
      right
      rw [read]
      simp [Db.stored, wrote, next]
  | inserted row _ _ missing wrote first _ =>
      right
      simp [Db.stored, missing, wrote, first]
  | imported open_ _ row _ _ _ read wrote next _ _ =>
      right
      simp [Db.stored, read, wrote, next]

theorem Revisions.rows_step (inv : Revisions job w) {actor : Option Task} {id : TunnelId}
    (change : RowChange job actor w w' id)
    {row : Row} (found : w'.db.row id = some row) :
    row.record.id = id ∧ 0 < row.revision ∧ row.Derived := by
  cases change with
  | kept same =>
      cases before : w.db.row id with
      | none => simp [before, found] at same
      | some old =>
          simp only [before, found, Option.map_some, Option.some.injEq, Row.content, Prod.mk.injEq] at same
          obtain ⟨record, revision, deleted, issuing, -⟩ := same
          obtain ⟨keyed, positive, derived⟩ := inv.rows id old before
          unfold Row.Derived at derived ⊢
          rw [record, revision, deleted, issuing]
          exact ⟨keyed, positive, derived⟩
  | saved t _ change new derived _ _ made wrote next _ =>
      rw [found] at wrote
      cases wrote
      exact ⟨Change.apply_id made (inv.cached t.machine id), by omega, derived⟩
  | inserted new derived keyed _ wrote first _ =>
      rw [found] at wrote
      cases wrote
      exact ⟨keyed, by omega, derived⟩
  | imported open_ _ new derived keyed _ _ wrote next _ _ =>
      rw [found] at wrote
      cases wrote
      exact ⟨keyed, by omega, derived⟩

/-- A cached pair stays the row's own, or becomes older than it. -/
theorem seen_of_kept {e e' : Entry} {before after : Option StoredTunnel × Nat}
    (seen : (e.record, e.revision) = before ∨ e.revision < before.2)
    (stored : after = before ∨ before.2 < after.2) (record : e'.record = e.record)
    (revision : e'.revision = e.revision) :
    (e'.record, e'.revision) = after ∨ e'.revision < after.2 := by
  rw [record, revision]
  rcases stored with same | newer
  · rw [same]
    exact seen
  · right
    rcases seen with same | older
    · rw [← same] at newer
      exact newer
    · exact Nat.lt_trans older newer

theorem Revisions.entry_step (inv : Revisions job w) (h : exec setup t op c w = some (ans, w'))
    (rows : ∀ id row, w'.db.row id = some row → row.record.id = id ∧ 0 < row.revision ∧ row.Derived)
    (m : MachineId) (id : TunnelId) :
    (∀ record, (w'.entry m id).record = some record → record.id = id) ∧
      (((w'.entry m id).record, (w'.entry m id).revision) = w'.db.stored id ∨
        (w'.entry m id).revision < (w'.db.stored id).2) := by
  have stored := (inv.rowChange h id).stored_mono
  -- an entry that has forgotten its record agrees with a missing row and is older than any other
  have forgotten : ((none : Option StoredTunnel), 0) = w'.db.stored id ∨ 0 < (w'.db.stored id).2 := by
    unfold Db.stored
    cases found : w'.db.row id with
    | none => exact Or.inl rfl
    | some row => exact Or.inr (rows id row found).2.1
  cases exec_entry h m id with
  | same after =>
      rw [after]
      exact ⟨inv.cached m id, seen_of_kept (inv.seen m id) stored rfl rfl⟩
  | collected free bare after =>
      rw [after]
      exact ⟨by simp, forgotten⟩
  | locked here free after =>
      rw [after]
      exact ⟨inv.cached m id, seen_of_kept (inv.seen m id) stored rfl rfl⟩
  | unlocked _ here held after =>
      rw [after]
      exact ⟨inv.cached m id, seen_of_kept (inv.seen m id) stored rfl rfl⟩
  | read here held same after =>
      rw [after, same]
      refine ⟨?_, Or.inl rfl⟩
      intro record found
      unfold Db.stored at found
      cases row : w.db.row id with
      | none => simp [row] at found
      | some row' =>
          simp only [row, Option.some.injEq] at found
          exact found ▸ (inv.rows id row' row).1
  | noted here held _ _ _ _ _ after =>
      rw [after]
      exact ⟨inv.cached m id, seen_of_kept (inv.seen m id) stored rfl rfl⟩
  | unloaded here held after =>
      rw [after]
      exact ⟨by simp [Entry.unloaded], forgotten⟩
  | saved here held change record revision made wrote after =>
      have keyed : record.id = id := Change.apply_id made (inv.cached m id)
      rw [after]
      refine ⟨?_, Or.inl ?_⟩
      · intro record' found
        simp only [Option.some.injEq] at found
        exact found ▸ keyed
      · rw [← keyed]
        exact (Db.stored_saveTunnel wrote).symm
  | bridged here held bridges after =>
      rw [after]
      exact ⟨inv.cached m id, seen_of_kept (inv.seen m id) stored rfl rfl⟩

/-- Another row than the transaction's may change under it; its own waits. -/
theorem Revisions.row_locked (inv : Revisions job w) {id : TunnelId} {open_ : Transaction}
    (found : w.db.transactions.get id = some open_) {id' : TunnelId} (free : w.db.free id' = true)
    {row : Row} : (w.db.putRow id' row).row id = some open_.read := by
  have apart : id ≠ id' := by
    rintro rfl
    simp [Db.free, found] at free
  rw [Db.row_putRow, if_neg apart]
  exact (inv.locked id open_ found).1

theorem Revisions.transaction_step (inv : Revisions job w) (h : exec setup t op c w = some (ans, w'))
    (allowed : ∀ record alarmAt open_, op = .importUpdate record alarmAt →
      w.db.transactions.get record.id = some open_ → open_.read.localUpdate = true → Forced job t)
    (id : TunnelId) (open_ : Transaction) (found : w'.db.transactions.get id = some open_) :
    w'.db.row id = some open_.read ∧ ∀ row, open_.staged = some row → open_.Sound job id row := by
  cases exec_rows h with
  | same rows =>
      rw [rows.transactions] at found
      unfold Db.row
      rw [rows.tunnels]
      exact inv.locked id open_ found
  | saved id' change record revision _ held made free wrote =>
      rcases Db.saveTunnel_cases w.db record (w.entry t.machine id').revision with
        conflict | ⟨_, _, saved⟩ | ⟨row, _, _, _, saved⟩
      · rw [conflict] at wrote
        cases wrote
      · rw [saved] at wrote
        rw [← (Prod.mk.inj wrote).2] at found ⊢
        exact ⟨inv.row_locked found free, (inv.locked id open_ found).2⟩
      · rw [saved] at wrote
        rw [← (Prod.mk.inj wrote).2] at found ⊢
        exact ⟨inv.row_locked found free, (inv.locked id open_ found).2⟩
  | alarm id' at_ _ free wrote =>
      rw [wrote] at found ⊢
      unfold Db.setAlarm at found ⊢
      cases row : w.db.row id' with
      | none =>
          simp only [row] at found ⊢
          exact inv.locked id open_ found
      | some old =>
          simp only [row] at found ⊢
          exact ⟨inv.row_locked found free, (inv.locked id open_ found).2⟩
  | inserted record alarmAt _ missing wrote =>
      rw [wrote] at found ⊢
      have kept := inv.locked id open_ found
      have apart : id ≠ record.id := by
        rintro rfl
        rw [missing] at kept
        exact absurd kept.1 (by simp)
      rw [Db.row_putRow, if_neg apart]
      exact kept
  | began id' row free row_ wrote =>
      rw [wrote] at found ⊢
      simp only [Db.begin, Table.get_put] at found
      split at found
      · rename_i same
        cases found
        exact ⟨same ▸ row_, by simp⟩
      · exact inv.locked id open_ found
  | staged record alarmAt is within wrote =>
      obtain ⟨mine, held, owner⟩ := Db.inTransaction_iff.mp within
      obtain ⟨read, -⟩ := inv.locked record.id mine held
      rw [wrote] at found ⊢
      simp only [Db.stage, read, Table.get_put] at found ⊢
      split at found
      · rename_i same
        cases found
        refine ⟨same ▸ read, ?_⟩
        intro row staged
        cases staged
        exact { keyed := same.symm, next := rfl, derived := rfl, imported := rfl,
                allowed := allowed record alarmAt mine is held }
      · exact inv.locked id open_ found
  | rolledBack id' within wrote =>
      rw [wrote] at found ⊢
      exact inv.locked id open_ (Db.transactions_rollback found).2
  | committed id' _ within wrote =>
      rw [wrote] at found ⊢
      obtain ⟨apart, held⟩ := Db.transactions_commit found
      obtain ⟨read, sound⟩ := inv.locked id open_ held
      refine ⟨?_, sound⟩
      unfold Db.commit
      split
      · exact (Db.row_putRow w.db id' id _).trans ((if_neg apart).trans read)
      · exact read

/-- Every act keeps the invariant, as long as an update is staged over a local write only with `force`. -/
theorem Revisions.step (inv : Revisions job w) (h : exec setup t op c w = some (ans, w'))
    (allowed : ∀ record alarmAt open_, op = .importUpdate record alarmAt →
      w.db.transactions.get record.id = some open_ → open_.read.localUpdate = true → Forced job t) :
    Revisions job w' where
  rows := fun id _ found => inv.rows_step (inv.rowChange h id) found
  cached := fun m id => (inv.entry_step h (fun id _ => inv.rows_step (inv.rowChange h id)) m id).1
  seen := fun m id => (inv.entry_step h (fun id _ => inv.rows_step (inv.rowChange h id)) m id).2
  locked := inv.transaction_step h allowed

end Step

/-! ### Imports -/

/-- While a task's transaction is open, nobody else touches it. -/
def importRules (job : Task → Operation) : Rules Task World where
  inv := Revisions job
  rely := fun t w w' => ∀ id open_, w.db.transactions.get id = some open_ → open_.owner = t →
    w'.db.transactions.get id = some open_

section Imports

variable {setup : Setup} {job : Task → Operation} {t : Task} {op : Act} {c : Choice} {w w' : World}
  {ans : op.Ans}

theorem transactions_of_others (h : exec setup t op c w = some (ans, w')) {t' : Task} (other : t' ≠ t) :
    (importRules job).rely t' w w' := by
  intro id open_ found owner
  have mine {id' : TunnelId} (within : w.db.inTransaction t id' = true) : id ≠ id' := by
    rintro rfl
    obtain ⟨open', found', owner'⟩ := Db.inTransaction_iff.mp within
    rw [found] at found'
    cases found'
    exact other (owner.symm.trans owner')
  cases exec_rows h with
  | same rows => rw [rows.transactions]; exact found
  | saved id' change record revision _ held made free wrote =>
      rcases Db.saveTunnel_cases w.db record (w.entry t.machine id').revision with
        conflict | ⟨_, _, saved⟩ | ⟨row, _, _, _, saved⟩
      · rw [conflict] at wrote
        cases wrote
      · rw [saved] at wrote
        rw [← (Prod.mk.inj wrote).2]
        exact found
      · rw [saved] at wrote
        rw [← (Prod.mk.inj wrote).2]
        exact found
  | alarm id' at_ _ free wrote =>
      rw [wrote]
      unfold Db.setAlarm
      split <;> exact found
  | inserted record alarmAt _ missing wrote => rw [wrote]; exact found
  | began id' row free row_ wrote =>
      have apart : id ≠ id' := by
        rintro rfl
        simp [Db.free, found] at free
      rw [wrote]
      simp only [Db.begin, Table.get_put, apart, if_false]
      exact found
  | staged record alarmAt is within wrote =>
      rw [wrote]
      unfold Db.stage
      split
      · simp only [Table.get_put, mine within, if_false]
        exact found
      · exact found
  | rolledBack id' within wrote =>
      rw [wrote]
      simp [Db.rollback, found, mine within]
  | committed id' _ within wrote =>
      rw [wrote]
      unfold Db.commit
      split <;> simp [Db.rollback, Db.putRow, found, mine within]

theorem harmless_of_allowed {t : Task} {op : Act} {c : Choice} {w w' : World} {ans : op.Ans}
    (inv : Revisions job w) (h : (system setup).exec t op c w = some (ans, w'))
    (allowed : ∀ record alarmAt open_, op = .importUpdate record alarmAt →
      w.db.transactions.get record.id = some open_ → open_.read.localUpdate = true → Forced job t) :
    (importRules job).Harmless t w w' :=
  ⟨inv.step h allowed, fun _ other => transactions_of_others h other⟩

/-- The update is staged only over a row the transaction read as imported, or with `force`. -/
theorem tryImport_safe {record : StoredTunnel} {alarmAt : Option Nat} {force : Bool}
    (forced : force = true → Forced job t) (w : World) :
    (importRules job).Safe (running setup job) t (tryImport record alarmAt force).run
      (fun _ _ => True) w := by
  unfold tryImport
  refine Rules.safe_exceptBind (Rules.safe_act fun w₁ _ inv₁ c ans w₂ _ executed => ?_)
  refine ⟨harmless_of_allowed inv₁ executed (by simp), ?_⟩
  cases ans with
  | error err => trivial
  | ok inserted =>
  cases inserted with
  | true => trivial
  | false =>
  refine Rules.safe_exceptBind (Rules.safe_act fun w₁ _ inv₁ c ans w₂ _ executed => ?_)
  refine ⟨harmless_of_allowed inv₁ executed (by simp), ?_⟩
  cases ans with
  | error err => trivial
  | ok selected =>
  obtain ⟨existing, localUpdate⟩ := selected
  -- the row is locked now, as it was read
  have locked : ∃ row, w₂.db.transactions.get record.id = some ⟨t, row, none⟩ ∧
      row.localUpdate = localUpdate := by
    simp only [system, exec] at executed
    split at executed
    · split at executed
      · rename_i row _ _
        cases executed
        exact ⟨row, by simp [Db.begin], rfl⟩
      · cases executed
    · cases executed
  obtain ⟨row, held, same⟩ := locked
  have commits (outcome : ImportOutcome) (w : World) : (importRules job).Safe (running setup job) t
      (do
        fallible (act (.importCommit record.id))
        return outcome : Fallible ImportOutcome).run (fun _ _ => True) w := by
    refine Rules.safe_exceptBind (Rules.safe_act fun w₁ _ inv₁ c ans w₂ _ executed => ?_)
    refine ⟨harmless_of_allowed inv₁ executed (by simp), ?_⟩
    cases ans <;> trivial
  dsimp only
  split
  · exact Rules.safe_exceptBind (commits .keptLocal w₂)
  · rename_i overwrites
    split
    · exact Rules.safe_exceptBind (commits .unchanged w₂)
    · refine Rules.safe_exceptBind (Rules.safe_act fun w₃ drift inv₃ c ans w₄ _ executed => ?_)
      refine ⟨harmless_of_allowed inv₃ executed ?_, ?_⟩
      · intro record' alarmAt' open_ is found local_
        cases is
        have stable : (importRules job).Stable t
            fun w => w.db.transactions.get record.id = some ⟨t, row, none⟩ :=
          fun _ _ _ relied holds => relied record.id _ holds rfl
        rw [stable.drift drift held] at found
        cases found
        apply forced
        rw [local_] at same
        simpa [← same] using overwrites
      · cases ans with
        | error err => trivial
        | ok _ => exact Rules.safe_exceptBind (commits .updated w₄)

theorem importTunnel_safe {record : StoredTunnel} {alarmAt : Option Nat} {force : Bool}
    (forced : force = true → Forced job t) (attempts : Nat) (w : World) :
    (importRules job).Safe (running setup job) t (importTunnel record alarmAt force attempts).run
      (fun _ _ => True) w := by
  induction attempts generalizing w with
  | zero => exact tryImport_safe forced w
  | succ attempts ih =>
      unfold importTunnel
      refine Rules.safe_exceptBind (Rules.safe_exceptLift (Rules.safe_mono (tryImport_safe forced w) ?_))
      intro result w' _
      dsimp only
      split
      · exact ih w'
      · trivial

theorem importRecords_safe {force : Bool} (forced : force = true → Forced job t)
    (records : List ExportedRecord) (w : World) :
    (importRules job).Safe (running setup job) t (importRecords setup force records).run
      (fun _ _ => True) w := by
  induction records generalizing w with
  | nil => trivial
  | cons entry rest ih =>
      unfold importRecords
      split
      · exact ih w
      · split
        · exact ih w
        · refine Rules.safe_exceptBind (Rules.safe_mono (importTunnel_safe forced 5 w) ?_)
          intro result w' _
          cases result with
          | error err => trivial
          | ok outcome =>
              refine Rules.safe_exceptBind (Rules.safe_mono (ih w') ?_)
              intro result _ _
              cases result <;> trivial

/-- An act that stages nothing is harmless. -/
theorem safe_of_uses {α : Type} {p : Call α} {tags : List Tag} (uses : Uses tags p)
    (none_ : Tag.importing ∉ tags) (w : World) :
    (importRules job).Safe (running setup job) t p (fun _ _ => True) w := by
  refine Rules.safe_of_all (fun _ _ _ _ _ => trivial) ?_ uses.all trivial
  intro op c w ans w' tagged inv _ _ executed
  refine ⟨harmless_of_allowed inv executed ?_, trivial⟩
  rintro record alarmAt open_ rfl
  exact absurd tagged none_

theorem operation_safe (w : World) :
    (importRules job).Safe (running setup job) t (program setup t (job t)) (fun _ _ => True) w := by
  by_cases imports : Tag.importing ∈ footprint (job t)
  · -- only the import stages updates
    cases is : job t with
    | importFile force records =>
        unfold program importFile
        refine Rules.safe_bind (Rules.safe_mono (importRecords_safe ?_ records w) ?_)
        · intro forced
          exact ⟨records, by rw [is, forced]⟩
        · intro result w' _
          cases result with
          | error err => trivial
          | ok ids =>
              have forgets : Uses [.look, .unload] (ids.forM invalidate) := obeys_forM fun _ => inferInstance
              exact safe_of_uses forgets (by decide) w'
    | _ => simp [is, footprint] at imports
  · exact safe_of_uses (program_uses setup t (job t)) imports w

theorem move_relied {mv : Move} (h : (system setup).move mv w = some w') (inv : Revisions job w) :
    Revisions job w' ∧ ∀ t, (importRules job).rely t w w' := by
  obtain ⟨rows, entries⟩ := move_frame h
  refine ⟨⟨?_, ?_, ?_, ?_⟩, ?_⟩
  · rw [rows]
    exact inv.rows
  · intro m id
    rw [entries]
    exact inv.cached m id
  · intro m id
    rw [entries, rows]
    exact inv.seen m id
  · rw [rows]
    exact inv.locked
  · intro t id open_ found _
    rw [rows]
    exact found

end Imports

/-! ### Runs -/

theorem reach_revisions {setup : Setup} {job : Task → Operation} {w₀ : World} (started : w₀.Started)
    {cfg : Config Task Act Act.Ans World}
    (reach : (system setup).Reach (running setup job) (idle w₀) cfg) : Revisions job cfg.shared := by
  refine (Reach.safe (R := importRules job) reach (started.revisions job) ?_ ?_).1
  · rintro t _ w rfl _
    exact operation_safe w
  · intro mv w w' _ inv moved
    exact move_relied moved inv

/-- The task whose turn it is. -/
def actor {setup : Setup} : (system setup).Turn → Option Task
  | .call t _ => some t
  | _ => none

/-- No update of a tunnel record is lost: in every state of every run each row's derived columns are those of its
    record, and every turn changes a row only to the next revision of exactly what its writer had read, and an
    unforced import never changes a row written locally since it was last imported. -/
theorem no_lost_update (setup : Setup) (job : Task → Operation) {w₀ : World} (started : w₀.Started)
    {cfg : Config Task Act Act.Ans World}
    (reach : (system setup).Reach (running setup job) (idle w₀) cfg) :
    (∀ id row, cfg.shared.db.row id = some row → row.Derived) ∧
      ∀ turn cfg', (running setup job).Meets turn cfg → (system setup).step turn cfg = some cfg' →
        ∀ id, RowChange job (actor turn) cfg.shared cfg'.shared id := by
  have inv := reach_revisions started reach
  refine ⟨fun id row found => (inv.rows id row found).2.2, ?_⟩
  intro turn cfg' _ taken id
  rcases step_cases taken with ⟨t, op, rfl, _, rfl⟩ | ⟨t, c, op, next, ans, w, rfl, _, executed, rfl⟩ |
    ⟨mv, w, rfl, moved, rfl⟩
  · exact .kept rfl
  · exact inv.rowChange executed id
  · exact .kept (by rw [(move_frame moved).1])

/-- The sample's servers start on a database they may start on. -/
theorem Sample.started (records : List StoredTunnel) : (Sample.world (Sample.db records)).Started := by
  have saved (records : List StoredTunnel) (db : Db) (good : db.WellFormed) :
      (records.foldl (fun db record => db.putRow record.id (Db.savedRow record 1 none)) db).WellFormed := by
    induction records generalizing db with
    | nil => exact good
    | cons record rest ih =>
        refine ih _ ⟨?_, good.closed⟩
        intro id row found
        rw [Db.row_putRow] at found
        split at found
        · rename_i same
          cases found
          exact ⟨same.symm, Nat.one_pos, rfl⟩
        · exact good.rows id row found
  have empty : ({ tunnels := .empty, jobs := .empty, transactions := .empty } : Db).WellFormed :=
    ⟨by simp [Db.row], fun _ => rfl⟩
  exact ⟨saved records _ empty, fun _ => rfl⟩

namespace Sample

/-- On each machine the first task stores an issuance's outcome, and the second imports an older record. -/
def racing (t : Task) : Operation :=
  if t.number = 2 then .importFile false [⟨some newTunnel, none⟩]
  else .updateCertificate "a" "cert_1" (.failed t.machine)

/-- Both machines have read the row when the first of them saves. The second one's save is refused, and so is the import. -/
def racingTurns : List (system (setup false)).Turn :=
  [.start ⟨"m1", 1⟩ (racing ⟨"m1", 1⟩), .start ⟨"m2", 1⟩ (racing ⟨"m2", 1⟩), .start ⟨"m1", 2⟩ (racing ⟨"m1", 2⟩)] ++
    calls _ ⟨"m1", 1⟩ (List.replicate 8 plain) ++ calls _ ⟨"m2", 1⟩ (List.replicate 8 plain) ++
    calls _ ⟨"m1", 1⟩ (List.replicate 3 plain) ++ calls _ ⟨"m2", 1⟩ (List.replicate 2 plain) ++
    calls _ ⟨"m1", 2⟩ (List.replicate 6 plain)

end Sample

/-- Two writers that race for one row, and an import that meets a row written locally. -/
theorem no_lost_update_race : ∃ cfg,
    (system (Sample.setup false)).Reach (running (Sample.setup false) Sample.racing)
        (idle (Sample.world (Sample.db [Sample.tunnel "2027-04-15T08:00:00.000Z"]))) cfg ∧
      (cfg.shared.db.row "a").map (fun row => (row.record.certificate, row.revision, row.localUpdate)) =
        some (some ⟨"cert_1", .failed "m1"⟩, 2, true) ∧
      (∀ id row, cfg.shared.db.row id = some row → row.Derived) ∧
        ∀ turn cfg', (running (Sample.setup false) Sample.racing).Meets turn cfg →
          (system (Sample.setup false)).step turn cfg = some cfg' → ∀ id,
            RowChange Sample.racing (actor turn) cfg.shared cfg'.shared id := by
  have played : (play (running (Sample.setup false) Sample.racing) Sample.racingTurns
      (idle (Sample.world (Sample.db [Sample.tunnel "2027-04-15T08:00:00.000Z"])))).map (fun cfg =>
        (cfg.shared.db.row "a").map (fun row => (row.record.certificate, row.revision, row.localUpdate))) =
      some (some (some ⟨"cert_1", .failed "m1"⟩, 2, true)) := by decide +kernel
  obtain ⟨cfg, ran, saved⟩ := Option.map_eq_some_iff.mp played
  have reach := reach_of_play ran
  exact ⟨cfg, reach, saved, no_lost_update _ _ (Sample.started _) reach⟩

end OpenTunnel
