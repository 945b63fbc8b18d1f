/-
Module: OpenTunnel.Proofs.Alarms
Layer: Proofs
Purpose: What a pass of `fire_due_alarms` does to the alarms that were due. The pass clears them one by one, and only
  then fires them; one that fails is set again. An error that ends the pass early loses what was cleared and not
  yet fired, so no alarm is lost exactly when no statement fails there.
Imports: OpenTunnel.Proofs.Executions, OpenTunnel.Proofs.Footprint, OpenTunnel.Proofs.Revisions
Trusted boundary: none (fully proved)
Main exports: NoneLost, Spared, no_alarm_lost
Open obligations: none
-/
import OpenTunnel.Proofs.Executions
import OpenTunnel.Proofs.Footprint
import OpenTunnel.Proofs.Revisions

namespace OpenTunnel

open Tasks Semantics

/-! ### Alarms and acts -/

/-- Between two acts of a pass only the surroundings move. -/
def surroundings (w w' : World) : Prop := ∃ mv, move mv w = some w'

/-- Rows and cached records are kept under their own IDs. -/
structure Keyed (w : World) : Prop where
  rows : ∀ id row, w.db.row id = some row → row.record.id = id
  cached : ∀ m id record, (w.entry m id).record = some record → record.id = id

/-- Every alarm is as it was, and no row is gone. -/
structure SameAlarms (w w' : World) : Prop where
  alarms : ∀ id, w'.db.alarm id = w.db.alarm id
  rows : ∀ id, (w.db.row id).isSome = true → (w'.db.row id).isSome = true

theorem SameAlarms.of_rows {w w' : World} (same : ∀ id, w'.db.row id = w.db.row id) : SameAlarms w w' where
  alarms := fun id => by simp [Db.alarm, same]
  rows := fun id found => by rw [same]; exact found

theorem SameAlarms.trans {w w₁ w' : World} (first : SameAlarms w w₁) (second : SameAlarms w₁ w') :
    SameAlarms w w' where
  alarms := fun id => (second.alarms id).trans (first.alarms id)
  rows := fun id found => second.rows id (first.rows id found)

theorem surroundings_same {w w' : World} (moved : surroundings w w') :
    (Keyed w → Keyed w') ∧ SameAlarms w w' := by
  obtain ⟨mv, moved⟩ := moved
  obtain ⟨rows, entries⟩ := move_frame moved
  refine ⟨fun keyed => ⟨?_, ?_⟩, .of_rows fun id => by rw [rows]⟩
  · intro id row found
    rw [rows] at found
    exact keyed.rows id row found
  · intro m id record found
    rw [entries] at found
    exact keyed.cached m id record found

namespace Db

theorem alarm_setAlarm (db : Db) (id id' : TunnelId) (at_ : Option Nat) :
    (db.setAlarm id at_).alarm id' = if id' = id then (db.row id).bind fun _ => at_ else db.alarm id' := by
  unfold alarm
  rw [row_setAlarm]
  by_cases same : id' = id
  · subst same
    cases db.row id' with
    | none => simp
    | some row => simp
  · cases db.row id' with
    | none => simp [same]
    | some row => simp [same]

/-- A save keeps the alarms. -/
theorem alarm_saveTunnel {db db' : Db} {record : StoredTunnel} {before after : Nat}
    (wrote : db.saveTunnel record before = (.ok after, db')) (id : TunnelId) :
    db'.alarm id = db.alarm id ∧ ((db.row id).isSome = true → (db'.row id).isSome = true) := by
  rcases saveTunnel_cases db record before with conflict | ⟨_, missing, saved⟩ | ⟨row, _, found, _, saved⟩
  · rw [conflict] at wrote
    cases wrote
  · rw [saved] at wrote
    cases wrote
    by_cases same : id = record.id
    · simp [alarm, same, missing, savedRow]
    · simp [alarm, same]
  · rw [saved] at wrote
    cases wrote
    by_cases same : id = record.id
    · simp [alarm, same, found, savedRow]
    · simp [alarm, same]

end Db

section Acts

variable {setup : Setup} {t : Task} {op : Act} {c : Choice} {w w' : World} {ans : op.Ans}

/-- The acts that leave every alarm alone. -/
def Act.calm (op : Act) : Prop := op.tag ≠ .setAlarm ∧ op.tag ≠ .clearAlarm ∧ op.tag ≠ .importing

theorem exec_keyed (h : exec setup t op c w = some (ans, w')) (local_ : op.tag ≠ .importing) (keyed : Keyed w) :
    Keyed w' := by
  have rows : ∀ id row, w'.db.row id = some row → row.record.id = id := by
    intro id row found
    cases exec_rows h with
    | same rows =>
        unfold Db.row at found
        rw [rows.tunnels] at found
        exact keyed.rows id row found
    | saved id' change record revision _ held made free wrote =>
        have own : record.id = id' := Change.apply_id made (keyed.cached t.machine id')
        rcases Db.saveTunnel_cases w.db record (w.entry t.machine id').revision with
          conflict | ⟨_, _, saved⟩ | ⟨row', _, _, _, saved⟩
        · rw [conflict] at wrote
          cases wrote
        · rw [saved] at wrote
          rw [← (Prod.mk.inj wrote).2, Db.row_putRow] at found
          split at found
          · rename_i here
            cases found
            exact here.symm
          · exact keyed.rows id row found
        · rw [saved] at wrote
          rw [← (Prod.mk.inj wrote).2, Db.row_putRow] at found
          split at found
          · rename_i here
            cases found
            exact here.symm
          · exact keyed.rows id row found
    | alarm id' at_ _ free wrote =>
        rw [wrote, Db.row_setAlarm] at found
        obtain ⟨old, before, rfl⟩ := Option.map_eq_some_iff.mp found
        have own := keyed.rows id old before
        split
        · exact own
        · exact own
    | inserted record alarmAt act missing wrote => exact absurd (by rw [act]; rfl) local_
    | began id' row' free found' wrote =>
        rw [wrote] at found
        exact keyed.rows id row found
    | staged record alarmAt act within wrote => exact absurd (by rw [act]; rfl) local_
    | rolledBack id' within wrote =>
        rw [wrote] at found
        exact keyed.rows id row found
    | committed id' act within wrote => exact absurd (by rw [act]; rfl) local_
  refine ⟨rows, ?_⟩
  intro m id record found
  cases exec_entry h m id with
  | same after => exact keyed.cached m id record (by rw [← after]; exact found)
  | collected free bare after =>
      rw [after] at found
      cases found
  | locked here free after => exact keyed.cached m id record (by rw [after] at found; exact found)
  | unlocked _ here held after => exact keyed.cached m id record (by rw [after] at found; exact found)
  | read here held same after =>
      rw [after] at found
      unfold Db.stored at found
      cases stored : w.db.row id with
      | none => simp [stored] at found
      | some row =>
          simp only [stored, Option.some.injEq] at found
          exact found ▸ keyed.rows id row stored
  | noted here held _ _ _ _ _ after => exact keyed.cached m id record (by rw [after] at found; exact found)
  | unloaded here held after =>
      rw [after] at found
      cases found
  | saved here held change record' revision made wrote after =>
      rw [after] at found
      cases found
      exact Change.apply_id made (keyed.cached m id)
  | bridged here held bridges after => exact keyed.cached m id record (by rw [after] at found; exact found)

theorem exec_calm (h : exec setup t op c w = some (ans, w')) (calm : op.calm) : SameAlarms w w' := by
  obtain ⟨sets, clears, imports⟩ := calm
  cases exec_rows h with
  | same rows => exact .of_rows fun id => by unfold Db.row; rw [rows.tunnels]
  | saved id' change record revision _ held made free wrote =>
      exact ⟨fun id => (Db.alarm_saveTunnel wrote id).1, fun id => (Db.alarm_saveTunnel wrote id).2⟩
  | alarm id' at_ act free wrote =>
      rcases act with rfl | ⟨due, rfl, -⟩
      · exact absurd rfl sets
      · exact absurd rfl clears
  | inserted record alarmAt act missing wrote => exact absurd (by rw [act]; rfl) imports
  | began id' row' free found' wrote => exact .of_rows fun id => by rw [wrote]; rfl
  | staged record alarmAt act within wrote => exact absurd (by rw [act]; rfl) imports
  | rolledBack id' within wrote => exact .of_rows fun id => by rw [wrote]; rfl
  | committed id' act within wrote => exact absurd (by rw [act]; rfl) imports

/-- Setting an alarm: it takes effect, it fails, or it takes effect and its answer is lost. -/
theorem exec_setAlarm {id : TunnelId} {at_ : Option Nat} {ans : Except Err Unit}
    (h : exec setup t (.setAlarm id at_) c w = some (ans, w')) :
    (c.fault = .failed ∧ ans = .error c.error ∧ w' = w) ∨
      (w' = w.setDb (w.db.setAlarm id at_) ∧ (c.fault = .none ∧ ans = .ok () ∨
        c.fault = .late ∧ ans = .error c.error)) := by
  simp only [exec] at h
  obtain ⟨-, sent⟩ := World.onRow_spec h
  rcases World.write_spec sent with ⟨fault, is, after⟩ | ⟨fault, is, after⟩ | ⟨fault, is, after⟩
  · exact Or.inr ⟨after, Or.inl ⟨fault, is⟩⟩
  · exact Or.inl ⟨fault, is, after⟩
  · exact Or.inr ⟨after, Or.inr ⟨fault, is⟩⟩

/-- Clearing the alarm as read: it is cleared or another one is set; the statement fails; or its answer is lost. -/
theorem exec_clearAlarm {id : TunnelId} {at_ : Nat} {ans : Except Err Bool}
    (h : exec setup t (.clearAlarm id at_) c w = some (ans, w')) :
    (c.fault = .failed ∧ ans = .error c.error ∧ w' = w) ∨
      (w.db.alarm id ≠ some at_ ∧ w' = w ∧ (c.fault = .none ∧ ans = .ok false ∨
        c.fault = .late ∧ ans = .error c.error)) ∨
      (w.db.alarm id = some at_ ∧ w' = w.setDb (w.db.setAlarm id none) ∧ (c.fault = .none ∧ ans = .ok true ∨
        c.fault = .late ∧ ans = .error c.error)) := by
  simp only [exec] at h
  obtain ⟨-, sent⟩ := World.onRow_spec h
  rcases Db.clearAlarm_cases w.db id at_ with ⟨kept, other⟩ | ⟨cleared, due⟩
  · rw [kept] at sent
    rcases World.write_spec sent with ⟨fault, is, after⟩ | ⟨fault, is, after⟩ | ⟨fault, is, after⟩
    · exact Or.inr (Or.inl ⟨other, after, Or.inl ⟨fault, is⟩⟩)
    · exact Or.inl ⟨fault, is, after⟩
    · exact Or.inr (Or.inl ⟨other, after, Or.inr ⟨fault, is⟩⟩)
  · rw [cleared] at sent
    rcases World.write_spec sent with ⟨fault, is, after⟩ | ⟨fault, is, after⟩ | ⟨fault, is, after⟩
    · exact Or.inr (Or.inr ⟨due, after, Or.inl ⟨fault, is⟩⟩)
    · exact Or.inl ⟨fault, is, after⟩
    · exact Or.inr (Or.inr ⟨due, after, Or.inr ⟨fault, is⟩⟩)

end Acts

/-! ### One alarm -/

/-- What an alarm may do while it is fired: set itself again, and nothing to the others. -/
structure Rings (id : TunnelId) (w w' : World) : Prop where
  keyed : Keyed w'
  others : ∀ id', id' ≠ id → w'.db.alarm id' = w.db.alarm id'
  kept : (w.db.alarm id).isSome = true → (w'.db.alarm id).isSome = true
  rows : ∀ id', (w.db.row id').isSome = true → (w'.db.row id').isSome = true

section Ring

variable {setup : Setup} {t : Task} {id : TunnelId} {w w' : World} {α β : Type}

theorem Rings.of_same (keyed : Keyed w') (same : SameAlarms w w') : Rings id w w' where
  keyed := keyed
  others := fun id' _ => same.alarms id'
  kept := fun set => by rw [same.alarms]; exact set
  rows := same.rows

theorem Rings.refl (keyed : Keyed w) : Rings id w w := .of_same keyed (.of_rows fun _ => rfl)

theorem Rings.trans {w₁ : World} (first : Rings id w w₁) (second : Rings id w₁ w') : Rings id w w' where
  keyed := second.keyed
  others := fun id' other => (second.others id' other).trans (first.others id' other)
  kept := fun set => second.kept (first.kept set)
  rows := fun id' found => second.rows id' (first.rows id' found)

theorem drifts_same {drift : (system setup).Trace} (drifts : (system setup).Drifts surroundings w drift w')
    (keyed : Keyed w) : Keyed w' ∧ SameAlarms w w' := by
  refine drifts.keeps (P := fun s => Keyed s ∧ SameAlarms w s) ?_ ⟨keyed, .of_rows fun _ => rfl⟩
  rintro s s' moved ⟨keyed, same⟩
  obtain ⟨keys, unchanged⟩ := surroundings_same moved
  exact ⟨keys keyed, same.trans unchanged⟩

/-- A program of calm acts leaves the alarms alone. -/
theorem ensures_calm (id : TunnelId) {p : Call α} (calm : Prog.All Act.calm p) (keyed : Keyed w) :
    (system setup).Ensures surroundings t p w fun _ _ w' => Rings id w w' := by
  induction p generalizing w with
  | ret a => exact ensures_ret (.refl keyed)
  | call op next ih =>
      refine ensures_call fun drift w₁ c ans w₂ drifts executed => ?_
      obtain ⟨keyed₁, same₁⟩ := drifts_same drifts keyed
      have keyed₂ : Keyed w₂ := exec_keyed executed calm.1.2.2 keyed₁
      have same₂ : SameAlarms w₁ w₂ := exec_calm executed calm.1
      refine ensures_mono (ih ans (calm.2 ans) keyed₂) ?_
      intro rest a w' rings
      exact (Rings.of_same keyed₂ (same₁.trans same₂)).trans rings

theorem all_calm {p : Call α} {tags : List Tag} (uses : Uses tags p)
    (calm : ∀ tag ∈ tags, tag ≠ .setAlarm ∧ tag ≠ .clearAlarm ∧ tag ≠ .importing) : Prog.All Act.calm p :=
  uses.all.mono fun op tagged => calm op.tag tagged

/-- A part of an alarm, and the rest of it from what the part answered. -/
theorem rings_bind {p : Fallible α} {f : α → Fallible β} (Φ : α → Prop)
    (first : (system setup).Ensures surroundings t p.run w fun _ result mid =>
      Rings id w mid ∧ ∀ a, result = .ok a → Φ a)
    (rest : ∀ a mid, Φ a → Keyed mid →
      (system setup).Ensures surroundings t (f a).run mid fun _ _ w' => Rings id mid w') :
    (system setup).Ensures surroundings t (p >>= f).run w fun _ _ w' => Rings id w w' := by
  refine ensures_exceptBind (ensures_mono first ?_)
  rintro trace result mid ⟨rings, known⟩
  cases result with
  | ok a =>
      refine ensures_mono (rest a mid (known a rfl) rings.keyed) ?_
      intro _ _ w' later
      exact rings.trans later
  | error err => exact rings

theorem rings_calm {p : Fallible α} {f : α → Fallible β} (calm : Prog.All Act.calm p.run) (keyed : Keyed w)
    (rest : ∀ a mid, Keyed mid →
      (system setup).Ensures surroundings t (f a).run mid fun _ _ w' => Rings id mid w') :
    (system setup).Ensures surroundings t (p >>= f).run w fun _ _ w' => Rings id w w' := by
  refine rings_bind (fun _ => True) (ensures_mono (ensures_calm id calm keyed) ?_) fun a mid _ => rest a mid
  intro trace result mid rings
  exact ⟨rings, fun _ _ => trivial⟩

theorem rings_act {op : Act} {f : op.Ans → Fallible α} (calm : op.calm) (keyed : Keyed w)
    (rest : ∀ ans mid, Keyed mid →
      (system setup).Ensures surroundings t (f ans).run mid fun _ _ w' => Rings id mid w') :
    (system setup).Ensures surroundings t ((liftM (act op) : Fallible op.Ans) >>= f).run w
      fun _ _ w' => Rings id w w' :=
  rings_calm ⟨calm, fun _ => trivial⟩ keyed rest

/-- The record an alarm sees is its tunnel's. -/
theorem rings_peek {f : Entry → Fallible α} (keyed : Keyed w)
    (rest : ∀ e mid, (∀ record, e.record = some record → record.id = id) → Keyed mid →
      (system setup).Ensures surroundings t (f e).run mid fun _ _ w' => Rings id mid w') :
    (system setup).Ensures surroundings t ((liftM (act (.peek id)) : Fallible Entry) >>= f).run w
      fun _ _ w' => Rings id w w' := by
  refine ensures_act fun drift w₁ c e w₂ drifts peeks => ?_
  obtain ⟨keyed₁, same₁⟩ := drifts_same drifts keyed
  obtain ⟨-, rfl, rfl⟩ := exec_peek peeks
  refine ensures_mono (rest _ _ (keyed₁.cached t.machine id) keyed₁) ?_
  intro _ _ w' later
  exact (Rings.of_same keyed₁ same₁).trans later

theorem setAlarm_rings {at_ : Nat} {c : Choice} {ans : Except Err Unit}
    (sets : exec setup t (.setAlarm id (some at_)) c w = some (ans, w')) (keyed : Keyed w) : Rings id w w' := by
  have keyed' : Keyed w' := exec_keyed sets (by simp [Act.tag]) keyed
  rcases exec_setAlarm sets with ⟨-, -, rfl⟩ | ⟨rfl, -⟩
  · exact .refl keyed
  · refine ⟨keyed', ?_, ?_, ?_⟩
    · intro id' other
      simp [Db.alarm_setAlarm, other]
    · intro set
      rw [World.db_setDb, Db.alarm_setAlarm, if_pos rfl]
      cases found : w.db.row id with
      | none => simp [Db.alarm, found] at set
      | some row => rfl
    · intro id' found
      rw [World.db_setDb, Db.row_setAlarm]
      simpa using found

theorem rings_setAlarm {at_ : Nat} (keyed : Keyed w) :
    (system setup).Ensures surroundings t (fallible (act (.setAlarm id (some at_)))).run w
      fun _ _ w' => Rings id w w' := by
  refine ensures_call fun drift w₁ c ans w₂ drifts sets => ensures_ret ?_
  obtain ⟨keyed₁, same₁⟩ := drifts_same drifts keyed
  have sets : exec setup t (.setAlarm id (some at_)) c w₁ = some (ans, w₂) := sets
  exact (Rings.of_same keyed₁ same₁).trans (setAlarm_rings sets keyed₁)

theorem scheduleRenewal_rings {record : StoredTunnel} (own : record.id = id) (keyed : Keyed w) :
    (system setup).Ensures surroundings t (scheduleRenewal setup record).run w fun _ _ w' => Rings id w w' := by
  unfold scheduleRenewal
  split
  · exact ensures_ret (.refl keyed)
  · split
    · exact ensures_ret (.refl keyed)
    · refine rings_act (by simp [Act.calm, Act.tag]) keyed fun now mid keyed₁ => ?_
      rw [own]
      exact rings_setAlarm keyed₁

theorem startRenewal_rings {record : StoredTunnel} (own : record.id = id) (keyed : Keyed w) :
    (system setup).Ensures surroundings t (startRenewal setup id record).run w fun _ _ w' => Rings id w w' := by
  unfold startRenewal
  split
  · exact ensures_ret (.refl keyed)
  · refine rings_act (by simp [Act.calm, Act.tag]) keyed fun name w₁ keyed₁ => ?_
    refine rings_act (by simp [Act.calm, Act.tag]) keyed₁ fun startedAt w₂ keyed₂ => ?_
    refine rings_calm (by simp [fallible, Act.calm, Act.tag, act]) keyed₂ fun _ w₃ keyed₃ => ?_
    refine rings_peek keyed₃ fun e w₄ _ keyed₄ => ?_
    split
    · exact ensures_ret (.refl keyed₄)
    · rename_i renewing _
      have issues : Uses [.look, .addJob, .publish] (ensureIssuance renewing .renew).run := obeys_run inferInstance
      have calm := all_calm (obeys_run (obeysE_attempt issues)) (by simp)
      refine rings_calm calm keyed₄ fun result w₅ keyed₅ => ?_
      cases result with
      | ok _ => exact ensures_ret (.refl keyed₅)
      | error err =>
          refine rings_calm (by simp [fallible, Act.calm, Act.tag, act]) keyed₅ fun _ w₆ keyed₆ => ?_
          refine rings_act (by simp [Act.calm, Act.tag]) keyed₆ fun now w₇ keyed₇ => ?_
          rw [own]
          exact rings_setAlarm keyed₇

theorem rings_holding {body : Fallible α}
    (within : (system setup).Ensures surroundings t body.run w fun _ _ w' => Rings id w w') :
    (system setup).Ensures surroundings t (holding id body).run w fun _ _ w' => Rings id w w' := by
  refine ensures_bind (ensures_mono within ?_)
  intro trace result mid rings
  refine ensures_mono (ensures_calm id (p := do act (.unlock id); pure result) ?_ rings.keyed) ?_
  · exact ⟨by simp [Act.calm, Act.tag], fun _ => trivial⟩
  · intro _ _ w' later
    exact rings.trans later

theorem alarm_rings (keyed : Keyed w) :
    (system setup).Ensures surroundings t (alarm setup t.machine id).run w fun _ _ w' => Rings id w w' := by
  unfold alarm
  have locks : UsesE [.look, .read] (lockFresh setup t.machine id) := inferInstance
  refine rings_calm (all_calm (obeys_run locks) (by simp)) keyed fun _ w₁ keyed₁ => rings_holding ?_
  refine rings_peek keyed₁ fun e w₂ known keyed₂ => ?_
  split
  · exact ensures_ret (.refl keyed₂)
  · rename_i record live
    have own : record.id = id := known record (Option.filter_eq_some_iff.mp live).1
    split
    · exact ensures_ret (.refl keyed₂)
    · refine rings_act (by simp [Act.calm, Act.tag]) keyed₂ fun now w₃ keyed₃ => ?_
      split
      · exact ensures_ret (.refl keyed₃)
      split
      · exact scheduleRenewal_rings own keyed₃
      have looks : Uses [.look] (isActive setup id record) := inferInstance
      refine rings_calm (all_calm (obeys_run (obeysE_lift looks)) (by simp)) keyed₃ fun active w₄ keyed₄ => ?_
      split
      · exact startRenewal_rings own keyed₄
      · exact ensures_ret (.refl keyed₄)

/-! ### The events of a pass -/

/-- The pass took the alarm. -/
def Takes (setup : Setup) (id : TunnelId) (_ : World) : (system setup).Label → Prop
  | .own (.clearAlarm id' _) _ (.ok true) => id' = id
  | _ => False

/-- The alarm returned an error: `renewal alarm failed`. -/
def Fails (setup : Setup) (id : TunnelId) (_ : World) : (system setup).Label → Prop
  | .own (.alarmFailed id') _ _ => id' = id
  | _ => False

/-- `Service::alarm` was entered for the tunnel. -/
def Enters (setup : Setup) (id : TunnelId) (_ : World) : (system setup).Label → Prop
  | .own (.lock id') _ _ => id' = id
  | _ => False

/-- The acts of an alarm: it locks its own entry only, and neither takes alarms nor logs the failure of one. -/
def Act.Alarming (id : TunnelId) : Act → Prop
  | .lock id' => id' = id
  | .clearAlarm .. => False
  | .alarmFailed _ => False
  | _ => True

section Alarming

variable {m : MachineId}

instance : Unlocks (Act.Alarming id) := ⟨fun _ => trivial⟩

instance lock_alarming : ObeysE (Act.Alarming id) (lock id) := by
  unfold lock load
  exact .of_rules

instance lockFresh_alarming : ObeysE (Act.Alarming id) (lockFresh setup m id) := by
  unfold lockFresh refresh
  exact .of_rules

instance startRenewal_alarming {record : StoredTunnel} :
    ObeysE (Act.Alarming id) (startRenewal setup id record) := by
  unfold startRenewal ensureIssuance
  exact .of_rules

instance alarm_alarming : ObeysE (Act.Alarming id) (alarm setup m id) := by
  unfold alarm isActive scheduleRenewal
  exact .of_rules

end Alarming

/-- An alarm that was fired, with or without an error. -/
structure Fired (setup : Setup) (id : TunnelId) (w : World) (trace : (system setup).Trace) (w' : World) : Prop where
  rings : Rings id w w'
  enters : trace.Any (Enters setup id)
  only : ∀ id', trace.Any (Enters setup id') → id' = id
  takes : ∀ id', ¬ trace.Any (Takes setup id')
  fails : ∀ id', ¬ trace.Any (Fails setup id')

theorem lock_enters : (system setup).Ensures surroundings t (lock id).run w
    fun trace _ _ => trace.Any (Enters setup id) := by
  unfold lock
  refine ensures_act fun drift w₁ c _ w₂ _ _ rest _ _ _ => ?_
  simp [Enters]

theorem lockFresh_enters : (system setup).Ensures surroundings t (lockFresh setup t.machine id).run w
    fun trace _ _ => trace.Any (Enters setup id) := by
  unfold lockFresh
  split
  · exact lock_enters
  · refine ensures_act fun drift w₁ c _ w₂ _ _ rest _ _ _ => ?_
    simp [Enters]

theorem alarm_fired (keyed : Keyed w) : (system setup).Ensures surroundings t (alarm setup t.machine id).run w
    fun trace _ w' => Fired setup id w trace w' := by
  intro trace result w' run
  have acts : Prog.All (Act.Alarming id) (alarm setup t.machine id).run := alarm_alarming.all
  refine ⟨alarm_rings keyed trace result w' run, ?_, ?_, ?_, ?_⟩
  · -- the entry is locked before anything else
    have enters : (system setup).Ensures surroundings t (alarm setup t.machine id).run w
        fun trace _ _ => trace.Any (Enters setup id) := by
      unfold alarm
      refine ensures_exceptBind (ensures_mono lockFresh_enters ?_)
      intro first result mid entered
      cases result with
      | ok _ => exact fun rest _ _ _ => (Trace.any_append _ _ _).mpr (Or.inl entered)
      | error err => exact entered
    exact enters trace result w' run
  · intro id' entered
    by_cases own : id' = id
    · exact own
    refine absurd entered (run.none acts (fun _ holds => holds) ?_)
    intro s op c ans holds alarming
    unfold Enters at holds
    split at holds
    · rename_i locked _ _ is
      cases is
      exact own (holds.symm.trans alarming)
    · exact holds
  · intro id'
    refine run.none acts (fun _ holds => holds) ?_
    intro s op c ans holds alarming
    unfold Takes at holds
    split at holds
    · rename_i is
      cases is
      exact alarming
    · exact holds
  · intro id'
    refine run.none acts (fun _ holds => holds) ?_
    intro s op c ans holds alarming
    unfold Fails at holds
    split at holds
    · rename_i is
      cases is
      exact alarming
    · exact holds

/-- The last moment of a trace that goes on after a call. -/
theorem last_after (before rest : (system setup).Trace) (moment : World × (system setup).Label) :
    (before ++ moment :: rest).getLast? = some (rest.getLast?.getD moment) := by
  simp [List.getLast?_append, List.getLast?_cons]

/-- No alarm is entered, taken or failed. -/
structure Uneventful (setup : Setup) (trace : (system setup).Trace) : Prop where
  enters : ∀ id, ¬ trace.Any (Enters setup id)
  takes : ∀ id, ¬ trace.Any (Takes setup id)
  fails : ∀ id, ¬ trace.Any (Fails setup id)

theorem Uneventful.of_drifts {drift : (system setup).Trace}
    (drifts : (system setup).Drifts surroundings w drift w') : Uneventful setup drift where
  enters := fun _ => drifts.none fun _ holds => holds
  takes := fun _ => drifts.none fun _ holds => holds
  fails := fun _ => drifts.none fun _ holds => holds

/-! ### Taking the alarms -/

/-- The statement that ended the pass: a clear or a set that answered an error. -/
def Breaks (setup : Setup) : (system setup).Label → Prop
  | .own (.clearAlarm ..) _ (.error _) => True
  | .own (.setAlarm ..) _ (.error _) => True
  | _ => False

/-- What is left of the alarms read once they are cleared: all are taken, or one could not be cleared and the pass
    forgets those before it. -/
structure Cleared (setup : Setup) (rows : List (TunnelId × Nat)) (w : World) (trace : (system setup).Trace)
    (result : Except Err (List TunnelId)) (w' : World) : Prop where
  keyed : Keyed w'
  stay : ∀ id, (w.db.row id).isSome = true → (w'.db.row id).isSome = true
  enters : ∀ id, ¬ trace.Any (Enters setup id)
  fails : ∀ id, ¬ trace.Any (Fails setup id)
  others : ∀ id, id ∉ rows.map Prod.fst → w'.db.alarm id = w.db.alarm id
  taken : ∀ id, trace.Any (Takes setup id) → w'.db.alarm id = none ∧ id ∈ rows.map Prod.fst
  ends : match result with
    | .ok taken => taken = rows.map Prod.fst ∧ (∀ id ∈ taken, trace.Any (Takes setup id)) ∧
        ∀ moment, trace.getLast? = some moment → ¬ Breaks setup moment.2
    | .error _ => ∃ (s : World) (id : TunnelId) (at_ : Nat) (c : Choice) (err : Err),
        trace.getLast? = some (s, .own (.clearAlarm id at_) c (.error err)) ∧
        id ∈ rows.map Prod.fst ∧ (c.fault ≠ .failed → w'.db.alarm id = none) ∧
        (c.fault = .failed → ∀ id', ¬ trace.Any (Takes setup id') → w'.db.alarm id' = w.db.alarm id')

theorem clearAlarms_ensures {rows : List (TunnelId × Nat)} (apart : (rows.map Prod.fst).Nodup)
    (current : ∀ row ∈ rows, w.db.alarm row.1 = some row.2) (keyed : Keyed w) :
    (system setup).Ensures surroundings t (clearAlarms rows).run w (Cleared setup rows w) := by
  induction rows generalizing w with
  | nil =>
      refine ensures_ret ⟨keyed, fun _ found => found, by simp, by simp, fun _ _ => rfl, by simp, ?_⟩
      simp
  | cons row rest ih =>
      obtain ⟨id, at_⟩ := row
      unfold clearAlarms
      refine ensures_exceptBind (ensures_call fun drift w₁ c ans w₂ drifts clears => ensures_ret ?_)
      obtain ⟨keyed₁, same₁⟩ := drifts_same drifts keyed
      have clears : exec setup t (.clearAlarm id at_) c w₁ = some (ans, w₂) := clears
      have keyed₂ : Keyed w₂ := exec_keyed clears (by simp [Act.tag]) keyed₁
      have due : w₁.db.alarm id = some at_ := (same₁.alarms id).trans (current (id, at_) List.mem_cons_self)
      have silent : Uneventful setup drift := .of_drifts drifts
      -- the row is cleared: its alarm is gone, the others are as they were
      have clearing : w₂ = w₁.setDb (w₁.db.setAlarm id none) → w₂.db.alarm id = none ∧
          (∀ id', id' ≠ id → w₂.db.alarm id' = w.db.alarm id') ∧
          ∀ id', (w.db.row id').isSome = true → (w₂.db.row id').isSome = true := by
        rintro rfl
        refine ⟨?_, ?_, ?_⟩
        · rw [World.db_setDb, Db.alarm_setAlarm, if_pos rfl]
          cases w₁.db.row id with
          | none => rfl
          | some row => rfl
        · intro id' other
          rw [World.db_setDb, Db.alarm_setAlarm, if_neg other]
          exact same₁.alarms id'
        · intro id' found
          rw [World.db_setDb, Db.row_setAlarm]
          simpa using same₁.rows id' found
      rcases exec_clearAlarm clears with ⟨fault, rfl, rfl⟩ | ⟨other, -⟩ | ⟨-, after, ⟨fault, rfl⟩ | ⟨fault, rfl⟩⟩
      · refine ⟨keyed₁, same₁.rows, ?_, ?_, fun id' _ => same₁.alarms id', ?_, ?_⟩
        · intro id'
          simp [silent.enters, Enters]
        · intro id'
          simp [silent.fails, Fails]
        · intro id' takes
          simp [silent.takes, Takes] at takes
        · exact ⟨w₂, id, at_, c, c.error, by simp, by simp, fun kept => absurd fault kept,
            fun _ id' _ => same₁.alarms id'⟩
      · exact absurd due other
      · obtain ⟨cleared, others, stay⟩ := clearing after
        obtain ⟨fresh, apart⟩ := List.nodup_cons.mp apart
        have current₂ : ∀ row ∈ rest, w₂.db.alarm row.1 = some row.2 := by
          intro row listed
          have other : row.1 ≠ id := fun same => fresh (List.mem_map.mpr ⟨row, listed, same⟩)
          rw [others row.1 other]
          exact current row (List.mem_cons_of_mem _ listed)
        refine ensures_exceptBind (ensures_mono (ih apart current₂ keyed₂) ?_)
        intro later result w₃ done
        have taken : ∀ id', (drift ++ (w₁, .own (.clearAlarm id at_) c (.ok true)) :: later).Any (Takes setup id') ↔
            id' = id ∨ later.Any (Takes setup id') := by
          intro id'
          simp [silent.takes, Takes, eq_comm]
        have first : w₃.db.alarm id = none := (done.others id fresh).trans cleared
        have whole : Cleared setup ((id, at_) :: rest) w
            (drift ++ (w₁, .own (.clearAlarm id at_) c (.ok true)) :: later)
            (result.map (List.cons id)) w₃ := by
          refine ⟨done.keyed, fun id' found => done.stay id' (stay id' found), ?_, ?_, ?_, ?_, ?_⟩
          · intro id'
            simp [silent.enters, done.enters, Enters]
          · intro id'
            simp [silent.fails, done.fails, Fails]
          · intro id' absent
            obtain ⟨other, absent⟩ := not_or.mp (fun listed => absent (List.mem_cons.mpr listed))
            exact (done.others id' absent).trans (others id' other)
          · intro id' takes
            rcases (taken id').mp takes with rfl | takes
            · exact ⟨first, by simp⟩
            · obtain ⟨gone, listed⟩ := done.taken id' takes
              exact ⟨gone, List.mem_cons_of_mem _ listed⟩
          · cases result with
            | ok others' =>
                obtain ⟨rfl, all, unbroken⟩ := done.ends
                refine ⟨rfl, ?_, ?_⟩
                · intro id' listed
                  exact (taken id').mpr ((List.mem_cons.mp listed).imp_right (all id'))
                · intro moment last
                  rw [last_after] at last
                  cases found : later.getLast? with
                  | none =>
                      rw [found] at last
                      cases last
                      exact fun broken => broken
                  | some final =>
                      rw [found] at last
                      cases last
                      exact unbroken _ found
            | error err =>
                obtain ⟨s, id', at', c', err', last, listed, gone, kept⟩ := done.ends
                refine ⟨s, id', at', c', err', by rw [last_after, last]; rfl, List.mem_cons_of_mem _ listed, gone, ?_⟩
                intro failed id'' untaken
                obtain ⟨other, untaken⟩ := not_or.mp (fun takes => untaken ((taken id'').mpr takes))
                exact (kept failed id'' untaken).trans (others id'' other)
        cases result with
        | ok others' => exact ensures_ret (by simpa [Except.map] using whole)
        | error err => simpa [Except.map] using whole
      · obtain ⟨cleared, others, stay⟩ := clearing after
        refine ⟨keyed₂, stay, ?_, ?_, fun id' absent => others id' fun same => absent (by simp [same]), ?_, ?_⟩
        · intro id'
          simp [silent.enters, Enters]
        · intro id'
          simp [silent.fails, Fails]
        · intro id' takes
          simp [silent.takes, Takes] at takes
        · exact ⟨w₁, id, at_, c, c.error, by simp, by simp, fun _ => cleared,
            fun failed => by rw [fault] at failed; cases failed⟩

/-! ### Firing the alarms taken -/

/-- One alarm of the loop: it ran without error, or failed and was set again, or could not be set again. -/
structure FiredOne (setup : Setup) (id : TunnelId) (w : World) (trace : (system setup).Trace)
    (result : Except Err Unit) (w' : World) : Prop where
  keyed : Keyed w'
  stay : ∀ id', (w.db.row id').isSome = true → (w'.db.row id').isSome = true
  others : ∀ id', id' ≠ id →
    w'.db.alarm id' = w.db.alarm id' ∧ ¬ trace.Any (Enters setup id') ∧ ¬ trace.Any (Fails setup id')
  takes : ∀ id', ¬ trace.Any (Takes setup id')
  enters : trace.Any (Enters setup id)
  ends : match result with
    | .ok _ => (w'.db.alarm id).isSome = true ∨ ¬ trace.Any (Fails setup id)
    | .error _ => trace.Any (Fails setup id) ∧ ∃ (s : World) (at_ : Option Nat) (c : Choice) (err : Err),
        trace.getLast? = some (s, .own (.setAlarm id at_) c (.error err)) ∧
        ((w'.db.alarm id).isSome = true ↔ c.fault = .late ∨ (s.db.alarm id).isSome = true)

theorem fireAlarm_ensures (keyed : Keyed w) (stored : (w.db.row id).isSome = true) :
    (system setup).Ensures surroundings t (fireAlarm setup t.machine id).run w (FiredOne setup id w) := by
  unfold fireAlarm
  refine ensures_attempt (ensures_mono (alarm_fired keyed) ?_)
  intro body result w₁ fired
  have others : ∀ id', id' ≠ id → ¬ body.Any (Enters setup id') := fun id' other enters =>
    other (fired.only id' enters)
  cases result with
  | ok _ =>
      refine ensures_ret ?_
      rw [List.append_nil]
      exact ⟨fired.rings.keyed, fired.rings.rows,
        fun id' other => ⟨fired.rings.others id' other, others id' other, fired.fails id'⟩, fired.takes,
        fired.enters, Or.inr (fired.fails id)⟩
  | error err =>
      unfold retryAlarm
      refine ensures_act fun drift₁ w₂ c₂ _ w₃ drifts₁ logs => ?_
      refine ensures_act fun drift₂ w₄ c₄ now w₅ drifts₂ clocks => ?_
      refine ensures_call fun drift₃ w₆ c₆ ans w₇ drifts₃ sets => ensures_ret ?_
      cases logs
      cases clocks
      obtain ⟨keyed₂, same₂⟩ := drifts_same drifts₁ fired.rings.keyed
      obtain ⟨keyed₄, same₄⟩ := drifts_same drifts₂ keyed₂
      obtain ⟨keyed₆, same₆⟩ := drifts_same drifts₃ keyed₄
      have same : SameAlarms w₁ w₆ := (same₂.trans same₄).trans same₆
      have silent₁ : Uneventful setup drift₁ := .of_drifts drifts₁
      have silent₂ : Uneventful setup drift₂ := .of_drifts drifts₂
      have silent₃ : Uneventful setup drift₃ := .of_drifts drifts₃
      have sets : exec setup t (.setAlarm id (some (w₄.now t.machine + minuteMs))) c₆ w₆ = some (ans, w₇) := sets
      have rings : Rings id w₁ w₇ := (Rings.of_same keyed₆ same).trans (setAlarm_rings sets keyed₆)
      have found : (w₆.db.row id).isSome = true := same.rows id (fired.rings.rows id stored)
      -- the alarm is set unless the statement failed before it took effect
      have ends : ((w₇.db.alarm id).isSome = true ↔ c₆.fault ≠ .failed ∨ (w₆.db.alarm id).isSome = true) ∧
          (ans = .ok () ∧ c₆.fault = .none ∨ ∃ err, ans = .error err ∧ c₆.fault ≠ .none) := by
        rcases exec_setAlarm sets with ⟨fault, is, rfl⟩ | ⟨rfl, ⟨fault, is⟩ | ⟨fault, is⟩⟩
        · simp [fault, is]
        · obtain ⟨row, stored⟩ := Option.isSome_iff_exists.mp found
          simp [fault, is, Db.alarm_setAlarm, stored]
        · obtain ⟨row, stored⟩ := Option.isSome_iff_exists.mp found
          simp [fault, is, Db.alarm_setAlarm, stored]
      refine ⟨rings.keyed, fun id' found => rings.rows id' (fired.rings.rows id' found), ?_, ?_, ?_, ?_⟩
      · intro id' other
        refine ⟨(rings.others id' other).trans (fired.rings.others id' other), ?_, ?_⟩
        · simp [others id' other, silent₁.enters, silent₂.enters, silent₃.enters, Enters]
        · simp [fired.fails, silent₁.fails, silent₂.fails, silent₃.fails, Fails, Ne.symm other]
      · intro id'
        simp [fired.takes, silent₁.takes, silent₂.takes, silent₃.takes, Takes]
      · simp [fired.enters]
      · obtain ⟨set, ⟨rfl, fault⟩ | ⟨err, rfl, fault⟩⟩ := ends
        · exact Or.inl (set.mpr (Or.inl (by simp [fault])))
        · refine ⟨by simp [Fails], w₆, some (w₄.now t.machine + minuteMs), c₆, err,
            by simp [List.getLast?_append, List.getLast?_cons], set.trans (or_congr_left ?_)⟩
          cases kind : c₆.fault with
          | none => exact absurd kind fault
          | failed => simp
          | late => simp

/-- The loop: an alarm that could not be set again ends it, and those after it are not fired. -/
structure FiredAll (setup : Setup) (ids : List TunnelId) (w : World) (trace : (system setup).Trace)
    (result : Except Err Unit) (w' : World) : Prop where
  keyed : Keyed w'
  others : ∀ id, id ∉ ids →
    w'.db.alarm id = w.db.alarm id ∧ ¬ trace.Any (Enters setup id) ∧ ¬ trace.Any (Fails setup id)
  takes : ∀ id, ¬ trace.Any (Takes setup id)
  ends : match result with
    | .ok _ => ∀ id ∈ ids, trace.Any (Enters setup id) ∧
        ((w'.db.alarm id).isSome = true ∨ ¬ trace.Any (Fails setup id))
    | .error _ => ∃ (s : World) (id : TunnelId) (at_ : Option Nat) (c : Choice) (err : Err),
        trace.getLast? = some (s, .own (.setAlarm id at_) c (.error err)) ∧ id ∈ ids ∧
        trace.Any (Enters setup id) ∧ trace.Any (Fails setup id) ∧
        ((w'.db.alarm id).isSome = true ↔ c.fault = .late ∨ (s.db.alarm id).isSome = true) ∧
        ∀ id' ∈ ids, id' ≠ id →
          (trace.Any (Enters setup id') ∧ ((w'.db.alarm id').isSome = true ∨ ¬ trace.Any (Fails setup id'))) ∨
          (¬ trace.Any (Enters setup id') ∧ w'.db.alarm id' = w.db.alarm id')

theorem fireAlarms_ensures {ids : List TunnelId} (apart : ids.Nodup)
    (stored : ∀ id ∈ ids, (w.db.row id).isSome = true) (keyed : Keyed w) :
    (system setup).Ensures surroundings t (fireAlarms setup t.machine ids).run w (FiredAll setup ids w) := by
  induction ids generalizing w with
  | nil => exact ensures_ret ⟨keyed, fun _ _ => ⟨rfl, by simp, by simp⟩, by simp, by simp⟩
  | cons id rest ih =>
      obtain ⟨fresh, apart⟩ := List.nodup_cons.mp apart
      unfold fireAlarms
      refine ensures_exceptBind (ensures_mono (fireAlarm_ensures keyed (stored id List.mem_cons_self)) ?_)
      intro body result w₁ one
      cases result with
      | error err =>
          obtain ⟨failed, s, at_, c, err', last, set⟩ := one.ends
          refine ⟨one.keyed, fun id' absent => one.others id' fun same => absent (by simp [same]), one.takes, ?_⟩
          refine ⟨s, id, at_, c, err', last, by simp, one.enters, failed, set, ?_⟩
          intro id' _ other
          exact Or.inr ⟨(one.others id' other).2.1, (one.others id' other).1⟩
      | ok _ =>
          have stored₁ : ∀ id' ∈ rest, (w₁.db.row id').isSome = true := fun id' listed =>
            one.stay id' (stored id' (List.mem_cons_of_mem _ listed))
          refine ensures_mono (ih apart stored₁ one.keyed) ?_
          intro later result w₂ all
          have apartOf : ∀ id' ∈ rest, id' ≠ id := fun id' listed same => fresh (same ▸ listed)
          obtain ⟨first, silent, calm⟩ := all.others id fresh
          -- what the rest of the loop says of an alarm stands for the whole loop
          have carried : ∀ id' ∈ rest, later.Any (Enters setup id') ∧
              ((w₂.db.alarm id').isSome = true ∨ ¬ later.Any (Fails setup id')) →
              (body ++ later).Any (Enters setup id') ∧
              ((w₂.db.alarm id').isSome = true ∨ ¬ (body ++ later).Any (Fails setup id')) := by
            intro id' listed done
            obtain ⟨-, -, unfailed⟩ := one.others id' (apartOf id' listed)
            simpa [unfailed, done.1] using done.2
          have own : (body ++ later).Any (Enters setup id) ∧
              ((w₂.db.alarm id).isSome = true ∨ ¬ (body ++ later).Any (Fails setup id)) := by
            refine ⟨by simp [one.enters], ?_⟩
            rw [first]
            simpa [calm] using one.ends
          refine ⟨all.keyed, ?_, ?_, ?_⟩
          · intro id' absent
            obtain ⟨other, absent⟩ := not_or.mp (fun listed => absent (List.mem_cons.mpr listed))
            obtain ⟨same, unentered, unfailed⟩ := one.others id' other
            obtain ⟨same', unentered', unfailed'⟩ := all.others id' absent
            exact ⟨same'.trans same, by simp [unentered, unentered'], by simp [unfailed, unfailed']⟩
          · intro id'
            simp [one.takes, all.takes]
          · cases result with
            | ok _ =>
                intro id' listed
                rcases List.mem_cons.mp listed with rfl | listed
                · exact own
                · exact carried id' listed (all.ends id' listed)
            | error err =>
                obtain ⟨s, last, at_, c, err', ended, listed, enters, failed, set, others⟩ := all.ends
                refine ⟨s, last, at_, c, err', by simp [List.getLast?_append, ended], by simp [listed],
                  by simp [enters], by simp [failed], set, ?_⟩
                intro id' among other
                rcases List.mem_cons.mp among with rfl | among
                · exact Or.inl own
                · rcases others id' among other with done | ⟨unentered, same⟩
                  · exact Or.inl (carried id' among done)
                  · obtain ⟨same', unentered', -⟩ := one.others id' (apartOf id' among)
                    exact Or.inr ⟨by simp [unentered, unentered'], same.trans same'⟩

/-! ### A pass -/

/-- The time the pass takes alarms at: the clock it reads first. -/
def passTime {setup : Setup} : (system setup).Trace → Option Nat
  | (_, .other) :: rest => passTime rest
  | (_, .own .now _ now) :: _ => some now
  | _ => none

theorem passTime_drift {drift : (system setup).Trace} (drifts : (system setup).Drifts surroundings w drift w')
    (rest : (system setup).Trace) : passTime (drift ++ rest) = passTime rest := by
  induction drifts with
  | refl => rfl
  | other _ _ ih => exact ih

/-- Every alarm that was due is still set, or `Service::alarm` ran for it and did not fail. -/
def NoneLost (setup : Setup) (w : World) (trace : (system setup).Trace) (w' : World) : Prop :=
  ∀ id at_ now, passTime trace = some now → w.db.alarm id = some at_ → at_ ≤ now →
    (w'.db.alarm id).isSome = true ∨ (trace.Any (Enters setup id) ∧ ¬ trace.Any (Fails setup id))

/-- No statement failed where the pass cannot make up for it: a clear that fails leaves its alarm, and is the first;
    a failed alarm that cannot be set again is set nevertheless, and every alarm taken was fired before. -/
structure Spared (setup : Setup) (trace : (system setup).Trace) : Prop where
  clears : ∀ s id at_ c err, trace.getLast? = some (s, .own (.clearAlarm id at_) c (.error err)) →
    c.fault = .failed ∧ ∀ id', ¬ trace.Any (Takes setup id')
  sets : ∀ s id at_ c err, trace.getLast? = some (s, .own (.setAlarm id at_) c (.error err)) →
    (c.fault = .late ∨ (s.db.alarm id).isSome = true) ∧
    ∀ id', trace.Any (Takes setup id') → trace.Any (Enters setup id')

theorem Spared.of_unbroken {trace : (system setup).Trace}
    (unbroken : ∀ moment, trace.getLast? = some moment → ¬ Breaks setup moment.2) : Spared setup trace where
  clears := fun _ _ _ _ _ last => (unbroken _ last trivial).elim
  sets := fun _ _ _ _ _ last => (unbroken _ last trivial).elim

theorem exec_selectAlarms {limit : Nat} {c : Choice} {ans : Except Err (List (TunnelId × Nat))}
    (h : exec setup t (.selectAlarms limit) c w = some (ans, w')) :
    w' = w ∧ ((ans = .ok c.alarms ∧ w.db.selectsAlarms limit c.alarms) ∨ ∃ err, ans = .error err) := by
  simp only [exec] at h
  split at h
  · rename_i answers
    cases h
    unfold Choice.query
    cases c.fault with
    | none => exact ⟨rfl, Or.inl ⟨rfl, answers⟩⟩
    | failed => exact ⟨rfl, Or.inr ⟨_, rfl⟩⟩
    | late => exact ⟨rfl, Or.inr ⟨_, rfl⟩⟩
  · cases h

/-- The alarms a pass takes are due, and each is there once. -/
theorem dueAlarms_due (now : Nat) {rows : List (TunnelId × Nat)} {limit : Nat} (selects : w.db.selectsAlarms limit rows) :
    ((dueAlarms rows now).map Prod.fst).Nodup ∧
      ∀ row ∈ dueAlarms rows now, w.db.alarm row.1 = some row.2 ∧ row.2 ≤ now := by
  obtain ⟨apart, current, -⟩ := selects
  have part : (dueAlarms rows now).Sublist rows :=
    (List.take_sublist _ _).trans (List.takeWhile_sublist _)
  refine ⟨apart.sublist (part.map _), ?_⟩
  intro row listed
  refine ⟨current row (part.subset listed), ?_⟩
  have early := List.all_eq_true.mp List.all_takeWhile row (List.mem_of_mem_take listed)
  simpa using early

/-- The alarms due at `now` when the pass reads them, once the clock is read. -/
def DueKept (setup : Setup) (now : Nat) (w : World) (trace : (system setup).Trace) (w' : World) : Prop :=
  ∀ id at_, w.db.alarm id = some at_ → at_ ≤ now →
    (w'.db.alarm id).isSome = true ∨ (trace.Any (Enters setup id) ∧ ¬ trace.Any (Fails setup id))

section Pass

variable {rows : List (TunnelId × Nat)} {now : Nat} {first rest : (system setup).Trace}

/-- A clear that failed: nothing is lost when it left its alarm and no other was cleared before. -/
theorem kept_iff_cleared {err : Err} (due : ∀ row ∈ rows, w.db.alarm row.1 = some row.2 ∧ row.2 ≤ now)
    (cleared : Cleared setup rows w first (.error err) w') : DueKept setup now w first w' ↔ Spared setup first := by
  obtain ⟨s, id, at_, c, err', last, listed, gone, same⟩ := cleared.ends
  -- an alarm of the list that is not set any more was not fired either
  have lost : ∀ id' ∈ rows.map Prod.fst, w'.db.alarm id' = none → ¬ DueKept setup now w first w' := by
    intro id' listed none_ kept
    obtain ⟨row, among, rfl⟩ := List.mem_map.mp listed
    rcases kept row.1 row.2 (due row among).1 (due row among).2 with set | ⟨entered, -⟩
    · rw [none_] at set
      cases set
    · exact cleared.enters row.1 entered
  constructor
  · intro kept
    refine ⟨?_, ?_⟩
    · intro s' id' at' c' err'' last'
      rw [last] at last'
      cases last'
      refine ⟨?_, ?_⟩
      · by_cases failed : c.fault = .failed
        · exact failed
        · exact (lost id listed (gone failed) kept).elim
      · intro id' taken
        obtain ⟨none_, among⟩ := cleared.taken id' taken
        exact lost id' among none_ kept
    · intro s' id' at' c' err'' last'
      rw [last] at last'
      cases last'
  · intro spared
    obtain ⟨failed, untaken⟩ := spared.clears s id at_ c err' last
    intro id' at' set _
    rw [same failed id' (untaken id'), set]
    exact Or.inl rfl

/-- An alarm that could not be set again: nothing is lost when it is set nevertheless and no other was left. -/
theorem kept_iff_fired {taken : List TunnelId} {w₁ : World} {err : Err}
    (due : ∀ row ∈ rows, w.db.alarm row.1 = some row.2 ∧ row.2 ≤ now)
    (cleared : Cleared setup rows w first (.ok taken) w₁) (fired : FiredAll setup taken w₁ rest (.error err) w') :
    DueKept setup now w (first ++ rest) w' ↔ Spared setup (first ++ rest) := by
  obtain ⟨rfl, takes, -⟩ := cleared.ends
  obtain ⟨s, id, at_, c, err', last, listed, enters, failed, set, others⟩ := fired.ends
  have ended : (first ++ rest).getLast? = some (s, .own (.setAlarm id at_) c (.error err')) := by
    simp [List.getLast?_append, last]
  have taken : ∀ id', (first ++ rest).Any (Takes setup id') ↔ id' ∈ rows.map Prod.fst := by
    intro id'
    rw [Trace.any_append]
    constructor
    · rintro (took | took)
      · exact (cleared.taken id' took).2
      · exact (fired.takes id' took).elim
    · exact fun among => Or.inl (takes id' among)
  have entered : ∀ id', (first ++ rest).Any (Enters setup id') ↔ rest.Any (Enters setup id') := by
    intro id'
    simp [cleared.enters]
  have fails : ∀ id', (first ++ rest).Any (Fails setup id') ↔ rest.Any (Fails setup id') := by
    intro id'
    simp [cleared.fails]
  constructor
  · intro kept
    refine ⟨?_, ?_⟩
    · intro s' id' at' c' err'' last'
      rw [ended] at last'
      cases last'
    · intro s' id' at' c' err'' last'
      rw [ended] at last'
      cases last'
      refine ⟨?_, ?_⟩
      · obtain ⟨row, among, rfl⟩ := List.mem_map.mp listed
        rcases kept row.1 row.2 (due row among).1 (due row among).2 with still | ⟨-, unfailed⟩
        · exact set.mp still
        · exact (unfailed ((fails _).mpr failed)).elim
      · intro id' took
        have among := (taken id').mp took
        by_cases same : id' = id
        · rw [same]
          exact (entered id).mpr enters
        · rcases others id' among same with ⟨fired, -⟩ | ⟨unfired, unset⟩
          · exact (entered id').mpr fired
          · -- cleared, not fired, and never set again
            obtain ⟨row, read, rfl⟩ := List.mem_map.mp among
            rcases kept row.1 row.2 (due row read).1 (due row read).2 with still | ⟨fired, -⟩
            · rw [unset, (cleared.taken _ (takes _ among)).1] at still
              cases still
            · exact fired
  · intro spared
    obtain ⟨reset, allEntered⟩ := spared.sets s id at_ c err' ended
    intro id' at' before _
    by_cases among : id' ∈ rows.map Prod.fst
    · by_cases same : id' = id
      · rw [same]
        exact Or.inl (set.mpr reset)
      · rcases others id' among same with ⟨fired, still | unfailed⟩ | ⟨unfired, -⟩
        · exact Or.inl still
        · exact Or.inr ⟨(entered id').mpr fired, fun failed => unfailed ((fails id').mp failed)⟩
        · exact (unfired ((entered id').mp (allEntered id' ((taken id').mpr among)))).elim
    · left
      rw [(fired.others id' among).1, cleared.others id' among, before]
      rfl

/-- A pass that fired all it took. -/
theorem kept_of_fired {taken : List TunnelId} {w₁ : World}
    (cleared : Cleared setup rows w first (.ok taken) w₁) (fired : FiredAll setup taken w₁ rest (.ok ()) w') :
    DueKept setup now w (first ++ rest) w' := by
  obtain ⟨rfl, -, -⟩ := cleared.ends
  intro id at_ before _
  by_cases among : id ∈ rows.map Prod.fst
  · obtain ⟨entered, still | unfailed⟩ := fired.ends id among
    · exact Or.inl still
    · exact Or.inr ⟨by simp [entered], by simp [cleared.fails, unfailed]⟩
  · left
    rw [(fired.others id among).1, cleared.others id among, before]
    rfl

/-- What happens before the alarms are read changes neither side. -/
theorem Spared.after {moment : World × (system setup).Label} (silent : Uneventful setup first)
    (calm : Uneventful setup [moment]) (unbroken : ¬ Breaks setup moment.2) :
    Spared setup (first ++ moment :: rest) ↔ Spared setup rest := by
  have takes : ∀ id, (first ++ moment :: rest).Any (Takes setup id) ↔ rest.Any (Takes setup id) := by
    intro id
    have none_ := calm.takes id
    obtain ⟨s, label⟩ := moment
    simp only [Trace.any_cons, Trace.any_nil, or_false] at none_
    simp [silent.takes, none_]
  have enters : ∀ id, (first ++ moment :: rest).Any (Enters setup id) ↔ rest.Any (Enters setup id) := by
    intro id
    have none_ := calm.enters id
    obtain ⟨s, label⟩ := moment
    simp only [Trace.any_cons, Trace.any_nil, or_false] at none_
    simp [silent.enters, none_]
  have last : ∀ final, Breaks setup final.2 →
      ((first ++ moment :: rest).getLast? = some final ↔ rest.getLast? = some final) := by
    intro final breaks
    rw [last_after]
    cases found : rest.getLast? with
    | some other => simp
    | none =>
        simp only [Option.getD_none, Option.some.injEq, reduceCtorEq, iff_false]
        rintro rfl
        exact unbroken breaks
  constructor
  · intro spared
    refine ⟨?_, ?_⟩
    · intro s id at_ c err ends
      obtain ⟨failed, untaken⟩ := spared.clears s id at_ c err ((last _ (by trivial)).mpr ends)
      exact ⟨failed, fun id' took => untaken id' ((takes id').mpr took)⟩
    · intro s id at_ c err ends
      obtain ⟨reset, fired⟩ := spared.sets s id at_ c err ((last _ (by trivial)).mpr ends)
      exact ⟨reset, fun id' took => (enters id').mp (fired id' ((takes id').mpr took))⟩
  · intro spared
    refine ⟨?_, ?_⟩
    · intro s id at_ c err ends
      obtain ⟨failed, untaken⟩ := spared.clears s id at_ c err ((last _ (by trivial)).mp ends)
      exact ⟨failed, fun id' took => untaken id' ((takes id').mp took)⟩
    · intro s id at_ c err ends
      obtain ⟨reset, fired⟩ := spared.sets s id at_ c err ((last _ (by trivial)).mp ends)
      exact ⟨reset, fun id' took => (enters id').mpr (fired id' ((takes id').mp took))⟩

theorem DueKept.after {w₁ : World} {moment : World × (system setup).Label} (same : SameAlarms w w₁)
    (silent : Uneventful setup first) (calm : Uneventful setup [moment]) :
    DueKept setup now w (first ++ moment :: rest) w' ↔ DueKept setup now w₁ rest w' := by
  have enters : ∀ id, (first ++ moment :: rest).Any (Enters setup id) ↔ rest.Any (Enters setup id) := by
    intro id
    have none_ := calm.enters id
    obtain ⟨s, label⟩ := moment
    simp only [Trace.any_cons, Trace.any_nil, or_false] at none_
    simp [silent.enters, none_]
  have fails : ∀ id, (first ++ moment :: rest).Any (Fails setup id) ↔ rest.Any (Fails setup id) := by
    intro id
    have none_ := calm.fails id
    obtain ⟨s, label⟩ := moment
    simp only [Trace.any_cons, Trace.any_nil, or_false] at none_
    simp [silent.fails, none_]
  unfold DueKept
  simp only [enters, fails, same.alarms]

/-- The alarms are fired once they are all cleared, and the pass reads its clock again. -/
theorem fired_ensures {taken : List TunnelId} {w₁ : World} {next : Option Nat}
    (apart : (rows.map Prod.fst).Nodup) (due : ∀ row ∈ rows, w.db.alarm row.1 = some row.2 ∧ row.2 ≤ now)
    (cleared : Cleared setup rows w first (.ok taken) w₁) :
    (system setup).Ensures surroundings t (do
      fireAlarms setup t.machine taken
      if taken.isEmpty then
        return (taken.length, next)
      let now ← act .now
      return (taken.length, some (next.elim (now + minuteMs) fun next => min next (now + minuteMs))) :
        Fallible (Nat × Option Nat)).run w₁ fun rest _ w' =>
      DueKept setup now w (first ++ rest) w' ↔ Spared setup (first ++ rest) := by
  obtain ⟨all, -, unbroken⟩ := cleared.ends
  have stored : ∀ id ∈ taken, (w₁.db.row id).isSome = true := by
    intro id listed
    rw [all] at listed
    obtain ⟨row, read, rfl⟩ := List.mem_map.mp listed
    refine cleared.stay row.1 ?_
    have set := (due row read).1
    unfold Db.alarm at set
    cases found : w.db.row row.1 with
    | none => simp [found] at set
    | some _ => rfl
  have fires : (system setup).Ensures surroundings t (fireAlarms setup t.machine taken).run w₁
      (FiredAll setup taken w₁) := fireAlarms_ensures (all ▸ apart) stored cleared.keyed
  cases taken with
  | nil =>
      refine ensures_ret ?_
      have kept : DueKept setup now w (first ++ []) w₁ := kept_of_fired cleared (fires [] (.ok ()) w₁ (.ret _ _))
      rw [List.append_nil] at kept ⊢
      exact ⟨fun _ => .of_unbroken unbroken, fun _ => kept⟩
  | cons id others =>
      refine ensures_exceptBind (ensures_mono fires ?_)
      intro rest result w₂ fired
      cases result with
      | error err => exact kept_iff_fired due cleared fired
      | ok _ =>
          refine ensures_act fun drift w₃ c _ w₄ drifts clocks => ensures_ret ?_
          cases clocks
          obtain ⟨-, same⟩ := drifts_same drifts fired.keyed
          have silent : Uneventful setup drift := .of_drifts drifts
          have kept : DueKept setup now w (first ++ rest) w₂ := kept_of_fired cleared fired
          constructor
          · intro _
            refine .of_unbroken fun moment last => ?_
            rw [← List.append_assoc, ← List.append_assoc, last_after] at last
            cases last
            exact fun broken => broken
          · intro _ id' at_ before early
            rw [same.alarms]
            simpa [silent.enters, silent.fails, Enters, Fails] using kept id' at_ before early

theorem pass_ensures (keyed : Keyed w) : (system setup).Ensures surroundings t (fireDueAlarms setup t.machine).run w
    fun trace _ w' => NoneLost setup w trace w' ↔ Spared setup trace := by
  unfold fireDueAlarms
  refine ensures_act fun drift w₁ c now w₂ drifts clocks => ?_
  cases clocks
  obtain ⟨keyed₁, same₁⟩ := drifts_same drifts keyed
  have silent₁ : Uneventful setup drift := .of_drifts drifts
  have clock : Uneventful setup [(w₁, .own .now c (w₁.now t.machine))] :=
    ⟨fun _ => by simp [Enters], fun _ => by simp [Takes], fun _ => by simp [Fails]⟩
  -- the clock is read: what follows is about the alarms due at that time
  refine ensures_mono (Q := fun rest _ w' => DueKept setup (w₁.now t.machine) w₁ rest w' ↔ Spared setup rest) ?_ ?_
  · unfold takeDueAlarms
    refine ensures_exceptBind (ensures_exceptBind (ensures_call fun drift₂ w₂ c₂ ans w₃ drifts₂ reads => ensures_ret ?_))
    have reads : exec setup t (.selectAlarms (takeLimit + 1)) c₂ w₂ = some (ans, w₃) := reads
    obtain ⟨keyed₂, same₂⟩ := drifts_same drifts₂ keyed₁
    have silent₂ : Uneventful setup drift₂ := .of_drifts drifts₂
    obtain ⟨rfl, ⟨rfl, answers⟩ | ⟨err, rfl⟩⟩ := exec_selectAlarms reads
    · have read : Uneventful setup [(w₃, .own (.selectAlarms (takeLimit + 1)) c₂ (.ok c₂.alarms))] :=
        ⟨fun _ => by simp [Enters], fun _ => by simp [Takes], fun _ => by simp [Fails]⟩
      obtain ⟨apart, due⟩ := dueAlarms_due (w₁.now t.machine) answers
      have current := fun row listed => (due row listed).1
      refine ensures_exceptBind (ensures_mono (clearAlarms_ensures apart current keyed₂) ?_)
      intro clears result w₄ cleared
      -- reading the alarms changes neither side
      have carried : ∀ rest w', (DueKept setup (w₁.now t.machine) w₃ rest w' ↔ Spared setup rest) →
          (DueKept setup (w₁.now t.machine) w₁
              (drift₂ ++ (w₃, .own (.selectAlarms (takeLimit + 1)) c₂ (.ok c₂.alarms)) :: rest) w' ↔
            Spared setup (drift₂ ++ (w₃, .own (.selectAlarms (takeLimit + 1)) c₂ (.ok c₂.alarms)) :: rest)) := by
        intro rest w' settled
        rw [DueKept.after same₂ silent₂ read, Spared.after silent₂ read (fun broken => broken)]
        exact settled
      cases result with
      | error err => simpa using carried clears w₄ (kept_iff_cleared due cleared)
      | ok taken =>
          refine ensures_ret (ensures_mono (fired_ensures apart due cleared) ?_)
          intro rest _ w' settled
          simpa using carried (clears ++ rest) w' settled
    · constructor
      · intro _
        refine .of_unbroken fun moment last => ?_
        rw [last_after] at last
        cases last
        exact fun broken => broken
      · intro _ id at_ before _
        rw [same₂.alarms id, before]
        exact Or.inl rfl
  · intro rest result w' same
    rw [Spared.after silent₁ clock (fun broken => broken), ← same]
    unfold NoneLost DueKept
    rw [passTime_drift drifts]
    constructor
    · intro none_ id at_ before due
      rw [same₁.alarms] at before
      simpa [silent₁.enters, silent₁.fails, Enters, Fails] using none_ id at_ _ rfl before due
    · intro kept id at_ now read before due
      cases read
      rw [← same₁.alarms] at before
      simpa [silent₁.enters, silent₁.fails, Enters, Fails] using kept id at_ before due

end Pass

end Ring

/-- In every state the servers reach, for every pass of `fire_due_alarms` and whatever statements fail during it: no due
    alarm is lost if and only if no statement fails where the pass cannot make up for it. -/
theorem no_alarm_lost (setup : Setup) (job : Task → Operation) {w₀ : World} (started : w₀.Started)
    {cfg : Config Task Act Act.Ans World} (reach : (system setup).Reach (running setup job) (idle w₀) cfg) {t : Task}
    {trace : (system setup).Trace} {result : Except Err (Nat × Option Nat)} {w' : World}
    (run : (system setup).Runs surroundings t (fireDueAlarms setup t.machine).run cfg.shared trace result w') :
    NoneLost setup cfg.shared trace w' ↔ Spared setup trace := by
  have inv : Revisions job cfg.shared := reach_revisions started reach
  have keyed : Keyed cfg.shared := ⟨fun id row found => (inv.rows id row found).1, inv.cached⟩
  exact pass_ensures keyed trace result w' run

/-- Servers may start on a database with alarms. -/
theorem World.Started.setAlarm {w : World} (started : w.Started) (id : TunnelId) (at_ : Option Nat) :
    (w.setDb (w.db.setAlarm id at_)).Started := by
  refine ⟨⟨?_, ?_⟩, started.machines⟩
  · intro id' row found
    rw [World.db_setDb, Db.row_setAlarm] at found
    obtain ⟨old, before, rfl⟩ := Option.map_eq_some_iff.mp found
    have good := started.db.rows id' old before
    split
    · exact good
    · exact good
  · intro id'
    have closed := started.db.closed id'
    rw [World.db_setDb]
    unfold Db.setAlarm
    split
    · exact closed
    · exact closed

/-- Two tunnels whose alarms are due. -/
def Sample.alarmed : World :=
  let stored := Sample.world (Sample.db [Sample.tunnel "2027-04-15T08:00:00.000Z",
    { Sample.tunnel "2027-04-15T08:00:00.000Z" with id := "b", hostname := "b.opentunnel.test" }])
  let first := stored.setDb (stored.db.setAlarm "a" (some 1799913600000))
  first.setDb (first.db.setAlarm "b" (some 1800000000000))

theorem Sample.alarmed_started : Sample.alarmed.Started := ((Sample.started _).setAlarm _ _).setAlarm _ _

/-- The choice under which `selectAlarms` answers both. -/
def Sample.bothDue : Choice := { alarms := [("a", 1799913600000), ("b", 1800000000000)] }

/-- The acts of a run that enter an alarm. -/
def Sample.entered {setup : Setup} (trace : (system setup).Trace) : List TunnelId :=
  trace.filterMap fun moment =>
    match moment.2 with
    | .own (.lock id) _ _ => some id
    | _ => none

theorem Sample.mem_entered {setup : Setup} {trace : (system setup).Trace} {id : TunnelId}
    (enters : trace.Any (Enters setup id)) : id ∈ Sample.entered trace := by
  obtain ⟨⟨s, label⟩, listed, holds⟩ := enters
  cases label with
  | own op choice ans =>
      cases op with
      | lock id' => exact List.mem_filterMap.mpr ⟨_, listed, congrArg some holds⟩
      | _ => exact holds.elim
  | _ => exact holds.elim

/-- The second alarm cannot be cleared: the pass ends, and the first is lost. -/
theorem cleared_alarm_lost :
    ∃ trace result w', (system (Sample.setup false)).Runs surroundings ⟨"m1", 1⟩
        (fireDueAlarms (Sample.setup false) "m1").run Sample.alarmed trace result w' ∧
      ¬ NoneLost (Sample.setup false) Sample.alarmed trace w' := by
  have performed : ((system (Sample.setup false)).perform ⟨"m1", 1⟩ (fireDueAlarms (Sample.setup false) "m1").run
      [Sample.plain, Sample.bothDue, Sample.plain, Sample.failing] Sample.alarmed).map (fun done =>
        (passTime done.1, Sample.entered done.1, done.2.2.db.alarm "a")) =
      some (some 1800000000000, [], none) := by decide
  obtain ⟨⟨trace, result, w'⟩, ran, same⟩ := Option.map_eq_some_iff.mp performed
  simp only [Prod.mk.injEq] at same
  obtain ⟨read, entered, gone⟩ := same
  refine ⟨trace, result, w', runs_of_perform ran, ?_⟩
  intro none_
  rcases none_ "a" 1799913600000 _ read (by decide) (by decide) with set | ⟨fired, -⟩
  · rw [gone] at set
    cases set
  · have listed := Sample.mem_entered fired
    rw [entered] at listed
    cases listed

/-- A pass in which nothing fails: both alarms are fired. -/
theorem no_alarm_lost_both :
    ∃ trace result w', (system (Sample.setup false)).Runs surroundings ⟨"m1", 1⟩
        (fireDueAlarms (Sample.setup false) "m1").run Sample.alarmed trace result w' ∧
      Sample.entered trace = ["a", "b"] ∧
      (NoneLost (Sample.setup false) Sample.alarmed trace w' ↔ Spared (Sample.setup false) trace) := by
  have performed : ((system (Sample.setup false)).perform ⟨"m1", 1⟩ (fireDueAlarms (Sample.setup false) "m1").run
      (Sample.plain :: Sample.bothDue :: List.replicate 30 Sample.plain) Sample.alarmed).map (fun done =>
        Sample.entered done.1) = some ["a", "b"] := by decide
  obtain ⟨⟨trace, result, w'⟩, ran, entered⟩ := Option.map_eq_some_iff.mp performed
  have run := runs_of_perform (R := surroundings) ran
  exact ⟨trace, result, w', run, entered,
    no_alarm_lost (t := ⟨"m1", 1⟩) (Sample.setup false) (fun _ => .fireDueAlarms) Sample.alarmed_started .refl run⟩

end OpenTunnel
