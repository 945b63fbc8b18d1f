/-
Module: OpenTunnel.Proofs.Records
Layer: Proofs
Purpose: Properties of every record the servers hold: in the database, cached on a machine, or staged by an import. A
  step keeps such a property when what it saves and imports has it. What the acts of an import are.
Imports: OpenTunnel.Proofs.Footprint, OpenTunnel.Proofs.Revisions
Trusted boundary: none (fully proved)
Main exports: World.Each, World.Each.step, World.Each.move, World.Started.each, importFile_obeys
Open obligations: none
-/
import OpenTunnel.Proofs.Footprint
import OpenTunnel.Proofs.Revisions

namespace OpenTunnel

open Tasks

/-- Every record the servers hold of a tunnel satisfies `P`. -/
structure World.Each (w : World) (P : TunnelId → StoredTunnel → Prop) : Prop where
  rows : ∀ id row, w.db.row id = some row → P id row.record
  cached : ∀ m id record, (w.entry m id).record = some record → P id record
  staged : ∀ id open_ row, w.db.transactions.get id = some open_ → open_.staged = some row → P id row.record

/-- What an act writes satisfies `P`: the record a save builds, and an imported one. -/
structure Act.Writes (P : TunnelId → StoredTunnel → Prop) (t : Task) (w : World) (op : Act) : Prop where
  saves : ∀ id change record, op = .save id change → change.apply id (w.entry t.machine id).record = some record →
    P id record
  inserts : ∀ record alarmAt, op = .importInsert record alarmAt → P record.id record
  updates : ∀ record alarmAt, op = .importUpdate record alarmAt → P record.id record

section Steps

variable {P : TunnelId → StoredTunnel → Prop} {setup : Setup} {t : Task} {op : Act} {c : Choice} {w w' : World}
  {ans : op.Ans}

theorem World.Each.rows_step (each : w.Each P) (keyed : ∀ id record, P id record → record.id = id)
    (writes : op.Writes P t w) (h : exec setup t op c w = some (ans, w')) :
    (∀ id row, w'.db.row id = some row → P id row.record) ∧
      ∀ id open_ row, w'.db.transactions.get id = some open_ → open_.staged = some row → P id row.record := by
  cases exec_rows h with
  | same rows =>
      unfold Db.row
      rw [rows.tunnels, rows.transactions]
      exact ⟨each.rows, each.staged⟩
  | saved id change record revision is held made free wrote =>
      have good : P id record := writes.saves id change record is made
      rcases Db.saveTunnel_cases w.db record (w.entry t.machine id).revision with
        conflict | ⟨_, _, saved⟩ | ⟨old, _, _, _, saved⟩
      · rw [conflict] at wrote
        cases wrote
      all_goals
        rw [saved] at wrote
        rw [← (Prod.mk.inj wrote).2]
        refine ⟨?_, each.staged⟩
        intro id' row found
        rw [Db.row_putRow] at found
        split at found
        · rename_i here
          cases found
          rw [here, keyed id record good]
          exact good
        · exact each.rows id' row found
  | alarm id at_ is free wrote =>
      rw [wrote]
      constructor
      · intro id' row found
        rw [Db.row_setAlarm, Option.map_eq_some_iff] at found
        obtain ⟨old, found', is⟩ := found
        have good := each.rows id' old found'
        rw [← is]
        split <;> exact good
      · unfold Db.setAlarm
        split <;> exact each.staged
  | inserted record alarmAt is missing wrote =>
      rw [wrote]
      refine ⟨?_, each.staged⟩
      intro id row found
      rw [Db.row_putRow] at found
      split at found
      · rename_i here
        cases found
        rw [here]
        exact writes.inserts record alarmAt is
      · exact each.rows id row found
  | began id row free found wrote =>
      rw [wrote]
      refine ⟨each.rows, ?_⟩
      intro id' open_ staged found' is
      simp only [Db.begin, Table.get_put] at found'
      split at found'
      · cases found'
        cases is
      · exact each.staged id' open_ staged found' is
  | staged record alarmAt is within wrote =>
      rw [wrote]
      unfold Db.stage
      split
      · refine ⟨each.rows, ?_⟩
        intro id' open_ staged found' is'
        simp only [Table.get_put] at found'
        split at found'
        · rename_i here
          cases found'
          cases is'
          rw [here]
          exact writes.updates record alarmAt is
        · exact each.staged id' open_ staged found' is'
      · exact ⟨each.rows, each.staged⟩
  | rolledBack id within wrote =>
      rw [wrote]
      refine ⟨each.rows, ?_⟩
      intro id' open_ staged found' is
      exact each.staged id' open_ staged (Db.transactions_rollback found').2 is
  | committed id is within wrote =>
      rw [wrote]
      constructor
      · intro id' row found
        unfold Db.commit at found
        split at found
        · rename_i update staged
          obtain ⟨open_, within', updates⟩ := Option.bind_eq_some_iff.mp staged
          have found : (w.db.putRow id update).row id' = some row := found
          rw [Db.row_putRow] at found
          split at found
          · rename_i here
            cases found
            rw [here]
            exact each.staged id open_ row within' updates
          · exact each.rows id' row found
        · exact each.rows id' row found
      · intro id' open_ staged found' is
        exact each.staged id' open_ staged (Db.transactions_commit found').2 is

theorem World.Each.step (each : w.Each P) (keyed : ∀ id record, P id record → record.id = id)
    (writes : op.Writes P t w) (h : exec setup t op c w = some (ans, w')) : w'.Each P := by
  obtain ⟨rows, staged⟩ := each.rows_step keyed writes h
  refine ⟨rows, ?_, staged⟩
  intro m id record found
  have stored {id : TunnelId} {record : StoredTunnel} {revision : Nat}
      (is : w'.db.stored id = (some record, revision)) : P id record := by
    unfold Db.stored at is
    split at is
    · rename_i row found
      cases is
      exact rows id row found
    · cases is
  cases exec_entry h m id with
  | same after =>
      rw [after] at found
      exact each.cached m id record found
  | collected free bare after =>
      rw [after] at found
      cases found
  | locked here free after =>
      rw [after] at found
      exact each.cached m id record found
  | unlocked _ here held after =>
      rw [after] at found
      exact each.cached m id record found
  | read here held same after =>
      rw [after, ← same] at found
      exact stored (Prod.ext found rfl)
  | noted here held _ _ _ _ _ after =>
      rw [after] at found
      exact each.cached m id record found
  | unloaded here held after =>
      rw [after] at found
      cases found
  | saved here held change saved revision made wrote after =>
      rw [after] at found
      cases found
      have own : record.id = id :=
        Change.apply_id made fun r cached => keyed id r (each.cached m id r cached)
      rw [← own]
      exact stored (Db.stored_saveTunnel wrote)
  | bridged here held bridges after =>
      rw [after] at found
      exact each.cached m id record found

theorem World.Each.move {mv : Move} (each : w.Each P) (h : OpenTunnel.move mv w = some w') : w'.Each P := by
  obtain ⟨rows, entries⟩ := move_frame h
  refine ⟨?_, ?_, ?_⟩
  · rw [rows]
    exact each.rows
  · intro m id
    rw [entries]
    exact each.cached m id
  · rw [rows]
    exact each.staged

/-- Servers that start on a database hold what is in it. -/
theorem World.Started.each {w : World} (started : w.Started)
    (rows : ∀ id row, w.db.row id = some row → P id row.record) : w.Each P where
  rows := rows
  cached := by
    intro m id record found
    simp [started.cold m id] at found
  staged := by
    intro id open_ row found
    rw [started.db.closed id] at found
    cases found

end Steps

/-! ### Imports -/

/-- What an import asks of a property of acts: it holds of the writes of records that passed the check, and of acts
    that write none. -/
structure ImportsObey (setup : Setup) (φ : Act → Prop) : Prop where
  inserts : ∀ record alarmAt, checkImport setup.externals record setup.domain = .ok () → φ (.importInsert record alarmAt)
  updates : ∀ record alarmAt, checkImport setup.externals record setup.domain = .ok () → φ (.importUpdate record alarmAt)
  selects : ∀ id, φ (.importSelect id)
  commits : ∀ id, φ (.importCommit id)
  forgets : ∀ op : Act, op.Within [.look, .unload] → φ op

section Imports

variable {setup : Setup} {φ : Act → Prop}

theorem importTunnel_obeys {record : StoredTunnel} {alarmAt : Option Nat} {force : Bool} (obey : ImportsObey setup φ)
    (checked : checkImport setup.externals record setup.domain = .ok ()) (attempts : Nat) :
    ObeysE φ (importTunnel record alarmAt force attempts) := by
  have inserts : Obeys φ (act (.importInsert record alarmAt)) := obeys_act (obey.inserts record alarmAt checked)
  have updates : Obeys φ (act (.importUpdate record alarmAt)) := obeys_act (obey.updates record alarmAt checked)
  have selects : Obeys φ (act (.importSelect record.id)) := obeys_act (obey.selects record.id)
  have commits : Obeys φ (act (.importCommit record.id)) := obeys_act (obey.commits record.id)
  have tries : ObeysE φ (tryImport record alarmAt force) := by
    unfold tryImport
    exact .of_rules
  induction attempts with
  | zero => exact tries
  | succ attempts ih =>
      unfold importTunnel
      apply obeysE_bind (obeysE_attempt (obeys_run tries))
      intro result
      split
      · exact ih
      · exact obeysE_mk (obeys_pure _)

theorem importFile_obeys (obey : ImportsObey setup φ) (force : Bool) (records : List ExportedRecord) :
    Obeys φ (importFile setup force records) := by
  have imports : ObeysE φ (importRecords setup force records) := by
    induction records with
    | nil => exact obeysE_pure _
    | cons entry rest ih =>
        unfold importRecords
        split
        · exact ih
        · split
          · exact ih
          · rename_i record _ checked
            apply obeysE_bind (importTunnel_obeys obey checked 5)
            intro _
            apply obeysE_bind ih
            intro _
            exact obeysE_pure _
  unfold importFile
  apply obeys_bind (obeys_run imports)
  intro result
  split
  · rename_i ids
    have forgets : Uses [.look, .unload] (ids.forM invalidate) := obeys_forM fun _ => inferInstance
    exact ⟨forgets.all.mono obey.forgets⟩
  · exact obeys_pure ()

end Imports

end OpenTunnel
