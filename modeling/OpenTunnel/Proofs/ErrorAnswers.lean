/-
Module: OpenTunnel.Proofs.ErrorAnswers
Layer: Proofs
Purpose: What an error answer of `create` and `remove` says about the tunnel. Both write the record, announce it and then
  clear the alarm, and `remove` closes the bridges before it writes, so an error answer may come after any of these.
  For every execution, whatever others do in between: an error answer means that nothing changed if and only if no
  statement fails at a point where something already has.
Imports: Mathlib.Data.Nat.Init, OpenTunnel.Proofs.Alarms
Trusted boundary: none (fully proved)
Main exports: Rewrites, EndsBridge, Unchanged, error_answer_unchanged
Open obligations: none
-/
import Mathlib.Data.Nat.Init
import OpenTunnel.Proofs.Alarms

namespace OpenTunnel

open Tasks Semantics

/-! ### What an act changes -/

/-- Acts of other tasks and moves of the surroundings, between states that keep rows and cached records under their own
    IDs, as every state reached does. -/
def orderly (setup : Setup) (t : Task) (w w' : World) : Prop := others setup t w w' ∧ Keyed w'

/-- The act changes what is stored of the tunnel. -/
def Rewrites (setup : Setup) (t : Task) (id : TunnelId) (w : World) : (system setup).Label → Prop
  | .own op c ans => ∃ w', exec setup t op c w = some (ans, w') ∧ w'.db.stored id ≠ w.db.stored id
  | .other => False

/-- The act closes an attached bridge of the tunnel, or ends a connection of one. -/
def EndsBridge (setup : Setup) (t : Task) (id : TunnelId) (w : World) : (system setup).Label → Prop
  | .own op c ans => ∃ w', exec setup t op c w = some (ans, w') ∧
      ∃ b ∈ (w.entry t.machine id).bridges, ∃ old new, w.bridge t.machine b = some old ∧
        w'.bridge t.machine b = some new ∧ old.isAttached = true ∧
        ((old.isClosing = false ∧ new.isClosing = true) ∨ ∃ conn ∈ old.channels, conn ∉ new.channels)
  | .other => False

/-- The execution left the stored record and the live bridges alone. -/
def Unchanged (setup : Setup) (t : Task) (id : TunnelId) (trace : (system setup).Trace) : Prop :=
  ¬ trace.Any (Rewrites setup t id) ∧ ¬ trace.Any (EndsBridge setup t id)

/-! ### Where a failure comes too late -/

/-- Clearing the alarm fails; the record is written then. -/
def AlarmFails (setup : Setup) (_ : World) : (system setup).Label → Prop
  | .own (.setAlarm ..) c _ => c.fault ≠ .none
  | _ => False

/-- The record is written and the answer is lost. -/
def SaveLost (setup : Setup) (t : Task) (id : TunnelId) (w : World) : (system setup).Label → Prop
  | .own (.save id' change) c ans => c.fault = .late ∧ Rewrites setup t id w (.own (.save id' change) c ans)
  | _ => False

/-- The record is not written, or not known to be. -/
def SaveFails (setup : Setup) (_ : World) : (system setup).Label → Prop
  | .own (.save ..) _ (.error _) => True
  | _ => False

/-- The bridges are told to close while one is attached and not closing yet, or carries connections. -/
def Interrupts (setup : Setup) (t : Task) (id : TunnelId) (w : World) : (system setup).Label → Prop
  | .own (.closeBridges id') _ _ => id' = id ∧ ∃ b ∈ (w.entry t.machine id).bridges, ∃ bridge,
      w.bridge t.machine b = some bridge ∧ bridge.isAttached = true ∧
        (bridge.isClosing = false ∨ bridge.channels ≠ [])
  | _ => False

/-- No statement fails after something has changed. -/
structure Timely (setup : Setup) (t : Task) (id : TunnelId) (trace : (system setup).Trace) : Prop where
  alarm : ¬ trace.Any (AlarmFails setup)
  lost : ¬ trace.Any (SaveLost setup t id)
  closed : ¬ (trace.Any (Interrupts setup t id) ∧ trace.Any (SaveFails setup))

/-! ### Acts that change nothing -/

section Acts

variable {setup : Setup} {t : Task} {op : Act} {c : Choice} {w w' : World} {ans : op.Ans} {id : TunnelId}

/-- Acts that only look, read or announce. -/
def Act.mild (op : Act) : Prop := op.tag ∈ [Tag.look, .read, .publish]

theorem exec_mild_stored (h : exec setup t op c w = some (ans, w')) (mild : op.mild) :
    w'.db.stored id = w.db.stored id := by
  cases exec_rows h with
  | same rows => simp [Db.stored, Db.row, rows.tunnels]
  | saved id' change record revision is held made free wrote => simp [is, Act.mild, Act.tag] at mild
  | alarm id' at_ is free wrote =>
      rcases is with is | ⟨due, is, -⟩
      · simp [is, Act.mild, Act.tag] at mild
      · simp [is, Act.mild, Act.tag] at mild
  | inserted record alarmAt is missing wrote => simp [is, Act.mild, Act.tag] at mild
  | began id' row free found wrote => rw [wrote]; rfl
  | staged record alarmAt is within wrote => simp [is, Act.mild, Act.tag] at mild
  | rolledBack id' within wrote => rw [wrote]; rfl
  | committed id' is within wrote => simp [is, Act.mild, Act.tag] at mild

/-- Acts that change no bridge: those, and saving. -/
theorem exec_bridge_same (h : exec setup t op c w = some (ans, w'))
    (quiet : op.mild ∨ (∃ id change, op = .save id change) ∨ ∃ id at_, op = .setAlarm id at_) (m : MachineId)
    (b : BridgeId) : w'.bridge m b = w.bridge m b := by
  have written {α : Type} {run : Except Err α × Db} {ans : Except Err α} (sent : w.write c run = (ans, w')) :
      w'.bridge m b = w.bridge m b := by
    have same := World.machine_write w c run m
    rw [sent] at same
    unfold World.bridge
    rw [same]
  cases op
  case save id change =>
      obtain ⟨record, held, made, -, ⟨-, -, rfl⟩ | ⟨-, -, rfl⟩ | ⟨-, -, -, rfl⟩ |
        ⟨revision, db, -, -, wrote, rfl⟩⟩ := exec_save h
      · rfl
      · rfl
      · exact World.bridge_setEntry ..
      · exact World.bridge_setEntry ..
  all_goals
    simp only [Act.mild, Act.tag, List.mem_cons, List.not_mem_nil, reduceCtorEq, or_false, false_or, or_true,
      exists_false] at quiet
  all_goals
    simp only [exec, World.onEntry] at h
    repeat' split at h
    all_goals first
      | cases h
      | exact written (Option.some.inj h)
      | exact written (World.onRow_spec h).2
    all_goals first
      | rfl
      | exact World.bridge_setEntry ..
      | exact World.bridge_setMachine _ _ _ _ rfl

/-- A save that takes effect changes what is stored. -/
theorem stored_of_saved {db db' : Db} {record : StoredTunnel} {before after : Nat} (keyed : record.id = id)
    (wrote : db.saveTunnel record before = (.ok after, db')) : db'.stored id ≠ db.stored id := by
  have new := Db.stored_saveTunnel wrote
  rw [keyed] at new
  rw [new]
  rcases Db.saveTunnel_cases db record before with conflict | ⟨_, missing, saved⟩ | ⟨row, _, found, current, saved⟩
  · rw [conflict] at wrote
    cases wrote
  · rw [keyed] at missing
    simp [Db.stored, missing]
  · rw [saved] at wrote
    obtain ⟨same, -⟩ := Prod.mk.inj wrote
    cases same
    rw [keyed] at found
    simp [Db.stored, found, current]

/-- What a save marks: it ends no bridge; it rewrites when it answers, and otherwise only when the answer is lost. -/
theorem save_marks {change : Change} {ans : Except Err Unit} (keyed : Keyed w)
    (h : exec setup t (.save id change) c w = some (ans, w')) :
    ¬ EndsBridge setup t id w (.own (.save id change) c ans) ∧
    ((ans = .ok () ∧ Rewrites setup t id w (.own (.save id change) c ans) ∧
        ¬ SaveLost setup t id w (.own (.save id change) c ans) ∧ ¬ SaveFails setup w (.own (.save id change) c ans)) ∨
      ((∃ err, ans = .error err) ∧ SaveFails setup w (.own (.save id change) c ans) ∧
        (SaveLost setup t id w (.own (.save id change) c ans) ↔
          Rewrites setup t id w (.own (.save id change) c ans)))) := by
  refine ⟨?_, ?_⟩
  · rintro ⟨w₁, h₁, b, listed, old, new, before, after, -, ends⟩
    rw [exec_bridge_same h₁ (Or.inr (Or.inl ⟨id, change, rfl⟩)), before] at after
    cases after
    rcases ends with ⟨open_, closed⟩ | ⟨conn, listed, gone⟩
    · rw [open_] at closed
      cases closed
    · exact gone listed
  · have unchanged (same : w'.db.stored id = w.db.stored id) :
        ¬ Rewrites setup t id w (.own (.save id change) c ans) := by
      rintro ⟨w₁, h₁, differs⟩
      rw [h] at h₁
      cases h₁
      exact differs same
    obtain ⟨record, held, made, free, ⟨fault, failed, after⟩ | ⟨fault, failed, after⟩ | ⟨fault, failed, -, after⟩ |
      ⟨revision, db, fault, done, wrote, after⟩⟩ := exec_save h
    · subst failed
      refine Or.inr ⟨⟨_, rfl⟩, trivial, fun lost => lost.2, fun rewrites => ?_⟩
      exact absurd rewrites (unchanged (by rw [after]))
    · subst failed
      exact Or.inr ⟨⟨_, rfl⟩, trivial, fun lost => lost.2, fun rewrites => ⟨fault, rewrites⟩⟩
    · subst failed
      refine Or.inr ⟨⟨_, rfl⟩, trivial, fun lost => lost.2, fun rewrites => ?_⟩
      exact absurd rewrites (unchanged (by rw [after]; rfl))
    · subst done
      refine Or.inl ⟨rfl, ⟨w', h, ?_⟩, ?_, fun fails => fails⟩
      · have own : record.id = id := Change.apply_id made (keyed.cached t.machine id)
        rw [after]
        exact stored_of_saved own wrote
      · rintro ⟨late, -⟩
        rw [fault] at late
        cases late

/-- Closing the bridges interrupts exactly when a bridge is attached and not closing yet or carries connections. -/
theorem close_marks {ans : Unit} (h : exec setup t (.closeBridges id) c w = some (ans, w')) :
    ¬ Rewrites setup t id w (.own (.closeBridges id) c ans) ∧
      (EndsBridge setup t id w (.own (.closeBridges id) c ans) ↔
        Interrupts setup t id w (.own (.closeBridges id) c ans)) := by
  have executed := h
  simp only [exec] at h
  obtain ⟨-, run⟩ := World.onEntry_spec h
  have after : w' = w.mapBridges t.machine (w.entry t.machine id).bridges
      fun bridge => bridge.finishChannels.close 1000 := (Prod.mk.inj run).2.symm
  refine ⟨?_, ?_, ?_⟩
  · rintro ⟨w₁, h₁, differs⟩
    rw [executed] at h₁
    cases h₁
    rw [after] at differs
    exact differs rfl
  · rintro ⟨w₁, h₁, b, listed, old, new, before, found, attached, ends⟩
    refine ⟨rfl, b, listed, old, before, attached, ?_⟩
    rcases ends with ⟨open_, -⟩ | ⟨conn, carried, -⟩
    · exact Or.inl open_
    · exact Or.inr (List.ne_nil_of_mem carried)
  · rintro ⟨-, b, listed, bridge, found, attached, open_⟩
    refine ⟨w', executed, b, listed, bridge, bridge.finishChannels.close 1000, found, ?_, attached, ?_⟩
    · rw [after, World.bridge_mapBridges, if_pos ⟨rfl, listed⟩, found]
      rfl
    · rcases open_ with open_ | carries
      · exact Or.inl ⟨open_, rfl⟩
      · obtain ⟨conn, carried⟩ := List.exists_mem_of_ne_nil _ carries
        refine Or.inr ⟨conn, carried, ?_⟩
        simp [Bridge.close, Bridge.finishChannels]

/-- Setting an alarm changes neither. -/
theorem alarm_marks {at_ : Option Nat} {ans : Except Err Unit}
    (h : exec setup t (.setAlarm id at_) c w = some (ans, w')) :
    ((∃ err, ans = .error err) ↔ AlarmFails setup w (.own (.setAlarm id at_) c ans)) := by
  simp only [exec] at h
  obtain ⟨-, sent⟩ := World.onRow_spec h
  rcases World.write_spec sent with ⟨fault, is, -⟩ | ⟨fault, is, -⟩ | ⟨fault, is, -⟩
  · simp [AlarmFails, fault, is, sure]
  · simp [AlarmFails, fault, is]
  · simp [AlarmFails, fault, is]

end Acts

/-! ### Executions -/

/-- Nothing of note happens. -/
structure Silent (setup : Setup) (t : Task) (id : TunnelId) (trace : (system setup).Trace) : Prop where
  rewrites : ¬ trace.Any (Rewrites setup t id)
  ends : ¬ trace.Any (EndsBridge setup t id)
  alarm : ¬ trace.Any (AlarmFails setup)
  lost : ¬ trace.Any (SaveLost setup t id)
  interrupts : ¬ trace.Any (Interrupts setup t id)
  fails : ¬ trace.Any (SaveFails setup)

/-- An error answer means that nothing changed, exactly when no failure comes too late. -/
def Truthful (setup : Setup) (t : Task) (id : TunnelId) {α : Type} (trace : (system setup).Trace)
    (result : Except Err α) : Prop :=
  (∀ err, result = .error err → Unchanged setup t id trace) ↔ Timely setup t id trace

/-- The record was written and answered, and then the alarm decides; or the write failed or lost its answer. -/
def Written (setup : Setup) (t : Task) (id : TunnelId) {α : Type} (trace : (system setup).Trace)
    (result : Except Err α) : Prop :=
  ¬ trace.Any (EndsBridge setup t id) ∧ ¬ trace.Any (Interrupts setup t id) ∧
    ((trace.Any (Rewrites setup t id) ∧ ¬ trace.Any (SaveLost setup t id) ∧ ¬ trace.Any (SaveFails setup) ∧
        ((∃ err, result = .error err) ↔ trace.Any (AlarmFails setup))) ∨
      ((∃ err, result = .error err) ∧ trace.Any (SaveFails setup) ∧ ¬ trace.Any (AlarmFails setup) ∧
        (trace.Any (SaveLost setup t id) ↔ trace.Any (Rewrites setup t id))))

section Executions

variable {setup : Setup} {t : Task} {id : TunnelId} {w w' : World} {α : Type} {result : Except Err α}
  {first rest : (system setup).Trace}

theorem Silent.nil : Silent setup t id [] := by
  constructor <;> exact Trace.any_nil _

theorem Silent.append (before : Silent setup t id first) (after : Silent setup t id rest) :
    Silent setup t id (first ++ rest) where
  rewrites := by simp [before.rewrites, after.rewrites]
  ends := by simp [before.ends, after.ends]
  alarm := by simp [before.alarm, after.alarm]
  lost := by simp [before.lost, after.lost]
  interrupts := by simp [before.interrupts, after.interrupts]
  fails := by simp [before.fails, after.fails]

theorem Silent.of_drifts {R : World → World → Prop} (drifts : (system setup).Drifts R w first w') :
    Silent setup t id first where
  rewrites := drifts.none fun _ holds => holds
  ends := drifts.none fun _ holds => holds
  alarm := drifts.none fun _ holds => holds
  lost := drifts.none fun _ holds => holds
  interrupts := drifts.none fun _ holds => holds
  fails := drifts.none fun _ holds => holds

theorem mild_marks (setup : Setup) (t : Task) (id : TunnelId) {op : Act} (mild : op.mild) (w : World) (c : Choice) (ans : op.Ans) :
    ¬ Rewrites setup t id w (.own op c ans) ∧ ¬ EndsBridge setup t id w (.own op c ans) ∧
      ¬ AlarmFails setup w (.own op c ans) ∧ ¬ SaveLost setup t id w (.own op c ans) ∧
      ¬ Interrupts setup t id w (.own op c ans) ∧ ¬ SaveFails setup w (.own op c ans) := by
  have rewrites : ¬ Rewrites setup t id w (.own op c ans) := by
    rintro ⟨w₁, h₁, differs⟩
    exact differs (exec_mild_stored h₁ mild)
  have ends : ¬ EndsBridge setup t id w (.own op c ans) := by
    rintro ⟨w₁, h₁, b, listed, old, new, before, after, -, ends⟩
    rw [exec_bridge_same h₁ (Or.inl mild), before] at after
    cases after
    rcases ends with ⟨open_, closed⟩ | ⟨conn, listed, gone⟩
    · rw [open_] at closed
      cases closed
    · exact gone listed
  refine ⟨rewrites, ends, ?_, ?_, ?_, ?_⟩
  all_goals cases op <;> first | (simp [Act.mild, Act.tag] at mild; done) | exact fun holds => holds

/-- A program of such acts. -/
theorem Silent.of_runs {R : World → World → Prop} {p : Call α} {a : α} (mild : Prog.All Act.mild p)
    (run : (system setup).Runs R t p w first a w') : Silent setup t id first where
  rewrites := run.none mild (fun _ holds => holds) fun s _ c ans marks mild => (mild_marks setup t id mild s c ans).1 marks
  ends := run.none mild (fun _ holds => holds) fun s _ c ans marks mild => (mild_marks setup t id mild s c ans).2.1 marks
  alarm := run.none mild (fun _ holds => holds) fun s _ c ans marks mild =>
    (mild_marks setup t id mild s c ans).2.2.1 marks
  lost := run.none mild (fun _ holds => holds) fun s _ c ans marks mild => (mild_marks setup t id mild s c ans).2.2.2.1 marks
  interrupts := run.none mild (fun _ holds => holds) fun s _ c ans marks mild =>
    (mild_marks setup t id mild s c ans).2.2.2.2.1 marks
  fails := run.none mild (fun _ holds => holds) fun s _ c ans marks mild =>
    (mild_marks setup t id mild s c ans).2.2.2.2.2 marks

theorem Truthful.between {last : (system setup).Trace} (before : Silent setup t id first)
    (after : Silent setup t id last) (answered : Truthful setup t id rest result) :
    Truthful setup t id (first ++ rest ++ last) result := by
  have unchanged : Unchanged setup t id (first ++ rest ++ last) ↔ Unchanged setup t id rest := by
    simp [Unchanged, before.rewrites, before.ends, after.rewrites, after.ends]
  have timely : Timely setup t id (first ++ rest ++ last) ↔ Timely setup t id rest := by
    constructor
    · rintro ⟨alarm, lost, closed⟩
      constructor
      · simpa [before.alarm, after.alarm] using alarm
      · simpa [before.lost, after.lost] using lost
      · simpa [before.interrupts, after.interrupts, before.fails, after.fails] using closed
    · rintro ⟨alarm, lost, closed⟩
      constructor
      · simpa [before.alarm, after.alarm] using alarm
      · simpa [before.lost, after.lost] using lost
      · simpa [before.interrupts, after.interrupts, before.fails, after.fails] using closed
  unfold Truthful at answered ⊢
  rw [timely, ← answered]
  constructor
  · intro holds err is
    exact unchanged.mp (holds err is)
  · intro holds err is
    exact unchanged.mpr (holds err is)

theorem Truthful.of_silent (silent : Silent setup t id rest) : Truthful setup t id rest result := by
  constructor
  · intro _
    exact ⟨silent.alarm, silent.lost, fun both => silent.interrupts both.1⟩
  · intro _ err _
    exact ⟨silent.rewrites, silent.ends⟩

theorem Written.after (silent : Silent setup t id first) (written : Written setup t id rest result) :
    Written setup t id (first ++ rest) result := by
  simpa [Written, silent.rewrites, silent.ends, silent.alarm, silent.lost, silent.interrupts, silent.fails]
    using written

theorem Written.answered (written : Written setup t id rest result) : Truthful setup t id rest result := by
  obtain ⟨ends, interrupts, ⟨rewrites, lost, fails, alarm⟩ | ⟨⟨err, is⟩, fails, alarm, lost⟩⟩ := written
  · constructor
    · intro unchanged
      refine ⟨?_, lost, fun both => interrupts both.1⟩
      intro late
      obtain ⟨err, is⟩ := alarm.mpr late
      exact (unchanged err is).1 rewrites
    · intro timely err is
      exact absurd (alarm.mp ⟨err, is⟩) timely.alarm
  · constructor
    · intro unchanged
      refine ⟨alarm, fun late => (unchanged err is).1 (lost.mp late), fun both => interrupts both.1⟩
    · intro timely _ _
      exact ⟨fun rewrites => timely.lost (lost.mpr rewrites), ends⟩

/-- The same after the bridges were told to close. -/
theorem Written.closed {c : Choice} {ans : Unit} (h : exec setup t (.closeBridges id) c w = some (ans, w'))
    (written : Written setup t id rest result) :
    Truthful setup t id ((w, .own (.closeBridges id) c ans) :: rest) result := by
  obtain ⟨kept, closes⟩ := close_marks h
  obtain ⟨ends, interrupts, cases_⟩ := written
  have unchanged : Unchanged setup t id ((w, .own (.closeBridges id) c ans) :: rest) ↔
      ¬ Interrupts setup t id w (.own (.closeBridges id) c ans) ∧ ¬ rest.Any (Rewrites setup t id) := by
    rw [← closes]
    simp [Unchanged, kept, ends, and_comm]
  have timely : Timely setup t id ((w, .own (.closeBridges id) c ans) :: rest) ↔
      ¬ rest.Any (AlarmFails setup) ∧ ¬ rest.Any (SaveLost setup t id) ∧
        ¬ (Interrupts setup t id w (.own (.closeBridges id) c ans) ∧ rest.Any (SaveFails setup)) := by
    constructor
    · rintro ⟨alarm, lost, closed⟩
      refine ⟨?_, ?_, ?_⟩
      · simpa [AlarmFails] using alarm
      · simpa [SaveLost] using lost
      · simpa [interrupts, SaveFails] using closed
    · rintro ⟨alarm, lost, closed⟩
      refine ⟨?_, ?_, ?_⟩
      · simpa [AlarmFails] using alarm
      · simpa [SaveLost] using lost
      · simpa [interrupts, SaveFails] using closed
  unfold Truthful
  rw [timely]
  rcases cases_ with ⟨rewrites, lost, fails, alarm⟩ | ⟨⟨err, is⟩, fails, alarm, lost⟩
  · constructor
    · intro holds
      refine ⟨?_, lost, fun both => fails both.2⟩
      intro late
      obtain ⟨err, is⟩ := alarm.mpr late
      exact (unchanged.mp (holds err is)).2 rewrites
    · rintro ⟨early, -, -⟩ err is
      exact absurd (alarm.mp ⟨err, is⟩) early
  · constructor
    · intro holds
      obtain ⟨quiet, kept⟩ := unchanged.mp (holds err is)
      exact ⟨alarm, fun late => kept (lost.mp late), fun both => quiet both.1⟩
    · rintro ⟨-, kept, quiet⟩ _ _
      exact unchanged.mpr ⟨fun closes => quiet ⟨closes, fails⟩, fun rewrites => kept (lost.mpr rewrites)⟩

/-! ### Programs -/

theorem drifts_keyed (drifts : (system setup).Drifts (orderly setup t) w first w') (keyed : Keyed w) : Keyed w' :=
  drifts.keeps (P := Keyed) (fun _ _ moved _ => moved.2) keyed

/-- Mild acts keep IDs, and nothing of note happens. -/
theorem ensures_mild {p : Call α} (mild : Prog.All Act.mild p) (keyed : Keyed w) :
    (system setup).Ensures (orderly setup t) t p w fun trace _ w' => Silent setup t id trace ∧ Keyed w' := by
  intro trace a w' run
  refine ⟨.of_runs mild run, ?_⟩
  induction run with
  | ret => exact keyed
  | other moved _ ih => exact ih mild moved.2
  | own executed _ ih =>
      have local_ := mild.1
      refine ih (mild.2 _) (exec_keyed executed ?_ keyed)
      intro imports
      rw [Act.mild, imports] at local_
      simp at local_

/-- One such act in a fallible program. -/
theorem answered_mild {op : Act} {f : op.Ans → Fallible α} (mild : op.mild) (keyed : Keyed w)
    (each : ∀ ans w₁, Keyed w₁ → (system setup).Ensures (orderly setup t) t (f ans).run w₁ fun trace result _ =>
      Truthful setup t id trace result) :
    (system setup).Ensures (orderly setup t) t ((liftM (act op) : Fallible op.Ans) >>= f).run w fun trace result _ =>
      Truthful setup t id trace result := by
  have acts : (system setup).Ensures (orderly setup t) t (act op) w fun trace _ w' =>
      Silent setup t id trace ∧ Keyed w' := ensures_mild (p := act op) ⟨mild, fun _ => trivial⟩ keyed
  refine ensures_liftBind (ensures_mono acts ?_)
  rintro first ans w₁ ⟨silent, keyed₁⟩
  refine ensures_mono (each ans w₁ keyed₁) ?_
  intro rest result w' answered
  simpa using answered.between silent .nil

theorem answered_holding {body : Fallible α} (keyed : Keyed w)
    (ensures : ∀ w, Keyed w → (system setup).Ensures (orderly setup t) t body.run w fun trace result _ =>
      Truthful setup t id trace result) :
    (system setup).Ensures (orderly setup t) t (holding id body).run w fun trace result _ =>
      Truthful setup t id trace result := by
  refine ensures_bind (ensures_mono (ensures w keyed) ?_)
  intro trace result w₁ answered
  have mild : (Act.unlock id).mild := by simp [Act.mild, Act.tag]
  refine ensures_call fun drift w₂ c ans w₃ drifts executed => ensures_ret ?_
  have silent : Silent setup t id (drift ++ [(w₂, .own (.unlock id) c ans)]) := by
    refine Silent.append (.of_drifts drifts) ?_
    obtain ⟨rewrites, ends, alarm, lost, interrupts, fails⟩ := mild_marks setup t id mild w₂ c ans
    constructor <;> simpa
  simpa using answered.between .nil silent

/-- Locking comes first and changes nothing. -/
theorem answered_locked {locks : Fallible Unit} {body : Fallible α} (uses : UsesE [.look, .read] locks)
    (keyed : Keyed w)
    (ensures : ∀ w, Keyed w → (system setup).Ensures (orderly setup t) t body.run w fun trace result _ =>
      Truthful setup t id trace result) :
    (system setup).Ensures (orderly setup t) t (locks >>= fun _ => holding id body).run w fun trace result _ =>
      Truthful setup t id trace result := by
  have mild : Prog.All Act.mild locks.run := by
    refine uses.all.mono ?_
    intro op tagged
    simp only [Act.Within, List.mem_cons, List.not_mem_nil, or_false] at tagged
    rcases tagged with tagged | tagged <;> simp [Act.mild, tagged]
  have locked : (system setup).Ensures (orderly setup t) t locks.run w fun trace _ w' =>
      Silent setup t id trace ∧ Keyed w' := ensures_mild mild keyed
  refine ensures_exceptBind (ensures_mono locked ?_)
  rintro first result w₁ ⟨silent, keyed₁⟩
  cases result with
  | error err => exact .of_silent silent
  | ok _ =>
      refine ensures_mono (answered_holding keyed₁ ensures) ?_
      intro rest result w' answered
      simpa using answered.between silent .nil

/-- The record is saved, the change announced and the alarm cleared. -/
theorem writes_ensures {change : Change} {event : Event} {a : α} (keyed : Keyed w) :
    (system setup).Ensures (orderly setup t) t (do
        fallible (act (.save id change))
        act (.publish event)
        fallible (act (.setAlarm id none))
        return a : Fallible α).run w fun trace result _ => Written setup t id trace result := by
  refine ensures_exceptBind (ensures_call fun drift w₁ c ans w₂ drifts saves => ensures_ret ?_)
  have saves : exec setup t (.save id change) c w₁ = some (ans, w₂) := saves
  have quiet : Silent setup t id drift := .of_drifts drifts
  have keyed₁ := drifts_keyed drifts keyed
  have keyed₂ : Keyed w₂ := exec_keyed saves (by simp [Act.tag]) keyed₁
  obtain ⟨ends, ⟨rfl, rewrites, lost, fails⟩ | ⟨⟨err, rfl⟩, fails, lost⟩⟩ := save_marks keyed₁ saves
  · -- the record is written: only the alarm can fail from here on
    have publishes : (system setup).Ensures (orderly setup t) t (act (.publish event)) w₂ fun trace _ w' =>
        Silent setup t id trace ∧ Keyed w' :=
      ensures_mild (p := act (.publish event)) ⟨by simp [Act.mild, Act.tag], fun _ => trivial⟩ keyed₂
    refine ensures_liftBind (ensures_mono publishes ?_)
    rintro told _ w₃ ⟨silent, keyed₃⟩
    refine ensures_exceptBind (ensures_call fun drift₄ w₄ c₄ ans₄ w₅ drifts₄ clears => ensures_ret ?_)
    have clears : exec setup t (.setAlarm id none) c₄ w₄ = some (ans₄, w₅) := clears
    have quiet₄ : Silent setup t id drift₄ := .of_drifts drifts₄
    have alarm := alarm_marks clears
    have calm : ¬ EndsBridge setup t id w₄ (.own (.setAlarm id none) c₄ ans₄) := by
      rintro ⟨w₆, h₆, b, listed, old, new, before, after, -, ends⟩
      rw [exec_bridge_same h₆ (Or.inr (Or.inr ⟨id, none, rfl⟩)), before] at after
      cases after
      rcases ends with ⟨open_, closed⟩ | ⟨conn, listed, gone⟩
      · rw [open_] at closed
        cases closed
      · exact gone listed
    have written (result : Except Err α) (answers : (∃ err, result = .error err) ↔ ∃ err, ans₄ = .error err) :
        Written setup t id (drift ++ [(w₁, .own (.save id change) c (.ok ()))] ++
          (told ++ (drift₄ ++ [(w₄, .own (.setAlarm id none) c₄ ans₄)]))) result := by
      refine ⟨?_, ?_, Or.inl ⟨?_, ?_, ?_, ?_⟩⟩
      · simp [quiet.ends, ends, silent.ends, quiet₄.ends, calm]
      · simp [quiet.interrupts, silent.interrupts, quiet₄.interrupts, Interrupts]
      · simp [rewrites]
      · simp [quiet.lost, silent.lost, quiet₄.lost, SaveLost]
        simpa [SaveLost] using lost
      · simp [quiet.fails, silent.fails, quiet₄.fails, SaveFails]
      · rw [answers, alarm]
        simp [quiet.alarm, silent.alarm, quiet₄.alarm, AlarmFails]
    cases ans₄ with
    | error err => simpa using written (.error err) (by simp)
    | ok _ => exact ensures_ret (by simpa using written (.ok a) (by simp))
  · have written : Written setup t id (drift ++ [(w₁, .own (.save id change) c (.error err))])
        (.error err : Except Err α) := by
      refine ⟨?_, ?_, Or.inr ⟨⟨err, rfl⟩, ?_, ?_, ?_⟩⟩
      · simp [quiet.ends, ends]
      · simp [quiet.interrupts, Interrupts]
      · simp [SaveFails]
      · simp [quiet.alarm, AlarmFails]
      · simp [quiet.lost, quiet.rewrites, lost]
    exact written

theorem create_answered {tokenHash : String} (keyed : Keyed w) :
    (system setup).Ensures (orderly setup t) t (create setup t.machine id tokenHash).run w fun trace result _ =>
      Truthful setup t id trace result := by
  unfold create
  refine answered_locked inferInstance keyed fun w₁ keyed₁ => ?_
  refine answered_mild (by simp [Act.mild, Act.tag]) keyed₁ fun e w₂ keyed₂ => ?_
  split
  · exact ensures_ret (.of_silent .nil)
  refine answered_mild (by simp [Act.mild, Act.tag]) keyed₂ fun now w₃ keyed₃ => ?_
  exact ensures_mono (writes_ensures keyed₃) fun _ _ _ written => written.answered

theorem remove_answered {token : String} (keyed : Keyed w) :
    (system setup).Ensures (orderly setup t) t (remove setup t.machine id token).run w fun trace result _ =>
      Truthful setup t id trace result := by
  unfold remove
  refine answered_locked inferInstance keyed fun w₁ keyed₁ => ?_
  refine answered_mild (by simp [Act.mild, Act.tag]) keyed₁ fun e w₂ keyed₂ => ?_
  split
  · exact ensures_ret (.of_silent .nil)
  split
  · exact ensures_ret (.of_silent .nil)
  refine ensures_act fun drift w₃ c ans w₄ drifts closes => ?_
  have quiet : Silent setup t id drift := .of_drifts drifts
  have keyed₄ : Keyed w₄ := exec_keyed closes (by simp [Act.tag]) (drifts_keyed drifts keyed₂)
  have clock : (system setup).Ensures (orderly setup t) t (act .now) w₄ fun trace _ w' =>
      Silent setup t id trace ∧ Keyed w' :=
    ensures_mild (p := act .now) ⟨by simp [Act.mild, Act.tag], fun _ => trivial⟩ keyed₄
  refine ensures_liftBind (ensures_mono clock ?_)
  rintro told now w₅ ⟨silent, keyed₅⟩
  refine ensures_mono (writes_ensures keyed₅) ?_
  intro rest result w' written
  have answered := (written.after silent).closed closes
  simpa using answered.between quiet .nil

end Executions

/-- In every state the servers reach, for every call of `create` and of `remove`, whatever statements fail and whatever
    others do in between: an error answer means that the call changed neither the stored record nor a live bridge, if
    and only if clearing the alarm does not fail, no write loses its answer, and no write fails after a live
    bridge was closed. -/
theorem error_answer_unchanged (setup : Setup) (job : Task → Operation) {w₀ : World} (started : w₀.Started)
    {cfg : Config Task Act Act.Ans World} (reach : (system setup).Reach (running setup job) (idle w₀) cfg) (t : Task)
    (id : TunnelId) (tokenHash token : String) :
    (∀ trace result w', (system setup).Runs (orderly setup t) t (create setup t.machine id tokenHash).run cfg.shared
        trace result w' →
      ((∀ err, result = .error err → Unchanged setup t id trace) ↔ Timely setup t id trace)) ∧
    ∀ trace result w', (system setup).Runs (orderly setup t) t (remove setup t.machine id token).run cfg.shared
        trace result w' →
      ((∀ err, result = .error err → Unchanged setup t id trace) ↔ Timely setup t id trace) := by
  have inv : Revisions job cfg.shared := reach_revisions started reach
  have keyed : Keyed cfg.shared := ⟨fun id row found => (inv.rows id row found).1, inv.cached⟩
  exact ⟨create_answered keyed, remove_answered keyed⟩

/-! ### A client that is attached -/

/-- A client of the tunnel is attached. -/
def Sample.attached : Option (Config Task Act Act.Ans World) :=
  play (running (Sample.setup true) fun _ => .session "a" [⟨"secret", ["@"], none⟩])
    (.start ⟨"m1", 1⟩ (.session "a" [⟨"secret", ["@"], none⟩]) ::
      Sample.calls _ ⟨"m1", 1⟩ (List.replicate 25 Sample.plain))
    (idle (Sample.world (Sample.db [Sample.tunnel "2027-04-15T08:00:00.000Z"])))

/-- The execution told an attached bridge to close. -/
def Sample.closesAttached {setup : Setup} (trace : (system setup).Trace) : Bool :=
  trace.any fun moment => match moment with
    | (w, .own (.closeBridges "a") _ _) =>
        (w.entry "m1" "a").bridges.any fun b => (w.bridge "m1" b).any fun bridge =>
          bridge.isAttached && !bridge.isClosing
    | _ => false

/-- `remove` in which nothing fails. -/
theorem error_answer_unchanged_removed :
    ∃ cfg trace result w', (system (Sample.setup true)).Reach
        (running (Sample.setup true) fun _ => .session "a" [⟨"secret", ["@"], none⟩])
        (idle (Sample.world (Sample.db [Sample.tunnel "2027-04-15T08:00:00.000Z"]))) cfg ∧
      (system (Sample.setup true)).Runs (orderly (Sample.setup true) ⟨"m1", 2⟩) ⟨"m1", 2⟩
        (remove (Sample.setup true) "m1" "a" "secret").run cfg.shared trace result w' ∧
      result = .ok .ok ∧
      ((∀ err, result = .error err → Unchanged (Sample.setup true) ⟨"m1", 2⟩ "a" trace) ↔
        Timely (Sample.setup true) ⟨"m1", 2⟩ "a" trace) := by
  have performed : (Sample.attached.bind fun cfg => ((system (Sample.setup true)).perform ⟨"m1", 2⟩
      (remove (Sample.setup true) "m1" "a" "secret").run (List.replicate 14 Sample.plain) cfg.shared).map
        fun done => decide (done.2.1 = .ok .ok)) = some true := by decide +kernel
  obtain ⟨cfg, played, ran⟩ := Option.bind_eq_some_iff.mp performed
  obtain ⟨⟨trace, result, w'⟩, done, answers⟩ := Option.map_eq_some_iff.mp ran
  have run := runs_of_perform (R := orderly (Sample.setup true) ⟨"m1", 2⟩) done
  have reach := reach_of_play played
  exact ⟨cfg, trace, result, w', reach, run, of_decide_eq_true answers,
    (error_answer_unchanged _ _ (Sample.started _) reach ⟨"m1", 2⟩ "a" "" "secret").2 trace result w' run⟩

/-- `remove` whose write fails: it answers an error, the record is as it was, and the attached bridge was told to
    close. -/
theorem failed_remove_closes_bridge :
    ∃ cfg trace result w', (system (Sample.setup true)).Reach
        (running (Sample.setup true) fun _ => .session "a" [⟨"secret", ["@"], none⟩])
        (idle (Sample.world (Sample.db [Sample.tunnel "2027-04-15T08:00:00.000Z"]))) cfg ∧
      (system (Sample.setup true)).Runs (orderly (Sample.setup true) ⟨"m1", 2⟩) ⟨"m1", 2⟩
        (remove (Sample.setup true) "m1" "a" "secret").run cfg.shared trace result w' ∧
      (∃ err, result = .error err) ∧ ¬ Unchanged (Sample.setup true) ⟨"m1", 2⟩ "a" trace := by
  have performed : (Sample.attached.bind fun cfg => ((system (Sample.setup true)).perform ⟨"m1", 2⟩
      (remove (Sample.setup true) "m1" "a" "secret").run
      (List.replicate 10 Sample.plain ++ [Sample.failing, Sample.plain]) cfg.shared).map
        fun done => (decide (done.2.1 = .error .unavailable), Sample.closesAttached done.1)) = some (true, true) := by
    decide +kernel
  obtain ⟨cfg, played, ran⟩ := Option.bind_eq_some_iff.mp performed
  obtain ⟨⟨trace, result, w'⟩, done, answers⟩ := Option.map_eq_some_iff.mp ran
  simp only [Prod.mk.injEq, decide_eq_true_eq] at answers
  have run := runs_of_perform (R := orderly (Sample.setup true) ⟨"m1", 2⟩) done
  refine ⟨cfg, trace, result, w', reach_of_play played, run, ⟨_, answers.1⟩, ?_⟩
  rintro ⟨-, kept⟩
  apply kept
  obtain ⟨⟨w, label⟩, listed, closes⟩ := List.any_eq_true.mp answers.2
  refine ⟨(w, label), listed, ?_⟩
  split at closes
  · rename_i w c ans is
    cases is
    obtain ⟨w₁, executed⟩ := run.executed listed
    refine (close_marks executed).2.mpr ⟨rfl, ?_⟩
    obtain ⟨b, member, open_⟩ := List.any_eq_true.mp closes
    obtain ⟨bridge, found, live⟩ := (Option.any_eq_true _ _).mp open_
    simp only [Bool.and_eq_true, Bool.not_eq_true'] at live
    exact ⟨b, member, bridge, found, live.1, Or.inl live.2⟩
  · cases closes

end OpenTunnel
