/-
Module: OpenTunnel.Proofs.Executions
Layer: Proofs
Purpose: Executions of one operation among the others. `others` is everything other tasks and the surroundings may do
  between two acts of a task; an entry the task holds the lock of is out of their reach. The rules below follow the
  forms in which the operations are written.
Imports: OpenTunnel.Tasks.Trace, OpenTunnel.Proofs.Frame, OpenTunnel.Model.Jobs
Trusted boundary: none (fully proved)
Main exports: others, others_entry, drifts_entry, ensures_act, ensures_attempt
Open obligations: none
-/
import OpenTunnel.Tasks.Trace
import OpenTunnel.Proofs.Frame
import OpenTunnel.Model.Jobs

namespace OpenTunnel

open Tasks Semantics

/-! ### Other tasks -/

/-- Any act of another task, on any machine, or a move of the surroundings. -/
def others (setup : Setup) (t : Task) (w w' : World) : Prop :=
  (∃ t' op c ans, t' ≠ t ∧ exec setup t' op c w = some (ans, w')) ∨ ∃ mv, move mv w = some w'

/-- Others leave an entry alone whose lock they do not hold. -/
theorem others_entry {setup : Setup} {t : Task} {w w' : World} (moved : others setup t w w') {id : TunnelId}
    (held : w.holds t id = true) : w'.entry t.machine id = w.entry t.machine id := by
  have holder : (w.entry t.machine id).holder = some t := by simpa [World.holds] using held
  rcases moved with ⟨t', op, c, ans, other, executed⟩ | ⟨mv, moved⟩
  · have stranger (here : t.machine = t'.machine) (mine : w.holds t' id = true) : False := by
      have second : (w.entry t'.machine id).holder = some t' := by simpa [World.holds] using mine
      rw [← here, holder] at second
      cases second
      exact other rfl
    cases exec_entry executed t.machine id with
    | same after => exact after
    | collected free bare after => rw [free] at holder; cases holder
    | locked here free after => rw [free] at holder; cases holder
    | unlocked _ here mine after => exact (stranger here mine).elim
    | read here mine rows after => exact (stranger here mine).elim
    | noted here mine _ _ _ _ _ after => exact (stranger here mine).elim
    | unloaded here mine after => exact (stranger here mine).elim
    | saved here mine change record revision made wrote after => exact (stranger here mine).elim
    | bridged here mine bridges after => exact (stranger here mine).elim
  · exact (move_frame moved).2 t.machine id

/-- A task keeps an entry until it unlocks it. -/
theorem holds_kept {setup : Setup} {t : Task} {op : Act} {c : Choice} {ans : op.Ans} {w w' : World}
    {id : TunnelId} (h : exec setup t op c w = some (ans, w')) (held : w.holds t id = true)
    (keeps : op ≠ .unlock id) : w'.holds t id = true := by
  have holder := World.holds_iff.mp held
  rw [World.holds_iff]
  cases exec_entry h t.machine id with
  | same after => rw [after, holder]
  | collected free _ _ => exact absurd (free.symm.trans holder) (by simp)
  | locked _ free _ => exact absurd (free.symm.trans holder) (by simp)
  | unlocked act _ _ _ => exact absurd act keeps
  | read _ _ _ after => rw [after, ← holder]
  | noted _ _ _ _ _ _ _ after => rw [after, ← holder]
  | unloaded _ _ after => rw [after, Entry.unloaded, ← holder]
  | saved _ _ _ _ _ _ _ after => rw [after, ← holder]
  | bridged _ _ _ after => rw [after, ← holder]

section Holding

variable {setup : Setup} {t : Task} {id : TunnelId}

/-- While a task holds an entry, the entry stays as it is. -/
theorem drifts_entry {w w' : World} {drift : (system setup).Trace}
    (drifts : (system setup).Drifts (others setup t) w drift w') (held : w.holds t id = true) :
    w'.holds t id = true ∧ w'.entry t.machine id = w.entry t.machine id := by
  have kept := drifts.keeps (P := fun s => s.holds t id = true ∧ s.entry t.machine id = w.entry t.machine id) ?_
    ⟨held, rfl⟩
  · exact kept
  · rintro s s' moved ⟨held, same⟩
    have after := others_entry moved held
    exact ⟨by simpa [World.holds, after] using held, after.trans same⟩

end Holding

/-! ### Rules for programs -/

section Rules

variable {setup : Setup} {R : World → World → Prop} {t : Task} {α β : Type} {w : World}
  {Q : (system setup).Trace → Except Err α → World → Prop}

/-- A call in a fallible program. -/
theorem ensures_act {op : Act} {f : op.Ans → Fallible α}
    (each : ∀ drift w₁ c ans w₂, (system setup).Drifts R w drift w₁ → exec setup t op c w₁ = some (ans, w₂) →
      (system setup).Ensures R t (f ans).run w₂ fun rest => Q (drift ++ (w₁, .own op c ans) :: rest)) :
    (system setup).Ensures R t ((liftM (act op) : Fallible op.Ans) >>= f).run w Q := by
  refine ensures_liftBind (ensures_call fun drift w₁ c ans w₂ drifts executed => ensures_ret ?_)
  refine ensures_mono (each drift w₁ c ans w₂ drifts executed) ?_
  intro rest a w' ends
  simpa using ends

/-- A part of a program whose result is looked at. -/
theorem ensures_attempt {p : Call (Except Err β)} {f : Except Err β → Fallible α}
    (first : (system setup).Ensures R t p w fun trace result mid =>
      (system setup).Ensures R t (f result).run mid fun rest => Q (trace ++ rest)) :
    (system setup).Ensures R t (attempt p >>= f).run w Q := ensures_liftBind first

end Rules

end OpenTunnel
