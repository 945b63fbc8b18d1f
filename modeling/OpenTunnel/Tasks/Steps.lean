/-
Module: OpenTunnel.Tasks.Steps
Layer: Tasks
Purpose: Runs of a machine that is given by one partial step function over its events. A condition says which events may
  happen where; what every step under the condition keeps, every run keeps. In a run that goes on for ever, what is
  kept until an event comes holds when it comes.
Imports: (none)
Trusted boundary: none (fully proved)
Main exports: Stepped, Stepped.invariant, Stepped.trans, playSteps, stepped_of_play, Played, Played.invariant, Endless,
  endless_runOf, awaited
Open obligations: none
-/

namespace OpenTunnel.Tasks

variable {σ ε : Type}

/-- The states that events meeting `C` lead to. -/
inductive Stepped (step : ε → σ → Option σ) (C : ε → σ → Prop) (s₀ : σ) : σ → Prop where
  | start : Stepped step C s₀ s₀
  | step {s s' : σ} (e : ε) : Stepped step C s₀ s → C e s → step e s = some s' → Stepped step C s₀ s'

variable {step : ε → σ → Option σ} {C : ε → σ → Prop} {s₀ s₁ s : σ}

/-- What holds initially and is kept by every step that meets the condition holds of what is reached. -/
theorem Stepped.invariant {I : σ → Prop} (reached : Stepped step C s₀ s) (init : I s₀)
    (keeps : ∀ e s s', C e s → I s → step e s = some s' → I s') : I s := by
  induction reached with
  | start => exact init
  | step e _ meets taken ih => exact keeps e _ _ meets ih taken

theorem Stepped.trans (first : Stepped step C s₀ s₁) (second : Stepped step C s₁ s) : Stepped step C s₀ s := by
  induction second with
  | start => exact first
  | step e _ meets taken ih => exact ih.step e meets taken

theorem Stepped.one (e : ε) (meets : C e s₀) (taken : step e s₀ = some s) : Stepped step C s₀ s :=
  .step e .start meets taken

/-- Takes the events in order, as long as each one meets the condition. -/
def playSteps (step : ε → σ → Option σ) (C : ε → σ → Prop) [∀ e s, Decidable (C e s)] : List ε → σ → Option σ
  | [], s => some s
  | e :: rest, s => if C e s then (step e s).bind (playSteps step C rest) else none

/-- A list of events that was played is a run. -/
theorem stepped_of_play [∀ e s, Decidable (C e s)] {events : List ε} (played : playSteps step C events s₀ = some s) :
    Stepped step C s₀ s := by
  induction events generalizing s₀ with
  | nil =>
      cases played
      exact .start
  | cons e rest ih =>
      rw [playSteps] at played
      split at played
      · rename_i meets
        obtain ⟨mid, taken, later⟩ := Option.bind_eq_some_iff.mp played
        exact (Stepped.one e meets taken).trans (ih later)
      · cases played

/-- The state that a list of events leads to, each of them meeting `C` where it is taken. -/
inductive Played (step : ε → σ → Option σ) (C : ε → σ → Prop) (s₀ : σ) : List ε → σ → Prop where
  | start : Played step C s₀ [] s₀
  | step {events : List ε} {s s' : σ} (e : ε) : Played step C s₀ events s → C e s → step e s = some s' →
      Played step C s₀ (events ++ [e]) s'

variable {events : List ε}

theorem Played.stepped (played : Played step C s₀ events s) : Stepped step C s₀ s := by
  induction played with
  | start => exact .start
  | step e _ meets taken ih => exact ih.step e meets taken

/-- The same with the events so far. -/
theorem Played.invariant {I : List ε → σ → Prop} (played : Played step C s₀ events s) (init : I [] s₀)
    (keeps : ∀ e events s s', Played step C s₀ events s → C e s → I events s → step e s = some s' →
      I (events ++ [e]) s') : I events s := by
  induction played with
  | start => exact init
  | step e before meets taken ih => exact keeps e _ _ _ before meets ih taken

/-- A run may begin one event earlier. -/
theorem Played.cons {e : ε} (meets : C e s₀) (taken : step e s₀ = some s₁) (later : Played step C s₁ events s) :
    Played step C s₀ (e :: events) s := by
  induction later with
  | start => exact Played.step e .start meets taken
  | step e' _ meets' taken' ih => exact Played.step e' ih meets' taken'

theorem played_of_play [∀ e s, Decidable (C e s)] (played : playSteps step C events s₀ = some s) :
    Played step C s₀ events s := by
  induction events generalizing s₀ with
  | nil =>
      cases played
      exact .start
  | cons e rest ih =>
      rw [playSteps] at played
      split at played
      · rename_i meets
        obtain ⟨mid, taken, later⟩ := Option.bind_eq_some_iff.mp played
        exact .cons meets taken (ih later)
      · cases played

/-! ### Endless runs -/

/-- A run that goes on for ever, with the event taken at each time. -/
structure Endless (step : ε → σ → Option σ) (run : Nat → σ) (events : Nat → ε) : Prop where
  next : ∀ t, step (events t) (run t) = some (run (t + 1))

variable {run : Nat → σ} {events : Nat → ε}

/-- An endless run reaches each of its states. -/
theorem Endless.stepped (endless : Endless step run events) (t : Nat) :
    Stepped step (fun _ _ => True) (run 0) (run t) := by
  induction t with
  | zero => exact .start
  | succ t ih => exact ih.step (events t) trivial (endless.next t)

/-- The states that the events lead to; one that cannot be taken is passed over. -/
def runOf (step : ε → σ → Option σ) (events : Nat → ε) (s₀ : σ) : Nat → σ
  | 0 => s₀
  | t + 1 => (step (events t) (runOf step events s₀ t)).getD (runOf step events s₀ t)

/-- A schedule that is never stuck makes an endless run. -/
theorem endless_runOf (can : ∀ t, (step (events t) (runOf step events s₀ t)).isSome = true) :
    Endless step (runOf step events s₀) events where
  next := by
    intro t
    obtain ⟨s, is⟩ := Option.isSome_iff_exists.mp (can t)
    rw [is, runOf, is]
    rfl

/-- What holds now, and goes over into `Q` or is kept by every event that is not awaited, holds when the awaited event
    comes, unless `Q` came first. -/
theorem awaited {P Q : σ → Prop} {T : ε → Prop} {t : Nat} (holds : P (run t)) (comes : ∃ t', t ≤ t' ∧ T (events t'))
    (kept : ∀ t, ¬ T (events t) → P (run t) → P (run (t + 1)) ∨ Q (run (t + 1))) :
    (∃ t', t ≤ t' ∧ P (run t') ∧ T (events t')) ∨ ∃ t', t ≤ t' ∧ Q (run t') := by
  obtain ⟨t', later, awaits⟩ := comes
  obtain ⟨wait, rfl⟩ := Nat.exists_eq_add_of_le later
  clear later
  induction wait generalizing t with
  | zero => exact Or.inl ⟨t, Nat.le_refl _, holds, awaits⟩
  | succ wait ih =>
      rcases Classical.em (T (events t)) with now | notNow
      · exact Or.inl ⟨t, Nat.le_refl _, holds, now⟩
      · rcases kept t notNow holds with still | reached
        · have shifted : t + (wait + 1) = t + 1 + wait := by omega
          rw [shifted] at awaits
          rcases ih still awaits with ⟨t', later, rest⟩ | ⟨t', later, rest⟩
          · exact Or.inl ⟨t', by omega, rest⟩
          · exact Or.inr ⟨t', by omega, rest⟩
        · exact Or.inr ⟨t + 1, by omega, reached⟩

end OpenTunnel.Tasks
