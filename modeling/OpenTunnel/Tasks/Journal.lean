/-
Module: OpenTunnel.Tasks.Journal
Layer: Tasks
Purpose: Journals of atomic steps. A step answers and changes the state; a journal is the steps in the order they took
  effect. `stateAt` is the state before a position, `stateAt_kept` the invariant rule between two positions, and
  `Answers` says what the step at a position answered.
Imports: Mathlib.Data.List.Basic
Trusted boundary: none (fully proved)
Main exports: stateAt, stateAt_succ, stateAt_kept, Answers, ordered_times
Open obligations: none
-/
import Mathlib.Data.List.Basic

namespace OpenTunnel.Tasks

variable {σ ι β : Type} {step : ι → σ → β × σ} {s : σ} {journal : List ι} {i j : Nat} {x : ι}

/-- The state in which the step at a position is made. -/
def stateAt (step : ι → σ → β × σ) (s : σ) (journal : List ι) (i : Nat) : σ :=
  (journal.take i).foldl (fun s x => (step x s).2) s

/-- The step at the position is `x`, and answers `b`. -/
def Answers (step : ι → σ → β × σ) (s : σ) (journal : List ι) (i : Nat) (x : ι) (b : β) : Prop :=
  journal[i]? = some x ∧ (step x (stateAt step s journal i)).1 = b

@[simp] theorem stateAt_zero : stateAt step s journal 0 = s := rfl

theorem stateAt_succ (found : journal[i]? = some x) :
    stateAt step s journal (i + 1) = (step x (stateAt step s journal i)).2 := by
  unfold stateAt
  rw [List.take_add_one, found, Option.toList_some, List.foldl_append]
  rfl

/-- Past the end nothing changes. -/
theorem stateAt_past (missing : journal[i]? = none) :
    stateAt step s journal (i + 1) = stateAt step s journal i := by
  unfold stateAt
  rw [List.take_add_one, missing, Option.toList_none, List.append_nil]

/-- What every step between two positions keeps holds at the second if it does at the first. -/
theorem stateAt_kept {P : σ → Prop} (later : i ≤ j) (holds : P (stateAt step s journal i))
    (keeps : ∀ k x, i ≤ k → k < j → journal[k]? = some x → P (stateAt step s journal k) →
      P (step x (stateAt step s journal k)).2) : P (stateAt step s journal j) := by
  induction later with
  | refl => exact holds
  | @step k start ih =>
      have before : P (stateAt step s journal k) := by
        apply ih
        intro k' x first last
        exact keeps k' x first (Nat.lt_succ_of_lt last)
      cases found : journal[k]? with
      | none =>
          rw [stateAt_past found]
          exact before
      | some x =>
          rw [stateAt_succ found]
          exact keeps k x start (Nat.lt_succ_self k) found before

/-- In a journal ordered by `time`, a later step is not earlier. -/
theorem ordered_times {time : ι → Nat} (ordered : journal.Pairwise fun a b => time a ≤ time b) {y : ι} (later : i ≤ j)
    (first : journal[i]? = some x) (second : journal[j]? = some y) : time x ≤ time y := by
  rcases Nat.eq_or_lt_of_le later with same | after
  · subst same
    rw [first] at second
    cases second
    exact Nat.le_refl _
  · obtain ⟨hi, rfl⟩ := List.getElem?_eq_some_iff.mp first
    obtain ⟨hj, rfl⟩ := List.getElem?_eq_some_iff.mp second
    exact List.pairwise_iff_getElem.mp ordered i j hi hj after

end OpenTunnel.Tasks
