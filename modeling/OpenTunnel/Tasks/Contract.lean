/-
Module: OpenTunnel.Tasks.Contract
Layer: Tasks
Purpose: Rely and guarantee for systems of tasks. `Rules` names an invariant of the shared state and what each task
  may rely on of the turns of the others. `Safe t p Q w` says that task `t`, with `p` left to do in state `w`,
  keeps the invariant and what the others rely on whatever happens in between, and ends in `Q`. It composes
  along `bind`, so one lemma per function is enough, and programs whose acts are harmless one by one are safe
  without a proof of their own. `Reach.safe` puts the tasks together.
Imports: Mathlib.Logic.Relation, OpenTunnel.Tasks.System
Trusted boundary: none (fully proved)
Main exports: Rules, Rules.Drift, Rules.Safe, safe_bind, safe_exceptBind, safe_mono, safe_of_under, safe_of_all, Reach.safe_fresh,
  Reach.safe
Open obligations: none
-/
import Mathlib.Logic.Relation
import OpenTunnel.Tasks.System

namespace OpenTunnel.Tasks

open Semantics

variable {Task Op : Type} {Ans : Op → Type} {σ Job : Type}

/-- The invariant of the shared state, and what a task relies on of every turn that is not its own. -/
structure Rules (Task σ : Type) where
  inv : σ → Prop
  rely : Task → σ → σ → Prop

namespace Rules

variable {S : Semantics Task Op Ans σ Job} {α β ε : Type}

/-- The state after any number of turns of others. -/
def Drift (R : Rules Task σ) (t : Task) : σ → σ → Prop :=
  Relation.ReflTransGen fun w w' => R.inv w' ∧ R.rely t w w'

/-- A fact about the state that a task can rely on once it holds. -/
def Stable (R : Rules Task σ) (t : Task) (P : σ → Prop) : Prop :=
  ∀ w w', R.inv w' → R.rely t w w' → P w → P w'

theorem Stable.drift {R : Rules Task σ} {t : Task} {P : σ → Prop} (stable : R.Stable t P) {w w' : σ}
    (drift : R.Drift t w w') (holds : P w) : P w' := by
  induction drift with
  | refl => exact holds
  | tail _ moved ih => exact stable _ _ moved.1 moved.2 ih

theorem Stable.and {R : Rules Task σ} {t : Task} {P Q : σ → Prop} (first : R.Stable t P)
    (second : R.Stable t Q) : R.Stable t fun w => P w ∧ Q w := by
  intro w w' inv relied holds
  exact ⟨first w w' inv relied holds.1, second w w' inv relied holds.2⟩

/-- One act of a task is harmless: it keeps the invariant and what the others rely on. -/
def Harmless (R : Rules Task σ) (t : Task) (w w' : σ) : Prop :=
  R.inv w' ∧ ∀ t', t' ≠ t → R.rely t' w w'

/-- What task `t` still has to do is safe from state `w` on, and ends in `Q`. -/
def Safe (A : Assumptions S) (R : Rules Task σ) (t : Task) :
    Prog Op Ans α → (α → σ → Prop) → σ → Prop
  | .ret a, Q, w => Q a w
  | .call op next, Q, w => ∀ w₁, R.Drift t w w₁ → R.inv w₁ → ∀ c ans w₂, A.call t op c w₁ →
      S.exec t op c w₁ = some (ans, w₂) → R.Harmless t w₁ w₂ ∧ Safe A R t (next ans) Q w₂

variable {A : Assumptions S} {R : Rules Task σ} {t : Task}

theorem safe_call {op : Op} {next : Ans op → Prog Op Ans α} {Q : α → σ → Prop} {w : σ}
    (h : ∀ w₁, R.Drift t w w₁ → R.inv w₁ → ∀ c ans w₂, A.call t op c w₁ →
      S.exec t op c w₁ = some (ans, w₂) → R.Harmless t w₁ w₂ ∧ R.Safe A t (next ans) Q w₂) :
    R.Safe A t (.call op next) Q w := h

theorem safe_act {op : Op} {Q : Ans op → σ → Prop} {w : σ}
    (h : ∀ w₁, R.Drift t w w₁ → R.inv w₁ → ∀ c ans w₂, A.call t op c w₁ →
      S.exec t op c w₁ = some (ans, w₂) → R.Harmless t w₁ w₂ ∧ Q ans w₂) :
    R.Safe A t (Prog.act op) Q w := h

theorem safe_mono {p : Prog Op Ans α} {Q Q' : α → σ → Prop} {w : σ}
    (safe : R.Safe A t p Q w) (weaker : ∀ a w', Q a w' → Q' a w') : R.Safe A t p Q' w := by
  induction p generalizing w with
  | ret a => exact weaker a w safe
  | call op next ih =>
      intro w₁ drift inv c ans w₂ meets executed
      obtain ⟨harmless, later⟩ := safe w₁ drift inv c ans w₂ meets executed
      exact ⟨harmless, ih ans later⟩

/-- Sequencing: the second program is safe wherever the first one ends. -/
theorem safe_bind {p : Prog Op Ans α} {f : α → Prog Op Ans β} {Q : β → σ → Prop} {w : σ}
    (safe : R.Safe A t p (fun a w' => R.Safe A t (f a) Q w') w) : R.Safe A t (p >>= f) Q w := by
  induction p generalizing w with
  | ret a => exact safe
  | call op next ih =>
      intro w₁ drift inv c ans w₂ meets executed
      obtain ⟨harmless, later⟩ := safe w₁ drift inv c ans w₂ meets executed
      exact ⟨harmless, ih ans later⟩

/-- Sequencing of fallible programs: an error ends the whole. -/
theorem safe_exceptBind {p : ExceptT ε (Prog Op Ans) α} {f : α → ExceptT ε (Prog Op Ans) β}
    {Q : Except ε β → σ → Prop} {w : σ}
    (safe : R.Safe A t p.run (fun result w' =>
      match result with
      | .ok a => R.Safe A t (f a).run Q w'
      | .error e => Q (.error e) w') w) :
    R.Safe A t (p >>= f).run Q w := by
  refine safe_bind (safe_mono safe ?_)
  intro result w' ends
  cases result with
  | ok a => exact ends
  | error e => exact ends

theorem safe_exceptLift {p : Prog Op Ans α} {Q : Except ε α → σ → Prop} {w : σ}
    (safe : R.Safe A t p (fun a w' => Q (.ok a) w') w) :
    R.Safe A t (ExceptT.lift p : ExceptT ε (Prog Op Ans) α).run Q w := safe_bind safe

/-- A part of a fallible program that cannot fail, and what follows it. -/
theorem safe_liftBind {p : Prog Op Ans α} {f : α → ExceptT ε (Prog Op Ans) β} {Q : Except ε β → σ → Prop} {w : σ}
    (safe : R.Safe A t p (fun a w' => R.Safe A t (f a).run Q w') w) :
    R.Safe A t ((liftM p : ExceptT ε (Prog Op Ans) α) >>= f).run Q w :=
  safe_exceptBind (safe_exceptLift safe)

section Interpretation

variable {Op' : Type} {Ans' : Op' → Type} {handle : (op : Op') → Prog Op Ans (Ans' op)}

/-- Sequencing of interpreted programs. -/
theorem safe_interpretBind {p : Prog Op' Ans' α} {f : α → Prog Op' Ans' β} {Q : β → σ → Prop} {w : σ}
    (safe : R.Safe A t (p.interpret handle) (fun a w' => R.Safe A t ((f a).interpret handle) Q w') w) :
    R.Safe A t ((p >>= f).interpret handle) Q w := by
  rw [Prog.interpret_bind]
  exact safe_bind safe

theorem safe_interpretExceptBind {p : ExceptT ε (Prog Op' Ans') α} {f : α → ExceptT ε (Prog Op' Ans') β}
    {Q : Except ε β → σ → Prop} {w : σ}
    (safe : R.Safe A t (p.run.interpret handle) (fun result w' =>
      match result with
      | .ok a => R.Safe A t ((f a).run.interpret handle) Q w'
      | .error e => Q (.error e) w') w) :
    R.Safe A t ((p >>= f).run.interpret handle) Q w := by
  refine safe_interpretBind (safe_mono safe ?_)
  intro result w' ends
  cases result with
  | ok a => exact ends
  | error e => exact ends

end Interpretation

/-- Turns of others do not make a call unsafe. -/
theorem safe_drift {p : Prog Op Ans α} {w w' : σ} (safe : R.Safe A t p (fun _ _ => True) w)
    (drift : R.Drift t w w') : R.Safe A t p (fun _ _ => True) w' := by
  cases p with
  | ret a => trivial
  | call op next =>
      intro w₁ further inv c ans w₂ meets executed
      exact safe w₁ (drift.trans further) inv c ans w₂ meets executed

/-- A program is safe when each of its acts is, whatever the state, where answers are as the invariant makes them; a
    fact that the acts keep and that the task can rely on still holds at the end. -/
theorem safe_of_under {φ : Op → Prop} {admits : (op : Op) → Ans op → Prop} {P : σ → Prop} (stable : R.Stable t P)
    (free : ∀ op c w ans w', φ op → R.inv w → P w → A.call t op c w → S.exec t op c w = some (ans, w') →
      R.Harmless t w w' ∧ admits op ans ∧ P w')
    {p : Prog Op Ans α} (all : Prog.AllUnder admits φ p) {w : σ} (holds : P w) :
    R.Safe A t p (fun _ w' => P w') w := by
  induction p generalizing w with
  | ret a => exact holds
  | call op next ih =>
      intro w₁ drift inv c ans w₂ meets executed
      obtain ⟨harmless, admitted, kept⟩ :=
        free op c w₁ ans w₂ all.1 inv (stable.drift drift holds) meets executed
      exact ⟨harmless, ih ans (all.2 ans admitted) kept⟩

/-- The same where nothing is known of the answers. -/
theorem safe_of_all {φ : Op → Prop} {P : σ → Prop} (stable : R.Stable t P)
    (free : ∀ op c w ans w', φ op → R.inv w → P w → A.call t op c w → S.exec t op c w = some (ans, w') →
      R.Harmless t w w' ∧ P w')
    {p : Prog Op Ans α} (all : Prog.All φ p) {w : σ} (holds : P w) :
    R.Safe A t p (fun _ w' => P w') w := by
  refine safe_of_under stable ?_ (all.under : Prog.AllUnder (fun _ _ => True) φ p) holds
  intro op c w ans w' holds inv fact meets executed
  obtain ⟨harmless, kept⟩ := free op c w ans w' holds inv fact meets executed
  exact ⟨harmless, trivial, kept⟩

end Rules

open Rules

section Runs

variable [DecidableEq Task] {S : Semantics Task Op Ans σ Job} {A : Assumptions S} {R : Rules Task σ} {w₀ : σ}
  {cfg : Config Task Op Ans σ}

/-- Every state reached keeps the invariant, and what every task still has to do is safe. What is true of a task
    before anything runs, and stays true while only others act, may be used where it starts. -/
theorem Semantics.Reach.safe_fresh {F : Task → σ → Prop} (reach : S.Reach A (idle w₀) cfg) (init : R.inv w₀)
    (initial : ∀ t, F t w₀) (stable : ∀ t, R.Stable t (F t))
    (starts : ∀ t job w, A.start t job w → R.inv w → F t w → R.Safe A t (S.program t job) (fun _ _ => True) w)
    (moves : ∀ m w w', A.move m w → R.inv w → S.move m w = some w' →
      R.inv w' ∧ ∀ t, R.rely t w w') :
    R.inv cfg.shared ∧ (∀ t, cfg.tasks t = none → F t cfg.shared) ∧
      ∀ t p, cfg.tasks t = some p → R.Safe A t p (fun _ _ => True) cfg.shared := by
  induction reach with
  | refl => exact ⟨init, fun t _ => initial t, by simp [idle]⟩
  | tail turn _ meets taken ih =>
      obtain ⟨inv, unused, safe⟩ := ih
      rcases step_cases taken with ⟨t, job, rfl, free, rfl⟩ |
        ⟨t, c, op, next, ans, w, rfl, running, executed, rfl⟩ | ⟨m, w, rfl, moved, rfl⟩
      · refine ⟨inv, ?_, ?_⟩
        · intro t' left
          by_cases same : t' = t
          · simp [setTask, same] at left
          · simp only [setTask, same, if_false] at left
            exact unused t' left
        · intro t' p left
          by_cases same : t' = t
          · simp only [setTask, same, if_true] at left
            cases left
            exact same ▸ starts t job _ meets inv (unused t free)
          · simp only [setTask, same, if_false] at left
            exact safe t' p left
      · obtain ⟨harmless, later⟩ :=
          safe t _ running _ Relation.ReflTransGen.refl inv c ans w (meets op next running) executed
        refine ⟨harmless.1, ?_, ?_⟩
        · intro t' left
          by_cases same : t' = t
          · simp [setTask, same] at left
          · simp only [setTask, same, if_false] at left
            exact stable t' _ w harmless.1 (harmless.2 t' same) (unused t' left)
        · intro t' p left
          by_cases same : t' = t
          · simp only [setTask, same, if_true] at left
            cases left
            exact same ▸ later
          · simp only [setTask, same, if_false] at left
            -- the turn of `t` is one `t'` relies on
            exact safe_drift (safe t' p left) (.single ⟨harmless.1, harmless.2 t' same⟩)
      · obtain ⟨kept, relied⟩ := moves m _ w meets inv moved
        refine ⟨kept, ?_, ?_⟩
        · intro t' left
          exact stable t' _ w kept (relied t') (unused t' left)
        · intro t' p left
          exact safe_drift (safe t' p left) (.single ⟨kept, relied t'⟩)

/-- The same where nothing is known of a task that starts. -/
theorem Semantics.Reach.safe (reach : S.Reach A (idle w₀) cfg) (init : R.inv w₀)
    (starts : ∀ t job w, A.start t job w → R.inv w → R.Safe A t (S.program t job) (fun _ _ => True) w)
    (moves : ∀ m w w', A.move m w → R.inv w → S.move m w = some w' →
      R.inv w' ∧ ∀ t, R.rely t w w') :
    R.inv cfg.shared ∧
      ∀ t p, cfg.tasks t = some p → R.Safe A t p (fun _ _ => True) cfg.shared := by
  have all := reach.safe_fresh (F := fun _ _ => True) init (fun _ => trivial)
    (fun _ _ _ _ _ _ => trivial) (fun t job w start inv _ => starts t job w start inv) moves
  exact ⟨all.1, all.2.2⟩

end Runs

end OpenTunnel.Tasks
