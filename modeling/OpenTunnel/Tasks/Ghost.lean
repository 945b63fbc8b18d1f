/-
Module: OpenTunnel.Tasks.Ghost
Layer: Tasks
Purpose: History variables. A statement about what happened before (an import that has written and not yet been
  followed up, an alarm that was taken) needs state the system does not have. `withGhost` adds a variable that
  every call and move updates and none reads, so the runs are the same: `Reach.erase` forgets it, and
  `Reach.record` adds it to any run.
Imports: OpenTunnel.Tasks.System
Trusted boundary: none (fully proved)
Main exports: Ghost, Semantics.withGhost, Assumptions.withGhost, Reach.erase, Reach.record, Reach.mono
Open obligations: none
-/
import OpenTunnel.Tasks.System

namespace OpenTunnel.Tasks

variable {Task Op : Type} {Ans : Op → Type} {σ Job γ : Type}

/-- How a history variable follows the calls and moves of a system, each with the state before and after. -/
structure Ghost (S : Semantics Task Op Ans σ Job) (γ : Type) where
  call : Task → (op : Op) → Ans op → σ → σ → γ → γ
  move : S.Move → σ → σ → γ → γ := fun _ _ _ history => history

/-- A configuration without its history. -/
def Config.erase (cfg : Config Task Op Ans (σ × γ)) : Config Task Op Ans σ :=
  { shared := cfg.shared.1, tasks := cfg.tasks }

namespace Semantics

/-- The system with a history variable. -/
def withGhost (S : Semantics Task Op Ans σ Job) (G : Ghost S γ) : Semantics Task Op Ans (σ × γ) Job where
  Choice := S.Choice
  Move := S.Move
  exec := fun t op c s =>
    (S.exec t op c s.1).map fun done => (done.1, (done.2, G.call t op done.1 s.1 done.2 s.2))
  move := fun m s => (S.move m s.1).map fun w => (w, G.move m s.1 w s.2)
  program := S.program

/-- Assumptions that do not mention the history. -/
def Assumptions.withGhost {S : Semantics Task Op Ans σ Job} (A : Assumptions S) (G : Ghost S γ) :
    Assumptions (S.withGhost G) where
  start := fun t job s => A.start t job s.1
  call := fun t op c s => A.call t op c s.1
  move := fun m s => A.move m s.1

section Runs

variable {S : Semantics Task Op Ans σ Job} {G : Ghost S γ} {A : Assumptions S}

theorem withGhost_exec {t : Task} {op : Op} {c : S.Choice} {s s' : σ × γ} {ans : Ans op} :
    (S.withGhost G).exec t op c s = some (ans, s') ↔
      S.exec t op c s.1 = some (ans, s'.1) ∧ s'.2 = G.call t op ans s.1 s'.1 s.2 := by
  simp only [withGhost, Option.map_eq_some_iff, Prod.mk.injEq, Prod.exists]
  constructor
  · rintro ⟨ans', w', ran, rfl, rfl⟩
    exact ⟨ran, rfl⟩
  · rintro ⟨ran, history⟩
    exact ⟨ans, s'.1, ran, rfl, Prod.ext rfl history.symm⟩

theorem withGhost_move {m : S.Move} {s s' : σ × γ} :
    (S.withGhost G).move m s = some s' ↔
      S.move m s.1 = some s'.1 ∧ s'.2 = G.move m s.1 s'.1 s.2 := by
  simp only [withGhost, Option.map_eq_some_iff]
  constructor
  · rintro ⟨w', ran, rfl⟩
    exact ⟨ran, rfl⟩
  · rintro ⟨ran, history⟩
    exact ⟨s'.1, ran, Prod.ext rfl history.symm⟩

variable [DecidableEq Task]

/-- Weaker assumptions allow the same runs. -/
theorem Reach.mono {A B : Assumptions S} {from₀ cfg : Config Task Op Ans σ}
    (reach : S.Reach A from₀ cfg) (weaker : ∀ turn cfg, A.Meets turn cfg → B.Meets turn cfg) :
    S.Reach B from₀ cfg := by
  induction reach with
  | refl => exact .refl
  | tail turn _ meets taken ih => exact ih.tail turn (weaker turn _ meets) taken

theorem Reach.left {A B : Assumptions S} {from₀ cfg : Config Task Op Ans σ}
    (reach : S.Reach (A.and B) from₀ cfg) : S.Reach A from₀ cfg := by
  refine reach.mono ?_
  intro turn cfg meets
  cases turn with
  | start t job => exact meets.1
  | call t c => exact fun op next running => (meets op next running).1
  | move m => exact meets.1

theorem Reach.right {A B : Assumptions S} {from₀ cfg : Config Task Op Ans σ}
    (reach : S.Reach (A.and B) from₀ cfg) : S.Reach B from₀ cfg := by
  refine reach.mono ?_
  intro turn cfg meets
  cases turn with
  | start t job => exact meets.2
  | call t c => exact fun op next running => (meets op next running).2
  | move m => exact meets.2

instance [check : A.Checkable] : (A.withGhost G).Checkable where
  start := fun t job s => check.start t job s.1
  call := fun t op c s => check.call t op c s.1
  move := fun m s => check.move m s.1

/-- Without its history a run is a run of the system. -/
theorem Reach.erase {from₀ cfg : Config Task Op Ans (σ × γ)}
    (reach : (S.withGhost G).Reach (A.withGhost G) from₀ cfg) : S.Reach A from₀.erase cfg.erase := by
  induction reach with
  | refl => exact .refl
  | @tail mid cfg' turn _ meets taken ih =>
      rcases step_cases taken with ⟨t, job, rfl, free, rfl⟩ |
        ⟨t, c, op, next, ans, s, rfl, running, executed, rfl⟩ | ⟨m, s, rfl, moved, rfl⟩
      · refine ih.tail (.start t job) meets ?_
        simp only [step, Config.erase, free]
        rfl
      · refine ih.tail (.call t c) meets ?_
        obtain ⟨ran, -⟩ := withGhost_exec.mp executed
        simp only [step, Config.erase, running, ran]
      · refine ih.tail (.move m) meets ?_
        obtain ⟨ran, -⟩ := withGhost_move.mp moved
        simp only [step, Config.erase, ran, Option.map_some]

/-- Every run has a history. -/
theorem Reach.record {w₀ : σ} {cfg : Config Task Op Ans σ} (reach : S.Reach A (idle w₀) cfg) (history : γ) :
    ∃ final, (S.withGhost G).Reach (A.withGhost G) (idle (w₀, history))
      { shared := (cfg.shared, final), tasks := cfg.tasks } := by
  induction reach with
  | refl => exact ⟨history, .refl⟩
  | @tail mid _ turn _ meets taken ih =>
      obtain ⟨before, ran⟩ := ih
      rcases step_cases taken with ⟨t, job, rfl, free, rfl⟩ |
        ⟨t, c, op, next, ans, w, rfl, running, executed, rfl⟩ | ⟨m, w, rfl, moved, rfl⟩
      · refine ⟨before, ran.tail (.start t job) meets ?_⟩
        simp only [step, free]
        rfl
      · refine ⟨G.call t op ans mid.shared w before, ran.tail (.call t c) meets ?_⟩
        have ghosted : (S.withGhost G).exec t op c (mid.shared, before) =
            some (ans, (w, G.call t op ans mid.shared w before)) := withGhost_exec.mpr ⟨executed, rfl⟩
        simp only [step, running, ghosted]
      · refine ⟨G.move m mid.shared w before, ran.tail (.move m) meets ?_⟩
        have ghosted : (S.withGhost G).move m (mid.shared, before) =
            some (w, G.move m mid.shared w before) := withGhost_move.mpr ⟨moved, rfl⟩
        simp only [step, ghosted, Option.map_some]

end Runs

end Semantics

end OpenTunnel.Tasks
