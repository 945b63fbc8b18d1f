/-
Module: OpenTunnel.Tasks.System
Layer: Tasks
Purpose: The interleaving semantics of a system of tasks. A `Semantics` says what each act does to the
  shared state (under a choice the scheduler makes: a fault, a random text, an answer from outside), how
  the surroundings may move it, and which program a job runs. A configuration is the shared state and what
  every task still has to do; one turn starts a job, lets one task make its next call, or moves the
  surroundings. `Reach` is reachability by turns that meet an `Assumptions`, so a statement about every run
  of a kind is a statement about `Reach`. `Reach.shared_inv` is the invariant rule for state that every
  act keeps by itself; `play` runs a schedule and checks the assumptions, so a concrete run is a computation.
Imports: OpenTunnel.Tasks.Prog
Trusted boundary: none (fully proved)
Main exports: Semantics, Config, Turn, Semantics.step, Assumptions, Semantics.Reach, Reach.shared_inv,
  Assumptions.Checkable, Semantics.play, reach_of_play
Open obligations: none
-/
import OpenTunnel.Tasks.Prog

namespace OpenTunnel.Tasks

/-- What the tasks' acts mean. `exec` is partial: an act that is not enabled under a choice (a lock that is
    taken) has no result, and the task waits. -/
structure Semantics (Task Op : Type) (Ans : Op → Type) (σ Job : Type) where
  Choice : Type
  Move : Type
  exec : Task → (op : Op) → Choice → σ → Option (Ans op × σ)
  move : Move → σ → Option σ
  program : Task → Job → Prog Op Ans Unit

/-- The shared state, and what each task that was started still has to do. -/
structure Config (Task Op : Type) (Ans : Op → Type) (σ : Type) where
  shared : σ
  tasks : Task → Option (Prog Op Ans Unit)

namespace Semantics

variable {Task Op : Type} {Ans : Op → Type} {σ Job : Type}

/-- One turn of the scheduler. -/
inductive Turn (S : Semantics Task Op Ans σ Job) where
  | start (t : Task) (job : Job)
  | call (t : Task) (c : S.Choice)
  | move (m : S.Move)

/-- Nothing runs yet. -/
def idle (w : σ) : Config Task Op Ans σ := { shared := w, tasks := fun _ => none }

variable [DecidableEq Task] (S : Semantics Task Op Ans σ Job)

/-- The task's remaining program is replaced. -/
def setTask (tasks : Task → Option (Prog Op Ans Unit)) (t : Task) (p : Prog Op Ans Unit) :
    Task → Option (Prog Op Ans Unit) :=
  fun t' => if t' = t then some p else tasks t'

/-- The effect of a turn, when it is enabled. -/
def step : S.Turn → Config Task Op Ans σ → Option (Config Task Op Ans σ)
  | .start t job, cfg =>
      match cfg.tasks t with
      | none => some { cfg with tasks := setTask cfg.tasks t (S.program t job) }
      | some _ => none
  | .call t c, cfg =>
      match cfg.tasks t with
      | some (.call op next) =>
          match S.exec t op c cfg.shared with
          | some (ans, w) => some { shared := w, tasks := setTask cfg.tasks t (next ans) }
          | none => none
      | _ => none
  | .move m, cfg => (S.move m cfg.shared).map fun w => { cfg with shared := w }

/-- What is assumed of the turns of a run. -/
structure Assumptions (S : Semantics Task Op Ans σ Job) where
  start : Task → Job → σ → Prop := fun _ _ _ => True
  call : Task → Op → S.Choice → σ → Prop := fun _ _ _ _ => True
  move : S.Move → σ → Prop := fun _ _ => True

/-- The assumptions hold of a turn taken in a configuration. -/
def Assumptions.Meets {S : Semantics Task Op Ans σ Job} (A : Assumptions S) :
    S.Turn → Config Task Op Ans σ → Prop
  | .start t job, cfg => A.start t job cfg.shared
  | .call t c, cfg => ∀ op next, cfg.tasks t = some (.call op next) → A.call t op c cfg.shared
  | .move m, cfg => A.move m cfg.shared

/-- `cfg` is reached from `from₀` by turns that meet `A`. -/
inductive Reach (A : Assumptions S) (from₀ : Config Task Op Ans σ) :
    Config Task Op Ans σ → Prop where
  | refl : Reach A from₀ from₀
  | tail {cfg cfg' : Config Task Op Ans σ} (turn : S.Turn) :
      Reach A from₀ cfg → A.Meets turn cfg → S.step turn cfg = some cfg' → Reach A from₀ cfg'

variable {S}

/-- What a turn does: a job is started and nothing else changes, a task makes its next call, or the
    surroundings move and no task does. -/
theorem step_cases {turn : S.Turn} {cfg cfg' : Config Task Op Ans σ}
    (h : S.step turn cfg = some cfg') :
    (∃ t job, turn = .start t job ∧ cfg.tasks t = none ∧
      cfg' = { cfg with tasks := setTask cfg.tasks t (S.program t job) }) ∨
    (∃ t c op next ans w, turn = .call t c ∧ cfg.tasks t = some (.call op next) ∧
      S.exec t op c cfg.shared = some (ans, w) ∧
      cfg' = { shared := w, tasks := setTask cfg.tasks t (next ans) }) ∨
    (∃ m w, turn = .move m ∧ S.move m cfg.shared = some w ∧ cfg' = { cfg with shared := w }) := by
  cases turn with
  | start t job =>
      simp only [step] at h
      split at h
      · rename_i free
        exact Or.inl ⟨t, job, rfl, free, (Option.some.inj h).symm⟩
      · cases h
  | call t c =>
      simp only [step] at h
      split at h
      · rename_i op next running
        split at h
        · rename_i ans w executed
          exact Or.inr (Or.inl ⟨t, c, op, next, ans, w, rfl, running, executed,
            (Option.some.inj h).symm⟩)
        · cases h
      · cases h
  | move m =>
      simp only [step] at h
      cases moved : S.move m cfg.shared with
      | none => simp [moved] at h
      | some w =>
          rw [moved] at h
          exact Or.inr (Or.inr ⟨m, w, rfl, moved, (Option.some.inj h).symm⟩)

/-- An invariant of the shared state that every assumed act and every assumed move keeps holds in every
    state reached, whatever the programs are. What is known of every state reached may be used. -/
theorem Reach.shared_inv {A : Assumptions S} {J K : σ → Prop} {from₀ cfg : Config Task Op Ans σ}
    (reach : S.Reach A from₀ cfg) (known : ∀ cfg, S.Reach A from₀ cfg → K cfg.shared) (init : J from₀.shared)
    (keeps : ∀ t op c w ans w', A.call t op c w → K w → J w → S.exec t op c w = some (ans, w') → J w')
    (moves : ∀ m w w', A.move m w → J w → S.move m w = some w' → J w') :
    J cfg.shared := by
  induction reach with
  | refl => exact init
  | tail turn before meets taken ih =>
      rcases step_cases taken with ⟨t, job, rfl, _, rfl⟩ | ⟨t, c, op, next, ans, w, rfl, running, executed, rfl⟩ |
        ⟨m, w, rfl, moved, rfl⟩
      · exact ih
      · exact keeps t op c _ ans w (meets op next running) (known _ before) ih executed
      · exact moves m _ w meets ih moved

/-- Assumptions that can be checked where a turn is taken. -/
class Assumptions.Checkable (A : Assumptions S) where
  start : ∀ t job w, Decidable (A.start t job w)
  call : ∀ t op c w, Decidable (A.call t op c w)
  move : ∀ m w, Decidable (A.move m w)

instance Assumptions.Meets.decidable (A : Assumptions S) [check : A.Checkable] (turn : S.Turn)
    (cfg : Config Task Op Ans σ) : Decidable (A.Meets turn cfg) :=
  match turn with
  | .start t job => check.start t job cfg.shared
  | .move m => check.move m cfg.shared
  | .call t c =>
      match found : cfg.tasks t with
      | some (.call op next) =>
          have := check.call t op c cfg.shared
          decidable_of_iff (A.call t op c cfg.shared) <| by
            constructor
            · intro assumed op' next' found'
              rw [found] at found'
              cases found'
              exact assumed
            · intro meets
              exact meets op next found
      | some (.ret a) => isTrue fun op next found' => by
          rw [found] at found'
          cases found'
      | none => isTrue fun op next found' => by
          rw [found] at found'
          cases found'

/-- Two assumptions at once. -/
def Assumptions.and (A B : Assumptions S) : Assumptions S where
  start := fun t job w => A.start t job w ∧ B.start t job w
  call := fun t op c w => A.call t op c w ∧ B.call t op c w
  move := fun m w => A.move m w ∧ B.move m w

instance (A B : Assumptions S) [first : A.Checkable] [second : B.Checkable] : (A.and B).Checkable where
  start := fun t job w => @instDecidableAnd _ _ (first.start t job w) (second.start t job w)
  call := fun t op c w => @instDecidableAnd _ _ (first.call t op c w) (second.call t op c w)
  move := fun m w => @instDecidableAnd _ _ (first.move m w) (second.move m w)

/-- Runs a schedule: every turn of it in order, as long as each meets the assumptions. -/
def play (A : Assumptions S) [A.Checkable] :
    List S.Turn → Config Task Op Ans σ → Option (Config Task Op Ans σ)
  | [], cfg => some cfg
  | turn :: rest, cfg => if A.Meets turn cfg then (S.step turn cfg).bind (play A rest) else none

theorem Reach.trans {A : Assumptions S} {a b c : Config Task Op Ans σ}
    (hab : S.Reach A a b) (hbc : S.Reach A b c) : S.Reach A a c := by
  induction hbc with
  | refl => exact hab
  | tail turn _ meets taken ih => exact ih.tail turn meets taken

/-- A schedule that plays through reaches its last configuration. -/
theorem reach_of_play {A : Assumptions S} [A.Checkable] {turns : List S.Turn} {cfg cfg' : Config Task Op Ans σ}
    (played : play A turns cfg = some cfg') : S.Reach A cfg cfg' := by
  induction turns generalizing cfg with
  | nil =>
      cases played
      exact Reach.refl
  | cons turn rest ih =>
      rw [play] at played
      split at played
      · rename_i meets
        rw [Option.bind_eq_some_iff] at played
        obtain ⟨mid, taken, later⟩ := played
        exact (Reach.tail turn Reach.refl meets taken).trans (ih later)
      · cases played

end Semantics

end OpenTunnel.Tasks
