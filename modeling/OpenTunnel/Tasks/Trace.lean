/-
Module: OpenTunnel.Tasks.Trace
Layer: Tasks
Purpose: One execution of one task's program, with everything that happened during it. `Runs` lets the others move the
  state by any relation before each call, and records every call, its answer and the state it found, so a
  statement about what was true at some moment of the execution is a statement about its trace. `Ensures` is
  what all executions satisfy; its rules follow the program.
Imports: OpenTunnel.Tasks.System
Trusted boundary: none (fully proved)
Main exports: Label, Trace, Runs, Trace.Any, Ensures, ensures_call, ensures_bind, ensures_exceptBind, Runs.none,
  perform, runs_of_perform
Open obligations: none
-/
import OpenTunnel.Tasks.System

namespace OpenTunnel.Tasks

namespace Semantics

variable {Task Op : Type} {Ans : Op → Type} {σ Job : Type}

/-- What happens at a moment of an execution: a call of its own with the choice made and the answer, or a move of
    others. -/
inductive Label (S : Semantics Task Op Ans σ Job) where
  | own (op : Op) (c : S.Choice) (ans : Ans op)
  | other

/-- The moments of an execution: the state found, and what happened in it. -/
abbrev Trace (S : Semantics Task Op Ans σ Job) := List (σ × S.Label)

variable (S : Semantics Task Op Ans σ Job) (R : σ → σ → Prop) (t : Task) {α β ε : Type}

/-- `p`, run by `t` from the first state with others moving by `R`, returns with this trace in the last state. -/
inductive Runs : Prog Op Ans α → σ → S.Trace → α → σ → Prop where
  | ret (a : α) (w : σ) : Runs (.ret a) w [] a w
  | other {op : Op} {next : Ans op → Prog Op Ans α} {w w₁ w' : σ} {trace : S.Trace} {a : α} :
      R w w₁ → Runs (.call op next) w₁ trace a w' → Runs (.call op next) w ((w, .other) :: trace) a w'
  | own {op : Op} {next : Ans op → Prog Op Ans α} {w w₁ w' : σ} {trace : S.Trace} {a : α} {c : S.Choice}
      {ans : Ans op} : S.exec t op c w = some (ans, w₁) → Runs (next ans) w₁ trace a w' →
      Runs (.call op next) w ((w, .own op c ans) :: trace) a w'

/-- Others move from one state to the other. -/
inductive Drifts : σ → S.Trace → σ → Prop where
  | refl (w : σ) : Drifts w [] w
  | other {w w₁ w' : σ} {trace : S.Trace} : R w w₁ → Drifts w₁ trace w' → Drifts w ((w, .other) :: trace) w'

/-- Every execution of `p` from `w` ends as `Q` says. -/
def Ensures (p : Prog Op Ans α) (w : σ) (Q : S.Trace → α → σ → Prop) : Prop :=
  ∀ trace a w', S.Runs R t p w trace a w' → Q trace a w'

variable {S R t}

/-- A fact the others keep. -/
theorem Drifts.keeps {P : σ → Prop} (stable : ∀ w w', R w w' → P w → P w') {w w' : σ} {trace : S.Trace}
    (drifts : S.Drifts R w trace w') (holds : P w) : P w' := by
  induction drifts with
  | refl => exact holds
  | other moved _ ih => exact ih (stable _ _ moved holds)

theorem Drifts.others {w w' : σ} {trace : S.Trace} (drifts : S.Drifts R w trace w') :
    ∀ moment ∈ trace, moment.2 = .other := by
  induction drifts with
  | refl => simp
  | other _ _ ih =>
      intro moment listed
      rcases List.mem_cons.mp listed with rfl | later
      · rfl
      · exact ih moment later

theorem runs_call {op : Op} {next : Ans op → Prog Op Ans α} {w w' : σ} {trace : S.Trace} {a : α}
    (run : S.Runs R t (.call op next) w trace a w') :
    ∃ drift w₁ c ans w₂ rest, S.Drifts R w drift w₁ ∧ S.exec t op c w₁ = some (ans, w₂) ∧
      S.Runs R t (next ans) w₂ rest a w' ∧ trace = drift ++ (w₁, .own op c ans) :: rest := by
  generalize called : Prog.call op next = p at run
  induction run with
  | ret => cases called
  | @other _ _ w w₁ _ _ _ moved _ ih =>
      obtain ⟨drift, w₂, c, ans, w₃, rest, drifts, executed, later, rfl⟩ := ih called
      exact ⟨(w, .other) :: drift, w₂, c, ans, w₃, rest, .other moved drifts, executed, later, rfl⟩
  | own executed later ih =>
      cases called
      exact ⟨[], _, _, _, _, _, .refl _, executed, later, rfl⟩

/-- Others may move before a call. -/
theorem Drifts.before {op : Op} {next : Ans op → Prog Op Ans α} {w w₁ w' : σ} {drift trace : S.Trace} {a : α}
    (drifts : S.Drifts R w drift w₁) (run : S.Runs R t (.call op next) w₁ trace a w') :
    S.Runs R t (.call op next) w (drift ++ trace) a w' := by
  induction drifts with
  | refl => exact run
  | other moved _ ih => exact .other moved (ih run)

theorem runs_bind {p : Prog Op Ans α} {f : α → Prog Op Ans β} {w w' : σ} {trace : S.Trace} {b : β}
    (run : S.Runs R t (p >>= f) w trace b w') :
    ∃ first a mid rest, S.Runs R t p w first a mid ∧ S.Runs R t (f a) mid rest b w' ∧
      trace = first ++ rest := by
  induction p generalizing w trace with
  | ret a => exact ⟨[], a, w, trace, .ret a w, run, rfl⟩
  | call op next ih =>
      obtain ⟨drift, w₁, c, ans, w₂, later, drifts, executed, ran, rfl⟩ := runs_call run
      obtain ⟨first, a, mid, rest, before, after, rfl⟩ := ih ans ran
      refine ⟨drift ++ (w₁, .own op c ans) :: first, a, mid, rest, ?_, after, by simp⟩
      exact drifts.before (.own executed before)

/-- What holds of every call a program can make holds of every call it made. -/
theorem Runs.all {φ : Op → Prop} {p : Prog Op Ans α} (all : Prog.All φ p) {w w' : σ} {trace : S.Trace} {a : α}
    (run : S.Runs R t p w trace a w') {s : σ} {op : Op} {c : S.Choice} {ans : Ans op}
    (called : (s, Label.own op c ans) ∈ trace) : φ op := by
  induction run with
  | ret => cases called
  | other _ _ ih =>
      rcases List.mem_cons.mp called with same | later
      · cases same
      · exact ih all later
  | own _ _ ih =>
      rcases List.mem_cons.mp called with same | later
      · cases same
        exact all.1
      · exact ih (all.2 _) later

/-- Every call of an execution was enabled where it was made. -/
theorem Runs.executed {p : Prog Op Ans α} {w w' : σ} {trace : S.Trace} {a : α} (run : S.Runs R t p w trace a w')
    {s : σ} {op : Op} {c : S.Choice} {ans : Ans op} (called : (s, Label.own op c ans) ∈ trace) :
    ∃ s', S.exec t op c s = some (ans, s') := by
  induction run with
  | ret => cases called
  | other _ _ ih =>
      rcases List.mem_cons.mp called with same | later
      · cases same
      · exact ih later
  | own executed _ ih =>
      rcases List.mem_cons.mp called with same | later
      · cases same
        exact ⟨_, executed⟩
      · exact ih later

/-! ### What happened -/

/-- At some moment of the trace `φ` holds of the state found and of what happened. -/
def Trace.Any (φ : σ → S.Label → Prop) (trace : S.Trace) : Prop := ∃ moment ∈ trace, φ moment.1 moment.2

@[simp] theorem Trace.any_nil (φ : σ → S.Label → Prop) : ¬ Trace.Any φ ([] : S.Trace) := by
  simp [Trace.Any]

@[simp] theorem Trace.any_cons (φ : σ → S.Label → Prop) (w : σ) (label : S.Label) (rest : S.Trace) :
    Trace.Any φ ((w, label) :: rest) ↔ φ w label ∨ Trace.Any φ rest := by
  simp [Trace.Any]

@[simp] theorem Trace.any_append (φ : σ → S.Label → Prop) (first rest : S.Trace) :
    Trace.Any φ (first ++ rest) ↔ Trace.Any φ first ∨ Trace.Any φ rest := by
  simp only [Trace.Any, List.mem_append]
  constructor
  · rintro ⟨moment, listed | listed, holds⟩
    · exact Or.inl ⟨moment, listed, holds⟩
    · exact Or.inr ⟨moment, listed, holds⟩
  · rintro (⟨moment, listed, holds⟩ | ⟨moment, listed, holds⟩)
    · exact ⟨moment, Or.inl listed, holds⟩
    · exact ⟨moment, Or.inr listed, holds⟩

/-- Nothing of the task's own happens while others move. -/
theorem Drifts.none {φ : σ → S.Label → Prop} (owned : ∀ w, ¬ φ w .other) {w w' : σ} {drift : S.Trace}
    (drifts : S.Drifts R w drift w') : ¬ Trace.Any φ drift := by
  rintro ⟨moment, listed, holds⟩
  rw [drifts.others moment listed] at holds
  exact owned _ holds

/-- A call that a program never makes is in none of its traces. -/
theorem Runs.none {φ : Op → Prop} {p : Prog Op Ans α} (all : Prog.All φ p) {ψ : σ → S.Label → Prop}
    (owned : ∀ w, ¬ ψ w .other) (called : ∀ w op c ans, ψ w (.own op c ans) → ¬ φ op) {w w' : σ}
    {trace : S.Trace} {a : α} (run : S.Runs R t p w trace a w') : ¬ Trace.Any ψ trace := by
  rintro ⟨⟨s, label⟩, listed, holds⟩
  cases label with
  | own op c ans => exact called s op c ans holds (run.all all listed)
  | other => exact owned s holds

/-! ### Rules -/

theorem ensures_ret {a : α} {w : σ} {Q : S.Trace → α → σ → Prop} (holds : Q [] a w) :
    S.Ensures R t (.ret a) w Q := by
  intro trace b w' run
  cases run
  exact holds

theorem ensures_call {op : Op} {next : Ans op → Prog Op Ans α} {w : σ} {Q : S.Trace → α → σ → Prop}
    (each : ∀ drift w₁ c ans w₂, S.Drifts R w drift w₁ → S.exec t op c w₁ = some (ans, w₂) →
      S.Ensures R t (next ans) w₂ fun rest => Q (drift ++ (w₁, .own op c ans) :: rest)) :
    S.Ensures R t (.call op next) w Q := by
  intro trace a w' run
  obtain ⟨drift, w₁, c, ans, w₂, rest, drifts, executed, later, rfl⟩ := runs_call run
  exact each drift w₁ c ans w₂ drifts executed rest a w' later

theorem ensures_bind {p : Prog Op Ans α} {f : α → Prog Op Ans β} {w : σ} {Q : S.Trace → β → σ → Prop}
    (first : S.Ensures R t p w fun trace a mid => S.Ensures R t (f a) mid fun rest => Q (trace ++ rest)) :
    S.Ensures R t (p >>= f) w Q := by
  intro trace b w' run
  obtain ⟨before, a, mid, rest, ran, later, rfl⟩ := runs_bind run
  exact first before a mid ran rest b w' later

theorem ensures_mono {p : Prog Op Ans α} {w : σ} {Q Q' : S.Trace → α → σ → Prop} (ensures : S.Ensures R t p w Q)
    (weaker : ∀ trace a w', Q trace a w' → Q' trace a w') : S.Ensures R t p w Q' :=
  fun trace a w' run => weaker trace a w' (ensures trace a w' run)

theorem ensures_and {p : Prog Op Ans α} {w : σ} {Q Q' : S.Trace → α → σ → Prop} (first : S.Ensures R t p w Q)
    (second : S.Ensures R t p w Q') : S.Ensures R t p w fun trace a w' => Q trace a w' ∧ Q' trace a w' :=
  fun trace a w' run => ⟨first trace a w' run, second trace a w' run⟩

/-- A fallible sequence ends at the first error. -/
theorem ensures_exceptBind {p : ExceptT ε (Prog Op Ans) α} {f : α → ExceptT ε (Prog Op Ans) β} {w : σ}
    {Q : S.Trace → Except ε β → σ → Prop}
    (first : S.Ensures R t p.run w fun trace result mid =>
      match result with
      | .ok a => S.Ensures R t (f a).run mid fun rest => Q (trace ++ rest)
      | .error e => Q trace (.error e) mid) :
    S.Ensures R t (p >>= f).run w Q := by
  refine ensures_bind (ensures_mono first ?_)
  intro trace result mid ends
  cases result with
  | ok a => exact ends
  | error e => exact ensures_ret (by simpa using ends)

theorem ensures_lift {p : Prog Op Ans α} {w : σ} {Q : S.Trace → Except ε α → σ → Prop}
    (ensures : S.Ensures R t p w fun trace a w' => Q trace (.ok a) w') :
    S.Ensures R t (ExceptT.lift p : ExceptT ε (Prog Op Ans) α).run w Q := by
  refine ensures_bind (ensures_mono ensures ?_)
  intro trace a w' ends
  exact ensures_ret (by simpa using ends)

theorem ensures_liftBind {p : Prog Op Ans α} {f : α → ExceptT ε (Prog Op Ans) β} {w : σ}
    {Q : S.Trace → Except ε β → σ → Prop}
    (first : S.Ensures R t p w fun trace a mid => S.Ensures R t (f a).run mid fun rest => Q (trace ++ rest)) :
    S.Ensures R t ((liftM p : ExceptT ε (Prog Op Ans) α) >>= f).run w Q :=
  ensures_exceptBind (ensures_lift first)

/-! ### Executions by computation -/

/-- Runs a program alone, with these choices. -/
def perform (S : Semantics Task Op Ans σ Job) (t : Task) :
    Prog Op Ans α → List S.Choice → σ → Option (S.Trace × α × σ)
  | .ret a, _, w => some ([], a, w)
  | .call _ _, [], _ => none
  | .call op next, c :: choices, w =>
      match S.exec t op c w with
      | some (ans, w₁) =>
          (perform S t (next ans) choices w₁).map fun done => ((w, .own op c ans) :: done.1, done.2)
      | none => none

theorem runs_of_perform {p : Prog Op Ans α} {choices : List S.Choice} {w w' : σ} {trace : S.Trace} {a : α}
    (performed : S.perform t p choices w = some (trace, a, w')) : S.Runs R t p w trace a w' := by
  induction p generalizing choices w trace with
  | ret b =>
      cases performed
      exact .ret _ _
  | call op next ih =>
      cases choices with
      | nil => cases performed
      | cons c choices =>
          rw [perform] at performed
          split at performed
          · rename_i ans w₁ executed
            obtain ⟨⟨rest, b, last⟩, later, same⟩ := Option.map_eq_some_iff.mp performed
            cases same
            exact .own executed (ih ans later)
          · cases performed

end Semantics

end OpenTunnel.Tasks
