/-
Module: OpenTunnel.Tasks.Prog
Layer: Tasks
Purpose: Programs of concurrent tasks. A task is a tree of calls: each call is one atomic act on the
  state the tasks share, and what the task does next depends on the act's answer. Between two calls
  other tasks may run, so a call is where asynchronous code awaits. `Prog` is the free monad of an
  act signature, so source functions are written in `do` notation over it. `All` says that every call
  a program can ever make satisfies a predicate, whatever the answers; it is compositional, which is
  what lets one lemma per function cover every path through its callers. `AllUnder` is the same for the paths
  whose answers are as assumed.
Imports: none (Mathlib-free)
Trusted boundary: none (fully proved)
Main exports: Prog, Prog.act, Prog.All, all_bind, all_exceptBind, Prog.AllUnder, under_bind, under_exceptBind,
  Prog.interpret, interpret_bind, all_interpret
Open obligations: none
-/

namespace OpenTunnel.Tasks

/-- A program over the acts `Op`, whose answers have the types `Ans`: it has returned, or it makes a
    call and continues with the answer. -/
inductive Prog (Op : Type) (Ans : Op → Type) (α : Type) : Type where
  | ret (a : α)
  | call (op : Op) (next : Ans op → Prog Op Ans α)

namespace Prog

variable {Op : Type} {Ans : Op → Type} {α β ε : Type}

/-- Sequencing: the second program starts where the first returns. -/
def bind (p : Prog Op Ans α) (f : α → Prog Op Ans β) : Prog Op Ans β :=
  match p with
  | .ret a => f a
  | .call op next => .call op fun ans => (next ans).bind f

instance : Monad (Prog Op Ans) where
  pure := .ret
  bind := bind

/-- A single call. -/
def act (op : Op) : Prog Op Ans (Ans op) := .call op .ret

@[simp] theorem pure_eq (a : α) : (pure a : Prog Op Ans α) = .ret a := rfl

@[simp] theorem ret_bind (a : α) (f : α → Prog Op Ans β) : (Prog.ret a >>= f) = f a := rfl

@[simp] theorem call_bind (op : Op) (next : Ans op → Prog Op Ans α) (f : α → Prog Op Ans β) :
    (Prog.call op next >>= f) = .call op fun ans => next ans >>= f := rfl

@[simp] theorem act_bind (op : Op) (f : Ans op → Prog Op Ans β) :
    (act op >>= f) = .call op f := rfl

/-- Every call `p` can make, on any path, satisfies `φ`. -/
def All (φ : Op → Prop) : Prog Op Ans α → Prop
  | .ret _ => True
  | .call op next => φ op ∧ ∀ ans, All φ (next ans)

@[simp] theorem all_ret (φ : Op → Prop) (a : α) : All φ (.ret a : Prog Op Ans α) := trivial

@[simp] theorem all_call (φ : Op → Prop) (op : Op) (next : Ans op → Prog Op Ans α) :
    All φ (.call op next) ↔ φ op ∧ ∀ ans, All φ (next ans) := Iff.rfl

@[simp] theorem all_act (φ : Op → Prop) (op : Op) :
    All φ (act op : Prog Op Ans (Ans op)) ↔ φ op := by
  simp [act]

/-- A sequence makes the calls of its first part, then those of its second part for some result. -/
theorem all_bind {φ : Op → Prop} {p : Prog Op Ans α} {f : α → Prog Op Ans β}
    (hp : All φ p) (hf : ∀ a, All φ (f a)) : All φ (p >>= f) := by
  induction p with
  | ret a => exact hf a
  | call op next ih =>
      obtain ⟨hop, hnext⟩ := hp
      exact ⟨hop, fun ans => ih ans (hnext ans)⟩

/-- The same for a fallible sequence, which stops at the first error. -/
theorem all_exceptBind {φ : Op → Prop} {p : ExceptT ε (Prog Op Ans) α}
    {f : α → ExceptT ε (Prog Op Ans) β} (hp : All φ p.run) (hf : ∀ a, All φ (f a).run) :
    All φ (p >>= f).run := by
  refine all_bind hp fun result => ?_
  cases result with
  | ok a => exact hf a
  | error e => trivial

/-- A weaker predicate holds too. -/
theorem All.mono {φ ψ : Op → Prop} (h : ∀ op, φ op → ψ op) {p : Prog Op Ans α}
    (hp : All φ p) : All ψ p := by
  induction p with
  | ret a => trivial
  | call op next ih => exact ⟨h op hp.1, fun ans => ih ans (hp.2 ans)⟩

/-- Every call `p` can make, on any path whose answers are admitted, satisfies `φ`. -/
def AllUnder (admits : (op : Op) → Ans op → Prop) (φ : Op → Prop) : Prog Op Ans α → Prop
  | .ret _ => True
  | .call op next => φ op ∧ ∀ ans, admits op ans → AllUnder admits φ (next ans)

variable {admits : (op : Op) → Ans op → Prop} {φ : Op → Prop}

theorem All.under {p : Prog Op Ans α} (all : All φ p) : AllUnder admits φ p := by
  induction p with
  | ret a => trivial
  | call op next ih => exact ⟨all.1, fun ans _ => ih ans (all.2 ans)⟩

/-- What holds of both parts holds of their sequence. -/
theorem under_bind {p : Prog Op Ans α} {f : α → Prog Op Ans β} (hp : AllUnder admits φ p)
    (hf : ∀ a, AllUnder admits φ (f a)) : AllUnder admits φ (p >>= f) := by
  induction p with
  | ret a => exact hf a
  | call op next ih => exact ⟨hp.1, fun ans admitted => ih ans (hp.2 ans admitted)⟩

/-- After a single call, the rest may use what its answer is known to be. -/
theorem under_actBind {op : Op} {f : Ans op → Prog Op Ans β} (holds : φ op)
    (rest : ∀ ans, admits op ans → AllUnder admits φ (f ans)) : AllUnder admits φ (act op >>= f) := ⟨holds, rest⟩

/-- The same of programs that may fail. -/
theorem under_exceptBind {p : ExceptT ε (Prog Op Ans) α} {f : α → ExceptT ε (Prog Op Ans) β}
    (hp : AllUnder admits φ p.run) (hf : ∀ a, AllUnder admits φ (f a).run) : AllUnder admits φ (p >>= f).run := by
  refine under_bind hp fun result => ?_
  cases result with
  | ok a => exact hf a
  | error e => trivial

theorem under_liftActBind {op : Op} {f : Ans op → ExceptT ε (Prog Op Ans) β} (holds : φ op)
    (rest : ∀ ans, admits op ans → AllUnder admits φ (f ans).run) :
    AllUnder admits φ ((liftM (act op) : ExceptT ε (Prog Op Ans) (Ans op)) >>= f).run := ⟨holds, rest⟩

/-! ### Interpretation -/

section Interpretation

variable {Op' : Type} {Ans' : Op' → Type}

/-- Every call is carried out by a program over other acts. -/
def interpret (handle : (op : Op) → Prog Op' Ans' (Ans op)) : Prog Op Ans α → Prog Op' Ans' α
  | .ret a => .ret a
  | .call op next => handle op >>= fun ans => (next ans).interpret handle

/-- Sequences associate. -/
theorem bind_assoc {γ : Type} (p : Prog Op Ans α) (f : α → Prog Op Ans β) (g : β → Prog Op Ans γ) :
    (p >>= f) >>= g = p >>= fun a => f a >>= g := by
  induction p with
  | ret a => rfl
  | call op next ih =>
      have same : (fun ans => (next ans >>= f) >>= g) = fun ans => next ans >>= fun a => f a >>= g := funext ih
      exact congrArg (Prog.call op) same

/-- A sequence is interpreted part by part. -/
theorem interpret_bind (handle : (op : Op) → Prog Op' Ans' (Ans op)) (p : Prog Op Ans α) (f : α → Prog Op Ans β) :
    (p >>= f).interpret handle = p.interpret handle >>= fun a => (f a).interpret handle := by
  induction p with
  | ret a => rfl
  | call op next ih =>
      have same : (fun ans => (next ans >>= f).interpret handle) =
          fun ans => (next ans).interpret handle >>= fun a => (f a).interpret handle := funext ih
      have inner : (Prog.call op next >>= f).interpret handle =
          handle op >>= fun ans => (next ans >>= f).interpret handle := rfl
      rw [inner, same]
      exact (bind_assoc ..).symm

theorem interpret_act (handle : (op : Op) → Prog Op' Ans' (Ans op)) (op : Op) :
    (act op).interpret handle = handle op := by
  have ends (p : Prog Op' Ans' (Ans op)) : (p >>= fun ans => .ret ans) = p := by
    induction p with
    | ret a => rfl
    | call op' next ih => exact congrArg (Prog.call op') (funext ih)
  exact ends (handle op)

/-- The calls of an interpreted program are those of the programs that carry out its calls. -/
theorem all_interpret {ψ : Op' → Prop} {handle : (op : Op) → Prog Op' Ans' (Ans op)} {p : Prog Op Ans α}
    (all : All (fun op => All ψ (handle op)) p) : All ψ (p.interpret handle) := by
  induction p with
  | ret a => trivial
  | call op next ih => exact all_bind all.1 fun ans => ih ans (all.2 ans)

end Interpretation

end Prog

end OpenTunnel.Tasks
