/-
Module: OpenTunnel.Tasks.Discipline
Layer: Tasks
Purpose: Disciplines of programs. A discipline is an automaton over a task's own calls and their answers that says
  which call may come next (a lock before what it guards, a value only where it was answered). A program that
  follows it on every path follows it in every run, so an invariant may use at each call what the discipline
  allows there.
Imports: OpenTunnel.Tasks.Prog, OpenTunnel.Tasks.System
Trusted boundary: none (fully proved)
Main exports: Discipline, Prog.Follows, follows_bind, follows_of_all, Path, path_along, Path.allowed,
  Reach.followed, Reach.disciplined
Open obligations: none
-/
import OpenTunnel.Tasks.Prog
import OpenTunnel.Tasks.System

namespace OpenTunnel.Tasks

/-- What a task may call next, by what it called before and was answered. -/
structure Discipline (Op : Type) (Ans : Op → Type) (Q : Type) where
  start : Q
  next : Q → (op : Op) → Ans op → Q
  allows : Q → Op → Prop

variable {Task Op : Type} {Ans : Op → Type} {σ Job Q α β ε : Type} {D : Discipline Op Ans Q}

namespace Prog

/-- Every call of the program is allowed where it is made, and it ends as `post` says. -/
def Follows (D : Discipline Op Ans Q) (post : α → Q → Prop) : Q → Prog Op Ans α → Prop
  | q, .ret a => post a q
  | q, .call op next => D.allows q op ∧ ∀ ans, Follows D post (D.next q op ans) (next ans)

theorem follows_mono {p : Prog Op Ans α} {post post' : α → Q → Prop} {q : Q} (follows : Follows D post q p)
    (weaker : ∀ a q, post a q → post' a q) : Follows D post' q p := by
  induction p generalizing q with
  | ret a => exact weaker a q follows
  | call op next ih =>
      obtain ⟨allowed, later⟩ := follows
      exact ⟨allowed, fun ans => ih ans (later ans)⟩

/-- One program after the other. -/
theorem follows_bind {p : Prog Op Ans α} {f : α → Prog Op Ans β} {post : β → Q → Prop} {q : Q}
    (first : Follows D (fun a q' => Follows D post q' (f a)) q p) : Follows D post q (p >>= f) := by
  induction p generalizing q with
  | ret a => exact first
  | call op next ih =>
      obtain ⟨allowed, later⟩ := first
      exact ⟨allowed, fun ans => ih ans (later ans)⟩

/-- The same for a fallible sequence, which stops at the first error. -/
theorem follows_exceptBind {p : ExceptT ε (Prog Op Ans) α} {f : α → ExceptT ε (Prog Op Ans) β}
    {post : Except ε β → Q → Prop} {q : Q}
    (first : Follows D (fun result q' =>
      match result with
      | .ok a => Follows D post q' (f a).run
      | .error e => post (.error e) q') q p.run) : Follows D post q (p >>= f).run := by
  refine follows_bind (follows_mono first ?_)
  intro result q' ends
  cases result with
  | ok a => exact ends
  | error e => exact ends

/-- A program of calls that are allowed wherever `I` holds, and that keep it. -/
theorem follows_of_all {φ : Op → Prop} {I : Q → Prop} {p : Prog Op Ans α} (all : All φ p)
    (allowed : ∀ q op, φ op → I q → D.allows q op) (kept : ∀ q op ans, φ op → I q → I (D.next q op ans)) {q : Q}
    (holds : I q) : Follows D (fun _ q' => I q') q p := by
  induction p generalizing q with
  | ret a => exact holds
  | call op next ih =>
      obtain ⟨first, later⟩ := all
      exact ⟨allowed q op first holds, fun ans => ih ans (later ans) (kept q op ans first holds)⟩

/-- Calls that the program can make from its start, in order, with their answers. -/
inductive Path : Prog Op Ans α → List ((op : Op) × Ans op) → Prop where
  | nil (p : Prog Op Ans α) : Path p []
  | call {op : Op} {next : Ans op → Prog Op Ans α} {rest : List ((op : Op) × Ans op)} (ans : Ans op) :
      Path (next ans) rest → Path (.call op next) (⟨op, ans⟩ :: rest)

/-- The first calls of the program when each is answered by the function given. -/
def along (answer : (op : Op) → Ans op) : Nat → Prog Op Ans α → List ((op : Op) × Ans op)
  | 0, _ => []
  | _, .ret _ => []
  | n + 1, .call op next => ⟨op, answer op⟩ :: along answer n (next (answer op))

theorem path_along (answer : (op : Op) → Ans op) (n : Nat) (p : Prog Op Ans α) : Path p (along answer n p) := by
  induction n generalizing p with
  | zero => exact .nil p
  | succ n ih =>
      cases p with
      | ret a => exact .nil _
      | call op next => exact .call (answer op) (ih (next (answer op)))

/-- Along a path, every call is allowed after those before it. -/
theorem Path.allowed {p : Prog Op Ans α} {post : α → Q → Prop} {q : Q} {calls before after : List ((op : Op) × Ans op)}
    {op : Op} {ans : Ans op} (path : Path p calls) (follows : Follows D post q p)
    (split : calls = before ++ ⟨op, ans⟩ :: after) :
    D.allows (before.foldl (fun q made => D.next q made.1 made.2) q) op := by
  induction path generalizing q before with
  | nil p => simp at split
  | call ans' _ ih =>
      cases before with
      | nil =>
          cases split
          exact follows.1
      | cons made before =>
          obtain ⟨rfl, rfl⟩ := List.cons.inj split
          have later := ih (follows.2 ans') rfl
          exact later

end Prog

open Prog

variable [DecidableEq Task] {S : Semantics Task Op Ans σ Job}

/-- Where the state agrees with how far each task is in a discipline that every program follows from where its task
    starts, an invariant has to be kept only by the calls the discipline allows, and every task goes on to follow it. -/
theorem Semantics.Reach.followed {A : Assumptions S} {J : σ → Prop} {w₀ : σ} {cfg : Config Task Op Ans σ}
    (reach : S.Reach A (idle w₀) cfg) (D : Discipline Op Ans Q) (starts : Task → Q) (post : Unit → Q → Prop)
    (agrees : σ → Task → Q → Prop)
    (tracks : ∀ t op c w ans w', S.exec t op c w = some (ans, w') →
      ∀ t' q, agrees w t' q → agrees w' t' (if t' = t then D.next q op ans else q))
    (rests : ∀ m w w', S.move m w = some w' → ∀ t q, agrees w t q → agrees w' t q)
    (programs : ∀ t job w, A.start t job w → Follows D post (starts t) (S.program t job))
    (init : J w₀) (fresh : ∀ t, agrees w₀ t (starts t))
    (keeps : ∀ t op c w ans w' q, A.call t op c w → agrees w t q → D.allows q op → J w →
      S.exec t op c w = some (ans, w') → J w')
    (moves : ∀ m w w', A.move m w → J w → S.move m w = some w' → J w') :
    J cfg.shared ∧ ∀ t p, cfg.tasks t = some p → ∃ q, agrees cfg.shared t q ∧ Follows D post q p := by
  have all : J cfg.shared ∧ (∀ t, cfg.tasks t = none → agrees cfg.shared t (starts t)) ∧
      ∀ t p, cfg.tasks t = some p → ∃ q, agrees cfg.shared t q ∧ Follows D post q p := by
    induction reach with
    | refl => exact ⟨init, fun t _ => fresh t, by simp [idle]⟩
    | tail turn _ meets taken ih =>
        obtain ⟨holds, unused, follows⟩ := ih
        rcases step_cases taken with ⟨t, job, rfl, free, rfl⟩ |
          ⟨t, c, op, next, ans, w, rfl, running, executed, rfl⟩ | ⟨m, w, rfl, moved, rfl⟩
        · refine ⟨holds, ?_, ?_⟩
          · intro t' left
            by_cases same : t' = t
            · simp [setTask, same] at left
            · simp only [setTask, same, if_false] at left
              exact unused t' left
          · intro t' p left
            by_cases same : t' = t
            · simp only [setTask, same, if_true] at left
              cases left
              rw [same]
              exact ⟨starts t, unused t free, programs t job _ meets⟩
            · simp only [setTask, same, if_false] at left
              exact follows t' p left
        · obtain ⟨q, agree, allowed, later⟩ := follows t _ running
          have after := tracks t op c _ ans w executed
          refine ⟨keeps t op c _ ans w q (meets op next running) agree allowed holds executed, ?_, ?_⟩
          · intro t' left
            by_cases same : t' = t
            · simp [setTask, same] at left
            · simp only [setTask, same, if_false] at left
              have stays := after t' (starts t') (unused t' left)
              rwa [if_neg same] at stays
          · intro t' p left
            by_cases same : t' = t
            · simp only [setTask, same, if_true] at left
              cases left
              rw [same]
              have next := after t q agree
              rw [if_pos rfl] at next
              exact ⟨_, next, later ans⟩
            · simp only [setTask, same, if_false] at left
              obtain ⟨q', agree', goes⟩ := follows t' p left
              have stays := after t' q' agree'
              rw [if_neg same] at stays
              exact ⟨q', stays, goes⟩
        · refine ⟨moves m _ w meets holds moved, fun t left => rests m _ w moved t _ (unused t left), ?_⟩
          intro t p left
          obtain ⟨q, agree, goes⟩ := follows t p left
          exact ⟨q, rests m _ w moved t q agree, goes⟩
  exact ⟨all.1, all.2.2⟩

/-- The same where the state shows how far each task is. -/
theorem Semantics.Reach.disciplined {A : Assumptions S} {J : σ → Prop} {w₀ : σ} {cfg : Config Task Op Ans σ}
    (reach : S.Reach A (idle w₀) cfg) (D : Discipline Op Ans Q) (starts : Task → Q) (at_ : σ → Task → Q)
    (tracks : ∀ t op c w ans w', S.exec t op c w = some (ans, w') →
      ∀ t', at_ w' t' = if t' = t then D.next (at_ w t) op ans else at_ w t')
    (rests : ∀ m w w', S.move m w = some w' → at_ w' = at_ w)
    (programs : ∀ t job w, A.start t job w → Follows D (fun _ _ => True) (starts t) (S.program t job))
    (init : J w₀) (fresh : ∀ t, at_ w₀ t = starts t)
    (keeps : ∀ t op c w ans w', A.call t op c w → D.allows (at_ w t) op → J w →
      S.exec t op c w = some (ans, w') → J w')
    (moves : ∀ m w w', A.move m w → J w → S.move m w = some w' → J w') :
    J cfg.shared := by
  refine (reach.followed D starts (fun _ _ => True) (fun w t q => at_ w t = q) ?_ ?_ programs init fresh ?_ moves).1
  · intro t op c w ans w' executed t' q is
    rw [tracks t op c w ans w' executed t']
    by_cases same : t' = t
    · rw [if_pos same, if_pos same, ← is, same]
    · rw [if_neg same, if_neg same, is]
  · intro m w w' moved t q is
    rw [rests m w w' moved, is]
  · intro t op c w ans w' q assumed is allowed
    rw [← is] at allowed
    exact keeps t op c w ans w' assumed allowed

end OpenTunnel.Tasks
