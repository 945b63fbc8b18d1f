/-
Module: OpenTunnel.Tasks.Sequential
Layer: Tasks
Purpose: A program run by one process alone. Every call changes the state as a relation allows; `Keeps` says that the
  invariant holds after each of them, and that the program ends in `Q`. It composes along `bind`, so one lemma per
  function is enough. `Reaches` says that some run ends in `Q`.
Imports: OpenTunnel.Tasks.Prog
Trusted boundary: none (fully proved)
Main exports: Prog.Keeps, keeps_mono, keeps_bind, keeps_exceptBind, Prog.Reaches, reaches_bind,
  reaches_exceptBind, reaches_and
Open obligations: none
-/
import OpenTunnel.Tasks.Prog

namespace OpenTunnel.Tasks.Prog

variable {Op : Type} {Ans : Op → Type} {σ α β ε : Type} {does : (op : Op) → σ → Ans op → σ → Prop} {inv : σ → Prop}

/-- The program keeps the invariant call by call, and ends in `Q`. -/
def Keeps (does : (op : Op) → σ → Ans op → σ → Prop) (inv : σ → Prop) : Prog Op Ans α → (α → σ → Prop) → σ → Prop
  | .ret a, Q, s => Q a s
  | .call op next, Q, s => ∀ ans s', does op s ans s' → inv s' ∧ Keeps does inv (next ans) Q s'

theorem keeps_mono {p : Prog Op Ans α} {Q Q' : α → σ → Prop} {s : σ} (keeps : Keeps does inv p Q s)
    (weaker : ∀ a s', Q a s' → Q' a s') : Keeps does inv p Q' s := by
  induction p generalizing s with
  | ret a => exact weaker a s keeps
  | call op next ih =>
      intro ans s' done
      obtain ⟨kept, later⟩ := keeps ans s' done
      exact ⟨kept, ih ans later⟩

theorem keeps_bind {p : Prog Op Ans α} {f : α → Prog Op Ans β} {Q : β → σ → Prop} {s : σ}
    (keeps : Keeps does inv p (fun a s' => Keeps does inv (f a) Q s') s) : Keeps does inv (p >>= f) Q s := by
  induction p generalizing s with
  | ret a => exact keeps
  | call op next ih =>
      intro ans s' done
      obtain ⟨kept, later⟩ := keeps ans s' done
      exact ⟨kept, ih ans later⟩

/-- Sequencing of fallible programs: an error ends the whole. -/
theorem keeps_exceptBind {p : ExceptT ε (Prog Op Ans) α} {f : α → ExceptT ε (Prog Op Ans) β}
    {Q : Except ε β → σ → Prop} {s : σ}
    (keeps : Keeps does inv p.run (fun result s' =>
      match result with
      | .ok a => Keeps does inv (f a).run Q s'
      | .error e => Q (.error e) s') s) :
    Keeps does inv (p >>= f).run Q s := by
  apply keeps_bind
  apply keeps_mono keeps
  intro result s' ends
  cases result with
  | ok a => exact ends
  | error e => exact ends

/-! ### Some run -/

/-- Some run of the program ends in `Q`. -/
def Reaches (does : (op : Op) → σ → Ans op → σ → Prop) : Prog Op Ans α → (α → σ → Prop) → σ → Prop
  | .ret a, Q, s => Q a s
  | .call op next, Q, s => ∃ ans s', does op s ans s' ∧ Reaches does (next ans) Q s'

theorem reaches_mono {p : Prog Op Ans α} {Q Q' : α → σ → Prop} {s : σ} (reaches : Reaches does p Q s)
    (weaker : ∀ a s', Q a s' → Q' a s') : Reaches does p Q' s := by
  induction p generalizing s with
  | ret a => exact weaker a s reaches
  | call op next ih =>
      obtain ⟨ans, s', done, later⟩ := reaches
      exact ⟨ans, s', done, ih ans later⟩

theorem reaches_bind {p : Prog Op Ans α} {f : α → Prog Op Ans β} {Q : β → σ → Prop} {s : σ}
    (reaches : Reaches does p (fun a s' => Reaches does (f a) Q s') s) : Reaches does (p >>= f) Q s := by
  induction p generalizing s with
  | ret a => exact reaches
  | call op next ih =>
      obtain ⟨ans, s', done, later⟩ := reaches
      exact ⟨ans, s', done, ih ans later⟩

/-- A fallible sequence goes on from a result. -/
theorem reaches_exceptBind {p : ExceptT ε (Prog Op Ans) α} {f : α → ExceptT ε (Prog Op Ans) β}
    {Q : Except ε β → σ → Prop} {s : σ}
    (reaches : Reaches does p.run (fun result s' => ∃ a, result = .ok a ∧ Reaches does (f a).run Q s') s) :
    Reaches does (p >>= f).run Q s := by
  apply reaches_bind
  apply reaches_mono reaches
  intro result s' ⟨a, is, later⟩
  subst is
  exact later

/-- What every run keeps and some run reaches, some run reaches with what is kept. -/
theorem reaches_and {p : Prog Op Ans α} {Q Q' : α → σ → Prop} {s : σ} (reaches : Reaches does p Q s)
    (keeps : Keeps does inv p Q' s) : Reaches does p (fun a s' => Q a s' ∧ Q' a s') s := by
  induction p generalizing s with
  | ret a => exact ⟨reaches, keeps⟩
  | call op next ih =>
      obtain ⟨ans, s', done, later⟩ := reaches
      exact ⟨ans, s', done, ih ans later (keeps ans s' done).2⟩

end OpenTunnel.Tasks.Prog
