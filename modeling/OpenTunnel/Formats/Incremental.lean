/-
Module: OpenTunnel.Formats.Incremental
Layer: Formats
Purpose: Readers of data that is still arriving. A round looks at all that has arrived and at what the reader has already
  noted; it answers, takes a further part of the data, or waits. When what it does otherwise than wait does not change as
  more arrives, the answer does not depend on when the reader is asked.
Imports: none (Mathlib-free)
Trusted boundary: none (fully proved)
Main exports: Round, scan, Steady, scanAll, answers, scanAll_answer, scanAll_resume, answers_of_steady
Open obligations: none
-/

namespace OpenTunnel.Formats

/-- What a round does. -/
inductive Round (α σ : Type) where
  | wait
  | answer (answer : α) (state : σ)
  | again (state : σ)
deriving DecidableEq

section Scan

variable {β α σ : Type} (round : List β → σ → Option (Round α σ))

/-- Rounds over what has arrived, until one waits (without an answer) or answers; nothing when a round cannot be done. -/
def scan (data : List β) : Nat → σ → Option (Option α × σ)
  | 0, _ => none
  | fuel + 1, s =>
      match round data s with
      | none => none
      | some .wait => some (none, s)
      | some (.answer answer s') => some (some answer, s')
      | some (.again s') => scan data fuel s'

/-- Every round can be done; those that go on take more of the data; and those that do not wait stay the same as more
    data arrives. -/
structure Steady (taken : σ → Nat) : Prop where
  total : ∀ data s, round data s ≠ none
  forward : ∀ {data s s'}, round data s = some (.again s') → taken s < taken s' ∧ taken s' ≤ data.length
  stable : ∀ {data s r} more, round data s = some r → r ≠ .wait → round (data ++ more) s = some r

variable {round} {taken : σ → Nat} {data : List β} {s : σ} {fuel : Nat}

theorem scan_wait (waits : round data s = some .wait) : scan round data (fuel + 1) s = some (none, s) := by
  rw [scan, waits]

theorem scan_answers {answer : α} {s' : σ} (done : round data s = some (.answer answer s')) :
    scan round data (fuel + 1) s = some (some answer, s') := by
  rw [scan, done]

theorem scan_again {s' : σ} (goes : round data s = some (.again s')) :
    scan round data (fuel + 1) s = scan round data fuel s' := by
  rw [scan, goes]

theorem scan_total (steady : Steady round taken) (enough : data.length - taken s < fuel) :
    ∃ found, scan round data fuel s = some found := by
  induction fuel generalizing s with
  | zero => omega
  | succ fuel ih =>
      cases is : round data s with
      | none => exact absurd is (steady.total data s)
      | some r =>
          cases r with
          | wait => exact ⟨_, scan_wait is⟩
          | answer a s' => exact ⟨_, scan_answers is⟩
          | again s' =>
              have forward := steady.forward is
              rw [scan_again is]
              exact ih (by omega)

/-- More rounds than needed change nothing. -/
theorem scan_fuel {found : Option α × σ} (done : scan round data fuel s = some found) {more : Nat} (enough : fuel ≤ more) :
    scan round data more s = some found := by
  induction fuel generalizing s more with
  | zero => cases done
  | succ fuel ih =>
      obtain ⟨more, rfl⟩ : ∃ n, more = n + 1 := ⟨more - 1, by omega⟩
      rw [scan] at done ⊢
      split at done
      · cases done
      · exact done
      · exact done
      · exact ih done (by omega)

theorem scan_unique {found found' : Option α × σ} {fuel' : Nat} (one : scan round data fuel s = some found)
    (other : scan round data fuel' s = some found') : found = found' := by
  have first := scan_fuel one (Nat.le_max_left fuel fuel')
  have second := scan_fuel other (Nat.le_max_right fuel fuel')
  exact Option.some.inj (first.symm.trans second)

/-- An answer is that of the last round. -/
theorem scan_last {answer : α} {s' : σ} (done : scan round data fuel s = some (some answer, s')) :
    ∃ s₁, round data s₁ = some (.answer answer s') := by
  induction fuel generalizing s with
  | zero => cases done
  | succ fuel ih =>
      rw [scan] at done
      split at done
      · cases done
      · cases done
      · rename_i a s₁ is
        cases done
        exact ⟨s, is⟩
      · exact ih done

/-- An answer stays the same as more arrives. -/
theorem scan_answer (steady : Steady round taken) {answer : α} {s' : σ}
    (done : scan round data fuel s = some (some answer, s')) (more : List β) :
    scan round (data ++ more) fuel s = some (some answer, s') := by
  induction fuel generalizing s with
  | zero => cases done
  | succ fuel ih =>
      rw [scan] at done ⊢
      split at done
      · cases done
      · cases done
      · rename_i a s₁ is
        rw [steady.stable more is (by simp)]
        exact done
      · rename_i s₁ is
        rw [steady.stable more is (by simp)]
        exact ih done

/-- A reader that waited goes on from there as one does that begins with all the data. -/
theorem scan_resume (steady : Steady round taken) {s' : σ} (waited : scan round data fuel s = some (none, s'))
    (more : List β) {fuel' : Nat} {found : Option α × σ} (resumed : scan round (data ++ more) fuel' s' = some found) :
    scan round (data ++ more) (fuel + fuel') s = some found := by
  induction fuel generalizing s with
  | zero => cases waited
  | succ fuel ih =>
      rw [scan] at waited
      split at waited
      · cases waited
      · cases waited
        exact scan_fuel resumed (by omega)
      · cases waited
      · rename_i s₁ is
        rw [Nat.add_right_comm, scan_again (steady.stable more is (by simp))]
        exact ih waited

/-! ### Asked again and again -/

variable (round)

/-- The answer to all the data at once. -/
def scanAll (s : σ) (data : List β) : Option (Option α × σ) := scan round data (data.length + 1) s

/-- The answers to the data as it grows. -/
def answers (s : σ) : List (List β) → Option (List (Option α))
  | [] => some []
  | data :: later => do
      let found ← scanAll round s data
      let rest ← answers found.2 later
      some (found.1 :: rest)

variable {round}

theorem scanAll_total (steady : Steady round taken) (s : σ) (data : List β) : ∃ found, scanAll round s data = some found :=
  scan_total steady (by omega)

theorem scanAll_of_scan (steady : Steady round taken) {found : Option α × σ} (done : scan round data fuel s = some found) :
    scanAll round s data = some found := by
  obtain ⟨found', all⟩ := scanAll_total steady s data
  rw [all, scan_unique all done]

theorem scanAll_answer (steady : Steady round taken) {answer : α} {s' : σ}
    (done : scanAll round s data = some (some answer, s')) (more : List β) :
    scanAll round s (data ++ more) = some (some answer, s') :=
  scanAll_of_scan steady (scan_answer steady done more)

theorem scanAll_resume (steady : Steady round taken) {s' : σ} (waited : scanAll round s data = some (none, s'))
    (more : List β) : scanAll round s (data ++ more) = scanAll round s' (data ++ more) := by
  obtain ⟨found, resumed⟩ := scanAll_total steady s' (data ++ more)
  rw [resumed]
  exact scanAll_of_scan steady (scan_resume steady waited more resumed)

theorem answers_total (steady : Steady round taken) (s : σ) (datas : List (List β)) :
    ∃ found, answers round s datas = some found := by
  induction datas generalizing s with
  | nil => exact ⟨[], rfl⟩
  | cons data later ih =>
      obtain ⟨found, first⟩ := scanAll_total steady s data
      obtain ⟨rest, others⟩ := ih found.2
      exact ⟨found.1 :: rest, by simp [answers, first, others]⟩

theorem answers_length {datas : List (List β)} {found : List (Option α)} (asked : answers round s datas = some found) :
    found.length = datas.length := by
  induction datas generalizing s found with
  | nil =>
      cases asked
      rfl
  | cons data later ih =>
      simp only [answers, Option.bind_eq_bind, Option.bind_eq_some_iff] at asked
      obtain ⟨first, _, rest, others, is⟩ := asked
      cases is
      rw [List.length_cons, List.length_cons, ih others]

/-- Each answer up to the first is the one to all the data that has arrived by then. -/
theorem answers_of_steady (steady : Steady round taken) {datas : List (List β)} (growing : datas.Pairwise (· <+: ·))
    {found : List (Option α)} (asked : answers round s datas = some found) {i : Nat} {data : List β}
    (at_ : datas[i]? = some data) (waited : ∀ j, j < i → found[j]? = some none) :
    found[i]? = (scanAll round s data).map Prod.fst := by
  induction datas generalizing s found i with
  | nil => simp at at_
  | cons first later ih =>
      obtain ⟨before, growing⟩ := List.pairwise_cons.mp growing
      obtain ⟨answered, one, rest, others, rfl⟩ : ∃ answered, scanAll round s first = some answered ∧
          ∃ rest, answers round answered.2 later = some rest ∧ answered.1 :: rest = found := by
        simpa [answers, Option.bind_eq_some_iff] using asked
      cases i with
      | zero =>
          cases at_
          rw [one]
          rfl
      | succ i =>
          have none_ := waited 0 (by omega)
          obtain ⟨answer, s'⟩ := answered
          cases none_
          rw [List.getElem?_cons_succ] at at_ ⊢
          obtain ⟨more, is⟩ := before data (List.mem_of_getElem? at_)
          rw [ih growing others at_ (fun j below => waited (j + 1) (by omega)), ← is, scanAll_resume steady one]

end Scan

end OpenTunnel.Formats
