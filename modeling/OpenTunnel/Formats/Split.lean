/-
Module: OpenTunnel.Formats.Split
Layer: Formats
Purpose: Splitting of texts at the first or the last occurrence of a character, or at the first one of a pattern.
Imports: none (Mathlib-free)
Trusted boundary: none (fully proved)
Main exports: splitOnce, rsplitOnce, indexOf, splitAtFirst
Open obligations: none
-/

namespace OpenTunnel.Formats

variable {α : Type} [DecidableEq α]

/-- What is before and behind the first occurrence. -/
def splitOnce (separator : α) : List α → Option (List α × List α)
  | [] => none
  | a :: rest =>
      if a = separator then some ([], rest) else (splitOnce separator rest).map fun parts => (a :: parts.1, parts.2)

/-- What is before and behind the last occurrence. -/
def rsplitOnce (separator : α) : List α → Option (List α × List α)
  | [] => none
  | a :: rest =>
      match rsplitOnce separator rest with
      | some (before, behind) => some (a :: before, behind)
      | none => if a = separator then some ([], rest) else none

theorem rsplitOnce_none {separator : α} {text : List α} (clear : separator ∉ text) : rsplitOnce separator text = none := by
  induction text with
  | nil => rfl
  | cons a text ih =>
      have differs : ¬ a = separator := fun is => clear (is ▸ List.mem_cons_self)
      rw [rsplitOnce, ih (fun held => clear (List.mem_cons_of_mem _ held))]
      exact if_neg differs

theorem rsplitOnce_last {separator : α} {back : List α} (clear : separator ∉ back) (front : List α) :
    rsplitOnce separator (front ++ separator :: back) = some (front, back) := by
  induction front with
  | nil =>
      rw [List.nil_append, rsplitOnce, rsplitOnce_none clear]
      exact if_pos rfl
  | cons a front ih => rw [List.cons_append, rsplitOnce, ih]

/-- Where the first occurrence of a pattern begins. -/
def indexOf (pattern : List α) : List α → Option Nat
  | [] => if pattern.isEmpty then some 0 else none
  | a :: rest => if pattern.isPrefixOf (a :: rest) then some 0 else (indexOf pattern rest).map (· + 1)

theorem indexOf_split {pattern text : List α} {index : Nat} (found : indexOf pattern text = some index) :
    text = text.take index ++ pattern ++ text.drop (index + pattern.length) := by
  induction text generalizing index with
  | nil =>
      rw [indexOf] at found
      split at found
      · rename_i none_
        rw [List.isEmpty_iff.mp none_]
        simp
      · cases found
  | cons a rest ih =>
      rw [indexOf] at found
      split at found
      · rename_i front
        cases found
        obtain ⟨behind, is⟩ := List.isPrefixOf_iff_prefix.mp front
        rw [← is]
        simp
      · obtain ⟨later, is, rfl⟩ := Option.map_eq_some_iff.mp found
        have shape := ih is
        rw [List.take_succ_cons, Nat.add_right_comm, List.drop_succ_cons, List.cons_append, List.cons_append, ← shape]

/-- The first occurrence is behind whatever the pattern cannot begin in. -/
theorem indexOf_front {first : α} {pattern front : List α} (clear : first ∉ front) (rest : List α) :
    indexOf (first :: pattern) (front ++ (first :: pattern ++ rest)) = some front.length := by
  induction front with
  | nil =>
      have here : (first :: pattern).isPrefixOf (first :: pattern ++ rest) = true :=
        List.isPrefixOf_iff_prefix.mpr (List.prefix_append _ _)
      rw [List.nil_append, List.cons_append, indexOf]
      exact if_pos here
  | cons a front ih =>
      have differs : ¬ (first :: pattern).isPrefixOf (a :: front ++ (first :: pattern ++ rest)) = true := by
        intro front_
        have head := (List.cons_prefix_cons.mp (List.isPrefixOf_iff_prefix.mp front_)).1
        exact clear (head ▸ List.mem_cons_self)
      have later := ih (fun held => clear (List.mem_cons_of_mem _ held))
      rw [List.cons_append, indexOf]
      exact (if_neg differs).trans (congrArg (Option.map (· + 1)) later)

/-- A text without one of the pattern's letters does not hold it. -/
theorem indexOf_none {pattern text : List α} {letter : α} (of : letter ∈ pattern) (clear : letter ∉ text) :
    indexOf pattern text = none := by
  cases found : indexOf pattern text with
  | none => rfl
  | some index =>
      have shape := indexOf_split found
      rw [shape] at clear
      exact absurd (List.mem_append_left _ (List.mem_append_right _ of)) clear

theorem indexOf_inside {pattern text : List α} {index : Nat} (found : indexOf pattern text = some index) :
    index + pattern.length ≤ text.length := by
  induction text generalizing index with
  | nil =>
      rw [indexOf] at found
      split at found
      · rename_i none_
        cases found
        rw [List.isEmpty_iff.mp none_]
        exact Nat.le_refl 0
      · cases found
  | cons a rest ih =>
      rw [indexOf] at found
      split at found
      · rename_i front
        cases found
        rw [Nat.zero_add]
        exact (List.isPrefixOf_iff_prefix.mp front).length_le
      · obtain ⟨later, is, rfl⟩ := Option.map_eq_some_iff.mp found
        have inside := ih is
        rw [List.length_cons]
        omega

/-- What follows an occurrence does not matter. -/
theorem indexOf_append {pattern text : List α} {index : Nat} (inside : index + pattern.length ≤ text.length) (rest : List α) :
    indexOf pattern (text ++ rest) = some index ↔ indexOf pattern text = some index := by
  induction text generalizing index with
  | nil =>
      have zero : index = 0 := by
        rw [List.length_nil] at inside
        omega
      have empty : pattern = [] := List.eq_nil_of_length_eq_zero (by rw [List.length_nil] at inside; omega)
      subst zero empty
      cases rest with
      | nil => exact Iff.rfl
      | cons a rest => simp [indexOf]
  | cons a text ih =>
      have fits : pattern.length ≤ (a :: text).length := by omega
      have same : pattern.isPrefixOf (a :: text ++ rest) = pattern.isPrefixOf (a :: text) := by
        rw [Bool.eq_iff_iff, List.isPrefixOf_iff_prefix, List.isPrefixOf_iff_prefix]
        exact ⟨fun front => List.prefix_of_prefix_length_le front (List.prefix_append _ _) fits,
          fun front => front.trans (List.prefix_append _ _)⟩
      rw [List.cons_append, indexOf, indexOf, ← List.cons_append, same]
      split
      · exact Iff.rfl
      · cases index with
        | zero => simp
        | succ index =>
            have later : index + pattern.length ≤ text.length := by
              rw [List.length_cons] at inside
              omega
            simpa using ih later

/-- What is before and behind the first occurrence of a pattern. -/
def splitAtFirst (pattern text : List α) : Option (List α × List α) :=
  (indexOf pattern text).map fun index => (text.take index, text.drop (index + pattern.length))

end OpenTunnel.Formats
