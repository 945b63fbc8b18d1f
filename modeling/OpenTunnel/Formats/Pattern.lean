/-
Module: OpenTunnel.Formats.Pattern
Layer: Formats
Purpose: Regular expressions of classes of characters, as far as texts are tested with them from end to end. A pattern gives
  every rest of a text that is left behind a match, so that alternatives need no order.
Imports: Mathlib.Algebra.Group.Nat.Defs
Trusted boundary: none (fully proved)
Main exports: Pattern, Pattern.rests, Pattern.test, Pattern.mem_seq, Pattern.mem_optional, Pattern.mem_times, Pattern.test_iff
Open obligations: none
-/
import Mathlib.Algebra.Group.Nat.Defs

namespace OpenTunnel.Formats

/-- `[...]`, one pattern after another, `(?:...)?`, and `{low,high}`. -/
inductive Pattern (α : Type) where
  | one (test : α → Bool)
  | seq (first second : Pattern α)
  | optional (pattern : Pattern α)
  | times (low high : Nat) (pattern : Pattern α)

namespace Pattern

variable {α : Type}

/-- Up to so many matches, at least so many of them. -/
def restsOf (rests : List α → List (List α)) : Nat → Nat → List α → List (List α)
  | 0, 0, text => [text]
  | _ + 1, 0, _ => []
  | 0, high + 1, text => text :: (rests text).flatMap (restsOf rests 0 high)
  | low + 1, high + 1, text => (rests text).flatMap (restsOf rests low high)

/-- What may be left behind a match at the front. -/
def rests : Pattern α → List α → List (List α)
  | one _, [] => []
  | one test, a :: text => if test a then [text] else []
  | seq first second, text => (first.rests text).flatMap second.rests
  | optional pattern, text => text :: pattern.rests text
  | times low high pattern, text => restsOf pattern.rests low high text

/-- `^...$` -/
def test (pattern : Pattern α) (text : List α) : Bool := (pattern.rests text).any List.isEmpty

theorem test_iff {pattern : Pattern α} {text : List α} : pattern.test text = true ↔ [] ∈ pattern.rests text := by
  simp [test, List.any_eq_true]

theorem mem_one {class_ : α → Bool} {text rest : List α} :
    rest ∈ (one class_).rests text ↔ ∃ a, class_ a = true ∧ text = a :: rest := by
  cases text with
  | nil => simp [rests]
  | cons a text =>
      rw [rests]
      split
      · rename_i fits
        simp only [List.mem_singleton]
        constructor
        · rintro rfl
          exact ⟨a, fits, rfl⟩
        · rintro ⟨a', _, is⟩
          cases is
          rfl
      · rename_i other
        constructor
        · intro held
          cases held
        · rintro ⟨a', fits, is⟩
          cases is
          exact absurd fits other

theorem mem_seq {first second : Pattern α} {text rest : List α} :
    rest ∈ (seq first second).rests text ↔ ∃ between ∈ first.rests text, rest ∈ second.rests between := by
  rw [rests, List.mem_flatMap]

theorem mem_optional {pattern : Pattern α} {text rest : List α} :
    rest ∈ (optional pattern).rests text ↔ rest = text ∨ rest ∈ pattern.rests text := by
  rw [rests, List.mem_cons]

/-- A repeated class. -/
theorem mem_times {class_ : α → Bool} {low high : Nat} {text rest : List α} :
    rest ∈ (times low high (one class_)).rests text ↔
      ∃ front, text = front ++ rest ∧ low ≤ front.length ∧ front.length ≤ high ∧ front.all class_ = true := by
  rw [rests]
  induction high generalizing low text with
  | zero =>
      cases low with
      | zero =>
          simp only [restsOf, List.mem_singleton]
          constructor
          · rintro rfl
            exact ⟨[], rfl, Nat.le_refl _, Nat.le_refl _, rfl⟩
          · rintro ⟨front, is, _, few, _⟩
            rw [List.eq_nil_of_length_eq_zero (Nat.le_zero.mp few)] at is
            exact is.symm
      | succ low =>
          simp only [restsOf, List.not_mem_nil, false_iff]
          rintro ⟨front, _, many, few, _⟩
          omega
  | succ high ih =>
      have further (low : Nat) : rest ∈ ((one class_).rests text).flatMap (restsOf (one class_).rests low high) ↔
          ∃ front, text = front ++ rest ∧ low + 1 ≤ front.length ∧ front.length ≤ high + 1 ∧ front.all class_ = true := by
        rw [List.mem_flatMap]
        constructor
        · rintro ⟨between, one_, later⟩
          obtain ⟨a, fits, rfl⟩ := mem_one.mp one_
          obtain ⟨front, rfl, many, few, all⟩ := ih.mp later
          exact ⟨a :: front, rfl, Nat.succ_le_succ many, Nat.succ_le_succ few, by simp [fits, all]⟩
        · rintro ⟨front, rfl, many, few, all⟩
          cases front with
          | nil => cases many
          | cons a front =>
              simp only [List.all_cons, Bool.and_eq_true] at all
              exact ⟨front ++ rest, mem_one.mpr ⟨a, all.1, rfl⟩,
                ih.mpr ⟨front, rfl, Nat.le_of_succ_le_succ many, Nat.le_of_succ_le_succ few, all.2⟩⟩
      cases low with
      | zero =>
          rw [restsOf, List.mem_cons, further 0]
          constructor
          · rintro (rfl | ⟨front, is, _, few, all⟩)
            · exact ⟨[], rfl, Nat.le_refl _, Nat.zero_le _, rfl⟩
            · exact ⟨front, is, Nat.zero_le _, few, all⟩
          · rintro ⟨front, is, _, few, all⟩
            cases front with
            | nil => exact .inl is.symm
            | cons a front => exact .inr ⟨a :: front, is, Nat.succ_le_succ (Nat.zero_le _), few, all⟩
      | succ low => exact further low

end Pattern

end OpenTunnel.Formats
