/-
Module: OpenTunnel.Formats.Numerals
Layer: Formats
Purpose: Digits and numerals in a base up to thirty-six. A numeral is read from left to right; the shortest numeral of a
  number, with lower-case letters, reads back as that number. A scanner takes all the digits at the front of a text.
Imports: Mathlib.Algebra.Group.Nat.Defs
Trusted boundary: none (fully proved)
Main exports: digitValue, toDigit, numeral, numeral_toDigits, scanDigits, scanDigits_spec, scanDigits_of_digits
Open obligations: none
-/
import Mathlib.Algebra.Group.Nat.Defs

namespace OpenTunnel.Formats

/-- The value of a digit or a letter of the alphabet. -/
def digitValue (c : Char) : Option Nat :=
  if '0' ≤ c && c ≤ '9' then some (c.toNat - 48)
  else if 'a' ≤ c && c ≤ 'z' then some (c.toNat - 87)
  else if 'A' ≤ c && c ≤ 'Z' then some (c.toNat - 55)
  else none

/-- A digit of the base. -/
def toDigit (radix : Nat) (c : Char) : Option Nat := (digitValue c).filter (· < radix)

/-- The number that digits spell, after those that spell `init`. -/
def numeralFrom (radix init : Nat) (digits : List Char) : Nat :=
  digits.foldl (fun n c => n * radix + (toDigit radix c).getD 0) init

def numeral (radix : Nat) (digits : List Char) : Nat := numeralFrom radix 0 digits

/-- A text of digits. -/
def Digits (radix : Nat) (text : List Char) : Prop := ∀ c ∈ text, (toDigit radix c).isSome = true

/-- No digit is at the front of the text. -/
def DigitsEnd (radix : Nat) (text : List Char) : Prop := ∀ c tail, text = c :: tail → toDigit radix c = none

variable {radix : Nat}

theorem digitsEnd_nil : DigitsEnd radix [] := by
  intro c tail is
  cases is

theorem digitsEnd_cons {c : Char} {tail : List Char} (no : toDigit radix c = none) : DigitsEnd radix (c :: tail) := by
  intro c' tail' is
  cases is
  exact no

/-- A digit is below its radix. -/
theorem toDigit_lt {c : Char} {digit : Nat} (is : toDigit radix c = some digit) : digit < radix := by
  have kept := (Option.filter_eq_some_iff.mp is).2
  simpa using kept

theorem numeralFrom_lt (base : 0 < radix) (digits : List Char) (init : Nat) :
    numeralFrom radix init digits < (init + 1) * radix ^ digits.length := by
  induction digits generalizing init with
  | nil => simp [numeralFrom]
  | cons c digits ih =>
      have small : (toDigit radix c).getD 0 < radix := by
        cases is : toDigit radix c with
        | none => exact base
        | some digit => exact toDigit_lt is
      calc numeralFrom radix init (c :: digits)
          = numeralFrom radix (init * radix + (toDigit radix c).getD 0) digits := rfl
        _ < (init * radix + (toDigit radix c).getD 0 + 1) * radix ^ digits.length := ih _
        _ ≤ ((init + 1) * radix) * radix ^ digits.length := by
            apply Nat.mul_le_mul_right
            rw [Nat.add_mul]
            omega
        _ = (init + 1) * radix ^ (c :: digits).length := by
            rw [List.length_cons, Nat.pow_succ, Nat.mul_assoc, Nat.mul_comm radix]

/-- A numeral of so many digits is below that power of the radix. -/
theorem numeral_lt (base : 0 < radix) (digits : List Char) : numeral radix digits < radix ^ digits.length := by
  simpa [numeral] using numeralFrom_lt base digits 0

/-! ### Shortest numerals -/

theorem digitValue_digitChar : ∀ d, d < 16 → digitValue (Nat.digitChar d) = some d := by
  decide

/-- The character of a digit is read back. -/
theorem toDigit_digitChar (small : radix ≤ 16) {d : Nat} (below : d < radix) : toDigit radix (Nat.digitChar d) = some d := by
  unfold toDigit
  rw [digitValue_digitChar d (Nat.lt_of_lt_of_le below small)]
  simp [below]

/-- One more digit at the end. -/
theorem numeral_append (digits : List Char) (c : Char) :
    numeral radix (digits ++ [c]) = numeral radix digits * radix + (toDigit radix c).getD 0 := by
  simp [numeral, numeralFrom, List.foldl_append]

/-- A number is written in digits. -/
theorem digits_toDigits (base : 1 < radix) (small : radix ≤ 16) (n : Nat) : Digits radix (Nat.toDigits radix n) := by
  induction n using Nat.strongRecOn with
  | ind n ih =>
      by_cases below : n < radix
      · rw [Nat.toDigits_of_lt_base below]
        intro c held
        rw [List.mem_singleton.mp held, toDigit_digitChar small below]
        rfl
      · have smaller : n / radix < n := Nat.div_lt_self (by omega) base
        rw [Nat.toDigits_of_base_le base (by omega)]
        intro c held
        rcases List.mem_append.mp held with front | last
        · exact ih _ smaller c front
        · rw [List.mem_singleton.mp last, toDigit_digitChar small (Nat.mod_lt _ (by omega))]
          rfl

/-- A written number is read back. -/
theorem numeral_toDigits (base : 1 < radix) (small : radix ≤ 16) (n : Nat) : numeral radix (Nat.toDigits radix n) = n := by
  induction n using Nat.strongRecOn with
  | ind n ih =>
      by_cases below : n < radix
      · rw [Nat.toDigits_of_lt_base below]
        simp [numeral, numeralFrom, toDigit_digitChar small below]
      · have smaller : n / radix < n := Nat.div_lt_self (by omega) base
        rw [Nat.toDigits_of_base_le base (by omega), numeral_append, ih _ smaller,
          toDigit_digitChar small (Nat.mod_lt _ (by omega))]
        exact Nat.div_add_mod' n radix

theorem digitChar_zero : ∀ d, d < 16 → Nat.digitChar d = '0' → d = 0 := by
  decide

/-- The shortest numeral of a number above zero does not begin with a zero. -/
theorem toDigits_head (base : 1 < radix) (small : radix ≤ 16) {n : Nat} (pos : 0 < n) :
    (Nat.toDigits radix n).head? ≠ some '0' := by
  induction n using Nat.strongRecOn with
  | ind n ih =>
      by_cases below : n < radix
      · rw [Nat.toDigits_of_lt_base below]
        intro zero
        have none_ := digitChar_zero n (by omega) (by simpa using zero)
        omega
      · have smaller : n / radix < n := Nat.div_lt_self pos base
        have more : 0 < n / radix := Nat.div_pos (by omega) (by omega)
        have front := ih _ smaller more
        rw [Nat.toDigits_of_base_le base (by omega)]
        cases is : Nat.toDigits radix (n / radix) with
        | nil => exact absurd is Nat.toDigits_ne_nil
        | cons c tail =>
            rw [is] at front
            exact front

/-! ### Scanning -/

/-- Takes digits off the front of a text as long as there are any: the number, their count and what is left; nothing once
    there are more than `most`. -/
def scanDigits (radix most : Nat) : Nat → Nat → List Char → Option (Nat × Nat × List Char)
  | result, count, [] => some (result, count, [])
  | result, count, c :: rest =>
      match toDigit radix c with
      | none => some (result, count, c :: rest)
      | some digit => if count + 1 > most then none else scanDigits radix most (result * radix + digit) (count + 1) rest

/-- Digits that are not too many are scanned to their end. -/
theorem scanDigits_of_digits {most : Nat} {digits rest : List Char} (all : Digits radix digits) (stops : DigitsEnd radix rest)
    {count : Nat} (fits : count + digits.length ≤ most) (result : Nat) :
    scanDigits radix most result count (digits ++ rest) =
      some (numeralFrom radix result digits, count + digits.length, rest) := by
  induction digits generalizing result count with
  | nil =>
      cases rest with
      | nil => rfl
      | cons c tail => simp [scanDigits, stops c tail rfl, numeralFrom]
  | cons c digits ih =>
      obtain ⟨digit, is⟩ := Option.isSome_iff_exists.mp (all c List.mem_cons_self)
      rw [List.length_cons] at fits
      have room : ¬ count + 1 > most := by omega
      rw [List.cons_append, scanDigits, is]
      simp only [if_neg room]
      rw [ih (fun c held => all c (List.mem_cons_of_mem _ held)) (by omega)]
      simp [numeralFrom, is, Nat.add_assoc, Nat.add_comm 1]

/-- What was scanned are the digits in front, all of them, and not too many. -/
theorem scanDigits_spec {most result count : Nat} {text : List Char} {found : Nat × Nat × List Char}
    (scanned : scanDigits radix most result count text = some found) : ∃ digits, text = digits ++ found.2.2 ∧
    Digits radix digits ∧ DigitsEnd radix found.2.2 ∧ found.2.1 = count + digits.length ∧
    (count ≤ most → found.2.1 ≤ most) ∧ found.1 = numeralFrom radix result digits := by
  induction text generalizing result count with
  | nil =>
      cases scanned
      exact ⟨[], rfl, by simp [Digits], digitsEnd_nil, rfl, id, rfl⟩
  | cons c rest ih =>
      rw [scanDigits] at scanned
      cases is : toDigit radix c with
      | none =>
          simp only [is] at scanned
          cases scanned
          exact ⟨[], rfl, by simp [Digits], digitsEnd_cons is, rfl, id, rfl⟩
      | some digit =>
          simp only [is] at scanned
          split at scanned
          · cases scanned
          · rename_i room
            obtain ⟨digits, rfl, all, stops, counted, bounded, value⟩ := ih scanned
            refine ⟨c :: digits, rfl, ?_, stops, ?_, fun _ => bounded (by omega), ?_⟩
            · intro c' held
              rcases List.mem_cons.mp held with rfl | later
              · rw [is]
                rfl
              · exact all c' later
            · rw [counted, List.length_cons]
              omega
            · rw [value]
              simp [numeralFrom, is]

end OpenTunnel.Formats
