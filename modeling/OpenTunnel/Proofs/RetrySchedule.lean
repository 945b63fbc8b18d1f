/-
Module: OpenTunnel.Proofs.RetrySchedule
Layer: Proofs
Purpose: Retries end. The wait doubles up to an hour and is at least half of what it could be, so it is zero before the
  second attempt only; a transient failure is repeated within the window, any other within three attempts. The times of
  a job's retries therefore grow and stay bounded.
Imports: Mathlib.Algebra.Order.Floor.Semifield, Mathlib.Tactic.Positivity, Mathlib.Tactic.Ring,
  OpenTunnel.Model.RetrySchedule
Trusted boundary: none (fully proved)
Main exports: backoff_eq, backoff_of_random, nextAttempt_of_random, retries_end
Open obligations: none
-/
import Mathlib.Algebra.Order.Floor.Semifield
import Mathlib.Tactic.Positivity
import Mathlib.Tactic.Ring
import OpenTunnel.Model.RetrySchedule

namespace OpenTunnel.RetrySchedule

/-- The longest wait before an attempt: the base doubled with every attempt, at most an hour and not zero. -/
def longest (baseMs attempts : Nat) : Nat := max 1 (min (baseMs * 2 ^ (attempts - 1)) maxDelayMs)

/-- From the 33rd attempt on the exponent stays, but the hour was reached long before. -/
theorem delay_eq (baseMs attempts : Nat) :
    clamp (saturatingMul baseMs (1 <<< min (attempts - 1) 32)) 1 maxDelayMs = longest baseMs attempts := by
  have hour : maxDelayMs < 2 ^ 32 := by decide
  rw [clamp, saturatingMul, longest, Nat.one_shiftLeft]
  rcases Nat.le_total (attempts - 1) 32 with few | many
  · rw [Nat.min_eq_left few]
    omega
  · rw [Nat.min_eq_right many]
    rcases Nat.eq_zero_or_pos baseMs with rfl | positive
    · simp
    · have power : 2 ^ 32 ≤ 2 ^ (attempts - 1) := Nat.pow_le_pow_right (by decide) many
      have here : 1 * 2 ^ 32 ≤ baseMs * 2 ^ 32 := Nat.mul_le_mul_right _ positive
      have there : 1 * 2 ^ 32 ≤ baseMs * 2 ^ (attempts - 1) := Nat.mul_le_mul positive power
      omega

theorem backoff_eq (baseMs attempts : Nat) (jitter : ℚ) :
    backoff baseMs attempts jitter =
      longest baseMs attempts / 2 + ⌊((longest baseMs attempts / 2 : Nat) : ℚ) * clamp jitter 0 1⌋₊ := by
  rw [backoff, delay_eq]

theorem share_le (half : Nat) (jitter : ℚ) : ⌊(half : ℚ) * clamp jitter 0 1⌋₊ ≤ half := by
  have most : clamp jitter 0 1 ≤ 1 := max_le (by decide) (min_le_right _ _)
  have product : (half : ℚ) * clamp jitter 0 1 ≤ half := mul_le_of_le_one_right (Nat.cast_nonneg half) most
  exact Nat.floor_le_of_le product

theorem half_le_backoff (baseMs attempts : Nat) (jitter : ℚ) :
    longest baseMs attempts / 2 ≤ backoff baseMs attempts jitter := by
  rw [backoff_eq]
  exact Nat.le_add_right _ _

theorem backoff_le_longest (baseMs attempts : Nat) (jitter : ℚ) :
    backoff baseMs attempts jitter ≤ longest baseMs attempts := by
  have share := share_le (longest baseMs attempts / 2) jitter
  rw [backoff_eq]
  omega

theorem longest_le (baseMs attempts : Nat) : longest baseMs attempts ≤ maxDelayMs :=
  Nat.max_le.mpr ⟨by decide, Nat.min_le_right _ _⟩

/-! ### The queue's own schedule -/

/-- The random number that `jitter` draws gives the wait of the model of the queue. -/
theorem backoff_of_random (baseMs attempts random : Nat) :
    OpenTunnel.backoff baseMs attempts random = backoff baseMs attempts (random / 2 ^ 32) := by
  have delay : min (max (baseMs * 2 ^ min (attempts - 1) 32) 1) maxDelayMs = longest baseMs attempts := by
    have hour : 1 ≤ maxDelayMs ∧ maxDelayMs < 2 ^ 64 - 1 := by decide
    rw [← delay_eq, clamp, saturatingMul, Nat.one_shiftLeft]
    omega
  have drawn : clamp ((random : ℚ) / 2 ^ 32) 0 1 = ((min random (2 ^ 32) : Nat) : ℚ) / 2 ^ 32 := by
    have positive : (0 : ℚ) ≤ (random : ℚ) / 2 ^ 32 := by positivity
    rw [clamp]
    rcases Nat.le_total random (2 ^ 32) with below | above
    · have most : (random : ℚ) / 2 ^ 32 ≤ 1 := by
        rw [div_le_one (by positivity)]
        exact_mod_cast below
      rw [Nat.min_eq_left below, min_eq_left most, max_eq_right positive]
    · have least : 1 ≤ (random : ℚ) / 2 ^ 32 := by
        rw [one_le_div (by positivity)]
        exact_mod_cast above
      rw [Nat.min_eq_right above, min_eq_right least]
      norm_num
  rw [backoff_eq, drawn, OpenTunnel.backoff, delay]
  generalize longest baseMs attempts / 2 = half
  have share : (half : ℚ) * (((min random (2 ^ 32) : Nat) : ℚ) / 2 ^ 32) = ((half * min random (2 ^ 32) : Nat) : ℚ) / (2 ^ 32 : Nat) := by
    push_cast
    ring
  rw [share, Nat.floor_div_natCast, Nat.floor_natCast]

/-- So the runs of the queue, which draw that number, are scheduled as the results on the rational jitter say. -/
theorem nextAttempt_of_random (failure : FailureClass) (attempts baseMs queuedAt now random : Nat)
    (fits : ∀ after, failure = .transient (some after) → after < 2 ^ 64) :
    OpenTunnel.nextAttempt failure attempts baseMs queuedAt now random =
      nextAttempt failure attempts baseMs queuedAt now (random / 2 ^ 32) := by
  cases failure with
  | permanent => rfl
  | unknown => rw [OpenTunnel.nextAttempt, nextAttempt, backoff_of_random]
  | transient after =>
      have asked : (after.map (· % 2 ^ 64)).getD 0 = after.getD 0 := by
        cases after with
        | none => rfl
        | some after => exact Nat.mod_eq_of_lt (fits after rfl)
      rw [OpenTunnel.nextAttempt, nextAttempt, backoff_of_random, asked]

/-! ### Scheduled times -/

theorem transient_in_window {after : Option Nat} {attempts baseMs queuedAt now at_ : Nat} {jitter : ℚ}
    (next : nextAttempt (.transient after) attempts baseMs queuedAt now jitter = some at_) :
    at_ ≤ queuedAt + retryWindowMs := by
  simp only [nextAttempt] at next
  split at next
  · rename_i within
    cases next
    exact within
  · cases next

/-- From the third attempt on only a transient failure is repeated. -/
theorem late_in_window {failure : FailureClass} {attempts baseMs queuedAt now at_ : Nat} {jitter : ℚ}
    (third : issuanceAttempts ≤ attempts)
    (next : nextAttempt failure attempts baseMs queuedAt now jitter = some at_) : at_ ≤ queuedAt + retryWindowMs := by
  cases failure with
  | permanent => cases next
  | unknown =>
      rw [nextAttempt, if_pos third] at next
      cases next
  | transient after => exact transient_in_window next

theorem backoff_le_next {failure : FailureClass} {attempts baseMs queuedAt now at_ : Nat} {jitter : ℚ}
    (next : nextAttempt failure attempts baseMs queuedAt now jitter = some at_) :
    now + backoff baseMs attempts jitter ≤ at_ := by
  cases failure with
  | permanent => cases next
  | unknown =>
      simp only [nextAttempt] at next
      split at next
      · cases next
      · cases next
        exact Nat.le_refl _
  | transient after =>
      simp only [nextAttempt] at next
      split at next
      · cases next
        exact Nat.add_le_add_left (Nat.le_max_left _ _) _
      · cases next

/-- A base that is not zero makes every wait but the first one at least a millisecond. -/
theorem backoff_pos {baseMs attempts : Nat} (positive : 1 ≤ baseMs) (second : 2 ≤ attempts) (jitter : ℚ) :
    1 ≤ backoff baseMs attempts jitter := by
  have power : 2 ^ 1 ≤ 2 ^ (attempts - 1) := Nat.pow_le_pow_right (by decide) (by omega)
  have doubled : 1 * 2 ^ 1 ≤ baseMs * 2 ^ (attempts - 1) := Nat.mul_le_mul positive power
  have hour : 2 ≤ maxDelayMs := by decide
  have least : 2 ≤ longest baseMs attempts := by
    rw [longest]
    omega
  have half := half_le_backoff baseMs attempts jitter
  omega

section Attempts

variable {baseMs queuedAt : Nat} {attempts : Nat → Attempt}

/-- As long as every attempt is repeated, the scheduled times go on. -/
theorem InTurn.grows (turns : InTurn baseMs queuedAt attempts) (positive : 1 ≤ baseMs) {scheduled : Nat → Nat}
    (repeats : ∀ n, (attempts n).next (n + 1) baseMs queuedAt = some (scheduled n)) (n : Nat) : n ≤ scheduled n := by
  induction n with
  | zero => exact Nat.zero_le _
  | succ n ih =>
      have began := turns n (scheduled n) (repeats n)
      have lasted := (attempts (n + 1)).lasted
      have waits := backoff_le_next (repeats (n + 1))
      have least : 1 ≤ backoff baseMs (n + 1 + 1) (attempts (n + 1)).jitter :=
        backoff_pos positive (Nat.le_add_left 2 n) _
      omega

theorem InTurn.ends (turns : InTurn baseMs queuedAt attempts) (positive : 1 ≤ baseMs) :
    ∃ n, (attempts n).next (n + 1) baseMs queuedAt = none := by
  by_contra endless
  simp only [not_exists, ← Ne.eq_def, Option.ne_none_iff_exists'] at endless
  choose scheduled repeats using endless
  have late := turns.grows positive repeats (queuedAt + retryWindowMs + 2)
  have within := repeats (queuedAt + retryWindowMs + 2)
  have early := late_in_window (Nat.le_add_left 3 _) within
  omega

end Attempts

/-- Waits are within their bounds and fit their type, a transient failure is repeated within the window only, and a job
    whose attempts keep failing is given up after finitely many. -/
theorem retries_end (baseMs : Nat) :
    (∀ attempts jitter, longest baseMs attempts / 2 ≤ backoff baseMs attempts jitter ∧
      backoff baseMs attempts jitter ≤ longest baseMs attempts ∧
      1 <<< min (attempts - 1) 32 < 2 ^ 64 ∧ backoff baseMs attempts jitter < 2 ^ 64) ∧
    (∀ after attempts queuedAt now jitter at_,
      nextAttempt (.transient after) attempts baseMs queuedAt now jitter = some at_ → at_ ≤ queuedAt + retryWindowMs) ∧
    (1 ≤ baseMs → ∀ queuedAt attempts, InTurn baseMs queuedAt attempts →
      ∃ n, (attempts n).next (n + 1) baseMs queuedAt = none ∧
        ∀ m < n, (attempts m).next (m + 1) baseMs queuedAt ≠ none) := by
  refine ⟨fun attempts jitter => ⟨half_le_backoff .., backoff_le_longest .., ?_, ?_⟩, ?_, ?_⟩
  · rw [Nat.one_shiftLeft]
    exact Nat.pow_lt_pow_right (by decide) (Nat.lt_of_le_of_lt (Nat.min_le_right _ _) (by decide))
  · have most := Nat.le_trans (backoff_le_longest baseMs attempts jitter) (longest_le baseMs attempts)
    exact Nat.lt_of_le_of_lt most (by decide)
  · intro after attempts queuedAt now jitter at_ next
    exact transient_in_window next
  · intro positive queuedAt attempts turns
    have ends := turns.ends positive
    exact ⟨Nat.find ends, Nat.find_spec ends, fun m earlier => Nat.find_min ends earlier⟩

/-- A job that is tried once a day and finds the CA overloaded. -/
def dailyAttempts (n : Nat) : Attempt where
  started := n * dayMs
  ended := n * dayMs + minuteMs
  lasted := Nat.le_add_right _ _
  failure := .transient (some (10 * minuteMs))
  jitter := 1 / 3

theorem retries_end_daily : ∃ n, (dailyAttempts n).next (n + 1) 15000 0 = none ∧
    ∀ m < n, (dailyAttempts m).next (m + 1) 15000 0 ≠ none := by
  refine (retries_end 15000).2.2 (by decide) 0 dailyAttempts fun n at_ next => ?_
  have within : at_ ≤ 0 + retryWindowMs := transient_in_window next
  have day : 1 * dayMs ≤ (n + 1) * dayMs := Nat.mul_le_mul_right _ (Nat.le_add_left 1 n)
  have window : retryWindowMs = dayMs := rfl
  exact (by omega : at_ ≤ (n + 1) * dayMs)

end OpenTunnel.RetrySchedule
