/-
Module: OpenTunnel.Model.RetrySchedule
Layer: Model
Purpose: When a failed attempt is repeated (`backoff` and `next_attempt` of `retry.rs`), with the jitter as the rational
  number that its float is and the arithmetic as `u64` has it where it saturates or truncates; and the attempts of a job
  that fail one after another. Sums of times are far below 2^64 and are exact here.
Imports: Mathlib.Data.Rat.Floor, OpenTunnel.Model.Retry
Trusted boundary: none (fully proved)
Main exports: RetrySchedule.backoff, RetrySchedule.nextAttempt, RetrySchedule.Attempt, RetrySchedule.InTurn
Open obligations: none
-/
import Mathlib.Data.Rat.Floor
import OpenTunnel.Model.Retry

namespace OpenTunnel.RetrySchedule

/-- `u64::saturating_mul` -/
def saturatingMul (m n : Nat) : Nat := min (m * n) (2 ^ 64 - 1)

/-- `clamp` -/
def clamp {α : Type} [LinearOrder α] (x low high : α) : α := max low (min x high)

def backoff (baseMs attempts : Nat) (jitter : ℚ) : Nat :=
  let exponent := min (attempts - 1) 32
  let delay := clamp (saturatingMul baseMs (1 <<< exponent)) 1 maxDelayMs
  let half := delay / 2
  half + ⌊half * clamp jitter 0 1⌋₊

def nextAttempt (failure : FailureClass) (attempts baseMs queuedAt now : Nat) (jitter : ℚ) : Option Nat :=
  match failure with
  | .permanent => none
  | .unknown => if issuanceAttempts ≤ attempts then none else some (now + backoff baseMs attempts jitter)
  | .transient after =>
      -- `as_millis() as u64`
      let asked := (after.map (· % 2 ^ 64)).getD 0
      let delay := max (backoff baseMs attempts jitter) (min asked maxDelayMs)
      if now + delay ≤ queuedAt + retryWindowMs then some (now + delay) else none

/-- An attempt that failed: when it started and ended, what its error is, and the random number drawn for its retry. -/
structure Attempt where
  started : Nat
  ended : Nat
  lasted : started ≤ ended
  failure : FailureClass
  jitter : ℚ

/-- When the job runs again after this attempt, the one with this number. -/
def Attempt.next (attempt : Attempt) (number baseMs queuedAt : Nat) : Option Nat :=
  nextAttempt attempt.failure number baseMs queuedAt attempt.ended attempt.jitter

/-- The failed attempts of a job, counted from zero: each one that was scheduled starts no earlier than it was to. -/
def InTurn (baseMs queuedAt : Nat) (attempts : Nat → Attempt) : Prop :=
  ∀ n at_, (attempts n).next (n + 1) baseMs queuedAt = some at_ → at_ ≤ (attempts (n + 1)).started

end OpenTunnel.RetrySchedule
