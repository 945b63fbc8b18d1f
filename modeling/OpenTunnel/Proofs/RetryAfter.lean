/-
Module: OpenTunnel.Proofs.RetryAfter
Layer: Proofs
Purpose: What a limited caller is told to wait. Only the read after the loop answers that a call is limited, and its delay
  comes from the row it reads, whatever other calls did before; so the same row decides a call made that much later.
Imports: OpenTunnel.Proofs.RateBound
Trusted boundary: none (fully proved)
Main exports: Reached, Told, told_of_limited, retry_after_exact
Open obligations: none
-/
import OpenTunnel.Proofs.RateBound

namespace OpenTunnel

open Tasks (Table Prog)

/-! ### The delay -/

/-- What a call still has to do in a run. -/
inductive Reached (call : TakeCall) : RateProg → Prop where
  | rounds (n : Nat) : Reached call (call.rounds n)
  | inserting (n : Nat) : Reached call (call.inserting (call.rounds n))
  | ended (outcome : TakeOutcome) : Reached call (.ret outcome)

/-- The delay is the one that the call's row gives, if it is there. -/
def Told (call : TakeCall) (rows : RateRows) (delay : Nat) : Prop :=
  match rows.get call.name with
  | some tat => delay = (max (tat - call.tolerance64 - call.now64) 1).toNat
  | none => delay = 1

section Step

variable {call : TakeCall} {statement : RateStatement} {next : RateAnswer → RateProg}

theorem checked_call {x : Int} {body : Int → RateProg} (is : checked x body = .call statement next) :
    body x = .call statement next := by
  unfold checked at is
  split at is
  · exact is
  · cases is

theorem checked_limited {x : Int} {body : Int → RateProg} {delay : Nat}
    (is : checked x body = .ret (.verdict (.limited delay))) : body x = .ret (.verdict (.limited delay)) := by
  unfold checked at is
  split at is
  · exact is
  · cases is

theorem inserting_unlimited (rest : RateProg) (delay : Nat) : call.inserting rest ≠ .ret (.verdict (.limited delay)) := by
  intro is
  cases checked_limited is

theorem rounds_unlimited (n delay : Nat) : call.rounds n ≠ .ret (.verdict (.limited delay)) := by
  intro is
  cases n with
  | zero => cases is
  | succ n => cases checked_limited is

/-- A statement that takes from the budget limits nobody. -/
theorem taking_limited {rest : RateProg} {answer : RateAnswer} {delay : Nat}
    (is : TakeCall.taking rest answer = .ret (.verdict (.limited delay))) : rest = .ret (.verdict (.limited delay)) := by
  unfold TakeCall.taking at is
  split at is
  · cases is
  · exact is
  · cases is
  · cases is

theorem reached_checked {x : Int} {body : Int → RateProg} (reached : Reached call (body x)) : Reached call (checked x body) := by
  unfold checked
  split
  · exact reached
  · exact .ended _

theorem reached_taking {rest : RateProg} (reached : Reached call rest) (answer : RateAnswer) :
    Reached call (TakeCall.taking rest answer) := by
  unfold TakeCall.taking
  split
  · exact .ended _
  · exact reached
  · exact .ended _
  · exact .ended _

/-- After each statement. -/
theorem Reached.later (reached : Reached call (.call statement next)) (answer : RateAnswer) : Reached call (next answer) := by
  generalize is : (.call statement next : RateProg) = p at reached
  cases reached with
  | rounds n =>
      cases n with
      | zero =>
          cases is
          dsimp only
          split
          · exact reached_checked (reached_checked (.ended _))
          · exact .ended _
          · exact .ended _
          · exact .ended _
      | succ n =>
          cases checked_call is.symm
          exact reached_taking (.inserting n) answer
  | inserting n =>
      cases checked_call is.symm
      exact reached_taking (.rounds n) answer
  | ended outcome => cases is

/-- Only the read after the loop says that the call is limited, of the row it reads. -/
theorem told_of_limited (reached : Reached call (.call statement next)) {fault : Fault} {rows : RateRows} {delay : Nat}
    (limited : next (statement.attempt fault rows).1 = .ret (.verdict (.limited delay))) :
    (statement.attempt fault rows).2 = rows ∧ Told call rows delay := by
  generalize is : (.call statement next : RateProg) = p at reached
  cases reached with
  | rounds n =>
      cases n with
      | zero =>
          cases is
          cases fault with
          | failed => cases limited
          | late => cases limited
          | none =>
              refine ⟨rfl, ?_⟩
              unfold Told
              rw [RateStatement.attempt, RateStatement.perform] at limited
              cases found : rows.get call.name with
              | none =>
                  rw [found] at limited
                  cases limited
                  rfl
              | some tat =>
                  rw [found] at limited
                  cases checked_limited (checked_limited limited)
                  rfl
      | succ n =>
          cases checked_call is.symm
          exact absurd (taking_limited limited) (inserting_unlimited _ _)
  | inserting n =>
      cases checked_call is.symm
      exact absurd (taking_limited limited) (rounds_unlimited _ _)
  | ended outcome => cases is

end Step

/-! ### Runs -/

theorem reached_step {s : RateState} (reached : ∀ entry ∈ s.calls, Reached entry.1 entry.2) (event : RateEvent) :
    ∀ entry ∈ (s.step event).calls, Reached entry.1 entry.2 := by
  cases event with
  | prune now names => exact reached
  | advance i fault =>
      rw [RateState.step]
      split
      · rename_i call statement next found
        intro entry listed
        rcases List.mem_or_eq_of_mem_set listed with before | rfl
        · exact reached entry before
        · exact (reached _ (List.mem_of_getElem? found)).later _
      · exact reached

theorem reached_run {s : RateState} (reached : ∀ entry ∈ s.calls, Reached entry.1 entry.2) (events : List RateEvent) :
    ∀ entry ∈ (s.run events).calls, Reached entry.1 entry.2 := by
  induction events generalizing s with
  | nil => exact reached
  | cons event events ih => exact ih (reached_step reached event)

theorem reached_initial (rows : RateRows) (calls : List TakeCall) :
    ∀ entry ∈ (RateState.initial rows calls).calls, Reached entry.1 entry.2 := by
  intro entry listed
  obtain ⟨call, _, rfl⟩ := List.mem_map.mp listed
  dsimp only
  rw [takeRate]
  exact .rounds 2

/-! ### Later calls -/

/-- The call made this much later. -/
def TakeCall.after (call : TakeCall) (ms : Nat) : TakeCall := { call with now := call.now + ms }

section Later

variable {call : TakeCall} {rows : RateRows} {delay : Nat}

theorem TakeCall.InRange.earlier {now : Nat} (range : (call.after delay).InRange) (before : now ≤ call.now + delay) :
    TakeCall.InRange { call with now := now } := by
  unfold TakeCall.InRange TakeCall.after at *
  dsimp only at *
  omega

/-- A budget that is full again soon enough. -/
theorem takeRate_within (range : call.InRange) {tat : Int} (found : rows.get call.name = some tat)
    (within : tat ≤ call.now + call.rate.toleranceMs) : (runAlone (takeRate call) rows).1 = .verdict .allowed := by
  have enough : max tat call.now ≤ call.now + call.rate.toleranceMs := by omega
  have fits : inI64 (max tat call.now + call.rate.intervalMs) = true := by
    unfold TakeCall.InRange at range
    exact inI64_iff.mpr (by omega)
  unfold takeRate
  simp only [range.rounds_succ, runAlone_call, RateStatement.perform, found, enough, fits, if_true, TakeCall.taking,
    runAlone]

theorem told_found (range : (call.after delay).InRange) (told : Told call rows delay) {tat : Int}
    (found : rows.get call.name = some tat) : delay = (max (tat - call.rate.toleranceMs - call.now) 1).toNat := by
  have now : call.InRange := range.earlier (Nat.le_add_right _ _)
  unfold Told at told
  rw [found] at told
  rwa [← now.tolerance64, ← now.now64]

theorem allowed_after (range : (call.after delay).InRange) (told : Told call rows delay) :
    (runAlone (takeRate (call.after delay)) rows).1 = .verdict .allowed := by
  cases found : rows.get call.name with
  | none => rw [takeRate_missing range found]
  | some tat =>
      have delays := told_found range told found
      refine takeRate_within range found ?_
      unfold TakeCall.after
      dsimp only
      omega

theorem limited_before (range : (call.after delay).InRange) (told : Told call rows delay) (long : 1 < delay) :
    (runAlone (takeRate (call.after (delay - 1))) rows).1 = .verdict (.limited 1) := by
  have room : (call.after (delay - 1)).InRange := range.earlier (by omega)
  cases found : rows.get call.name with
  | none =>
      unfold Told at told
      rw [found] at told
      omega
  | some tat =>
      have delays := told_found range told found
      unfold TakeCall.InRange at range
      have spelled : ((call.after (delay - 1)).now : Int) = call.now + delay - 1 := by
        unfold TakeCall.after
        dsimp only
        omega
      have later : (call.after delay).now = call.now + delay := rfl
      have same : (call.after delay).rate = call.rate := rfl
      have same' : (call.after (delay - 1)).rate = call.rate := rfl
      rw [takeRate_found room found (by omega) (by rw [same] at range; omega), spelled, same', if_neg (by omega)]
      have one : (max (tat - call.rate.toleranceMs - (call.now + delay - 1)) 1).toNat = 1 := by omega
      rw [one]

end Later

/-- A call of any run is told exactly how long to wait, and the header rounds that up. -/
theorem retry_after_exact (rows : RateRows) (calls : List TakeCall) (events : List RateEvent) (i : Nat) (fault : Fault)
    {call : TakeCall} {statement : RateStatement} {next : RateAnswer → RateProg} {delay : Nat}
    (asks : ((RateState.initial rows calls).run events).calls[i]? = some (call, .call statement next))
    (limited : (((RateState.initial rows calls).run events).step (.advance i fault)).calls[i]? =
      some (call, .ret (.verdict (.limited delay))))
    (room : (call.after delay).InRange) :
    let left := (((RateState.initial rows calls).run events).step (.advance i fault)).rows
    (runAlone (takeRate (call.after delay)) left).1 = .verdict .allowed ∧
      (1 < delay → (runAlone (takeRate (call.after (delay - 1))) left).1 = .verdict (.limited 1)) ∧
      delay ≤ retryAfter delay * 1000 := by
  have reached := reached_run (reached_initial rows calls) events _ (List.mem_of_getElem? asks)
  generalize (RateState.initial rows calls).run events = s at asks limited
  have inside : i < s.calls.length := (List.getElem?_eq_some_iff.mp asks).1
  have stepped : s.step (.advance i fault) =
      { rows := (statement.attempt fault s.rows).2,
        calls := s.calls.set i (call, next (statement.attempt fault s.rows).1) } := by
    rw [RateState.step, asks]
  rw [stepped] at limited ⊢
  rw [List.getElem?_set_self inside] at limited
  obtain ⟨same, told⟩ := told_of_limited reached (congrArg Prod.snd (Option.some.inj limited))
  dsimp only
  rw [same]
  refine ⟨allowed_after room told, limited_before room told, ?_⟩
  unfold retryAfter
  omega

/-- A call over its budget tries twice before it reads how long to wait. -/
theorem run_over {call : TakeCall} {rows : RateRows} (range : call.InRange) {tat : Int} (found : rows.get call.name = some tat)
    (spent : ¬ max tat call.now ≤ call.now + call.rate.toleranceMs) :
    (RateState.initial rows [call]).run (List.replicate 4 (.advance 0 .none)) = { rows := rows, calls := [(call, call.reading)] } := by
  simp [RateState.run, RateState.initial, RateState.step, takeRate, List.replicate, range.rounds_succ, range.inserting,
    RateStatement.attempt, RateStatement.perform, found, spent, TakeCall.taking, rounds_zero]

namespace Sample

def caller : TakeCall := ⟨"create:192.0.2.1", 1005, rate⟩

/-- Another call was allowed 5 ms before. -/
def busy : RateRows := Table.empty.put "create:192.0.2.1" 121000

end Sample

/-- A call refused 5 ms after another waits for the rest of the interval. -/
theorem retry_after_busy :
    (((RateState.initial Sample.busy [Sample.caller]).run (List.replicate 4 (.advance 0 .none))).step
        (.advance 0 .none)).calls[0]? = some (Sample.caller, .ret (.verdict (.limited 119995))) ∧
      (runAlone (takeRate ⟨"create:192.0.2.1", 121000, Sample.rate⟩) Sample.busy).1 = .verdict .allowed ∧
      (runAlone (takeRate ⟨"create:192.0.2.1", 120999, Sample.rate⟩) Sample.busy).1 = .verdict (.limited 1) ∧
      retryAfter 119995 = 120 := by
  have range : Sample.caller.InRange := by
    unfold TakeCall.InRange
    decide
  have found : Sample.busy.get Sample.caller.name = some 121000 := by decide
  have spent : ¬ max 121000 (Sample.caller.now : Int) ≤ Sample.caller.now + Sample.caller.rate.toleranceMs := by decide
  have run := run_over range found spent
  have asks : ((RateState.initial Sample.busy [Sample.caller]).run (List.replicate 4 (.advance 0 .none))).calls[0]? =
      some (Sample.caller, Sample.caller.reading) := by
    rw [run]
    rfl
  have limited : (((RateState.initial Sample.busy [Sample.caller]).run (List.replicate 4 (.advance 0 .none))).step
      (.advance 0 .none)).calls[0]? = some (Sample.caller, .ret (.verdict (.limited 119995))) := by
    rw [run]
    simp only [RateState.step, TakeCall.reading, List.getElem?_cons_zero, RateStatement.attempt, RateStatement.perform, found,
      range.wait (by decide : (0 : Int) ≤ 121000) (by decide)]
    rfl
  have room : (Sample.caller.after 119995).InRange := by
    unfold TakeCall.InRange
    decide
  have waits := retry_after_exact Sample.busy [Sample.caller] (List.replicate 4 (.advance 0 .none)) 0 .none asks limited room
  rw [run] at waits
  exact ⟨limited, waits.1, waits.2.1 (by decide), by decide⟩

/-- A row at the end of `i64` limits a call that the statement cannot allow any more when it is due. -/
theorem late_row_overflows :
    (runAlone (takeRate ⟨"create:192.0.2.1", 0, ⟨120000, 1080000⟩⟩) (Table.empty.put "create:192.0.2.1" (2 ^ 63 - 1))).1 =
        .verdict (.limited (2 ^ 63 - 1080001)) ∧
      (runAlone (takeRate ⟨"create:192.0.2.1", 2 ^ 63 - 1080001, ⟨120000, 1080000⟩⟩)
        (Table.empty.put "create:192.0.2.1" (2 ^ 63 - 1))).1 = .overflow := by
  decide +kernel

end OpenTunnel
