/-
Module: OpenTunnel.Proofs.RateBound
Layer: Proofs
Purpose: The rate limit bound. A statement that takes from a key's budget moves its `tat` one interval further from
  where it was or from its clock, and needs it at most the tolerance ahead of its clock; so `n` allowed calls from `a`
  on put it `n` intervals past `a`. A pruned row is one no later clock can tell from a missing one. The sums stay in
  range as long as the clocks leave room for the tolerance and one interval.
Imports: Mathlib.Data.List.Induction, OpenTunnel.Model.Rates
Trusted boundary: none (fully proved)
Main exports: TakeCall.InRange, Taking, RateInvariant, rate_bound
Open obligations: none
-/
import Mathlib.Data.List.Induction
import OpenTunnel.Model.Rates

namespace OpenTunnel

open Tasks (Table Prog)

/-! ### In range -/

theorem asI64_of_lt {n : Nat} (small : n < 2 ^ 63) : asI64 n = n := by
  unfold asI64
  apply Int.bmod_eq_of_le <;> omega

theorem inI64_iff {x : Int} : inI64 x = true ↔ -2 ^ 63 ≤ x ∧ x < 2 ^ 63 := by
  simp [inI64]

/-- The clock leaves room for the tolerance and one interval. -/
def TakeCall.InRange (call : TakeCall) : Prop :=
  call.now + call.rate.toleranceMs + call.rate.intervalMs < 2 ^ 63

/-- Rows hold times from the epoch on. -/
def RateRows.Sound (rows : RateRows) : Prop :=
  ∀ name tat, rows.get name = some tat → 0 ≤ tat ∧ tat < 2 ^ 63

theorem checked_pos {x : Int} (low : -2 ^ 63 ≤ x) (high : x < 2 ^ 63) (next : Int → RateProg) :
    checked x next = next x := by
  unfold checked
  rw [if_pos (inI64_iff.mpr ⟨low, high⟩)]

namespace TakeCall

variable {call : TakeCall}

theorem InRange.now64 (range : call.InRange) : call.now64 = call.now := by
  unfold InRange at range
  exact asI64_of_lt (by omega)

theorem InRange.interval64 (range : call.InRange) : call.interval64 = call.rate.intervalMs := by
  unfold InRange at range
  exact asI64_of_lt (by omega)

theorem InRange.tolerance64 (range : call.InRange) : call.tolerance64 = call.rate.toleranceMs := by
  unfold InRange at range
  exact asI64_of_lt (by omega)

/-- The limit of an update does not overflow. -/
theorem InRange.rounds_succ (range : call.InRange) (n : Nat) :
    call.rounds (n + 1) =
      .call (.update call.name call.now call.rate.intervalMs (call.now + call.rate.toleranceMs))
        (taking (call.inserting (call.rounds n))) := by
  rw [rounds, range.now64, range.tolerance64, range.interval64]
  unfold InRange at range
  exact checked_pos (by omega) (by omega) _

/-- Nor does the `tat` of an insert. -/
theorem InRange.inserting (range : call.InRange) (rest : RateProg) :
    call.inserting rest = .call (.insert call.name (call.now + call.rate.intervalMs)) (taking rest) := by
  rw [TakeCall.inserting, range.now64, range.interval64]
  unfold InRange at range
  exact checked_pos (by omega) (by omega) _

/-- The wait told to a limited caller does not overflow. -/
theorem InRange.wait (range : call.InRange) {tat : Int} (low : 0 ≤ tat) (high : tat < 2 ^ 63) :
    (checked (tat - call.tolerance64) fun rest => checked (rest - call.now64) fun wait =>
        .ret (.verdict (.limited (max wait 1).toNat))) =
      (.ret (.verdict (.limited (max (tat - call.rate.toleranceMs - call.now) 1).toNat)) : RateProg) := by
  rw [range.now64, range.tolerance64]
  unfold InRange at range
  rw [checked_pos (by omega) (by omega), checked_pos (by omega) (by omega)]

end TakeCall

/-! ### One statement -/

/-- A statement takes from the budget of the call's key. -/
inductive Taking (call : TakeCall) (before after : RateRows) : Prop where
  | updated (tat : Int) (found : before.get call.name = some tat)
      (within : max tat call.now ≤ call.now + call.rate.toleranceMs)
      (wrote : after = before.put call.name (max tat call.now + call.rate.intervalMs))
  | inserted (missing : before.get call.name = none)
      (wrote : after = before.put call.name (call.now + call.rate.intervalMs))

/-- Where a call stands. -/
inductive Stage (call : TakeCall) : RateProg → Prop where
  | rounds (n : Nat) : Stage call (call.rounds n)
  | inserting (n : Nat) : Stage call (call.inserting (call.rounds n))
  | ended {outcome : TakeOutcome} (fits : outcome ≠ .overflow) : Stage call (.ret outcome)

theorem Stage.fits {call : TakeCall} (stage : Stage call (.ret .overflow)) (range : call.InRange) : False := by
  generalize is : (.ret .overflow : RateProg) = p at stage
  cases stage with
  | rounds n =>
      cases n with
      | zero => cases is
      | succ n =>
          rw [range.rounds_succ] at is
          cases is
  | inserting n =>
      rw [range.inserting] at is
      cases is
  | ended fits =>
      cases is
      exact fits rfl

/-- A call's next statement takes from its budget and the call is allowed, unless the answer is lost; or nothing is
    taken and the call is not allowed by it. -/
inductive Advance (call : TakeCall) (before after : RateRows) (rest : RateProg) : Prop where
  | took (takes : Taking call before after)
  | missed (kept : after = before) (unallowed : rest ≠ .ret (.verdict .allowed))

section Statement

variable {call : TakeCall} {rows : RateRows} {fault : Fault} {statement : RateStatement} {next : RateAnswer → RateProg}

theorem rounds_unallowed (range : call.InRange) (n : Nat) : call.rounds n ≠ .ret (.verdict .allowed) := by
  cases n with
  | zero => simp [TakeCall.rounds, TakeCall.reading]
  | succ n => simp [range.rounds_succ]

theorem inserting_unallowed (range : call.InRange) (rest : RateProg) :
    call.inserting rest ≠ .ret (.verdict .allowed) := by
  simp [range.inserting]

/-- The update of a round. -/
theorem advance_update (range : call.InRange) (fault : Fault) (rows : RateRows) {rest : RateProg}
    (stage : Stage call rest) (unallowed : rest ≠ .ret (.verdict .allowed)) :
    let tried := RateStatement.attempt
      (.update call.name call.now call.rate.intervalMs (call.now + call.rate.toleranceMs)) fault rows
    Advance call rows tried.2 (TakeCall.taking rest tried.1) ∧ Stage call (TakeCall.taking rest tried.1) := by
  unfold TakeCall.InRange at range
  have fits {tat : Int} (within : max tat call.now ≤ call.now + call.rate.toleranceMs) :
      inI64 (max tat call.now + call.rate.intervalMs) = true := inI64_iff.mpr (by omega)
  cases fault with
  | failed => exact ⟨.missed rfl (by simp [TakeCall.taking, RateStatement.attempt]), .ended (by simp)⟩
  | none =>
      simp only [RateStatement.attempt, RateStatement.perform]
      cases found : rows.get call.name with
      | none => exact ⟨.missed rfl unallowed, stage⟩
      | some tat =>
          dsimp only
          split
          · rename_i within
            rw [if_pos (fits within)]
            exact ⟨.took (.updated tat found within rfl), .ended (by simp)⟩
          · exact ⟨.missed rfl unallowed, stage⟩
  | late =>
      simp only [RateStatement.attempt, RateStatement.perform]
      cases found : rows.get call.name with
      | none => exact ⟨.missed rfl (by simp [TakeCall.taking]), .ended (by simp)⟩
      | some tat =>
          dsimp only
          split
          · rename_i within
            rw [if_pos (fits within)]
            exact ⟨.took (.updated tat found within rfl), .ended (by simp)⟩
          · exact ⟨.missed rfl (by simp [TakeCall.taking]), .ended (by simp)⟩

/-- The insert of a round. -/
theorem advance_insert (fault : Fault) (rows : RateRows) {rest : RateProg}
    (stage : Stage call rest) (unallowed : rest ≠ .ret (.verdict .allowed)) :
    let tried := RateStatement.attempt (.insert call.name (call.now + call.rate.intervalMs)) fault rows
    Advance call rows tried.2 (TakeCall.taking rest tried.1) ∧ Stage call (TakeCall.taking rest tried.1) := by
  cases fault with
  | failed => exact ⟨.missed rfl (by simp [TakeCall.taking, RateStatement.attempt]), .ended (by simp)⟩
  | none =>
      simp only [RateStatement.attempt, RateStatement.perform]
      cases missing : rows.get call.name with
      | none => exact ⟨.took (.inserted missing rfl), .ended (by simp)⟩
      | some tat => exact ⟨.missed rfl unallowed, stage⟩
  | late =>
      simp only [RateStatement.attempt, RateStatement.perform]
      cases missing : rows.get call.name with
      | none => exact ⟨.took (.inserted missing rfl), .ended (by simp)⟩
      | some tat => exact ⟨.missed rfl (by simp [TakeCall.taking]), .ended (by simp)⟩

/-- The read after the loop. -/
theorem advance_reading (range : call.InRange) (sound : rows.Sound) (fault : Fault)
    (is : call.reading = .call statement next) :
    Advance call rows (statement.attempt fault rows).2 (next (statement.attempt fault rows).1) ∧
      Stage call (next (statement.attempt fault rows).1) := by
  unfold TakeCall.reading at is
  cases is
  cases fault with
  | failed => exact ⟨.missed rfl (by simp [RateStatement.attempt]), .ended (by simp)⟩
  | late => exact ⟨.missed rfl (by simp [RateStatement.attempt]), .ended (by simp)⟩
  | none =>
      simp only [RateStatement.attempt, RateStatement.perform]
      cases found : rows.get call.name with
      | none => exact ⟨.missed rfl (by simp), .ended (by simp)⟩
      | some tat =>
          obtain ⟨low, high⟩ := sound call.name tat found
          dsimp only
          rw [range.wait low high]
          exact ⟨.missed rfl (by simp), .ended (by simp)⟩

/-- One statement of a call. -/
theorem Stage.advance {p : RateProg} (stage : Stage call p) (is : p = .call statement next) (range : call.InRange)
    (sound : rows.Sound) (fault : Fault) :
    Advance call rows (statement.attempt fault rows).2 (next (statement.attempt fault rows).1) ∧
      Stage call (next (statement.attempt fault rows).1) := by
  cases stage with
  | ended fits => cases is
  | inserting n =>
      rw [range.inserting] at is
      cases is
      exact advance_insert fault rows (.rounds n) (rounds_unallowed range n)
  | rounds n =>
      cases n with
      | zero => exact advance_reading range sound fault is
      | succ n =>
          rw [range.rounds_succ] at is
          cases is
          exact advance_update range fault rows (.inserting n) (inserting_unallowed range _)

/-- What a statement takes keeps the rows sound. -/
theorem Taking.sound {after : RateRows} (takes : Taking call rows after) (range : call.InRange) (sound : rows.Sound) :
    after.Sound := by
  unfold TakeCall.InRange at range
  intro name tat found
  cases takes with
  | updated old before within wrote =>
      rw [wrote, Table.get_put] at found
      split at found
      · cases found
        omega
      · exact sound name tat found
  | inserted missing wrote =>
      rw [wrote, Table.get_put] at found
      split at found
      · cases found
        omega
      · exact sound name tat found

theorem get_prune (now : Nat) (names : List String) (rows : RateRows) (name : String) :
    (pruneRateLimits now names rows).get name =
      (rows.get name).bind fun tat => if name ∈ names ∧ tat < asI64 now then none else some tat := rfl

theorem sound_prune (sound : rows.Sound) (now : Nat) (names : List String) :
    (pruneRateLimits now names rows).Sound := by
  intro name tat found
  rw [get_prune, Option.bind_eq_some_iff] at found
  obtain ⟨tat', stored, kept⟩ := found
  split at kept
  · cases kept
  · cases kept
    exact sound name tat stored

end Statement

/-! ### Interleaved calls -/

/-- A prune's clock is at most that of every call on the key that runs a statement after it. -/
def TimelyPrunes (key : String) (calls : List TakeCall) (events : List RateEvent) : Prop :=
  events.Pairwise fun first later => ∀ now names i fault call, first = .prune now names →
    later = .advance i fault → calls[i]? = some call → call.name = key → now ≤ call.now

/-- The key's budget is full again at `tat`: its row, or the last one it had before a prune. -/
def Spent (key : String) (events : List RateEvent) (rows : RateRows) (tat : Int) : Prop :=
  rows.get key = some tat ∨
    (rows.get key = none ∧ ∃ now names, RateEvent.prune now names ∈ events ∧ tat < asI64 now)

/-- What holds after the events of a run. -/
structure RateInvariant (key : String) (rate : Rate) (burst : Nat) (calls : List TakeCall) (events : List RateEvent)
    (s : RateState) : Prop where
  same : s.calls.map Prod.fst = calls
  stages : ∀ entry ∈ s.calls, Stage entry.1 entry.2
  sound : s.rows.Sound
  /-- Each allowed call put the key's budget one interval further. -/
  spent : (∀ a b, s.allowed key a b = 0) ∨ ∃ tat, Spent key events s.rows tat ∧
    ∀ a b, s.allowed key a b ≠ 0 → (a + s.allowed key a b * rate.intervalMs : Nat) ≤ tat
  bound : ∀ a b, s.allowed key a b ≤ max burst 1 + (b - a) / rate.intervalMs

theorem endedWith_iff {outcome : TakeOutcome} {call : TakeCall} {p : RateProg} :
    endedWith outcome (call, p) = true ↔ p = .ret outcome := by
  cases p with
  | ret ended => simp [endedWith]
  | call statement next => simp [endedWith]

section Steps

variable {key : String} {s : RateState} {i : Nat} {call : TakeCall} {statement : RateStatement}
  {next : RateAnswer → RateProg} {rest : RateProg} {rows : RateRows} {a b : Nat}

/-- A call on the key with a clock from `a` to `b` that is allowed. -/
def Counted (key : String) (a b : Nat) (call : TakeCall) (rest : RateProg) : Bool :=
  call.name = key && a ≤ call.now && call.now ≤ b && endedWith (.verdict .allowed) (call, rest)

theorem counted_iff : Counted key a b call rest = true ↔
    call.name = key ∧ a ≤ call.now ∧ call.now ≤ b ∧ rest = .ret (.verdict .allowed) := by
  simp [Counted, endedWith_iff, and_assoc]

/-- A statement of a call lets at most this call be counted anew. -/
theorem allowed_set (found : s.calls[i]? = some (call, .call statement next)) :
    RateState.allowed ⟨rows, s.calls.set i (call, rest)⟩ key a b =
      s.allowed key a b + if Counted key a b call rest then 1 else 0 := by
  obtain ⟨inside, is⟩ := List.getElem?_eq_some_iff.mp found
  simp only [RateState.allowed]
  rw [List.countP_set inside, is]
  simp [Counted, endedWith]

/-- `n` allowed calls from `a` on leave room for one more with a clock up to `b`. -/
theorem budget_bound {n now interval burst : Nat} (positive : 1 ≤ interval) (some_ : 1 ≤ burst)
    (spaced : a + n * interval ≤ now + interval * (burst - 1)) (after : a ≤ now) (before : now ≤ b) :
    n + 1 ≤ burst + (b - a) / interval := by
  by_cases few : n ≤ burst - 1
  · exact Nat.le_add_right_of_le (by omega)
  · have room : (n - (burst - 1)) * interval ≤ b - a := by
      rw [Nat.sub_mul, Nat.mul_comm (burst - 1)]
      omega
    have quotient : n - (burst - 1) ≤ (b - a) / interval := (Nat.le_div_iff_mul_le positive).mpr room
    omega

/-- Where a statement that takes from the budget finds the key, and where it leaves it. -/
theorem Taking.moves {after : RateRows} (takes : Taking call rows after) :
    ∃ tat, after.get call.name = some tat ∧ call.now + call.rate.intervalMs ≤ tat ∧
      ∀ old, rows.get call.name = some old →
        old + call.rate.intervalMs ≤ tat ∧ old ≤ call.now + call.rate.toleranceMs := by
  cases takes with
  | updated tat found within wrote =>
      refine ⟨max tat call.now + call.rate.intervalMs, by simp [wrote], by omega, ?_⟩
      intro old found'
      rw [found] at found'
      cases found'
      omega
  | inserted missing wrote =>
      refine ⟨call.now + call.rate.intervalMs, by simp [wrote], Int.le_refl _, ?_⟩
      intro old found
      rw [missing] at found
      cases found

theorem Taking.other {after : RateRows} (takes : Taking call rows after) (other : key ≠ call.name) :
    after.get key = rows.get key := by
  cases takes with
  | updated tat found within wrote => simp [wrote, other]
  | inserted missing wrote => simp [wrote, other]

/-- The same of a budget whose row may have been pruned. -/
theorem Taking.spent {after : RateRows} {events : List RateEvent} {tat : Int} (takes : Taking call rows after)
    (range : call.InRange) (spent : Spent call.name events rows tat)
    (timely : ∀ now names, RateEvent.prune now names ∈ events → now ≤ call.now) :
    ∃ tat', after.get call.name = some tat' ∧ call.now + call.rate.intervalMs ≤ tat' ∧
      tat + call.rate.intervalMs ≤ tat' ∧ tat ≤ call.now + call.rate.toleranceMs := by
  obtain ⟨tat', wrote, later, moves⟩ := takes.moves
  rcases spent with found | ⟨missing, now, names, pruned, early⟩
  · exact ⟨tat', wrote, later, moves tat found⟩
  · -- a prune's clock is not after the call's, so the row that is gone would not have mattered
    have before : now ≤ call.now := timely now names pruned
    unfold TakeCall.InRange at range
    rw [asI64_of_lt (by omega)] at early
    exact ⟨tat', wrote, later, by omega, by omega⟩

/-- A statement that takes from the key's budget. -/
theorem RateInvariant.took {rate : Rate} {burst : Nat} {calls : List TakeCall} {events : List RateEvent}
    {after : RateRows} (inv : RateInvariant key rate burst calls events s)
    (rest : RateProg) (found : s.calls[i]? = some (call, .call statement next)) (range : call.InRange)
    (positive : 1 ≤ rate.intervalMs) (tolerance : rate.toleranceMs = rate.intervalMs * (max burst 1 - 1))
    (takes : Taking call s.rows after) (same : call.name = key) (rated : call.rate = rate)
    (timely : ∀ now names, RateEvent.prune now names ∈ events → now ≤ call.now) :
    (∃ tat, after.get key = some tat ∧ ∀ a b, RateState.allowed ⟨after, s.calls.set i (call, rest)⟩ key a b ≠ 0 →
        (a + RateState.allowed ⟨after, s.calls.set i (call, rest)⟩ key a b * rate.intervalMs : Nat) ≤ tat) ∧
      ∀ a b, RateState.allowed ⟨after, s.calls.set i (call, rest)⟩ key a b ≤
        max burst 1 + (b - a) / rate.intervalMs := by
  subst same
  subst rated
  simp only [allowed_set found]
  rcases inv.spent with none_ | ⟨tat, spent, spaced⟩
  · -- nothing was allowed yet: this call is the first at most
    obtain ⟨tat, wrote, later, -⟩ := takes.moves
    simp only [none_, Nat.zero_add]
    constructor
    · refine ⟨tat, wrote, ?_⟩
      intro a b some_
      split at some_
      · rename_i counted
        obtain ⟨-, from_, -, -⟩ := counted_iff.mp counted
        rw [if_pos counted]
        omega
      · exact absurd rfl some_
    · intro a b
      apply Nat.le_add_right_of_le
      split <;> omega
  · obtain ⟨tat', wrote, later, moved, within⟩ := takes.spent range spent timely
    constructor
    · refine ⟨tat', wrote, ?_⟩
      intro a b some_
      have spaced := spaced a b
      generalize s.allowed call.name a b = n at *
      split at some_
      · rename_i counted
        obtain ⟨-, from_, -, -⟩ := counted_iff.mp counted
        rw [if_pos counted, Nat.add_mul, Nat.one_mul]
        rcases Nat.eq_zero_or_pos n with rfl | some_
        · omega
        · have := spaced (Nat.ne_of_gt some_)
          omega
      · rename_i uncounted
        have := spaced some_
        rw [if_neg uncounted, Nat.add_zero]
        omega
    · intro a b
      have spaced := spaced a b
      have bound := inv.bound a b
      generalize s.allowed call.name a b = n at *
      split
      · rename_i counted
        obtain ⟨-, from_, upTo, -⟩ := counted_iff.mp counted
        rcases Nat.eq_zero_or_pos n with rfl | some_
        · exact Nat.le_add_right_of_le (by omega)
        · have := spaced (Nat.ne_of_gt some_)
          apply budget_bound positive (Nat.le_max_right _ _) _ from_ upTo
          rw [← tolerance]
          omega
      · exact bound

theorem Spent.later {events : List RateEvent} {tat : Int} (spent : Spent key events rows tat) (event : RateEvent)
    {after : RateRows} (kept : after.get key = rows.get key) : Spent key (events ++ [event]) after tat := by
  rcases spent with found | ⟨missing, now, names, pruned, early⟩
  · exact Or.inl (kept.trans found)
  · exact Or.inr ⟨kept.trans missing, now, names, List.mem_append_left _ pruned, early⟩

/-- What the calls of a run are known to meet. -/
structure Rated (key : String) (rate : Rate) (burst : Nat) (calls : List TakeCall) : Prop where
  positive : 1 ≤ rate.intervalMs
  tolerance : rate.toleranceMs = rate.intervalMs * (max burst 1 - 1)
  range : ∀ call ∈ calls, call.InRange
  rated : ∀ call ∈ calls, call.name = key → call.rate = rate

variable {rate : Rate} {burst : Nat} {calls : List TakeCall} {events : List RateEvent}

/-- A call's next statement. -/
theorem RateInvariant.advance (inv : RateInvariant key rate burst calls events s) (rated : Rated key rate burst calls)
    (fault : Fault) (found : s.calls[i]? = some (call, .call statement next))
    (timely : call.name = key → ∀ now names, RateEvent.prune now names ∈ events → now ≤ call.now) :
    RateInvariant key rate burst calls (events ++ [.advance i fault])
      { rows := (statement.attempt fault s.rows).2,
        calls := s.calls.set i (call, next (statement.attempt fault s.rows).1) } := by
  have member : (call, .call statement next) ∈ s.calls := List.mem_of_getElem? found
  have known : call ∈ calls := by
    rw [← inv.same]
    exact List.mem_map_of_mem member
  have range : call.InRange := rated.range call known
  obtain ⟨moved, stage⟩ := (inv.stages _ member).advance rfl range inv.sound fault
  have same : (s.calls.set i (call, next (statement.attempt fault s.rows).1)).map Prod.fst = calls := by
    obtain ⟨inside, is⟩ := List.getElem?_eq_some_iff.mp found
    have inside' : i < (s.calls.map Prod.fst).length := by simpa using inside
    have replaced : call = (s.calls.map Prod.fst)[i] := by simp [is]
    rw [List.map_set, replaced, List.set_getElem_self]
    exact inv.same
  have stages : ∀ entry ∈ s.calls.set i (call, next (statement.attempt fault s.rows).1), Stage entry.1 entry.2 := by
    intro entry listed
    rcases List.mem_or_eq_of_mem_set listed with old | rfl
    · exact inv.stages entry old
    · exact stage
  generalize statement.attempt fault s.rows = tried at *
  -- a statement that takes nothing from this key counts no call on it
  have unmoved (kept : tried.2.get key = s.rows.get key)
      (uncounted : ∀ a b, Counted key a b call (next tried.1) = false) (sound : tried.2.Sound) :
      RateInvariant key rate burst calls (events ++ [.advance i fault])
        { rows := tried.2, calls := s.calls.set i (call, next tried.1) } := by
    refine ⟨same, stages, sound, ?_, ?_⟩
    · simp only [allowed_set found, uncounted, Bool.false_eq_true, if_false, Nat.add_zero]
      rcases inv.spent with none_ | ⟨tat, spent, spaced⟩
      · exact Or.inl none_
      · exact Or.inr ⟨tat, spent.later _ kept, spaced⟩
    · simp only [allowed_set found, uncounted, Bool.false_eq_true, if_false, Nat.add_zero]
      exact inv.bound
  cases moved with
  | missed kept unallowed =>
      rw [kept] at unmoved
      rw [kept]
      apply unmoved rfl _ inv.sound
      intro a b
      rw [Bool.eq_false_iff]
      intro counted
      exact unallowed (counted_iff.mp counted).2.2.2
  | took takes =>
      have sound : tried.2.Sound := takes.sound range inv.sound
      by_cases mine : call.name = key
      · obtain ⟨⟨tat, wrote, spaced⟩, bound⟩ :=
          inv.took (next tried.1) found range rated.positive rated.tolerance takes mine
            (rated.rated call known mine) (timely mine)
        exact ⟨same, stages, sound, Or.inr ⟨tat, Or.inl wrote, spaced⟩, bound⟩
      · apply unmoved (takes.other (Ne.symm mine)) _ sound
        intro a b
        rw [Bool.eq_false_iff]
        intro counted
        exact mine (counted_iff.mp counted).1

theorem RateInvariant.prune (inv : RateInvariant key rate burst calls events s) (now : Nat) (names : List String) :
    RateInvariant key rate burst calls (events ++ [.prune now names])
      { s with rows := pruneRateLimits now names s.rows } := by
  refine ⟨inv.same, inv.stages, sound_prune inv.sound now names, ?_, inv.bound⟩
  rcases inv.spent with none_ | ⟨tat, spent, spaced⟩
  · exact Or.inl none_
  · refine Or.inr ⟨tat, ?_, spaced⟩
    rcases spent with found | ⟨missing, rest⟩
    · have pruned := get_prune now names s.rows key
      rw [found, Option.bind_some] at pruned
      by_cases due : key ∈ names ∧ tat < asI64 now
      · rw [if_pos due] at pruned
        exact Or.inr ⟨pruned, now, names, by simp, due.2⟩
      · rw [if_neg due] at pruned
        exact Or.inl pruned
    · have kept := get_prune now names s.rows key
      rw [missing, Option.bind_none] at kept
      exact Spent.later (Or.inr ⟨missing, rest⟩) _ (kept.trans missing.symm)

end Steps

/-- The invariant holds after every run. -/
theorem rateInvariant_run {key : String} {rate : Rate} {burst : Nat} {calls : List TakeCall} {rows : RateRows}
    (rated : Rated key rate burst calls) (sound : rows.Sound) (events : List RateEvent)
    (timely : TimelyPrunes key calls events) :
    RateInvariant key rate burst calls events ((RateState.initial rows calls).run events) := by
  induction events using List.reverseRecOn with
  | nil =>
      have unended (entry) (listed : entry ∈ (RateState.initial rows calls).calls) :
          entry.1 ∈ calls ∧ entry.2 = takeRate entry.1 := by
        obtain ⟨call, known, is⟩ := List.mem_map.mp listed
        rw [← is]
        exact ⟨known, by dsimp only⟩
      have none_ (a b : Nat) : (RateState.initial rows calls).allowed key a b = 0 := by
        simp only [RateState.allowed, List.countP_eq_zero]
        intro entry listed counted
        obtain ⟨known, is⟩ := unended entry listed
        have counted : Counted key a b entry.1 entry.2 = true := counted
        have ended := counted_iff.mp counted
        rw [is] at ended
        exact rounds_unallowed (rated.range _ known) 2 ended.2.2.2
      refine ⟨by simp [RateState.initial, RateState.run, Function.comp_def], ?_, sound, Or.inl none_, ?_⟩
      · intro entry listed
        rw [(unended entry listed).2]
        exact .rounds 2
      · intro a b
        rw [RateState.run, List.foldl_nil, none_]
        exact Nat.zero_le _
  | append_singleton events event ih =>
      obtain ⟨before, -, between⟩ := List.pairwise_append.mp timely
      have inv := ih before
      simp only [RateState.run, List.foldl_append, List.foldl_cons, List.foldl_nil] at inv ⊢
      generalize List.foldl RateState.step (RateState.initial rows calls) events = s at inv ⊢
      cases event with
      | prune now names => exact inv.prune now names
      | advance i fault =>
          simp only [RateState.step]
          split
          · rename_i call statement next found
            apply inv.advance rated fault found
            intro mine now names pruned
            have at_ : calls[i]? = some call := by
              rw [← inv.same, List.getElem?_map, found]
              rfl
            exact between _ pruned _ (List.mem_singleton_self _) now names i fault call rfl rfl at_ mine
          · refine ⟨inv.same, inv.stages, inv.sound, ?_, inv.bound⟩
            rcases inv.spent with none_ | ⟨tat, spent, spaced⟩
            · exact Or.inl none_
            · exact Or.inr ⟨tat, spent.later _ rfl, spaced⟩

/-! ### Calls one after another -/

section Alone

variable {call : TakeCall} {rows : RateRows}

theorem rounds_zero : call.rounds 0 = call.reading := rfl

theorem runAlone_call (statement : RateStatement) (next : RateAnswer → RateProg) (rows : RateRows) :
    runAlone (.call statement next) rows =
      runAlone (next (statement.perform rows).1) (statement.perform rows).2 := rfl

/-- A call on a key without a row is allowed. -/
theorem takeRate_missing (range : call.InRange) (missing : rows.get call.name = none) :
    runAlone (takeRate call) rows =
      (.verdict .allowed, rows.put call.name (call.now + call.rate.intervalMs)) := by
  unfold takeRate
  simp only [range.rounds_succ, range.inserting, runAlone_call, RateStatement.perform, missing, TakeCall.taking,
    runAlone]

/-- A call on a key with a row is allowed when the budget is full again soon enough, and told how long to wait
    otherwise. -/
theorem takeRate_found (range : call.InRange) {tat : Int} (found : rows.get call.name = some tat) (low : 0 ≤ tat)
    (high : tat < 2 ^ 63) :
    runAlone (takeRate call) rows =
      if max tat call.now ≤ call.now + call.rate.toleranceMs then
        (.verdict .allowed, rows.put call.name (max tat call.now + call.rate.intervalMs))
      else (.verdict (.limited (max (tat - call.rate.toleranceMs - call.now) 1).toNat), rows) := by
  unfold takeRate
  by_cases within : max tat call.now ≤ call.now + call.rate.toleranceMs
  · have fits : inI64 (max tat call.now + call.rate.intervalMs) = true := by
      unfold TakeCall.InRange at range
      exact inI64_iff.mpr (by omega)
    simp only [range.rounds_succ, runAlone_call, RateStatement.perform, found, within, fits, if_true, TakeCall.taking,
      runAlone]
  · simp only [range.rounds_succ, range.inserting, runAlone_call, RateStatement.perform, found, within, if_false,
      TakeCall.taking, rounds_zero, TakeCall.reading, range.wait low high, runAlone]

/-- Prunes whose clock is at most that of every later call. -/
def TimelyTurns (turns : List RateTurn) : Prop :=
  turns.Pairwise fun first later => ∀ now names call, first = .prune now names → later = .take call → now ≤ call.now

/-- The pruned rows differ from the others by rows that no call to come can tell from missing ones. -/
def PrunedOf (turns : List RateTurn) (pruned rows : RateRows) : Prop :=
  ∀ name, pruned.get name = rows.get name ∨
    (pruned.get name = none ∧ ∃ tat, rows.get name = some tat ∧
      ∀ call, RateTurn.take call ∈ turns → tat < call.now)

variable {turn : RateTurn} {rest : List RateTurn} {pruned : RateRows}

theorem PrunedOf.tail (similar : PrunedOf (turn :: rest) pruned rows) : PrunedOf rest pruned rows := by
  intro name
  rcases similar name with equal | ⟨missing, tat, found, early⟩
  · exact Or.inl equal
  · exact Or.inr ⟨missing, tat, found, fun call listed => early call (List.mem_cons_of_mem _ listed)⟩

theorem PrunedOf.put (similar : PrunedOf rest pruned rows) (name : String) (tat : Int) :
    PrunedOf rest (pruned.put name tat) (rows.put name tat) := by
  intro name'
  by_cases same : name' = name
  · exact Or.inl (by simp [same])
  · simp only [Table.get_put, same, if_false]
    exact similar name'

theorem RateRows.Sound.put (sound : rows.Sound) {name : String} {tat : Int} (low : 0 ≤ tat) (high : tat < 2 ^ 63) :
    RateRows.Sound (rows.put name tat) := by
  intro name' tat' found
  rw [Table.get_put] at found
  split at found
  · cases found
    exact ⟨low, high⟩
  · exact sound name' tat' found

/-- A call ends in the same way with and without the pruned rows, and leaves nothing else between them. -/
theorem take_pruned (similar : PrunedOf (.take call :: rest) pruned rows) (range : call.InRange) (sound : rows.Sound) :
    (runAlone (takeRate call) pruned).1 = (runAlone (takeRate call) rows).1 ∧
      PrunedOf rest (runAlone (takeRate call) pruned).2 (runAlone (takeRate call) rows).2 ∧
      (runAlone (takeRate call) rows).2.Sound := by
  have room := range
  unfold TakeCall.InRange at room
  rcases similar call.name with equal | ⟨missing, tat, found, early⟩
  · cases found : rows.get call.name with
    | none =>
        rw [takeRate_missing range found, takeRate_missing range (equal.trans found)]
        exact ⟨rfl, similar.tail.put _ _, sound.put (by omega) (by omega)⟩
    | some tat =>
        obtain ⟨low, high⟩ := sound call.name tat found
        rw [takeRate_found range found low high, takeRate_found range (equal.trans found) low high]
        split
        · exact ⟨rfl, similar.tail.put _ _, sound.put (by omega) (by omega)⟩
        · exact ⟨rfl, similar.tail, sound⟩
  · -- the row would have been in the past
    obtain ⟨low, high⟩ := sound call.name tat found
    have past : max tat call.now = call.now := Int.max_eq_right (Int.le_of_lt (early call List.mem_cons_self))
    rw [takeRate_missing range missing, takeRate_found range found low high, past, if_pos (by omega)]
    exact ⟨rfl, similar.tail.put _ _, sound.put (by omega) (by omega)⟩

theorem PrunedOf.prune {now : Nat} {names : List String} (similar : PrunedOf rest pruned rows)
    (timely : ∀ call, RateTurn.take call ∈ rest → call.InRange ∧ now ≤ call.now) :
    PrunedOf rest (pruneRateLimits now names pruned) rows := by
  intro name
  rw [get_prune]
  rcases similar name with equal | ⟨missing, further⟩
  · cases found : rows.get name with
    | none => exact Or.inl (by rw [equal, found, Option.bind_none])
    | some tat =>
        rw [equal, found, Option.bind_some]
        by_cases due : name ∈ names ∧ tat < asI64 now
        · rw [if_pos due]
          refine Or.inr ⟨rfl, tat, rfl, ?_⟩
          intro call listed
          obtain ⟨range, before⟩ := timely call listed
          have early := due.2
          unfold TakeCall.InRange at range
          rw [asI64_of_lt (by omega)] at early
          omega
        · rw [if_neg due]
          exact Or.inl rfl
  · rw [missing, Option.bind_none]
    exact Or.inr ⟨rfl, further⟩

/-- Prunes change no verdict of the calls after them. -/
theorem outcomes_pruned (turns : List RateTurn) (range : ∀ call, RateTurn.take call ∈ turns → call.InRange)
    (timely : TimelyTurns turns) (sound : rows.Sound) (similar : PrunedOf turns pruned rows) :
    outcomes turns pruned = outcomes (turns.filter RateTurn.isTake) rows := by
  induction turns generalizing pruned rows with
  | nil => rfl
  | cons turn rest ih =>
      obtain ⟨first, later⟩ := List.pairwise_cons.mp timely
      have range' : ∀ call, RateTurn.take call ∈ rest → call.InRange :=
        fun call listed => range call (List.mem_cons_of_mem _ listed)
      cases turn with
      | take call =>
          obtain ⟨equal, similar', sound'⟩ := take_pruned similar (range call List.mem_cons_self) sound
          have rest' := ih range' later sound' similar'
          simp only [outcomes, List.filter_cons, RateTurn.isTake, if_true, equal, rest']
      | prune now names =>
          simp only [outcomes, List.filter_cons, RateTurn.isTake, Bool.false_eq_true, if_false]
          apply ih range' later sound
          apply similar.tail.prune
          intro call listed
          exact ⟨range' call listed, first _ listed now names call rfl rfl⟩

end Alone

/-! ### The bound -/

section Bound

variable {count periodMs burst : Nat} {rate : Rate}

theorem rate_new (made : Rate.new count periodMs burst = some rate) :
    rate.intervalMs = max (periodMs / count) 1 ∧ rate.toleranceMs = rate.intervalMs * (max burst 1 - 1) := by
  unfold Rate.new at made
  split at made
  · cases made
  · cases made
    exact ⟨rfl, rfl⟩

/-- What a configuration of the server needs room for: its counts are 32 bits and its periods an hour and a day. -/
theorem rate_accepted (made : Rate.new count periodMs burst = some rate) (few : burst < 2 ^ 32)
    (period : periodMs = hourMs ∨ periodMs = dayMs) : rate.toleranceMs + rate.intervalMs < 2 ^ 59 := by
  obtain ⟨interval, tolerance⟩ := rate_new made
  have short : periodMs ≤ dayMs := by
    rcases period with rfl | rfl <;> decide
  have small : rate.intervalMs ≤ dayMs := by
    rw [interval]
    exact Nat.max_le.mpr ⟨Nat.le_trans (Nat.div_le_self _ _) short, by decide⟩
  calc rate.toleranceMs + rate.intervalMs
      = rate.intervalMs * (max burst 1 - 1 + 1) := by rw [tolerance, Nat.mul_add, Nat.mul_one]
    _ ≤ dayMs * 2 ^ 32 := Nat.mul_le_mul small (by omega)
    _ < 2 ^ 59 := by decide

end Bound

/-- The rate limit bound: in every run of calls on a key, interleaved statement by statement with those of other
    machines and with prunes; where whole calls follow one another, prunes between them change no verdict; and nothing
    overflows as long as clocks leave room for the tolerance and one interval, which those below `2^63 - 2^59` do in every
    configuration. -/
theorem rate_bound {count periodMs burst : Nat} {rate : Rate} (made : Rate.new count periodMs burst = some rate)
    (rows : RateRows) (sound : rows.Sound) :
    (∀ (key : String) (calls : List TakeCall) (events : List RateEvent), (∀ call ∈ calls, call.InRange) →
      (∀ call ∈ calls, call.name = key → call.rate = rate) → TimelyPrunes key calls events →
      (∀ a b, ((RateState.initial rows calls).run events).allowed key a b ≤
        max burst 1 + (b - a) / rate.intervalMs) ∧
      ∀ entry ∈ ((RateState.initial rows calls).run events).calls, endedWith .overflow entry = false) ∧
    (∀ turns : List RateTurn, (∀ call, RateTurn.take call ∈ turns → call.InRange) → TimelyTurns turns →
      outcomes turns rows = outcomes (turns.filter RateTurn.isTake) rows) ∧
    (burst < 2 ^ 32 → periodMs = hourMs ∨ periodMs = dayMs → rate.toleranceMs < 2 ^ 63 ∧
      ∀ name now, now < 2 ^ 63 - 2 ^ 59 → TakeCall.InRange ⟨name, now, rate⟩) := by
  refine ⟨?_, ?_, ?_⟩
  · intro key calls events range same timely
    obtain ⟨interval, tolerance⟩ := rate_new made
    have positive : 1 ≤ rate.intervalMs := by
      rw [interval]
      exact Nat.le_max_right _ _
    have inv := rateInvariant_run ⟨positive, tolerance, range, same⟩ sound events timely
    refine ⟨inv.bound, ?_⟩
    intro ⟨call, p⟩ listed
    rw [Bool.eq_false_iff]
    intro ended
    have stage := inv.stages _ listed
    have known : call ∈ calls := by
      rw [← inv.same]
      exact List.mem_map_of_mem listed
    rw [endedWith_iff.mp ended] at stage
    exact stage.fits (range call known)
  · intro turns range timely
    exact outcomes_pruned turns range timely sound fun name => Or.inl rfl
  · intro few period
    have room := rate_accepted made few period
    refine ⟨by omega, ?_⟩
    intro name now early
    unfold TakeCall.InRange
    dsimp only
    omega

namespace Sample

/-- 30 an hour, one at once. -/
def rate : Rate := { intervalMs := 120000, toleranceMs := 0 }

/-- Two machines whose first statements both find no row. -/
def racers : List TakeCall := [⟨"create:192.0.2.1", 1000, rate⟩, ⟨"create:192.0.2.1", 1005, rate⟩]

/-- Both update, both insert, and the one that finds the row tries again. -/
def race : List RateEvent := [.advance 0 .none, .advance 1 .none, .advance 0 .none, .advance 1 .none, .advance 1 .none]

end Sample

/-- One of two concurrent calls is allowed. -/
theorem rate_bound_race :
    ((RateState.initial .empty Sample.racers).run Sample.race).allowed "create:192.0.2.1" 1000 1005 = 1 ∧
      ((RateState.initial .empty Sample.racers).run Sample.race).allowed "create:192.0.2.1" 1000 1005 ≤
        max 1 1 + (1005 - 1000) / Sample.rate.intervalMs := by
  have made : Rate.new 30 hourMs 1 = some Sample.rate := by decide
  have sound : RateRows.Sound .empty := by
    intro name tat found
    cases found
  have range : ∀ call ∈ Sample.racers, call.InRange := by
    simp [Sample.racers, Sample.rate, TakeCall.InRange]
  have rated : ∀ call ∈ Sample.racers, call.name = "create:192.0.2.1" → call.rate = Sample.rate := by
    simp [Sample.racers]
  have timely : TimelyPrunes "create:192.0.2.1" Sample.racers Sample.race := by
    simp [TimelyPrunes, Sample.race]
  have bound := (rate_bound made .empty sound).1 "create:192.0.2.1" Sample.racers Sample.race range rated timely
  exact ⟨by decide +kernel, bound.1 1000 1005⟩

namespace Sample

/-- A row that is as good as none from 500 on. -/
def pruned : RateRows := (Table.empty : RateRows).put "create:192.0.2.1" 500

/-- The second of two calls under way at once goes on after both have looked for the row. -/
def overtaking : List RateEvent := [.advance 0 .none, .advance 1 .none, .advance 1 .none]

end Sample

/-- Where the bound ends: with the default configuration, a clock at the end of `i64` overflows the limit of the update; and
    of two calls under way at once, a prune before both of them lets the other one be allowed. -/
theorem late_clock_overflows :
    (Rate.new 30 hourMs 10 = some ⟨120000, 1080000⟩ ∧
      (runAlone (takeRate ⟨"create:192.0.2.1", 2 ^ 63 - 1, ⟨120000, 1080000⟩⟩) .empty).1 = .overflow) ∧
    ((RateState.initial Sample.pruned Sample.racers).run Sample.overtaking).calls.map (endedWith (.verdict .allowed)) =
      [true, false] ∧
    ((RateState.initial Sample.pruned Sample.racers).run
      (.prune 900 ["create:192.0.2.1"] :: Sample.overtaking)).calls.map (endedWith (.verdict .allowed)) = [false, true] := by
  decide +kernel

end OpenTunnel
