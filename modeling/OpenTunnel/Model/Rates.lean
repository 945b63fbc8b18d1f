/-
Module: OpenTunnel.Model.Rates
Layer: Model
Purpose: Rate limits (`limits.rs`, `take_rate` and `prune_rate_limits` of `store.rs`, `retry_after` of `http.rs`). A key's row of `rate_limits`
  is the time its budget is full again. `takeRate` is a program over the statements it sends, so that calls of any
  machines interleave between two of them; a value that leaves its machine type ends the call with `overflow`.
Imports: Mathlib.Algebra.Group.Int.Defs, Mathlib.Algebra.Group.Nat.Defs, OpenTunnel.Tasks.Prog, OpenTunnel.Model.Store
Trusted boundary: none (fully proved)
Main exports: Rate.new, TakeCall, takeRate, pruneRateLimits, RateState.run, retryAfter, outcomes
Open obligations: none
-/
import Mathlib.Algebra.Group.Int.Defs
import Mathlib.Algebra.Group.Nat.Defs
import OpenTunnel.Tasks.Prog
import OpenTunnel.Model.Store

namespace OpenTunnel

open Tasks (Table Prog)

/-- `count` per `period_ms` on average, `burst` at once. -/
structure Rate where
  intervalMs : Nat
  toleranceMs : Nat
deriving DecidableEq, Repr

/-- `Rate::new`: no limit when `count` is 0. -/
def Rate.new (count periodMs burst : Nat) : Option Rate :=
  if count = 0 then none
  else
    let intervalMs := max (periodMs / count) 1
    some { intervalMs := intervalMs, toleranceMs := intervalMs * (max burst 1 - 1) }

inductive Verdict where
  | allowed
  | limited (retryAfterMs : Nat)
deriving DecidableEq, Repr

/-! ### Machine integers -/

/-- `as i64` of a `u64` -/
def asI64 (n : Nat) : Int := Int.bmod n (2 ^ 64)

/-- A value of `i64`, or of a BIGINT column. -/
def inI64 (x : Int) : Bool := -2 ^ 63 ≤ x && x < 2 ^ 63

/-! ### Statements -/

/-- Rows of `rate_limits`: a key's `tat`. -/
abbrev RateRows := Table String Int

/-- The statements of `take_rate`, with the values bound to them. -/
inductive RateStatement where
  | update (name : String) (now interval limit : Int)
  | insert (name : String) (tat : Int)
  | select (name : String)
deriving DecidableEq, Repr

/-- What a statement answers: whether it wrote its row, the row it read, that its sum is out of range, or an error. -/
inductive RateAnswer where
  | wrote (row : Bool)
  | row (tat : Option Int)
  | outOfRange
  | failed
deriving DecidableEq, Repr

def RateStatement.perform (statement : RateStatement) (rows : RateRows) : RateAnswer × RateRows :=
  match statement with
  | .update name now interval limit =>
      match rows.get name with
      | some tat =>
          if max tat now ≤ limit then
            if inI64 (max tat now + interval) then (.wrote true, rows.put name (max tat now + interval))
            else (.outOfRange, rows)
          else (.wrote false, rows)
      | none => (.wrote false, rows)
  | .insert name tat =>
      match rows.get name with
      | some _ => (.wrote false, rows)
      | none => (.wrote true, rows.put name tat)
  | .select name => (.row (rows.get name), rows)

/-- `prune_rate_limits`: deletes the rows among `names` whose budget is full again. `names` are those the statement
    picks: at most its limit of 10000, whichever the database finds first. -/
def pruneRateLimits (now : Nat) (names : List String) (rows : RateRows) : RateRows :=
  rows.update fun name tat => if name ∈ names ∧ tat < asI64 now then none else some tat

/-! ### Calls -/

/-- A call of `take_rate`. -/
structure TakeCall where
  name : String
  now : Nat
  rate : Rate
deriving DecidableEq, Repr

/-- How a call ends: with a verdict, with a storage error, or with a value out of range. -/
inductive TakeOutcome where
  | verdict (verdict : Verdict)
  | failed
  | overflow
deriving DecidableEq, Repr

abbrev RateProg := Prog RateStatement (fun _ => RateAnswer) TakeOutcome

/-- Goes on with a sum or difference of `i64`s, unless it overflows. -/
def checked (x : Int) (next : Int → RateProg) : RateProg :=
  if inI64 x then next x else .ret .overflow

namespace TakeCall

def now64 (call : TakeCall) : Int := asI64 call.now

def interval64 (call : TakeCall) : Int := asI64 call.rate.intervalMs

def tolerance64 (call : TakeCall) : Int := asI64 call.rate.toleranceMs

/-- The read after the loop: how long to wait. -/
def reading (call : TakeCall) : RateProg :=
  .call (.select call.name) fun
    | .row (some tat) => checked (tat - call.tolerance64) fun rest => checked (rest - call.now64) fun wait =>
        .ret (.verdict (.limited (max wait 1).toNat))
    | .row none => .ret (.verdict (.limited 1))
    | .outOfRange => .ret .overflow
    | _ => .ret .failed

/-- What follows a statement that takes from the budget: `rest` when it did not find its row as it needs it. -/
def taking (rest : RateProg) : RateAnswer → RateProg
  | .wrote true => .ret (.verdict .allowed)
  | .wrote false => rest
  | .outOfRange => .ret .overflow
  | _ => .ret .failed

/-- A round's insert, of a key not seen before. When it exists, it is over budget or was inserted by someone else in
    between. -/
def inserting (call : TakeCall) (rest : RateProg) : RateProg :=
  checked (call.now64 + call.interval64) fun tat => .call (.insert call.name tat) (taking rest)

/-- The loop with this many rounds left. -/
def rounds (call : TakeCall) : Nat → RateProg
  | 0 => call.reading
  | n + 1 => checked (call.now64 + call.tolerance64) fun limit =>
      .call (.update call.name call.now64 call.interval64 limit) (taking (call.inserting (call.rounds n)))

end TakeCall

/-- `take_rate` -/
def takeRate (call : TakeCall) : RateProg := call.rounds 2

/-! ### Interleaved calls -/

/-- The table, and the calls with what each still has to do. -/
structure RateState where
  rows : RateRows
  calls : List (TakeCall × RateProg)

/-- A call's next statement is run, and may fail; or rows are pruned. -/
inductive RateEvent where
  | advance (i : Nat) (fault : Fault)
  | prune (now : Nat) (names : List String)
deriving DecidableEq, Repr

/-- A statement whose call may fail before it took effect, or after. -/
def RateStatement.attempt (statement : RateStatement) (fault : Fault) (rows : RateRows) : RateAnswer × RateRows :=
  match fault with
  | .none => statement.perform rows
  | .failed => (.failed, rows)
  | .late => (.failed, (statement.perform rows).2)

namespace RateState

/-- None of the calls has run a statement yet. -/
def initial (rows : RateRows) (calls : List TakeCall) : RateState :=
  { rows := rows, calls := calls.map fun call => (call, takeRate call) }

def step (s : RateState) : RateEvent → RateState
  | .advance i fault =>
      match s.calls[i]? with
      | some (call, .call statement next) =>
          { rows := (statement.attempt fault s.rows).2,
            calls := s.calls.set i (call, next (statement.attempt fault s.rows).1) }
      | _ => s
  | .prune now names => { s with rows := pruneRateLimits now names s.rows }

def run (s : RateState) (events : List RateEvent) : RateState := events.foldl step s

end RateState

/-- The call has ended this way. -/
def endedWith (outcome : TakeOutcome) : TakeCall × RateProg → Bool
  | (_, .ret ended) => ended = outcome
  | _ => false

/-- How many calls on the key with a clock from `a` to `b` were allowed. -/
def RateState.allowed (s : RateState) (key : String) (a b : Nat) : Nat :=
  s.calls.countP fun entry =>
    entry.1.name = key && a ≤ entry.1.now && entry.1.now ≤ b && endedWith (.verdict .allowed) entry

/-! ### Answers -/

/-- `retry_after` of `http.rs`: the whole seconds of the header of a limited answer. -/
def retryAfter (ms : Nat) : Nat := max ((ms + 999) / 1000) 1

/-! ### Calls one after another -/

/-- A program's result when nothing else touches the table. -/
def runAlone : RateProg → RateRows → TakeOutcome × RateRows
  | .ret outcome, rows => (outcome, rows)
  | .call statement next, rows => runAlone (next (statement.perform rows).1) (statement.perform rows).2

/-- Whole calls and prunes, one after another. -/
inductive RateTurn where
  | take (call : TakeCall)
  | prune (now : Nat) (names : List String)
deriving DecidableEq, Repr

def RateTurn.isTake : RateTurn → Bool
  | .take _ => true
  | .prune _ _ => false

/-- How the calls end, in order. -/
def outcomes : List RateTurn → RateRows → List TakeOutcome
  | [], _ => []
  | .take call :: rest, rows =>
      (runAlone (takeRate call) rows).1 :: outcomes rest (runAlone (takeRate call) rows).2
  | .prune now names :: rest, rows => outcomes rest (pruneRateLimits now names rows)

end OpenTunnel
