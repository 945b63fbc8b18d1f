/-
Module: OpenTunnel.Model.Cooldown
Layer: Model
Purpose: The cool-down of the certificate authority (`jobs.rs`). Every machine keeps its own `Cooldown`, feeds it the
  outcomes of its attempts, shares a change as a text in `meta` and merges that text when it looks again. The lock
  is held over one act only, so the writes and reads of any machines come between two acts of a task.
Imports: OpenTunnel.Tasks.System, OpenTunnel.Model.Record
Trusted boundary: none (fully proved)
Main exports: Cooldown.failed, Cooldown.succeeded, Cooldown.encode, Cooldown.merge, coolingUntil, cooldownOutcome,
  cooldowns
Open obligations: none
-/
import OpenTunnel.Tasks.System
import OpenTunnel.Model.Record

namespace OpenTunnel

open Tasks (Prog)

/-- The classes of `metrics::error_class`. -/
inductive ErrorClass where
  | network
  | timeout
  | http5xx
  | http429
  | badBody
  | nonce
  | badNonce
  | dns
  | rejected
  | authzPending
  | other
deriving DecidableEq, Repr

/-- `ca_trouble`: the authority is struggling or limiting us. -/
def ErrorClass.caTrouble : ErrorClass → Bool
  | .network | .timeout | .http5xx | .http429 | .badBody | .nonce | .badNonce => true
  | .dns | .rejected | .authzPending | .other => false

def cooldownFailures : Nat := 5
def cooldownMinMs : Nat := minuteMs
def cooldownMaxMs : Nat := hourMs
def cooldownRefreshMs : Nat := 15 * secondMs

/-- The cool-down as one machine knows it. -/
structure Cooldown where
  /-- Failures in a row since the last success or cool-down. -/
  failures : Nat := 0
  /-- The last cool-down's length; 0 after a success. -/
  cooldownMs : Nat := 0
  /-- No new issuance before this. -/
  untilMs : Nat := 0
deriving DecidableEq, Repr

namespace Cooldown

/-- Records a failed attempt: whether a cool-down starts. -/
def failed (cooldown : Cooldown) (errorClass : ErrorClass) (retryAfterMs : Option Nat) (now : Nat) :
    Bool × Cooldown :=
  if !errorClass.caTrouble then (false, cooldown)
  else
    let counted := { cooldown with failures := cooldown.failures + 1 }
    if errorClass ≠ .http429 ∧ counted.failures < cooldownFailures then (false, counted)
    else
      let cooldownMs := if counted.cooldownMs = 0 then cooldownMinMs else min (counted.cooldownMs * 2) cooldownMaxMs
      (true, { failures := 0, cooldownMs := cooldownMs,
               untilMs := max counted.untilMs (now + max cooldownMs (min (retryAfterMs.getD 0) cooldownMaxMs)) })

/-- Records a success: whether a cool-down was in effect. -/
def succeeded (cooldown : Cooldown) : Bool × Cooldown := (decide (0 < cooldown.cooldownMs), {})

def encode (cooldown : Cooldown) : String :=
  String.ofList (Nat.toDigits 10 cooldown.untilMs ++ ' ' :: Nat.toDigits 10 cooldown.cooldownMs)

/-- A number's text without a leading plus sign, which parsing allows. -/
def unsigned : List Char → List Char
  | '+' :: rest => rest
  | other => other

/-- `field.parse::<u64>().unwrap_or(0)`, without the bound of `u64`: the times here are numbers of any size, and a server
    shares only a time it could hold. -/
def parseField (field : List Char) : Nat :=
  if unsigned field ≠ [] ∧ (unsigned field).all Char.isDigit = true then Nat.ofDigitChars 10 (unsigned field) 0 else 0

/-- The end and the length in a shared text. -/
def decode (stored : String) : Nat × Nat :=
  let fields := (stored.toList.splitOn ' ').map parseField
  (fields[0]?.getD 0, fields[1]?.getD 0)

/-- Merges the shared state: the later end and the longer cool-down. -/
def merge (cooldown : Cooldown) (stored : String) : Cooldown :=
  { cooldown with untilMs := max cooldown.untilMs (decode stored).1,
                  cooldownMs := max cooldown.cooldownMs (decode stored).2 }

theorem unsigned_toDigits (n : Nat) : unsigned (Nat.toDigits 10 n) = Nat.toDigits 10 n := by
  unfold unsigned
  split
  · rename_i rest equal
    have digit : '+'.isDigit = true :=
      Nat.isDigit_of_mem_toDigits (n := n) (b := 10) (by decide) (by decide) (by simp [equal])
    cases digit
  · rfl

theorem parseField_toDigits (n : Nat) : parseField (Nat.toDigits 10 n) = n := by
  have digits : (Nat.toDigits 10 n).all Char.isDigit = true := by
    apply List.all_eq_true.mpr
    intro c listed
    exact Nat.isDigit_of_mem_toDigits (by decide) (by decide) listed
  unfold parseField
  rw [unsigned_toDigits, if_pos ⟨Nat.toDigits_ne_nil, digits⟩]
  exact Nat.ofDigitChars_toDigits (by decide) (by decide)

theorem space_not_mem_toDigits (n : Nat) : ' ' ∉ Nat.toDigits 10 n := by
  intro listed
  have digit : ' '.isDigit = true := Nat.isDigit_of_mem_toDigits (by decide) (by decide) listed
  cases digit

/-- What is shared is read back. -/
@[simp] theorem decode_encode (cooldown : Cooldown) :
    decode cooldown.encode = (cooldown.untilMs, cooldown.cooldownMs) := by
  unfold decode encode
  rw [String.toList_ofList, List.splitOn_append_cons_self_of_not_mem (space_not_mem_toDigits _),
    List.splitOn_eq_singleton (space_not_mem_toDigits _)]
  simp [parseField_toDigits]

theorem untilMs_le_failed (cooldown : Cooldown) (errorClass : ErrorClass) (retryAfterMs : Option Nat) (now : Nat) :
    cooldown.untilMs ≤ (cooldown.failed errorClass retryAfterMs now).2.untilMs := by
  simp only [failed]
  split
  · exact Nat.le_refl _
  · split
    · exact Nat.le_refl _
    · exact Nat.le_max_left _ _

end Cooldown

/-- How an attempt ended, as `cooldown_outcome` reads it: its class, and how long the authority asked to wait. -/
inductive Attempt where
  | succeeded
  | failed (errorClass : ErrorClass) (retryAfterMs : Option Nat)
deriving DecidableEq, Repr

/-- What the tasks of a machine do to its cool-down, each under the lock, and to the shared text. -/
inductive CoolAct where
  /-- Copies the cool-down and when the shared one was last read. -/
  | held
  | readMeta
  | merge (stored : Option String) (now : Nat)
  | record (attempt : Attempt) (now : Nat)
  | setMeta (value : String)
  /-- `start_due` goes on, knowing the end of the cool-down. -/
  | started (untilMs now : Nat)
deriving DecidableEq, Repr

def CoolAct.Ans : CoolAct → Type
  | .held => Cooldown × Nat
  | .readMeta => Except Unit (Option String)
  | .merge _ _ => Nat
  | .record _ _ => Option String
  | .setMeta _ => Except Unit Unit
  | .started _ _ => Unit

abbrev CoolProg := Prog CoolAct CoolAct.Ans

/-- `cooling_until`: the end of the cool-down, from the shared state at most `COOLDOWN_REFRESH_MS` old. -/
def coolingUntil (now : Nat) : CoolProg Nat := do
  let held : Cooldown × Nat ← Prog.act CoolAct.held
  if now - held.2 < cooldownRefreshMs then return held.1.untilMs
  else
    let stored : Except Unit (Option String) ← Prog.act CoolAct.readMeta
    match stored with
    | .ok stored => Prog.act (CoolAct.merge stored now)
    | .error _ => return held.1.untilMs

/-- `cooldown_outcome`: feeds an attempt's outcome to the cool-down, and shares a change with every machine. -/
def cooldownOutcome (attempt : Attempt) (now : Nat) : CoolProg Unit := do
  let shared : Option String ← Prog.act (CoolAct.record attempt now)
  match shared with
  | some value =>
      -- a failure to share it is only logged
      let _ ← Prog.act (CoolAct.setMeta value)
      return ()
  | none => return ()

/-- The runner's loop, one `start_due` after another. -/
def wakeups : List Nat → CoolProg Unit
  | [] => return ()
  | now :: later => do
      let untilMs ← coolingUntil now
      let _ ← Prog.act (CoolAct.started untilMs now)
      wakeups later

/-- The text in `meta`, and of every machine its cool-down and when it last read the shared one. -/
structure Cooldowns where
  shared : Option String
  machines : MachineId → Cooldown × Nat

namespace Cooldowns

def cooldown (s : Cooldowns) (m : MachineId) : Cooldown := (s.machines m).1

def setCooldown (s : Cooldowns) (m : MachineId) (cooldown : Cooldown) : Cooldowns :=
  { s with machines := fun m' => if m' = m then (cooldown, (s.machines m).2) else s.machines m' }

def setRead (s : Cooldowns) (m : MachineId) (now : Nat) : Cooldowns :=
  { s with machines := fun m' => if m' = m then ((s.machines m).1, now) else s.machines m' }

/-- The end in the shared text. -/
def sharedUntil (s : Cooldowns) : Nat := (s.shared.map fun stored => (Cooldown.decode stored).1).getD 0

@[simp] theorem cooldown_setCooldown (s : Cooldowns) (m m' : MachineId) (cooldown : Cooldown) :
    (s.setCooldown m cooldown).cooldown m' = if m' = m then cooldown else s.cooldown m' := by
  by_cases same : m' = m <;> simp [Cooldowns.cooldown, setCooldown, same]

@[simp] theorem cooldown_setRead (s : Cooldowns) (m m' : MachineId) (now : Nat) :
    (s.setRead m now).cooldown m' = s.cooldown m' := by
  by_cases same : m' = m <;> simp [Cooldowns.cooldown, setRead, same]

@[simp] theorem sharedUntil_setCooldown (s : Cooldowns) (m : MachineId) (cooldown : Cooldown) :
    (s.setCooldown m cooldown).sharedUntil = s.sharedUntil := rfl

@[simp] theorem sharedUntil_setRead (s : Cooldowns) (m : MachineId) (now : Nat) :
    (s.setRead m now).sharedUntil = s.sharedUntil := rfl

/-- `cooldown_outcome` under the lock: the text to share, when something changed. -/
def record (s : Cooldowns) (m : MachineId) (attempt : Attempt) (now : Nat) : Option String × Cooldowns :=
  let (changed, cooldown) := match attempt with
    | .succeeded => (s.cooldown m).succeeded
    | .failed errorClass retryAfterMs => (s.cooldown m).failed errorClass retryAfterMs now
  (if changed then some cooldown.encode else none, s.setCooldown m cooldown)

/-- `cooling_until` under the lock, once the shared text was read. -/
def merge (s : Cooldowns) (m : MachineId) (stored : Option String) (now : Nat) : Cooldowns :=
  (match stored with
  | some stored => s.setCooldown m ((s.cooldown m).merge stored)
  | none => s).setRead m now

end Cooldowns

/-- A machine has one runner; its attempts run beside it, any number at once. -/
inductive CoolTask where
  | runner (m : MachineId)
  | attempt (m : MachineId) (number : Nat)
deriving DecidableEq, Repr

def CoolTask.machine : CoolTask → MachineId
  | .runner m => m
  | .attempt m _ => m

inductive CoolJob where
  | wakeups (times : List Nat)
  | attempt (attempt : Attempt) (now : Nat)

/-- How a statement goes: it may fail without having been executed, or after. -/
inductive CoolChoice where
  | fine
  | failed
  | late
deriving DecidableEq, Repr

namespace Cooldowns

def exec (t : CoolTask) : (act : CoolAct) → CoolChoice → Cooldowns → Option (act.Ans × Cooldowns)
  | .held, .fine, s => some (s.machines t.machine, s)
  | .readMeta, .fine, s => some (.ok s.shared, s)
  | .readMeta, .failed, s => some (.error (), s)
  | .merge stored now, .fine, s =>
      some (((s.merge t.machine stored now).cooldown t.machine).untilMs, s.merge t.machine stored now)
  | .record attempt now, .fine, s => some (s.record t.machine attempt now)
  | .setMeta value, .fine, s => some (.ok (), { s with shared := some value })
  | .setMeta _, .failed, s => some (.error (), s)
  | .setMeta value, .late, s => some (.error (), { s with shared := some value })
  | .started _ _, .fine, s => some ((), s)
  | _, _, _ => none

end Cooldowns

/-- Machines that feed, share and read the cool-down. -/
def cooldowns : Tasks.Semantics CoolTask CoolAct CoolAct.Ans Cooldowns CoolJob where
  Choice := CoolChoice
  Move := Empty
  exec := Cooldowns.exec
  move := fun m => nomatch m
  program := fun t job =>
    match t, job with
    | .runner _, .wakeups times => wakeups times
    | .attempt _ _, .attempt attempt now => cooldownOutcome attempt now
    | _, _ => return ()

end OpenTunnel
