/-
Module: OpenTunnel.Proofs.Cooldown
Layer: Proofs
Purpose: What a shared success and a shared failure do to the machines that look again. The history says which success
  is the last word (no failure was recorded after it), whether it has been shared and which machines have read the
  shared state since; and the same of failures and how long each machine that read one owes to wait. A machine
  merges by maximum, so it forgets no end of its own: a success clears the machines that remember none.
Imports: OpenTunnel.Tasks.Contract, OpenTunnel.Tasks.Ghost, OpenTunnel.Model.Cooldown
Trusted boundary: none (fully proved)
Main exports: Clearing, Pausing, CoolHistory, cooldownHistory, cooldown_follows_outcomes
Open obligations: none
-/
import OpenTunnel.Tasks.Contract
import OpenTunnel.Tasks.Ghost
import OpenTunnel.Model.Cooldown

namespace OpenTunnel

open Tasks (Prog Rules Ghost)
open Tasks.Semantics (Assumptions idle withGhost_exec withGhost_move)

/-! ### The history -/

/-- Successes that no failure followed. -/
structure Clearing where
  /-- The task recorded such a success, which is to be shared. -/
  recorded : CoolTask → Bool := fun _ => false
  /-- One of them has been shared. -/
  shared : Bool := false
  /-- The machine's last read of the shared text came after that. -/
  reread : MachineId → Bool := fun _ => false
  /-- When the machine first merged such a read. -/
  mergedAt : MachineId → Option Nat := fun _ => none

/-- Failures that no success followed. -/
structure Pausing where
  /-- The end of the cool-down that the task recorded. -/
  recorded : CoolTask → Option Nat := fun _ => none
  /-- The latest end that has been shared. -/
  shared : Nat := 0
  /-- That end at the machine's last read of the shared text. -/
  reread : MachineId → Nat := fun _ => 0
  /-- The latest end the machine has merged. -/
  merged : MachineId → Nat := fun _ => 0

/-- A `start_due` going on: the end it was given and its clock, when its machine had merged a success that is still the
last word, and until when failures that are have it wait. -/
structure StartDue where
  untilMs : Nat
  now : Nat
  clearedAt : Option Nat
  pausedUntil : Nat
deriving DecidableEq, Repr

structure CoolHistory where
  clearing : Clearing := {}
  pausing : Pausing := {}
  starts : List StartDue := []

namespace Clearing

def record (clearing : Clearing) (t : CoolTask) (attempt : Attempt) (value : Option String) : Clearing :=
  match attempt with
  | .succeeded =>
      if value.isSome then { clearing with recorded := fun t' => if t' = t then true else clearing.recorded t' }
      else clearing
  | .failed _ _ => {}

def share (clearing : Clearing) (t : CoolTask) : Clearing :=
  { clearing with shared := clearing.shared || clearing.recorded t }

def read (clearing : Clearing) (m : MachineId) : Clearing :=
  { clearing with reread := fun m' => if m' = m then clearing.shared else clearing.reread m' }

def merge (clearing : Clearing) (m : MachineId) (now : Nat) : Clearing :=
  { clearing with mergedAt := fun m' =>
      if m' = m ∧ clearing.reread m = true then some ((clearing.mergedAt m).getD now) else clearing.mergedAt m' }

end Clearing

namespace Pausing

def record (pausing : Pausing) (t : CoolTask) (attempt : Attempt) (value : Option String) : Pausing :=
  match attempt with
  | .succeeded => {}
  | .failed _ _ =>
      match value with
      | some value =>
          { pausing with recorded := fun t' =>
              if t' = t then some (Cooldown.decode value).1 else pausing.recorded t' }
      | none => pausing

def share (pausing : Pausing) (t : CoolTask) : Pausing :=
  { pausing with shared := max pausing.shared ((pausing.recorded t).getD 0) }

def read (pausing : Pausing) (m : MachineId) : Pausing :=
  { pausing with reread := fun m' => if m' = m then pausing.shared else pausing.reread m' }

def merge (pausing : Pausing) (m : MachineId) : Pausing :=
  { pausing with merged := fun m' =>
      if m' = m then max (pausing.merged m) (pausing.reread m) else pausing.merged m' }

end Pausing

/-- How the history follows the acts. -/
def cooldownHistory : Ghost cooldowns CoolHistory where
  call := fun t act ans _ _ history =>
    match act, ans with
    | .readMeta, .ok _ =>
        { history with clearing := history.clearing.read t.machine, pausing := history.pausing.read t.machine }
    | .merge _ now, _ =>
        { history with clearing := history.clearing.merge t.machine now,
                       pausing := history.pausing.merge t.machine }
    | .record attempt _, value =>
        { history with clearing := history.clearing.record t attempt value,
                       pausing := history.pausing.record t attempt value }
    | .setMeta _, .ok _ =>
        { history with clearing := history.clearing.share t, pausing := history.pausing.share t }
    | .started untilMs now, _ =>
        { history with starts :=
            { untilMs := untilMs, now := now, clearedAt := history.clearing.mergedAt t.machine,
              pausedUntil := history.pausing.merged t.machine } :: history.starts }
    | _, _ => history

/-- The cluster with its history. -/
abbrev recordedCooldowns := cooldowns.withGhost cooldownHistory

/-- What `start_due` is to be given: no end past its clock once its machine has read a success that is the last word,
and no end before that of a failure that is and that its machine has read. -/
def StartDue.Follows (start : StartDue) : Prop :=
  (∀ read, start.clearedAt = some read → read ≤ start.now → start.untilMs ≤ start.now) ∧
    start.pausedUntil ≤ start.untilMs

instance (start : StartDue) : Decidable start.Follows :=
  match held : start.clearedAt with
  | none => decidable_of_iff (start.pausedUntil ≤ start.untilMs) (by simp [StartDue.Follows, held])
  | some read =>
      decidable_of_iff ((read ≤ start.now → start.untilMs ≤ start.now) ∧ start.pausedUntil ≤ start.untilMs)
        (by simp [StartDue.Follows, held])

/-- After a success that is the last word has been shared no text with an end is written, and after such a failure none
with an earlier end; and a machine that merges its first read since the success remembers no end past its clock. -/
def lastWordStands : Assumptions recordedCooldowns where
  call := fun t act (c : CoolChoice) s =>
    match act with
    | .setMeta value => c ≠ .failed →
        (s.2.clearing.shared = true → (Cooldown.decode value).1 = 0) ∧
          s.2.pausing.shared ≤ (Cooldown.decode value).1
    | .merge _ now => s.2.clearing.reread t.machine = true → s.2.clearing.mergedAt t.machine = none →
        (s.1.cooldown t.machine).untilMs ≤ now
    | _ => True

/-! ### What each act does -/

section Acts

variable {t : CoolTask} {c : CoolChoice} {s s' : Cooldowns × CoolHistory}

theorem exec_recorded {act : CoolAct} {ans : act.Ans} (executed : recordedCooldowns.exec t act c s = some (ans, s')) :
    ∃ w, Cooldowns.exec t act c s.1 = some (ans, w) ∧ s' = (w, cooldownHistory.call t act ans s.1 w s.2) := by
  obtain ⟨ran, history⟩ := withGhost_exec.mp executed
  exact ⟨s'.1, ran, Prod.ext rfl history⟩

/-- An act that cannot fail. -/
theorem exec_sure {act : CoolAct} {ans : act.Ans} (executed : recordedCooldowns.exec t act c s = some (ans, s'))
    (failed : Cooldowns.exec t act .failed s.1 = none) (late : Cooldowns.exec t act .late s.1 = none) :
    ∃ w, Cooldowns.exec t act .fine s.1 = some (ans, w) ∧ s' = (w, cooldownHistory.call t act ans s.1 w s.2) := by
  obtain ⟨w, ran, is⟩ := exec_recorded executed
  cases c with
  | fine => exact ⟨w, ran, is⟩
  | failed => exact absurd (failed.symm.trans ran) (by simp)
  | late => exact absurd (late.symm.trans ran) (by simp)

theorem exec_held {held : Cooldown × Nat} (executed : recordedCooldowns.exec t .held c s = some (held, s')) :
    held = s.1.machines t.machine ∧ s' = s := by
  obtain ⟨w, ran, rfl⟩ := exec_sure executed rfl rfl
  cases ran
  exact ⟨rfl, rfl⟩

theorem exec_readMeta {stored : Except Unit (Option String)}
    (executed : recordedCooldowns.exec t .readMeta c s = some (stored, s')) :
    (stored = .ok s.1.shared ∧ s' = (s.1, { s.2 with clearing := s.2.clearing.read t.machine,
                                                     pausing := s.2.pausing.read t.machine })) ∨
      (stored = .error () ∧ s' = s) := by
  obtain ⟨w, ran, rfl⟩ := exec_recorded executed
  cases c with
  | fine =>
      cases ran
      exact .inl ⟨rfl, rfl⟩
  | failed =>
      cases ran
      exact .inr ⟨rfl, rfl⟩
  | late => cases ran

theorem exec_merge {stored : Option String} {now untilMs : Nat}
    (executed : recordedCooldowns.exec t (.merge stored now) c s = some (untilMs, s')) :
    untilMs = (s'.1.cooldown t.machine).untilMs ∧
      s' = (s.1.merge t.machine stored now, { s.2 with clearing := s.2.clearing.merge t.machine now,
                                                       pausing := s.2.pausing.merge t.machine }) := by
  obtain ⟨w, ran, rfl⟩ := exec_sure executed rfl rfl
  cases ran
  exact ⟨rfl, rfl⟩

theorem exec_record {attempt : Attempt} {now : Nat} {value : Option String}
    (executed : recordedCooldowns.exec t (.record attempt now) c s = some (value, s')) :
    value = (s.1.record t.machine attempt now).1 ∧
      s' = ((s.1.record t.machine attempt now).2,
        { s.2 with clearing := s.2.clearing.record t attempt value,
                   pausing := s.2.pausing.record t attempt value }) := by
  obtain ⟨w, ran, rfl⟩ := exec_sure executed rfl rfl
  cases ran
  exact ⟨rfl, rfl⟩

/-- A write that took effect counts as shared once it answered so. -/
theorem exec_setMeta {value : String} {done : Except Unit Unit}
    (executed : recordedCooldowns.exec t (.setMeta value) c s = some (done, s')) :
    s' = s ∨ (c ≠ .failed ∧ s'.1 = { s.1 with shared := some value } ∧
      (s'.2 = s.2 ∨ s'.2 = { s.2 with clearing := s.2.clearing.share t, pausing := s.2.pausing.share t })) := by
  obtain ⟨w, ran, rfl⟩ := exec_recorded executed
  cases c with
  | fine =>
      cases ran
      exact .inr ⟨by simp, rfl, .inr rfl⟩
  | failed =>
      cases ran
      exact .inl rfl
  | late =>
      cases ran
      exact .inr ⟨by simp, rfl, .inl rfl⟩

theorem exec_started {untilMs now : Nat} {done : Unit}
    (executed : recordedCooldowns.exec t (.started untilMs now) c s = some (done, s')) :
    s' = (s.1, { s.2 with starts :=
      { untilMs := untilMs, now := now, clearedAt := s.2.clearing.mergedAt t.machine,
        pausedUntil := s.2.pausing.merged t.machine } :: s.2.starts }) := by
  obtain ⟨w, ran, rfl⟩ := exec_sure executed rfl rfl
  cases ran
  rfl

end Acts

/-! ### The invariant -/

/-- The end in a text that was read. -/
def storedUntil (stored : Option String) : Nat := (stored.map fun stored => (Cooldown.decode stored).1).getD 0

theorem untilMs_merge (s : Cooldowns) (m m' : MachineId) (stored : Option String) (now : Nat) :
    ((s.merge m stored now).cooldown m').untilMs =
      if m' = m then max (s.cooldown m).untilMs (storedUntil stored) else (s.cooldown m').untilMs := by
  cases stored with
  | none => by_cases same : m' = m <;> simp [Cooldowns.merge, storedUntil, same]
  | some stored => by_cases same : m' = m <;> simp [Cooldowns.merge, storedUntil, Cooldown.merge, same]

/-- What the history says of the shared text, of every machine and of every `start_due`. -/
structure CooldownsFollow (s : Cooldowns × CoolHistory) : Prop where
  cleared : s.2.clearing.shared = true → s.1.sharedUntil = 0
  reread : ∀ m, s.2.clearing.reread m = true → s.2.clearing.shared = true
  mergedAt : ∀ m read, s.2.clearing.mergedAt m = some read →
    s.2.clearing.shared = true ∧ (s.1.cooldown m).untilMs ≤ read
  paused : s.2.pausing.shared ≤ s.1.sharedUntil
  merged : ∀ m, s.2.pausing.merged m ≤ (s.1.cooldown m).untilMs
  starts : ∀ start ∈ s.2.starts, start.Follows

/-- The tasks of others leave what the history says of the machine's reads, or forget it. -/
def ReadsStand (m : MachineId) (s s' : Cooldowns × CoolHistory) : Prop :=
  ((s'.2.clearing.reread m = s.2.clearing.reread m ∧ s'.2.clearing.mergedAt m = s.2.clearing.mergedAt m) ∨
    (s'.2.clearing.reread m = false ∧ s'.2.clearing.mergedAt m = none)) ∧
  ((s'.2.pausing.reread m = s.2.pausing.reread m ∧ s'.2.pausing.merged m = s.2.pausing.merged m) ∨
    (s'.2.pausing.reread m = 0 ∧ s'.2.pausing.merged m = 0))

/-- They leave what it says of the task's record, or forget it. -/
def RecordStands (t : CoolTask) (s s' : Cooldowns × CoolHistory) : Prop :=
  (s'.2.clearing.recorded t = true → s.2.clearing.recorded t = true) ∧
    ∀ ends, s'.2.pausing.recorded t = some ends → s.2.pausing.recorded t = some ends

def cooldownRules : Rules CoolTask (Cooldowns × CoolHistory) where
  inv := CooldownsFollow
  rely := fun t s s' =>
    match t with
    | .runner m => ReadsStand m s s'
    | .attempt _ _ => RecordStands t s s'

theorem readsStand_of_eq {m : MachineId} {s s' : Cooldowns × CoolHistory}
    (reread : s'.2.clearing.reread m = s.2.clearing.reread m)
    (mergedAt : s'.2.clearing.mergedAt m = s.2.clearing.mergedAt m)
    (seen : s'.2.pausing.reread m = s.2.pausing.reread m) (merged : s'.2.pausing.merged m = s.2.pausing.merged m) :
    ReadsStand m s s' :=
  ⟨.inl ⟨reread, mergedAt⟩, .inl ⟨seen, merged⟩⟩

theorem recordStands_of_eq {t : CoolTask} {s s' : Cooldowns × CoolHistory}
    (cleared : s'.2.clearing.recorded t = s.2.clearing.recorded t)
    (paused : s'.2.pausing.recorded t = s.2.pausing.recorded t) : RecordStands t s s' := by
  constructor
  · rw [cleared]
    exact id
  · intro ends
    rw [paused]
    exact id

/-- An act of a machine's runner that leaves every record and what the history says of other machines. -/
theorem harmless_runner {m : MachineId} {s s' : Cooldowns × CoolHistory} (inv : CooldownsFollow s')
    (others : ∀ m', m' ≠ m → ReadsStand m' s s') (records : ∀ t, RecordStands t s s') :
    cooldownRules.Harmless (.runner m) s s' := by
  refine ⟨inv, fun t other => ?_⟩
  cases t with
  | runner m' => exact others m' (fun same => other (by rw [same]))
  | attempt m' number => exact records _

section Kept

variable {s : Cooldowns × CoolHistory} {t : CoolTask} {m : MachineId} (inv : CooldownsFollow s)

include inv

theorem follow_read :
    CooldownsFollow (s.1, { s.2 with clearing := s.2.clearing.read m, pausing := s.2.pausing.read m }) :=
  { inv with
    reread := by
      intro m' reread
      by_cases same : m' = m
      · simpa [Clearing.read, same] using reread
      · exact inv.reread m' (by simpa [Clearing.read, same] using reread) }

/-- A success takes the machine's end away and ends what failures owe. -/
theorem follow_succeeded (now : Nat) (value : Option String) :
    CooldownsFollow ((s.1.record t.machine .succeeded now).2,
      { s.2 with clearing := s.2.clearing.record t .succeeded value,
                 pausing := s.2.pausing.record t .succeeded value }) where
  cleared := by
    intro shared
    apply inv.cleared
    simp only [Clearing.record] at shared
    split at shared <;> exact shared
  reread := by
    intro m
    simp only [Clearing.record]
    split <;> exact inv.reread m
  mergedAt := by
    intro m read merged
    have before : s.2.clearing.mergedAt m = some read := by
      simp only [Clearing.record] at merged
      split at merged <;> exact merged
    obtain ⟨shared, early⟩ := inv.mergedAt m read before
    constructor
    · simp only [Clearing.record]
      split <;> exact shared
    · by_cases same : m = t.machine
      · simp [Cooldowns.record, Cooldown.succeeded, same]
      · simpa [Cooldowns.record, same] using early
  paused := Nat.zero_le _
  merged := fun _ => Nat.zero_le _
  starts := inv.starts

/-- A failure moves the machine's end later at most, and makes no success the last word. -/
theorem follow_failed (errorClass : ErrorClass) (retryAfterMs : Option Nat) (now : Nat) (value : Option String) :
    CooldownsFollow ((s.1.record t.machine (.failed errorClass retryAfterMs) now).2,
      { s.2 with clearing := s.2.clearing.record t (.failed errorClass retryAfterMs) value,
                 pausing := s.2.pausing.record t (.failed errorClass retryAfterMs) value }) where
  cleared := by simp [Clearing.record]
  reread := by simp [Clearing.record]
  mergedAt := by simp [Clearing.record]
  paused := by
    have before := inv.paused
    cases value <;> exact before
  merged := by
    intro m
    have before := inv.merged m
    have owed : (s.2.pausing.record t (.failed errorClass retryAfterMs) value).merged m = s.2.pausing.merged m := by
      cases value <;> rfl
    simp only [owed]
    by_cases same : m = t.machine
    · subst same
      simp only [Cooldowns.record, Cooldowns.cooldown_setCooldown, if_true]
      exact Nat.le_trans before ((s.1.cooldown t.machine).untilMs_le_failed errorClass retryAfterMs now)
    · simpa [Cooldowns.record, same] using before
  starts := inv.starts

/-- A text is written after which the last word still stands. -/
theorem follow_written {value : String} (cleared : s.2.clearing.shared = true → (Cooldown.decode value).1 = 0)
    (paused : s.2.pausing.shared ≤ (Cooldown.decode value).1) :
    CooldownsFollow ({ s.1 with shared := some value }, s.2) :=
  { inv with cleared := cleared, paused := paused }

/-- The task whose record is in the text counts it as shared. -/
theorem follow_shared {value : String} (written : s.1.shared = some value)
    (cleared : s.2.clearing.recorded t = true → (Cooldown.decode value).1 = 0)
    (paused : ∀ ends, s.2.pausing.recorded t = some ends → ends = (Cooldown.decode value).1) :
    CooldownsFollow (s.1, { s.2 with clearing := s.2.clearing.share t, pausing := s.2.pausing.share t }) where
  cleared := by
    intro shared
    rcases Bool.or_eq_true _ _ |>.mp shared with before | own
    · exact inv.cleared before
    · simp [Cooldowns.sharedUntil, written, cleared own]
  reread := by
    intro m reread
    simp [Clearing.share, inv.reread m reread]
  mergedAt := by
    intro m read merged
    obtain ⟨shared, early⟩ := inv.mergedAt m read merged
    exact ⟨by simp [Clearing.share, shared], early⟩
  paused := by
    apply Nat.max_le.mpr
    refine ⟨inv.paused, ?_⟩
    cases own : s.2.pausing.recorded t with
    | none => exact Nat.zero_le _
    | some ends => simp [Cooldowns.sharedUntil, written, paused ends own]
  merged := inv.merged
  starts := inv.starts

/-- The machine's end after a merge: a read since the success adds none, one since a failure its end. -/
theorem follow_merge {stored : Option String} {now : Nat}
    (cleared : s.2.clearing.reread m = true → storedUntil stored = 0)
    (paused : s.2.pausing.reread m ≤ storedUntil stored)
    (known : s.2.clearing.mergedAt m ≠ none → s.2.clearing.reread m = true)
    (first : s.2.clearing.reread m = true → s.2.clearing.mergedAt m = none → (s.1.cooldown m).untilMs ≤ now) :
    CooldownsFollow (s.1.merge m stored now,
      { s.2 with clearing := s.2.clearing.merge m now, pausing := s.2.pausing.merge m }) where
  cleared := by
    intro shared
    have before := inv.cleared shared
    cases stored <;> exact before
  reread := inv.reread
  mergedAt := by
    intro m' read merged
    simp only [Clearing.merge] at merged
    simp only [untilMs_merge]
    by_cases same : m' = m
    · subst same
      by_cases reread : s.2.clearing.reread m' = true
      · simp only [reread, and_self, if_true, Option.some.injEq] at merged
        refine ⟨inv.reread m' reread, ?_⟩
        rw [if_pos rfl, cleared reread, Nat.max_zero]
        cases held : s.2.clearing.mergedAt m' with
        | none =>
            rw [held] at merged
            exact merged ▸ first reread held
        | some earlier =>
            rw [held] at merged
            exact merged ▸ (inv.mergedAt m' earlier held).2
      · rw [if_neg (by simp [reread])] at merged
        exact absurd (known (by simp [merged])) reread
    · simp only [same, false_and, if_false] at merged ⊢
      exact inv.mergedAt m' read merged
  paused := by
    have before := inv.paused
    cases stored <;> exact before
  merged := by
    intro m'
    have before := inv.merged m'
    simp only [Pausing.merge, untilMs_merge]
    by_cases same : m' = m
    · subst same
      simp only [if_true]
      omega
    · simpa [same] using before
  starts := inv.starts

end Kept

/-! ### The programs -/

section Programs

variable {t : CoolTask} {m : MachineId} {s : Cooldowns × CoolHistory}

/-- The end may be used by the machine's `start_due`. -/
def Usable (m : MachineId) (untilMs : Nat) (s : Cooldowns × CoolHistory) : Prop :=
  (∀ read, s.2.clearing.mergedAt m = some read → untilMs ≤ read) ∧ s.2.pausing.merged m ≤ untilMs

/-- The text is what the machine's last read found. -/
def LastRead (m : MachineId) (stored : Option String) (s : Cooldowns × CoolHistory) : Prop :=
  (s.2.clearing.reread m = true → storedUntil stored = 0) ∧ s.2.pausing.reread m ≤ storedUntil stored ∧
    (s.2.clearing.mergedAt m ≠ none → s.2.clearing.reread m = true)

/-- The text holds what the task recorded, as far as that is the last word. -/
def RecordIn (t : CoolTask) (value : String) (s : Cooldowns × CoolHistory) : Prop :=
  (s.2.clearing.recorded t = true → (Cooldown.decode value).1 = 0) ∧
    ∀ ends, s.2.pausing.recorded t = some ends → ends = (Cooldown.decode value).1

theorem usable_stable (untilMs : Nat) : cooldownRules.Stable (.runner m) (Usable m untilMs) := by
  intro s s' _ stands usable
  obtain ⟨clearing, pausing⟩ := stands
  constructor
  · intro read merged
    rcases clearing with ⟨_, same⟩ | ⟨_, none⟩
    · exact usable.1 read (same ▸ merged)
    · rw [none] at merged
      cases merged
  · rcases pausing with ⟨_, same⟩ | ⟨_, zero⟩
    · rw [same]
      exact usable.2
    · rw [zero]
      exact Nat.zero_le _

theorem lastRead_stable (stored : Option String) : cooldownRules.Stable (.runner m) (LastRead m stored) := by
  intro s s' _ stands read
  obtain ⟨clearing, pausing⟩ := stands
  obtain ⟨cleared, paused, known⟩ := read
  have paused' : s'.2.pausing.reread m ≤ storedUntil stored := by
    rcases pausing with ⟨same, _⟩ | ⟨zero, _⟩ <;> omega
  rcases clearing with ⟨same, kept⟩ | ⟨forgotten, none⟩
  · rw [LastRead, same, kept]
    exact ⟨cleared, paused', known⟩
  · rw [LastRead, forgotten, none]
    exact ⟨by simp, paused', by simp⟩

theorem recordIn_stable (number : Nat) (value : String) :
    cooldownRules.Stable (.attempt m number) (RecordIn (.attempt m number) value) := by
  intro s s' _ stands holds
  exact ⟨fun recorded => holds.1 (stands.1 recorded), fun ends recorded => holds.2 ends (stands.2 ends recorded)⟩

theorem harmless_self {t : CoolTask} (inv : CooldownsFollow s) : cooldownRules.Harmless t s s := by
  refine ⟨inv, fun other _ => ?_⟩
  cases other with
  | runner m => exact readsStand_of_eq rfl rfl rfl rfl
  | attempt m number => exact recordStands_of_eq rfl rfl

theorem lastRead_of_read (inv : CooldownsFollow s) :
    LastRead m s.1.shared
      (s.1, { s.2 with clearing := s.2.clearing.read m, pausing := s.2.pausing.read m }) := by
  refine ⟨?_, ?_, ?_⟩
  · intro reread
    exact inv.cleared (by simpa [Clearing.read] using reread)
  · simpa [Pausing.read, storedUntil, Cooldowns.sharedUntil] using inv.paused
  · intro merged
    obtain ⟨read, held⟩ := Option.ne_none_iff_exists'.mp merged
    simpa [Clearing.read] using (inv.mergedAt m read held).1

theorem follow_started {untilMs now : Nat} (inv : CooldownsFollow s) (usable : Usable m untilMs s) :
    CooldownsFollow (s.1, { s.2 with starts :=
      { untilMs := untilMs, now := now, clearedAt := s.2.clearing.mergedAt m,
        pausedUntil := s.2.pausing.merged m } :: s.2.starts }) :=
  { inv with
    starts := by
      intro start listed
      rcases List.mem_cons.mp listed with rfl | before
      · exact ⟨fun read merged early => Nat.le_trans (usable.1 read merged) early, usable.2⟩
      · exact inv.starts start before }

theorem safe_coolingUntil (now : Nat) :
    cooldownRules.Safe lastWordStands (.runner m) (coolingUntil now) (Usable m) s := by
  apply Rules.safe_bind
  apply Rules.safe_act
  intro s₁ _ inv c held s₂ _ executed
  obtain ⟨rfl, rfl⟩ := exec_held executed
  refine ⟨harmless_self inv, ?_⟩
  have usable : Usable m (s₂.1.machines m).1.untilMs s₂ :=
    ⟨fun read merged => (inv.mergedAt m read merged).2, inv.merged m⟩
  split
  · exact usable
  · apply Rules.safe_bind
    apply Rules.safe_act
    intro s₃ drift inv c stored s₄ _ executed
    have usable := (usable_stable _).drift drift usable
    rcases exec_readMeta executed with ⟨rfl, rfl⟩ | ⟨rfl, rfl⟩
    · refine ⟨harmless_runner (follow_read inv) ?_ ?_, ?_⟩
      · intro m' other
        apply readsStand_of_eq <;> simp [Clearing.read, Pausing.read, CoolTask.machine, other]
      · intro t
        exact recordStands_of_eq rfl rfl
      · apply Rules.safe_act
        intro s₅ drift' inv' c untilMs s₆ first executed
        obtain ⟨cleared, paused, known⟩ := (lastRead_stable s₃.1.shared).drift drift' (lastRead_of_read inv)
        obtain ⟨rfl, rfl⟩ := exec_merge executed
        have merged := follow_merge inv' cleared paused known first
        refine ⟨harmless_runner merged ?_ ?_, ?_⟩
        · intro m' other
          apply readsStand_of_eq <;> simp [Clearing.merge, Pausing.merge, CoolTask.machine, other]
        · intro t
          exact recordStands_of_eq rfl rfl
        · exact ⟨fun read held => (merged.mergedAt m read held).2, merged.merged m⟩
    · exact ⟨harmless_self inv, usable⟩

theorem safe_wakeups (times : List Nat) :
    cooldownRules.Safe lastWordStands (.runner m) (wakeups times) (fun _ _ => True) s := by
  induction times generalizing s with
  | nil => trivial
  | cons now later ih =>
      apply Rules.safe_bind
      apply Rules.safe_mono (safe_coolingUntil now)
      intro untilMs s₁ usable
      apply Rules.safe_bind
      apply Rules.safe_act
      intro s₂ drift inv c done s₃ _ executed
      have usable := (usable_stable untilMs).drift drift usable
      cases exec_started executed
      refine ⟨harmless_runner (follow_started inv usable) ?_ ?_, ih⟩
      · intro m' _
        exact readsStand_of_eq rfl rfl rfl rfl
      · intro t
        exact recordStands_of_eq rfl rfl

/-- A success that is to be shared holds no end. -/
theorem recordIn_succeeded {text : String} {now : Nat} (shares : (s.1.record m .succeeded now).1 = some text) :
    (Cooldown.decode text).1 = 0 := by
  have answer : (s.1.record m .succeeded now).1 =
      if 0 < (s.1.cooldown m).cooldownMs then some ({} : Cooldown).encode else none := by
    simp [Cooldowns.record, Cooldown.succeeded]
  rw [answer] at shares
  split at shares
  · cases shares
    simp
  · cases shares

theorem safe_record (number : Nat) (attempt : Attempt) (now : Nat) {c : CoolChoice} {value : Option String}
    {s' : Cooldowns × CoolHistory} (inv : CooldownsFollow s)
    (executed : recordedCooldowns.exec (.attempt m number) (.record attempt now) c s = some (value, s')) :
    cooldownRules.Harmless (.attempt m number) s s' ∧
      ∀ text, value = some text → RecordIn (.attempt m number) text s' := by
  obtain ⟨answer, rfl⟩ := exec_record executed
  cases attempt with
  | succeeded =>
      refine ⟨⟨follow_succeeded inv now value, fun t other => ?_⟩, fun text shares => ?_⟩
      · cases t with
        | runner m' =>
            refine ⟨.inl ?_, .inr ⟨rfl, rfl⟩⟩
            simp only [Clearing.record]
            split <;> exact ⟨rfl, rfl⟩
        | attempt m' number' =>
            refine ⟨fun recorded => ?_, by simp [Pausing.record]⟩
            simp only [Clearing.record] at recorded
            split at recorded
            · simpa [other] using recorded
            · exact recorded
      · refine ⟨fun _ => ?_, by simp [Pausing.record]⟩
        rw [shares] at answer
        exact recordIn_succeeded answer.symm
  | failed errorClass retryAfterMs =>
      refine ⟨⟨follow_failed inv errorClass retryAfterMs now value, fun t other => ?_⟩, fun text shares => ?_⟩
      · cases t with
        | runner m' =>
            refine ⟨.inr ⟨rfl, rfl⟩, .inl ?_⟩
            cases value <;> exact ⟨rfl, rfl⟩
        | attempt m' number' =>
            refine ⟨by simp [Clearing.record], fun ends recorded => ?_⟩
            cases value with
            | none => exact recorded
            | some text => simpa [Pausing.record, other] using recorded
      · subst shares
        refine ⟨by simp [Clearing.record], fun ends recorded => ?_⟩
        simpa [Pausing.record] using recorded.symm

theorem safe_setMeta (number : Nat) {value : String} {c : CoolChoice} {done : Except Unit Unit}
    {s' : Cooldowns × CoolHistory} (inv : CooldownsFollow s)
    (holds : RecordIn (.attempt m number) value s)
    (stands : lastWordStands.call (.attempt m number) (.setMeta value) c s)
    (executed : recordedCooldowns.exec (.attempt m number) (.setMeta value) c s = some (done, s')) :
    cooldownRules.Harmless (.attempt m number) s s' := by
  rcases exec_setMeta executed with rfl | ⟨ran, written, history⟩
  · exact harmless_self inv
  · have written : s' = ({ s.1 with shared := some value }, s'.2) := Prod.ext written rfl
    have stands := stands ran
    have follows := follow_written inv stands.1 stands.2
    rcases history with same | shared
    · rw [written, same]
      refine ⟨follows, fun t _ => ?_⟩
      cases t with
      | runner m' => exact readsStand_of_eq rfl rfl rfl rfl
      | attempt m' number' => exact recordStands_of_eq rfl rfl
    · rw [written, shared]
      refine ⟨follow_shared follows rfl holds.1 holds.2, fun t _ => ?_⟩
      cases t with
      | runner m' => exact readsStand_of_eq rfl rfl rfl rfl
      | attempt m' number' => exact recordStands_of_eq rfl rfl

theorem safe_cooldownOutcome (number : Nat) (attempt : Attempt) (now : Nat) :
    cooldownRules.Safe lastWordStands (.attempt m number) (cooldownOutcome attempt now) (fun _ _ => True) s := by
  apply Rules.safe_bind
  apply Rules.safe_act
  intro s₁ _ inv c value s₂ _ executed
  obtain ⟨harmless, holds⟩ := safe_record number attempt now inv executed
  refine ⟨harmless, ?_⟩
  cases value with
  | none => trivial
  | some text =>
      apply Rules.safe_bind
      apply Rules.safe_act
      intro s₃ drift inv c done s₄ stands executed
      have holds := (recordIn_stable number text).drift drift (holds text rfl)
      exact ⟨safe_setMeta number inv holds stands executed, trivial⟩

end Programs

/-! ### Every run -/

/-- Wherever the last word stands, every `start_due` follows it: on a machine that has read a shared success that no
failure followed it goes on, and on one that has read a shared failure that no success followed it waits until the
end stated there. -/
theorem cooldown_follows_outcomes {w : Cooldowns} {cfg : Tasks.Config CoolTask CoolAct CoolAct.Ans (Cooldowns × CoolHistory)}
    (reach : recordedCooldowns.Reach lastWordStands (idle (w, {})) cfg) :
    ∀ start ∈ cfg.shared.2.starts, start.Follows := by
  have initial : CooldownsFollow (w, {}) :=
    { cleared := by simp, reread := by simp, mergedAt := by simp, paused := Nat.zero_le _,
      merged := fun _ => Nat.zero_le _, starts := by simp }
  have safe := reach.safe (R := cooldownRules) initial
    (by
      intro t job s _ _
      cases t with
      | runner m =>
          cases job with
          | wakeups times => exact safe_wakeups times
          | attempt attempt now => trivial
      | attempt m number =>
          cases job with
          | wakeups times => trivial
          | attempt attempt now => exact safe_cooldownOutcome number attempt now)
    (fun m => nomatch m)
  exact safe.1.starts

/-! ### Runs of two machines -/

instance : (lastWordStands).Checkable where
  start := fun _ _ _ => isTrue trivial
  call := fun t act (c : CoolChoice) (s : Cooldowns × CoolHistory) =>
    match act with
    | .setMeta value => inferInstanceAs (Decidable (c ≠ .failed →
        (s.2.clearing.shared = true → (Cooldown.decode value).1 = 0) ∧
          s.2.pausing.shared ≤ (Cooldown.decode value).1))
    | .merge _ now => inferInstanceAs (Decidable (s.2.clearing.reread t.machine = true →
        s.2.clearing.mergedAt t.machine = none → (s.1.cooldown t.machine).untilMs ≤ now))
    | .held | .readMeta | .record _ _ | .started _ _ => isTrue trivial
  move := fun _ _ => isTrue trivial

/-- Runs without any condition. -/
def anyCooldowns : Assumptions recordedCooldowns := {}

instance : (anyCooldowns).Checkable where
  start := fun _ _ _ => isTrue trivial
  call := fun _ _ _ _ => isTrue trivial
  move := fun _ _ => isTrue trivial

def noCooldowns : Cooldowns := { shared := none, machines := fun _ => ({}, 0) }

/-- A machine's runner looks at the shared state. -/
def looksAgain (m : MachineId) : List recordedCooldowns.Turn :=
  [.call (.runner m) CoolChoice.fine, .call (.runner m) CoolChoice.fine, .call (.runner m) CoolChoice.fine,
   .call (.runner m) CoolChoice.fine]

/-- An attempt of a machine ends and is shared. -/
def outcomeShared (m : MachineId) (number : Nat) (attempt : Attempt) (now : Nat) : List recordedCooldowns.Turn :=
  [.start (.attempt m number) (.attempt attempt now), .call (.attempt m number) CoolChoice.fine,
   .call (.attempt m number) CoolChoice.fine]

/-- One machine is rate limited and shares it, the other reads that; the first succeeds and shares it, and the other
looks again `later`. -/
def limitedThenSucceeds (later : Nat) : List recordedCooldowns.Turn :=
  outcomeShared "a" 0 (.failed .http429 none) 0 ++
    [.start (.runner "b") (.wakeups [20 * secondMs, later])] ++ looksAgain "b" ++
    outcomeShared "a" 1 .succeeded (30 * secondMs) ++ looksAgain "b"

/-- The `start_due`s of a schedule, the last one first. -/
def startsOf (A : Assumptions recordedCooldowns) [A.Checkable] (turns : List recordedCooldowns.Turn) :
    Option (List StartDue) :=
  (Tasks.Semantics.play A turns (idle (noCooldowns, {}))).map fun cfg => cfg.shared.2.starts

/-- The other machine waits until the stated end, and goes on once that is past. -/
theorem cooldown_follows_outcomes_later :
    ∃ cfg, recordedCooldowns.Reach lastWordStands (idle (noCooldowns, {})) cfg ∧
      cfg.shared.2.starts =
        [{ untilMs := 60 * secondMs, now := 70 * secondMs, clearedAt := some (70 * secondMs), pausedUntil := 0 },
         { untilMs := 60 * secondMs, now := 20 * secondMs, clearedAt := none, pausedUntil := 60 * secondMs }] ∧
      ∀ start ∈ cfg.shared.2.starts, start.Follows := by
  have seen : startsOf lastWordStands (limitedThenSucceeds (70 * secondMs)) =
      some [{ untilMs := 60 * secondMs, now := 70 * secondMs, clearedAt := some (70 * secondMs), pausedUntil := 0 },
            { untilMs := 60 * secondMs, now := 20 * secondMs, clearedAt := none, pausedUntil := 60 * secondMs }] := by
    decide +kernel
  obtain ⟨cfg, ran, seen⟩ := Option.map_eq_some_iff.mp seen
  have reach := Tasks.Semantics.reach_of_play ran
  exact ⟨cfg, reach, seen, cooldown_follows_outcomes reach⟩

/-- At 40 s the other machine has read the success and still cools down: it remembers the end at 60 s that it read
before. -/
theorem machine_cools_after_shared_success :
    ∃ cfg, recordedCooldowns.Reach anyCooldowns (idle (noCooldowns, {})) cfg ∧
      ∃ start ∈ cfg.shared.2.starts, start.clearedAt = some start.now ∧ start.now < start.untilMs ∧
        ¬ start.Follows := by
  have seen : startsOf anyCooldowns (limitedThenSucceeds (40 * secondMs)) =
      some [{ untilMs := 60 * secondMs, now := 40 * secondMs, clearedAt := some (40 * secondMs), pausedUntil := 0 },
            { untilMs := 60 * secondMs, now := 20 * secondMs, clearedAt := none, pausedUntil := 60 * secondMs }] := by
    decide +kernel
  obtain ⟨cfg, ran, seen⟩ := Option.map_eq_some_iff.mp seen
  refine ⟨cfg, Tasks.Semantics.reach_of_play ran,
    { untilMs := 60 * secondMs, now := 40 * secondMs, clearedAt := some (40 * secondMs), pausedUntil := 0 },
    by simp [seen], rfl, by decide, ?_⟩
  decide

end OpenTunnel
