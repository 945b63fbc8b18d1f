/-
Module: OpenTunnel.Proofs.Splice
Layer: Proofs
Purpose: What `splice` does in every order of events. Each direction carries every byte in order and passes the end on only
  after all of them; the connection is closed without a reset only when both directions are through. It times out only
  after the quiet it allows, to the millisecond, and, when its timer is on time, no later.
Imports: OpenTunnel.Model.Splice
Trusted boundary: none (fully proved)
Main exports: Splice.Pipe.Sound, Splice.State.Sound, Splice.State.OnTime, Splice.splice_carries, Splice.splice_expires
Open obligations: none
-/
import OpenTunnel.Model.Splice

namespace OpenTunnel.Splice

open Tasks

/-! ### One direction -/

/-- What was given is what was written, what is held and what is not read yet; behind the end nothing is left. -/
structure Pipe.Sound (pipe : Pipe) : Prop where
  bytes : pipe.given = pipe.written ++ pipe.stage.held ++ pipe.unread
  small : pipe.stage.held.length ≤ copyBuffer
  closing : pipe.stage.closing = true → pipe.ended = true ∧ pipe.unread = []

namespace Pipe

variable {pipe pipe' : Pipe}

/-- A direction that is closing holds nothing back. -/
theorem held_closing {stage : Stage} (closing : stage.closing = true) : stage.held = [] := by
  cases stage with
  | reading => cases closing
  | writing left => cases closing
  | shutting => rfl
  | done => rfl

/-- Once the end was read, everything was written. -/
theorem Sound.through (sound : pipe.Sound) (closing : pipe.stage.closing = true) : pipe.ended = true ∧ pipe.written = pipe.given := by
  obtain ⟨ended, read_⟩ := sound.closing closing
  refine ⟨ended, ?_⟩
  rw [sound.bytes, held_closing closing, read_, List.append_nil, List.append_nil]

theorem sound_new : ({} : Pipe).Sound := ⟨rfl, Nat.zero_le _, nofun⟩

theorem sound_arrive {bytes : Bytes} (sound : pipe.Sound) (arrived : pipe.arrive bytes = some pipe') :
    pipe'.Sound ∧ pipe'.stage = pipe.stage := by
  unfold arrive at arrived
  split at arrived
  · cases arrived
  · rename_i open_
    cases arrived
    refine ⟨⟨?_, sound.small, fun closing => absurd (sound.closing closing).1 open_⟩, rfl⟩
    simp only [sound.bytes, List.append_assoc]

theorem sound_finish (sound : pipe.Sound) (finished : pipe.finish = some pipe') : pipe'.Sound ∧ pipe'.stage = pipe.stage := by
  unfold finish at finished
  split at finished
  · cases finished
  · cases finished
    exact ⟨⟨sound.bytes, sound.small, fun closing => ⟨rfl, (sound.closing closing).2⟩⟩, rfl⟩

/-- A read moves bytes from the socket into the buffer. -/
theorem sound_read {n : Nat} (sound : pipe.Sound) (read_ : pipe.read n = some pipe') :
    pipe'.Sound ∧ pipe.stage.closing = false ∧ pipe'.stage.closing = false := by
  unfold read at read_
  split at read_
  · rename_i can
    obtain ⟨reading, _, small, _⟩ := can
    cases read_
    refine ⟨⟨?_, ?_, nofun⟩, by rw [reading]; rfl, rfl⟩
    · simp only [sound.bytes, reading, Stage.held, List.append_nil, List.append_assoc, List.take_append_drop]
    · exact Nat.le_trans (List.length_take_le n pipe.unread) small
  · cases read_

theorem sound_readEnd (sound : pipe.Sound) (read_ : pipe.readEnd = some pipe') : pipe'.Sound ∧ pipe'.stage = .shutting := by
  unfold readEnd at read_
  split at read_
  · rename_i can
    obtain ⟨reading, none_, ended⟩ := can
    cases read_
    refine ⟨⟨?_, Nat.zero_le _, fun _ => ⟨ended, none_⟩⟩, rfl⟩
    simp only [sound.bytes, reading, Stage.held]
  · cases read_

/-- A write moves a part of the buffer on. -/
theorem sound_write {n : Nat} (sound : pipe.Sound) (wrote : pipe.write n = some pipe') :
    pipe'.Sound ∧ pipe.stage.closing = false ∧ pipe'.stage.closing = false := by
  unfold write at wrote
  split at wrote
  · rename_i left writing
    split at wrote
    · cases wrote
      have bytes := sound.bytes
      have small := sound.small
      rw [writing, Stage.held] at bytes small
      have whole : pipe.given = pipe.written ++ (left.take n ++ left.drop n) ++ pipe.unread := by
        rw [List.take_append_drop]
        exact bytes
      by_cases all : left.drop n = []
      · rw [all, List.append_nil] at whole
        simp only [all, if_true]
        exact ⟨⟨by simp only [Stage.held, List.append_nil, whole], Nat.zero_le _, nofun⟩, by rw [writing]; rfl, rfl⟩
      · simp only [if_neg all]
        refine ⟨⟨?_, ?_, nofun⟩, by rw [writing]; rfl, rfl⟩
        · simp only [Stage.held, whole, List.append_assoc]
        · have shorter : (left.drop n).length ≤ left.length := by
            rw [List.length_drop]
            exact Nat.sub_le _ _
          exact Nat.le_trans shorter small
    · cases wrote
  · cases wrote

/-- A direction is shut down once its buffer is empty. -/
theorem sound_shutdown (sound : pipe.Sound) (shut : pipe.shutdown = some pipe') :
    pipe'.Sound ∧ pipe.stage.closing = true ∧ pipe'.stage.closing = true := by
  unfold shutdown at shut
  split at shut
  · rename_i shutting
    cases shut
    have closing : pipe.stage.closing = true := by rw [shutting]; rfl
    refine ⟨⟨?_, Nat.zero_le _, fun _ => sound.closing closing⟩, closing, rfl⟩
    simp only [sound.bytes, shutting, Stage.held]
  · cases shut

end Pipe

/-! ### Both -/

namespace State

/-- One of the directions has read its end. -/
def closing (s : State) : Bool := s.forward.stage.closing || s.backward.stage.closing

/-- The quiet that is allowed now. -/
def allowed (s : State) (timeouts : Timeouts) : Nat := if s.closing then timeouts.halfClose else timeouts.idle

structure Sound (timeouts : Timeouts) (s : State) : Prop where
  forward : s.forward.Sound
  backward : s.backward.Sound
  last : s.activity.last = s.moved / millisecond
  past : s.moved ≤ s.clock
  half : s.activity.halfClosed = s.closing
  ok : s.outcome = some .ok → s.forward.stage = .done ∧ s.backward.stage = .done
  timedOut : s.outcome = some .timedOut → s.activity.deadline timeouts ≤ s.clock

variable {timeouts : Timeouts} {s s' : State}

theorem Sound.pipe (sound : s.Sound timeouts) (direction : Direction) : (s.pipe direction).Sound := by
  cases direction with
  | forward => exact sound.forward
  | backward => exact sound.backward

/-- Whether the splice is half-closed depends on the stages only. -/
theorem closing_same {direction : Direction} {pipe : Pipe} (same : pipe.stage.closing = (s.pipe direction).stage.closing) :
    (s.setPipe direction pipe).closing = s.closing := by
  cases direction with
  | forward => simp only [closing, setPipe, same, State.pipe]
  | backward => simp only [closing, setPipe, same, State.pipe]

/-- A direction moves on, and neither reads its end nor has read it. -/
theorem Sound.set (sound : s.Sound timeouts) (running : s.outcome = none) {direction : Direction} {pipe : Pipe} (sound' : pipe.Sound)
    (same : pipe.stage.closing = (s.pipe direction).stage.closing) : (s.setPipe direction pipe).Sound timeouts := by
  have half : s.activity.halfClosed = (s.setPipe direction pipe).closing := sound.half.trans (closing_same same).symm
  cases direction with
  | forward =>
      exact ⟨sound', sound.backward, sound.last, sound.past, half, fun is => absurd (running.symm.trans is) nofun,
        fun is => absurd (running.symm.trans is) nofun⟩
  | backward =>
      exact ⟨sound.forward, sound', sound.last, sound.past, half, fun is => absurd (running.symm.trans is) nofun,
        fun is => absurd (running.symm.trans is) nofun⟩

/-- The last activity is not in the future. -/
theorem Sound.last_now (sound : s.Sound timeouts) : max s.activity.last (s.clock / millisecond) = s.clock / millisecond := by
  rw [sound.last]
  exact Nat.max_eq_right (Nat.div_le_div_right sound.past)

/-- A move is noted. -/
theorem Sound.touch (sound : s.Sound timeouts) (running : s.outcome = none) : s.touch.Sound timeouts where
  forward := sound.forward
  backward := sound.backward
  last := sound.last_now
  past := Nat.le_refl _
  half := sound.half
  ok := fun is => absurd (running.symm.trans is) nofun
  timedOut := fun is => absurd (running.symm.trans is) nofun

theorem closing_set {direction : Direction} {pipe : Pipe} (closes : pipe.stage.closing = true) :
    (s.setPipe direction pipe).closing = true := by
  cases direction with
  | forward => simp only [closing, setPipe, closes, Bool.true_or]
  | backward => simp only [closing, setPipe, closes, Bool.or_true]

@[simp] theorem setPipe_outcome (direction : Direction) (pipe : Pipe) : (s.setPipe direction pipe).outcome = s.outcome := by
  cases direction with
  | forward => rfl
  | backward => rfl

@[simp] theorem setPipe_clock (direction : Direction) (pipe : Pipe) : (s.setPipe direction pipe).clock = s.clock := by
  cases direction with
  | forward => rfl
  | backward => rfl

@[simp] theorem setPipe_wake (direction : Direction) (pipe : Pipe) : (s.setPipe direction pipe).wake = s.wake := by
  cases direction with
  | forward => rfl
  | backward => rfl

@[simp] theorem setPipe_moved (direction : Direction) (pipe : Pipe) : (s.setPipe direction pipe).moved = s.moved := by
  cases direction with
  | forward => rfl
  | backward => rfl

/-- The first end, or the second. -/
theorem Sound.halfClose (sound : s.Sound timeouts) (running : s.outcome = none) {direction : Direction} {pipe : Pipe}
    (sound' : pipe.Sound) (closes : pipe.stage.closing = true) : (s.setPipe direction pipe).halfClose.Sound timeouts := by
  have half : true = (s.setPipe direction pipe).closing := (closing_set closes).symm
  have last := sound.last_now
  cases direction with
  | forward =>
      exact ⟨sound', sound.backward, last, Nat.le_refl _, half, fun is => absurd (running.symm.trans is) nofun,
        fun is => absurd (running.symm.trans is) nofun⟩
  | backward =>
      exact ⟨sound.forward, sound', last, Nat.le_refl _, half, fun is => absurd (running.symm.trans is) nofun,
        fun is => absurd (running.symm.trans is) nofun⟩

theorem Sound.sleep (sound : s.Sound timeouts) (wake : Nat) : ({ s with wake := wake } : State).Sound timeouts := { sound with }

/-- A turn of the timer keeps the invariant. -/
theorem Sound.turn (sound : s.Sound timeouts) : s.turn.Sound timeouts := by
  unfold State.turn
  split
  · rename_i both
    exact { sound with ok := fun _ => both, timedOut := nofun }
  · exact sound.sleep _

/-- So does the check for a timeout. -/
theorem Sound.check (sound : s.Sound timeouts) (checked : s.check timeouts = some s') : s'.Sound timeouts := by
  unfold State.check at checked
  split at checked
  · cases checked
  · split at checked
    · rename_i late
      cases checked
      exact { sound with ok := nofun, timedOut := fun _ => late }
    · cases checked
      exact sound.sleep _

/-- Nothing happens to a splice that ended. -/
theorem step_running {event : Event} (taken : step timeouts event s = some s') : s.outcome = none := by
  unfold step at taken
  split at taken
  · cases taken
  · rename_i running
    exact Option.not_isSome_iff_eq_none.mp running

theorem sound_start : ({} : State).Sound timeouts :=
  ⟨Pipe.sound_new, Pipe.sound_new, rfl, Nat.le_refl _, rfl, nofun, nofun⟩

/-- Every event keeps the invariant. -/
theorem Sound.step {event : Event} (sound : s.Sound timeouts) (taken : step timeouts event s = some s') : s'.Sound timeouts := by
  have running := step_running taken
  unfold State.step at taken
  rw [if_neg (by rw [running]; exact Bool.false_ne_true)] at taken
  cases event with
  | arrive direction bytes =>
      obtain ⟨pipe, arrived, rfl⟩ := Option.map_eq_some_iff.mp taken
      obtain ⟨sound', same⟩ := Pipe.sound_arrive (sound.pipe direction) arrived
      exact sound.set running sound' (congrArg Stage.closing same)
  | finish direction =>
      obtain ⟨pipe, finished, rfl⟩ := Option.map_eq_some_iff.mp taken
      obtain ⟨sound', same⟩ := Pipe.sound_finish (sound.pipe direction) finished
      exact sound.set running sound' (congrArg Stage.closing same)
  | read direction n =>
      obtain ⟨pipe, read_, rfl⟩ := Option.map_eq_some_iff.mp taken
      obtain ⟨sound', before, after⟩ := Pipe.sound_read (sound.pipe direction) read_
      exact sound.set running sound' (after.trans before.symm)
  | readEnd direction =>
      obtain ⟨pipe, read_, rfl⟩ := Option.map_eq_some_iff.mp taken
      obtain ⟨sound', shutting⟩ := Pipe.sound_readEnd (sound.pipe direction) read_
      exact sound.halfClose running sound' (congrArg Stage.closing shutting)
  | write direction n =>
      obtain ⟨pipe, wrote, rfl⟩ := Option.map_eq_some_iff.mp taken
      obtain ⟨sound', before, after⟩ := Pipe.sound_write (sound.pipe direction) wrote
      have still := sound.set running sound' (after.trans before.symm)
      split
      · exact still.touch (by rw [setPipe_outcome, running])
      · exact still
  | shutdown direction =>
      obtain ⟨pipe, shut, rfl⟩ := Option.map_eq_some_iff.mp taken
      obtain ⟨sound', before, after⟩ := Pipe.sound_shutdown (sound.pipe direction) shut
      exact (sound.set running sound' (after.trans before.symm)).turn
  | fail direction =>
      dsimp only at taken
      split at taken
      · cases taken
      · cases taken
        exact { sound with ok := nofun, timedOut := nofun }
  | tick passed =>
      cases taken
      exact { sound with
        past := Nat.le_trans sound.past (Nat.le_add_right _ _)
        timedOut := fun is => Nat.le_trans (sound.timedOut is) (Nat.le_add_right _ _) }
  | check => exact sound.check taken

/-! ### The timer -/

/-- The timer is set for no later than the quiet that is allowed, and a half-close shortens the wait. -/
structure OnTime (timeouts : Timeouts) (slack : Nat) (s : State) : Prop where
  wakes : s.wake ≤ s.moved + s.allowed timeouts
  soon : s.wake ≤ s.clock + timeouts.halfClose
  due : s.clock ≤ s.wake + slack

variable {slack : Nat}

/-- A direction may go on as long as no stage closes. -/
theorem OnTime.set (onTime : s.OnTime timeouts slack) {direction : Direction} {pipe : Pipe}
    (same : pipe.stage.closing = (s.pipe direction).stage.closing) : (s.setPipe direction pipe).OnTime timeouts slack where
  wakes := by
    rw [setPipe_wake, setPipe_moved, allowed, closing_same same]
    exact onTime.wakes
  soon := by
    rw [setPipe_wake, setPipe_clock]
    exact onTime.soon
  due := by
    rw [setPipe_wake, setPipe_clock]
    exact onTime.due

/-- Activity moves the deadline. -/
theorem OnTime.touch (onTime : s.OnTime timeouts slack) (past : s.moved ≤ s.clock) : s.touch.OnTime timeouts slack where
  wakes := Nat.le_trans onTime.wakes (Nat.add_le_add_right past _)
  soon := onTime.soon
  due := onTime.due

/-- So does a half-close. -/
theorem OnTime.halfClose (onTime : s.OnTime timeouts slack) {direction : Direction} {pipe : Pipe}
    (closes : pipe.stage.closing = true) : (s.setPipe direction pipe).halfClose.OnTime timeouts slack where
  wakes := by
    have shorter : (s.setPipe direction pipe).halfClose.allowed timeouts = timeouts.halfClose := if_pos (closing_set closes)
    rw [shorter]
    show (s.setPipe direction pipe).wake ≤ (s.setPipe direction pipe).clock + timeouts.halfClose
    rw [setPipe_wake, setPipe_clock]
    exact onTime.soon
  soon := by
    show (s.setPipe direction pipe).wake ≤ (s.setPipe direction pipe).clock + timeouts.halfClose
    rw [setPipe_wake, setPipe_clock]
    exact onTime.soon
  due := by
    show (s.setPipe direction pipe).clock ≤ (s.setPipe direction pipe).wake + slack
    rw [setPipe_wake, setPipe_clock]
    exact onTime.due

theorem OnTime.sleep {wake : Nat} (wakes : wake ≤ s.moved + s.allowed timeouts) (soon : wake ≤ s.clock + timeouts.halfClose)
    (due : s.clock ≤ wake + slack) : ({ s with wake := wake } : State).OnTime timeouts slack := ⟨wakes, soon, due⟩

theorem OnTime.turn (onTime : s.OnTime timeouts slack) : s.turn.OnTime timeouts slack := by
  unfold State.turn
  split
  · exact { onTime with }
  · have sooner : min s.wake s.clock ≤ s.wake := Nat.min_le_left _ _
    have due : s.clock ≤ min s.wake s.clock + slack := by
      have old := onTime.due
      omega
    exact OnTime.sleep (Nat.le_trans sooner onTime.wakes) (Nat.le_trans sooner onTime.soon) due

/-- The deadline is no later than what the last activity allows. -/
theorem deadline_le (sound : s.Sound timeouts) : s.activity.deadline timeouts ≤ s.moved + s.allowed timeouts := by
  have whole : s.activity.last * millisecond ≤ s.moved := by
    rw [sound.last]
    exact Nat.div_mul_le_self _ _
  have same : s.activity.limit timeouts = s.allowed timeouts := by
    rw [Activity.limit, allowed, sound.half]
  rw [Activity.deadline, same]
  exact Nat.add_le_add_right whole _

/-- A check that goes on sleeps until the deadline at most. -/
theorem OnTime.check (onTime : s.OnTime timeouts slack) (sound : s.Sound timeouts) (checked : s.check timeouts = some s') :
    s'.OnTime timeouts slack := by
  unfold State.check at checked
  split at checked
  · cases checked
  · split at checked
    · cases checked
      exact { onTime with }
    · rename_i early
      cases checked
      have due : s.clock ≤ min (s.activity.deadline timeouts) (s.clock + timeouts.halfClose) + slack := by omega
      exact OnTime.sleep (Nat.le_trans (Nat.min_le_left _ _) (deadline_le sound)) (Nat.min_le_right _ _) due

theorem onTime_start : ({} : State).OnTime timeouts slack := ⟨Nat.zero_le _, Nat.zero_le _, Nat.zero_le _⟩

/-- Every event keeps the timer on time, if the timer is not late. -/
theorem OnTime.step {event : Event} (timely : Timely slack event s) (onTime : s.OnTime timeouts slack) (sound : s.Sound timeouts)
    (taken : step timeouts event s = some s') : s'.OnTime timeouts slack := by
  have running := step_running taken
  unfold State.step at taken
  rw [if_neg (by rw [running]; exact Bool.false_ne_true)] at taken
  cases event with
  | arrive direction bytes =>
      obtain ⟨pipe, arrived, rfl⟩ := Option.map_eq_some_iff.mp taken
      exact onTime.set (congrArg Stage.closing (Pipe.sound_arrive (sound.pipe direction) arrived).2)
  | finish direction =>
      obtain ⟨pipe, finished, rfl⟩ := Option.map_eq_some_iff.mp taken
      exact onTime.set (congrArg Stage.closing (Pipe.sound_finish (sound.pipe direction) finished).2)
  | read direction n =>
      obtain ⟨pipe, read_, rfl⟩ := Option.map_eq_some_iff.mp taken
      obtain ⟨_, before, after⟩ := Pipe.sound_read (sound.pipe direction) read_
      exact onTime.set (after.trans before.symm)
  | readEnd direction =>
      obtain ⟨pipe, read_, rfl⟩ := Option.map_eq_some_iff.mp taken
      exact onTime.halfClose (congrArg Stage.closing (Pipe.sound_readEnd (sound.pipe direction) read_).2)
  | write direction n =>
      obtain ⟨pipe, wrote, rfl⟩ := Option.map_eq_some_iff.mp taken
      obtain ⟨_, before, after⟩ := Pipe.sound_write (sound.pipe direction) wrote
      have still := onTime.set (after.trans before.symm)
      split
      · exact still.touch (by rw [setPipe_moved, setPipe_clock]; exact sound.past)
      · exact still
  | shutdown direction =>
      obtain ⟨pipe, shut, rfl⟩ := Option.map_eq_some_iff.mp taken
      obtain ⟨_, before, after⟩ := Pipe.sound_shutdown (sound.pipe direction) shut
      exact (onTime.set (after.trans before.symm)).turn
  | fail direction =>
      dsimp only at taken
      split at taken
      · cases taken
      · cases taken
        exact { onTime with }
  | tick passed =>
      cases taken
      refine ⟨onTime.wakes, Nat.le_trans onTime.soon (Nat.add_le_add_right (Nat.le_add_right _ _) _), ?_⟩
      rcases timely with none_ | inTime
      · have zero : passed = 0 := none_
        rw [zero]
        exact onTime.due
      · exact inTime
  | check => exact onTime.check sound taken

end State

/-! ### Whole runs -/

/-- The invariant holds in every state reached. -/
theorem sound_reached {timeouts : Timeouts} {C : Event → State → Prop} {s : State}
    (reached : Stepped (State.step timeouts) C {} s) : s.Sound timeouts :=
  reached.invariant State.sound_start fun _ _ _ _ sound taken => sound.step taken

/-- In every order of events, each direction has written the first of the bytes it was given, in order, and holds at most a
    buffer of them; an end is passed on only after all of them. Without a reset the connection is closed only when both
    senders ended and both receivers have everything. -/
theorem splice_carries {timeouts : Timeouts} {s : State} (reached : Stepped (State.step timeouts) (fun _ _ => True) {} s) :
    (∀ direction, (s.pipe direction).given =
        (s.pipe direction).written ++ (s.pipe direction).stage.held ++ (s.pipe direction).unread ∧
      (s.pipe direction).stage.held.length ≤ copyBuffer ∧
      ((s.pipe direction).stage.closing = true →
        (s.pipe direction).ended = true ∧ (s.pipe direction).written = (s.pipe direction).given)) ∧
    (∀ outcome, s.outcome = some outcome → outcome.resets = false → ∀ direction,
      (s.pipe direction).stage = .done ∧ (s.pipe direction).ended = true ∧
        (s.pipe direction).written = (s.pipe direction).given) := by
  have sound := sound_reached reached
  constructor
  · intro direction
    have own := sound.pipe direction
    exact ⟨own.bytes, own.small, own.through⟩
  · intro outcome is clean direction
    have ok : outcome = .ok := by
      cases outcome with
      | ok => rfl
      | failed => cases clean
      | timedOut => cases clean
    rw [ok] at is
    obtain ⟨forward, backward⟩ := sound.ok is
    have done : (s.pipe direction).stage = .done := by
      cases direction with
      | forward => exact forward
      | backward => exact backward
    exact ⟨done, (sound.pipe direction).through (by rw [done]; rfl)⟩

/-- A request, its answer and both ends; a write takes less than the whole. -/
def answered : List Event :=
  [.check, .arrive .forward [1, 2, 3], .read .forward 3, .tick 5, .write .forward 2, .write .forward 1, .finish .forward,
    .readEnd .forward, .shutdown .forward, .check, .arrive .backward [4], .finish .backward, .read .backward 1,
    .write .backward 1, .readEnd .backward, .shutdown .backward]

def answeredEnd : State := (playSteps (State.step .default) (fun _ _ => True) answered {}).getD {}

theorem answered_played : playSteps (State.step .default) (fun _ _ => True) answered {} = some answeredEnd := by
  have taken : (playSteps (State.step .default) (fun _ _ => True) answered {}).isSome = true := by decide +kernel
  obtain ⟨s, is⟩ := Option.isSome_iff_exists.mp taken
  rw [answeredEnd, is, Option.getD_some]

theorem splice_carries_answered : answeredEnd.backward.stage = .done ∧ answeredEnd.backward.ended = true ∧
    answeredEnd.backward.written = answeredEnd.backward.given :=
  (splice_carries (stepped_of_play answered_played)).2 .ok (by decide +kernel) rfl .backward

/-- A connection times out only when it was quiet for as long as it may be, less the millisecond that its note leaves out:
    `idle`, or `half_close` once a direction ended. When the task is never later than `slack` after its timer, no
    connection is older than that quiet, whatever its sockets do. -/
theorem splice_expires {timeouts : Timeouts} {slack : Nat} {s : State}
    (reached : Stepped (State.step timeouts) (Timely slack) {} s) :
    (s.outcome = some .timedOut → s.moved + s.allowed timeouts < s.clock + millisecond) ∧
    s.clock ≤ s.moved + s.allowed timeouts + slack := by
  have both : s.Sound timeouts ∧ s.OnTime timeouts slack := by
    apply reached.invariant (I := fun s => s.Sound timeouts ∧ s.OnTime timeouts slack)
    · exact ⟨State.sound_start, State.onTime_start⟩
    · rintro event s s' timely ⟨sound, onTime⟩ taken
      exact ⟨sound.step taken, onTime.step timely sound taken⟩
  obtain ⟨sound, onTime⟩ := both
  constructor
  · intro is
    have late := sound.timedOut is
    have same : s.activity.limit timeouts = s.allowed timeouts := by
      rw [Activity.limit, State.allowed, sound.half]
    rw [Activity.deadline, same, sound.last] at late
    have rounded : s.moved < s.moved / millisecond * millisecond + millisecond := Nat.lt_div_mul_add (by decide)
    omega
  · exact Nat.le_trans onTime.due (Nat.add_le_add_right onTime.wakes _)

/-- The visitor ends, and the other side says nothing. -/
def halfClosed : List Event :=
  [.check, .finish .forward, .tick 1500000, .readEnd .forward, .shutdown .forward, .check, .tick (60 * 1000 * millisecond), .check]

def halfClosedEnd : State := (playSteps (State.step .default) (Timely millisecond) halfClosed {}).getD {}

theorem halfClosed_played : playSteps (State.step .default) (Timely millisecond) halfClosed {} = some halfClosedEnd := by
  have taken : (playSteps (State.step .default) (Timely millisecond) halfClosed {}).isSome = true := by decide +kernel
  obtain ⟨s, is⟩ := Option.isSome_iff_exists.mp taken
  rw [halfClosedEnd, is, Option.getD_some]

theorem splice_expires_halfClosed :
    halfClosedEnd.moved + halfClosedEnd.allowed .default < halfClosedEnd.clock + millisecond ∧
      halfClosedEnd.clock ≤ halfClosedEnd.moved + halfClosedEnd.allowed .default + millisecond := by
  obtain ⟨late, old⟩ := splice_expires (stepped_of_play halfClosed_played)
  exact ⟨late (by decide +kernel), old⟩

end OpenTunnel.Splice
