/-
Module: OpenTunnel.Proofs.Backpressure
Layer: Proofs
Purpose: Backpressure resets only those that read nothing. While a frame waits, no other data comes: what waits for a
  visitor then has waited since the frame came or since a share was last dropped, and the noted time is never later than
  that. `reset_stalled` runs a whole `STALL` after the frame came.
Imports: OpenTunnel.Tasks.Steps, OpenTunnel.Model.Backpressure
Trusted boundary: none (fully proved)
Main exports: Visit.act_cases, Taken, step_cases, Balanced, Since, Starved, Watched, resets_starved
Open obligations: none
-/
import OpenTunnel.Tasks.Steps
import OpenTunnel.Model.Backpressure

namespace OpenTunnel.Backpressure

open Tasks
open Download (Budget Outcome channelBudget)

/-! ### A visitor's task -/

/-- Why the budget of a connection is not whole: data is queued or being written, or the task noted the time for a share
    and did not go on to give it back. -/
inductive Hold where
  | waiting
  | halted

def Visit.Held (visit : Visit) : Hold → Prop
  | .waiting => visit.queue ≠ [] ∨ ∃ len previous acked, visit.hand = .writing len previous acked
  | .halted => ∃ len, visit.hand = .dropping len .channel

/-- The act completes a frame, or notes that the visitor reads. -/
def TaskEvent.Notes : TaskEvent → Visit → Prop
  | .wrote, _ => True
  | .discard, _ => True
  | .check (some queued), visit => match visit.hand with
      | .writing _ previous acked => progress ≤ Visit.ackedBy queued previous acked
      | _ => False
  | _, _ => False

/-- The share of what the task has in hand, as far as the connection's budget lacks it. -/
def Hand.share : Hand → Nat
  | .writing len _ _ => len
  | .dropping len .channel => len
  | _ => 0

def Visit.total (visit : Visit) : Nat := visit.budget + visit.queue.sum + visit.hand.share

namespace Visit

variable {now : Nat} {act : TaskEvent} {visit visit' : Visit}

/-- What an act of the task does to its visit. -/
theorem act_cases (acts : visit.act now act = some visit') :
    (act.Notes visit ∧ visit'.drainedAt = now ∨
      ¬ act.Notes visit ∧ visit'.drainedAt = visit.drainedAt ∧ ∀ hold, visit'.Held hold → visit.Held hold) ∧
    visit'.total = visit.total ∧ visit'.outcome = visit.outcome := by
  cases act with
  | take =>
      simp only [Visit.act] at acts
      split at acts
      · rename_i len rest receiving hand queue
        cases acts
        refine ⟨Or.inr ⟨id, rfl, fun hold held => ?_⟩, ?_, rfl⟩
        · cases hold with
          | waiting => exact Or.inl (by simp [queue])
          | halted => exact absurd held (by simp [Held])
        · simp only [total, queue, hand, Hand.share, List.sum_cons]
          omega
      · cases acts
  | check queued =>
      simp only [Visit.act] at acts
      split at acts
      · cases acts
        exact ⟨Or.inr ⟨id, rfl, fun _ held => held⟩, rfl, rfl⟩
      · rename_i len previous acked queued hand
        split at acts
        · rename_i enough
          cases acts
          refine ⟨Or.inl ⟨?_, rfl⟩, ?_, rfl⟩
          · simpa only [TaskEvent.Notes, hand] using enough
          · simp only [total, hand, Hand.share]
        · rename_i less
          cases acts
          refine ⟨Or.inr ⟨?_, rfl, fun hold held => ?_⟩, ?_, rfl⟩
          · simpa only [TaskEvent.Notes, hand] using less
          · cases hold with
            | waiting => exact Or.inr ⟨_, _, _, hand⟩
            | halted => exact absurd held (by simp [Held])
          · simp only [total, hand, Hand.share]
      · cases acts
  | wrote =>
      simp only [Visit.act] at acts
      split at acts
      · rename_i len previous acked hand
        cases acts
        refine ⟨Or.inl ⟨trivial, rfl⟩, ?_, rfl⟩
        simp only [total, hand, Hand.share]
      · cases acts
  | giveBack =>
      simp only [Visit.act] at acts
      split at acts
      · rename_i len next hand
        cases acts
        refine ⟨Or.inr ⟨id, rfl, fun hold held => ?_⟩, ?_, rfl⟩
        · cases hold with
          | waiting =>
              rcases held with queued | ⟨_, _, _, writes⟩
              · exact Or.inl queued
              · cases next <;> simp [following] at writes
          | halted =>
              obtain ⟨_, drops⟩ := held
              cases next <;> simp [following] at drops
        · cases next <;> simp only [total, hand, following, Hand.share, reduceCtorEq, if_true, if_false]
          omega
      · cases acts
  | hangUp =>
      simp only [Visit.act] at acts
      split at acts
      · cases acts
        exact ⟨Or.inr ⟨id, rfl, fun hold held => by cases hold <;> exact held⟩, rfl, rfl⟩
      · cases acts
  | discard =>
      simp only [Visit.act] at acts
      split at acts
      · rename_i len rest receiving hand queue
        cases acts
        refine ⟨Or.inl ⟨trivial, rfl⟩, ?_, rfl⟩
        simp only [total, queue, hand, Hand.share, List.sum_cons]
        omega
      · cases acts

/-- A budget that is not whole is held. -/
theorem held_of_short (whole : channelBudget ≤ visit.total) (short : visit.budget < channelBudget) :
    ∃ hold, visit.Held hold := by
  rcases Classical.em (visit.queue = []) with none_ | queued
  · cases hand : visit.hand with
    | writing len previous acked => exact ⟨.waiting, Or.inr ⟨len, previous, acked, hand⟩⟩
    | empty =>
        simp only [total, none_, hand, Hand.share, List.sum_nil] at whole
        omega
    | dropping len next =>
        cases next with
        | channel => exact ⟨.halted, len, hand⟩
        | _ =>
            simp only [total, none_, hand, Hand.share, List.sum_nil] at whole
            omega
  · exact ⟨.waiting, Or.inl queued⟩

end Visit

/-! ### The parts of a step -/

namespace Bridge

variable {s : Bridge} {v len conn : Nat}

@[simp] theorem change_reader (f : Visit → Visit) : (s.change v f).reader = s.reader := rfl
@[simp] theorem change_clock (f : Visit → Visit) : (s.change v f).clock = s.clock := rfl
@[simp] theorem unmap_reader : (s.unmap conn).reader = s.reader := rfl
@[simp] theorem unmap_clock : (s.unmap conn).clock = s.clock := rfl
@[simp] theorem unmap_visits : (s.unmap conn).visits = s.visits := rfl

@[simp] theorem giveShared_reader (part : Option (Budget × Nat)) : (s.giveShared part).reader = s.reader := by
  unfold giveShared
  split <;> rfl

@[simp] theorem giveShared_clock (part : Option (Budget × Nat)) : (s.giveShared part).clock = s.clock := by
  unfold giveShared
  split <;> rfl

@[simp] theorem giveShared_visits (part : Option (Budget × Nat)) : (s.giveShared part).visits = s.visits := by
  unfold giveShared
  split <;> rfl

@[simp] theorem take_clock (part : Budget) : (s.take v len part).clock = s.clock := by
  cases part <;> rfl

@[simp] theorem give_clock (part : Budget) : (s.give v len part).clock = s.clock := by
  cases part <;> rfl

@[simp] theorem starts_clock (empty : Bool) : (s.starts v empty).clock = s.clock := by
  cases empty <;> rfl

@[simp] theorem send_clock : (s.send v len).clock = s.clock := by
  unfold send
  split
  · rfl
  · split <;> simp

@[simp] theorem hold_clock (empty : Bool) : (s.hold v len empty).clock = s.clock := by
  simp [hold]

@[simp] theorem data_clock : (s.data conn len).clock = s.clock := by
  unfold data
  split
  · rfl
  · split
    · rfl
    · dsimp only
      split <;> simp

@[simp] theorem dropWaiting_clock (wait : Wait) (next : Budget) : (s.dropWaiting wait next).clock = s.clock := by
  cases next <;> simp [dropWaiting]

@[simp] theorem reset_clock : (s.reset conn v).clock = s.clock := rfl

end Bridge

/-! ### Steps -/

/-- What a step does, with what it finds. -/
inductive Taken (s : Bridge) : Event → Bridge → Prop where
  | tick (ms : Nat) : Taken s (.tick ms) { s with clock := s.clock + ms }
  | machine (buffer : Nat) : Taken s (.machine buffer) { s with buffer := buffer }
  | route (conn : Nat) : Taken s (.route conn) (s.route conn)
  | unroute (conn : Nat) : Taken s (.unroute conn) (s.unmap conn)
  | finish (v : Nat) {outcome : Outcome} (other : outcome ≠ .backpressure) :
      Taken s (.finish v outcome) (s.change v fun visit => visit.finish outcome)
  | task {v : Nat} {act : TaskEvent} {visit visit' : Visit} (found : s.visits v = some visit)
      (acts : visit.act s.clock act = some visit') :
      Taken s (.task v act) ((s.change v fun _ => visit').giveShared (visit.released act))
  | data (conn len : Nat) (reads : s.reader = .reading) : Taken s (.data conn len) (s.data conn len)
  | acquires {wait : Wait} {next after : Budget} {visit : Visit} (reads : s.reader = .waiting wait next)
      (found : s.visits wait.visit = some visit) (enough : wait.len ≤ s.available visit next)
      (more : following next = some after) :
      Taken s .acquire { s.take wait.visit wait.len next with reader := .waiting wait after }
  | acquired {wait : Wait} {next : Budget} {visit : Visit} (reads : s.reader = .waiting wait next)
      (found : s.visits wait.visit = some visit) (enough : wait.len ≤ s.available visit next) (last : following next = none) :
      Taken s .acquire ((s.take wait.visit wait.len next).send wait.visit wait.len)
  | deadline {wait : Wait} {next : Budget} (reads : s.reader = .waiting wait next) (late : wait.since + stallMs ≤ s.clock) :
      Taken s .deadline { s.dropWaiting wait next with reader := .stalled wait }
  | cancelled {wait : Wait} {next : Budget} (reads : s.reader = .waiting wait next) :
      Taken s .cancelled { s.dropWaiting wait next with reader := .reading }
  | scan {wait : Wait} (order : List (Nat × Nat)) (reads : s.reader = .stalled wait) :
      Taken s (.scan order) { s with reader := .looking wait s.clock order [] }
  | looks {wait : Wait} {now conn v : Nat} {left found : List (Nat × Nat)}
      (reads : s.reader = .looking wait now ((conn, v) :: left) found) :
      Taken s .look { s with reader := .looking wait now left (if s.isStalled now v then found ++ [(conn, v)] else found) }
  | looked {wait : Wait} {now : Nat} {found : List (Nat × Nat)} (reads : s.reader = .looking wait now [] found) :
      Taken s .look { s with reader := .resetting wait found }
  | resets {wait : Wait} {conn v : Nat} {found : List (Nat × Nat)} (reads : s.reader = .resetting wait ((conn, v) :: found)) :
      Taken s .reset { s.reset conn v with reader := .sending wait found }
  | sent {wait : Wait} {found : List (Nat × Nat)} (reads : s.reader = .sending wait found) :
      Taken s .sent { s with reader := .resetting wait found }
  | sentLast (reads : s.reader = .givingUp) : Taken s .sent { s with reader := .reading }
  | gone {wait : Wait} (reads : s.reader = .resetting wait []) : Taken s .retry { s with reader := .reading }
  | fits {wait : Wait} (reads : s.reader = .resetting wait []) (fits : s.fits wait.visit wait.len = true) :
      Taken s .retry (s.hold wait.visit wait.len wait.empty)
  | givesUp {wait : Wait} (reads : s.reader = .resetting wait []) (unfit : s.fits wait.visit wait.len = false) :
      Taken s .retry { s.reset wait.conn wait.visit with reader := .givingUp }
  | dropped {v len : Nat} {next : Budget} (reads : s.reader = .dropping v len next) :
      Taken s .dropped { s.give v len next with
        reader := match following next with
          | some next => .dropping v len next
          | none => .reading }

section Events

variable {s s' : Bridge}

/-- A frame that waits gets the next part of its share, or the last. -/
theorem taken_acquire (taken : step .acquire s = some s') : Taken s .acquire s' := by
  simp only [step, Bridge.acquire] at taken
  split at taken
  · rename_i wait next reads
    split at taken
    · cases taken
    · rename_i visit found
      split at taken
      · rename_i enough
        split at taken
        · rename_i after more
          cases taken
          exact .acquires reads found enough more
        · rename_i last
          cases taken
          exact .acquired reads found enough last
      · cases taken
  · cases taken

/-- `reset_stalled` looks at a connection, or has looked at all. -/
theorem taken_look (taken : step .look s = some s') : Taken s .look s' := by
  simp only [step, Bridge.look] at taken
  split at taken
  · rename_i wait now conn v left found reads
    cases taken
    exact .looks reads
  · rename_i wait now found reads
    cases taken
    exact .looked reads
  · cases taken

/-- A reset was sent, the last one or one of those found. -/
theorem taken_sent (taken : step .sent s = some s') : Taken s .sent s' := by
  simp only [step] at taken
  split at taken
  · rename_i wait found reads
    cases taken
    exact .sent reads
  · rename_i reads
    cases taken
    exact .sentLast reads
  · cases taken

/-- The frame that waited is tried once more. -/
theorem taken_retry (taken : step .retry s = some s') : Taken s .retry s' := by
  simp only [step, Bridge.retry] at taken
  split at taken
  · rename_i wait reads
    split at taken
    · cases taken
      exact .gone reads
    · split at taken
      · rename_i fits
        cases taken
        exact .fits reads fits
      · rename_i unfit
        cases taken
        exact .givesUp reads (Bool.eq_false_iff.mpr unfit)
  · cases taken

end Events

/-- What each event does, by the place the reader is at. -/
theorem step_cases {e : Event} {s s' : Bridge} (taken : step e s = some s') : Taken s e s' := by
  cases e with
  | tick ms =>
      cases taken
      exact .tick ms
  | machine buffer =>
      cases taken
      exact .machine buffer
  | route conn =>
      simp only [step] at taken
      split at taken
      · cases taken
      · cases taken
        exact .route conn
  | unroute conn =>
      simp only [step] at taken
      split at taken
      · cases taken
      · cases taken
        exact .unroute conn
  | finish v outcome =>
      simp only [step] at taken
      split at taken
      · cases taken
      · rename_i other
        cases taken
        exact .finish v other
  | task v act =>
      simp only [step] at taken
      split at taken
      · cases taken
      · rename_i visit found
        obtain ⟨visit', acts, rfl⟩ := Option.map_eq_some_iff.mp taken
        exact .task found acts
  | data conn len =>
      simp only [step] at taken
      split at taken
      · rename_i reads
        cases taken
        exact .data conn len reads
      · cases taken
  | acquire => exact taken_acquire taken
  | deadline =>
      simp only [step] at taken
      split at taken
      · rename_i wait next reads
        split at taken
        · rename_i late
          cases taken
          exact .deadline reads late
        · cases taken
      · cases taken
  | cancelled =>
      simp only [step] at taken
      split at taken
      · rename_i wait next reads
        cases taken
        exact .cancelled reads
      · cases taken
  | scan order =>
      simp only [step] at taken
      split at taken
      · rename_i wait reads
        split at taken
        · cases taken
          exact .scan order reads
        · cases taken
      · cases taken
  | look => exact taken_look taken
  | reset =>
      simp only [step] at taken
      split at taken
      · rename_i wait conn v found reads
        cases taken
        exact .resets reads
      · cases taken
  | sent => exact taken_sent taken
  | retry => exact taken_retry taken
  | dropped =>
      simp only [step] at taken
      split at taken
      · rename_i v len next reads
        cases taken
        exact .dropped reads
      · cases taken

/-- The clock goes on, and only by ticking. -/
theorem clock_le {e : Event} {s s' : Bridge} (taken : step e s = some s') : s.clock ≤ s'.clock := by
  cases step_cases taken with
  | tick ms => exact Nat.le_add_right _ _
  | _ => simp [Bridge.route]

/-! ### Shares -/

/-- What the reader holds of a connection's budget. -/
def owed (v len : Nat) (u : Nat) : Nat := if u = v then len else 0

def Reader.share : Reader → Nat → Nat
  | .waiting _ .channel => fun _ => 0
  | .waiting wait _ => owed wait.visit wait.len
  | .dropping v len .channel => owed v len
  | _ => fun _ => 0

/-- No part of a connection's budget is lost: it is there, in its queue, in its task's hand, or where the reader has it. -/
def Balanced (share : Nat → Nat) (s : Bridge) : Prop :=
  ∀ v visit, s.visits v = some visit → channelBudget ≤ visit.total + share v

section Balances

variable {share : Nat → Nat} {s s' : Bridge} {v len : Nat}

theorem Balanced.visits (balanced : Balanced share s) (same : s'.visits = s.visits) : Balanced share s' := by
  intro u visit found
  rw [same] at found
  exact balanced u visit found

/-- A change of one visit is balanced if that visit is. -/
theorem Balanced.change {f : Visit → Visit} {share' : Nat → Nat} (balanced : Balanced share s)
    (there : ∀ visit, s.visits v = some visit → channelBudget ≤ (f visit).total + share' v)
    (others : ∀ u, u ≠ v → share' u = share u) : Balanced share' (s.change v f) := by
  intro u visit found
  simp only [Bridge.change] at found
  split at found
  · rename_i same
    obtain ⟨before, was, rfl⟩ := Option.map_eq_some_iff.mp found
    rw [same]
    exact there before was
  · rename_i other
    rw [others u other]
    exact balanced u visit found

theorem Balanced.change_same {f : Visit → Visit} (balanced : Balanced share s)
    (same : ∀ visit, (f visit).total = visit.total) : Balanced share (s.change v f) :=
  balanced.change (fun visit found => by rw [same]; exact balanced v visit found) fun _ _ => rfl

theorem Balanced.finish {outcome : Outcome} (balanced : Balanced share s) :
    Balanced share (s.change v fun visit => visit.finish outcome) :=
  balanced.change_same fun visit => by unfold Visit.finish; split <;> rfl

theorem Balanced.starts (balanced : Balanced share s) (empty : Bool) : Balanced share (s.starts v empty) := by
  cases empty with
  | true => exact balanced.change_same fun _ => rfl
  | false => exact balanced

/-- What is taken from a budget is owed. -/
theorem Balanced.take (balanced : Balanced (fun _ => 0) s) (fits : ∀ visit, s.visits v = some visit → len ≤ visit.budget) :
    Balanced (owed v len) (s.take v len .channel) := by
  refine balanced.change (fun visit found => ?_) fun u other => by simp [owed, other]
  have whole := balanced v visit found
  have enough := fits visit found
  simp only [Visit.total, owed, if_true] at whole ⊢
  omega

/-- What is given back is owed no more. -/
theorem Balanced.give (balanced : Balanced (owed v len) s) : Balanced (fun _ => 0) (s.give v len .channel) := by
  refine balanced.change (fun visit found => ?_) fun u other => by simp [owed, other]
  have whole := balanced v visit found
  simp only [Visit.total, owed, if_true] at whole ⊢
  omega

/-- Data that is sent carries its share, or the reader drops it. -/
theorem Balanced.send (balanced : Balanced (owed v len) s) : Balanced (s.send v len).reader.share (s.send v len) := by
  unfold Bridge.send
  split
  · rename_i missing
    intro u visit found
    have whole := balanced u visit found
    have other : u ≠ v := by
      rintro rfl
      rw [missing] at found
      cases found
    simpa [owed, other, Reader.share] using whole
  · split
    · refine Balanced.change balanced (fun visit found => ?_) fun u other => by simp [owed, other, Reader.share]
      have whole := balanced v visit found
      simp only [Visit.total, owed, if_true, Reader.share, List.sum_append, List.sum_cons, List.sum_nil] at whole ⊢
      omega
    · exact balanced.starts true

theorem Balanced.shared (balanced : Balanced share s) (part : Option (Budget × Nat)) : Balanced share (s.giveShared part) :=
  balanced.visits (Bridge.giveShared_visits part)

/-- A frame that fits takes its share and is sent. -/
theorem Balanced.hold (balanced : Balanced (fun _ => 0) s) (fits : s.fits v len = true) (empty : Bool) :
    Balanced (s.hold v len empty).reader.share (s.hold v len empty) := by
  have enough : ∀ visit, s.visits v = some visit → len ≤ visit.budget := by
    intro visit found
    simp only [Bridge.fits, found, decide_eq_true_eq] at fits
    exact fits.1
  have taken : Balanced (owed v len) (((s.take v len .channel).take v len .bridge).take v len .machine) := balanced.take enough
  exact (taken.starts empty).send

/-- A frame that stops waiting gives back what it had taken. -/
theorem Balanced.dropWaiting {wait : Wait} {next : Budget} (balanced : Balanced (Reader.waiting wait next).share s) :
    Balanced (fun _ => 0) (s.dropWaiting wait next) := by
  cases next with
  | channel => exact balanced
  | bridge => exact balanced.give
  | machine => exact balanced.give.shared (some (.bridge, wait.len))

end Balances

/-- Every event keeps the balance. -/
theorem balanced_step {e : Event} {s s' : Bridge} (balanced : Balanced s.reader.share s) (taken : step e s = some s') :
    Balanced s'.reader.share s' := by
  have shares {reader : Reader} (reads : s.reader = reader) : Balanced reader.share s := reads ▸ balanced
  cases step_cases taken with
  | tick ms => exact balanced
  | machine buffer => exact balanced
  | route conn =>
      intro v visit found
      simp only [Bridge.route] at found
      split at found
      · cases found
        exact Nat.le_add_right _ _
      · exact balanced v visit found
  | unroute conn => exact balanced
  | finish v other => exact balanced.finish
  | task found acts =>
      rw [Bridge.giveShared_reader]
      refine Balanced.shared (balanced.change (fun before was => ?_) fun _ _ => rfl) _
      rw [(Visit.act_cases acts).2.1]
      exact balanced _ _ found
  | data conn len reads =>
      have free : Balanced (fun _ => 0) s := shares reads
      unfold Bridge.data
      split
      · exact balanced
      · split
        · exact balanced
        · dsimp only
          split
          · rename_i fits
            exact free.hold fits _
          · exact free.starts _
  | @acquires wait next after visit reads found enough more =>
      cases next with
      | channel =>
          cases more
          exact Balanced.take (shares reads) fun visit' found' => by
            cases found.symm.trans found'
            exact enough
      | bridge =>
          cases more
          rw [reads] at balanced
          exact balanced
      | machine => cases more
  | @acquired wait next visit reads found enough last =>
      cases next with
      | machine =>
          exact (show Balanced (owed wait.visit wait.len) (s.take wait.visit wait.len .machine) from shares reads).send
      | _ => cases last
  | deadline reads _ => exact (shares reads).dropWaiting
  | cancelled reads => exact (shares reads).dropWaiting
  | scan order reads =>
      rw [reads] at balanced
      exact balanced
  | looks reads =>
      rw [reads] at balanced
      exact balanced
  | looked reads =>
      rw [reads] at balanced
      exact balanced
  | @resets wait conn v found reads =>
      exact (show Balanced (fun _ => 0) (s.unmap conn) from shares reads).finish
  | sent reads =>
      rw [reads] at balanced
      exact balanced
  | sentLast reads =>
      rw [reads] at balanced
      exact balanced
  | gone reads =>
      rw [reads] at balanced
      exact balanced
  | fits reads fits => exact (show Balanced (fun _ => 0) s from shares reads).hold fits _
  | @givesUp wait reads _ =>
      exact (show Balanced (fun _ => 0) (s.unmap wait.conn) from shares reads).finish
  | @dropped v len next reads =>
      cases next with
      | channel => exact (show Balanced (owed v len) s from shares reads).give
      | bridge =>
          rw [reads] at balanced
          exact balanced
      | machine =>
          rw [reads] at balanced
          exact balanced

/-! ### What waits, and since when -/

/-- A task's act in this state completes a frame of the visit or notes that it reads. -/
def Noted (v : Nat) (e : Event) (s : Bridge) : Prop :=
  ∃ act visit, e = .task v act ∧ s.visits v = some visit ∧ act.Notes visit

def Holds (v : Nat) (hold : Hold) (s : Bridge) : Prop := ∃ visit, s.visits v = some visit ∧ visit.Held hold

def Always (_ : Event) (_ : Bridge) : Prop := True

/-- The visit's share is held where the event comes, which neither completes a frame nor notes that the visitor reads. -/
def Calm (v : Nat) (hold : Hold) (e : Event) (s : Bridge) : Prop := Holds v hold s ∧ ¬ Noted v e s

/-- In the run that took these events, the visit has been calm since that time or before. -/
def Since (s₀ : Bridge) (v : Nat) (hold : Hold) (time : Nat) (events : List Event) (s : Bridge) : Prop :=
  ∃ before during m, events = before ++ during ∧ Played step Always s₀ before m ∧ m.clock ≤ time ∧
    Played step (Calm v hold) m during s

section Times

variable {s₀ s s' : Bridge} {e : Event} {events : List Event} {v : Nat} {hold : Hold} {time : Nat}

/-- A noted time that is not past stands for no stretch yet. -/
theorem Since.here (played : Played step Always s₀ events s) (past : s.clock ≤ time) : Since s₀ v hold time events s :=
  ⟨events, [], s, (List.append_nil _).symm, played, past, .start⟩

/-- A calm event makes the stretch longer. -/
theorem Since.step (since : Since s₀ v hold time events s) (calm : Calm v hold e s) (taken : step e s = some s') :
    Since s₀ v hold time (events ++ [e]) s' := by
  obtain ⟨before, during, m, rfl, played, past, rest⟩ := since
  exact ⟨before, during ++ [e], m, List.append_assoc _ _ _, played, past, rest.step e calm taken⟩

end Times

/-- The frame that the reader waits with, or went on with from its wait. -/
def Reader.wait : Reader → Option Wait
  | .waiting wait _ => some wait
  | .stalled wait => some wait
  | .looking wait _ _ _ => some wait
  | .resetting wait _ => some wait
  | .sending wait _ => some wait
  | _ => none

/-- What a step leaves of the visits when no data is queued: where it holds a share, its time is noted now, or nothing is
    noted and it held the share before. -/
def Follows (e : Event) (s s' : Bridge) : Prop :=
  ∀ v visit' hold, s'.visits v = some visit' → visit'.Held hold →
    visit'.drainedAt = s'.clock ∨
      ∃ visit, s.visits v = some visit ∧ visit'.drainedAt = visit.drainedAt ∧ visit.Held hold ∧ ¬ Noted v e s

/-- The visits are as they were, but for their budgets and outcomes. -/
def Keeps (s s' : Bridge) : Prop :=
  ∀ v visit', s'.visits v = some visit' → ∃ visit, s.visits v = some visit ∧ visit'.drainedAt = visit.drainedAt ∧
    visit'.queue = visit.queue ∧ visit'.hand = visit.hand

section Kept

variable {s s' s'' : Bridge} {e : Event} {v len : Nat}

theorem Keeps.visits (same : s'.visits = s.visits) : Keeps s s' := by
  intro v visit found
  rw [same] at found
  exact ⟨visit, found, rfl, rfl, rfl⟩

theorem Keeps.trans (first : Keeps s s') (second : Keeps s' s'') : Keeps s s'' := by
  intro v visit'' found
  obtain ⟨visit', found, time, queue, hand⟩ := second v visit'' found
  obtain ⟨visit, found, time', queue', hand'⟩ := first v visit' found
  exact ⟨visit, found, time.trans time', queue.trans queue', hand.trans hand'⟩

/-- A change that leaves time, queue and hand alone is not noticed. -/
theorem Keeps.change {f : Visit → Visit}
    (same : ∀ visit, (f visit).drainedAt = visit.drainedAt ∧ (f visit).queue = visit.queue ∧ (f visit).hand = visit.hand) :
    Keeps s (s.change v f) := by
  intro u visit found
  simp only [Bridge.change] at found
  split at found
  · rename_i is
    rw [is]
    obtain ⟨before, was, rfl⟩ := Option.map_eq_some_iff.mp found
    exact ⟨before, was, same before⟩
  · exact ⟨visit, found, rfl, rfl, rfl⟩

theorem Keeps.finish {outcome : Outcome} : Keeps s (s.change v fun visit => visit.finish outcome) :=
  .change fun visit => by unfold Visit.finish; split <;> exact ⟨rfl, rfl, rfl⟩

theorem Keeps.take (part : Budget) : Keeps s (s.take v len part) := by
  cases part with
  | channel => exact .change fun _ => ⟨rfl, rfl, rfl⟩
  | bridge => exact .visits rfl
  | machine => exact .visits rfl

theorem Keeps.give (part : Budget) : Keeps s (s.give v len part) := by
  cases part with
  | channel => exact .change fun _ => ⟨rfl, rfl, rfl⟩
  | bridge => exact .visits rfl
  | machine => exact .visits rfl

theorem Keeps.dropWaiting (wait : Wait) (next : Budget) : Keeps s (s.dropWaiting wait next) := by
  have first : Keeps s (s.give wait.visit wait.len .channel) := .give _
  cases next with
  | channel => exact .visits rfl
  | bridge => exact first
  | machine => exact first.trans (.visits rfl)

/-- An event of anyone but the visitors' tasks that keeps the visits. -/
theorem Keeps.follows (keeps : Keeps s s') (own : ∀ v act, e ≠ .task v act) : Follows e s s' := by
  intro v visit' hold found held
  obtain ⟨visit, was, time, queue, hand⟩ := keeps v visit' found
  refine Or.inr ⟨visit, was, time, ?_, fun ⟨act, _, is, _⟩ => own v act is⟩
  cases hold with
  | waiting => rwa [Visit.Held, ← queue, ← hand]
  | halted => rwa [Visit.Held, ← hand]

end Kept

/-- A task notes the time, or leaves its visit as waiting as it was. -/
theorem follows_task {v : Nat} {act : TaskEvent} {s : Bridge} {visit visit' : Visit} (found : s.visits v = some visit)
    (acts : visit.act s.clock act = some visit') (part : Option (Budget × Nat)) :
    Follows (.task v act) s ((s.change v fun _ => visit').giveShared part) := by
  intro u now hold there held
  simp only [Bridge.giveShared_visits, Bridge.change, found, Option.map_some] at there
  rw [Bridge.giveShared_clock, Bridge.change_clock]
  split at there
  · rename_i same
    rw [same]
    cases there
    rcases (Visit.act_cases acts).1 with ⟨_, noted⟩ | ⟨quiet, kept, before⟩
    · exact Or.inl noted
    · refine Or.inr ⟨visit, found, kept, before hold held, ?_⟩
      rintro ⟨_, _, is, was, notes⟩
      cases is
      cases found.symm.trans was
      exact quiet notes
  · rename_i other
    refine Or.inr ⟨now, there, rfl, held, ?_⟩
    rintro ⟨_, _, is, _⟩
    cases is
    exact other rfl

theorem send_wait {s : Bridge} {v len : Nat} : (s.send v len).reader.wait = none := by
  unfold Bridge.send
  split
  · rfl
  · split <;> rfl

/-- After a frame that fits nothing waits. -/
theorem hold_wait {s : Bridge} {v len : Nat} {empty : Bool} : (s.hold v len empty).reader.wait = none := send_wait

/-- A frame that begins to wait does so now. -/
theorem data_wait {s : Bridge} {conn len : Nat} {wait : Wait} (reads : s.reader = .reading)
    (waits : (s.data conn len).reader.wait = some wait) :
    wait.since = s.clock ∧ (s.data conn len).reader = .waiting wait .channel := by
  revert waits
  unfold Bridge.data
  split
  · rw [reads]
    nofun
  · split
    · rw [reads]
      nofun
    · dsimp only
      split
      · rw [hold_wait]
        nofun
      · intro waits
        cases waits
        exact ⟨rfl, rfl⟩

/-- Where the reader waits after a step, it waits from now on, or waited before and queued nothing. -/
theorem step_waits {e : Event} {s s' : Bridge} {wait : Wait} (taken : step e s = some s')
    (waits : s'.reader.wait = some wait) :
    (wait.since = s'.clock ∧ s'.reader = .waiting wait .channel) ∨ s.reader.wait = some wait ∧ Follows e s s' := by
  have waited {reader : Reader} (reads : s.reader = reader) (same : reader.wait = some wait) : s.reader.wait = some wait :=
    reads ▸ same
  cases step_cases taken with
  | tick ms => exact Or.inr ⟨waits, (Keeps.visits rfl).follows (by simp)⟩
  | machine buffer => exact Or.inr ⟨waits, (Keeps.visits rfl).follows (by simp)⟩
  | route conn =>
      refine Or.inr ⟨waits, fun v visit hold found held => ?_⟩
      simp only [Bridge.route] at found
      split at found
      · cases found
        cases hold with
        | waiting => simp [Visit.Held] at held
        | halted => simp [Visit.Held] at held
      · exact Or.inr ⟨visit, found, rfl, held, by simp [Noted]⟩
  | unroute conn => exact Or.inr ⟨waits, (Keeps.visits rfl).follows (by simp)⟩
  | finish v other => exact Or.inr ⟨waits, Keeps.finish.follows (by simp)⟩
  | task found acts =>
      rw [Bridge.giveShared_reader] at waits
      exact Or.inr ⟨waits, follows_task found acts _⟩
  | data conn len reads =>
      rw [Bridge.data_clock]
      exact Or.inl (data_wait reads waits)
  | acquires reads _ _ _ => exact Or.inr ⟨waited reads waits, (Keeps.take _).follows (by simp)⟩
  | acquired _ _ _ _ =>
      rw [send_wait] at waits
      cases waits
  | deadline reads _ => exact Or.inr ⟨waited reads waits, (Keeps.dropWaiting _ _).follows (by simp)⟩
  | cancelled _ => cases waits
  | scan order reads => exact Or.inr ⟨waited reads waits, (Keeps.visits rfl).follows (by simp)⟩
  | looks reads => exact Or.inr ⟨waited reads waits, (Keeps.visits rfl).follows (by simp)⟩
  | looked reads => exact Or.inr ⟨waited reads waits, (Keeps.visits rfl).follows (by simp)⟩
  | @resets wait' conn v found reads =>
      refine Or.inr ⟨waited reads waits, Keeps.follows ?_ (by simp)⟩
      exact (Keeps.visits Bridge.unmap_visits : Keeps s (s.unmap conn)).trans .finish
  | sent reads => exact Or.inr ⟨waited reads waits, (Keeps.visits rfl).follows (by simp)⟩
  | sentLast _ => cases waits
  | gone _ => cases waits
  | fits _ _ =>
      rw [hold_wait] at waits
      cases waits
  | givesUp _ _ => cases waits
  | @dropped v len next _ => cases next <;> cases waits

/-! ### Where the reader is -/

/-- How a step moves the reader. -/
inductive Moves (s s' : Bridge) : Prop where
  | same (reader : s'.reader = s.reader)
  | ends (reader : s'.reader.wait = none)
  | waits {wait : Wait} {next : Budget} (reader : s'.reader = .waiting wait next)
  | stalls {wait : Wait} {next : Budget} (was : s.reader = .waiting wait next) (reader : s'.reader = .stalled wait)
      (late : wait.since + stallMs ≤ s'.clock)
  | scans {wait : Wait} {left : List (Nat × Nat)} (was : s.reader = .stalled wait)
      (reader : s'.reader = .looking wait s'.clock left [])
  | looks {wait : Wait} {now conn v : Nat} {left found : List (Nat × Nat)}
      (was : s.reader = .looking wait now ((conn, v) :: left) found)
      (reader : s'.reader = .looking wait now left (if s.isStalled now v then found ++ [(conn, v)] else found))
  | looked {wait : Wait} {now : Nat} {found : List (Nat × Nat)} (was : s.reader = .looking wait now [] found)
      (reader : s'.reader = .resetting wait found)
  | resets {wait : Wait} {conn v : Nat} {found : List (Nat × Nat)} (was : s.reader = .resetting wait ((conn, v) :: found))
      (reader : s'.reader = .sending wait found)
  | sent {wait : Wait} {found : List (Nat × Nat)} (was : s.reader = .sending wait found)
      (reader : s'.reader = .resetting wait found)

/-- What each event does to the noted times and to the frame that waits. -/
theorem step_moves {e : Event} {s s' : Bridge} (taken : step e s = some s') : Moves s s' := by
  cases step_cases taken with
  | tick ms => exact .same rfl
  | machine buffer => exact .same rfl
  | route conn => exact .same rfl
  | unroute conn => exact .same rfl
  | finish v other => exact .same rfl
  | task found acts => exact .same (Bridge.giveShared_reader _)
  | data conn len reads =>
      cases waits : (s.data conn len).reader.wait with
      | none => exact .ends waits
      | some wait => exact .waits (data_wait reads waits).2
  | acquires _ _ _ _ => exact .waits rfl
  | acquired _ _ _ _ => exact .ends send_wait
  | deadline reads late => exact .stalls reads rfl (by simpa using late)
  | cancelled _ => exact .ends rfl
  | scan order reads => exact .scans reads rfl
  | looks reads => exact .looks reads rfl
  | looked reads => exact .looked reads rfl
  | resets reads => exact .resets reads rfl
  | sent reads => exact .sent reads rfl
  | sentLast _ => exact .ends rfl
  | gone _ => exact .ends rfl
  | fits _ _ => exact .ends hold_wait
  | givesUp _ _ => exact .ends rfl
  | @dropped v len next _ => cases next <;> exact .ends rfl

/-! ### The invariant -/

/-- While a frame waited, `reset_stalled` found the visit calm for `STALL`: its client's data waited throughout (or its
    task stood still in the middle of giving a share back), no frame of it was completed and no progress noted. -/
def Starved (s₀ : Bridge) (events : List Event) (wait : Wait) (conn v : Nat) : Prop :=
  ∃ before during after m look hold now left found, events = before ++ during ++ after ∧
    Played step Always s₀ before m ∧ Played step (Calm v hold) m during look ∧ Holds v hold look ∧
    look.reader = .looking wait now ((conn, v) :: left) found ∧ m.clock + stallMs ≤ now ∧ now ≤ look.clock

theorem Starved.later {s₀ : Bridge} {events : List Event} {wait : Wait} {conn v : Nat}
    (starved : Starved s₀ events wait conn v) (e : Event) : Starved s₀ (events ++ [e]) wait conn v := by
  obtain ⟨before, during, after, m, look, hold, now, left, found, rfl, rest⟩ := starved
  exact ⟨before, during, after ++ [e], m, look, hold, now, left, found, List.append_assoc _ _ _, rest⟩

/-- What `reset_stalled` found and did not reset yet. -/
def Reader.found : Reader → List (Nat × Nat)
  | .looking _ _ _ found => found
  | .resetting _ found => found
  | .sending _ found => found
  | _ => []

structure Watched (s₀ : Bridge) (events : List Event) (s : Bridge) : Prop where
  balanced : Balanced s.reader.share s
  /-- every share that is held while a frame waits has been since its time or since the frame came -/
  since : ∀ wait, s.reader.wait = some wait → ∀ v visit hold, s.visits v = some visit → visit.Held hold →
    Since s₀ v hold (max visit.drainedAt wait.since) events s
  late : ∀ wait, s.reader.wait = some wait → (∃ next, s.reader = .waiting wait next) ∨ wait.since + stallMs ≤ s.clock
  looking : ∀ wait now left found, s.reader = .looking wait now left found →
    wait.since + stallMs ≤ now ∧ now ≤ s.clock
  found : ∀ wait, s.reader.wait = some wait → ∀ conn v, (conn, v) ∈ s.reader.found → Starved s₀ events wait conn v

section Run

variable {s₀ s s' : Bridge} {e : Event} {events : List Event}

/-- Noted times go on meaning what they say. -/
theorem Watched.since_step (watched : Watched s₀ events s) (played : Played step Always s₀ events s)
    (taken : step e s = some s') {wait : Wait} (waits : s'.reader.wait = some wait) {v : Nat} {visit : Visit} {hold : Hold}
    (found : s'.visits v = some visit) (held : visit.Held hold) :
    Since s₀ v hold (max visit.drainedAt wait.since) (events ++ [e]) s' := by
  have played' : Played step Always s₀ (events ++ [e]) s' := played.step e trivial taken
  rcases step_waits taken waits with ⟨began, _⟩ | ⟨waited, follows⟩
  · exact .here played' (began ▸ Nat.le_max_right _ _)
  · rcases follows v visit hold found held with noted | ⟨before, was, time, holds, quiet⟩
    · exact .here played' (noted ▸ Nat.le_max_left _ _)
    · rw [time]
      exact (watched.since wait waited v before hold was holds).step ⟨⟨before, was, holds⟩, quiet⟩ taken

/-- The wait is over only after `STALL`. -/
theorem Watched.late_step (watched : Watched s₀ events s) (taken : step e s = some s') {wait : Wait}
    (waits : s'.reader.wait = some wait) : (∃ next, s'.reader = .waiting wait next) ∨ wait.since + stallMs ≤ s'.clock := by
  have goesOn := clock_le taken
  have kept {reader : Reader} (was : s.reader = reader) (same : reader.wait = some wait)
      (past : ∀ next, reader ≠ .waiting wait next) : wait.since + stallMs ≤ s'.clock := by
    rcases watched.late wait (was ▸ same) with ⟨next, reads⟩ | late
    · exact absurd (was.symm.trans reads) (past next)
    · exact Nat.le_trans late goesOn
  cases step_moves taken with
  | same reader =>
      rw [reader] at waits ⊢
      exact (watched.late wait waits).imp_right (Nat.le_trans · goesOn)
  | ends reader =>
      rw [reader] at waits
      cases waits
  | waits reader =>
      rw [reader] at waits ⊢
      cases waits
      exact Or.inl ⟨_, rfl⟩
  | stalls was reader late =>
      rw [reader] at waits
      cases waits
      exact Or.inr late
  | scans was reader =>
      rw [reader] at waits
      exact Or.inr (kept was waits (by simp))
  | looks was reader =>
      rw [reader] at waits
      exact Or.inr (kept was waits (by simp))
  | looked was reader =>
      rw [reader] at waits
      exact Or.inr (kept was waits (by simp))
  | resets was reader =>
      rw [reader] at waits
      exact Or.inr (kept was waits (by simp))
  | sent was reader =>
      rw [reader] at waits
      exact Or.inr (kept was waits (by simp))

/-- The connections are looked at only after `STALL`. -/
theorem Watched.looking_step (watched : Watched s₀ events s) (taken : step e s = some s') {wait : Wait} {now : Nat}
    {left found : List (Nat × Nat)} (reads : s'.reader = .looking wait now left found) :
    wait.since + stallMs ≤ now ∧ now ≤ s'.clock := by
  have goesOn := clock_le taken
  cases step_moves taken with
  | same reader =>
      have before := watched.looking wait now left found (reader.symm.trans reads)
      exact ⟨before.1, Nat.le_trans before.2 goesOn⟩
  | ends reader =>
      rw [reads] at reader
      cases reader
  | scans was reader =>
      cases reader.symm.trans reads
      have stalled : s.reader.wait = some wait := by rw [was]; rfl
      rcases watched.late wait stalled with ⟨next, waits⟩ | late
      · cases was.symm.trans waits
      · exact ⟨Nat.le_trans late goesOn, Nat.le_refl _⟩
  | looks was reader =>
      cases reader.symm.trans reads
      have before := watched.looking _ _ _ _ was
      exact ⟨before.1, Nat.le_trans before.2 goesOn⟩
  | waits reader => cases reader.symm.trans reads
  | stalls _ reader _ => cases reader.symm.trans reads
  | looked _ reader => cases reader.symm.trans reads
  | resets _ reader => cases reader.symm.trans reads
  | sent _ reader => cases reader.symm.trans reads

/-- `reset_stalled` finds a visit that is starved. -/
theorem Watched.starved (watched : Watched s₀ events s) {wait : Wait} {now conn v : Nat} {left found : List (Nat × Nat)}
    (looks : s.reader = .looking wait now ((conn, v) :: left) found) (stalled : s.isStalled now v = true) (e : Event) :
    Starved s₀ (events ++ [e]) wait conn v := by
  have times := watched.looking _ _ _ _ looks
  unfold Bridge.isStalled at stalled
  split at stalled
  · cases stalled
  · rename_i visit there
    obtain ⟨short, old⟩ := of_decide_eq_true stalled
    have whole := watched.balanced v visit there
    rw [looks] at whole
    obtain ⟨hold, held⟩ := Visit.held_of_short whole short
    have waits : s.reader.wait = some wait := by rw [looks]; rfl
    obtain ⟨before, during, m, rfl, played, past, calm⟩ := watched.since wait waits v visit hold there held
    have stall : 0 < stallMs := by decide
    refine ⟨before, during, [e], m, s, hold, now, left, found, rfl, played, calm, ⟨visit, there, held⟩, looks, ?_, times.2⟩
    omega

/-- Who is found was starved. -/
theorem Watched.found_step (watched : Watched s₀ events s) (taken : step e s = some s') {wait : Wait}
    (waits : s'.reader.wait = some wait) {conn v : Nat} (listed : (conn, v) ∈ s'.reader.found) :
    Starved s₀ (events ++ [e]) wait conn v := by
  have kept {reader : Reader} (was : s.reader = reader) (same : reader.wait = some wait)
      (there : (conn, v) ∈ reader.found) : Starved s₀ (events ++ [e]) wait conn v :=
    (watched.found wait (was ▸ same) conn v (was ▸ there)).later e
  cases step_moves taken with
  | same reader => exact kept reader.symm waits listed
  | ends reader =>
      rw [reader] at waits
      cases waits
  | waits reader =>
      rw [reader] at listed
      cases listed
  | stalls _ reader _ =>
      rw [reader] at listed
      cases listed
  | scans _ reader =>
      rw [reader] at listed
      cases listed
  | looks was reader =>
      rw [reader] at waits listed
      cases waits
      simp only [Reader.found] at listed
      split at listed
      · rename_i stalled
        rcases List.mem_append.mp listed with before | now
        · exact kept was rfl before
        · cases List.mem_singleton.mp now
          exact watched.starved was stalled e
      · exact kept was rfl listed
  | looked was reader =>
      rw [reader] at waits listed
      exact kept was waits listed
  | resets was reader =>
      rw [reader] at waits listed
      exact kept was waits (List.mem_cons_of_mem _ listed)
  | sent was reader =>
      rw [reader] at waits listed
      exact kept was waits listed

/-- A bridge before its first connection. -/
def fresh (clock buffer : Nat) : Bridge := { clock := clock, buffer := buffer }

theorem watched_of_played {clock buffer : Nat} (played : Played step Always (fresh clock buffer) events s) :
    Watched (fresh clock buffer) events s := by
  refine played.invariant ⟨nofun, nofun, nofun, nofun, nofun⟩ fun e events s s' before _ watched taken => ?_
  exact {
    balanced := balanced_step watched.balanced taken
    since := fun wait waits v visit hold found held => watched.since_step before taken waits found held
    late := fun wait waits => watched.late_step taken waits
    looking := fun wait now left found reads => watched.looking_step taken reads
    found := fun wait waits conn v listed => watched.found_step taken waits listed }

end Run

/-! ### Resets -/

def Bridge.outcome (s : Bridge) (v : Nat) : Option Outcome := (s.visits v).bind (·.outcome)

section Outcomes

variable {s : Bridge} {v len conn : Nat}

theorem outcome_change {f : Visit → Visit} (same : ∀ visit, (f visit).outcome = visit.outcome) :
    (s.change v f).outcome = s.outcome := by
  funext u
  simp only [Bridge.outcome, Bridge.change]
  split
  · rename_i is
    rw [is]
    cases s.visits v with
    | none => rfl
    | some visit => exact same visit
  · rfl

@[simp] theorem outcome_take (part : Budget) : (s.take v len part).outcome = s.outcome := by
  cases part with
  | channel => exact outcome_change fun _ => rfl
  | bridge => rfl
  | machine => rfl

@[simp] theorem outcome_give (part : Budget) : (s.give v len part).outcome = s.outcome := by
  cases part with
  | channel => exact outcome_change fun _ => rfl
  | bridge => rfl
  | machine => rfl

@[simp] theorem outcome_starts (empty : Bool) : (s.starts v empty).outcome = s.outcome := by
  cases empty with
  | true => exact outcome_change fun _ => rfl
  | false => rfl

@[simp] theorem outcome_send : (s.send v len).outcome = s.outcome := by
  unfold Bridge.send
  split
  · rfl
  · split
    · exact outcome_change fun _ => rfl
    · exact outcome_starts true

@[simp] theorem outcome_hold (empty : Bool) : (s.hold v len empty).outcome = s.outcome := by
  simp [Bridge.hold]

@[simp] theorem outcome_data : (s.data conn len).outcome = s.outcome := by
  unfold Bridge.data
  split
  · rfl
  · split
    · rfl
    · dsimp only
      split
      · exact outcome_hold _
      · exact outcome_starts _

@[simp] theorem outcome_dropWaiting (wait : Wait) (next : Budget) : (s.dropWaiting wait next).outcome = s.outcome := by
  have first : (s.give wait.visit wait.len .channel).outcome = s.outcome := outcome_give _
  cases next with
  | channel => rfl
  | bridge => exact first
  | machine => exact first

theorem outcome_finish {outcome : Outcome} {u : Nat}
    (finished : (s.change v fun visit => visit.finish outcome).outcome u = some .backpressure) :
    s.outcome u = some .backpressure ∨ u = v ∧ outcome = .backpressure := by
  by_cases is : u = v
  · subst is
    cases found : s.visits u with
    | none => simp [Bridge.outcome, Bridge.change, found] at finished
    | some visit =>
        have after : (visit.finish outcome).outcome = some .backpressure := by
          simpa [Bridge.outcome, Bridge.change, found] using finished
        unfold Visit.finish at after
        split at after
        · exact Or.inl (by simpa [Bridge.outcome, found] using after)
        · exact Or.inr ⟨rfl, Option.some.inj after⟩
  · exact Or.inl (by simpa [Bridge.outcome, Bridge.change, is] using finished)

end Outcomes

/-- The step finishes the visit for backpressure. -/
def Resets (v : Nat) (s s' : Bridge) : Prop := s.outcome v ≠ some .backpressure ∧ s'.outcome v = some .backpressure

/-- Only the two calls of `reset` do. -/
theorem resets_cases {e : Event} {s s' : Bridge} {v : Nat} (taken : step e s = some s') (resets : Resets v s s') :
    (∃ wait conn found, s.reader = .resetting wait ((conn, v) :: found)) ∨
      ∃ wait, s.reader = .resetting wait [] ∧ wait.visit = v ∧ s.fits v wait.len = false := by
  obtain ⟨before, after⟩ := resets
  have changes (same : s'.outcome v = s.outcome v) : False := before (same.symm.trans after)
  cases step_cases taken with
  | tick ms => exact (changes rfl).elim
  | machine buffer => exact (changes rfl).elim
  | route conn =>
      simp only [Bridge.outcome, Bridge.route] at before after
      split at after
      · cases after
      · exact absurd after before
  | unroute conn => exact (changes rfl).elim
  | finish u other =>
      rcases outcome_finish after with same | ⟨_, is⟩
      · exact absurd same before
      · exact absurd is other
  | @task u act visit visit' found acts =>
      refine (changes ?_).elim
      simp only [Bridge.outcome, Bridge.giveShared_visits, Bridge.change, found, Option.map_some]
      split
      · rename_i same
        rw [same, found]
        exact (Visit.act_cases acts).2.2
      · rfl
  | data conn len _ => exact (changes (congrFun outcome_data v)).elim
  | acquires _ _ _ _ => exact (changes (congrFun (outcome_take _) v)).elim
  | acquired _ _ _ _ => exact (changes (congrFun (outcome_send.trans (outcome_take _)) v)).elim
  | deadline _ _ => exact (changes (congrFun (outcome_dropWaiting _ _) v)).elim
  | cancelled _ => exact (changes (congrFun (outcome_dropWaiting _ _) v)).elim
  | scan order _ => exact (changes rfl).elim
  | looks _ => exact (changes rfl).elim
  | looked _ => exact (changes rfl).elim
  | @resets wait conn u found reads =>
      rcases outcome_finish (s := s.unmap conn) after with same | ⟨is, _⟩
      · exact absurd same before
      · cases is
        exact Or.inl ⟨wait, conn, found, reads⟩
  | sent _ => exact (changes rfl).elim
  | sentLast _ => exact (changes rfl).elim
  | gone _ => exact (changes rfl).elim
  | fits _ _ => exact (changes (congrFun (outcome_hold _) v)).elim
  | @givesUp wait reads unfit =>
      rcases outcome_finish (s := s.unmap wait.conn) after with same | ⟨is, _⟩
      · exact absurd same before
      · cases is
        exact Or.inr ⟨wait, reads, rfl, unfit⟩
  | dropped _ => exact (changes (congrFun (outcome_give _) v)).elim

/-- Who is reset for backpressure was starved while a frame waited for `STALL`, or it is the connection whose frame waited
    that long and does not fit. -/
theorem resets_starved {clock buffer : Nat} {events : List Event} {e : Event} {s s' : Bridge} {v : Nat}
    (played : Played step Always (fresh clock buffer) events s) (taken : step e s = some s') (resets : Resets v s s') :
    (∃ wait conn found, s.reader = .resetting wait ((conn, v) :: found) ∧
        Starved (fresh clock buffer) events wait conn v) ∨
      ∃ wait, s.reader = .resetting wait [] ∧ wait.visit = v ∧ wait.since + stallMs ≤ s.clock ∧ s.fits v wait.len = false := by
  have watched := watched_of_played played
  rcases resets_cases taken resets with ⟨wait, conn, found, reads⟩ | ⟨wait, reads, same, unfit⟩
  · have waits : s.reader.wait = some wait := by rw [reads]; rfl
    have listed : (conn, v) ∈ s.reader.found := by
      rw [reads]
      exact List.mem_cons_self
    exact Or.inl ⟨wait, conn, found, reads, watched.found wait waits conn v listed⟩
  · have waits : s.reader.wait = some wait := by rw [reads]; rfl
    rcases watched.late wait waits with ⟨next, still⟩ | late
    · cases reads.symm.trans still
    · exact Or.inr ⟨wait, reads, same, late, unfit⟩

instance (e : Event) (s : Bridge) : Decidable (Always e s) := isTrue trivial

/-- Neither visitor takes what is being written to it. The machine's budget is spent when a second frame comes for the
    first, and free again when its wait ends; then the connections are gone through in this order. -/
def stalledRun (order : List (Nat × Nat)) : List Event :=
  [.route 1, .route 2, .data 2 10, .task 1 .take, .data 1 10, .task 0 .take, .machine 5, .data 1 10, .tick 5000,
    .machine 100, .deadline, .scan order, .look, .look, .look]

/-- The bystander is reset first. -/
theorem resets_starved_stalled : ∃ s wait, playSteps step Always (stalledRun [(2, 1), (1, 0)]) (fresh 0 100) = some s ∧
    s.reader = .resetting wait [(2, 1), (1, 0)] ∧ wait.visit = 0 ∧
    ((∃ wait conn found, s.reader = .resetting wait ((conn, 1) :: found) ∧
        Starved (fresh 0 100) (stalledRun [(2, 1), (1, 0)]) wait conn 1) ∨
      ∃ wait, s.reader = .resetting wait [] ∧ wait.visit = 1 ∧ wait.since + stallMs ≤ s.clock ∧ s.fits 1 wait.len = false) :=
  ⟨_, { conn := 1, visit := 0, len := 10, empty := false, since := 0 }, rfl, rfl, rfl,
    resets_starved (e := .reset) (played_of_play rfl) rfl ⟨nofun, rfl⟩⟩

/-- The second visitor's frame was written and its task stands still before it gives the share back, while the machine's
    budget is spent and a frame waits for the first. -/
def stillRun : List Event :=
  [.route 1, .route 2, .data 2 10, .task 1 .take, .task 1 .wrote, .data 1 10, .machine 5, .data 1 10, .tick 5000,
    .deadline, .scan [(2, 1), (1, 0)], .look, .look, .look]

/-- The connection whose frame waits is reset with the stalled ones although the frame fits; and a bystander is reset
    although nothing waits for its visitor. -/
theorem stalled_waiting_fits :
    (∃ s s' wait conn found, Played step Always (fresh 0 100) (stalledRun [(1, 0), (2, 1)]) s ∧
      s.reader = .resetting wait ((conn, wait.visit) :: found) ∧ s.fits wait.visit wait.len = true ∧
      step .reset s = some s' ∧ Resets wait.visit s s') ∧
    ∃ s s' wait conn found visit, Played step Always (fresh 0 100) stillRun s ∧
      s.reader = .resetting wait ((conn, 1) :: found) ∧ wait.visit = 0 ∧ s.visits 1 = some visit ∧
      ¬ visit.Held .waiting ∧ step .reset s = some s' ∧ Resets 1 s s' := by
  constructor
  · exact ⟨_, _, { conn := 1, visit := 0, len := 10, empty := false, since := 0 }, 1, _, played_of_play rfl, rfl, rfl, rfl,
      nofun, rfl⟩
  · refine ⟨_, _, { conn := 1, visit := 0, len := 10, empty := false, since := 0 }, 2, _, _, played_of_play rfl, rfl, rfl, rfl,
      ?_, rfl, nofun, rfl⟩
    rintro (queued | ⟨len, previous, acked, writing⟩)
    · exact queued rfl
    · cases writing

end OpenTunnel.Backpressure
