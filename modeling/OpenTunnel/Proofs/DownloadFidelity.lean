/-
Module: OpenTunnel.Proofs.DownloadFidelity
Layer: Proofs
Purpose: What a visitor gets is what the client sent for it. The reader relies on being the only one that queues, and
  a download on being the only one that takes from its queue; each keeps what the other relies on. The frames the
  client sent for a connection are those that were queued and then those that were dropped, what was written and what
  is still in the queue make up the queued ones, and the write side is shut down only behind the client's end.
Imports: OpenTunnel.Tasks.Contract, OpenTunnel.Proofs.Download
Trusted boundary: none (fully proved)
Main exports: Proper, Effect.faithful, rules, faultless, downloads_faithful
Open obligations: none
-/
import OpenTunnel.Tasks.Contract
import OpenTunnel.Proofs.Download

namespace OpenTunnel.Download

open Tasks Tasks.Semantics

/-! ### Frames -/

section Frames

variable {ch : Channel}

theorem passed_split {good bad : List Bytes} (is : ch.frames = good.map (·, true) ++ bad.map (·, false)) :
    ch.passed = good.flatten := by
  have kept : (good.map fun payload => (payload, true)).filter (·.2) = good.map (·, true) := by
    apply List.filter_eq_self.mpr
    simp
  have none_ : (bad.map fun payload => (payload, false)).filter (·.2) = [] := by
    apply List.filter_eq_nil_iff.mpr
    simp
  rw [Channel.passed, is, List.filter_append, kept, none_]
  simp [Function.comp_def]

theorem sent_split {good bad : List Bytes} (is : ch.frames = good.map (·, true) ++ bad.map (·, false)) :
    ch.sent = good.flatten ++ bad.flatten := by
  rw [Channel.sent, is]
  simp [Function.comp_def]

theorem not_lost {isOpen : Prop} (faithful : ch.Faithful isOpen) (complete : ¬ ch.lost) :
    ∃ good : List Bytes, ch.frames = good.map (·, true) := by
  obtain ⟨good, bad, is⟩ := faithful.ordered
  cases bad with
  | nil => exact ⟨good, by simpa using is⟩
  | cons payload rest =>
      exact absurd ⟨(payload, false), by simp [is], rfl⟩ complete

theorem finish_abort (ch : Channel) (outcome : Outcome) :
    (ch.finish outcome true).abort = true ∨ ch.outcome.isSome = true ∧ ch.finish outcome true = ch := by
  unfold Channel.finish
  split
  · rename_i decided
    exact Or.inr ⟨decided, rfl⟩
  · exact Or.inl (by simp)

@[simp] theorem finish_frames (outcome : Outcome) (abort : Bool) : (ch.finish outcome abort).frames = ch.frames := by
  unfold Channel.finish
  split <;> rfl

@[simp] theorem finish_ended (outcome : Outcome) (abort : Bool) : (ch.finish outcome abort).ended = ch.ended := by
  unfold Channel.finish
  split <;> rfl

@[simp] theorem finish_queue (outcome : Outcome) (abort : Bool) : (ch.finish outcome abort).queue = ch.queue := by
  unfold Channel.finish
  split <;> rfl

@[simp] theorem finish_written (outcome : Outcome) (abort : Bool) : (ch.finish outcome abort).written = ch.written := by
  unfold Channel.finish
  split <;> rfl

@[simp] theorem finish_halfClosed (outcome : Outcome) (abort : Bool) :
    (ch.finish outcome abort).halfClosed = ch.halfClosed := by
  unfold Channel.finish
  split <;> rfl

@[simp] theorem finish_receiving (outcome : Outcome) (abort : Bool) :
    (ch.finish outcome abort).receiving = ch.receiving := by
  unfold Channel.finish
  split <;> rfl

@[simp] theorem finish_conn (outcome : Outcome) (abort : Bool) : (ch.finish outcome abort).conn = ch.conn := by
  unfold Channel.finish
  split <;> rfl

@[simp] theorem finish_passed (outcome : Outcome) (abort : Bool) : (ch.finish outcome abort).passed = ch.passed := by
  simp [Channel.passed]

end Frames

/-! ### One connection -/

/-- What the act needs of the connection it is about. -/
structure Proper (op : Option DownAct) (s : Table) (v : Nat) (ch : Channel) : Prop where
  queue : ∀ payload, op = some (.queue v payload) → ch.receiving = true → ¬ ch.lost ∧ ch.ended = none
  ended : op = some (.endChannel ch.conn) → s.Open v ch → ch.receiving = true → ¬ ch.lost
  write : ∀ data, op = some (.write v data) → ch.receiving = true → ∃ rest, ch.written ++ data ++ rest = ch.passed
  shutdown : op = some (.shutdown v) → ch.receiving = true → ch.ended.isSome = true ∧ ch.written = ch.passed

namespace Channel.Faithful

variable {ch : Channel} {isOpen isOpen' : Prop}

/-- What a connection leaves of its state when only its end is decided or its task goes. -/
theorem leave {ch' : Channel} (faithful : ch.Faithful isOpen) (opens : isOpen' → isOpen)
    (undecided : isOpen' → ch'.outcome = none ∨ ch'.abort = true)
    (closed : ¬ isOpen' → ch'.receiving = true → ch'.abort = true ∨ ch'.ended.isSome = true)
    (frames : ch'.frames = ch.frames) (ended : ch'.ended = ch.ended) (queue : ch'.queue = ch.queue ∨ ch'.queue = [])
    (written : ch'.written = ch.written) (halfClosed : ch'.halfClosed = ch.halfClosed) : ch'.Faithful isOpen' where
  undecided := undecided
  closed := closed
  ordered := by
    rw [frames]
    exact faithful.ordered
  ending := by
    intro n is
    rw [ended] at is
    obtain ⟨shut, split⟩ := faithful.ending n is
    rw [frames]
    exact ⟨fun open_ => shut (opens open_), split⟩
  shape := by
    rw [ended]
    rcases queue with same | empty
    · rw [same]
      exact faithful.shape
    · exact ⟨[], Or.inl empty⟩
  written := by
    have passed : ch'.passed = ch.passed := by rw [Channel.passed, frames, Channel.passed]
    rw [written, passed]
    exact faithful.written
  halfClosed := by
    have passed : ch'.passed = ch.passed := by rw [Channel.passed, frames, Channel.passed]
    rw [halfClosed, ended, written, passed]
    exact faithful.halfClosed

theorem finish (faithful : ch.Faithful isOpen) (outcome : Outcome) (opens : isOpen' → isOpen) :
    (ch.finish outcome true).Faithful isOpen' := by
  apply faithful.leave opens
  · intro open_
    rcases finish_abort ch outcome with aborted | ⟨decided, same⟩
    · exact Or.inr aborted
    · rw [same]
      exact faithful.undecided (opens open_)
  · intro shut receiving
    rcases finish_abort ch outcome with aborted | ⟨decided, same⟩
    · exact Or.inl aborted
    · rw [same] at receiving ⊢
      by_cases open_ : isOpen
      · rcases faithful.undecided open_ with undecided | aborted
        · simp [undecided] at decided
        · exact Or.inl aborted
      · exact faithful.closed open_ receiving
  all_goals simp

/-- The task that wrote to the visitor goes. -/
theorem stop (faithful : ch.Faithful isOpen) (opens : isOpen' → isOpen) :
    ({ ch with receiving := false, queue := [] } : Channel).Faithful isOpen' := by
  refine faithful.leave opens (fun open_ => faithful.undecided (opens open_)) ?_ rfl rfl (Or.inr rfl) rfl rfl
  intro _ receiving
  cases receiving

/-- A frame that is not queued. -/
theorem drop (faithful : ch.Faithful isOpen) (payload : Bytes) :
    ({ ch with frames := ch.frames ++ [(payload, false)] } : Channel).Faithful isOpen where
  undecided := faithful.undecided
  closed := faithful.closed
  ordered := by
    obtain ⟨good, bad, is⟩ := faithful.ordered
    exact ⟨good, bad ++ [payload], by simp [is]⟩
  ending := by
    intro n is
    obtain ⟨shut, good, bad, split, count⟩ := faithful.ending n is
    exact ⟨shut, good, bad ++ [payload], by simp [split], count⟩
  shape := faithful.shape
  written := by simpa [Channel.passed] using faithful.written
  halfClosed := by simpa [Channel.passed] using faithful.halfClosed

theorem queue (faithful : ch.Faithful isOpen) (payload : Bytes) (complete : ¬ ch.lost) (unended : ch.ended = none) :
    ({ ch with queue := ch.queue ++ [.data payload], frames := ch.frames ++ [(payload, true)] } : Channel).Faithful
      isOpen where
  undecided := faithful.undecided
  closed := faithful.closed
  ordered := by
    obtain ⟨good, is⟩ := not_lost faithful complete
    exact ⟨good ++ [payload], [], by simp [is]⟩
  ending := by
    intro n is
    simp [unended] at is
  shape := by
    obtain ⟨payloads, data | ⟨-, ended⟩⟩ := faithful.shape
    · exact ⟨payloads ++ [payload], Or.inl (by simp [data])⟩
    · simp [unended] at ended
  written := by
    apply faithful.written.trans
    simp [Channel.passed]
  halfClosed := by
    intro shut
    have ended := (faithful.halfClosed shut).1
    simp [unended] at ended

theorem end_ (faithful : ch.Faithful isOpen) (open_ : isOpen) (complete : ¬ ch.lost) (closed : ¬ isOpen') :
    ({ ch.finish .closed false with queue := ch.queue ++ [.end_], ended := some ch.frames.length } : Channel).Faithful
      isOpen' where
  undecided := fun again => absurd again closed
  closed := fun _ _ => Or.inr rfl
  ordered := by simpa using faithful.ordered
  ending := by
    intro n is
    obtain ⟨good, all⟩ := not_lost faithful complete
    cases is
    exact ⟨closed, good, [], by simp [all], by simp [all]⟩
  shape := by
    obtain ⟨payloads, data | ⟨-, ended⟩⟩ := faithful.shape
    · exact ⟨payloads, Or.inr ⟨by simp [data], rfl⟩⟩
    · obtain ⟨n, is⟩ := Option.isSome_iff_exists.mp ended
      exact absurd open_ (faithful.ending n is).1
  written := by simpa [Channel.passed] using faithful.written
  halfClosed := by
    intro shut
    have whole := (faithful.halfClosed (by simpa using shut)).2
    exact ⟨rfl, by simpa [Channel.passed] using whole⟩

theorem pop {item : Inbound} {rest : List Inbound} (faithful : ch.Faithful isOpen) (front : ch.queue = item :: rest) :
    ({ ch with queue := rest } : Channel).Faithful isOpen where
  undecided := faithful.undecided
  closed := faithful.closed
  ordered := faithful.ordered
  ending := faithful.ending
  shape := by
    obtain ⟨payloads, is⟩ := faithful.shape
    cases payloads with
    | nil =>
        rcases is with data | ⟨last, ended⟩
        · simp [front] at data
        · simp only [front, List.map_nil, List.nil_append, List.cons.injEq] at last
          exact ⟨[], Or.inl last.2⟩
    | cons payload payloads =>
        rcases is with data | ⟨last, ended⟩
        · simp only [front, List.map_cons, List.cons.injEq] at data
          exact ⟨payloads, Or.inl data.2⟩
        · simp only [front, List.map_cons, List.cons_append, List.cons.injEq] at last
          exact ⟨payloads, Or.inr ⟨last.2, ended⟩⟩
  written := faithful.written
  halfClosed := faithful.halfClosed

theorem write {data rest : Bytes} (faithful : ch.Faithful isOpen) (count : Nat)
    (whole : ch.written ++ data ++ rest = ch.passed) :
    ({ ch with written := ch.written ++ data.take count } : Channel).Faithful isOpen where
  undecided := faithful.undecided
  closed := faithful.closed
  ordered := faithful.ordered
  ending := faithful.ending
  shape := faithful.shape
  written := by
    show ch.written ++ data.take count <+: ch.passed
    rw [← whole, List.append_assoc, List.prefix_append_right_inj]
    exact (List.take_prefix count data).trans (List.prefix_append data rest)
  halfClosed := by
    intro shut
    obtain ⟨ended, all⟩ := faithful.halfClosed shut
    refine ⟨ended, ?_⟩
    show ch.written ++ data.take count = ch.passed
    have nothing : data = [] := by
      rw [← all, List.append_assoc] at whole
      have empty : data ++ rest = [] := by simpa using whole
      exact (List.append_eq_nil_iff.mp empty).1
    simp [nothing, all]

theorem shutdown (faithful : ch.Faithful isOpen) (ended : ch.ended.isSome = true) (whole : ch.written = ch.passed) :
    ({ ch with halfClosed := true } : Channel).Faithful isOpen where
  undecided := faithful.undecided
  closed := faithful.closed
  ordered := faithful.ordered
  ending := faithful.ending
  shape := faithful.shape
  written := faithful.written
  halfClosed := fun _ => ⟨ended, whole⟩

/-- A connection that was just routed. -/
theorem routed (conn : Nat) (open_ : isOpen) : (Channel.core { conn := conn }).Faithful isOpen where
  undecided := fun _ => Or.inl rfl
  closed := fun shut => absurd open_ shut
  ordered := ⟨[], [], rfl⟩
  ending := fun _ is => by cases is
  shape := ⟨[], Or.inl rfl⟩
  written := List.prefix_rfl
  halfClosed := fun shut => by cases shut

theorem congr (faithful : ch.Faithful isOpen) (same : isOpen' ↔ isOpen) : ch.Faithful isOpen' := by
  rwa [propext same]

end Channel.Faithful

variable {op : Option DownAct} {s s' : Session} {v : Nat}

/-- Every change keeps a connection faithful. -/
theorem Effect.faithful {s s' : Table} {ch' : Channel} (effect : Effect op s s' v)
    (faithful : ∀ ch, s.view v = some ch → ch.Faithful (s.Open v ch))
    (proper : ∀ ch, s.view v = some ch → Proper op s v ch) (view' : s'.view v = some ch') :
    ch'.Faithful (s'.Open v ch') := by
  cases effect with
  | kept view open_ =>
      rw [view] at view'
      exact (faithful ch' view').congr (open_ ch' view')
  | routed conn is was view open_ =>
      rw [view] at view'
      cases view'
      exact .routed conn open_
  | aborted ch outcome was view open_ =>
      rw [view] at view'
      cases view'
      apply (faithful ch was).finish outcome
      intro mapped
      exact open_ (by simpa [Table.Open] using mapped)
  | stopped ch was aborts view open_ =>
      rw [view] at view'
      cases view'
      have before := faithful ch was
      cases aborts with
      | false => exact before.stop open_
      | true =>
          have opens : s'.Open v (ch.finish .clientError true) → s.Open v ch :=
            fun mapped => open_ (by simpa [Table.Open] using mapped)
          exact (before.finish .clientError opens).stop fun mapped => mapped
  | «over» ch was view closed gone =>
      rw [view] at view'
      cases view'
      have shut : ¬ s'.Open v (ch.finish .closed false) := by simpa [Table.Open] using closed
      apply (faithful ch was).leave (fun mapped => absurd mapped shut) (fun mapped => absurd mapped shut)
      · intro _ receiving
        simp [gone] at receiving
      all_goals simp
  | queued ch payload is was receiving view open_ =>
      rw [view] at view'
      cases view'
      obtain ⟨complete, unended⟩ := (proper ch was).queue payload is receiving
      exact ((faithful ch was).queue payload complete unended).congr open_
  | refused ch payload is was gone view open_ =>
      rw [view] at view'
      cases view'
      exact ((faithful ch was).drop payload).congr open_
  | dropped ch payload is was view open_ =>
      rw [view] at view'
      cases view'
      exact ((faithful ch was).drop payload).congr open_
  | ended ch is was receiving open_ view closed =>
      rw [view] at view'
      cases view'
      apply (faithful ch was).end_ open_ ((proper ch was).ended is open_ receiving)
      simpa [Table.Open] using closed
  | popped ch item rest is was front view open_ =>
      rw [view] at view'
      cases view'
      exact ((faithful ch was).pop front).congr open_
  | wrote ch data count is was receiving view open_ =>
      rw [view] at view'
      cases view'
      obtain ⟨rest, whole⟩ := (proper ch was).write data is receiving
      exact ((faithful ch was).write count whole).congr open_
  | shut ch is was receiving view open_ =>
      rw [view] at view'
      cases view'
      obtain ⟨ended, whole⟩ := (proper ch was).shutdown is receiving
      exact ((faithful ch was).shutdown ended whole).congr open_

/-- A connection keeps its number. -/
theorem Effect.conn {s s' : Table} {ch : Channel} (effect : Effect op s s' v) (was : s.view v = some ch) :
    ∃ ch', s'.view v = some ch' ∧ ch'.conn = ch.conn := by
  cases effect with
  | kept view open_ => exact ⟨ch, view.trans was, rfl⟩
  | routed conn is none_ view open_ =>
      rw [was] at none_
      cases none_
  | aborted before outcome is view open_ =>
      rw [was] at is
      cases is
      exact ⟨_, view, by simp⟩
  | stopped before is aborts view open_ =>
      rw [was] at is
      cases is
      exact ⟨_, view, by cases aborts <;> simp⟩
  | «over» before is view closed gone =>
      rw [was] at is
      cases is
      exact ⟨_, view, by simp⟩
  | queued before payload op is receiving view open_ =>
      rw [was] at is
      cases is
      exact ⟨_, view, rfl⟩
  | refused before payload op is gone view open_ =>
      rw [was] at is
      cases is
      exact ⟨_, view, rfl⟩
  | dropped before payload op is view open_ =>
      rw [was] at is
      cases is
      exact ⟨_, view, rfl⟩
  | ended before op is receiving open_ view closed =>
      rw [was] at is
      cases is
      exact ⟨_, view, by simp⟩
  | popped before item rest op is front view open_ =>
      rw [was] at is
      cases is
      exact ⟨_, view, rfl⟩
  | wrote before data count op is receiving view open_ =>
      rw [was] at is
      cases is
      exact ⟨_, view, rfl⟩
  | shut before op is receiving view open_ =>
      rw [was] at is
      cases is
      exact ⟨_, view, rfl⟩

/-- What a route writes. -/
theorem route_spec {conn : Nat} (h : s.route conn = some s') :
    (∀ v, s'.table.view v = if v = s.opened then some (Channel.core { conn := conn }) else s.table.view v) ∧
      (∀ n, s'.channels n = if n = conn then some s.opened else s.channels n) ∧
      (∀ n, s'.numbers n = if n = conn then some s.opened else s.numbers n) ∧ s'.opened = s.opened + 1 := by
  unfold Session.route at h
  split at h
  · cases h
    refine ⟨?_, fun _ => rfl, fun _ => rfl, rfl⟩
    intro v
    simp only [Session.table]
    split <;> rfl
  · cases h

namespace Session.Sound

/-- A step that routes no connection keeps the session sound. -/
theorem step (sound : s.Sound) (step : SessionStep op s s')
    (proper : ∀ v ch, s.table.view v = some ch → Proper op s.table v ch) : s'.Sound where
  named := by
    intro conn v mapped
    obtain ⟨ch, was, own⟩ := sound.named conn v (step.channels conn v mapped)
    obtain ⟨ch', view, same⟩ := (step.effect v).conn was
    exact ⟨ch', view, same.trans own⟩
  given := by
    intro v ch' view
    cases was : s.table.view v with
    | none =>
        rw [step.fresh v was] at view
        cases view
    | some ch =>
        obtain ⟨ch'', view', same⟩ := (step.effect v).conn was
        rw [view] at view'
        cases view'
        rw [step.numbers, same]
        exact sound.given v ch was
  known := by
    intro conn v numbered
    rw [step.numbers] at numbered
    obtain ⟨ch, was, own⟩ := sound.known conn v numbered
    obtain ⟨ch', view, same⟩ := (step.effect v).conn was
    exact ⟨ch', view, same.trans own⟩
  unused := by
    intro v late
    rw [step.opened] at late
    exact step.fresh v (sound.unused v late)
  faithful := fun v ch' view => (step.effect v).faithful (sound.faithful v) (proper v) view

theorem initial (buffer : Nat) : ({ buffer := buffer } : Session).Sound where
  named := fun _ _ mapped => by cases mapped
  given := fun _ _ view => by cases view
  known := fun _ _ numbered => by cases numbered
  unused := fun _ _ => rfl
  faithful := fun _ _ view => by cases view

theorem proper_move {s : Table} {ch : Channel} : Proper none s v ch :=
  ⟨fun _ is => (by cases is), fun is => (by cases is), fun _ is => (by cases is), fun is => (by cases is)⟩

/-- A connection is routed under a number that was not used before. -/
theorem route {conn : Nat} (sound : s.Sound) (unused : s.numbers conn = none) (h : s.route conn = some s') :
    s'.Sound := by
  have effect := route_effect sound h
  have faithful : ∀ v ch, s'.table.view v = some ch → ch.Faithful (s'.table.Open v ch) :=
    fun v ch view => (effect v).faithful (sound.faithful v) (fun _ _ => proper_move) view
  have new : s.table.view s.opened = none := sound.unused s.opened (Nat.le_refl _)
  -- what was there before is not the new connection
  have older {v : Nat} {ch : Channel} (view : s.table.view v = some ch) : v ≠ s.opened := by
    intro same
    rw [same, new] at view
    cases view
  obtain ⟨view, channels, numbers, opened⟩ := route_spec h
  refine ⟨?_, ?_, ?_, ?_, faithful⟩
  · intro n v mapped
    rw [channels] at mapped
    split at mapped
    · rename_i same
      cases mapped
      exact ⟨Channel.core { conn := conn }, by rw [view, if_pos rfl], same.symm⟩
    · obtain ⟨ch, was, own⟩ := sound.named n v mapped
      exact ⟨ch, by rw [view, if_neg (older was), was], own⟩
  · intro v ch is
    rw [view] at is
    rw [numbers]
    split at is
    · rename_i same
      cases is
      rw [same]
      exact if_pos rfl
    · have numbered := sound.given v ch is
      have other : ch.conn ≠ conn := by
        intro same
        rw [same, unused] at numbered
        cases numbered
      rw [if_neg other]
      exact numbered
  · intro n v numbered
    rw [numbers] at numbered
    split at numbered
    · rename_i same
      cases numbered
      exact ⟨Channel.core { conn := conn }, by rw [view, if_pos rfl], same.symm⟩
    · obtain ⟨ch, was, own⟩ := sound.known n v numbered
      exact ⟨ch, by rw [view, if_neg (older was), was], own⟩
  · intro v late
    rw [opened] at late
    rw [view, if_neg (by omega)]
    exact sound.unused v (by omega)

end Session.Sound

/-! ### What the tasks rely on -/

/-- For the reader: nobody else queues or drops a frame, and a connection that left the table does not come back. -/
structure ForReader (s s' : Session) : Prop where
  gaveUp : s.gaveUp = true → s'.gaveUp = true
  serverClose : s.serverClose = true → s'.serverClose = true
  numbers : ∀ conn v, s.numbers conn = some v → s'.numbers conn = some v
  kept : ∀ v ch, s.table.view v = some ch → ∃ ch', s'.table.view v = some ch' ∧ ch'.conn = ch.conn ∧
    ch'.frames = ch.frames ∧ ch'.ended = ch.ended ∧ (ch'.receiving = true → ch.receiving = true) ∧
    (s'.table.Open v ch' → s.table.Open v ch)
  fresh : ∀ v ch', s.table.view v = none → s'.table.view v = some ch' → ch'.frames = [] ∧ ch'.ended = none

/-- For a download: nobody else takes from its queue or writes, and nothing is queued after the end. -/
structure ForVisitor (v : Nat) (s s' : Session) : Prop where
  kept : ∀ ch, s.table.view v = some ch → ∃ ch', s'.table.view v = some ch' ∧ ch'.written = ch.written ∧
    (ch'.receiving = true → ch.receiving = true ∧ ∃ more, ch'.queue = ch.queue ++ more ∧
      ch'.passed = ch.passed ++ bytes more ∧ (ch.ended.isSome = true → ch'.ended.isSome = true ∧ more = []))
  fresh : ∀ ch', s.table.view v = none → s'.table.view v = some ch' → ch'.written = [] ∧ ch'.queue = [] ∧ ch'.passed = []

def rules : Rules DownTask Session where
  inv := Session.Sound
  rely := fun t s s' =>
    match t with
    | .reader => ForReader s s'
    | .visitor v => ForVisitor v s s'

/-- Whose act it is. -/
def DownAct.task : DownAct → DownTask
  | .recv v | .write v _ | .drained v | .fail v | .shutdown v | .hangUp v => .visitor v
  | _ => .reader

/-- Acts that neither queue nor drop anything. -/
def DownAct.quiet : DownAct → Bool
  | .channel .. | .queue .. | .dropped .. | .endChannel _ => false
  | _ => true

theorem DownAct.quiet_of_visitor {act : DownAct} (visitor : act.task = .visitor v) : act.quiet = true := by
  cases act <;> first | rfl | cases visitor

theorem bytes_append (first second : List Inbound) : bytes (first ++ second) = bytes first ++ bytes second := by
  simp [bytes]

theorem SessionStep.forReader (step : SessionStep op s s') (quiet : ∀ act, op = some act → act.quiet = true) :
    ForReader s s' where
  gaveUp := by
    intro before
    rcases step.gaveUp with same | ⟨now, -⟩
    · rw [same]
      exact before
    · exact now
  serverClose := step.serverClose
  numbers := by
    rw [step.numbers]
    exact fun _ _ numbered => numbered
  kept := by
    intro v ch was
    cases step.effect v with
    | kept view open_ => exact ⟨ch, view.trans was, rfl, rfl, rfl, id, (open_ ch was).mp⟩
    | routed conn is none_ view open_ =>
        rw [was] at none_
        cases none_
    | aborted before outcome is view open_ =>
        rw [was] at is
        cases is
        exact ⟨_, view, by simp, by simp, by simp, by simp, fun mapped => open_ (by simpa [Table.Open] using mapped)⟩
    | stopped before is aborts view open_ =>
        rw [was] at is
        cases is
        refine ⟨_, view, ?_, ?_, ?_, ?_, ?_⟩
        · cases aborts <;> simp
        · cases aborts <;> simp
        · cases aborts <;> simp
        · intro alive
          cases alive
        · intro mapped
          apply open_
          cases aborts <;> simpa [Table.Open] using mapped
    | «over» before is view closed gone =>
        rw [was] at is
        cases is
        exact ⟨_, view, by simp, by simp, by simp, by simp,
          fun mapped => absurd (by simpa [Table.Open] using mapped) closed⟩
    | queued before payload is =>
        have loud := quiet _ is
        cases loud
    | refused before payload is =>
        have loud := quiet _ is
        cases loud
    | dropped before payload is =>
        rcases is with is | ⟨is, -⟩
        · have loud := quiet _ is
          cases loud
        · have loud := quiet _ is
          cases loud
    | ended before is =>
        have loud := quiet _ is
        cases loud
    | popped before item rest is found front view open_ =>
        rw [was] at found
        cases found
        exact ⟨_, view, rfl, rfl, rfl, id, open_.mp⟩
    | wrote before data count is found receiving view open_ =>
        rw [was] at found
        cases found
        exact ⟨_, view, rfl, rfl, rfl, id, open_.mp⟩
    | shut before is found receiving view open_ =>
        rw [was] at found
        cases found
        exact ⟨_, view, rfl, rfl, rfl, id, open_.mp⟩
  fresh := by
    intro v ch' none_ view
    rw [step.fresh v none_] at view
    cases view

theorem SessionStep.forVisitor (sound : s.Sound) (step : SessionStep op s s')
    (other : op ≠ some (.recv v) ∧ ∀ data, op ≠ some (.write v data))
    (proper : ∀ ch, s.table.view v = some ch → Proper op s.table v ch) : ForVisitor v s s' where
  kept := by
    intro ch was
    have same {ch' : Channel} (written : ch'.written = ch.written) (receiving : ch'.receiving = true → ch.receiving = true)
        (queue : ch'.receiving = true → ch'.queue = ch.queue) (passed : ch'.passed = ch.passed)
        (ended : ch'.ended = ch.ended) : ch'.written = ch.written ∧ (ch'.receiving = true → ch.receiving = true ∧
          ∃ more, ch'.queue = ch.queue ++ more ∧ ch'.passed = ch.passed ++ bytes more ∧
            (ch.ended.isSome = true → ch'.ended.isSome = true ∧ more = [])) := by
      refine ⟨written, fun alive => ⟨receiving alive, [], ?_, ?_, ?_⟩⟩
      · simpa using queue alive
      · simpa [bytes] using passed
      · rw [ended]
        exact fun has => ⟨has, rfl⟩
    cases step.effect v with
    | kept view open_ => exact ⟨ch, view.trans was, same rfl id (fun _ => rfl) rfl rfl⟩
    | routed conn is none_ view open_ =>
        rw [was] at none_
        cases none_
    | aborted before outcome is view open_ =>
        rw [was] at is
        cases is
        exact ⟨_, view, same (by simp) (by simp) (by simp) (by simp) (by simp)⟩
    | stopped before is aborts view open_ =>
        rw [was] at is
        cases is
        refine ⟨_, view, same ?_ ?_ ?_ ?_ ?_⟩ <;> cases aborts <;> simp [Channel.passed]
    | «over» before is view closed gone =>
        rw [was] at is
        cases is
        exact ⟨_, view, same (by simp) (by simp) (by simp) (by simp) (by simp)⟩
    | queued before payload is found receiving view open_ =>
        rw [was] at found
        cases found
        refine ⟨_, view, rfl, fun _ => ⟨receiving, [.data payload], rfl, ?_, ?_⟩⟩
        · simp [Channel.passed, bytes]
        · intro has
          simp [((proper ch was).queue payload is receiving).2] at has
    | refused before payload is found gone view open_ =>
        rw [was] at found
        cases found
        exact ⟨_, view, same rfl id (fun _ => rfl) (by simp [Channel.passed]) rfl⟩
    | dropped before payload is found view open_ =>
        rw [was] at found
        cases found
        exact ⟨_, view, same rfl id (fun _ => rfl) (by simp [Channel.passed]) rfl⟩
    | ended before is found receiving open_ view closed =>
        rw [was] at found
        cases found
        refine ⟨_, view, by simp, fun _ => ⟨receiving, [.end_], rfl, ?_, ?_⟩⟩
        · simp [Channel.passed, bytes]
        · intro has
          obtain ⟨n, is⟩ := Option.isSome_iff_exists.mp has
          exact absurd open_ ((sound.faithful v ch was).ending n is).1
    | popped before item rest is => exact absurd is other.1
    | wrote before data count is => exact absurd is (other.2 data)
    | shut before is found receiving view open_ =>
        rw [was] at found
        cases found
        exact ⟨_, view, same rfl id (fun _ => rfl) rfl rfl⟩
  fresh := by
    intro ch' none_ view
    rw [step.fresh v none_] at view
    cases view

/-- A new connection is one more for everyone. -/
theorem route_relied {conn : Nat} (sound : s.Sound) (unused : s.numbers conn = none) (h : s.route conn = some s') :
    ForReader s s' ∧ ∀ v, ForVisitor v s s' := by
  obtain ⟨view, channels, numbers, opened⟩ := route_spec h
  have older {v : Nat} {ch : Channel} (was : s.table.view v = some ch) : s'.table.view v = some ch := by
    rw [view, if_neg ?_, was]
    intro same
    rw [same, sound.unused s.opened (Nat.le_refl _)] at was
    cases was
  have newer {v : Nat} {ch : Channel} (none_ : s.table.view v = none) (is : s'.table.view v = some ch) :
      ch = Channel.core { conn := conn } := by
    rw [view] at is
    split at is
    · exact (Option.some.inj is).symm
    · rw [none_] at is
      cases is
  have flags : s'.gaveUp = s.gaveUp ∧ s'.serverClose = s.serverClose := by
    unfold Session.route at h
    split at h
    · cases h
      exact ⟨rfl, rfl⟩
    · cases h
  refine ⟨⟨?_, ?_, ?_, ?_, ?_⟩, fun v => ⟨?_, ?_⟩⟩
  · rw [flags.1]
    exact id
  · rw [flags.2]
    exact id
  · intro n v numbered
    rw [numbers, if_neg ?_]
    · exact numbered
    · intro same
      rw [same, unused] at numbered
      cases numbered
  · intro v ch was
    refine ⟨ch, older was, rfl, rfl, rfl, id, ?_⟩
    have other : ch.conn ≠ conn := by
      intro same
      have numbered := sound.given v ch was
      rw [same, unused] at numbered
      cases numbered
    simp [Table.Open, channels, other]
  · intro v ch' none_ is
    rw [newer none_ is]
    exact ⟨rfl, rfl⟩
  · intro ch was
    exact ⟨ch, older was, rfl, fun alive => ⟨alive, [], by simp, by simp [bytes], fun has => ⟨has, rfl⟩⟩⟩
  · intro ch' none_ is
    rw [newer none_ is]
    exact ⟨rfl, rfl, rfl⟩

/-- What no connection needs of an act that neither queues nor ends nor writes nor shuts down. -/
theorem Proper.of_idle {s : Table} {ch : Channel} (queue : ∀ payload, op ≠ some (.queue v payload))
    (ended : op ≠ some (.endChannel ch.conn)) (write : ∀ data, op ≠ some (.write v data))
    (shutdown : op ≠ some (.shutdown v)) : Proper op s v ch where
  queue payload is := absurd is (queue payload)
  ended is := absurd is ended
  write data is := absurd is (write data)
  shutdown is := absurd is shutdown

section Harmless

variable (act : DownAct) {c : downloads.Choice} {ans : act.Ans}

/-- An act of a download disturbs nobody. -/
theorem visitor_harmless (sound : s.Sound) (task : act.task = .visitor v)
    (proper : ∀ ch, s.table.view v = some ch → Proper (some act) s.table v ch)
    (h : downloads.exec (.visitor v) act c s = some (ans, s')) :
    rules.Harmless (.visitor v) s s' ∧ SessionStep (some act) s s' := by
  have step : SessionStep (some act) s s' := by
    refine exec_step sound ?_ h
    intro conn v' is
    rw [is] at task
    cases task
  -- the act is about no other connection
  have elsewhere {v' : Nat} (other : v' ≠ v) (ch : Channel) : Proper (some act) s.table v' ch := by
    have apart {act' : DownAct} (is : some act = some act') (whose : act'.task ≠ .visitor v) : False :=
      whose ((Option.some.inj is) ▸ task)
    refine .of_idle (fun payload is => apart is ?_) (fun is => apart is ?_) (fun data is => apart is ?_)
      (fun is => apart is ?_)
    · simp [DownAct.task]
    · simp [DownAct.task]
    · simpa [DownAct.task] using other
    · simpa [DownAct.task] using other
  have everywhere : ∀ v' ch, s.table.view v' = some ch → Proper (some act) s.table v' ch := by
    intro v' ch view
    by_cases here : v' = v
    · subst here
      exact proper ch view
    · exact elsewhere here ch
  refine ⟨⟨sound.step step everywhere, ?_⟩, step⟩
  intro t other
  cases t with
  | reader =>
      apply step.forReader
      intro act' is
      cases is
      exact DownAct.quiet_of_visitor task
  | visitor v' =>
      have apart : v' ≠ v := fun same => other (by rw [same])
      apply step.forVisitor sound _ (everywhere v')
      constructor
      · intro is
        rw [Option.some.inj is] at task
        exact apart (DownTask.visitor.inj task)
      · intro data is
        rw [Option.some.inj is] at task
        exact apart (DownTask.visitor.inj task)

/-- Nor does one of the reader. -/
theorem reader_harmless (sound : s.Sound) (task : act.task = .reader)
    (fits : ∀ conn v, act = .reset conn v → ∃ ch, s.table.view v = some ch ∧ ch.conn = conn)
    (proper : ∀ v ch, s.table.view v = some ch → Proper (some act) s.table v ch)
    (h : downloads.exec .reader act c s = some (ans, s')) :
    rules.Harmless .reader s s' ∧ SessionStep (some act) s s' := by
  have step : SessionStep (some act) s s' := exec_step sound fits h
  refine ⟨⟨sound.step step proper, ?_⟩, step⟩
  intro t other
  cases t with
  | reader => exact absurd rfl other
  | visitor v =>
      apply step.forVisitor sound _ (proper v)
      constructor
      · intro is
        rw [Option.some.inj is] at task
        cases task
      · intro data is
        rw [Option.some.inj is] at task
        cases task

end Harmless

/-! ### Downloads -/

/-- The runs in which the reader takes no more messages once it dropped data for a cancelled session that the server
    did not close, a download does not take the closed and empty queue of an aborted connection, and no connection
    number is given twice. -/
def faultless : Assumptions downloads where
  call := fun _ act c s =>
    match act with
    | .receive _ => c.cancel = false → s.gaveUp = true → s.serverClose = true
    | .recv v => c.aborts = false → ∀ ch ∈ s.visitors v, ch.queue = [] → ch.abort = false
    | _ => True
  move := fun m s =>
    match m with
    | .route conn => s.numbers conn = none
    | _ => True

/-- The download of `v` has `data` in hand, between what it wrote and what is queued. -/
structure Hand (v : Nat) (data : Bytes) (s : Session) : Prop where
  known : s.table.view v = none → data = []
  whole : ∀ ch, s.table.view v = some ch → ch.receiving = true → ch.written ++ data ++ bytes ch.queue = ch.passed

/-- The download of `v` wrote everything before the client's end. -/
structure Through (v : Nat) (s : Session) : Prop where
  known : s.table.view v ≠ none
  whole : ∀ ch, s.table.view v = some ch → ch.receiving = true → ch.ended.isSome = true ∧ ch.written = ch.passed

theorem Hand.relied {data : Bytes} (relied : ForVisitor v s s') (hand : Hand v data s) : Hand v data s' := by
  cases was : s.table.view v with
  | none =>
      have empty : data = [] := hand.known was
      refine ⟨fun _ => empty, ?_⟩
      intro ch' view alive
      obtain ⟨written, queue, passed⟩ := relied.fresh ch' was view
      simp [written, queue, passed, empty, bytes]
  | some ch =>
      obtain ⟨ch', view, written, rest⟩ := relied.kept ch was
      refine ⟨fun none_ => by simp [view] at none_, ?_⟩
      intro ch'' view' alive
      rw [view] at view'
      cases view'
      obtain ⟨before, more, queue, passed, -⟩ := rest alive
      rw [written, queue, passed, bytes_append, ← hand.whole ch was before]
      simp

theorem Through.relied (relied : ForVisitor v s s') (through : Through v s) : Through v s' := by
  cases was : s.table.view v with
  | none => exact absurd was through.known
  | some ch =>
      obtain ⟨ch', view, written, rest⟩ := relied.kept ch was
      refine ⟨fun none_ => by simp [view] at none_, ?_⟩
      intro ch'' view' alive
      rw [view] at view'
      cases view'
      obtain ⟨before, more, queue, passed, ended⟩ := rest alive
      obtain ⟨has, whole⟩ := through.whole ch was before
      obtain ⟨still, nothing⟩ := ended has
      refine ⟨still, ?_⟩
      rw [written, passed, nothing, whole]
      simp [bytes]

theorem hand_stable {data : Bytes} : rules.Stable (.visitor v) (Hand v data) :=
  fun _ _ _ relied hand => hand.relied relied

theorem through_stable : rules.Stable (.visitor v) (Through v) :=
  fun _ _ _ relied through => through.relied relied

/-- What `recv` takes: nothing on an abort, the front of the queue, or the end of a queue that nobody can fill. -/
theorem recv_spec {c : DownChoice} {ans : Received} (h : Session.exec (.recv v) c s = some (ans, s')) :
    (ans = .aborted ∧ s' = s) ∨
    (∃ ch item rest, s.table.view v = some ch ∧ ch.receiving = true ∧ ch.queue = item :: rest ∧
      ans = .item (some item) ∧ s'.table.view v = some { ch with queue := rest }) ∨
    ∃ ch, c.aborts = false ∧ s.visitors v = some ch ∧ ch.receiving = true ∧ ch.queue = [] ∧
      s.channels ch.conn ≠ some v ∧ ans = .item none ∧ s' = s := by
  obtain ⟨ch, found, alive, ran⟩ := receiving_some h
  split at ran
  · split at ran
    · cases ran
      exact Or.inl ⟨rfl, rfl⟩
    · cases ran
  · rename_i waits
    split at ran
    · rename_i item rest front
      cases ran
      refine Or.inr (Or.inl ⟨ch.core, item, rest, view_of_visitor found, alive, front, rfl, ?_⟩)
      rw [view_change (g := fun ch => { ch with queue := rest }) (fun _ => rfl), if_pos rfl, view_of_visitor found]
      rfl
    · rename_i empty
      split at ran
      · rename_i closed
        cases ran
        exact Or.inr (Or.inr ⟨ch, Bool.eq_false_iff.mpr waits, found, alive, empty, closed.1, rfl, rfl⟩)
      · cases ran

/-- A write takes a part of the data, or ends the download. -/
theorem write_spec {c : DownChoice} {data : Bytes} {ans : Wrote}
    (h : Session.exec (.write v data) c s = some (ans, s')) :
    (∃ ch count, s.table.view v = some ch ∧ ch.receiving = true ∧ ans = .took count ∧
      s'.table.view v = some { ch with written := ch.written ++ data.take count }) ∨
    ∀ count, ans ≠ .took count := by
  obtain ⟨ch, found, alive, ran⟩ := receiving_some h
  split at ran
  · rename_i count took
    split at ran
    · cases ran
      refine Or.inl ⟨ch.core, count, view_of_visitor found, alive, rfl, ?_⟩
      rw [view_change (g := fun ch => { ch with written := ch.written ++ data.take count }) (fun _ => rfl), if_pos rfl,
        view_of_visitor found]
      rfl
    · cases ran
  · cases ran
    exact Or.inr fun _ is => by cases is
  · split at ran
    · cases ran
      exact Or.inr fun _ is => by cases is
    · cases ran

section Visitor

open Rules

theorem idle_proper {act : DownAct} (task : act.task = .visitor v) (write : ∀ data, act ≠ .write v data)
    (shutdown : act ≠ .shutdown v) (s : Table) (ch : Channel) : Proper (some act) s v ch := by
  apply Proper.of_idle
  · intro payload is
    rw [Option.some.inj is] at task
    cases task
  · intro is
    rw [Option.some.inj is] at task
    cases task
  · intro data is
    exact write data (Option.some.inj is)
  · intro is
    exact shutdown (Option.some.inj is)

/-- An act of a download that takes and writes nothing leaves what it has in hand as it is. -/
theorem visitor_idle (act : DownAct) {data : Bytes} {Q : act.Ans → Session → Prop} (task : act.task = .visitor v)
    (recv : act ≠ .recv v) (write : ∀ data, act ≠ .write v data) (shutdown : act ≠ .shutdown v) (hand : Hand v data s)
    (ends : ∀ ans s', Hand v data s' → Q ans s') : rules.Safe faultless (.visitor v) (Download.act act) Q s := by
  apply safe_act
  intro s₁ drift sound c ans s₂ meets executed
  have now : Hand v data s₁ := hand_stable.drift drift hand
  have proper : ∀ ch, s₁.table.view v = some ch → Proper (some act) s₁.table v ch :=
    fun ch _ => idle_proper task write shutdown s₁.table ch
  obtain ⟨harmless, step⟩ := visitor_harmless act sound task proper executed
  have relied : ForVisitor v s₁ s₂ := by
    apply step.forVisitor sound _ proper
    exact ⟨fun is => recv (Option.some.inj is), fun data is => write data (Option.some.inj is)⟩
  exact ⟨harmless, ends ans s₂ (now.relied relied)⟩

theorem hangUp_safe : rules.Safe faultless (.visitor v) (Download.act (.hangUp v)) (fun _ _ => True) s := by
  apply safe_act
  intro s₁ drift sound c ans s₂ meets executed
  obtain ⟨harmless, -⟩ := visitor_harmless (.hangUp v) sound rfl (fun ch _ =>
    idle_proper rfl (fun _ is => by cases is) (fun is => by cases is) s₁.table ch) executed
  exact ⟨harmless, trivial⟩

/-- The data in hand is written, unless the download ends. -/
theorem writeWatched_safe (writes : Nat) {data : Bytes} (hand : Hand v data s) :
    rules.Safe faultless (.visitor v) (writeWatched v writes data)
      (fun ended s' => ∀ count, ended = some (.took count) → Hand v [] s') s := by
  induction writes generalizing s data with
  | zero =>
      intro count is
      cases is
  | succ writes ih =>
      cases data with
      | nil =>
          intro count _
          exact hand
      | cons byte data =>
          apply safe_bind
          apply safe_act
          intro s₁ drift sound c ans s₂ meets executed
          have now : Hand v (byte :: data) s₁ := hand_stable.drift drift hand
          have proper : ∀ ch, s₁.table.view v = some ch → Proper (some (.write v (byte :: data))) s₁.table v ch := by
            intro ch view
            refine ⟨fun _ is => (by cases is), fun is => (by cases is), ?_, fun is => (by cases is)⟩
            intro data' is alive
            cases is
            exact ⟨bytes ch.queue, now.whole ch view alive⟩
          obtain ⟨harmless, -⟩ := visitor_harmless (.write v (byte :: data)) sound rfl proper executed
          refine ⟨harmless, ?_⟩
          rcases write_spec executed with ⟨ch, count, view, alive, rfl, view'⟩ | other
          · apply ih
            refine ⟨fun none_ => by simp [view'] at none_, ?_⟩
            intro ch' is _
            rw [view'] at is
            cases is
            have whole := now.whole ch view alive
            show ch.written ++ (byte :: data).take count ++ (byte :: data).drop count ++ bytes ch.queue = ch.passed
            rw [List.append_assoc ch.written, List.take_append_drop]
            exact whole
          · cases ans with
            | took count => exact absurd rfl (other count)
            | failed =>
                intro count is
                cases is
            | aborted =>
                intro count is
                cases is

/-- The write side is shut down, and the download ends. -/
theorem shutdown_safe (through : Through v s) :
    rules.Safe faultless (.visitor v) (do Download.act (.shutdown v); Download.act (.hangUp v)) (fun _ _ => True) s := by
  apply safe_bind
  apply safe_act
  intro s₁ drift sound c ans s₂ meets executed
  have now : Through v s₁ := through_stable.drift drift through
  have proper : ∀ ch, s₁.table.view v = some ch → Proper (some (.shutdown v)) s₁.table v ch := by
    intro ch view
    exact ⟨fun _ is => (by cases is), fun is => (by cases is), fun _ is => (by cases is),
      fun _ alive => now.whole ch view alive⟩
  obtain ⟨harmless, -⟩ := visitor_harmless (.shutdown v) sound rfl proper executed
  exact ⟨harmless, hangUp_safe⟩

/-- A write failed: the share goes back, the connection is aborted and the download ends. -/
theorem fail_safe : rules.Safe faultless (.visitor v)
    (do Download.act (.drained v); Download.act (.fail v); Download.act (.hangUp v)) (fun _ _ => True) s := by
  apply safe_bind
  apply safe_act
  intro s₁ _ sound c ans s₂ _ executed
  obtain ⟨harmless, -⟩ := visitor_harmless (.drained v) sound rfl (fun ch _ =>
    idle_proper rfl (fun _ is => by cases is) (fun is => by cases is) s₁.table ch) executed
  refine ⟨harmless, ?_⟩
  apply safe_bind
  apply safe_act
  intro s₃ _ sound' c' ans' s₄ _ executed'
  obtain ⟨harmless', -⟩ := visitor_harmless (.fail v) sound' rfl (fun ch _ =>
    idle_proper rfl (fun _ is => by cases is) (fun is => by cases is) s₃.table ch) executed'
  exact ⟨harmless', hangUp_safe⟩

theorem download_safe (rounds : Nat) (hand : Hand v [] s) :
    rules.Safe faultless (.visitor v) (download v rounds) (fun _ _ => True) s := by
  induction rounds generalizing s with
  | zero => trivial
  | succ rounds ih =>
      apply safe_bind
      apply safe_act
      intro s₁ drift sound c ans s₂ meets executed
      have now : Hand v [] s₁ := hand_stable.drift drift hand
      obtain ⟨harmless, -⟩ := visitor_harmless (.recv v) sound rfl (fun ch _ =>
        idle_proper rfl (fun _ is => by cases is) (fun is => by cases is) s₁.table ch) executed
      refine ⟨harmless, ?_⟩
      rcases recv_spec executed with ⟨rfl, rfl⟩ | ⟨ch, item, rest, view, alive, front, rfl, view'⟩ |
        ⟨ch, waits, found, alive, empty, closed, rfl, rfl⟩
      · exact hangUp_safe
      · have whole := now.whole ch view alive
        rw [front] at whole
        cases item with
        | data payload =>
            have taken : Hand v payload s₂ := by
              refine ⟨fun none_ => by simp [view'] at none_, ?_⟩
              intro ch' is _
              rw [view'] at is
              cases is
              show ch.written ++ payload ++ bytes rest = ch.passed
              simpa [bytes] using whole
            apply safe_bind
            apply safe_mono (writeWatched_safe rounds taken)
            intro ended s₃ wrote
            cases ended with
            | none => trivial
            | some ended =>
                cases ended with
                | took count =>
                    apply safe_bind
                    apply visitor_idle (.drained v) rfl (fun is => by cases is) (fun _ is => by cases is)
                      (fun is => by cases is) (wrote count rfl)
                    intro _ s₄ still
                    exact ih still
                | failed => exact fail_safe
                | aborted => exact hangUp_safe
        | end_ =>
            apply shutdown_safe
            refine ⟨fun none_ => by simp [view'] at none_, ?_⟩
            intro ch' is _
            rw [view'] at is
            cases is
            -- only the end is behind the end
            obtain ⟨payloads, shape⟩ := (sound.faithful v ch view).shape
            rw [front] at shape
            cases payloads with
            | nil =>
                simp only [List.map_nil, List.nil_append, List.cons.injEq, true_and] at shape
                rcases shape with none_ | ⟨last, ended⟩
                · cases none_
                · refine ⟨ended, ?_⟩
                  show ch.written = ch.passed
                  simpa [bytes, last] using whole
            | cons payload payloads => simp at shape
      · apply shutdown_safe
        have view := view_of_visitor found
        have unaborted : ch.abort = false := meets waits ch found empty
        have shut : ¬ s₂.table.Open v ch.core := closed
        have ended : ch.core.ended.isSome = true := by
          rcases (sound.faithful v ch.core view).closed shut alive with aborted | ended
          · have is : ch.abort = true := aborted
            rw [unaborted] at is
            cases is
          · exact ended
        refine ⟨fun none_ => by simp [view] at none_, ?_⟩
        intro ch' is _
        rw [view] at is
        cases is
        have whole := now.whole ch.core view alive
        have nothing : ch.core.queue = [] := empty
        exact ⟨ended, by simpa [nothing, bytes] using whole⟩

end Visitor

/-! ### The reader -/

/-- No connection in the table lost a frame while it has a download. -/
def Level (s : Session) : Prop :=
  ∀ v ch, s.table.view v = some ch → s.table.Open v ch → ch.receiving = true → ¬ ch.lost

/-- Between two messages: a frame of an open connection was lost only because the session ends. -/
def Ready (s : Session) : Prop := s.serverClose = true ∨ s.gaveUp = true ∨ Level s

/-- The reader holds the handle of `v`, of which nothing was lost or ended so far. -/
structure Busy (conn v : Nat) (s : Session) : Prop where
  level : Level s
  known : ∃ ch, s.table.view v = some ch ∧ ch.conn = conn
  numbered : s.numbers conn = some v
  whole : ∀ ch, s.table.view v = some ch → ch.receiving = true → ¬ ch.lost ∧ ch.ended = none

/-- The frame that the reader took for `v` is lost, and the connection is no longer in the table. -/
structure Losing (conn v : Nat) (s : Session) : Prop where
  known : ∃ ch, s.table.view v = some ch ∧ ch.conn = conn
  numbered : s.numbers conn = some v
  level : s.gaveUp = true ∨ Level s ∧ ∀ ch, s.table.view v = some ch → ¬ s.table.Open v ch

/-- The pairs a reset of stalled connections was given are connections with their numbers. -/
def Fits (stalled : List (Nat × Nat)) (s : Session) : Prop :=
  ∀ pair ∈ stalled, ∃ ch, s.table.view pair.2 = some ch ∧ ch.conn = pair.1

theorem lost_congr {ch ch' : Channel} (same : ch'.frames = ch.frames) : ch'.lost ↔ ch.lost := by
  rw [Channel.lost, Channel.lost, same]

namespace ForReader

variable (relied : ForReader s s')

include relied

theorem level (level : Level s) : Level s' := by
  intro v ch' view open_ alive
  cases was : s.table.view v with
  | none =>
      have nothing := (relied.fresh v ch' was view).1
      simp [Channel.lost, nothing]
  | some ch =>
      obtain ⟨ch'', view', -, frames, -, before, opens⟩ := relied.kept v ch was
      rw [view] at view'
      cases view'
      rw [lost_congr frames]
      exact level v ch was (opens open_) (before alive)

theorem ready (ready : Ready s) : Ready s' := by
  rcases ready with closing | gaveUp | level
  · exact Or.inl (relied.serverClose closing)
  · exact Or.inr (Or.inl (relied.gaveUp gaveUp))
  · exact Or.inr (Or.inr (relied.level level))

theorem known {conn v : Nat} (known : ∃ ch, s.table.view v = some ch ∧ ch.conn = conn) :
    ∃ ch, s'.table.view v = some ch ∧ ch.conn = conn := by
  obtain ⟨ch, was, own⟩ := known
  obtain ⟨ch', view, conn, -⟩ := relied.kept v ch was
  exact ⟨ch', view, conn.trans own⟩

theorem busy {conn v : Nat} (busy : Busy conn v s) : Busy conn v s' where
  level := relied.level busy.level
  known := relied.known busy.known
  numbered := relied.numbers conn v busy.numbered
  whole := by
    intro ch' view alive
    obtain ⟨ch, was, -⟩ := busy.known
    obtain ⟨ch'', view', -, frames, ended, before, -⟩ := relied.kept v ch was
    rw [view] at view'
    cases view'
    rw [lost_congr frames, ended]
    exact busy.whole ch was (before alive)

theorem losing {conn v : Nat} (losing : Losing conn v s) : Losing conn v s' where
  known := relied.known losing.known
  numbered := relied.numbers conn v losing.numbered
  level := by
    rcases losing.level with gaveUp | ⟨level, gone⟩
    · exact Or.inl (relied.gaveUp gaveUp)
    · refine Or.inr ⟨relied.level level, ?_⟩
      intro ch' view open_
      obtain ⟨ch, was, -⟩ := losing.known
      obtain ⟨ch'', view', -, -, -, -, opens⟩ := relied.kept v ch was
      rw [view] at view'
      cases view'
      exact gone ch was (opens open_)

theorem fits {stalled : List (Nat × Nat)} (fits : Fits stalled s) : Fits stalled s' := by
  intro pair member
  exact relied.known (fits pair member)

end ForReader

section Reader

open Rules

/-- Facts that the reader can rely on, and that its own acts keep unless they queue or drop something. -/
def Lasting (P : Session → Prop) : Prop := ∀ s s', ForReader s s' → P s → P s'

theorem Lasting.stable {P : Session → Prop} (lasting : Lasting P) : rules.Stable .reader P :=
  fun s s' _ relied holds => lasting s s' relied holds

theorem Lasting.and {P Q : Session → Prop} (first : Lasting P) (second : Lasting Q) : Lasting fun s => P s ∧ Q s :=
  fun s s' relied holds => ⟨first s s' relied holds.1, second s s' relied holds.2⟩

theorem lasting_busy {conn v : Nat} : Lasting (Busy conn v) := fun _ _ relied busy => relied.busy busy

theorem lasting_losing {conn v : Nat} : Lasting (Losing conn v) := fun _ _ relied losing => relied.losing losing

theorem lasting_fits {stalled : List (Nat × Nat)} : Lasting (Fits stalled) := fun _ _ relied fits => relied.fits fits

theorem lasting_ready : Lasting Ready := fun _ _ relied ready => relied.ready ready

theorem reader_proper {act : DownAct} (task : act.task = .reader) (quiet : act.quiet = true) (s : Table) (v : Nat)
    (ch : Channel) : Proper (some act) s v ch := by
  apply Proper.of_idle
  · intro payload is
    rw [Option.some.inj is] at quiet
    cases quiet
  · intro is
    rw [Option.some.inj is] at quiet
    cases quiet
  · intro data is
    rw [Option.some.inj is] at task
    cases task
  · intro is
    rw [Option.some.inj is] at task
    cases task

/-- A quiet act of the reader keeps what lasts; what else it shows is read off its execution. -/
theorem reader_quiet (act : DownAct) {P : Session → Prop} {Q : act.Ans → Session → Prop} (lasting : Lasting P)
    (task : act.task = .reader) (quiet : act.quiet = true)
    (fits : ∀ s conn v, P s → act = .reset conn v → ∃ ch, s.table.view v = some ch ∧ ch.conn = conn) (holds : P s)
    (ends : ∀ s₁ c ans s₂, s₁.Sound → P s₁ → faultless.call .reader act c s₁ →
      downloads.exec .reader act c s₁ = some (ans, s₂) → P s₂ → Q ans s₂) :
    rules.Safe faultless .reader (Download.act act) Q s := by
  apply safe_act
  intro s₁ drift sound c ans s₂ meets executed
  have now : P s₁ := lasting.stable.drift drift holds
  obtain ⟨harmless, step⟩ := reader_harmless act sound task (fun conn v is => fits s₁ conn v now is)
    (fun v ch _ => reader_proper task quiet s₁.table v ch) executed
  have relied : ForReader s₁ s₂ := step.forReader fun act' is => by
    cases is
    exact quiet
  exact ⟨harmless, ends s₁ c ans s₂ sound now meets executed (lasting s₁ s₂ relied now)⟩

/-- The same for an act that is not a reset. -/
theorem reader_plain (act : DownAct) {P : Session → Prop} {Q : act.Ans → Session → Prop} (lasting : Lasting P)
    (task : act.task = .reader) (quiet : act.quiet = true) (plain : ∀ conn v, act ≠ .reset conn v) (holds : P s)
    (ends : ∀ s₁ c ans s₂, s₁.Sound → P s₁ → faultless.call .reader act c s₁ →
      downloads.exec .reader act c s₁ = some (ans, s₂) → P s₂ → Q ans s₂) :
    rules.Safe faultless .reader (Download.act act) Q s :=
  reader_quiet act lasting task quiet (fun _ conn v _ is => absurd is (plain conn v)) holds ends

theorem acquireAll_safe {P : Session → Prop} (lasting : Lasting P) (v len : Nat) (held parts : List Budget)
    (holds : P s) : rules.Safe faultless .reader (acquireAll v len held parts)
      (fun ended s' => P s' ∧ (ended = .cancelled → s'.gaveUp = true)) s := by
  induction parts generalizing s held with
  | nil =>
      refine ⟨holds, ?_⟩
      intro is
      cases is
  | cons part rest ih =>
      apply safe_bind
      apply reader_plain (.acquire part v len) lasting rfl rfl (fun _ _ is => by cases is) holds
      intro s₁ c ans s₂ _ _ _ executed after
      have gives (ended : Waited) (gaveUp : ended = .cancelled → s₂.gaveUp = true) :
          rules.Safe faultless .reader (do act (.giveBack held v len); return ended)
            (fun ended s' => P s' ∧ (ended = .cancelled → s'.gaveUp = true)) s₂ := by
        apply safe_bind
        have both : Lasting fun s => P s ∧ (ended = .cancelled → s.gaveUp = true) :=
          lasting.and fun _ _ relied gaveUp is => relied.gaveUp (gaveUp is)
        apply reader_plain (.giveBack held v len) both rfl rfl (fun _ _ is => by cases is) ⟨after, gaveUp⟩
        intro _ _ _ _ _ _ _ _ later
        exact later
      cases ans with
      | acquired => exact ih (part :: held) after
      | stalled => exact gives .stalled fun is => by cases is
      | cancelled =>
          apply gives .cancelled
          intro _
          simp only [downloads, Session.exec] at executed
          split at executed
          · cases executed
          · split at executed <;> cases executed
          · cases executed
          · split at executed
            · cases executed
              rfl
            · cases executed

/-- Stalled connections are reset one by one. -/
theorem resetAll_safe {P : Session → Prop} (lasting : Lasting P) (stalled : List (Nat × Nat)) (fits : Fits stalled s)
    (holds : P s) : rules.Safe faultless .reader (resetAll stalled) (fun _ s' => P s') s := by
  induction stalled generalizing s with
  | nil => exact holds
  | cons pair rest ih =>
      obtain ⟨conn, v⟩ := pair
      have all : Lasting fun s => P s ∧ Fits ((conn, v) :: rest) s := lasting.and lasting_fits
      apply safe_bind
      apply safe_bind
      apply reader_quiet (.reset conn v) all rfl rfl _ ⟨holds, fits⟩
      · intro _ _ _ _ _ _ _ _ afterReset
        apply reader_plain .send all rfl rfl (fun _ _ is => by cases is) afterReset
        intro _ _ _ _ _ _ _ _ afterSend
        apply safe_bind
        apply reader_plain (.release v) all rfl rfl (fun _ _ is => by cases is) afterSend
        intro _ _ _ _ _ _ _ _ afterRelease
        exact ih (fun pair member => afterRelease.2 pair (List.mem_cons_of_mem _ member)) afterRelease.1
      · intro s conn' v' both is
        cases is
        exact both.2 (conn, v) List.mem_cons_self

/-- A connection whose number is not in the table is not open. -/
theorem Busy.losing {conn v : Nat} (busy : Busy conn v s) (missing : s.channels conn = none) : Losing conn v s where
  known := busy.known
  numbered := busy.numbered
  level := by
    refine Or.inr ⟨busy.level, ?_⟩
    intro ch view open_
    obtain ⟨ch', view', own⟩ := busy.known
    rw [view] at view'
    cases view'
    rw [Table.Open, own] at open_
    cases open_.symm.trans missing

/-- What `reset_stalled` collects is in the table. -/
theorem stalled_fits (sound : s.Sound) {c : DownChoice} {found : List (Nat × Nat)}
    (executed : Session.exec .stalled c s = some (found, s')) : Fits found s' := by
  cases executed
  have alike : s.Alike ((s.stalled c.stalled).foldl
      (fun s found => s.change found.2 fun ch => { ch with handles := ch.handles + 1 }) s) := by
    apply alike_foldl
    intro s found
    apply alike_change
    intro _
    rfl
  intro pair member
  rw [alike.table]
  obtain ⟨conn, -, is⟩ := List.mem_filterMap.mp member
  obtain ⟨v, mapped, is⟩ := Option.bind_eq_some_iff.mp is
  obtain ⟨ch, -, is⟩ := Option.bind_eq_some_iff.mp is
  split at is
  · cases is
    exact sound.named conn v mapped
  · cases is

/-- The reader resets the connection whose frame it holds. -/
theorem reset_safe {conn v : Nat} (busy : Busy conn v s) :
    rules.Safe faultless .reader (do reset conn v; return false)
      (fun held s' => if held then Busy conn v s' else Losing conn v s') s := by
  apply safe_bind
  apply safe_bind
  apply reader_quiet (.reset conn v) lasting_busy rfl rfl _ busy
  · intro s₁ c ans s₂ _ _ _ executed busy₂
    have missing : s₂.channels conn = none := by
      cases executed
      simp
    apply reader_plain .send lasting_losing rfl rfl (fun _ _ is => by cases is) (busy₂.losing missing)
    intro _ _ _ _ _ _ _ _ losing
    exact losing
  · intro s conn' v' busy is
    cases is
    exact busy.known

/-- The share of the budgets is held, or the frame is lost with its connection. -/
theorem holdInbound_safe {conn v : Nat} (len : Nat) (busy : Busy conn v s) :
    rules.Safe faultless .reader (holdInbound conn v len)
      (fun held s' => if held then Busy conn v s' else Losing conn v s') s := by
  apply safe_bind
  apply reader_plain (.tryHold v len) lasting_busy rfl rfl (fun _ _ is => by cases is) busy
  intro s₁ c held s₂ _ _ _ _ busy₂
  cases held with
  | true => exact busy₂
  | false =>
      apply safe_bind
      apply safe_mono (acquireAll_safe lasting_busy v len [] Session.budgets busy₂)
      intro ended s₃ acquired
      obtain ⟨busy₃, gaveUp⟩ := acquired
      cases ended with
      | acquired => exact busy₃
      | cancelled => exact ⟨busy₃.known, busy₃.numbered, Or.inl (gaveUp rfl)⟩
      | stalled =>
          apply safe_bind
          apply reader_plain .stalled lasting_busy rfl rfl (fun _ _ is => by cases is) busy₃
          intro s₄ c found s₅ sound₄ _ _ executed busy₅
          apply safe_bind
          apply safe_mono (resetAll_safe lasting_busy found (stalled_fits sound₄ executed) busy₅)
          intro _ s₆ busy₆
          apply safe_bind
          apply reader_plain (.carries conn) lasting_busy rfl rfl (fun _ _ is => by cases is) busy₆
          intro s₇ c carried s₈ _ _ _ executed busy₈
          cases carried with
          | false =>
              have missing : s₈.channels conn = none := by
                simp only [downloads, Session.exec, Option.some.injEq, Prod.mk.injEq] at executed
                obtain ⟨none_, rfl⟩ := executed
                simpa using none_
              exact busy₈.losing missing
          | true =>
              apply safe_bind
              apply reader_plain (.tryHold v len) lasting_busy rfl rfl (fun _ _ is => by cases is) busy₈
              intro s₉ c held s₁₀ _ _ _ _ busy₁₀
              cases held with
              | true => exact busy₁₀
              | false => exact reset_safe busy₁₀

theorem not_lost_append {ch : Channel} {payload : Bytes} (complete : ¬ ch.lost) :
    ¬ ({ ch with frames := ch.frames ++ [(payload, true)] } : Channel).lost := by
  rintro ⟨frame, member, dropped⟩
  rcases List.mem_append.mp member with before | last
  · exact complete ⟨frame, before, dropped⟩
  · rw [List.mem_singleton.mp last] at dropped
    cases dropped

/-- Frames are lost only of connections that are not open. -/
theorem SessionStep.level (step : SessionStep op s s') (level : Level s)
    (closed : ∀ payload v ch, op = some (.dropped ch.conn payload) → s.table.view v = some ch → ¬ s.table.Open v ch) :
    Level s' := by
  intro v ch' view' open' alive
  cases step.effect v with
  | kept view open_ =>
      rw [view] at view'
      exact level v ch' view' ((open_ ch' view').mp open') alive
  | routed conn is was view open_ =>
      rw [step.fresh v was] at view
      cases view
  | aborted ch outcome was view open_ =>
      rw [view] at view'
      cases view'
      have frames : (ch.finish outcome true).frames = ch.frames := finish_frames outcome true
      rw [lost_congr frames]
      exact level v ch was (open_ (by simpa [Table.Open] using open')) (by simpa using alive)
  | stopped ch was aborts view open_ =>
      rw [view] at view'
      cases view'
      cases alive
  | «over» ch was view shut gone =>
      rw [view] at view'
      cases view'
      exact absurd (by simpa [Table.Open] using open') shut
  | queued ch payload is was receiving view open_ =>
      rw [view] at view'
      cases view'
      exact not_lost_append (level v ch was (open_.mp open') receiving)
  | refused ch payload is was gone view open_ =>
      rw [view] at view'
      cases view'
      rw [show ch.receiving = true from alive] at gone
      cases gone
  | dropped ch payload is was view open_ =>
      rw [view] at view'
      cases view'
      rcases is with is | ⟨-, shut⟩
      · exact absurd (open_.mp open') (closed payload v ch is was)
      · exact absurd (open_.mp open') shut
  | ended ch is was receiving open_ view shut =>
      rw [view] at view'
      cases view'
      exact absurd (by simpa [Table.Open] using open') shut
  | popped ch item rest is was front view open_ =>
      rw [view] at view'
      cases view'
      exact level v ch was (open_.mp open') alive
  | wrote ch data count is was receiving view open_ =>
      rw [view] at view'
      cases view'
      exact level v ch was (open_.mp open') alive
  | shut ch is was receiving view open_ =>
      rw [view] at view'
      cases view'
      exact level v ch was (open_.mp open') alive

theorem dropped_safe {conn v : Nat} (payload : Bytes) (losing : Losing conn v s) :
    rules.Safe faultless .reader (act (.dropped conn payload)) (fun _ s' => Ready s') s := by
  apply safe_act
  intro s₁ drift sound c ans s₂ meets executed
  have now : Losing conn v s₁ := lasting_losing.stable.drift drift losing
  have proper : ∀ v ch, s₁.table.view v = some ch → Proper (some (.dropped conn payload)) s₁.table v ch :=
    fun v ch _ => .of_idle (fun _ is => by cases is) (fun is => by cases is) (fun _ is => by cases is)
      (fun is => by cases is)
  obtain ⟨harmless, step⟩ := reader_harmless (.dropped conn payload) sound rfl (fun _ _ is => by cases is) proper executed
  refine ⟨harmless, ?_⟩
  rcases now.level with gaveUp | ⟨level, closed⟩
  · refine Or.inr (Or.inl ?_)
    rcases step.gaveUp with same | ⟨now, -⟩
    · rw [same]
      exact gaveUp
    · exact now
  · refine Or.inr (Or.inr (step.level level ?_))
    intro payload' v' ch is view
    cases is
    have numbered := sound.given v' ch view
    rw [now.numbered] at numbered
    cases numbered
    exact closed ch view

/-- A frame that is held is queued; nothing of its connection was lost. -/
theorem queue_safe {conn v : Nat} (payload : Bytes) (busy : Busy conn v s) :
    rules.Safe faultless .reader (act (.queue v payload)) (fun _ s' => Ready s') s := by
  apply safe_act
  intro s₁ drift sound c ans s₂ meets executed
  have now : Busy conn v s₁ := lasting_busy.stable.drift drift busy
  have proper : ∀ v' ch, s₁.table.view v' = some ch → Proper (some (.queue v payload)) s₁.table v' ch := by
    intro v' ch view
    refine ⟨?_, fun is => (by cases is), fun _ is => (by cases is), fun is => (by cases is)⟩
    intro payload' is
    cases is
    exact now.whole ch view
  obtain ⟨harmless, step⟩ := reader_harmless (.queue v payload) sound rfl (fun _ _ is => by cases is) proper executed
  exact ⟨harmless, Or.inr (Or.inr (step.level now.level fun _ _ _ is => by cases is))⟩

theorem lasting_level : Lasting Level := fun _ _ relied level => relied.level level

/-- The client's end: everything before it was queued. -/
theorem endChannel_safe (conn : Nat) (level : Level s) :
    rules.Safe faultless .reader (act (.endChannel conn)) (fun _ s' => Ready s') s := by
  apply safe_act
  intro s₁ drift sound c ans s₂ meets executed
  have now : Level s₁ := lasting_level.stable.drift drift level
  have proper : ∀ v ch, s₁.table.view v = some ch → Proper (some (.endChannel conn)) s₁.table v ch := by
    intro v ch view
    exact ⟨fun _ is => (by cases is), fun _ open_ alive => now v ch view open_ alive, fun _ is => (by cases is),
      fun is => (by cases is)⟩
  obtain ⟨harmless, step⟩ := reader_harmless (.endChannel conn) sound rfl (fun _ _ is => by cases is) proper executed
  exact ⟨harmless, Or.inr (Or.inr (step.level now fun _ _ _ is => by cases is))⟩

/-- A data frame: its connection is looked up, and what is found is whole. -/
theorem channel_safe (conn : Nat) (payload : Bytes) (level : Level s) :
    rules.Safe faultless .reader (act (.channel conn payload)) (fun found s' =>
      match found with
      | none => Ready s'
      | some v => Busy conn v s') s := by
  apply safe_act
  intro s₁ drift sound c ans s₂ meets executed
  have now : Level s₁ := lasting_level.stable.drift drift level
  have proper : ∀ v ch, s₁.table.view v = some ch → Proper (some (.channel conn payload)) s₁.table v ch :=
    fun v ch _ => .of_idle (fun _ is => by cases is) (fun is => by cases is) (fun _ is => by cases is)
      (fun is => by cases is)
  obtain ⟨harmless, step⟩ := reader_harmless (.channel conn payload) sound rfl (fun _ _ is => by cases is) proper executed
  have after : Level s₂ := step.level now fun _ _ _ is => by cases is
  refine ⟨harmless, ?_⟩
  simp only [downloads, Session.exec] at executed
  split at executed
  · cases executed
    exact Or.inr (Or.inr after)
  · rename_i v mapped
    cases executed
    have alike : s₁.Alike (s₁.change v fun ch => { ch with handles := ch.handles + 1 }) := alike_change fun _ => rfl
    obtain ⟨ch, view, own⟩ := sound.named conn v mapped
    have open_ : s₁.table.Open v ch := by
      rw [Table.Open, own]
      exact mapped
    refine ⟨after, ⟨ch, by rw [alike.table, view], own⟩, ?_, ?_⟩
    · rw [alike.numbers, ← own]
      exact sound.given v ch view
    · intro ch' view' alive
      rw [alike.table, view] at view'
      cases view'
      refine ⟨now v ch view open_ alive, ?_⟩
      cases ended : ch.ended with
      | none => rfl
      | some n => exact absurd open_ ((sound.faithful v ch view).ending n ended).1

theorem data_safe (conn : Nat) (payload : Bytes) (level : Level s) :
    rules.Safe faultless .reader (data conn payload) (fun _ s' => Ready s') s := by
  apply safe_bind
  apply safe_mono (channel_safe conn payload level)
  intro found s₁ facts
  have releases (v : Nat) {s : Session} (ready : Ready s) :
      rules.Safe faultless .reader (act (.release v)) (fun _ s' => Ready s') s := by
    apply reader_plain (.release v) lasting_ready rfl rfl (fun _ _ is => by cases is) ready
    intro _ _ _ _ _ _ _ _ after
    exact after
  cases found with
  | none => exact facts
  | some v =>
      apply safe_bind
      apply safe_mono (holdInbound_safe payload.length facts)
      intro held s₂ result
      cases held with
      | true =>
          apply safe_bind
          apply safe_mono (queue_safe payload result)
          intro _ s₃ ready
          exact releases v ready
      | false =>
          apply safe_bind
          apply safe_mono (dropped_safe payload result)
          intro _ s₃ ready
          exact releases v ready

theorem handle_safe (frame : ClientFrame) (level : Level s) :
    rules.Safe faultless .reader (handle frame) (fun _ s' => Ready s') s := by
  cases frame with
  | data conn payload => exact data_safe conn payload level
  | end_ conn => exact endChannel_safe conn level
  | reset conn =>
      have ready : Ready s := Or.inr (Or.inr level)
      apply reader_plain (.resetChannel conn) lasting_ready rfl rfl (fun _ _ is => by cases is) ready
      intro _ _ _ _ _ _ _ _ after
      exact after
  | other => exact Or.inr (Or.inr level)

/-- Once the server closed the session, frames may be lost. -/
theorem skip_safe (frame : ClientFrame) (closing : s.serverClose = true) :
    rules.Safe faultless .reader (skip frame) (fun _ s' => Ready s') s := by
  have lasting : Lasting fun s => s.serverClose = true := fun _ _ relied closing => relied.serverClose closing
  cases frame with
  | data conn payload =>
      apply safe_act
      intro s₁ drift sound c ans s₂ meets executed
      have now : s₁.serverClose = true := lasting.stable.drift drift closing
      obtain ⟨harmless, step⟩ := reader_harmless (.dropped conn payload) sound rfl (fun _ _ is => by cases is)
        (fun v ch _ => .of_idle (fun _ is => by cases is) (fun is => by cases is) (fun _ is => by cases is)
          (fun is => by cases is)) executed
      exact ⟨harmless, Or.inl (step.serverClose now)⟩
  | end_ conn => exact Or.inl closing
  | reset conn => exact Or.inl closing
  | other => exact Or.inl closing

theorem read_safe (frames : List ClientFrame) (ready : Ready s) :
    rules.Safe faultless .reader (read frames) (fun _ _ => True) s := by
  induction frames generalizing s with
  | nil => trivial
  | cons frame rest ih =>
      apply safe_bind
      have lasting : Lasting fun s => s.serverClose = true ∨ Level s := by
        intro s s' relied fact
        rcases fact with closing | level
        · exact Or.inl (relied.serverClose closing)
        · exact Or.inr (relied.level level)
      apply reader_plain (.receive frame) lasting_ready rfl rfl (fun _ _ is => by cases is) ready
      intro s₁ c received s₂ _ ready₁ meets executed ready₂
      cases received with
      | false => trivial
      | true =>
          have going : s₂.serverClose = true ∨ Level s₂ := by
            simp only [downloads, Session.exec] at executed
            split at executed
            · split at executed <;> cases executed
            · rename_i waits
              cases executed
              rcases ready₂ with closing | gaveUp | level
              · exact Or.inl closing
              · exact Or.inl (meets (Bool.eq_false_iff.mpr waits) gaveUp)
              · exact Or.inr level
          apply safe_bind
          apply reader_plain .closing lasting rfl rfl (fun _ _ is => by cases is) going
          intro s₃ c closing s₄ _ _ _ executed' going₄
          simp only [downloads, Session.exec, Option.some.injEq, Prod.mk.injEq] at executed'
          obtain ⟨is, rfl⟩ := executed'
          cases closing with
          | true =>
              apply safe_bind
              apply safe_mono (skip_safe frame is)
              intro _ s₅ ready₅
              exact ih ready₅
          | false =>
              have level : Level s₃ := by
                rcases going₄ with closing | level
                · rw [is] at closing
                  cases closing
                · exact level
              apply safe_bind
              apply safe_mono (handle_safe frame level)
              intro _ s₅ ready₅
              exact ih ready₅

end Reader

/-! ### Every run -/

/-- What a visitor gets: a prefix of what the client sent for it, a clean close only behind the client's end and all
    that came before it, and nothing behind a frame that was dropped. -/
structure Channel.Delivered (ch : Channel) : Prop where
  inOrder : ch.written <+: ch.sent
  complete : ch.halfClosed = true →
    ∃ n, ch.ended = some n ∧ n ≤ ch.frames.length ∧ ch.written = ((ch.frames.take n).map (·.1)).flatten
  nothingLater : ∀ before payload after, ch.frames = before ++ (payload, false) :: after →
    ch.written <+: (before.map (·.1)).flatten

/-- The frames that were queued are among those before a frame that was dropped. -/
theorem good_before {good bad : List Bytes} {before after : List (Bytes × Bool)} {payload : Bytes}
    (is : good.map (·, true) ++ bad.map (·, false) = before ++ (payload, false) :: after) :
    good.map (·, true) <+: before := by
  induction good generalizing before with
  | nil => exact List.nil_prefix
  | cons first good ih =>
      cases before with
      | nil => simp at is
      | cons frame before =>
          simp only [List.map_cons, List.cons_append, List.cons.injEq] at is
          obtain ⟨rfl, rest⟩ := is
          exact List.prefix_cons_inj _ |>.mpr (ih rest)

theorem Channel.Faithful.delivered {ch : Channel} {isOpen : Prop} (faithful : ch.Faithful isOpen) : ch.Delivered where
  inOrder := by
    obtain ⟨good, bad, split⟩ := faithful.ordered
    apply faithful.written.trans
    rw [passed_split split, sent_split split]
    exact List.prefix_append _ _
  complete := by
    intro shut
    obtain ⟨ended, whole⟩ := faithful.halfClosed shut
    obtain ⟨n, is⟩ := Option.isSome_iff_exists.mp ended
    obtain ⟨-, good, bad, split, rfl⟩ := faithful.ending n is
    refine ⟨good.length, is, by simp [split], ?_⟩
    have front : ch.frames.take good.length = good.map (·, true) := by
      rw [split]
      exact List.take_left' (by simp)
    rw [whole, passed_split split, front]
    simp [Function.comp_def]
  nothingLater := by
    intro before payload after is
    obtain ⟨good, bad, split⟩ := faithful.ordered
    obtain ⟨rest, whole⟩ := good_before (split.symm.trans is)
    apply faithful.written.trans
    rw [passed_split split, ← whole]
    simp [Function.comp_def]

/-- In every run in which nothing of these goes wrong, every visitor gets what the client sent for it. -/
theorem downloads_faithful {buffer v : Nat} {ch : Channel} {cfg : Config DownTask DownAct DownAct.Ans Session}
    (reach : downloads.Reach faultless (idle { buffer := buffer }) cfg) (found : cfg.shared.visitors v = some ch) :
    ch.Delivered := by
  have all := reach.safe_fresh (R := rules) (F := fun t s =>
      match t with
      | .reader => Ready s
      | .visitor v => Hand v [] s) (.initial buffer) ?_ ?_ ?_ ?_
  · have faithful := all.1.faithful v ch.core (view_of_visitor found)
    exact ⟨faithful.delivered.inOrder, faithful.delivered.complete, faithful.delivered.nothingLater⟩
  · intro t
    cases t with
    | reader => exact Or.inr (Or.inr fun _ _ view => by cases view)
    | visitor v => exact ⟨fun _ => rfl, fun _ view => by cases view⟩
  · intro t
    cases t with
    | reader => exact lasting_ready.stable
    | visitor v => exact hand_stable
  · intro t job s _ _ fact
    cases t with
    | reader =>
        cases job with
        | read frames => exact read_safe frames fact
        | download rounds => trivial
    | visitor v =>
        cases job with
        | read frames => trivial
        | download rounds => exact download_safe rounds fact
  · intro m s s' meets sound moved
    by_cases routes : ∃ conn, m = .route conn
    · obtain ⟨conn, rfl⟩ := routes
      obtain ⟨forReader, forVisitor⟩ := route_relied sound meets moved
      refine ⟨sound.route meets moved, ?_⟩
      intro t
      cases t with
      | reader => exact forReader
      | visitor v => exact forVisitor v
    · have step := move_step sound (fun conn is => routes ⟨conn, is⟩) moved
      have proper : ∀ v ch, s.table.view v = some ch → Proper none s.table v ch :=
        fun _ _ _ => Session.Sound.proper_move
      refine ⟨sound.step step proper, ?_⟩
      intro t
      cases t with
      | reader => exact step.forReader fun _ is => by cases is
      | visitor v => exact step.forVisitor sound ⟨fun is => (by cases is), fun _ is => (by cases is)⟩ (proper v)

/-! ### Runs of one connection -/

instance : (faultless).Checkable where
  start := fun _ _ _ => isTrue trivial
  call := fun _ act (c : DownChoice) s =>
    match act with
    | .receive _ => inferInstanceAs (Decidable (c.cancel = false → s.gaveUp = true → s.serverClose = true))
    | .recv v => inferInstanceAs (Decidable (c.aborts = false → ∀ ch ∈ s.visitors v, ch.queue = [] → ch.abort = false))
    | .closing | .channel _ _ | .release _ | .tryHold _ _ | .acquire _ _ _ | .giveBack _ _ _ | .stalled | .carries _
    | .reset _ _ | .send | .queue _ _ | .dropped _ _ | .endChannel _ | .resetChannel _ | .write _ _ | .drained _
    | .fail _ | .shutdown _ | .hangUp _ => isTrue trivial
  move := fun m s =>
    match m with
    | .route conn => inferInstanceAs (Decidable (s.numbers conn = none))
    | .uploadFails _ | .uploadCut _ | .idle _ | .refused _ | .over _ | .finishChannels _ | .serverClose | .cancel
    | .machine _ => isTrue trivial

/-- Runs without any condition. -/
def anyDownloads : Assumptions downloads := {}

instance : (anyDownloads).Checkable where
  start := fun _ _ _ => isTrue trivial
  call := fun _ _ _ _ => isTrue trivial
  move := fun _ _ => isTrue trivial

/-- So many acts of a task, with the same choices. -/
def acts (t : DownTask) (count : Nat) (c : DownChoice) : List downloads.Turn := List.replicate count (.call t c)

/-- What the first visitor got. -/
def delivered (cfg : Config DownTask DownAct DownAct.Ans Session) : Option (Bytes × Bool × List (Bytes × Bool)) :=
  (cfg.shared.visitors 0).map fun ch => (ch.written, ch.halfClosed, ch.frames)

/-- The client sends a byte and its end; the visitor gets both. -/
theorem downloads_faithful_ended : ∃ cfg ch, downloads.Reach faultless (idle { buffer := 100 }) cfg ∧
    cfg.shared.visitors 0 = some ch ∧ ch.written = [1] ∧ ch.halfClosed = true ∧ ch.Delivered := by
  have played : (play faultless
      ([.move (.route 1), .start .reader (.read [.data 1 [1], .end_ 1]), .start (.visitor 0) (.download 5)] ++
        acts .reader 9 {} ++ acts (.visitor 0) 1 {} ++ acts (.visitor 0) 1 { wrote := .took 1 } ++
        acts (.visitor 0) 4 {}) (idle { buffer := 100 })).map delivered = some (some ([1], true, [([1], true)])) := by
    decide +kernel
  obtain ⟨cfg, ran, seen⟩ := Option.map_eq_some_iff.mp played
  obtain ⟨ch, found, is⟩ := Option.map_eq_some_iff.mp seen
  simp only [Prod.mk.injEq] at is
  have reach := reach_of_play ran
  exact ⟨cfg, ch, reach, found, is.1, is.2.1, downloads_faithful reach found⟩

/-- The session is cancelled while the first byte waits for the machine's budget, and the reader takes the next message
    before it sees the cancellation: the visitor gets the second byte without the first. -/
theorem cancelled_wait_skips_frame : ∃ cfg ch, downloads.Reach anyDownloads (idle { buffer := 0 }) cfg ∧
    cfg.shared.visitors 0 = some ch ∧ ¬ ch.Delivered := by
  have played : (play anyDownloads
      ([.move (.route 1), .start .reader (.read [.data 1 [1], .data 1 [2]]), .start (.visitor 0) (.download 5)] ++
        acts .reader 6 {} ++ [.move .cancel] ++ acts .reader 1 { waited := .cancelled } ++ acts .reader 3 {} ++
        [.move (.machine 100)] ++ acts .reader 5 {} ++ acts (.visitor 0) 1 {} ++
        acts (.visitor 0) 1 { wrote := .took 1 }) (idle { buffer := 0 })).map delivered =
          some (some ([2], false, [([1], false), ([2], true)])) := by
    decide +kernel
  obtain ⟨cfg, ran, seen⟩ := Option.map_eq_some_iff.mp played
  obtain ⟨ch, found, is⟩ := Option.map_eq_some_iff.mp seen
  simp only [Prod.mk.injEq] at is
  refine ⟨cfg, ch, reach_of_play ran, found, ?_⟩
  intro delivered
  have nothing := delivered.nothingLater [] [1] [([2], true)] is.2.2
  rw [is.1] at nothing
  exact absurd nothing (by decide)

end OpenTunnel.Download
