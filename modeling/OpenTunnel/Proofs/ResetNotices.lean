/-
Module: OpenTunnel.Proofs.ResetNotices
Layer: Proofs
Purpose: The resets that tell a client of the connections the server gave up. The error and idle paths queue theirs with
  `try_send`, which drops it when the queue is full; a backpressure reset waits for a place, while its connection, which
  was aborted before, may end. Where every `try_send` of a reset finds a place and no slot is given back while the
  reset of its connection still waits, the client is told of every connection the server gave up.
Imports: OpenTunnel.Proofs.Relay
Trusted boundary: none (fully proved)
Main exports: Relay.ClientsTold, Relay.Announced, Relay.aborts_announced, Relay.full_queue_loses_reset
Open obligations: none
-/
import OpenTunnel.Proofs.Relay

namespace OpenTunnel.Relay

open Tasks
open Download (ClientFrame Inbound Outcome)

/-- A reset of the connection was put on the queue after the first `n` messages. -/
def Told (s : Carrier) (v : Nat) (visit : Visit) (n : Nat) : Prop :=
  ∃ i, n ≤ i ∧ s.queued[i]? = some (some v, .reset visit.conn)

/-- Of every connection whose slot was given back after it had stopped abnormally, and that the client had not reset,
    the client is told after everything that was queued before. -/
def ClientsTold (s : Carrier) : Prop :=
  s.gone = false → ∀ v visit, s.visits v = some visit → visit.carried = false → visit.asked = none →
    ∀ n ∈ visit.failedAt, Told s v visit n

/-- A reset that is queued with `try_send` finds a place, and a slot is not given back while the reset of its connection
    waits for one; both as long as the bridge is up, and of connections the client did not reset. A place that is free when
    `reset()` begins would not be enough: it aborts the connection first and sends then, so that the connection may give its
    slot back in between. -/
def Announced (e : Event) (s : Carrier) : Prop :=
  match e with
  | .uploadTakes v .error => s.gone = false → ∀ visit ∈ s.visits v, visit.asked = none → s.room = true
  | .downloadWrites v .failed => s.gone = false → ∀ visit ∈ s.visits v, visit.asked = none → s.room = true
  | .idle v => s.gone = false → ∀ visit ∈ s.visits v, visit.asked = none → s.room = true
  | .over v => s.gone = false → ∀ visit ∈ s.visits v, visit.asked = none → s.sending ≠ some v
  | .refused v => s.gone = false → ∀ visit ∈ s.visits v, visit.asked = none → s.sending ≠ some v
  | _ => True

/-! ### One connection -/

/-- The client was told of a connection that stopped abnormally, or its reset is being sent while it still has its
    slot. -/
def Telling (s : Carrier) (v : Nat) (visit : Visit) : Prop :=
  visit.asked = none → ∀ n ∈ visit.failedAt, n ≤ s.queued.length ∧
    (Told s v visit n ∨ (visit.carried = true ∧ s.sending = some v))

section Telling

variable {s s' : Carrier} {v : Nat} {visit visit' : Visit} {extra : List (Option Nat × Outbound)}

/-- What was told stays told. -/
theorem Told.kept {n : Nat} (told : Told s v visit n) (queued : s'.queued = s.queued ++ extra)
    (same : visit'.conn = visit.conn) : Told s' v visit' n := by
  obtain ⟨i, after, is⟩ := told
  refine ⟨i, after, ?_⟩
  have inside : i < s.queued.length := (List.getElem?_eq_some_iff.mp is).1
  rw [queued, List.getElem?_append_left inside, same]
  exact is

/-- A reset that is queued now is told after everything before. -/
theorem Told.now {n : Nat} (before : n ≤ s.queued.length)
    (queued : s'.queued = s.queued ++ [(some v, .reset visit.conn)]) : Told s' v visit n := by
  refine ⟨s.queued.length, before, ?_⟩
  rw [queued, List.getElem?_append_right (Nat.le_refl _)]
  simp

theorem Telling.kept (telling : Telling s v visit) (queued : s'.queued = s.queued ++ extra)
    (same : visit'.conn = visit.conn) (asked : visit'.asked = none → visit.asked = none)
    (failed : visit'.failedAt = visit.failedAt)
    (sends : visit.carried = true → s.sending = some v → visit'.asked = none →
      visit'.carried = true ∧ s'.sending = some v) : Telling s' v visit' := by
  intro unasked n is
  rw [failed] at is
  obtain ⟨before, told | waits⟩ := telling (asked unasked) n is
  · exact ⟨by rw [queued, List.length_append]; omega, .inl (told.kept queued same)⟩
  · exact ⟨by rw [queued, List.length_append]; omega, .inr (sends waits.1 waits.2 unasked)⟩

/-- The connection fails and its reset is queued. -/
theorem Telling.fails (telling : Telling s v visit)
    (queued : visit'.asked = none → s'.queued = s.queued ++ [(some v, .reset visit'.conn)])
    (asked : visit'.asked = none → visit.asked = none)
    (failed : visit'.failedAt = (visit.failing s.queued.length).failedAt) : Telling s' v visit' := by
  intro unasked n is
  have before : n ≤ s.queued.length := by
    rw [failed] at is
    unfold Visit.failing at is
    dsimp only at is
    split at is
    · cases old : visit.failedAt with
      | none =>
          rw [old] at is
          cases is
          exact Nat.le_refl _
      | some n' =>
          rw [old] at is
          cases is
          exact (telling (asked unasked) n old).1
    · exact (telling (asked unasked) n is).1
  exact ⟨by rw [queued unasked, List.length_append]; omega, .inl (.now before (queued unasked))⟩

end Telling

section Steps

variable {s s' : Carrier} {e : Event} {v : Nat} {old new : Visit} {unmapped : Bool} {out : List Outbound}

theorem Visit.asked_asking {visit : Visit} (unasked : visit.asking.asked = none) : visit.asked = none := by
  unfold Visit.asking at unasked
  split at unasked
  · exact (Option.or_eq_none_iff.mp unasked).1
  · exact unasked

/-- What `try_send` did where it found a place. -/
theorem tried_queued {message : Outbound} (up : s.gone = false) (room : s.room = true) : s.tried message = [message] := by
  simp [Carrier.tried, up, room]

theorem Turn.telling (turn : Turn s v old e new unmapped out) (turned : Turned s s' e v old new unmapped out)
    (announced : Announced e s) (up : s.gone = false) (telling : Telling s v old) : Telling s' v new := by
  have calm (own : e ≠ .resets) (asked : new.asked = none → old.asked = none) (failed : new.failedAt = old.failedAt)
      (carried : new.asked = none → old.carried = true → s.sending = some v → new.carried = true) :
      Telling s' v new := by
    refine telling.kept turned.queued turn.conn asked failed fun is sends unasked => ⟨carried unasked is sends, ?_⟩
    rcases turned.reader with ⟨-, -, same⟩ | ⟨resets, -, -⟩
    · rw [same]
      exact sends
    · exact absurd resets own
  cases turn with
  | refused carried unopened =>
      exact calm (by simp) (fun is => is) rfl fun unasked _ sends => absurd sends (announced up old turned.found unasked)
  | uploadFails carrying reading =>
      refine telling.fails (fun unasked => ?_) (fun is => by simpa [Visit.failing] using is) (by simp)
      rw [turned.queued, tried_queued up (announced up old turned.found (by simpa [Visit.failing] using unasked))]
      simp [Visit.failing]
  | downloadFails payload carried writing =>
      refine telling.fails (fun unasked => ?_) (fun is => by simpa [Visit.failing] using is) (by simp)
      rw [turned.queued, tried_queued up (announced up old turned.found (by simpa [Visit.failing] using unasked))]
      simp [Visit.failing]
  | idle carrying =>
      refine telling.fails (fun unasked => ?_) (fun is => by simpa [Visit.failing] using is) (by simp)
      rw [turned.queued, tried_queued up (announced up old turned.found (by simpa [Visit.failing] using unasked))]
      simp [Visit.failing]
  | «over» carrying uploaded downloaded =>
      refine calm (by simp) (fun is => by simpa [Visit.dropped] using is) (by simp [Visit.dropped]) ?_
      intro unasked _ sends
      exact absurd sends (announced up old turned.found (by simpa [Visit.dropped] using unasked))
  | data payload fits =>
      unfold Visit.receives at calm ⊢
      split at calm
      · rename_i taken
        rw [if_pos taken]
        exact calm (by simp) (fun is => is) rfl fun _ is _ => is
      · rename_i left
        rw [if_neg left]
        exact calm (by simp) (fun is => is) rfl fun _ is _ => is
  | resets fits =>
      refine calm (by simp) (fun is => Visit.asked_asking (by simpa using is)) ?_ ?_
      · simp [Visit.asking, apply_ite]
      · intro _ is _
        simp [Visit.asking, is]
  | resetsLate fits =>
      refine calm (by simp) Visit.asked_asking ?_ ?_
      · simp [Visit.asking, apply_ite]
      · intro _ is _
        simp [Visit.asking, is]
  | stalled rest listed free =>
      have sends : s'.sending = some v := by
        rcases turned.reader with ⟨own, -, -⟩ | ⟨-, -, is⟩
        · exact absurd rfl own
        · exact is
      have queued : s'.queued = s.queued := by simpa using turned.queued
      intro unasked n is
      have unasked' : old.asked = none := by simpa [Visit.failing] using unasked
      simp only [Visit.failedAt_finish, Visit.failing] at is
      cases carried : old.carried with
      | true =>
          refine ⟨?_, .inr ⟨by simp [Visit.failing, carried], sends⟩⟩
          rw [queued]
          rw [carried, if_pos rfl] at is
          cases before : old.failedAt with
          | none =>
              rw [before] at is
              cases is
              exact Nat.le_refl _
          | some n' =>
              rw [before] at is
              cases is
              exact (telling unasked' n before).1
      | false =>
          rw [carried, if_neg (by simp)] at is
          obtain ⟨before, told | waits⟩ := telling unasked' n is
          · exact ⟨by rwa [queued], .inl (told.kept turned.queued (by simp [Visit.failing]))⟩
          · exact absurd (carried.symm.trans waits.1) (by simp)
  | _ => exact calm (by simp) (fun is => by simpa using is) (by simp) fun _ is _ => by simpa using is

/-- Every connection is told of, or about to be. -/
structure Informing (s : Carrier) : Prop where
  numbered : Numbered s
  each : s.gone = false → ∀ v visit, s.visits v = some visit → Telling s v visit

namespace Informing

theorem turned (informing : Informing s) (announced : Announced e s) (turn : Turn s v old e new unmapped out)
    (turned : Turned s s' e v old new unmapped out) : Informing s' := by
  refine ⟨informing.numbered.turned turn turned, ?_⟩
  intro up v' visit found
  rw [turned.gone] at up
  rw [turned.visits] at found
  split at found
  · rename_i is
    cases found
    rw [is]
    exact turn.telling turned announced up (informing.each up v old turned.found)
  · rename_i other
    refine (informing.each up v' visit found).kept turned.queued rfl (fun is => is) rfl ?_
    intro carried sends _
    refine ⟨carried, ?_⟩
    rcases turned.reader with ⟨-, -, same⟩ | ⟨resets, -, -⟩
    · rw [same]
      exact sends
    · subst resets
      cases turn with
      | stalled rest listed free => exact absurd (free.symm.trans sends) (by simp)

theorem routed (informing : Informing s) (conn : Nat) (initial : Bytes) :
    Informing { s with
      visits := fun v => if v = s.routed then some { conn := conn, hello := initial, came := initial } else s.visits v
      routed := s.routed + 1
      channels := fun n => if n = conn then some s.routed else s.channels n
      numbers := fun n => if n = conn then some s.routed else s.numbers n } := by
  refine ⟨informing.numbered.routed conn initial, ?_⟩
  intro up v visit found
  dsimp only at up found
  split at found
  · cases found
    intro _ n is
    cases is
  · exact informing.each up v visit found

theorem finished (informing : Informing s) (outcome : Outcome) : Informing (s.finishChannels outcome) := by
  refine ⟨informing.numbered.finished outcome, ?_⟩
  intro up v visit found
  obtain ⟨before, found', rfl⟩ := Option.map_eq_some_iff.mp found
  have telling := informing.each up v before found'
  split
  · refine telling.kept (List.append_nil _).symm (by simp) (by simp) (by simp) ?_
    exact fun carried sends _ => ⟨by simpa using carried, sends⟩
  · exact telling

/-- The waiting reset is queued. -/
theorem sent (informing : Informing s) {visit : Visit} (sending : s.sending = some v)
    (found : s.visits v = some visit) (quiet : Quiet s s') (gone : s'.gone = s.gone)
    (queued : s'.queued = s.queued ++ (s.posted (.reset visit.conn)).map fun message => (some v, message)) :
    Informing s' := by
  refine ⟨quiet.numbered informing.numbered, ?_⟩
  intro up v' visit' found'
  rw [gone] at up
  rw [quiet.visits] at found'
  have out : s'.queued = s.queued ++ [(some v, .reset visit.conn)] := by
    rw [queued]
    simp [Carrier.posted, up]
  intro unasked n is
  obtain ⟨before, told | waits⟩ := informing.each up v' visit' found' unasked n is
  · exact ⟨by rw [out, List.length_append]; omega, .inl (told.kept out rfl)⟩
  · cases sending.symm.trans waits.2
    cases found.symm.trans found'
    exact ⟨by rw [out, List.length_append]; omega, .inl (.now before out)⟩

theorem step (informing : Informing s) (announced : Announced e s) (h : s.step e = some s') : Informing s' := by
  cases step_kind informing.numbered h with
  | turned v old new unmapped out turn turned => exact informing.turned announced turn turned
  | routed conn initial event free after => exact after ▸ informing.routed conn initial
  | finished outcome event after => exact after ▸ informing.finished outcome
  | stalls visits event free known after =>
      subst after
      refine ⟨⟨informing.numbered.tabled, informing.numbered.named, informing.numbered.fresh⟩, ?_⟩
      intro up v visit found
      exact (informing.each up v visit found).kept (List.append_nil _).symm rfl (fun is => is) rfl
        fun carried sends _ => ⟨carried, sends⟩
  | resetSent v visit event sending found quiet queued gone reader =>
      exact informing.sent sending found quiet gone queued
  | quiet quiet extra queued gone reader =>
      refine ⟨quiet.numbered informing.numbered, ?_⟩
      intro up v visit found
      rw [quiet.visits] at found
      refine (informing.each (gone up) v visit found).kept queued rfl (fun is => is) rfl ?_
      exact fun carried sends _ => ⟨carried, reader.2.trans sends⟩

end Informing

end Steps

/-- In every run in which every reset that is queued with `try_send` finds a place, and no slot is given back while the
    reset of its connection waits for one, the client is told of every connection the server gave up. -/
theorem aborts_announced {s : Carrier} (reached : Stepped Carrier.step Announced .empty s) : ClientsTold s := by
  have informing : Informing s := by
    refine reached.invariant ⟨.empty, ?_⟩ fun e s s' announced informing taken => informing.step announced taken
    intro _ v visit found
    cases found
  intro up v visit found gone unasked n failed
  obtain ⟨-, told | waits⟩ := informing.each up v visit found unasked n failed
  · exact told
  · exact absurd (gone.symm.trans waits.1) (by simp)

instance (e : Event) (s : Carrier) : Decidable (Announced e s) :=
  match e with
  | .uploadTakes v .error => inferInstanceAs (Decidable (s.gone = false → ∀ visit ∈ s.visits v,
      visit.asked = none → s.room = true))
  | .downloadWrites v .failed => inferInstanceAs (Decidable (s.gone = false → ∀ visit ∈ s.visits v,
      visit.asked = none → s.room = true))
  | .idle v => inferInstanceAs (Decidable (s.gone = false → ∀ visit ∈ s.visits v, visit.asked = none → s.room = true))
  | .over v => inferInstanceAs (Decidable (s.gone = false → ∀ visit ∈ s.visits v,
      visit.asked = none → s.sending ≠ some v))
  | .refused v => inferInstanceAs (Decidable (s.gone = false → ∀ visit ∈ s.visits v,
      visit.asked = none → s.sending ≠ some v))
  | .uploadTakes _ (.bytes _) | .uploadTakes _ .eof | .uploadTakes _ .aborted | .downloadWrites _ .all
  | .downloadWrites _ .aborted | .route .. | .opens _ | .greets _ | .uploadSends .. | .uploadEnds _ | .downloadTakes ..
  | .shutsDown _ | .frame .. | .stalls _ | .resets | .resetSent | .takes | .sends | .promises _ | .close | .writerEnds
  | .finishChannels _ => isTrue trivial

/-- A connection is opened, other messages fill the queue this far, and the visitor's socket fails. -/
def breaks (others : Nat) : List Event :=
  [.route 1 [1], .opens 0, .greets 0] ++ List.replicate others .sends ++
    [.uploadTakes 0 .error, .downloadTakes 0 true, .over 0]

/-- Whether the first connection has its slot, whether the client reset it and when it failed; whether the bridge is
    gone, and how many messages were queued in all. -/
structure Noticed where
  carried : Bool
  asked : Option Mark
  failedAt : Option Nat
  gone : Bool
  queued : Nat
deriving DecidableEq, Repr

def noticed (s : Carrier) : Option Noticed :=
  (s.visits 0).map fun visit => ⟨visit.carried, visit.asked, visit.failedAt, s.gone, s.queued.length⟩

/-- One place is left. -/
theorem aborts_announced_last : ∃ s, Stepped Carrier.step Announced .empty s ∧
    noticed s = some ⟨false, none, some 255, false, 256⟩ ∧ ClientsTold s := by
  have played : (playSteps Carrier.step Announced (breaks 253) .empty).map noticed =
      some (some ⟨false, none, some 255, false, 256⟩) := by
    decide +kernel
  obtain ⟨s, ran, seen⟩ := Option.map_eq_some_iff.mp played
  have reached := stepped_of_play ran
  exact ⟨s, reached, seen, aborts_announced reached⟩

/-- No place is left: the slot is given back, and the client never hears of it. -/
theorem full_queue_loses_reset : ∃ s, Stepped Carrier.step (fun _ _ => True) .empty s ∧ ¬ ClientsTold s := by
  have played : (playSteps Carrier.step (fun _ _ => True) (breaks 254) .empty).map noticed =
      some (some ⟨false, none, some 256, false, 256⟩) := by
    decide +kernel
  obtain ⟨s, ran, seen⟩ := Option.map_eq_some_iff.mp played
  refine ⟨s, stepped_of_play ran, fun told => ?_⟩
  obtain ⟨visit, found, is⟩ := Option.map_eq_some_iff.mp seen
  simp only [Noticed.mk.injEq] at is
  obtain ⟨gone, unasked, failed, up, length⟩ := is
  obtain ⟨i, after, queued⟩ := told up 0 visit found gone unasked 256 failed
  have inside := (List.getElem?_eq_some_iff.mp queued).1
  omega

end OpenTunnel.Relay
