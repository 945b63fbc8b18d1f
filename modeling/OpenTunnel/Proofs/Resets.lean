/-
Module: OpenTunnel.Proofs.Resets
Layer: Proofs
Purpose: A client's reset of a connection the server carries. The reset reaches the connection through the bridge's
  table, which the connection leaves with the client's `end`; a reset after that is not heard. Where it is, the abort is
  set for good, `upload` takes nothing more from the visitor, and the connection's own next steps drop the socket.
Imports: OpenTunnel.Proofs.Relay
Trusted boundary: none (fully proved)
Main exports: Relay.ResetsAbort, Relay.Heeded, Relay.resets_abort, Relay.reset_after_end_ignored
Open obligations: none
-/
import OpenTunnel.Proofs.Relay

namespace OpenTunnel.Relay

open Tasks
open Download (ClientFrame Inbound Outcome)

/-! ### A connection torn down -/

/-- The events of a connection that is aborted, and those of the writer that takes messages off the queue. -/
inductive Own (v : Nat) : Event → Prop where
  | opens : Own v (.opens v)
  | greets : Own v (.greets v)
  | uploadAborts : Own v (.uploadTakes v .aborted)
  | uploadStops : Own v (.uploadSends v true)
  | uploadEnds : Own v (.uploadEnds v)
  | downloadAborts : Own v (.downloadTakes v true)
  | downloadStops : Own v (.downloadWrites v .aborted)
  | shutsDown : Own v (.shutsDown v)
  | over : Own v (.over v)
  | takes : Own v .takes

/-- What holds of a connection once the client's reset was handled: it is aborted, nothing more was taken from its
    visitor or queued by its upload, its socket was dropped when its slot was given back (with a reset, if the client
    had been told of it), and as long as it has its slot its own steps lead there. -/
structure TornDown (s : Carrier) (v : Nat) (visit : Visit) (mark : Mark) : Prop where
  abort : visit.abort = true
  came : visit.came.length = mark.came
  uploads : visit.uploads = mark.uploads
  dropped : visit.carried = false → visit.socket ≠ .connected ∧ (visit.opened = true → visit.socket = .reset)
  ends : visit.carried = true → ∃ s' visit', Stepped Carrier.step (fun e _ => Own v e) s s' ∧
    s'.visits v = some visit' ∧ visit'.carried = false ∧ visit'.socket = .reset

/-- Every reset that was handled while the server carried the connection tore it down. -/
def ResetsAbort (s : Carrier) : Prop :=
  ∀ v visit, s.visits v = some visit → ∀ mark ∈ visit.asked, TornDown s v visit mark

/-- The client resets no connection that it ended, unless the server is closing the bridge and so skips the frame; `upload`
    takes and sends nothing in a `select!` in which the abort is ready too; and no number is given again while the server
    still refers to the connection that had it. -/
def Heeded (e : Event) (s : Carrier) : Prop :=
  match e with
  | .frame (.reset conn) _ => s.closing = false → ∀ v ∈ s.numbers conn, ∀ visit ∈ s.visits v,
      visit.carried = true → visit.ended = false
  | .uploadTakes v (.bytes _) => ∀ visit ∈ s.visits v, visit.abort = false
  | .uploadSends v false => ∀ visit ∈ s.visits v, visit.abort = false
  | .route conn _ => ∀ v ∈ s.numbers conn, v ∉ s.resetting ∧ ∀ visit ∈ s.visits v, visit.carried = false
  | .stalls visits => ∀ v ∈ visits, ∀ visit ∈ s.visits v, s.channels visit.conn = some v
  | _ => True

/-! ### One connection -/

namespace Visit

variable (visit : Visit) (outcome : Outcome) (abort : Bool)

/-- An abort stays. -/
theorem abort_finish (aborted : visit.abort = true) : (visit.finish outcome abort).abort = true := by
  unfold finish
  split
  · exact aborted
  · simp [aborted]

/-- A connection without an outcome is aborted. -/
theorem finish_aborts (open_ : visit.outcome = none ∨ visit.abort = true) : (visit.finish outcome true).abort = true := by
  rcases open_ with unset | aborted
  · simp [finish, unset]
  · exact visit.abort_finish outcome true aborted

theorem finish_failing (count : Nat) :
    (visit.failing count).finish outcome abort = (visit.finish outcome abort).failing count := by
  unfold finish failing
  dsimp only
  split <;> rfl

end Visit

/-- What holds of a connection, by whether it is in the table. -/
structure Heard (tabled : Prop) (visit : Visit) : Prop where
  open_ : tabled → visit.carried = true ∧ (visit.outcome = none ∨ visit.abort = true)
  held : visit.carried = true → visit.abort = false → visit.ended = false → tabled ∧ visit.outcome = none
  marked : ∀ mark ∈ visit.asked, visit.abort = true ∧ visit.came.length = mark.came ∧ visit.uploads = mark.uploads ∧
    (visit.carried = false → visit.socket ≠ .connected ∧ (visit.opened = true → visit.socket = .reset))

namespace Heard

variable {tabled : Prop} {old new : Visit}

/-- Nothing that matters here changed, except that a carried connection may be opened. -/
theorem kept (heard : Heard tabled old) (carried : new.carried = old.carried) (outcome : new.outcome = old.outcome)
    (abort : new.abort = old.abort) (ended : new.ended = old.ended) (asked : new.asked = old.asked)
    (came : new.came = old.came) (uploads : new.uploads = old.uploads) (socket : new.socket = old.socket)
    (opened : old.carried = true ∨ new.opened = old.opened) : Heard tabled new := by
  constructor
  · rw [carried, outcome, abort]
    exact heard.open_
  · rw [carried, outcome, abort, ended]
    exact heard.held
  · rw [asked, abort, came, uploads, carried, socket]
    intro mark is
    obtain ⟨aborted, same, sent, dropped⟩ := heard.marked mark is
    refine ⟨aborted, same, sent, fun gone => ?_⟩
    rcases opened with still | same
    · exact absurd (gone.symm.trans still) (by simp)
    · rw [same]
      exact dropped gone

/-- The connection left the table with an abort. -/
theorem fails (heard : Heard tabled old) (outcome : Outcome) (count : Nat) :
    Heard False ((old.failing count).finish outcome true) := by
  rw [Visit.finish_failing]
  constructor
  · exact fun no => no.elim
  · intro carried unaborted unended
    have before : old.abort = false := by
      cases is : old.abort with
      | false => rfl
      | true => exact absurd (unaborted.symm.trans (old.abort_finish outcome true is)) (by simp)
    have unset := (heard.held (by simpa [Visit.failing] using carried) before (by simpa [Visit.failing] using unended)).2
    exact absurd (unaborted.symm.trans (old.finish_aborts outcome (.inl unset))) (by simp)
  · intro mark is
    obtain ⟨aborted, same, sent, dropped⟩ := heard.marked mark (by simpa [Visit.failing] using is)
    refine ⟨old.abort_finish outcome true aborted, ?_⟩
    simpa [Visit.failing] using ⟨same, sent, dropped⟩

/-- The client's reset reached a connection in the table. -/
theorem reached (heard : Heard True old) : Heard False (old.asking.finish .reset true) := by
  obtain ⟨carried, unset⟩ := heard.open_ trivial
  have asking : old.asking = { old with asked := old.asked.or (some ⟨old.came.length, old.uploads⟩) } := if_pos carried
  rw [asking]
  have aborted : (({ old with asked := old.asked.or (some ⟨old.came.length, old.uploads⟩) } : Visit).finish
      .reset true).abort = true := Visit.finish_aborts _ _ unset
  constructor
  · exact fun no => no.elim
  · intro _ unaborted
    exact absurd (unaborted.symm.trans aborted) (by simp)
  · intro mark is
    rw [Visit.asked_finish] at is
    refine ⟨aborted, ?_⟩
    simp only [Visit.came_finish, Visit.uploads_finish, Visit.carried_finish]
    cases before : old.asked with
    | none =>
        rw [before] at is
        cases is
        exact ⟨rfl, rfl, fun gone => absurd (gone.symm.trans carried) (by simp)⟩
    | some mark' =>
        rw [before] at is
        cases is
        obtain ⟨-, same, sent, -⟩ := heard.marked mark before
        exact ⟨same, sent, fun gone => absurd (gone.symm.trans carried) (by simp)⟩

/-- The client's reset of a connection that left the table, and that the client did not end. -/
theorem late (heard : Heard False old) (unended : old.carried = true → old.ended = false) : Heard False old.asking := by
  unfold Visit.asking
  split
  · rename_i carried
    have aborted : old.abort = true := by
      cases is : old.abort with
      | true => rfl
      | false => exact (heard.held carried is (unended carried)).1.elim
    refine ⟨fun no => no.elim, heard.held, ?_⟩
    intro mark is
    refine ⟨aborted, ?_⟩
    dsimp only at is ⊢
    cases before : old.asked with
    | none =>
        rw [before] at is
        cases is
        exact ⟨rfl, rfl, fun gone => absurd (gone.symm.trans carried) (by simp)⟩
    | some mark' =>
        rw [before] at is
        cases is
        obtain ⟨-, same, sent, -⟩ := heard.marked mark before
        exact ⟨same, sent, fun gone => absurd (gone.symm.trans carried) (by simp)⟩
  · exact heard

/-- The slot is given back. -/
theorem drops (heard : Heard tabled old) : Heard False old.dropped := by
  constructor
  · exact fun no => no.elim
  · intro carried
    cases carried
  · intro mark is
    have before : mark ∈ old.asked := by simpa [Visit.dropped] using is
    obtain ⟨aborted, same, sent, -⟩ := heard.marked mark before
    have still := old.abort_finish .closed false aborted
    have reset : old.dropped.socket = .reset := by simp [Visit.dropped, still]
    refine ⟨still, by simpa [Visit.dropped] using same, by simpa [Visit.dropped] using sent, fun _ => ⟨?_, fun _ => reset⟩⟩
    rw [reset]
    simp

theorem ends (heard : Heard tabled old) {rest : List Inbound} :
    Heard False { ({ old with ended := true } : Visit).finish .closed false with inbound := rest } := by
  constructor
  · exact fun no => no.elim
  · intro _ _ unended
    simp at unended
  · intro mark is
    have before : mark ∈ old.asked := by simpa using is
    obtain ⟨aborted, same, sent, dropped⟩ := heard.marked mark before
    refine ⟨Visit.abort_finish _ _ _ aborted, ?_⟩
    simpa using ⟨same, sent, dropped⟩

end Heard

section Steps

variable {s s' : Carrier} {e : Event} {v : Nat} {old new : Visit} {unmapped : Bool} {out : List Outbound}

/-- What the event leaves of the connection's place in the table. -/
theorem Turn.heard (turn : Turn s v old e new unmapped out) (found : s.visits v = some old) (heeded : Heeded e s)
    (heard : Heard (s.channels old.conn = some v) old) :
    Heard (unmapped = false ∧ s.channels old.conn = some v) new := by
  have same {visit : Visit} (h : Heard (s.channels old.conn = some v) visit) :
      Heard (false = false ∧ s.channels old.conn = some v) visit := by simpa using h
  have left {visit : Visit} (h : Heard False visit) : Heard (true = false ∧ s.channels old.conn = some v) visit := by
    simpa using h
  cases turn with
  | refused carried unopened =>
      refine left ⟨fun no => no.elim, (fun gone => by cases gone), ?_⟩
      intro mark is
      obtain ⟨aborted, came, sent, -⟩ := heard.marked mark is
      refine ⟨aborted, came, sent, fun _ => ⟨by simp, fun opened => ?_⟩⟩
      exact absurd (opened.symm.trans unopened) (by simp)
  | opens carried => exact same (heard.kept rfl rfl rfl rfl rfl rfl rfl rfl (.inl carried))
  | greets carried => exact same (heard.kept rfl rfl rfl rfl rfl rfl rfl rfl (.inl carried))
  | uploadReads payload =>
      have unaborted : old.abort = false := heeded old found
      refine same ⟨heard.open_, heard.held, ?_⟩
      intro mark is
      exact absurd (unaborted.symm.trans (heard.marked mark is).1) (by simp)
  | uploadEof => exact same (heard.kept rfl rfl rfl rfl rfl rfl rfl rfl (.inr rfl))
  | uploadFails =>
      exact left ((heard.fails .clientError s.queued.length).kept rfl rfl rfl rfl rfl rfl rfl rfl (.inr rfl))
  | uploadAborts => exact same (heard.kept rfl rfl rfl rfl rfl rfl rfl rfl (.inr rfl))
  | uploadSends payload =>
      have unaborted : old.abort = false := heeded old found
      refine same ⟨heard.open_, heard.held, ?_⟩
      intro mark is
      exact absurd (unaborted.symm.trans (heard.marked mark is).1) (by simp)
  | uploadCut payload =>
      have unaborted : old.abort = false := heeded old found
      refine same ⟨fun tabled => ?_, fun carried kept unended => ?_, ?_⟩
      · obtain ⟨carried, unset⟩ := heard.open_ tabled
        exact ⟨by simpa using carried, .inr (old.finish_aborts _ unset)⟩
      · obtain ⟨tabled, unset⟩ := heard.held (by simpa using carried) unaborted (by simpa using unended)
        exact absurd (kept.symm.trans (old.finish_aborts _ (.inl unset))) (by simp)
      · intro mark is
        exact absurd (unaborted.symm.trans (heard.marked mark (by simpa using is)).1) (by simp)
  | uploadStops => exact same (heard.kept rfl rfl rfl rfl rfl rfl rfl rfl (.inr rfl))
  | uploadEnds => exact same (heard.kept rfl rfl rfl rfl rfl rfl rfl rfl (.inr rfl))
  | downloadTakes => exact same (heard.kept rfl rfl rfl rfl rfl rfl rfl rfl (.inr rfl))
  | downloadEnds => exact same (heard.kept rfl rfl rfl rfl rfl rfl rfl rfl (.inr rfl))
  | downloadAborts => exact same (heard.kept rfl rfl rfl rfl rfl rfl rfl rfl (.inr rfl))
  | downloadWrites => exact same (heard.kept rfl rfl rfl rfl rfl rfl rfl rfl (.inr rfl))
  | downloadFails =>
      exact left ((heard.fails .clientError s.queued.length).kept rfl rfl rfl rfl rfl rfl rfl rfl (.inr rfl))
  | downloadStops => exact same (heard.kept rfl rfl rfl rfl rfl rfl rfl rfl (.inr rfl))
  | shutsDown => exact same (heard.kept rfl rfl rfl rfl rfl rfl rfl rfl (.inr rfl))
  | idle =>
      exact left ((heard.fails .clientError s.queued.length).kept rfl rfl rfl rfl rfl rfl rfl rfl (.inr rfl))
  | «over» => exact left heard.drops
  | data payload fits =>
      unfold Visit.receives
      split
      · exact same (heard.kept rfl rfl rfl rfl rfl rfl rfl rfl (.inr rfl))
      · exact same heard
  | ends fits up tabled => exact left heard.ends
  | endsLate fits up named untabled =>
      refine same ⟨heard.open_, fun _ _ unended => ?_, heard.marked⟩
      cases unended
  | resets fits up tabled =>
      exact left (Heard.reached ⟨fun _ => heard.open_ tabled, fun c a u => ⟨trivial, (heard.held c a u).2⟩, heard.marked⟩)
  | resetsLate fits up named untabled =>
      have none : (s.channels old.conn = some v) ↔ False := by simp [untabled]
      rw [none] at heard
      refine same ?_
      rw [none]
      exact heard.late fun carried => heeded up v named old found carried
  | stalled rest listed free => exact left (heard.fails .backpressure s.queued.length)

end Steps

/-! ### The bridge -/

structure Attentive (s : Carrier) : Prop where
  numbered : Numbered s
  each : ∀ v visit, s.visits v = some visit → Heard (s.channels visit.conn = some v) visit
  last : ∀ v visit, s.visits v = some visit → visit.carried = true → s.numbers visit.conn = some v
  listed : ∀ v ∈ s.resetting, ∀ visit, s.visits v = some visit → s.numbers visit.conn = some v

namespace Attentive

variable {s s' : Carrier} {e : Event} {v : Nat} {old new : Visit} {unmapped : Bool} {out : List Outbound}

/-- Only the connection that has a number now is taken out of the table under it. -/
theorem owner (attentive : Attentive s) (turn : Turn s v old e new unmapped out) (found : s.visits v = some old)
    (left : unmapped = true) : s.numbers old.conn = some v := by
  have carried (is : old.carried = true) : s.numbers old.conn = some v := attentive.last v old found is
  have carrying (is : old.carrying = true) : s.numbers old.conn = some v := by
    unfold Visit.carrying at is
    simp only [Bool.and_eq_true] at is
    exact carried is.1.1
  cases turn with
  | refused is => exact carried is
  | uploadFails is => exact carrying is
  | downloadFails payload is => exact carried is
  | idle is => exact carrying is
  | «over» is => exact carrying is
  | ends fits up tabled => exact attentive.numbered.tabled _ _ tabled
  | resets fits up tabled => exact attentive.numbered.tabled _ _ tabled
  | stalled rest listed free => exact attentive.listed v (by simp [listed]) old found
  | _ => cases left

theorem turned (attentive : Attentive s) (heeded : Heeded e s) (turn : Turn s v old e new unmapped out)
    (turned : Turned s s' e v old new unmapped out) : Attentive s' := by
  refine ⟨attentive.numbered.turned turn turned, ?_, ?_, ?_⟩
  · intro v' visit found
    rw [turned.visits] at found
    split at found
    · rename_i is
      cases found
      rw [is]
      have heard := turn.heard turned.found heeded (attentive.each v old turned.found)
      have place : (s'.channels new.conn = some v) ↔ (unmapped = false ∧ s.channels old.conn = some v) := by
        rw [turned.channels, turn.conn]
        cases unmapped with
        | false => simp
        | true => simp
      rw [place]
      exact heard
    · rename_i other
      have place : (s'.channels visit.conn = some v') ↔ (s.channels visit.conn = some v') := by
        rw [turned.channels]
        split
        · rename_i taken
          constructor
          · intro none
            cases none
          · intro tabled
            have named := attentive.numbered.tabled _ _ tabled
            rw [taken.2, attentive.owner turn turned.found taken.1] at named
            exact absurd (Option.some.inj named).symm other
        · exact Iff.rfl
      rw [place]
      exact attentive.each v' visit found
  · intro v' visit found carried
    rw [turned.numbers]
    rw [turned.visits] at found
    split at found
    · rename_i is
      cases found
      rw [is, turn.conn]
      exact attentive.last v old turned.found (turn.carried carried)
    · exact attentive.last v' visit found carried
  · intro v' listed visit found
    have before : v' ∈ s.resetting := by
      rcases turned.reader with ⟨-, same, -⟩ | ⟨-, same, -⟩
      · rwa [same] at listed
      · rw [same]
        exact List.mem_cons_of_mem v listed
    rw [turned.numbers]
    rw [turned.visits] at found
    split at found
    · rename_i is
      cases found
      rw [is] at before ⊢
      rw [turn.conn]
      exact attentive.listed v before old turned.found
    · exact attentive.listed v' before visit found

theorem routed (attentive : Attentive s) (conn : Nat) (initial : Bytes) (free : s.channels conn = none)
    (heeded : Heeded (.route conn initial) s) :
    Attentive { s with
      visits := fun v => if v = s.routed then some { conn := conn, hello := initial, came := initial } else s.visits v
      routed := s.routed + 1
      channels := fun n => if n = conn then some s.routed else s.channels n
      numbers := fun n => if n = conn then some s.routed else s.numbers n } := by
  have known {v' : Nat} {visit : Visit} (found : s.visits v' = some visit) : v' ≠ s.routed := by
    rintro rfl
    exact absurd ((attentive.numbered.fresh _ (Nat.le_refl _)).symm.trans found) (by simp)
  refine ⟨attentive.numbered.routed conn initial, ?_, ?_, ?_⟩
  · intro v' visit found
    dsimp only at found ⊢
    split at found
    · rename_i is
      cases found
      rw [is, if_pos rfl]
      exact ⟨fun _ => ⟨rfl, .inl rfl⟩, fun _ _ _ => ⟨rfl, rfl⟩, (fun mark is => by cases is)⟩
    · have place : ((if visit.conn = conn then some s.routed else s.channels visit.conn) = some v') ↔
          s.channels visit.conn = some v' := by
        split
        · rename_i same
          rw [same, free]
          constructor
          · intro is
            exact absurd (Option.some.inj is).symm (known found)
          · intro none
            cases none
        · exact Iff.rfl
      rw [place]
      exact attentive.each v' visit found
  · intro v' visit found carried
    dsimp only at found ⊢
    split at found
    · rename_i is
      cases found
      rw [if_pos rfl, is]
    · have named := attentive.last v' visit found carried
      rw [if_neg]
      · exact named
      · intro same
        have gone := (heeded v' (same ▸ named)).2 visit found
        exact absurd (carried.symm.trans gone) (by simp)
  · intro v' listed visit found
    dsimp only at found ⊢
    split at found
    · rename_i is
      cases found
      rw [if_pos rfl, is]
    · have named := attentive.listed v' listed visit found
      rw [if_neg]
      · exact named
      · intro same
        exact (heeded v' (same ▸ named)).1 listed

theorem finished (attentive : Attentive s) (outcome : Outcome) : Attentive (s.finishChannels outcome) := by
  refine ⟨attentive.numbered.finished outcome, ?_, ?_, ?_⟩
  · intro v visit found
    obtain ⟨before, found', rfl⟩ := Option.map_eq_some_iff.mp found
    have heard := attentive.each v before found'
    have place (conn : Nat) : ((s.finishChannels outcome).channels conn = some v) ↔ False := by
      simp [Carrier.finishChannels]
    rw [place]
    split
    · have left := heard.fails outcome 0
      rw [Visit.finish_failing] at left
      exact left.kept rfl rfl rfl rfl rfl rfl rfl rfl (.inr rfl)
    · rename_i untabled
      have none : (s.channels before.conn = some v) ↔ False := iff_false_intro untabled
      rw [none] at heard
      exact heard
  · intro v visit found carried
    obtain ⟨before, found', rfl⟩ := Option.map_eq_some_iff.mp found
    split at carried
    · rename_i tabled
      rw [if_pos tabled, Visit.conn_finish]
      exact attentive.last v before found' (by simpa using carried)
    · rename_i untabled
      rw [if_neg untabled]
      exact attentive.last v before found' carried
  · intro v listed visit found
    obtain ⟨before, found', rfl⟩ := Option.map_eq_some_iff.mp found
    have named := attentive.listed v listed before found'
    split
    · rw [Visit.conn_finish]
      exact named
    · exact named

theorem quiet (attentive : Attentive s) (quiet : Quiet s s') (listed : s'.resetting = s.resetting) : Attentive s' := by
  refine ⟨quiet.numbered attentive.numbered, ?_, ?_, ?_⟩
  · rw [quiet.visits, quiet.channels]
    exact attentive.each
  · rw [quiet.visits, quiet.numbers]
    exact attentive.last
  · rw [quiet.visits, quiet.numbers, listed]
    exact attentive.listed

theorem step (attentive : Attentive s) (heeded : Heeded e s) (h : s.step e = some s') : Attentive s' := by
  cases step_kind attentive.numbered h with
  | turned v old new unmapped out turn turned => exact attentive.turned heeded turn turned
  | routed conn initial event free after =>
      subst event after
      exact attentive.routed conn initial free heeded
  | finished outcome event after => exact after ▸ attentive.finished outcome
  | stalls visits event free known after =>
      subst event after
      refine ⟨⟨attentive.numbered.tabled, attentive.numbered.named, attentive.numbered.fresh⟩, attentive.each,
        attentive.last, ?_⟩
      intro v listed visit found
      exact attentive.numbered.tabled _ _ (heeded v listed visit found)
  | resetSent v visit event sending found quiet queued gone reader => exact attentive.quiet quiet reader.1
  | quiet quiet extra queued gone reader => exact attentive.quiet quiet reader.1

theorem empty : Attentive .empty := by
  refine ⟨.empty, ?_, ?_, ?_⟩
  · intro v visit found
    cases found
  · intro v visit found
    cases found
  · intro v listed
    cases listed

end Attentive

/-! ### The end of an aborted connection -/

namespace Visit

/-- How many steps the connection has before it is over, at most. -/
def left (visit : Visit) : Nat :=
  (if visit.opened then 0 else 1) + visit.hello.length + (if visit.upload = .returned then 0 else 1) +
    (if visit.download = .returned then 0 else 1)

theorem carrying_of {visit : Visit} (carried : visit.carried = true) (opened : visit.opened = true)
    (sent : visit.hello = []) : visit.carrying = true := by
  simp [carrying, carried, opened, sent]

end Visit

section Ends

variable {s : Carrier} {v : Nat} {visit : Visit}

/-- The writer takes messages off the queue. -/
theorem drains (up : s.gone = false) (n : Nat) (enough : n ≤ s.waiting) :
    Stepped Carrier.step (fun e _ => Own v e) s { s with written := s.written + n } := by
  induction n with
  | zero => exact .start
  | succ n ih =>
      refine (ih (by omega)).step .takes .takes ?_
      have more : s.written + n < s.queued.length := by
        unfold Carrier.waiting at enough
        omega
      simp [Carrier.step, more, up]
      omega

/-- There is a place on the queue, or nobody reads it any more. -/
theorem makes_room (s : Carrier) (v : Nat) : ∃ s', Stepped Carrier.step (fun e _ => Own v e) s s' ∧
    s'.visits = s.visits ∧ ∀ message, ∃ sent, s'.send (some v) message = some sent ∧ sent.2.visits = s.visits := by
  cases up : s.gone with
  | true =>
      refine ⟨s, .start, rfl, fun message => ⟨(false, s), ?_, rfl⟩⟩
      simp [Carrier.send, up]
  | false =>
      refine ⟨_, drains up s.waiting (Nat.le_refl _), rfl, fun message => ?_⟩
      refine ⟨(true, Carrier.push { s with written := s.written + s.waiting } (some v) message), ?_, rfl⟩
      have empty : ({ s with written := s.written + s.waiting } : Carrier).waiting < outboundQueue := by
        unfold Carrier.waiting outboundQueue
        dsimp only
        omega
      unfold Carrier.send
      rw [if_neg (by simp [up]), if_pos empty]

/-- Steps of the connection bring it nearer its end. -/
def Advances (s : Carrier) (v : Nat) (visit : Visit) : Prop :=
  ∃ s' visit', Stepped Carrier.step (fun e _ => Own v e) s s' ∧ s'.visits v = some visit' ∧ visit'.carried = true ∧
    visit'.abort = true ∧ visit'.left < visit.left

theorem Advances.of_change {e : Event} {f : Visit → Visit} (found : s.visits v = some visit) (own : Own v e)
    (taken : s.step e = some (s.change v f)) (carried : (f visit).carried = true) (abort : (f visit).abort = true)
    (less : (f visit).left < visit.left) : Advances s v visit := by
  refine ⟨s.change v f, f visit, .one e own taken, ?_, carried, abort, less⟩
  rw [Carrier.visits_change found, if_pos rfl]

/-- A step that sends a message waits for a place. -/
theorem Advances.of_send {e : Event} {f : Visit → Visit} (found : s.visits v = some visit) (message : Outbound)
    (own : Own v e)
    (taken : ∀ s' : Carrier, s'.visits = s.visits →
      s'.step e = (s'.send (some v) message).map fun sent => sent.2.change v f)
    (carried : (f visit).carried = true) (abort : (f visit).abort = true) (less : (f visit).left < visit.left) :
    Advances s v visit := by
  obtain ⟨s', drained, same, room⟩ := makes_room s v
  obtain ⟨sent, did, kept⟩ := room message
  have taken' : s'.step e = some (sent.2.change v f) := by rw [taken s' same, did, Option.map_some]
  refine ⟨sent.2.change v f, f visit, drained.step e own taken', ?_, carried, abort, less⟩
  rw [Carrier.visits_change (by rw [kept, found]), if_pos rfl]

/-- An aborted connection that still has a direction or the ClientHello to finish gets on with it. -/
theorem advances (found : s.visits v = some visit) (carried : visit.carried = true) (abort : visit.abort = true)
    (unfinished : ¬ (visit.carrying = true ∧ visit.upload = .returned ∧ visit.download = .returned)) :
    Advances s v visit := by
  by_cases opened : visit.opened = true
  · by_cases sent : visit.hello = []
    · have carrying := visit.carrying_of carried opened sent
      cases upload : visit.upload with
      | reading =>
          refine .of_change (f := fun visit => { visit with upload := .returned }) found .uploadAborts ?_ carried abort ?_
          · simp [Carrier.step, Carrier.onVisit, found, carried, carrying, upload, Carrier.uploadTakes, abort]
          · simp [Visit.left, upload]
      | sending payload =>
          refine .of_change (f := fun visit => { visit with upload := .returned }) found .uploadStops ?_ carried abort ?_
          · simp [Carrier.step, Carrier.onVisit, found, carried, upload, Carrier.uploadSends, abort]
          · simp [Visit.left, upload]
      | ending =>
          refine .of_send (f := fun visit => { visit with upload := .returned }) found (.end_ visit.conn)
            .uploadEnds ?_ carried abort ?_
          · intro s' same
            simp [Carrier.step, Carrier.onVisit, same, found, carried, upload]
          · simp [Visit.left, upload]
      | returned =>
          cases download : visit.download with
          | receiving =>
              refine .of_change (f := fun visit => { visit with download := .returned }) found .downloadAborts ?_ carried
                abort ?_
              · simp [Carrier.step, Carrier.onVisit, found, carried, carrying, download, Carrier.downloadTakes, abort]
              · simp [Visit.left, download]
          | writing payload =>
              refine .of_change (f := fun visit => { visit with download := .returned }) found .downloadStops ?_ carried
                abort ?_
              · simp [Carrier.step, Carrier.onVisit, found, carried, download, Carrier.downloadWrites, abort]
              · simp [Visit.left, download]
          | shutting =>
              refine .of_change (f := fun visit => { visit with download := .returned }) found .shutsDown ?_ carried
                abort ?_
              · simp [Carrier.step, Carrier.onVisit, found, carried, download]
              · simp [Visit.left, download]
          | returned => exact absurd ⟨carrying, upload, download⟩ unfinished
    · refine .of_send (f := fun visit => { visit with hello := visit.hello.drop maxPayload }) found
        (.data visit.conn (visit.hello.take maxPayload)) .greets ?_ carried abort ?_
      · intro s' same
        simp [Carrier.step, Carrier.onVisit, same, found, carried, opened, sent]
      · have some_ : 0 < visit.hello.length := List.length_pos_iff.mpr sent
        simp only [Visit.left, List.length_drop, maxPayload]
        omega
  · refine .of_send (f := fun visit => { visit with opened := true }) found (.open_ visit.conn) .opens ?_
      carried abort ?_
    · intro s' same
      simp [Carrier.step, Carrier.onVisit, same, found, carried, opened]
    · simp [Visit.left, opened]

/-- The steps of an aborted connection give its slot back and drop its socket with a reset. -/
theorem ends_of_aborted (found : s.visits v = some visit) (carried : visit.carried = true)
    (abort : visit.abort = true) : ∃ s' visit', Stepped Carrier.step (fun e _ => Own v e) s s' ∧
      s'.visits v = some visit' ∧ visit'.carried = false ∧ visit'.socket = .reset := by
  -- by how many steps it has left
  induction n : visit.left using Nat.strongRecOn generalizing s visit with
  | ind n ih =>
      subst n
      by_cases finished : visit.carrying = true ∧ visit.upload = .returned ∧ visit.download = .returned
      · have taken : s.step (.over v) = some (s.drop v visit) := by
          simp [Carrier.step, Carrier.onVisit, found, carried, finished]
        have found' : (s.unmap visit.conn).visits v = some visit := found
        refine ⟨s.drop v visit, visit.dropped, .one _ .over taken, ?_, rfl, ?_⟩
        · unfold Carrier.drop
          rw [Carrier.change_change, Carrier.visits_change found', if_pos rfl]
          rfl
        · simp [Visit.dropped, visit.abort_finish .closed false abort]
      · obtain ⟨s', visit', before, found', carried', abort', less⟩ := advances found carried abort finished
        obtain ⟨s'', visit'', after, rest⟩ := ih _ less found' carried' abort' rfl
        exact ⟨s'', visit'', before.trans after, rest⟩

end Ends

/-- In every run in which the client resets no connection it ended, `upload` takes and sends nothing in a `select!` in
    which the abort is ready, and no number is given again while the server still refers to the connection that had it,
    every reset the server handled tore its connection down. -/
theorem resets_abort {s : Carrier} (reached : Stepped Carrier.step Heeded .empty s) : ResetsAbort s := by
  have attentive : Attentive s := reached.invariant .empty fun e s s' heeded attentive taken => attentive.step heeded taken
  intro v visit found mark is
  obtain ⟨abort, came, uploads, dropped⟩ := (attentive.each v visit found).marked mark is
  exact ⟨abort, came, uploads, dropped, fun carried => ends_of_aborted found carried abort⟩

instance (e : Event) (s : Carrier) : Decidable (Heeded e s) :=
  match e with
  | .frame (.reset conn) _ => inferInstanceAs (Decidable (s.closing = false → ∀ v ∈ s.numbers conn,
      ∀ visit ∈ s.visits v, visit.carried = true → visit.ended = false))
  | .frame (.data ..) _ => isTrue trivial
  | .frame (.end_ _) _ => isTrue trivial
  | .frame .other _ => isTrue trivial
  | .uploadTakes v (.bytes _) => inferInstanceAs (Decidable (∀ visit ∈ s.visits v, visit.abort = false))
  | .uploadTakes _ .eof => isTrue trivial
  | .uploadTakes _ .error => isTrue trivial
  | .uploadTakes _ .aborted => isTrue trivial
  | .uploadSends v false => inferInstanceAs (Decidable (∀ visit ∈ s.visits v, visit.abort = false))
  | .uploadSends _ true => isTrue trivial
  | .route conn _ => inferInstanceAs (Decidable (∀ v ∈ s.numbers conn, v ∉ s.resetting ∧
      ∀ visit ∈ s.visits v, visit.carried = false))
  | .stalls visits => inferInstanceAs (Decidable (∀ v ∈ visits, ∀ visit ∈ s.visits v,
      s.channels visit.conn = some v))
  | .refused _ | .opens _ | .greets _ | .uploadEnds _ | .downloadTakes .. | .downloadWrites .. | .shutsDown _ | .idle _
  | .over _ | .resets | .resetSent | .takes | .sends | .promises _ | .close | .writerEnds | .finishChannels _ =>
      isTrue trivial

/-- A connection is opened, the client sends these frames, and the visitor's next byte is taken and sent. -/
def visitor (frames : List ClientFrame) (after : List Event) : List Event :=
  [.route 1 [1], .opens 0, .greets 0] ++ frames.map (fun frame => .frame frame true) ++ after

/-- What the first connection did: the client's reset, the bytes taken and the data frames queued since. -/
def did (s : Carrier) : Option (Option Mark × Nat × Nat × Socket) :=
  (s.visits 0).map fun visit => (visit.asked, visit.came.length, visit.uploads, visit.socket)

/-- The client resets an open connection. -/
theorem resets_abort_open : ∃ s, Stepped Carrier.step Heeded .empty s ∧
    did s = some (some ⟨1, 0⟩, 1, 0, .reset) ∧ ResetsAbort s := by
  have played : (playSteps Carrier.step Heeded
      (visitor [.reset 1] [.uploadTakes 0 .aborted, .downloadTakes 0 true, .over 0]) .empty).map did =
        some (some (some ⟨1, 0⟩, 1, 0, .reset)) := by
    decide +kernel
  obtain ⟨s, ran, seen⟩ := Option.map_eq_some_iff.mp played
  have reached := stepped_of_play ran
  exact ⟨s, reached, seen, resets_abort reached⟩

/-- The client ends its half and then resets the connection: the server goes on taking the visitor's bytes and sending
    them. -/
theorem reset_after_end_ignored : ∃ s, Stepped Carrier.step (fun _ _ => True) .empty s ∧ ¬ ResetsAbort s := by
  have played : (playSteps Carrier.step (fun _ _ => True)
      (visitor [.end_ 1, .reset 1] [.uploadTakes 0 (.bytes [2]), .uploadSends 0 false]) .empty).map did =
        some (some (some ⟨1, 0⟩, 2, 1, .connected)) := by
    decide +kernel
  obtain ⟨s, ran, seen⟩ := Option.map_eq_some_iff.mp played
  refine ⟨s, stepped_of_play ran, fun abort => ?_⟩
  obtain ⟨visit, found, is⟩ := Option.map_eq_some_iff.mp seen
  simp only [Prod.mk.injEq] at is
  have torn := abort 0 visit found ⟨1, 0⟩ is.1
  exact absurd (is.2.1.symm.trans torn.came) (by decide)

end OpenTunnel.Relay
