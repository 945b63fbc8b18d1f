/-
Module: OpenTunnel.Proofs.Relay
Layer: Proofs
Purpose: What an event does to a bridge's connections, said once. Every event routes a new connection, finishes all open
  ones, turns one connection into its next state (`Turn` lists how, with what is taken out of the table and put on the
  outbound queue), or changes no connection at all. The invariants of the relay are proved over these four cases.
Imports: OpenTunnel.Tasks.Steps, OpenTunnel.Model.Relay
Trusted boundary: none (fully proved)
Main exports: Relay.Numbered, Relay.Turn, Relay.Turned, Relay.Quiet, Relay.StepKind, Relay.step_kind
Open obligations: none
-/
import OpenTunnel.Tasks.Steps
import OpenTunnel.Model.Relay

namespace OpenTunnel.Relay

open Download (ClientFrame Inbound Outcome)

/-! ### One connection -/

namespace Visit

/-- It stops abnormally when this many messages have been queued. -/
def failing (visit : Visit) (count : Nat) : Visit :=
  { visit with failedAt := if visit.carried then visit.failedAt.or (some count) else visit.failedAt }

/-- The client's reset was handled. -/
def asking (visit : Visit) : Visit :=
  if visit.carried then { visit with asked := visit.asked.or (some ⟨visit.came.length, visit.uploads⟩) } else visit

def dropped (visit : Visit) : Visit :=
  { visit.finish .closed false with
    carried := false
    socket := if (visit.finish .closed false).idled || (visit.finish .closed false).abort then .reset else .closed }

/-- `data` for it -/
def receives (visit : Visit) (fits : Bool) (payload : Bytes) : Visit :=
  if fits && decide (visit.download ≠ .returned) then { visit with inbound := visit.inbound ++ [.data payload] } else visit

end Visit

/-- What `try_send` puts on the queue. -/
def Carrier.tried (s : Carrier) (message : Outbound) : List Outbound := if s.gone || !s.room then [] else [message]

/-- What `send` puts on the queue, once it has a place. -/
def Carrier.posted (s : Carrier) (message : Outbound) : List Outbound := if s.gone then [] else [message]

/-- How an event turns a connection into its next state: whether it takes the connection's number out of the table, and
    what it puts on the queue. -/
inductive Turn (s : Carrier) (v : Nat) (old : Visit) : Event → Visit → Bool → List Outbound → Prop where
  | refused (carried : old.carried = true) (unopened : old.opened = false) :
      Turn s v old (.refused v) { old with carried := false, socket := .closed } true []
  | opens (carried : old.carried = true) (unopened : old.opened = false) :
      Turn s v old (.opens v) { old with opened := true } false (s.posted (.open_ old.conn))
  | greets (carried : old.carried = true) (opened : old.opened = true) (left : old.hello ≠ []) :
      Turn s v old (.greets v) { old with hello := old.hello.drop maxPayload } false
        (s.posted (.data old.conn (old.hello.take maxPayload)))
  | uploadReads (payload : Bytes) (carrying : old.carrying = true) (reading : old.upload = .reading)
      (some_ : 0 < payload.length) (fits : payload.length ≤ maxPayload) :
      Turn s v old (.uploadTakes v (.bytes payload)) { old with came := old.came ++ payload, upload := .sending payload }
        false []
  | uploadEof (carrying : old.carrying = true) (reading : old.upload = .reading) :
      Turn s v old (.uploadTakes v .eof) { old with upload := .ending } false []
  | uploadFails (carrying : old.carrying = true) (reading : old.upload = .reading) :
      Turn s v old (.uploadTakes v .error)
        { (old.failing s.queued.length).finish .clientError true with upload := .returned } true
        (s.tried (.reset old.conn))
  | uploadAborts (carrying : old.carrying = true) (reading : old.upload = .reading) (abort : old.abort = true) :
      Turn s v old (.uploadTakes v .aborted) { old with upload := .returned } false []
  | uploadSends (payload : Bytes) (carried : old.carried = true) (sending : old.upload = .sending payload)
      (up : s.gone = false) :
      Turn s v old (.uploadSends v false) { old with upload := .reading, uploads := old.uploads + 1 } false
        (s.posted (.data old.conn payload))
  | uploadCut (payload : Bytes) (carried : old.carried = true) (sending : old.upload = .sending payload)
      (down : s.gone = true) :
      Turn s v old (.uploadSends v false) { old.finish .bridgeDisconnected true with upload := .returned } false
        (s.posted (.data old.conn payload))
  | uploadStops (payload : Bytes) (carried : old.carried = true) (sending : old.upload = .sending payload)
      (abort : old.abort = true) :
      Turn s v old (.uploadSends v true) { old with upload := .returned } false []
  | uploadEnds (carried : old.carried = true) (ending : old.upload = .ending) :
      Turn s v old (.uploadEnds v) { old with upload := .returned } false (s.posted (.end_ old.conn))
  | downloadTakes (payload : Bytes) (rest : List Inbound) (carrying : old.carrying = true)
      (receiving : old.download = .receiving) (next : old.inbound = .data payload :: rest) :
      Turn s v old (.downloadTakes v false) { old with inbound := rest, download := .writing payload } false []
  | downloadEnds (rest : List Inbound) (carrying : old.carrying = true) (receiving : old.download = .receiving)
      (next : old.inbound = .end_ :: rest ∨ (old.inbound = [] ∧ rest = [] ∧ s.channels old.conn ≠ some v)) :
      Turn s v old (.downloadTakes v false) { old with inbound := rest, download := .shutting } false []
  | downloadAborts (carrying : old.carrying = true) (receiving : old.download = .receiving) (abort : old.abort = true) :
      Turn s v old (.downloadTakes v true) { old with download := .returned } false []
  | downloadWrites (payload : Bytes) (carried : old.carried = true) (writing : old.download = .writing payload) :
      Turn s v old (.downloadWrites v .all) { old with download := .receiving } false []
  | downloadFails (payload : Bytes) (carried : old.carried = true) (writing : old.download = .writing payload) :
      Turn s v old (.downloadWrites v .failed)
        { (old.failing s.queued.length).finish .clientError true with download := .returned } true
        (s.tried (.reset old.conn))
  | downloadStops (payload : Bytes) (carried : old.carried = true) (writing : old.download = .writing payload)
      (abort : old.abort = true) :
      Turn s v old (.downloadWrites v .aborted) { old with download := .returned } false []
  | shutsDown (carried : old.carried = true) (shutting : old.download = .shutting) :
      Turn s v old (.shutsDown v) { old with download := .returned } false []
  | idle (carrying : old.carrying = true) :
      Turn s v old (.idle v)
        { (old.failing s.queued.length).finish .clientError true with
          upload := .returned, download := .returned, idled := true } true
        (s.tried (.reset old.conn))
  | over (carrying : old.carrying = true) (uploaded : old.upload = .returned) (downloaded : old.download = .returned) :
      Turn s v old (.over v) old.dropped true []
  | data (payload : Bytes) (fits : Bool) (up : s.closing = false) (tabled : s.channels old.conn = some v) :
      Turn s v old (.frame (.data old.conn payload) fits) (old.receives fits payload) false []
  | ends (fits : Bool) (up : s.closing = false) (tabled : s.channels old.conn = some v) :
      Turn s v old (.frame (.end_ old.conn) fits)
        { ({ old with ended := true } : Visit).finish .closed false with inbound := old.inbound ++ [.end_] } true []
  | endsLate (fits : Bool) (up : s.closing = false) (named : s.numbers old.conn = some v)
      (untabled : s.channels old.conn = none) :
      Turn s v old (.frame (.end_ old.conn) fits) { old with ended := true } false []
  | resets (fits : Bool) (up : s.closing = false) (tabled : s.channels old.conn = some v) :
      Turn s v old (.frame (.reset old.conn) fits) (old.asking.finish .reset true) true []
  | resetsLate (fits : Bool) (up : s.closing = false) (named : s.numbers old.conn = some v)
      (untabled : s.channels old.conn = none) :
      Turn s v old (.frame (.reset old.conn) fits) old.asking false []
  | stalled (rest : List Nat) (listed : s.resetting = v :: rest) (free : s.sending = none) :
      Turn s v old .resets ((old.failing s.queued.length).finish .backpressure true) true []

/-- One connection was turned, and everything else stayed. -/
structure Turned (s s' : Carrier) (e : Event) (v : Nat) (old new : Visit) (unmapped : Bool) (out : List Outbound) :
    Prop where
  found : s.visits v = some old
  visits : ∀ v', s'.visits v' = if v' = v then some new else s.visits v'
  channels : ∀ n, s'.channels n = if unmapped = true ∧ n = old.conn then none else s.channels n
  numbers : s'.numbers = s.numbers
  routed : s'.routed = s.routed
  queued : s'.queued = s.queued ++ out.map fun message => (some v, message)
  gone : s'.gone = s.gone
  reader : (e ≠ .resets ∧ s'.resetting = s.resetting ∧ s'.sending = s.sending) ∨
    (e = .resets ∧ s.resetting = v :: s'.resetting ∧ s'.sending = some v)

/-- No connection was changed. -/
structure Quiet (s s' : Carrier) : Prop where
  visits : s'.visits = s.visits
  channels : s'.channels = s.channels
  numbers : s'.numbers = s.numbers
  routed : s'.routed = s.routed

/-- The table's numbers are the connections', and the last ones given. -/
structure Numbered (s : Carrier) : Prop where
  tabled : ∀ n v, s.channels n = some v → s.numbers n = some v
  named : ∀ n v, s.numbers n = some v → ∃ visit, s.visits v = some visit ∧ visit.conn = n
  fresh : ∀ v, s.routed ≤ v → s.visits v = none

/-- What an event does. -/
inductive StepKind (s s' : Carrier) (e : Event) : Prop where
  | turned (v : Nat) (old new : Visit) (unmapped : Bool) (out : List Outbound) (turn : Turn s v old e new unmapped out)
      (turned : Turned s s' e v old new unmapped out)
  | routed (conn : Nat) (initial : Bytes) (event : e = .route conn initial) (free : s.channels conn = none)
      (after : s' = { s with
        visits := fun v => if v = s.routed then some { conn := conn, hello := initial, came := initial } else s.visits v
        routed := s.routed + 1
        channels := fun n => if n = conn then some s.routed else s.channels n
        numbers := fun n => if n = conn then some s.routed else s.numbers n })
  | finished (outcome : Outcome) (event : e = .finishChannels outcome) (after : s' = s.finishChannels outcome)
  | stalls (visits : List Nat) (event : e = .stalls visits) (free : s.resetting = [] ∧ s.sending = none)
      (known : ∀ v ∈ visits, ∃ visit, s.visits v = some visit ∧ (s.channels visit.conn).isSome = true)
      (after : s' = { s with resetting := visits })
  | resetSent (v : Nat) (visit : Visit) (event : e = .resetSent) (sending : s.sending = some v)
      (found : s.visits v = some visit) (quiet : Quiet s s')
      (queued : s'.queued = s.queued ++ (s.posted (.reset visit.conn)).map fun message => (some v, message))
      (gone : s'.gone = s.gone) (reader : s'.resetting = s.resetting ∧ s'.sending = none)
  | quiet (quiet : Quiet s s') (extra : List (Option Nat × Outbound)) (queued : s'.queued = s.queued ++ extra)
      (gone : s'.gone = false → s.gone = false) (reader : s'.resetting = s.resetting ∧ s'.sending = s.sending)
      (others : ∀ message ∈ extra, message = (none, .other))

/-! ### The events -/

namespace Carrier

variable {s s' : Carrier} {v : Nat} {old : Visit} {message : Outbound} {f g : Visit → Visit} {conn : Nat}

/-- An event of a connection needs that it is carried. -/
theorem onVisit_spec {run : Visit → Option Carrier} (h : s.onVisit v run = some s') :
    ∃ visit, s.visits v = some visit ∧ visit.carried = true ∧ run visit = some s' := by
  unfold onVisit at h
  cases found : s.visits v with
  | none =>
      rw [found] at h
      cases h
  | some visit =>
      rw [found] at h
      dsimp only at h
      split at h
      · rename_i carried
        exact ⟨visit, rfl, carried, h⟩
      · cases h

theorem visits_change (found : s.visits v = some old) (v' : Nat) :
    (s.change v f).visits v' = if v' = v then some (f old) else s.visits v' := by
  unfold change
  dsimp only
  rw [found]
  rfl

theorem change_change : (s.change v f).change v g = s.change v fun visit => g (f visit) := by
  unfold change
  simp only [mk.injEq, and_true, if_true]
  funext v'
  split
  · rw [Option.map_map]
    rfl
  · rfl

theorem change_unmap_change :
    ((s.change v f).unmap conn).change v g = (s.unmap conn).change v fun visit => g (f visit) := by
  have swapped : (s.change v f).unmap conn = (s.unmap conn).change v f := rfl
  rw [swapped, change_change]

theorem note_reset (named : s.numbers conn = some v) : s.note (.reset conn) = s.change v Visit.asking := by
  simp only [note, named]
  rfl

/-- A reset takes the connection out of the table and aborts it. -/
theorem handle_reset {fits : Bool} (tabled : s.channels conn = some v) :
    s.handle fits (.reset conn) = (s.unmap conn).change v fun visit => visit.finish .reset true := by
  simp only [handle, tabled]

/-- A reset of a number that is not in the table does nothing. -/
theorem handle_reset_late {fits : Bool} (untabled : s.channels conn = none) : s.handle fits (.reset conn) = s := by
  simp only [handle, untabled]

/-- What `send` does once it has a place. -/
theorem send_spec {sent : Bool × Carrier} (h : s.send (some v) message = some sent) :
    sent.1 = !s.gone ∧ sent.2 = { s with
      queued := s.queued ++ (s.posted message).map fun message => (some v, message) } := by
  unfold send at h
  unfold posted
  split at h
  · rename_i gone
    cases h
    rw [if_pos gone]
    exact ⟨by simp [gone], by simp⟩
  · rename_i up
    split at h
    · cases h
      rw [if_neg up]
      exact ⟨by simp [up], by simp [push]⟩
    · cases h

/-- A message that is tried is queued if there is room. -/
theorem queued_trySend : (s.trySend (some v) message) = { s with
    queued := s.queued ++ (s.tried message).map fun message => (some v, message) } := by
  unfold trySend tried
  split
  · simp
  · simp [push]

end Carrier

section Turns

variable {s s' : Carrier} {e : Event} {v : Nat} {old new : Visit} {message : Outbound} {f : Visit → Visit}

/-- A change of the connection alone. -/
theorem Turned.of_change (found : s.visits v = some old) (e : Event) (own : e ≠ .resets) (is : f old = new) :
    Turned s (s.change v f) e v old new false [] := by
  refine ⟨found, ?_, ?_, rfl, rfl, by simp [Carrier.change], rfl, .inl ⟨own, rfl, rfl⟩⟩
  · intro v'
    rw [Carrier.visits_change found, is]
  · intro n
    simp [Carrier.change]

/-- The number leaves the table too. -/
theorem Turned.of_unmap (found : s.visits v = some old) (e : Event) (own : e ≠ .resets) (is : f old = new) :
    Turned s ((s.unmap old.conn).change v f) e v old new true [] := by
  have found' : (s.unmap old.conn).visits v = some old := found
  refine ⟨found, ?_, ?_, rfl, rfl, by simp [Carrier.change, Carrier.unmap], rfl, .inl ⟨own, rfl, rfl⟩⟩
  · intro v'
    rw [Carrier.visits_change found', is]
    rfl
  · intro n
    simp [Carrier.change, Carrier.unmap]

/-- A message is sent, and the connection changed. -/
theorem Turned.of_send (found : s.visits v = some old) (e : Event) (own : e ≠ .resets) {sent : Bool × Carrier}
    (h : s.send (some v) message = some sent) (is : f old = new) :
    Turned s (sent.2.change v f) e v old new false (s.posted message) := by
  rw [(Carrier.send_spec h).2]
  refine ⟨found, ?_, ?_, rfl, rfl, rfl, rfl, .inl ⟨own, rfl, rfl⟩⟩
  · intro v'
    have found' : ({ s with
      queued := s.queued ++ (s.posted message).map fun message => (some v, message) } : Carrier).visits v = some old :=
      found
    rw [Carrier.visits_change found', is]
  · intro n
    simp [Carrier.change]

/-- The connection is given up, and changed further. -/
theorem Turned.of_giveUp (found : s.visits v = some old) (e : Event) (own : e ≠ .resets)
    (is : f ((old.failing s.queued.length).finish .clientError true) = new) :
    Turned s ((s.giveUp v old).change v f) e v old new true (s.tried (.reset old.conn)) := by
  have failed : (s.fails v).visits v = some (old.failing s.queued.length) := by
    unfold Carrier.fails
    rw [Carrier.visits_change found, if_pos rfl]
    rfl
  have room : (s.fails v).tried (.reset old.conn) = s.tried (.reset old.conn) := rfl
  unfold Carrier.giveUp
  rw [Carrier.queued_trySend, room]
  refine ⟨found, ?_, ?_, rfl, rfl, rfl, rfl, .inl ⟨own, rfl, rfl⟩⟩
  · intro v'
    by_cases same : v' = v
    · subst same
      simp [Carrier.change, Carrier.unmap, Carrier.fails, found, ← is, Visit.failing]
    · simp [Carrier.change, Carrier.unmap, Carrier.fails, same]
  · intro n
    simp [Carrier.change, Carrier.unmap, Carrier.fails]

end Turns

section Kinds

variable {s s' : Carrier} {v : Nat}

/-- What a turn of `upload` does when it takes something. -/
theorem kind_uploadTakes {taken : Taken} (h : s.step (.uploadTakes v taken) = some s') :
    StepKind s s' (.uploadTakes v taken) := by
  obtain ⟨old, found, carried, run⟩ := Carrier.onVisit_spec h
  split at run
  · rename_i ready
    obtain ⟨carrying, reading⟩ := ready
    cases taken with
    | bytes payload =>
        simp only [Carrier.uploadTakes] at run
        split at run
        · rename_i size
          cases run
          exact .turned v old _ _ _ (.uploadReads payload carrying reading size.1 size.2)
            (.of_change found _ (by simp) rfl)
        · cases run
    | eof =>
        cases run
        exact .turned v old _ _ _ (.uploadEof carrying reading) (.of_change found _ (by simp) rfl)
    | error =>
        cases run
        exact .turned v old _ _ _ (.uploadFails carrying reading) (.of_giveUp found _ (by simp) rfl)
    | aborted =>
        simp only [Carrier.uploadTakes] at run
        split at run
        · rename_i abort
          cases run
          exact .turned v old _ _ _ (.uploadAborts carrying reading abort) (.of_change found _ (by simp) rfl)
        · cases run
  · cases run

/-- And when it has sent. -/
theorem kind_uploadSends {aborted : Bool} (h : s.step (.uploadSends v aborted) = some s') :
    StepKind s s' (.uploadSends v aborted) := by
  obtain ⟨old, found, carried, run⟩ := Carrier.onVisit_spec h
  split at run
  · rename_i payload sending
    unfold Carrier.uploadSends at run
    cases aborted with
    | true =>
        rw [if_pos rfl] at run
        split at run
        · rename_i abort
          cases run
          exact .turned v old _ _ _ (.uploadStops payload carried sending abort) (.of_change found _ (by simp) rfl)
        · cases run
    | false =>
        rw [if_neg (by simp)] at run
        split at run
        · rename_i after sent
          cases run
          have up : s.gone = false := by simpa using (Carrier.send_spec sent).1.symm
          exact .turned v old _ _ _ (.uploadSends payload carried sending up) (.of_send found _ (by simp) sent rfl)
        · rename_i after sent
          cases run
          have down : s.gone = true := by simpa using (Carrier.send_spec sent).1.symm
          exact .turned v old _ _ _ (.uploadCut payload carried sending down) (.of_send found _ (by simp) sent rfl)
        · cases run
  · cases run

/-- What a turn of `download` does when it takes something. -/
theorem kind_downloadTakes {aborted : Bool} (h : s.step (.downloadTakes v aborted) = some s') :
    StepKind s s' (.downloadTakes v aborted) := by
  obtain ⟨old, found, carried, run⟩ := Carrier.onVisit_spec h
  split at run
  · rename_i ready
    obtain ⟨carrying, receiving⟩ := ready
    unfold Carrier.downloadTakes at run
    cases aborted with
    | true =>
        rw [if_pos rfl] at run
        split at run
        · rename_i abort
          cases run
          exact .turned v old _ _ _ (.downloadAborts carrying receiving abort) (.of_change found _ (by simp) rfl)
        · cases run
    | false =>
        rw [if_neg (by simp)] at run
        split at run
        · rename_i payload rest next
          cases run
          exact .turned v old _ _ _ (.downloadTakes payload rest carrying receiving next)
            (.of_change found _ (by simp) rfl)
        · rename_i rest next
          cases run
          exact .turned v old _ _ _ (.downloadEnds rest carrying receiving (.inl next))
            (.of_change found _ (by simp) rfl)
        · rename_i bare
          split at run
          · rename_i closed
            cases run
            have same : ({ old with download := .shutting } : Visit) =
                { old with inbound := [], download := .shutting } := by
              rw [← bare]
            exact .turned v old _ _ _ (.downloadEnds [] carrying receiving (.inr ⟨bare, rfl, closed.1⟩))
              (.of_change found _ (by simp) same)
          · cases run
  · cases run

/-- And when it has written. -/
theorem kind_downloadWrites {wrote : Wrote} (h : s.step (.downloadWrites v wrote) = some s') :
    StepKind s s' (.downloadWrites v wrote) := by
  obtain ⟨old, found, carried, run⟩ := Carrier.onVisit_spec h
  split at run
  · rename_i payload writing
    cases wrote with
    | all =>
        cases run
        exact .turned v old _ _ _ (.downloadWrites payload carried writing) (.of_change found _ (by simp) rfl)
    | failed =>
        cases run
        exact .turned v old _ _ _ (.downloadFails payload carried writing) (.of_giveUp found _ (by simp) rfl)
    | aborted =>
        simp only [Carrier.downloadWrites] at run
        split at run
        · rename_i abort
          cases run
          exact .turned v old _ _ _ (.downloadStops payload carried writing abort) (.of_change found _ (by simp) rfl)
        · cases run
  · cases run

/-- The other events of a connection. -/
theorem kind_visit (v : Nat) (e : Event) (of : e = .refused v ∨ e = .opens v ∨ e = .greets v ∨ e = .uploadEnds v ∨
    e = .shutsDown v ∨ e = .idle v ∨ e = .over v) (h : s.step e = some s') : StepKind s s' e := by
  rcases of with rfl | rfl | rfl | rfl | rfl | rfl | rfl
  · obtain ⟨old, found, carried, run⟩ := Carrier.onVisit_spec h
    split at run
    · cases run
    · rename_i unopened
      cases run
      exact .turned v old _ _ _ (.refused carried (by simpa using unopened)) (.of_unmap found _ (by simp) rfl)
  · obtain ⟨old, found, carried, run⟩ := Carrier.onVisit_spec h
    split at run
    · cases run
    · rename_i unopened
      obtain ⟨sent, did, rfl⟩ := Option.map_eq_some_iff.mp run
      exact .turned v old _ _ _ (.opens carried (by simpa using unopened)) (.of_send found _ (by simp) did rfl)
  · obtain ⟨old, found, carried, run⟩ := Carrier.onVisit_spec h
    split at run
    · rename_i ready
      obtain ⟨sent, did, rfl⟩ := Option.map_eq_some_iff.mp run
      exact .turned v old _ _ _ (.greets carried ready.1 ready.2) (.of_send found _ (by simp) did rfl)
    · cases run
  · obtain ⟨old, found, carried, run⟩ := Carrier.onVisit_spec h
    split at run
    · rename_i ending
      obtain ⟨sent, did, rfl⟩ := Option.map_eq_some_iff.mp run
      exact .turned v old _ _ _ (.uploadEnds carried ending) (.of_send found _ (by simp) did rfl)
    · cases run
  · obtain ⟨old, found, carried, run⟩ := Carrier.onVisit_spec h
    split at run
    · rename_i shutting
      cases run
      exact .turned v old _ _ _ (.shutsDown carried shutting) (.of_change found _ (by simp) rfl)
    · cases run
  · obtain ⟨old, found, carried, run⟩ := Carrier.onVisit_spec h
    split at run
    · rename_i ready
      cases run
      exact .turned v old _ _ _ (.idle ready.1) (.of_giveUp found _ (by simp) rfl)
    · cases run
  · obtain ⟨old, found, carried, run⟩ := Carrier.onVisit_spec h
    split at run
    · rename_i ready
      cases run
      refine .turned v old _ _ _ (.over ready.1 ready.2.1 ready.2.2) ?_
      unfold Carrier.drop
      rw [Carrier.change_change]
      exact .of_unmap found _ (by simp) rfl
    · cases run

section Frames

variable (numbered : Numbered s)
include numbered

theorem Numbered.untabled {n : Nat} (unnamed : s.numbers n = none) : s.channels n = none := by
  cases tabled : s.channels n with
  | none => rfl
  | some v => exact absurd (unnamed.symm.trans (numbered.tabled n v tabled)) (by simp)

/-- What a frame of the client does. -/
theorem kind_frame {frame : ClientFrame} {fits : Bool} (up : s.closing = false)
    (after : (s.note frame).handle fits frame = s') : StepKind s s' (.frame frame fits) := by
  have nothing (same : s' = s) : StepKind s s' (.frame frame fits) :=
    .quiet (same ▸ ⟨rfl, rfl, rfl, rfl⟩) [] (by simp [same]) (fun down => same ▸ down) (same ▸ ⟨rfl, rfl⟩) (by simp)
  cases frame with
  | other => exact nothing after.symm
  | data conn payload =>
      simp only [Carrier.note, Carrier.handle] at after
      cases tabled : s.channels conn with
      | none =>
          rw [tabled] at after
          exact nothing after.symm
      | some v =>
          rw [tabled] at after
          obtain ⟨old, found, rfl⟩ := numbered.named _ _ (numbered.tabled _ _ tabled)
          subst after
          exact .turned v old _ _ _ (.data payload fits up tabled) (.of_change found _ (by simp) rfl)
  | end_ conn =>
      cases named : s.numbers conn with
      | none =>
          have untabled : s.channels conn = none := numbered.untabled named
          simp only [Carrier.note, named, Carrier.handle, untabled] at after
          exact nothing after.symm
      | some v =>
          obtain ⟨old, found, rfl⟩ := numbered.named _ _ named
          cases tabled : s.channels old.conn with
          | none =>
              have untabled : (s.change v fun visit => { visit with ended := true }).channels old.conn = none := tabled
              simp only [Carrier.note, named, Carrier.handle, untabled] at after
              subst after
              exact .turned v old _ _ _ (.endsLate fits up named tabled) (.of_change found _ (by simp) rfl)
          | some v' =>
              cases named.symm.trans (numbered.tabled _ _ tabled)
              have still : (s.change v fun visit => { visit with ended := true }).channels old.conn = some v := tabled
              simp only [Carrier.note, named, Carrier.handle, still] at after
              rw [Carrier.change_unmap_change] at after
              subst after
              exact .turned v old _ _ _ (.ends fits up tabled) (.of_unmap found _ (by simp) rfl)
  | reset conn =>
      cases named : s.numbers conn with
      | none =>
          have untabled : s.channels conn = none := numbered.untabled named
          simp only [Carrier.note, named, Carrier.handle, untabled] at after
          exact nothing after.symm
      | some v =>
          obtain ⟨old, found, rfl⟩ := numbered.named _ _ named
          cases tabled : s.channels old.conn with
          | none =>
              rw [Carrier.note_reset named, Carrier.handle_reset_late (s := s.change v Visit.asking) tabled] at after
              subst after
              exact .turned v old _ _ _ (.resetsLate fits up named tabled) (.of_change found _ (by simp) rfl)
          | some v' =>
              cases named.symm.trans (numbered.tabled _ _ tabled)
              rw [Carrier.note_reset named, Carrier.handle_reset (s := s.change v Visit.asking) tabled,
                Carrier.change_unmap_change] at after
              subst after
              exact .turned v old _ _ _ (.resets fits up tabled) (.of_unmap found _ (by simp) rfl)

end Frames

/-- What a reset for backpressure does. -/
theorem kind_resets (h : s.step .resets = some s') : StepKind s s' .resets := by
  simp only [Carrier.step] at h
  split at h
  · rename_i v rest listed free
    obtain ⟨old, found, rfl⟩ := Option.map_eq_some_iff.mp h
    refine .turned v old _ _ _ (.stalled rest listed free) ⟨found, ?_, ?_, rfl, rfl, ?_, rfl, .inr ⟨rfl, listed, rfl⟩⟩
    · intro v'
      by_cases same : v' = v
      · subst same
        simp [Carrier.change, Carrier.unmap, Carrier.fails, found, Visit.failing]
      · simp [Carrier.change, Carrier.unmap, Carrier.fails, same]
    · intro n
      simp [Carrier.change, Carrier.unmap, Carrier.fails]
    · simp [Carrier.change, Carrier.unmap, Carrier.fails]
  · cases h

/-- And when its message is queued. -/
theorem kind_resetSent (h : s.step .resetSent = some s') : StepKind s s' .resetSent := by
  simp only [Carrier.step] at h
  split at h
  · rename_i v sending
    obtain ⟨visit, found, sends⟩ := Option.bind_eq_some_iff.mp h
    obtain ⟨sent, did, rfl⟩ := Option.map_eq_some_iff.mp sends
    rw [(Carrier.send_spec did).2]
    exact .resetSent v visit rfl sending found ⟨rfl, rfl, rfl, rfl⟩ rfl rfl ⟨rfl, rfl⟩
  · cases h

/-- Every event is of one of these kinds. -/
theorem step_kind (numbered : Numbered s) {e : Event} (h : s.step e = some s') : StepKind s s' e := by
  cases e with
  | route conn initial =>
      simp only [Carrier.step, Carrier.route] at h
      split at h
      · rename_i free
        exact .routed conn initial rfl free.2.2 (Option.some.inj h).symm
      · cases h
  | refused v => exact kind_visit v _ (by simp) h
  | opens v => exact kind_visit v _ (by simp) h
  | greets v => exact kind_visit v _ (by simp) h
  | uploadTakes v taken => exact kind_uploadTakes h
  | uploadSends v aborted => exact kind_uploadSends h
  | uploadEnds v => exact kind_visit v _ (by simp) h
  | downloadTakes v aborted => exact kind_downloadTakes h
  | downloadWrites v wrote => exact kind_downloadWrites h
  | shutsDown v => exact kind_visit v _ (by simp) h
  | idle v => exact kind_visit v _ (by simp) h
  | «over» v => exact kind_visit v _ (by simp) h
  | frame frame fits =>
      simp only [Carrier.step] at h
      split at h
      · split at h
        · cases h
          exact .quiet ⟨rfl, rfl, rfl, rfl⟩ [] (by simp) (fun up => up) ⟨rfl, rfl⟩ (by simp)
        · rename_i up
          exact kind_frame numbered (by simpa using up) (Option.some.inj h)
      · cases h
  | stalls visits =>
      simp only [Carrier.step] at h
      split at h
      · rename_i ready
        refine .stalls visits rfl ⟨ready.1, ready.2.1⟩ ?_ (Option.some.inj h).symm
        intro v listed
        obtain ⟨visit, found, tabled⟩ := (Option.any_eq_true _ _).mp (ready.2.2 v listed)
        exact ⟨visit, found, tabled⟩
      · cases h
  | resets => exact kind_resets h
  | resetSent => exact kind_resetSent h
  | takes =>
      simp only [Carrier.step] at h
      split at h
      · cases h
        exact .quiet ⟨rfl, rfl, rfl, rfl⟩ [] (by simp) (fun up => up) ⟨rfl, rfl⟩ (by simp)
      · cases h
  | sends =>
      simp only [Carrier.step, Carrier.send] at h
      split at h
      · cases h
        exact .quiet ⟨rfl, rfl, rfl, rfl⟩ [] (by simp) (fun up => up) ⟨rfl, rfl⟩ (by simp)
      · split at h
        · cases h
          exact .quiet ⟨rfl, rfl, rfl, rfl⟩ _ rfl (fun up => up) ⟨rfl, rfl⟩ (by simp)
        · cases h
  | promises count =>
      simp only [Carrier.step] at h
      split at h
      · cases h
        exact .quiet ⟨rfl, rfl, rfl, rfl⟩ [] (by simp) (fun up => up) ⟨rfl, rfl⟩ (by simp)
      · cases h
  | close =>
      cases h
      exact .quiet ⟨rfl, rfl, rfl, rfl⟩ [] (by simp) (fun up => up) ⟨rfl, rfl⟩ (by simp)
  | writerEnds =>
      cases h
      exact .quiet ⟨rfl, rfl, rfl, rfl⟩ [] (by simp) (by simp) ⟨rfl, rfl⟩ (by simp)
  | finishChannels outcome => exact .finished outcome rfl (Option.some.inj h).symm

end Kinds

/-! ### The numbers -/

section Numbers

variable {s s' : Carrier} {e : Event} {v : Nat} {old new : Visit} {unmapped : Bool} {out : List Outbound}

namespace Visit

variable (visit : Visit) (outcome : Outcome) (abort : Bool)

@[simp] theorem conn_finish : (visit.finish outcome abort).conn = visit.conn := by
  unfold finish
  split <;> rfl

@[simp] theorem carried_finish : (visit.finish outcome abort).carried = visit.carried := by
  unfold finish
  split <;> rfl

@[simp] theorem ended_finish : (visit.finish outcome abort).ended = visit.ended := by
  unfold finish
  split <;> rfl

@[simp] theorem asked_finish : (visit.finish outcome abort).asked = visit.asked := by
  unfold finish
  split <;> rfl

@[simp] theorem came_finish : (visit.finish outcome abort).came = visit.came := by
  unfold finish
  split <;> rfl

@[simp] theorem uploads_finish : (visit.finish outcome abort).uploads = visit.uploads := by
  unfold finish
  split <;> rfl

@[simp] theorem opened_finish : (visit.finish outcome abort).opened = visit.opened := by
  unfold finish
  split <;> rfl

@[simp] theorem socket_finish : (visit.finish outcome abort).socket = visit.socket := by
  unfold finish
  split <;> rfl

@[simp] theorem failedAt_finish : (visit.finish outcome abort).failedAt = visit.failedAt := by
  unfold finish
  split <;> rfl

end Visit

theorem Visit.conn_asking (visit : Visit) : visit.asking.conn = visit.conn := by
  unfold Visit.asking
  split <;> rfl

/-- A connection keeps its number. -/
theorem Turn.conn (turn : Turn s v old e new unmapped out) : new.conn = old.conn := by
  cases turn with
  | data payload fits up tabled =>
      unfold Visit.receives
      split <;> rfl
  | _ => simp [Visit.conn_asking, Visit.dropped, Visit.failing]

theorem Turned.back (turned : Turned s s' e v old new unmapped out) {n v' : Nat} (now : s'.channels n = some v') :
    s.channels n = some v' := by
  rw [turned.channels] at now
  split at now
  · cases now
  · exact now

theorem Turned.visit (turned : Turned s s' e v old new unmapped out) (same : new.conn = old.conn) {v' : Nat}
    {visit : Visit} (found : s.visits v' = some visit) : ∃ visit', s'.visits v' = some visit' ∧
      visit'.conn = visit.conn := by
  rw [turned.visits]
  split
  · rename_i is
    rw [is, turned.found] at found
    cases found
    exact ⟨new, rfl, same⟩
  · exact ⟨visit, found, rfl⟩

theorem Quiet.numbered (quiet : Quiet s s') (numbered : Numbered s) : Numbered s' := by
  constructor
  · rw [quiet.channels, quiet.numbers]
    exact numbered.tabled
  · rw [quiet.visits, quiet.numbers]
    exact numbered.named
  · rw [quiet.visits, quiet.routed]
    exact numbered.fresh

/-- A turn of a connection keeps the numbers. -/
theorem Numbered.turned (numbered : Numbered s) (turn : Turn s v old e new unmapped out)
    (turned : Turned s s' e v old new unmapped out) : Numbered s' := by
  constructor
  · intro n v' now
    rw [turned.numbers]
    exact numbered.tabled n v' (turned.back now)
  · intro n v' named
    rw [turned.numbers] at named
    obtain ⟨visit, found, is⟩ := numbered.named n v' named
    obtain ⟨visit', found', same⟩ := turned.visit turn.conn found
    exact ⟨visit', found', same.trans is⟩
  · intro v' unused
    rw [turned.routed] at unused
    have missing := numbered.fresh v' unused
    rw [turned.visits, if_neg]
    · exact missing
    · rintro rfl
      exact absurd (missing.symm.trans turned.found) (by simp)

/-- A new connection gets a number that is free. -/
theorem Numbered.routed (numbered : Numbered s) (conn : Nat) (initial : Bytes) :
    Numbered { s with
      visits := fun v => if v = s.routed then some { conn := conn, hello := initial, came := initial } else s.visits v
      routed := s.routed + 1
      channels := fun n => if n = conn then some s.routed else s.channels n
      numbers := fun n => if n = conn then some s.routed else s.numbers n } := by
  constructor
  · intro n v tabled
    dsimp only at tabled ⊢
    split at tabled
    · rename_i is
      rw [if_pos is]
      exact tabled
    · rename_i other
      rw [if_neg other]
      exact numbered.tabled n v tabled
  · intro n v named
    dsimp only at named ⊢
    split at named
    · rename_i is
      cases named
      exact ⟨_, if_pos rfl, is.symm⟩
    · obtain ⟨visit, found, is⟩ := numbered.named n v named
      refine ⟨visit, ?_, is⟩
      rw [if_neg]
      · exact found
      · rintro rfl
        exact absurd ((numbered.fresh _ (Nat.le_refl _)).symm.trans found) (by simp)
  · intro v unused
    dsimp only at unused ⊢
    rw [if_neg (by omega)]
    exact numbered.fresh v (by omega)

theorem visits_finished {visit : Visit} (found : s.visits v = some visit) (outcome : Outcome) :
    (s.finishChannels outcome).visits v =
      some (if s.channels visit.conn = some v then visit.finish outcome true else visit) := by
  simp only [Carrier.finishChannels, found, Option.map_some]

/-- The end of the bridge keeps the numbers. -/
theorem Numbered.finished (numbered : Numbered s) (outcome : Outcome) : Numbered (s.finishChannels outcome) := by
  constructor
  · intro n v tabled
    cases tabled
  · intro n v named
    obtain ⟨visit, found, is⟩ := numbered.named n v named
    refine ⟨_, visits_finished found outcome, ?_⟩
    split
    · rw [Visit.conn_finish]
      exact is
    · exact is
  · intro v unused
    simp [Carrier.finishChannels, numbered.fresh v unused]

theorem Turn.carried (turn : Turn s v old e new unmapped out) (now : new.carried = true) : old.carried = true := by
  cases turn with
  | refused => cases now
  | «over» => cases now
  | data payload fits =>
      unfold Visit.receives at now
      split at now
      · exact now
      · exact now
  | resets fits => simpa [Visit.asking, apply_ite] using now
  | resetsLate fits => simpa [Visit.asking, apply_ite] using now
  | _ => simpa [Visit.failing] using now

/-- Every event keeps the numbers. -/
theorem Numbered.step (numbered : Numbered s) (h : s.step e = some s') : Numbered s' := by
  cases step_kind numbered h with
  | turned v old new unmapped out turn turned => exact numbered.turned turn turned
  | routed conn initial event free after => exact after ▸ numbered.routed conn initial
  | finished outcome event after => exact after ▸ numbered.finished outcome
  | stalls visits event free known after => exact after ▸ ⟨numbered.tabled, numbered.named, numbered.fresh⟩
  | resetSent v visit event sending found quiet queued gone reader => exact quiet.numbered numbered
  | quiet quiet extra queued gone reader => exact quiet.numbered numbered

/-- A bridge that just attached. -/
def Carrier.empty : Carrier := {}

theorem Numbered.empty : Numbered .empty := by
  constructor
  · intro n v tabled
    cases tabled
  · intro n v named
    cases named
  · intro v _
    rfl

end Numbers

end OpenTunnel.Relay
