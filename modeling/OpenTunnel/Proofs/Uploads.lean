/-
Module: OpenTunnel.Proofs.Uploads
Layer: Proofs
Purpose: The upload direction of a bridge, up to the outbound queue. What is queued for a connection is its `open`, then
  its bytes in their order, then at most one `end`, which comes after all of them; and as long as a number is given
  again only after its connection gave its slot back, every message stands behind the `open` of its own connection and
  no other one of that number in between.
Imports: OpenTunnel.Proofs.Relay, OpenTunnel.Model.Channels
Trusted boundary: none (fully proved)
Main exports: Channels.itemsOf, Channels.bytesOf, Channels.lastOpen, Relay.Progress, Turn.progress,
  Channels.Uploading, Channels.Ordered, Ordered.step
Open obligations: none
-/
import OpenTunnel.Proofs.Relay
import OpenTunnel.Model.Channels

namespace OpenTunnel

open Tasks

namespace Channels

open Relay (Outbound Carrier)

/-! ### What is queued for a connection -/

/-- The data and the end that a message brings. -/
def itemOf : Outbound → Option Inbound
  | .data _ payload => some (.data payload)
  | .end_ _ => some .end_
  | _ => none

/-- The data and the end that a queue has for a connection. -/
def itemsOf (v : Nat) (queue : List (Option Nat × Outbound)) : List Inbound :=
  queue.filterMap fun message => if message.1 = some v then itemOf message.2 else none

def Inbound.bytes : Inbound → Bytes
  | .data payload => payload
  | .end_ => []

def bytesOf (items : List Inbound) : Bytes := items.flatMap Inbound.bytes

/-- Whom the last `open` of a number was for. -/
def lastOpen (n : Nat) (queue : List (Option Nat × Outbound)) : Option (Option Nat) :=
  queue.foldl (fun last message => if message.2 = .open_ n then some message.1 else last) none

section Queues

variable {v n : Nat} {queue rest : List (Option Nat × Outbound)} {message : Option Nat × Outbound}
  {items more : List Inbound}

@[simp] theorem itemsOf_nil : itemsOf v [] = [] := rfl

@[simp] theorem itemsOf_append : itemsOf v (queue ++ rest) = itemsOf v queue ++ itemsOf v rest := List.filterMap_append

theorem itemsOf_cons : itemsOf v (message :: rest) =
    (if message.1 = some v then (itemOf message.2).toList else []) ++ itemsOf v rest := by
  unfold itemsOf
  rw [List.filterMap_cons]
  split
  · rename_i none
    split at none
    · rw [if_pos (by assumption), none]
      rfl
    · rw [if_neg (by assumption)]
      rfl
  · rename_i item is
    split at is
    · rw [if_pos (by assumption), is]
      rfl
    · cases is

theorem itemsOf_one : itemsOf v [message] = if message.1 = some v then (itemOf message.2).toList else [] := by
  rw [itemsOf_cons, itemsOf_nil, List.append_nil]

@[simp] theorem bytesOf_nil : bytesOf [] = [] := rfl

@[simp] theorem bytesOf_append : bytesOf (items ++ more) = bytesOf items ++ bytesOf more := List.flatMap_append

@[simp] theorem bytesOf_one (item : Inbound) : bytesOf [item] = item.bytes := by
  simp [bytesOf]

theorem lastOpen_append_one : lastOpen n (queue ++ [message]) =
    if message.2 = .open_ n then some message.1 else lastOpen n queue := by
  simp [lastOpen]

theorem lastOpen_append_other (other : ∀ message ∈ rest, message.2 ≠ .open_ n) :
    lastOpen n (queue ++ rest) = lastOpen n queue := by
  induction rest generalizing queue with
  | nil => rw [List.append_nil]
  | cons message rest ih =>
      have split : queue ++ message :: rest = (queue ++ [message]) ++ rest := by simp
      rw [split, ih fun m listed => other m (List.mem_cons_of_mem _ listed), lastOpen_append_one,
        if_neg (other message List.mem_cons_self)]

theorem lastOpen_from {last : Option (Option Nat)} {tag : Option Nat} (is : queue.foldl
    (fun last message => if message.2 = .open_ n then some message.1 else last) last = some tag) :
    last = some tag ∨ (tag, Outbound.open_ n) ∈ queue := by
  induction queue generalizing last with
  | nil => exact .inl is
  | cons message rest ih =>
      rw [List.foldl_cons] at is
      rcases ih is with now | later
      · split at now
        · rename_i opens
          cases now
          exact .inr (opens ▸ List.mem_cons_self)
        · exact .inl now
      · exact .inr (List.mem_cons_of_mem _ later)

/-- The last `open` of a number is on the queue. -/
theorem lastOpen_mem {tag : Option Nat} (is : lastOpen n queue = some tag) : (tag, Outbound.open_ n) ∈ queue :=
  (lastOpen_from is).resolve_left (by simp)

end Queues

end Channels

/-! ### One connection -/

namespace Relay

/-- What a turn does to the upload of its connection, with what it puts on the queue. -/
inductive Progress (s : Carrier) (old new : Visit) : List Outbound → Prop where
  | opens (carried : old.carried = true) (unopened : old.opened = false) (opened : new.opened = true)
      (hello : new.hello = old.hello) (came : new.came = old.came) (upload : new.upload = old.upload) :
      Progress s old new (s.posted (.open_ old.conn))
  | greets (carried : old.carried = true) (opened : old.opened = true) (still : new.opened = true)
      (left : old.hello ≠ []) (hello : new.hello = old.hello.drop maxPayload) (came : new.came = old.came)
      (upload : new.upload = old.upload) :
      Progress s old new (s.posted (.data old.conn (old.hello.take maxPayload)))
  | reads (payload : Bytes) (carrying : old.carrying = true) (reading : old.upload = .reading)
      (opened : new.opened = old.opened) (hello : new.hello = old.hello) (came : new.came = old.came ++ payload)
      (upload : new.upload = .sending payload) : Progress s old new []
  | sends (payload : Bytes) (carried : old.carried = true) (sending : old.upload = .sending payload)
      (opened : new.opened = old.opened) (hello : new.hello = old.hello) (came : new.came = old.came)
      (upload : new.upload = .reading) : Progress s old new (s.posted (.data old.conn payload))
  | ending (carrying : old.carrying = true) (reading : old.upload = .reading) (opened : new.opened = old.opened)
      (hello : new.hello = old.hello) (came : new.came = old.came) (upload : new.upload = .ending) :
      Progress s old new []
  | ends (carried : old.carried = true) (ending : old.upload = .ending) (opened : new.opened = old.opened)
      (hello : new.hello = old.hello) (came : new.came = old.came) (upload : new.upload = .returned) :
      Progress s old new (s.posted (.end_ old.conn))
  | silent (out : List Outbound) (opened : new.opened = old.opened) (hello : new.hello = old.hello)
      (came : new.came = old.came)
      (upload : new.upload = old.upload ∨
        new.upload = .returned ∧ (old.carrying = true ∨ old.upload ≠ .reading))
      (resets : ∀ message ∈ out, message = .reset old.conn) : Progress s old new out

section Turns

variable {s : Carrier} {v : Nat} {old new : Visit} {e : Event} {unmapped : Bool} {out : List Outbound}

@[simp] theorem Visit.hello_finish (visit : Visit) (outcome : Download.Outcome) (abort : Bool) :
    (visit.finish outcome abort).hello = visit.hello := by
  unfold Visit.finish
  split <;> rfl

@[simp] theorem Visit.upload_finish (visit : Visit) (outcome : Download.Outcome) (abort : Bool) :
    (visit.finish outcome abort).upload = visit.upload := by
  unfold Visit.finish
  split <;> rfl

theorem Visit.carrying_iff {visit : Visit} :
    visit.carrying = true ↔ visit.carried = true ∧ visit.opened = true ∧ visit.hello = [] := by
  simp [Visit.carrying, and_assoc]

theorem Carrier.tried_resets {conn : Nat} : ∀ message ∈ s.tried (.reset conn), message = .reset conn := by
  intro message listed
  unfold Carrier.tried at listed
  split at listed
  · cases listed
  · exact List.mem_singleton.mp listed

theorem Turn.progress (turn : Turn s v old e new unmapped out) : Progress s old new out := by
  cases turn with
  | refused carried unopened => exact .silent [] rfl rfl rfl (.inl rfl) (by simp)
  | opens carried unopened => exact .opens carried unopened rfl rfl rfl rfl
  | greets carried opened left => exact .greets carried opened opened left rfl rfl rfl
  | uploadReads payload carrying reading some_ fits => exact .reads payload carrying reading rfl rfl rfl rfl
  | uploadEof carrying reading => exact .ending carrying reading rfl rfl rfl rfl
  | uploadFails carrying reading =>
      exact .silent _ (by simp [Visit.failing]) (by simp [Visit.failing]) (by simp [Visit.failing])
        (.inr ⟨rfl, .inl carrying⟩) s.tried_resets
  | uploadAborts carrying reading abort =>
      exact .silent [] rfl rfl rfl (.inr ⟨rfl, .inl carrying⟩) (by simp)
  | uploadSends payload carried sending up => exact .sends payload carried sending rfl rfl rfl rfl
  | uploadCut payload carried sending down =>
      refine .silent _ (by simp) (by simp) (by simp) (.inr ⟨rfl, .inr (by simp [sending])⟩) ?_
      simp [Carrier.posted, down]
  | uploadStops payload carried sending abort =>
      exact .silent [] rfl rfl rfl (.inr ⟨rfl, .inr (by simp [sending])⟩) (by simp)
  | uploadEnds carried ending => exact .ends carried ending rfl rfl rfl rfl
  | idle carrying =>
      exact .silent _ (by simp [Visit.failing]) (by simp [Visit.failing]) (by simp [Visit.failing])
        (.inr ⟨rfl, .inl carrying⟩) s.tried_resets
  | downloadFails payload carried writing =>
      exact .silent _ (by simp [Visit.failing]) (by simp [Visit.failing]) (by simp [Visit.failing])
        (.inl (by simp [Visit.failing])) s.tried_resets
  | data payload fits up tabled =>
      unfold Visit.receives
      split
      · exact .silent [] rfl rfl rfl (.inl rfl) (by simp)
      · exact .silent [] rfl rfl rfl (.inl rfl) (by simp)
  | resets fits up tabled =>
      refine .silent [] ?_ ?_ ?_ (.inl ?_) (by simp) <;> simp [Visit.asking, apply_ite]
  | resetsLate fits up named untabled =>
      refine .silent [] ?_ ?_ ?_ (.inl ?_) (by simp) <;> simp [Visit.asking, apply_ite]
  | stalled rest listed free =>
      refine .silent [] ?_ ?_ ?_ (.inl ?_) (by simp) <;> simp [Visit.failing]
  | «over» carrying uploaded downloaded =>
      refine .silent [] ?_ ?_ ?_ (.inl ?_) (by simp) <;> simp [Visit.dropped]
  | _ => refine .silent [] ?_ ?_ ?_ (.inl ?_) (by simp) <;> simp

end Turns

end Relay

namespace Channels

open Relay (Outbound Carrier Visit Turn Turned Quiet Numbered Progress StepKind)

/-! ### Each connection's upload -/

/-- What was taken from the visitor and is not on the queue yet. -/
def unsent (visit : Visit) : Bytes :=
  visit.hello ++ match visit.upload with
    | .sending payload => payload
    | _ => []

/-- How far the upload of a connection is, by what the queue has for it. -/
structure Uploading (items : List Inbound) (up : Bool) (visit : Visit) : Prop where
  unopened : visit.opened = false → items = [] ∧ visit.upload = .reading
  waits : visit.hello ≠ [] → visit.upload = .reading
  sent : up = true → visit.upload ≠ .returned → bytesOf items ++ unsent visit = visit.came
  came : bytesOf items <+: visit.came
  ended : .end_ ∈ items → visit.upload = .returned ∧ bytesOf items = visit.came ∧
    ∃ data, items = data ++ [.end_] ∧ .end_ ∉ data

namespace Uploading

variable {s : Carrier} {old new : Visit} {items : List Inbound} {up : Bool} {out : List Outbound}

theorem down (uploading : Uploading items up old) : Uploading items false old :=
  { uploading with sent := by simp }

/-- Only an opened connection is past its first read. -/
theorem opened_of (uploading : Uploading items up old) (busy : old.upload ≠ .reading) : old.opened = true := by
  cases is : old.opened with
  | true => rfl
  | false => exact absurd (uploading.unopened is).2 busy

/-- Past its first read, the ClientHello was sent. -/
theorem greeted_of (uploading : Uploading items up old) (busy : old.upload ≠ .reading) : old.hello = [] :=
  Classical.byContradiction fun left => busy (uploading.waits left)

theorem start (conn : Nat) (initial : Bytes) : Uploading [] up { conn := conn, hello := initial, came := initial } where
  unopened := fun _ => ⟨rfl, rfl⟩
  waits := fun _ => rfl
  sent := fun _ _ => by simp [unsent]
  came := by simp
  ended := by simp

/-- A piece of what was not sent goes on the queue. -/
theorem piece (uploading : Uploading items true old) {payload : Bytes} (opened : old.opened = true)
    (busy : old.upload ≠ .returned) (parts : unsent old = payload ++ unsent new) (still : new.opened = old.opened)
    (came : new.came = old.came) (waits : new.hello ≠ [] → new.upload = .reading) :
    Uploading (items ++ [.data payload]) true new := by
  have sum : bytesOf (items ++ [.data payload]) ++ unsent new = new.came := by
    have before := uploading.sent rfl busy
    rw [parts] at before
    rw [came, ← before]
    simp [Inbound.bytes]
  constructor
  · intro unopened
    rw [still, opened] at unopened
    cases unopened
  · exact waits
  · exact fun _ _ => sum
  · exact ⟨_, sum⟩
  · intro ended
    have earlier : Inbound.end_ ∈ items := by simpa using ended
    exact absurd (uploading.ended earlier).1 busy

/-- Nothing of it goes on the queue. -/
theorem kept (uploading : Uploading items up old) (opened : new.opened = old.opened) (hello : new.hello = old.hello)
    (came : new.came = old.came)
    (upload : new.upload = old.upload ∨ new.upload = .returned ∧ (old.carrying = true ∨ old.upload ≠ .reading)) :
    Uploading items up new := by
  constructor
  · intro unopened
    rw [opened] at unopened
    rcases upload with same | ⟨-, carrying | busy⟩
    · rw [same]
      exact uploading.unopened unopened
    · exact absurd ((Relay.Visit.carrying_iff.mp carrying).2.1.symm.trans unopened) (by simp)
    · exact absurd ((uploading.opened_of busy).symm.trans unopened) (by simp)
  · intro left
    rw [hello] at left
    rcases upload with same | ⟨-, carrying | busy⟩
    · rw [same]
      exact uploading.waits left
    · exact absurd (Relay.Visit.carrying_iff.mp carrying).2.2 left
    · exact absurd (uploading.waits left) busy
  · intro isUp busy
    rcases upload with same | ⟨returned, -⟩
    · have parts : unsent new = unsent old := by
        unfold unsent
        rw [hello, same]
      rw [parts, came]
      exact uploading.sent isUp (same ▸ busy)
    · exact absurd returned busy
  · rw [came]
    exact uploading.came
  · intro ended
    obtain ⟨returned, all, last⟩ := uploading.ended ended
    rw [came]
    refine ⟨?_, all, last⟩
    rcases upload with same | ⟨is, -⟩
    · exact same.trans returned
    · exact is

/-- More is taken from the visitor. -/
theorem reads (uploading : Uploading items up old) {payload : Bytes} (carrying : old.carrying = true)
    (reading : old.upload = .reading) (opened : new.opened = old.opened) (hello : new.hello = old.hello)
    (came : new.came = old.came ++ payload) (upload : new.upload = .sending payload) : Uploading items up new := by
  obtain ⟨-, isOpened, greeted⟩ := Relay.Visit.carrying_iff.mp carrying
  constructor
  · intro unopened
    rw [opened, isOpened] at unopened
    cases unopened
  · intro left
    exact absurd (hello.trans greeted) left
  · intro isUp _
    have before := uploading.sent isUp (by simp [reading])
    rw [came, ← before]
    simp [unsent, hello, greeted, reading, upload]
  · rw [came]
    exact uploading.came.trans (List.prefix_append _ _)
  · intro ended
    exact absurd ((uploading.ended ended).1.symm.trans reading) (by simp)

/-- The visitor sent all. -/
theorem ending (uploading : Uploading items up old) (carrying : old.carrying = true) (reading : old.upload = .reading)
    (opened : new.opened = old.opened) (hello : new.hello = old.hello) (came : new.came = old.came)
    (upload : new.upload = .ending) : Uploading items up new := by
  obtain ⟨-, isOpened, greeted⟩ := Relay.Visit.carrying_iff.mp carrying
  constructor
  · intro unopened
    rw [opened, isOpened] at unopened
    cases unopened
  · intro left
    exact absurd (hello.trans greeted) left
  · intro isUp _
    have before := uploading.sent isUp (by simp [reading])
    rw [came, ← before]
    simp [unsent, hello, greeted, reading, upload]
  · rw [came]
    exact uploading.came
  · intro ended
    exact absurd ((uploading.ended ended).1.symm.trans reading) (by simp)

/-- The `end` goes on the queue. -/
theorem ends (uploading : Uploading items true old) (ending : old.upload = .ending) (opened : new.opened = old.opened)
    (hello : new.hello = old.hello) (came : new.came = old.came) (upload : new.upload = .returned) :
    Uploading (items ++ [.end_]) true new := by
  have greeted : old.hello = [] := uploading.greeted_of (by simp [ending])
  have all : bytesOf (items ++ [.end_]) = new.came := by
    have before := uploading.sent rfl (by simp [ending])
    rw [came, ← before]
    simp [unsent, greeted, ending, Inbound.bytes]
  constructor
  · intro unopened
    rw [opened, uploading.opened_of (by simp [ending])] at unopened
    cases unopened
  · intro left
    exact absurd (hello.trans greeted) left
  · intro _ busy
    exact absurd upload busy
  · rewrite [all]
    exact List.prefix_refl _
  · intro _
    refine ⟨upload, all, items, rfl, ?_⟩
    intro earlier
    exact absurd ((uploading.ended earlier).1.symm.trans ending) (by simp)

/-- The `open` goes on the queue, or nobody reads it any more. -/
theorem opening (uploading : Uploading items up old) (opened : new.opened = true) (hello : new.hello = old.hello)
    (came : new.came = old.came) (upload : new.upload = old.upload) : Uploading items up new := by
  constructor
  · intro unopened
    rw [opened] at unopened
    cases unopened
  · rw [hello, upload]
    exact uploading.waits
  · unfold unsent
    rw [hello, upload, came]
    exact uploading.sent
  · rw [came]
    exact uploading.came
  · rw [upload, came]
    exact uploading.ended

/-- A piece of it goes on the queue, or nobody reads it any more. -/
theorem posts (uploading : Uploading items (!s.gone) old) {payload : Bytes} (conn : Nat) (opened : old.opened = true)
    (busy : old.upload ≠ .returned) (parts : unsent old = payload ++ unsent new) (still : new.opened = old.opened)
    (came : new.came = old.came) (waits : new.hello ≠ [] → new.upload = .reading) :
    Uploading (items ++ (s.posted (.data conn payload)).filterMap itemOf) (!s.gone) new := by
  cases gone : s.gone with
  | false =>
      have queued : s.posted (.data conn payload) = [.data conn payload] := by simp [Carrier.posted, gone]
      rw [queued]
      rw [gone] at uploading
      exact uploading.piece opened busy parts still came waits
  | true =>
      have dropped : s.posted (.data conn payload) = [] := by simp [Carrier.posted, gone]
      rw [dropped, List.filterMap_nil, List.append_nil]
      refine ⟨?_, waits, by simp, ?_, ?_⟩
      · intro unopened
        exact absurd ((still.trans opened).symm.trans unopened) (by simp)
      · rw [came]
        exact uploading.came
      · intro ended
        exact absurd (uploading.ended ended).1 busy

theorem turned (uploading : Uploading items (!s.gone) old) (progress : Progress s old new out) :
    Uploading (items ++ out.filterMap itemOf) (!s.gone) new := by
  cases progress with
  | opens carried unopened opened hello came upload =>
      have none : (s.posted (.open_ old.conn)).filterMap itemOf = [] := by
        unfold Carrier.posted
        split <;> rfl
      rw [none, List.append_nil]
      exact uploading.opening opened hello came upload
  | greets carried opened still left hello came upload =>
      have reading := uploading.waits left
      refine uploading.posts old.conn opened (by simp [reading]) ?_ (still.trans opened.symm) came ?_
      · simp [unsent, reading, upload, hello]
      · exact fun _ => upload.trans reading
  | reads payload carrying reading opened hello came upload =>
      rw [List.filterMap_nil, List.append_nil]
      exact uploading.reads carrying reading opened hello came upload
  | sends payload carried sending opened hello came upload =>
      have greeted : old.hello = [] := uploading.greeted_of (by simp [sending])
      refine uploading.posts old.conn (uploading.opened_of (by simp [sending])) (by simp [sending]) ?_ opened came ?_
      · simp [unsent, sending, upload, hello, greeted]
      · exact fun _ => upload
  | ending carrying reading opened hello came upload =>
      rw [List.filterMap_nil, List.append_nil]
      exact uploading.ending carrying reading opened hello came upload
  | ends carried ending opened hello came upload =>
      cases gone : s.gone with
      | false =>
          have queued : s.posted (.end_ old.conn) = [.end_ old.conn] := by simp [Carrier.posted, gone]
          rw [queued]
          rw [gone] at uploading
          exact uploading.ends ending opened hello came upload
      | true =>
          have dropped : s.posted (.end_ old.conn) = [] := by simp [Carrier.posted, gone]
          rw [dropped, List.filterMap_nil, List.append_nil]
          rw [gone] at uploading
          exact uploading.kept opened hello came (.inr ⟨upload, .inr (by simp [ending])⟩)
  | silent out opened hello came upload resets =>
      have none : out.filterMap itemOf = [] := List.filterMap_eq_nil_iff.mpr fun message listed => by
        rw [resets message listed]
        rfl
      rw [none, List.append_nil]
      exact uploading.kept opened hello came upload

end Uploading

/-! ### The queue -/

/-- The connection has the number. -/
def Owns (s : Carrier) (v n : Nat) : Prop := ∃ visit, s.visits v = some visit ∧ visit.conn = n

/-- A message in its place: an `open` before everything else of its connection, data and the end behind the `open` of
    their connection and no later one of the number. -/
def Placed (s : Carrier) (before : List (Option Nat × Outbound)) : Option Nat × Outbound → Prop
  | (tag, .open_ n) => ∃ v, tag = some v ∧ Owns s v n ∧ itemsOf v before = []
  | (tag, .data n _) | (tag, .end_ n) => ∃ v, tag = some v ∧ Owns s v n ∧ lastOpen n before = some (some v)
  | (_, .reset _) | (_, .other) => True

/-- What the queue holds, for every connection and message of it. -/
structure Ordered (s : Carrier) : Prop where
  numbered : Numbered s
  uploads : ∀ v visit, s.visits v = some visit → Uploading (itemsOf v s.queued) (!s.gone) visit
  placed : ∀ k message, s.queued[k]? = some message → Placed s (s.queued.take k) message
  apart : ∀ v w visit visit', s.visits v = some visit → s.visits w = some visit' → visit.carried = true →
    visit'.carried = true → visit.conn = visit'.conn → v = w
  newest : s.gone = false → ∀ v visit, s.visits v = some visit → visit.carried = true → visit.opened = true →
    lastOpen visit.conn s.queued = some (some v)

/-- A number is given only once its last connection gave its slot back. -/
def Spared (s : Carrier) (conn : Nat) : Prop :=
  ∀ v visit, s.visits v = some visit → visit.conn = conn → visit.carried = false

section Queue

variable {s s' : Carrier} {e : Relay.Event} {v : Nat} {old new : Visit} {unmapped : Bool} {out : List Outbound}

theorem Owns.turned {w n : Nat} (owns : Owns s w n) (same : new.conn = old.conn)
    (turned : Turned s s' e v old new unmapped out) : Owns s' w n := by
  obtain ⟨visit, found, is⟩ := owns
  obtain ⟨visit', found', kept⟩ := turned.visit same found
  exact ⟨visit', found', kept.trans is⟩

theorem Placed.mono {before : List (Option Nat × Outbound)} {message : Option Nat × Outbound}
    (placed : Placed s before message) (kept : ∀ v n, Owns s v n → Owns s' v n) : Placed s' before message := by
  obtain ⟨tag, m⟩ := message
  cases m with
  | open_ n =>
      obtain ⟨v, is, owns, first⟩ := placed
      exact ⟨v, is, kept v n owns, first⟩
  | data n payload =>
      obtain ⟨v, is, owns, last⟩ := placed
      exact ⟨v, is, kept v n owns, last⟩
  | end_ n =>
      obtain ⟨v, is, owns, last⟩ := placed
      exact ⟨v, is, kept v n owns, last⟩
  | reset n => trivial
  | other => trivial

/-- Messages are put at the end of the queue, one at most if its place matters. -/
theorem placed_append {queue extra : List (Option Nat × Outbound)}
    (placed : ∀ k message, queue[k]? = some message → Placed s (queue.take k) message)
    (more : ∀ k message, extra[k]? = some message → Placed s (queue ++ extra.take k) message) :
    ∀ k message, (queue ++ extra)[k]? = some message → Placed s ((queue ++ extra).take k) message := by
  intro k message is
  rcases Nat.lt_or_ge k queue.length with old | new
  · rw [List.getElem?_append_left old] at is
    rw [List.take_append_of_le_length (by omega)]
    exact placed k message is
  · rw [List.getElem?_append_right new] at is
    rw [List.take_append, List.take_of_length_le new]
    exact more _ message is

theorem posted_get {message : Outbound} {k : Nat} {tagged : Option Nat × Outbound}
    (is : ((s.posted message).map fun message => (some v, message))[k]? = some tagged) :
    k = 0 ∧ tagged = (some v, message) ∧ s.gone = false := by
  unfold Carrier.posted at is
  split at is
  · simp at is
  · rename_i up
    cases k with
    | zero => exact ⟨rfl, (Option.some.inj is).symm, by simpa using up⟩
    | succ k => simp at is

theorem itemsOf_tagged (w : Nat) : itemsOf w (out.map fun message => (some v, message)) =
    if w = v then out.filterMap itemOf else [] := by
  induction out with
  | nil => simp
  | cons message rest ih =>
      rw [List.map_cons, itemsOf_cons, ih]
      by_cases same : w = v
      · rw [if_pos same, if_pos (congrArg some same.symm), if_pos same, List.filterMap_cons]
        cases itemOf message <;> rfl
      · rw [if_neg same, if_neg (fun is => same (Option.some.inj is).symm), if_neg same]
        rfl

namespace Ordered

/-- What a turn puts on the queue is in its place. -/
theorem said (ordered : Ordered s) (found : s.visits v = some old) (progress : Progress s old new out) :
    ∀ k message, (out.map fun message => (some v, message))[k]? = some message →
      Placed s (s.queued ++ (out.map fun message => (some v, message)).take k) message := by
  have owns : Owns s v old.conn := ⟨old, found, rfl⟩
  intro k message is
  cases progress with
  | opens carried unopened opened hello came upload =>
      obtain ⟨rfl, rfl, up⟩ := posted_get is
      rw [List.take_zero, List.append_nil]
      exact ⟨v, rfl, owns, ((ordered.uploads v old found).unopened unopened).1⟩
  | greets carried opened still left hello came upload =>
      obtain ⟨rfl, rfl, up⟩ := posted_get is
      rw [List.take_zero, List.append_nil]
      exact ⟨v, rfl, owns, ordered.newest up v old found carried opened⟩
  | sends payload carried sending opened hello came upload =>
      obtain ⟨rfl, rfl, up⟩ := posted_get is
      rw [List.take_zero, List.append_nil]
      have isOpened := (ordered.uploads v old found).opened_of (by simp [sending])
      exact ⟨v, rfl, owns, ordered.newest up v old found carried isOpened⟩
  | ends carried ending opened hello came upload =>
      obtain ⟨rfl, rfl, up⟩ := posted_get is
      rw [List.take_zero, List.append_nil]
      have isOpened := (ordered.uploads v old found).opened_of (by simp [ending])
      exact ⟨v, rfl, owns, ordered.newest up v old found carried isOpened⟩
  | silent out opened hello came upload resets =>
      have listed := List.mem_of_getElem? is
      obtain ⟨m, inside, rfl⟩ := List.mem_map.mp listed
      rw [resets m inside]
      trivial
  | reads => simp at is
  | ending => simp at is

/-- Only an `open` changes whom a number was last opened for. -/
theorem lastOpen_said (up : s.gone = false) (progress : Progress s old new out) (n : Nat) :
    lastOpen n (s.queued ++ out.map fun message => (some v, message)) =
      if old.opened = false ∧ new.opened = true ∧ n = old.conn then some (some v) else lastOpen n s.queued := by
  have same (opened : new.opened = old.opened) (others : ∀ message ∈ out, message ≠ .open_ n) :
      lastOpen n (s.queued ++ out.map fun message => (some v, message)) =
        if old.opened = false ∧ new.opened = true ∧ n = old.conn then some (some v) else lastOpen n s.queued := by
    rw [opened, if_neg (by simp +contextual)]
    refine lastOpen_append_other fun message listed => ?_
    obtain ⟨m, inside, rfl⟩ := List.mem_map.mp listed
    exact others m inside
  have posted {message : Outbound} (other : message ≠ .open_ n) : ∀ m ∈ s.posted message, m ≠ .open_ n := by
    intro m listed
    unfold Carrier.posted at listed
    split at listed
    · cases listed
    · rw [List.mem_singleton.mp listed]
      exact other
  cases progress with
  | opens carried unopened opened hello came upload =>
      have queued : s.posted (.open_ old.conn) = [.open_ old.conn] := by simp [Carrier.posted, up]
      rw [queued, List.map_cons, List.map_nil, lastOpen_append_one]
      by_cases is : n = old.conn
      · rw [if_pos (by rw [is]), if_pos ⟨unopened, opened, is⟩]
      · rw [if_neg (by simpa using fun same => is same.symm), if_neg (fun all => is all.2.2)]
  | greets carried opened still left hello came upload =>
      exact same (still.trans opened.symm) (posted (by simp))
  | reads payload carrying reading opened hello came upload => exact same opened (by simp)
  | sends payload carried sending opened hello came upload => exact same opened (posted (by simp))
  | ending carrying reading opened hello came upload => exact same opened (by simp)
  | ends carried ending opened hello came upload => exact same opened (posted (by simp))
  | silent out opened hello came upload resets =>
      refine same opened fun message listed => ?_
      rw [resets message listed]
      simp

theorem turned (ordered : Ordered s) (turn : Turn s v old e new unmapped out)
    (turned : Turned s s' e v old new unmapped out) : Ordered s' := by
  have progress := turn.progress
  refine ⟨ordered.numbered.turned turn turned, ?_, ?_, ?_, ?_⟩
  · intro w visit found
    rw [turned.visits] at found
    rw [turned.queued, itemsOf_append, itemsOf_tagged, turned.gone]
    split at found
    · rename_i same
      cases found
      rw [if_pos same]
      subst same
      exact (ordered.uploads w old turned.found).turned progress
    · rename_i other
      rw [if_neg other, List.append_nil]
      exact ordered.uploads w visit found
  · rw [turned.queued]
    refine placed_append ?_ ?_
    · intro k message is
      exact (ordered.placed k message is).mono fun _ _ owns => owns.turned turn.conn turned
    · intro k message is
      exact (ordered.said turned.found progress k message is).mono fun _ _ owns => owns.turned turn.conn turned
  · intro w w' visit visit' found found' carried carried' same
    have before {w : Nat} {visit : Visit} (found : s'.visits w = some visit) (carried : visit.carried = true) :
        ∃ earlier, s.visits w = some earlier ∧ earlier.carried = true ∧ earlier.conn = visit.conn := by
      rw [turned.visits] at found
      split at found
      · rename_i is
        cases found
        exact ⟨old, is ▸ turned.found, turn.carried carried, turn.conn.symm⟩
      · exact ⟨visit, found, carried, rfl⟩
    obtain ⟨earlier, was, held, conn⟩ := before found carried
    obtain ⟨earlier', was', held', conn'⟩ := before found' carried'
    exact ordered.apart w w' earlier earlier' was was' held held' (conn.trans (same.trans conn'.symm))
  · intro up w visit found carried opened
    rw [turned.gone] at up
    rw [turned.queued, lastOpen_said up progress]
    rw [turned.visits] at found
    split at found
    · rename_i is
      cases found
      subst is
      cases was : old.opened with
      | false => rw [if_pos ⟨rfl, opened, turn.conn⟩]
      | true =>
          rw [if_neg (by simp), turn.conn]
          exact ordered.newest up w old turned.found (turn.carried carried) was
    · rename_i other
      rw [if_neg]
      · exact ordered.newest up w visit found carried opened
      · rintro ⟨unopened, opens, same⟩
        have held : old.carried = true := by
          cases progress with
          | opens carried => exact carried
          | greets carried => exact carried
          | reads payload carrying => exact (Relay.Visit.carrying_iff.mp carrying).1
          | sends payload carried => exact carried
          | ending carrying => exact (Relay.Visit.carrying_iff.mp carrying).1
          | ends carried => exact carried
          | silent out still =>
              exact absurd ((still.trans unopened).symm.trans opens) (by simp)
        exact other (ordered.apart w v visit old found turned.found carried held same)

theorem kept (ordered : Ordered s) (numbered : Numbered s') (visits : s'.visits = s.visits)
    (gone : s'.gone = false → s.gone = false) {extra : List (Option Nat × Outbound)}
    (queued : s'.queued = s.queued ++ extra)
    (others : ∀ message ∈ extra, message.2 = .other ∨ ∃ n, message.2 = .reset n) : Ordered s' := by
  have owns (v n : Nat) (owns : Owns s v n) : Owns s' v n := by
    unfold Owns
    rw [visits]
    exact owns
  have items (v : Nat) : itemsOf v s'.queued = itemsOf v s.queued := by
    have none : itemsOf v extra = [] := List.filterMap_eq_nil_iff.mpr fun message listed => by
      rcases others message listed with is | ⟨n, is⟩
      · rw [is]
        split <;> rfl
      · rw [is]
        split <;> rfl
    rw [queued, itemsOf_append, none, List.append_nil]
  refine ⟨numbered, ?_, ?_, ?_, ?_⟩
  · intro v visit found
    rw [visits] at found
    rw [items]
    have uploading := ordered.uploads v visit found
    cases down : s'.gone with
    | true => exact uploading.down
    | false =>
        rw [gone down] at uploading
        exact uploading
  · rw [queued]
    refine placed_append ?_ ?_
    · intro k message is
      exact (ordered.placed k message is).mono owns
    · intro k message is
      obtain ⟨tag, m⟩ := message
      rcases others _ (List.mem_of_getElem? is) with rest | ⟨n, rest⟩
      · dsimp only at rest
        subst rest
        trivial
      · dsimp only at rest
        subst rest
        trivial
  · rw [visits]
    exact ordered.apart
  · intro up v visit found carried opened
    rw [visits] at found
    rw [queued, lastOpen_append_other]
    · exact ordered.newest (gone up) v visit found carried opened
    · intro message listed
      rcases others message listed with is | ⟨n, is⟩
      · simp [is]
      · simp [is]

theorem routed (ordered : Ordered s) (conn : Nat) (initial : Bytes) (spared : Spared s conn)
    (after : s' = { s with
      visits := fun v => if v = s.routed then some { conn := conn, hello := initial, came := initial } else s.visits v
      routed := s.routed + 1
      channels := fun n => if n = conn then some s.routed else s.channels n
      numbers := fun n => if n = conn then some s.routed else s.numbers n }) : Ordered s' := by
  have fresh : s.visits s.routed = none := ordered.numbered.fresh _ (Nat.le_refl _)
  have unheard : itemsOf s.routed s.queued = [] := by
    refine List.filterMap_eq_nil_iff.mpr fun message listed => ?_
    obtain ⟨k, is⟩ := List.mem_iff_getElem?.mp listed
    have placed := ordered.placed k message is
    obtain ⟨tag, m⟩ := message
    split
    · rename_i tagged
      dsimp only at tagged
      subst tagged
      have nobody (n : Nat) (owns : Owns s s.routed n) : False := by
        obtain ⟨visit, found, -⟩ := owns
        exact absurd (fresh.symm.trans found) (by simp)
      cases m with
      | data n payload =>
          obtain ⟨v, same, owns, -⟩ := placed
          cases same
          exact (nobody n owns).elim
      | end_ n =>
          obtain ⟨v, same, owns, -⟩ := placed
          cases same
          exact (nobody n owns).elim
      | open_ n => rfl
      | reset n => rfl
      | other => rfl
    · rfl
  have visits (v : Nat) : s'.visits v =
      if v = s.routed then some { conn := conn, hello := initial, came := initial } else s.visits v := by
    rw [after]
  have queued : s'.queued = s.queued := by rw [after]
  have gone : s'.gone = s.gone := by rw [after]
  refine ⟨?_, ?_, ?_, ?_, ?_⟩
  · rw [after]
    exact ordered.numbered.routed conn initial
  · intro v visit found
    rw [visits] at found
    rw [queued, gone]
    split at found
    · rename_i is
      cases found
      rw [is, unheard]
      exact .start conn initial
    · exact ordered.uploads v visit found
  · intro k message is
    rw [queued] at is ⊢
    refine (ordered.placed k message is).mono fun v n owns => ?_
    obtain ⟨visit, found, same⟩ := owns
    refine ⟨visit, ?_, same⟩
    rw [visits, if_neg]
    · exact found
    · intro is
      exact absurd (fresh.symm.trans (is ▸ found)) (by simp)
  · intro v w visit visit' found found' carried carried' same
    rw [visits] at found found'
    split at found
    · rename_i is
      split at found'
      · rename_i is'
        exact is.trans is'.symm
      · cases found
        exact absurd ((spared w visit' found' same.symm).symm.trans carried') (by simp)
    · split at found'
      · cases found'
        exact absurd ((spared v visit found same).symm.trans carried) (by simp)
      · exact ordered.apart v w visit visit' found found' carried carried' same
  · intro up v visit found carried opened
    rw [gone] at up
    rw [visits] at found
    rw [queued]
    split at found
    · cases found
      cases opened
    · exact ordered.newest up v visit found carried opened

theorem finished (ordered : Ordered s) (outcome : Download.Outcome) : Ordered (s.finishChannels outcome) := by
  have before {v : Nat} {visit : Visit} (found : (s.finishChannels outcome).visits v = some visit) :
      ∃ earlier, s.visits v = some earlier ∧ (visit = earlier ∨ visit = earlier.finish outcome true) := by
    obtain ⟨earlier, was, rfl⟩ := Option.map_eq_some_iff.mp found
    refine ⟨earlier, was, ?_⟩
    split
    · exact .inr rfl
    · exact .inl rfl
  refine ⟨ordered.numbered.finished outcome, ?_, ?_, ?_, ?_⟩
  · intro v visit found
    obtain ⟨earlier, was, rfl | rfl⟩ := before found
    · exact ordered.uploads v _ was
    · exact (ordered.uploads v earlier was).kept (by simp) (by simp) (by simp) (.inl (by simp))
  · intro k message is
    refine (ordered.placed k message is).mono fun v n owns => ?_
    obtain ⟨visit, found, same⟩ := owns
    refine ⟨_, Relay.visits_finished found outcome, ?_⟩
    split
    · rw [Relay.Visit.conn_finish]
      exact same
    · exact same
  · intro v w visit visit' found found' carried carried' same
    obtain ⟨earlier, was, is⟩ := before found
    obtain ⟨earlier', was', is'⟩ := before found'
    refine ordered.apart v w earlier earlier' was was' ?_ ?_ ?_
    · rcases is with rfl | rfl
      · exact carried
      · simpa using carried
    · rcases is' with rfl | rfl
      · exact carried'
      · simpa using carried'
    · rcases is with rfl | rfl <;> rcases is' with rfl | rfl <;> simpa using same
  · intro up v visit found carried opened
    obtain ⟨earlier, was, rfl | rfl⟩ := before found
    · exact ordered.newest up v _ was carried opened
    · rw [Relay.Visit.conn_finish]
      exact ordered.newest up v earlier was (by simpa using carried) (by simpa using opened)

theorem step (ordered : Ordered s) (h : s.step e = some s')
    (spared : ∀ conn initial, e = .route conn initial → Spared s conn) : Ordered s' := by
  cases Relay.step_kind ordered.numbered h with
  | turned v old new unmapped out turn turned => exact ordered.turned turn turned
  | routed conn initial event free after => exact ordered.routed conn initial (spared conn initial event) after
  | finished outcome event after =>
      subst after
      exact ordered.finished outcome
  | stalls visits event free known after =>
      subst after
      exact ordered.kept ⟨ordered.numbered.tabled, ordered.numbered.named, ordered.numbered.fresh⟩ rfl (fun up => up)
        (List.append_nil _).symm (by simp)
  | resetSent v visit event sending found quiet queued gone reader =>
      refine ordered.kept (quiet.numbered ordered.numbered) quiet.visits (fun up => gone ▸ up) queued ?_
      intro message listed
      obtain ⟨m, inside, rfl⟩ := List.mem_map.mp listed
      unfold Carrier.posted at inside
      split at inside
      · cases inside
      · exact .inr ⟨visit.conn, List.mem_singleton.mp inside⟩
  | quiet quiet extra queued gone reader others =>
      refine ordered.kept (quiet.numbered ordered.numbered) quiet.visits gone queued ?_
      intro message listed
      rw [others message listed]
      exact .inl rfl

/-- The queue only grows, and a connection keeps its number. -/
theorem grows (ordered : Ordered s) (h : s.step e = some s') : ∃ extra, s'.queued = s.queued ++ extra := by
  cases Relay.step_kind ordered.numbered h with
  | turned v old new unmapped out turn turned => exact ⟨_, turned.queued⟩
  | routed conn initial event free after => exact ⟨[], by simp [after]⟩
  | finished outcome event after => exact ⟨[], by simp [after, Carrier.finishChannels]⟩
  | stalls visits event free known after => exact ⟨[], by simp [after]⟩
  | resetSent v visit event sending found quiet queued gone reader => exact ⟨_, queued⟩
  | quiet quiet extra queued gone reader others => exact ⟨extra, queued⟩

theorem owns (ordered : Ordered s) (h : s.step e = some s') {w n : Nat} (owns : Owns s w n) : Owns s' w n := by
  have kept (visits : s'.visits = s.visits) : Owns s' w n := by
    unfold Owns
    rw [visits]
    exact owns
  cases Relay.step_kind ordered.numbered h with
  | turned v old new unmapped out turn turned => exact owns.turned turn.conn turned
  | routed conn initial event free after =>
      obtain ⟨visit, found, same⟩ := owns
      refine ⟨visit, ?_, same⟩
      rw [after]
      dsimp only
      rw [if_neg]
      · exact found
      · rintro rfl
        exact absurd ((ordered.numbered.fresh _ (Nat.le_refl _)).symm.trans found) (by simp)
  | finished outcome event after =>
      obtain ⟨visit, found, same⟩ := owns
      subst after
      refine ⟨_, Relay.visits_finished found outcome, ?_⟩
      split
      · rw [Relay.Visit.conn_finish]
        exact same
      · exact same
  | stalls visits event free known after => exact kept (by rw [after])
  | resetSent v visit event sending found quiet queued gone reader => exact kept quiet.visits
  | quiet quiet extra queued gone reader others => exact kept quiet.visits

theorem empty : Ordered .empty where
  numbered := .empty
  uploads := by
    intro v visit found
    cases found
  placed := by
    intro k message is
    cases is
  apart := by
    intro v w visit visit' found
    cases found
  newest := by
    intro _ v visit found
    cases found

end Ordered

end Queue

end Channels

end OpenTunnel
