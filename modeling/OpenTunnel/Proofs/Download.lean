/-
Module: OpenTunnel.Proofs.Download
Layer: Proofs
Purpose: What reaches a visitor of what the client sent for it. As long as the reader stops once it dropped data for a
  cancelled session, a download does not take the closed queue of an aborted connection for an end, and no connection
  number is used twice, the visitor gets a prefix of the client's data, nothing after a frame that was dropped, and a
  clean close only after the client's end and everything before it.
Imports: OpenTunnel.Tasks.Contract, OpenTunnel.Model.Download
Trusted boundary: none (fully proved)
Main exports: Channel.Faithful, Session.Sound, Effect, SessionStep, exec_step, move_step, route_effect
Open obligations: none
-/
import OpenTunnel.Tasks.Contract
import OpenTunnel.Model.Download

namespace OpenTunnel.Download

open Tasks Tasks.Semantics

/-! ### Connections without their budgets -/

/-- A connection without its shares of budgets and the clones of its handle, which decide only when things happen. -/
def Channel.core (ch : Channel) : Channel := { ch with budget := 0, handles := 0, writing := 0 }

/-- The connections of a session, and which of them are in the bridge's table. -/
structure Table where
  view : Nat → Option Channel
  channels : Nat → Option Nat

def Session.table (s : Session) : Table where
  view := fun v => (s.visitors v).map Channel.core
  channels := s.channels

/-- The bytes of the frames that were queued. -/
def Channel.passed (ch : Channel) : Bytes := ((ch.frames.filter (·.2)).map (·.1)).flatten

/-- The bytes of the frames the client sent. -/
def Channel.sent (ch : Channel) : Bytes := (ch.frames.map (·.1)).flatten

def bytes (queue : List Inbound) : Bytes :=
  (queue.map fun item => match item with
    | .data payload => payload
    | .end_ => []).flatten

/-- A frame was not queued. -/
def Channel.lost (ch : Channel) : Prop := ∃ frame ∈ ch.frames, frame.2 = false

/-- The connection is in its bridge's table. -/
def Table.Open (s : Table) (v : Nat) (ch : Channel) : Prop := s.channels ch.conn = some v

/-- Nothing is lost before something that was queued, the visitor gets what was queued, and a clean close follows the
    client's end. -/
structure Channel.Faithful (ch : Channel) (isOpen : Prop) : Prop where
  undecided : isOpen → ch.outcome = none ∨ ch.abort = true
  closed : ¬ isOpen → ch.receiving = true → ch.abort = true ∨ ch.ended.isSome = true
  ordered : ∃ good bad : List Bytes, ch.frames = good.map (·, true) ++ bad.map (·, false)
  ending : ∀ n, ch.ended = some n → ¬ isOpen ∧
    ∃ good bad : List Bytes, ch.frames = good.map (·, true) ++ bad.map (·, false) ∧ good.length = n
  shape : ∃ payloads : List Bytes, ch.queue = payloads.map .data ∨
    ch.queue = payloads.map .data ++ [.end_] ∧ ch.ended.isSome = true
  written : ch.written <+: ch.passed
  halfClosed : ch.halfClosed = true → ch.ended.isSome = true ∧ ch.written = ch.passed

/-- What every state of a session keeps. -/
structure Session.Sound (s : Session) : Prop where
  named : ∀ conn v, s.channels conn = some v → ∃ ch, s.table.view v = some ch ∧ ch.conn = conn
  given : ∀ v ch, s.table.view v = some ch → s.numbers ch.conn = some v
  known : ∀ conn v, s.numbers conn = some v → ∃ ch, s.table.view v = some ch ∧ ch.conn = conn
  unused : ∀ v, s.opened ≤ v → s.table.view v = none
  faithful : ∀ v ch, s.table.view v = some ch → ch.Faithful (s.table.Open v ch)

/-! ### What steps do to a connection -/

/-- What a step may do to a connection: an act, or a move of the surroundings. -/
inductive Effect (op : Option DownAct) (s s' : Table) (v : Nat) : Prop where
  | kept (view : s'.view v = s.view v) (open_ : ∀ ch, s.view v = some ch → (s'.Open v ch ↔ s.Open v ch))
  | routed (conn : Nat) (is : op = none) (was : s.view v = none) (view : s'.view v = some (Channel.core { conn := conn }))
      (open_ : s'.channels conn = some v)
  | aborted (ch : Channel) (outcome : Outcome) (was : s.view v = some ch)
      (view : s'.view v = some (ch.finish outcome true)) (open_ : s'.Open v ch → s.Open v ch)
  | stopped (ch : Channel) (was : s.view v = some ch) (aborts : Bool)
      (view : s'.view v = some { (if aborts then ch.finish .clientError true else ch) with
        receiving := false, queue := [] })
      (open_ : s'.Open v ch → s.Open v ch)
  | over (ch : Channel) (was : s.view v = some ch) (view : s'.view v = some (ch.finish .closed false))
      (closed : ¬ s'.Open v ch) (gone : ch.receiving = false)
  | queued (ch : Channel) (payload : Bytes) (is : op = some (.queue v payload)) (was : s.view v = some ch)
      (receiving : ch.receiving = true)
      (view : s'.view v = some { ch with
        queue := ch.queue ++ [.data payload], frames := ch.frames ++ [(payload, true)] })
      (open_ : s'.Open v ch ↔ s.Open v ch)
  | refused (ch : Channel) (payload : Bytes) (is : op = some (.queue v payload)) (was : s.view v = some ch)
      (gone : ch.receiving = false) (view : s'.view v = some { ch with frames := ch.frames ++ [(payload, false)] })
      (open_ : s'.Open v ch ↔ s.Open v ch)
  | dropped (ch : Channel) (payload : Bytes)
      (is : op = some (.dropped ch.conn payload) ∨ op = some (.channel ch.conn payload) ∧ ¬ s.Open v ch)
      (was : s.view v = some ch)
      (view : s'.view v = some { ch with frames := ch.frames ++ [(payload, false)] })
      (open_ : s'.Open v ch ↔ s.Open v ch)
  | ended (ch : Channel) (is : op = some (.endChannel ch.conn)) (was : s.view v = some ch)
      (receiving : ch.receiving = true) (open_ : s.Open v ch)
      (view : s'.view v = some { ch.finish .closed false with
        queue := ch.queue ++ [.end_], ended := some ch.frames.length })
      (closed : ¬ s'.Open v ch)
  | popped (ch : Channel) (item : Inbound) (rest : List Inbound) (is : op = some (.recv v)) (was : s.view v = some ch)
      (front : ch.queue = item :: rest) (view : s'.view v = some { ch with queue := rest })
      (open_ : s'.Open v ch ↔ s.Open v ch)
  | wrote (ch : Channel) (data : Bytes) (count : Nat) (is : op = some (.write v data)) (was : s.view v = some ch)
      (receiving : ch.receiving = true)
      (view : s'.view v = some { ch with written := ch.written ++ data.take count })
      (open_ : s'.Open v ch ↔ s.Open v ch)
  | shut (ch : Channel) (is : op = some (.shutdown v)) (was : s.view v = some ch) (receiving : ch.receiving = true)
      (view : s'.view v = some { ch with halfClosed := true }) (open_ : s'.Open v ch ↔ s.Open v ch)

/-- What a step other than routing a connection does to the session. -/
structure SessionStep (op : Option DownAct) (s s' : Session) : Prop where
  effect : ∀ v, Effect op s.table s'.table v
  fresh : ∀ v, s.table.view v = none → s'.table.view v = none
  channels : ∀ conn v, s'.channels conn = some v → s.channels conn = some v
  numbers : s'.numbers = s.numbers
  opened : s'.opened = s.opened
  serverClose : s.serverClose = true → s'.serverClose = true
  gaveUp : s'.gaveUp = s.gaveUp ∨ s'.gaveUp = true ∧ ∃ part v len, op = some (.acquire part v len)

section Views

variable {s s' : Session} {v v' : Nat} {f g : Channel → Channel}

@[simp] theorem channels_table : s.table.channels = s.channels := rfl

@[simp] theorem channels_change : (s.change v f).channels = s.channels := rfl

@[simp] theorem channels_unmap (conn n : Nat) : (s.unmap conn).channels n = if n = conn then none else s.channels n := rfl

theorem view_change (same : ∀ ch : Channel, (f ch).core = g ch.core) :
    (s.change v f).table.view v' = if v' = v then (s.table.view v).map g else s.table.view v' := by
  unfold Session.table Session.change
  split
  · rename_i here
    simp only [here, if_true, Option.map_map]
    congr 1
    funext ch
    exact same ch
  · rename_i other
    simp [other]

@[simp] theorem view_unmap (conn : Nat) : (s.unmap conn).table.view v = s.table.view v := rfl

/-- The sessions agree on everything but budgets and clones of handles. -/
structure Session.Alike (s s' : Session) : Prop where
  table : s'.table = s.table
  numbers : s'.numbers = s.numbers
  opened : s'.opened = s.opened
  serverClose : s'.serverClose = s.serverClose
  gaveUp : s'.gaveUp = s.gaveUp

theorem Session.Alike.refl (s : Session) : s.Alike s := ⟨rfl, rfl, rfl, rfl, rfl⟩

theorem Session.Alike.trans {s₁ s₂ s₃ : Session} (first : s₁.Alike s₂) (second : s₂.Alike s₃) : s₁.Alike s₃ where
  table := second.table.trans first.table
  numbers := second.numbers.trans first.numbers
  opened := second.opened.trans first.opened
  serverClose := second.serverClose.trans first.serverClose
  gaveUp := second.gaveUp.trans first.gaveUp

/-- A change of a share or of the clones of a handle. -/
theorem alike_change (same : ∀ ch : Channel, (f ch).core = ch.core) : s.Alike (s.change v f) where
  table := by
    have view : (s.change v f).table.view = s.table.view := by
      funext v'
      rw [view_change (g := id) same]
      split
      · rename_i here
        simp [here]
      · rfl
    unfold Session.table at view ⊢
    simp only [Table.mk.injEq]
    exact ⟨view, rfl⟩
  numbers := rfl
  opened := rfl
  serverClose := rfl
  gaveUp := rfl

theorem alike_take (len : Nat) (part : Budget) : s.Alike (s.take v len part) := by
  cases part with
  | channel => exact alike_change fun _ => rfl
  | bridge => exact ⟨rfl, rfl, rfl, rfl, rfl⟩
  | machine => exact ⟨rfl, rfl, rfl, rfl, rfl⟩

theorem alike_give (len : Nat) (part : Budget) : s.Alike (s.give v len part) := by
  cases part with
  | channel => exact alike_change fun _ => rfl
  | bridge => exact ⟨rfl, rfl, rfl, rfl, rfl⟩
  | machine => exact ⟨rfl, rfl, rfl, rfl, rfl⟩

theorem alike_foldl {α : Type} {step : Session → α → Session} (same : ∀ (s : Session) (a : α), s.Alike (step s a))
    (as : List α) (s : Session) : s.Alike (as.foldl step s) := by
  induction as generalizing s with
  | nil => exact .refl s
  | cons a rest ih => exact (same s a).trans (ih (step s a))

theorem alike_giveAll (s : Session) (v len : Nat) : s.Alike (s.giveAll v len) :=
  alike_foldl (fun _ _ => alike_give _ _) _ _

theorem Session.Alike.step {op : Option DownAct} (alike : s.Alike s') : SessionStep op s s' where
  effect := by
    intro v
    rw [alike.table]
    exact .kept rfl fun _ _ => Iff.rfl
  fresh := by
    rw [alike.table]
    exact fun _ none_ => none_
  channels := by
    intro conn v mapped
    have same : s'.channels = s.channels := congrArg Table.channels alike.table
    rwa [same] at mapped
  numbers := alike.numbers
  opened := alike.opened
  serverClose := by
    rw [alike.serverClose]
    exact id
  gaveUp := Or.inl alike.gaveUp

/-- Shares may be given back before a step. -/
theorem Session.Alike.before {op : Option DownAct} {s₁ : Session} (alike : s.Alike s₁) (step : SessionStep op s₁ s') :
    SessionStep op s s' where
  effect := by
    intro v
    rw [← alike.table]
    exact step.effect v
  fresh := by
    rw [← alike.table]
    exact step.fresh
  channels := by
    intro conn v mapped
    have same : s₁.channels = s.channels := congrArg Table.channels alike.table
    rw [← same]
    exact step.channels conn v mapped
  numbers := step.numbers.trans alike.numbers
  opened := step.opened.trans alike.opened
  serverClose := by
    rw [← alike.serverClose]
    exact step.serverClose
  gaveUp := by
    rw [← alike.gaveUp]
    exact step.gaveUp

theorem finish_core (ch : Channel) (outcome : Outcome) (abort : Bool) :
    (ch.finish outcome abort).core = ch.core.finish outcome abort := by
  unfold Channel.finish Channel.core
  split <;> rfl

theorem view_of_visitor {ch : Channel} (found : s.visitors v = some ch) : s.table.view v = some ch.core := by
  simp [Session.table, found]

theorem receiving_some {α : Type} {run : Channel → Option (α × Session)} {result : α × Session}
    (h : s.receiving v run = some result) :
    ∃ ch, s.visitors v = some ch ∧ ch.receiving = true ∧ run ch = some result := by
  unfold Session.receiving at h
  split at h
  · cases h
  · rename_i ch found
    split at h
    · rename_i alive
      exact ⟨ch, found, alive, h⟩
    · cases h

end Views

/-! ### Acts -/

section Acts

variable {s s' : Session} {op : DownAct} {c : DownChoice} {ans : op.Ans} {v : Nat}

/-- One connection is changed, and the table is not. -/
theorem step_change {op : Option DownAct} {f g : Channel → Channel} (same : ∀ ch : Channel, (f ch).core = g ch.core)
    (effect : ∀ ch, s.table.view v = some ch → (s.change v f).table.view v = some (g ch) →
      Effect op s.table (s.change v f).table v) :
    SessionStep op s (s.change v f) where
  effect := by
    intro v'
    by_cases here : v' = v
    · subst here
      have view : (s.change v' f).table.view v' = (s.table.view v').map g := by
        rw [view_change same]
        simp
      cases was : s.table.view v' with
      | none => exact .kept (by rw [view, was]; rfl) (fun ch is => by cases was.symm.trans is)
      | some ch => exact effect ch was (by rw [view, was]; rfl)
    · refine .kept ?_ (fun ch _ => Iff.rfl)
      rw [view_change same]
      simp [here]
  fresh := by
    intro v' none_
    rw [view_change same]
    split
    · rename_i here
      rw [← here, none_]
      rfl
    · exact none_
  channels := fun _ _ mapped => mapped
  numbers := rfl
  opened := rfl
  serverClose := id
  gaveUp := Or.inl rfl

/-- A connection is changed and its number taken out of the table. -/
theorem step_unmap {op : Option DownAct} {f g : Channel → Channel} {conn : Nat} {ch : Channel} (sound : s.Sound)
    (was : s.table.view v = some ch) (own : ch.conn = conn) (same : ∀ ch : Channel, (f ch).core = g ch.core)
    (effect : ((s.unmap conn).change v f).table.view v = some (g ch) →
      ¬ ((s.unmap conn).change v f).table.Open v ch → Effect op s.table ((s.unmap conn).change v f).table v) :
    SessionStep op s ((s.unmap conn).change v f) where
  effect := by
    intro v'
    by_cases here : v' = v
    · subst here
      apply effect
      · rw [view_change same]
        simp [was]
      · simp [Table.Open, own]
    · refine .kept ?_ ?_
      · rw [view_change same]
        simp [here]
      · intro ch' is
        -- another connection has another number
        have other : ch'.conn ≠ conn := by
          intro sameConn
          have first := sound.given v ch was
          have second := sound.given v' ch' is
          rw [own] at first
          rw [sameConn, first] at second
          exact here (Option.some.inj second).symm
        simp [Table.Open, other]
  fresh := by
    intro v' none_
    rw [view_change same]
    split
    · rename_i here
      rw [here, was] at none_
      cases none_
    · exact none_
  channels := by
    intro n v' mapped
    simp only [channels_change, channels_unmap] at mapped
    split at mapped
    · cases mapped
    · exact mapped
  numbers := rfl
  opened := rfl
  serverClose := id
  gaveUp := Or.inl rfl

theorem step_drop {op : Option DownAct} {conn : Nat} {payload : Bytes} (sound : s.Sound)
    (is : op = some (.dropped conn payload) ∨ op = some (.channel conn payload) ∧ s.channels conn = none) :
    SessionStep op s (s.drop conn payload) := by
  unfold Session.drop
  split
  · exact (Session.Alike.refl s).step
  · rename_i v numbered
    refine step_change (g := fun ch => { ch with frames := ch.frames ++ [(payload, false)] }) (fun _ => rfl) ?_
    intro ch was view
    obtain ⟨ch', was', own⟩ := sound.known conn v numbered
    rw [was] at was'
    cases was'
    refine .dropped ch payload ?_ was view Iff.rfl
    rcases is with is | ⟨is, missing⟩
    · exact Or.inl (by rw [is, own])
    · exact Or.inr ⟨by rw [is, own], by simp [Table.Open, own, missing]⟩

theorem step_queue {payload : Bytes} : SessionStep (some (.queue v payload)) s (s.queue v payload) := by
  unfold Session.queue
  split
  · exact (Session.Alike.refl s).step
  · rename_i ch found
    have view := view_of_visitor found
    split
    · rename_i alive
      refine step_change (g := fun ch => { ch with
        queue := ch.queue ++ [.data payload], frames := ch.frames ++ [(payload, true)] }) (fun _ => rfl) ?_
      intro ch' was view'
      rw [view] at was
      cases was
      exact .queued _ payload rfl view alive view' Iff.rfl
    · rename_i gone
      apply (alike_giveAll s v payload.length).before
      refine step_change (g := fun ch => { ch with frames := ch.frames ++ [(payload, false)] }) (fun _ => rfl) ?_
      intro ch' was view'
      have same : ch' = ch.core := by
        rw [(alike_giveAll s v payload.length).table, view] at was
        exact (Option.some.inj was).symm
      have away : ch'.receiving = false := by
        rw [same]
        exact Bool.eq_false_iff.mpr gone
      exact .refused ch' payload rfl was away view' Iff.rfl

theorem step_hangUp {ch : Channel} : SessionStep (some (.hangUp v)) s (s.hangUp v ch) := by
  apply (alike_giveAll s v ch.waiting).before
  refine step_change (g := fun ch => { ch with receiving := false, queue := [] }) (fun _ => rfl) ?_
  intro ch' was view
  exact .stopped ch' was false view (fun mapped => mapped)

/-- The reader looks the connection up; data for none is dropped. -/
theorem step_channel {conn : Nat} {payload : Bytes} {ans : (DownAct.channel conn payload).Ans} (sound : s.Sound)
    (h : Session.exec (.channel conn payload) c s = some (ans, s')) : SessionStep (some (.channel conn payload)) s s' := by
  simp only [Session.exec] at h
  split at h
  · rename_i missing
    cases h
    exact step_drop sound (Or.inr ⟨rfl, missing⟩)
  · cases h
    apply Session.Alike.step
    apply alike_change
    intro _
    rfl

/-- A budget is waited for, or the wait is given up. -/
theorem step_acquire {part : Budget} {len : Nat} {ans : (DownAct.acquire part v len).Ans}
    (h : Session.exec (.acquire part v len) c s = some (ans, s')) : SessionStep (some (.acquire part v len)) s s' := by
  simp only [Session.exec] at h
  split at h
  · cases h
  · split at h
    · cases h
      exact (alike_take len part).step
    · cases h
  · cases h
    exact (Session.Alike.refl s).step
  · split at h
    · cases h
      exact ⟨fun v => .kept rfl fun _ _ => Iff.rfl, fun _ none_ => none_, fun _ _ mapped => mapped, rfl, rfl, id,
        Or.inr ⟨rfl, _, _, _, rfl⟩⟩
    · cases h

/-- The client's end takes the connection out of the table and is queued. -/
theorem step_endChannel {conn : Nat} {ans : (DownAct.endChannel conn).Ans} (sound : s.Sound)
    (h : Session.exec (.endChannel conn) c s = some (ans, s')) : SessionStep (some (.endChannel conn)) s s' := by
  simp only [Session.exec] at h
  split at h
  · cases h
    exact (Session.Alike.refl s).step
  · rename_i v mapped
    cases h
    obtain ⟨ch, was, own⟩ := sound.named conn v mapped
    refine step_unmap (g := fun ch => if ch.receiving then
      { ch.finish .closed false with queue := ch.queue ++ [.end_], ended := some ch.frames.length }
      else ch.finish .closed false) sound was own ?_ ?_
    · intro ch
      cases decided : ch.outcome.isSome <;> cases alive : ch.receiving <;>
        simp [Channel.finish, Channel.core, decided, alive]
    · intro view closed
      have open_ : s.table.Open v ch := by
        unfold Table.Open
        rw [own]
        exact mapped
      split at view
      · rename_i alive
        exact .ended ch (by rw [own]) was alive open_ view closed
      · rename_i gone
        exact .over ch was view closed (Bool.eq_false_iff.mpr gone)

/-- The client's reset aborts the connection. -/
theorem step_resetChannel {conn : Nat} {ans : (DownAct.resetChannel conn).Ans} (sound : s.Sound)
    (h : Session.exec (.resetChannel conn) c s = some (ans, s')) : SessionStep (some (.resetChannel conn)) s s' := by
  simp only [Session.exec] at h
  split at h
  · cases h
    exact (Session.Alike.refl s).step
  · rename_i v mapped
    cases h
    obtain ⟨ch, was, own⟩ := sound.named conn v mapped
    refine step_unmap (g := (·.finish .reset true)) sound was own (finish_core · .reset true) ?_
    intro view closed
    exact .aborted ch .reset was view fun mapped => absurd mapped closed

/-- A download takes the first item off its queue. -/
theorem step_recv {ans : (DownAct.recv v).Ans}
    (h : Session.exec (.recv v) c s = some (ans, s')) : SessionStep (some (.recv v)) s s' := by
  obtain ⟨ch, found, alive, ran⟩ := receiving_some h
  split at ran
  · split at ran
    · cases ran
      exact (Session.Alike.refl s).step
    · cases ran
  · split at ran
    · rename_i item rest front
      cases ran
      refine step_change (g := fun ch => { ch with queue := rest }) (fun _ => rfl) ?_
      intro ch' was view
      rw [view_of_visitor found] at was
      cases was
      exact .popped _ item rest rfl (view_of_visitor found) front view Iff.rfl
    · split at ran
      · cases ran
        exact (Session.Alike.refl s).step
      · cases ran

/-- A write takes a part of the data. -/
theorem step_write {data : Bytes} {ans : (DownAct.write v data).Ans}
    (h : Session.exec (.write v data) c s = some (ans, s')) : SessionStep (some (.write v data)) s s' := by
  obtain ⟨ch, found, alive, ran⟩ := receiving_some h
  split at ran
  · rename_i count _
    split at ran
    · cases ran
      refine step_change (g := fun ch => { ch with written := ch.written ++ data.take count }) (fun _ => rfl) ?_
      intro ch' was view
      rw [view_of_visitor found] at was
      cases was
      exact .wrote _ data count rfl (view_of_visitor found) alive view Iff.rfl
    · cases ran
  · cases ran
    exact (Session.Alike.refl s).step
  · split at ran
    · cases ran
      exact (Session.Alike.refl s).step
    · cases ran

/-- What an act does: the changes it may make to a connection, and nothing else. -/
theorem exec_step (sound : s.Sound)
    (fits : ∀ conn v, op = .reset conn v → ∃ ch, s.table.view v = some ch ∧ ch.conn = conn)
    (h : Session.exec op c s = some (ans, s')) : SessionStep (some op) s s' := by
  cases op with
  | receive frame =>
      simp only [Session.exec] at h
      split at h
      · split at h
        · cases h
          exact (Session.Alike.refl s).step
        · cases h
      · cases h
        exact (Session.Alike.refl s).step
  | closing =>
      cases h
      exact (Session.Alike.refl s).step
  | channel conn payload => exact step_channel sound h
  | release v =>
      cases h
      apply Session.Alike.step
      apply alike_change
      intro _
      rfl
  | tryHold v len =>
      simp only [Session.exec] at h
      split at h
      · cases h
      · split at h
        · cases h
          exact (alike_foldl (fun _ _ => alike_take _ _) _ _).step
        · cases h
          exact (Session.Alike.refl s).step
  | acquire part v len => exact step_acquire h
  | giveBack parts v len =>
      cases h
      exact (alike_foldl (fun _ _ => alike_give _ _) _ _).step
  | stalled =>
      cases h
      apply Session.Alike.step
      apply alike_foldl
      intro s found
      apply alike_change
      intro _
      rfl
  | carries conn =>
      cases h
      exact (Session.Alike.refl s).step
  | reset conn v =>
      cases h
      obtain ⟨ch, was, own⟩ := fits conn v rfl
      refine step_unmap (g := (·.finish .backpressure true)) sound was own (finish_core · .backpressure true) ?_
      intro view closed
      exact .aborted ch .backpressure was view fun mapped => absurd mapped closed
  | send =>
      cases h
      exact (Session.Alike.refl s).step
  | queue v payload =>
      cases h
      exact step_queue
  | dropped conn payload =>
      cases h
      exact step_drop sound (Or.inl rfl)
  | endChannel conn => exact step_endChannel sound h
  | resetChannel conn => exact step_resetChannel sound h
  | recv v => exact step_recv h
  | write v data => exact step_write h
  | drained v =>
      obtain ⟨ch, found, alive, ran⟩ := receiving_some h
      cases ran
      apply Session.Alike.step
      apply (alike_giveAll s v ch.writing).trans
      apply alike_change
      intro _
      rfl
  | fail v =>
      obtain ⟨ch, found, alive, ran⟩ := receiving_some h
      cases ran
      have was := view_of_visitor found
      refine step_unmap (g := (·.finish .clientError true)) sound was rfl (finish_core · .clientError true) ?_
      intro view closed
      exact .aborted _ .clientError was view fun mapped => absurd mapped closed
  | shutdown v =>
      obtain ⟨ch, found, alive, ran⟩ := receiving_some h
      cases ran
      refine step_change (g := fun ch => { ch with halfClosed := true }) (fun _ => rfl) ?_
      intro ch' was view
      rw [view_of_visitor found] at was
      cases was
      exact .shut _ rfl (view_of_visitor found) alive view Iff.rfl
  | hangUp v =>
      obtain ⟨ch, _, _, ran⟩ := receiving_some h
      cases ran
      exact step_hangUp

end Acts

/-! ### Moves -/

section Moves

variable {s s' : Session} {mv : DownMove} {v : Nat}

theorem Session.Sound.alike {s₁ : Session} (alike : s.Alike s₁) (sound : s.Sound) : s₁.Sound where
  named := by
    have same : s₁.channels = s.channels := congrArg Table.channels alike.table
    rw [same, alike.table]
    exact sound.named
  given := by
    rw [alike.table, alike.numbers]
    exact sound.given
  known := by
    rw [alike.table, alike.numbers]
    exact sound.known
  unused := by
    rw [alike.table, alike.opened]
    exact sound.unused
  faithful := by
    rw [alike.table]
    exact sound.faithful

theorem step_finishChannels (outcome : Outcome) : SessionStep none s (s.finishChannels outcome) where
  effect := by
    intro v
    have closed (ch : Channel) : ¬ (s.finishChannels outcome).table.Open v ch := by
      simp [Table.Open, Session.finishChannels]
    cases found : s.visitors v with
    | none =>
        refine .kept ?_ ?_
        · simp [Session.table, Session.finishChannels, found]
        · intro ch is
          simp [Session.table, found] at is
    | some ch =>
        have was := view_of_visitor found
        by_cases mapped : s.channels ch.conn = some v
        · refine .aborted _ outcome was ?_ (fun open_ => absurd open_ (closed _))
          simp [Session.table, Session.finishChannels, found, mapped, finish_core]
        · refine .kept ?_ ?_
          · simp [Session.table, Session.finishChannels, found, mapped]
          · intro ch' is
            rw [was] at is
            cases is
            exact ⟨fun open_ => absurd open_ (closed _), fun open_ => absurd open_ mapped⟩
  fresh := by
    intro v none_
    have missing : s.visitors v = none := by simpa [Session.table] using none_
    simp [Session.table, Session.finishChannels, missing]
  channels := fun _ _ mapped => by cases mapped
  numbers := rfl
  opened := rfl
  serverClose := id
  gaveUp := Or.inl rfl

/-- What the surroundings do, but for routing a connection. -/
theorem move_step (sound : s.Sound) (other : ∀ conn, mv ≠ .route conn) (h : Session.move mv s = some s') :
    SessionStep none s s' := by
  cases mv with
  | route conn => exact absurd rfl (other conn)
  | uploadFails v =>
      obtain ⟨ch, found, rfl⟩ := Option.map_eq_some_iff.mp h
      have was := view_of_visitor found
      refine step_unmap (g := (·.finish .clientError true)) sound was rfl (finish_core · .clientError true) ?_
      intro view closed
      exact .aborted _ .clientError was view fun mapped => absurd mapped closed
  | uploadCut v =>
      cases h
      refine step_change (g := (·.finish .bridgeDisconnected true)) (finish_core · .bridgeDisconnected true) ?_
      intro ch was view
      exact .aborted ch .bridgeDisconnected was view id
  | idle v =>
      obtain ⟨ch, found, rfl⟩ := Option.map_eq_some_iff.mp h
      have alike := alike_giveAll s v ch.waiting
      apply alike.before
      have was : (s.giveAll v ch.waiting).table.view v = some ch.core := by
        rw [alike.table]
        exact view_of_visitor found
      refine step_unmap (g := fun ch => { ch.finish .clientError true with receiving := false, queue := [] })
        (sound.alike alike) was rfl ?_ ?_
      · intro ch
        cases decided : ch.outcome.isSome <;> simp [Channel.finish, Channel.core, decided]
      · intro view closed
        exact .stopped _ was true view fun mapped => absurd mapped closed
  | refused v =>
      obtain ⟨ch, found, rfl⟩ := Option.map_eq_some_iff.mp h
      have alike := alike_giveAll s v ch.waiting
      apply alike.before
      have was : (s.giveAll v ch.waiting).table.view v = some ch.core := by
        rw [alike.table]
        exact view_of_visitor found
      refine step_unmap (g := fun ch => { ch with receiving := false, queue := [] })
        (sound.alike alike) was rfl (fun _ => rfl) ?_
      intro view closed
      exact .stopped _ was false view fun mapped => absurd mapped closed
  | «over» v =>
      simp only [Session.move] at h
      split at h
      · cases h
      · rename_i ch found
        split at h
        · cases h
        · rename_i gone
          cases h
          have was := view_of_visitor found
          refine step_unmap (g := (·.finish .closed false)) sound was rfl (finish_core · .closed false) ?_
          intro view closed
          exact .over _ was view closed (Bool.eq_false_iff.mpr gone)
  | finishChannels outcome =>
      cases h
      exact step_finishChannels outcome
  | serverClose =>
      cases h
      exact ⟨fun _ => .kept rfl fun _ _ => Iff.rfl, fun _ none_ => none_, fun _ _ mapped => mapped, rfl, rfl, fun _ => rfl, Or.inl rfl⟩
  | cancel =>
      cases h
      exact ⟨fun _ => .kept rfl fun _ _ => Iff.rfl, fun _ none_ => none_, fun _ _ mapped => mapped, rfl, rfl, id, Or.inl rfl⟩
  | machine buffer =>
      cases h
      exact ⟨fun _ => .kept rfl fun _ _ => Iff.rfl, fun _ none_ => none_, fun _ _ mapped => mapped, rfl, rfl, id, Or.inl rfl⟩

/-- A connection that is routed is a new one. -/
theorem route_effect {conn : Nat} (sound : s.Sound) (h : s.route conn = some s') (v : Nat) :
    Effect none s.table s'.table v := by
  unfold Session.route at h
  split at h
  · rename_i free
    cases h
    by_cases here : v = s.opened
    · subst here
      refine .routed conn rfl (sound.unused s.opened (Nat.le_refl _)) ?_ ?_
      · simp [Session.table]
      · simp [Session.table]
    · refine .kept ?_ ?_
      · simp [Session.table, here]
      · intro ch was
        by_cases same : ch.conn = conn
        · have before : s.channels ch.conn ≠ some v := by
            rw [same, free.2.2]
            intro none
            cases none
          have after : s.opened ≠ v := fun is => here is.symm
          simp only [Table.Open, Session.table, same, if_true]
          rw [same] at before
          simp [before, after]
        · simp [Table.Open, Session.table, same]
  · cases h

end Moves

end OpenTunnel.Download
