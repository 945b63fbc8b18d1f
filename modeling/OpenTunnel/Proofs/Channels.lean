/-
Module: OpenTunnel.Proofs.Channels
Layer: Proofs
Purpose: The upload direction of a bridge, from the visitor's socket to the client's TLS side. A connection's queue at
  the client holds what the server queued for it, in order and without gap, up to where the client dropped it; the TLS
  side reads the bytes of that and, unless the client aborted the connection, its end only behind all of them. This
  needs a number to be given again only after both sides are done with it: the server takes a number out of its table
  when the client ended or reset the connection, and may give it to the next visitor while the first one's upload goes
  on.
Imports: OpenTunnel.Tasks.Steps, OpenTunnel.Proofs.Uploads
Trusted boundary: none (fully proved)
Main exports: Channels.UploadsFaithful, Channels.Retired, Channels.Bridged, Channels.uploads_faithful
Open obligations: none
-/
import OpenTunnel.Tasks.Steps
import OpenTunnel.Proofs.Uploads

namespace OpenTunnel

open Tasks

namespace Channels

open Relay (Outbound Carrier Visit)

/-- What every TLS side read is a prefix of what its visitor sent; and where it read the end and the client did not
    abort the connection, it read all, the visitor's end included. Everything a connection sends is behind its `open`. -/
structure UploadsFaithful (s : State) : Prop where
  first : ∀ before v message after, s.server.queued = before ++ (some v, message) :: after →
    (∃ n payload, message = .data n payload) ∨ (∃ n, message = .end_ n) → ∃ n, (some v, .open_ n) ∈ before
  prefix_ : ∀ i channel, s.locals i = some channel → ∃ v visit, channel.visit = some v ∧
    s.server.visits v = some visit ∧ visit.conn = channel.conn ∧ channel.read <+: visit.came
  whole : ∀ i channel, s.locals i = some channel → channel.ended = true → channel.aborted = false →
    ∃ v visit, channel.visit = some v ∧ s.server.visits v = some visit ∧ channel.read = visit.came ∧
      visit.upload = .returned ∧ (some v, .end_ channel.conn) ∈ s.server.queued

/-- The number that the session reads an `open` for next. -/
def State.opening (s : State) : Option Nat :=
  match s.next with
  | some (_, .open_ n) => some n
  | _ => none

/-- A number is given again only when the server gave the slot of its last connection back, and the client reads the
    new `open` only when it has no task of that number. -/
def Retired : Event → State → Prop
  | .server (.route conn _), s =>
      ∀ v < s.server.routed, ∀ visit ∈ s.server.visits v, visit.conn = conn → visit.carried = false
  | .reads .., s => ∀ n ∈ s.opening, s.channels n = none ∧
      ∀ i < s.opened, ∀ channel ∈ s.locals i, channel.conn = n → channel.active = false
  | _, _ => True

/-! ### One channel -/

/-- What `write_all` has left. -/
def unwritten (channel : Channel) : Bytes :=
  match channel.receive with
  | .writing rest => rest
  | _ => []

/-- What became of the items that the session read for a channel: `done` were taken by its `receive` task, some wait,
    and `missed` came when it took no more; `lost` was taken and not written. -/
structure Flow (items : List Inbound) (tabled : Prop) (channel : Channel) (done missed : List Inbound) (lost : Bytes) :
    Prop where
  items : done ++ channel.inbound ++ missed = items
  bytes : bytesOf done = channel.read ++ channel.pipe ++ unwritten channel ++ lost
  whole : tabled → channel.closed = false → missed = []
  lossless : channel.receive ≠ .gone → lost = []
  shut : channel.receive = .shut → channel.serving = true → channel.aborted = false → .end_ ∈ done
  ended : channel.ended = true → channel.receive = .shut ∧ channel.pipe = [] ∧ (channel.aborted = false → .end_ ∈ done)

/-- A channel in the table may return and was not aborted; one that left it was, or its TLS side is gone. -/
structure Serves (tabled : Prop) (channel : Channel) : Prop where
  idle : channel.task ≠ .running → channel.serving = false
  listed : tabled → channel.active = true ∧ channel.aborted = false
  unlisted : ¬ tabled → channel.aborted = false → channel.serving = false

/-- Both, for some split of the items. -/
def Runs (items : List Inbound) (tabled : Prop) (channel : Channel) : Prop :=
  Serves tabled channel ∧ ∃ done missed lost, Flow items tabled channel done missed lost

namespace Runs

variable {items : List Inbound} {tabled : Prop} {channel : Channel}

theorem start (visit : Option Nat) (conn : Nat) (is : tabled) : Runs [] tabled { visit := visit, conn := conn } := by
  refine ⟨⟨by simp, by simp [Channel.active], fun untabled => absurd is untabled⟩, [], [], [], ?_⟩
  exact ⟨rfl, rfl, fun _ _ => rfl, fun _ => rfl, by simp, by simp⟩

theorem takes (runs : Runs items tabled channel) (receiving : channel.receive = .receiving) {payload : Bytes}
    {rest : List Inbound} (next : channel.inbound = .data payload :: rest) :
    Runs items tabled ({ channel with inbound := rest }.writes payload) := by
  obtain ⟨serves, done, missed, lost, flow⟩ := runs
  have none : lost = [] := flow.lossless (by simp [receiving])
  have notShut : ({ channel with inbound := rest }.writes payload).receive ≠ .shut := by
    unfold Channel.writes
    split <;> simp
  refine ⟨⟨serves.idle, serves.listed, serves.unlisted⟩, done ++ [.data payload], missed, [], ⟨?_, ?_, ?_, ?_, ?_, ?_⟩⟩
  · rw [← flow.items, next]
    simp [Channel.writes]
  · have left : unwritten ({ channel with inbound := rest }.writes payload) = payload := by
      unfold unwritten Channel.writes
      by_cases bare : payload = []
      · simp [bare]
      · simp [bare]
    rw [bytesOf_append, flow.bytes, left, none]
    simp [unwritten, receiving, Inbound.bytes, Channel.writes]
  · intro isTabled _
    exact flow.whole isTabled (by simp [Channel.closed, receiving])
  · exact fun _ => rfl
  · exact fun shut => absurd shut notShut
  · intro ended
    exact absurd (flow.ended ended).1 (by simp [receiving])

/-- The queue's end, or its last sender is gone. -/
theorem shuts (runs : Runs items tabled channel) (receiving : channel.receive = .receiving) {rest : List Inbound}
    (next : channel.inbound = .end_ :: rest ∨ channel.inbound = [] ∧ rest = [] ∧ ¬ tabled) :
    Runs items tabled { channel with inbound := rest, receive := .shut } := by
  obtain ⟨serves, done, missed, lost, flow⟩ := runs
  have none : lost = [] := flow.lossless (by simp [receiving])
  have notEnded : channel.ended ≠ true := fun ended => absurd (flow.ended ended).1 (by simp [receiving])
  have bytes := flow.bytes
  rcases next with next | ⟨bare, rfl, untabled⟩
  · refine ⟨⟨serves.idle, serves.listed, serves.unlisted⟩, done ++ [.end_], missed, [], ⟨?_, ?_, ?_, ?_, ?_, ?_⟩⟩
    · rw [← flow.items, next]
      simp
    · rw [bytesOf_append, bytes, none]
      simp [unwritten, receiving, Inbound.bytes]
    · intro _ closed
      cases closed
    · exact fun _ => rfl
    · exact fun _ _ _ => by simp
    · exact fun ended => absurd ended notEnded
  · refine ⟨⟨serves.idle, serves.listed, serves.unlisted⟩, done, missed, [], ⟨?_, ?_, ?_, ?_, ?_, ?_⟩⟩
    · rw [← flow.items, bare]
    · rw [bytes, none]
      simp [unwritten, receiving]
    · intro _ closed
      cases closed
    · exact fun _ => rfl
    · intro _ serving aborted
      exact absurd ((serves.unlisted untabled aborted).symm.trans serving) (by simp)
    · exact fun ended => absurd ended notEnded

theorem writes (runs : Runs items tabled channel) {rest : Bytes} (writing : channel.receive = .writing rest)
    (count : Nat) :
    Runs items tabled ({ channel with pipe := channel.pipe ++ rest.take count }.writes (rest.drop count)) := by
  obtain ⟨serves, done, missed, lost, flow⟩ := runs
  have none : lost = [] := flow.lossless (by simp [writing])
  have notShut : ({ channel with pipe := channel.pipe ++ rest.take count }.writes (rest.drop count)).receive ≠ .shut := by
    unfold Channel.writes
    split <;> simp
  refine ⟨⟨serves.idle, serves.listed, serves.unlisted⟩, done, missed, [], ⟨flow.items, ?_, ?_, ?_, ?_, ?_⟩⟩
  · have left : unwritten ({ channel with pipe := channel.pipe ++ rest.take count }.writes (rest.drop count)) =
        rest.drop count := by
      unfold unwritten Channel.writes
      by_cases bare : rest.drop count = []
      · simp [bare]
      · simp [bare]
    rw [flow.bytes, left, none]
    simp [unwritten, writing, Channel.writes]
  · intro isTabled _
    exact flow.whole isTabled (by simp [Channel.closed, writing])
  · exact fun _ => rfl
  · exact fun shut => absurd shut notShut
  · intro ended
    exact absurd (flow.ended ended).1 (by simp [writing])

theorem tlsReads (runs : Runs items tabled channel) (count : Nat) (some_ : 0 < count)
    (within : count ≤ channel.pipe.length) :
    Runs items tabled { channel with read := channel.read ++ channel.pipe.take count, pipe := channel.pipe.drop count } := by
  obtain ⟨serves, done, missed, lost, flow⟩ := runs
  refine ⟨⟨serves.idle, serves.listed, serves.unlisted⟩, done, missed, lost,
    ⟨flow.items, ?_, flow.whole, flow.lossless, flow.shut, ?_⟩⟩
  · rw [flow.bytes]
    simp [unwritten]
  · intro ended
    have bare := (flow.ended ended).2.1
    rw [bare] at within
    simp at within
    omega

theorem tlsEnds (runs : Runs items tabled channel) (serving : channel.serving = true)
    (shut : channel.receive = .shut) (bare : channel.pipe = []) : Runs items tabled { channel with ended := true } := by
  obtain ⟨serves, done, missed, lost, flow⟩ := runs
  exact ⟨⟨serves.idle, serves.listed, serves.unlisted⟩, done, missed, lost,
    ⟨flow.items, flow.bytes, flow.whole, flow.lossless, flow.shut,
      fun _ => ⟨shut, bare, flow.shut shut serving⟩⟩⟩

/-- The TLS side goes; the task may return or be cancelled then. -/
theorem leaves (runs : Runs items tabled channel) (task : Task)
    (still : tabled → ({ channel with serving := false, task := task } : Channel).active = true) :
    Runs items tabled { channel with serving := false, task := task } := by
  obtain ⟨serves, done, missed, lost, flow⟩ := runs
  exact ⟨⟨fun _ => rfl, fun is => ⟨still is, (serves.listed is).2⟩, fun _ _ => rfl⟩, done, missed, lost,
    ⟨flow.items, flow.bytes, flow.whole, flow.lossless, by simp, flow.ended⟩⟩

/-- The `receive` task takes no more. -/
theorem stops (runs : Runs items tabled channel) (open_ : channel.receive ≠ .shut) :
    Runs items tabled { channel with receive := .gone } := by
  obtain ⟨serves, done, missed, lost, flow⟩ := runs
  refine ⟨⟨serves.idle, serves.listed, serves.unlisted⟩, done, missed, unwritten channel ++ lost,
    ⟨flow.items, ?_, ?_, by simp, by simp, ?_⟩⟩
  · rw [flow.bytes]
    simp [unwritten]
  · intro _ closed
    cases closed
  · intro ended
    exact absurd (flow.ended ended).1 open_

/-- The session queues the next item. -/
theorem queues (runs : Runs items tabled channel) (isTabled : tabled) (open_ : channel.closed = false)
    (item : Inbound) : Runs (items ++ [item]) tabled { channel with inbound := channel.inbound ++ [item] } := by
  obtain ⟨serves, done, missed, lost, flow⟩ := runs
  have none : missed = [] := flow.whole isTabled open_
  refine ⟨⟨serves.idle, serves.listed, serves.unlisted⟩, done, [], lost,
    ⟨?_, flow.bytes, fun _ _ => rfl, flow.lossless, flow.shut, flow.ended⟩⟩
  rw [← flow.items, none]
  simp

/-- The next item is dropped. -/
theorem misses (runs : Runs items tabled channel) (gone : tabled → channel.closed = true) (more : List Inbound) :
    Runs (items ++ more) tabled channel := by
  obtain ⟨serves, done, missed, lost, flow⟩ := runs
  refine ⟨serves, done, missed ++ more, lost, ⟨?_, flow.bytes, ?_, flow.lossless, flow.shut, flow.ended⟩⟩
  · rw [← flow.items]
    simp
  · intro isTabled open_
    exact absurd (open_.symm.trans (gone isTabled)) (by simp)

/-- It leaves the table, aborted or without its TLS side. -/
theorem untables (runs : Runs items tabled channel) {untabled : Prop} (is : ¬ untabled) (aborted : Bool) (task : Task)
    (idle : task ≠ .running → channel.serving = false)
    (why : channel.aborted = true → aborted = true) (gone : aborted = false → channel.serving = false) :
    Runs items untabled { channel with aborted := aborted, task := task } := by
  obtain ⟨serves, done, missed, lost, flow⟩ := runs
  have kept (alive : aborted = false) : channel.aborted = false := by
    cases was : channel.aborted with
    | false => rfl
    | true => exact absurd ((why was).symm.trans alive) (by simp)
  refine ⟨⟨idle, fun tabled => absurd tabled is, fun _ => gone⟩, done, missed, lost,
    ⟨flow.items, flow.bytes, fun tabled => absurd tabled is, flow.lossless, ?_, ?_⟩⟩
  · exact fun shut serving alive => flow.shut shut serving (kept alive)
  · intro ended
    obtain ⟨shut, bare, last⟩ := flow.ended ended
    exact ⟨shut, bare, fun alive => last (kept alive)⟩

theorem of_iff {listed : Prop} (runs : Runs items tabled channel) (same : tabled ↔ listed) : Runs items listed channel :=
  propext same ▸ runs

end Runs

/-! ### Both ends -/

/-- The session read these messages, and this is what its channels made of them. -/
structure Wired (heard : List (Option Nat × Outbound)) (s : State) : Prop where
  ordered : Ordered s.server
  fresh : ∀ i, s.opened ≤ i → s.locals i = none
  named : ∀ n i, s.channels n = some i → ∃ channel, s.locals i = some channel ∧ channel.conn = n ∧
    lastOpen n heard = some channel.visit
  alone : ∀ i j channel channel', s.locals i = some channel → s.locals j = some channel' → channel.active = true →
    channel'.active = true → channel.conn = channel'.conn → i = j
  each : ∀ i channel, s.locals i = some channel → ∃ v, channel.visit = some v ∧ Owns s.server v channel.conn ∧
    Runs (itemsOf v heard) (s.channels channel.conn = some i) channel

section Wires

variable {heard : List (Option Nat × Outbound)} {s s' : State} {i v n : Nat} {channel after : Channel}

theorem Owns.same {server : Carrier} {n' : Nat} (owns : Owns server v n) (owns' : Owns server v n') : n = n' := by
  obtain ⟨visit, found, is⟩ := owns
  obtain ⟨visit', found', is'⟩ := owns'
  cases found.symm.trans found'
  exact is.symm.trans is'

/-- Every channel goes on as `f` says, and the table only loses entries. -/
theorem Wired.turned {heard' : List (Option Nat × Outbound)} (wired : Wired heard s) (f : Nat → Channel → Channel)
    (server : s'.server = s.server) (opened : s'.opened = s.opened)
    (locals : ∀ j, s'.locals j = (s.locals j).map (f j))
    (keeps : ∀ j c, s.locals j = some c → (f j c).conn = c.conn ∧ (f j c).visit = c.visit ∧
      ((f j c).active = true → c.active = true))
    (fewer : ∀ n j, s'.channels n = some j → s.channels n = some j ∧ lastOpen n heard' = lastOpen n heard)
    (runs : ∀ j c v, s.locals j = some c → c.visit = some v → Owns s.server v c.conn →
      Runs (itemsOf v heard) (s.channels c.conn = some j) c →
        Runs (itemsOf v heard') (s'.channels c.conn = some j) (f j c)) : Wired heard' s' := by
  constructor
  · rw [server]
    exact wired.ordered
  · intro j unused
    rw [opened] at unused
    rw [locals, wired.fresh j unused]
    rfl
  · intro n j listed
    obtain ⟨was, last⟩ := fewer n j listed
    obtain ⟨c, is, conn, opens⟩ := wired.named n j was
    obtain ⟨conn', visit', -⟩ := keeps j c is
    refine ⟨f j c, ?_, conn'.trans conn, ?_⟩
    · rw [locals, is]
      rfl
    · rw [last, visit']
      exact opens
  · intro j k now now' is is' live live' same
    rw [locals] at is is'
    obtain ⟨c, was, rfl⟩ := Option.map_eq_some_iff.mp is
    obtain ⟨c', was', rfl⟩ := Option.map_eq_some_iff.mp is'
    obtain ⟨conn, -, lived⟩ := keeps j c was
    obtain ⟨conn', -, lived'⟩ := keeps k c' was'
    exact wired.alone j k c c' was was' (lived live) (lived' live') (conn.symm.trans (same.trans conn'))
  · intro j now is
    rw [locals] at is
    obtain ⟨c, was, rfl⟩ := Option.map_eq_some_iff.mp is
    obtain ⟨conn, visit, -⟩ := keeps j c was
    obtain ⟨v, tag, owns, ran⟩ := wired.each j c was
    refine ⟨v, visit.trans tag, ?_, ?_⟩
    · rw [server, conn]
      exact owns
    · rw [conn]
      exact runs j c v was tag owns ran

theorem locals_change {f : Channel → Channel} (j : Nat) :
    (s.change i f).locals j = (s.locals j).map fun c => if j = i then f c else c := by
  unfold State.change
  dsimp only
  split
  · rename_i same
    rw [same]
  · simp

namespace Wired

/-- A step of a channel's own tasks. -/
theorem change (wired : Wired heard s) (found : s.locals i = some channel) (conn : after.conn = channel.conn)
    (visit : after.visit = channel.visit) (active : after.active = true → channel.active = true)
    (runs : ∀ items, Runs items (s.channels channel.conn = some i) channel →
      Runs items (s.channels channel.conn = some i) after) : Wired heard (s.change i fun _ => after) := by
  refine wired.turned (fun j c => if j = i then after else c) rfl rfl locals_change ?_ (fun _ _ is => ⟨is, rfl⟩) ?_
  · intro j c is
    split
    · rename_i same
      subst same
      cases found.symm.trans is
      exact ⟨conn, visit, active⟩
    · exact ⟨rfl, rfl, fun live => live⟩
  · intro j c v is _ _ ran
    split
    · rename_i same
      subst same
      cases found.symm.trans is
      exact runs _ ran
    · exact ran

/-- A channel leaves the table, or is not in it and nobody else has its number. -/
theorem unlists (wired : Wired heard s) (found : s.locals i = some channel)
    (mine : ∀ j, s.channels channel.conn = some j → j = i) (f : Channel → Channel) (aborted : Bool) (task : Task)
    (is : f channel = { channel with aborted := aborted, task := task })
    (active : (f channel).active = true → channel.active = true)
    (idle : task ≠ .running → channel.serving = false) (why : channel.aborted = true → aborted = true)
    (gone : aborted = false → channel.serving = false) : Wired heard ((s.unmap channel.conn).change i f) := by
  refine wired.turned (fun j c => if j = i then f c else c) rfl rfl locals_change ?_ ?_ ?_
  · intro j c was
    split
    · rename_i same
      subst same
      cases found.symm.trans was
      rw [is]
      rw [is] at active
      exact ⟨rfl, rfl, active⟩
    · exact ⟨rfl, rfl, fun live => live⟩
  · intro n j listed
    refine ⟨?_, rfl⟩
    by_cases same : n = channel.conn
    · simp [State.change, State.unmap, same] at listed
    · simpa [State.change, State.unmap, same] using listed
  · intro j c v was _ _ ran
    split
    · rename_i same
      subst same
      cases found.symm.trans was
      rw [is]
      exact ran.untables (by simp [State.change, State.unmap]) aborted task idle why gone
    · rename_i other
      refine ran.of_iff ?_
      by_cases same : c.conn = channel.conn
      · constructor
        · intro listed
          exact absurd (mine j (same ▸ listed)) other
        · intro listed
          simp [State.change, State.unmap, same] at listed
      · simp [State.change, State.unmap, same]

/-- A message that is not for a channel. -/
theorem passes (wired : Wired heard s) {message : Option Nat × Outbound} (no : itemOf message.2 = none)
    (unopened : ∀ n j, s.channels n = some j → message.2 ≠ .open_ n) : Wired (heard ++ [message]) s := by
  have same (v : Nat) : itemsOf v (heard ++ [message]) = itemsOf v heard := by
    rw [itemsOf_append, itemsOf_one, no]
    split <;> simp
  refine wired.turned (fun _ c => c) rfl rfl (by simp) (fun _ _ _ => ⟨rfl, rfl, fun live => live⟩) ?_ ?_
  · intro n j listed
    rw [lastOpen_append_one, if_neg (unopened n j listed)]
    exact ⟨listed, rfl⟩
  · intro j c v _ _ _ ran
    rw [same]
    exact ran

/-- The session's table has nobody to give an item to, or somebody who takes no more. -/
theorem drops (wired : Wired heard s) {message : Outbound} (item : ∀ n, message ≠ .open_ n)
    (closed : ∀ j c, s.locals j = some c → c.visit = some v → s.channels c.conn = some j → c.closed = true) :
    Wired (heard ++ [(some v, message)]) s := by
  refine wired.turned (fun _ c => c) rfl rfl (by simp) (fun _ _ _ => ⟨rfl, rfl, fun live => live⟩) ?_ ?_
  · intro n j listed
    rw [lastOpen_append_one, if_neg (item n)]
    exact ⟨listed, rfl⟩
  · intro j c w was tag _ ran
    rw [itemsOf_append, itemsOf_one]
    split
    · rename_i own
      cases own
      exact ran.misses (closed j c was tag) _
    · rw [List.append_nil]
      exact ran

/-- The session gives a channel its next item. -/
theorem queues (wired : Wired heard s) (found : s.locals i = some channel) (listed : s.channels channel.conn = some i)
    (tag : channel.visit = some v) (open_ : channel.closed = false) {message : Outbound} {item : Inbound}
    (is : itemOf message = some item) :
    Wired (heard ++ [(some v, message)])
      (s.change i fun channel => { channel with inbound := channel.inbound ++ [item] }) := by
  have notOpen (n : Nat) : message ≠ .open_ n := by
    rintro rfl
    cases is
  obtain ⟨v', tag', owns, -⟩ := wired.each i channel found
  cases tag.symm.trans tag'
  refine wired.turned (fun j c => if j = i then { c with inbound := c.inbound ++ [item] } else c) rfl rfl
    locals_change ?_ ?_ ?_
  · intro j c was
    split
    · exact ⟨rfl, rfl, fun live => live⟩
    · exact ⟨rfl, rfl, fun live => live⟩
  · intro n j listed
    rw [lastOpen_append_one, if_neg (notOpen n)]
    exact ⟨listed, rfl⟩
  · intro j c w was tag' owns' ran
    rw [itemsOf_append, itemsOf_one, is]
    by_cases same : j = i
    · subst same
      cases found.symm.trans was
      cases tag.symm.trans tag'
      rw [if_pos rfl, if_pos rfl]
      exact ran.queues listed open_ item
    · rw [if_neg same]
      split
      · rename_i own
        cases own
        refine ran.misses (fun again => ?_) _
        rw [owns'.same owns] at again
        exact absurd (Option.some.inj (again.symm.trans listed)) same
      · rw [List.append_nil]
        exact ran

/-- The session accepts a connection whose number nobody uses any more. -/
theorem accepts (wired : Wired heard s) (owns : Owns s.server v n) (first : itemsOf v heard = [])
    (unlisted : s.channels n = none)
    (retired : ∀ i channel, s.locals i = some channel → channel.conn = n → channel.active = false) :
    Wired (heard ++ [(some v, .open_ n)]) (s.accept (some v) n) := by
  have same (w : Nat) : itemsOf w (heard ++ [(some v, .open_ n)]) = itemsOf w heard := by
    rw [itemsOf_append, itemsOf_one]
    split <;> simp [itemOf]
  unfold State.accept
  split
  · refine wired.passes rfl fun n' j listed => ?_
    rintro is
    cases is
    exact absurd (unlisted.symm.trans listed) (by simp)
  · have unused : s.locals s.opened = none := wired.fresh _ (Nat.le_refl _)
    refine ⟨wired.ordered, ?_, ?_, ?_, ?_⟩
    · intro j later
      dsimp only at later ⊢
      rw [if_neg (by omega)]
      exact wired.fresh j (by omega)
    · intro n' j listed
      dsimp only at listed ⊢
      rw [lastOpen_append_one]
      split at listed
      · rename_i is
        cases listed
        rw [if_pos rfl, is, if_pos rfl]
        exact ⟨_, rfl, rfl, rfl⟩
      · rename_i other
        obtain ⟨c, was, conn, last⟩ := wired.named n' j listed
        refine ⟨c, ?_, conn, ?_⟩
        · rw [if_neg]
          · exact was
          · rintro rfl
            exact absurd (unused.symm.trans was) (by simp)
        · rw [if_neg]
          · exact last
          · simpa using fun is => other is.symm
    · intro j k c c' is is' live live' conn
      dsimp only at is is'
      split at is
      · rename_i first
        cases is
        split at is'
        · rename_i second
          exact first.trans second.symm
        · exact absurd ((retired k c' is' conn.symm).symm.trans live') (by simp)
      · split at is'
        · cases is'
          exact absurd ((retired j c is conn).symm.trans live) (by simp)
        · exact wired.alone j k c c' is is' live live' conn
    · intro j c is
      dsimp only at is ⊢
      split at is
      · rename_i new
        cases is
        refine ⟨v, rfl, owns, ?_⟩
        rw [same, first]
        exact .start _ _ (by simp [new])
      · rename_i old
        obtain ⟨w, tag, owns', ran⟩ := wired.each j c is
        refine ⟨w, tag, owns', ?_⟩
        rw [same]
        refine ran.of_iff ?_
        by_cases conn : c.conn = n
        · rw [if_pos conn, conn, unlisted]
          simpa using fun now => old now.symm
        · rw [if_neg conn]

/-- The server's side goes on. -/
theorem served (wired : Wired heard s) {server : Carrier} (ordered : Ordered server)
    (kept : ∀ v n, Owns s.server v n → Owns server v n) : Wired heard { s with server := server } := by
  refine ⟨ordered, wired.fresh, wired.named, wired.alone, ?_⟩
  intro i channel found
  obtain ⟨v, tag, owns, ran⟩ := wired.each i channel found
  exact ⟨v, tag, kept v _ owns, ran⟩

theorem aborts (wired : Wired heard s) (listed : s.channels n = some i) : Wired heard (s.abort n i) := by
  obtain ⟨channel, found, rfl, -⟩ := wired.named n i listed
  obtain ⟨v, -, -, serves, -⟩ := wired.each i channel found
  exact wired.unlists found (fun j is => Option.some.inj (is.symm.trans listed))
    (fun channel => { channel with aborted := true }) true channel.task rfl (fun live => live) serves.idle
    (fun _ => rfl) (by simp)

/-- What the session does with an item. -/
theorem items (wired : Wired heard s) {message : Outbound} {item : Inbound} {stalls : Bool}
    (is : itemOf message = some item) (owns : Owns s.server v n) (last : lastOpen n heard = some (some v))
    (did : s.item n item stalls = some s') : Wired (heard ++ [(some v, message)]) s' := by
  have notOpen (n : Nat) : message ≠ .open_ n := by
    rintro rfl
    cases is
  unfold State.item at did
  split at did
  · rename_i i listed
    obtain ⟨channel, found, conn, opens⟩ := wired.named n i listed
    have tag : channel.visit = some v := Option.some.inj (opens.symm.trans last)
    rw [found] at did
    dsimp only at did
    have only (j : Nat) (c : Channel) (was : s.locals j = some c) (own : c.visit = some v)
        (again : s.channels c.conn = some j) : j = i := by
      obtain ⟨w, tag', owns', -⟩ := wired.each j c was
      cases own.symm.trans tag'
      rw [owns'.same owns, listed] at again
      exact (Option.some.inj again).symm
    unfold State.deliver at did
    split at did
    · rename_i closed
      cases did
      refine wired.drops notOpen fun j c was own again => ?_
      cases only j c was own again
      cases found.symm.trans was
      exact closed
    · rename_i open_
      split at did
      · cases did
        exact wired.queues found (conn ▸ listed) tag (by simpa using open_) is
      · split at did
        · cases did
          have aborted := wired.aborts listed
          refine aborted.drops notOpen fun j c was own again => ?_
          exfalso
          obtain ⟨w, tag', owns', -⟩ := aborted.each j c was
          cases own.symm.trans tag'
          rw [owns'.same owns] at again
          simp [State.abort, State.change, State.unmap] at again
        · cases did
  · rename_i unlisted
    cases did
    refine wired.drops notOpen fun j c was own again => ?_
    obtain ⟨w, tag', owns', -⟩ := wired.each j c was
    cases own.symm.trans tag'
    rw [owns'.same owns, unlisted] at again
    cases again

theorem handles (wired : Wired heard s) {message : Option Nat × Outbound} (placed : Placed s.server heard message)
    (retired : ∀ tag n, message = (tag, .open_ n) → s.channels n = none ∧
      ∀ i < s.opened, ∀ channel ∈ s.locals i, channel.conn = n → channel.active = false)
    {routed stalls : Bool} (did : s.handle routed stalls message = some s') :
    s'.server = s.server ∧ s'.taken = s.taken ∧ Wired (heard ++ [message]) s' := by
  have item {conn : Nat} {item : Inbound} (did : s.item conn item stalls = some s') : s'.server = s.server ∧ s'.taken = s.taken := by
    unfold State.item at did
    split at did
    · split at did
      · unfold State.deliver at did
        split at did
        · cases did
          exact ⟨rfl, rfl⟩
        · split at did
          · cases did
            exact ⟨rfl, rfl⟩
          · split at did
            · cases did
              exact ⟨rfl, rfl⟩
            · cases did
      · cases did
    · cases did
      exact ⟨rfl, rfl⟩
  obtain ⟨tag, m⟩ := message
  cases m with
  | open_ n =>
      obtain ⟨v, rfl, owns, first⟩ := placed
      obtain ⟨unlisted, idle⟩ := retired _ n rfl
      have alone (i : Nat) (channel : Channel) (found : s.locals i = some channel) (conn : channel.conn = n) :
          channel.active = false := by
        rcases Nat.lt_or_ge i s.opened with known | unused
        · exact idle i known channel found conn
        · exact absurd ((wired.fresh i unused).symm.trans found) (by simp)
      simp only [State.handle] at did
      cases did
      split
      · refine ⟨?_, ?_, wired.accepts owns first unlisted alone⟩ <;> unfold State.accept <;> split <;> rfl
      · refine ⟨rfl, rfl, wired.passes rfl fun n' j listed => ?_⟩
        rintro is
        cases is
        exact absurd (unlisted.symm.trans listed) (by simp)
  | data n payload =>
      obtain ⟨v, rfl, owns, last⟩ := placed
      exact ⟨(item did).1, (item did).2, wired.items rfl owns last did⟩
  | end_ n =>
      obtain ⟨v, rfl, owns, last⟩ := placed
      exact ⟨(item did).1, (item did).2, wired.items rfl owns last did⟩
  | reset n =>
      simp only [State.handle] at did
      split at did
      · rename_i i listed
        cases did
        exact ⟨rfl, rfl, (wired.passes rfl (by simp)).aborts listed⟩
      · cases did
        exact ⟨rfl, rfl, wired.passes rfl (by simp)⟩
  | other =>
      cases did
      exact ⟨rfl, rfl, wired.passes rfl (by simp)⟩

end Wired

theorem onChannel_spec {run : Channel → Option Channel} (h : s.onChannel i run = some s') :
    ∃ channel after, s.locals i = some channel ∧ run channel = some after ∧ s' = s.change i fun _ => after := by
  unfold State.onChannel at h
  split at h
  · rename_i channel found
    obtain ⟨after, ran, rfl⟩ := Option.map_eq_some_iff.mp h
    exact ⟨channel, after, found, ran, rfl⟩
  · cases h

end Wires

/-! ### The bridge -/

/-- The session read the queue up to `taken`. -/
structure Bridged (s : State) : Prop where
  within : s.taken ≤ s.server.queued.length
  wired : Wired (s.server.queued.take s.taken) s

namespace Bridged

variable {s s' : State} {i : Nat} {channel after : Channel}

theorem start : Bridged {} := by
  refine ⟨Nat.le_refl _, .empty, fun _ _ => rfl, ?_, ?_, ?_⟩
  · intro n i listed
    cases listed
  · intro i j channel channel' found
    cases found
  · intro i channel found
    cases found

theorem server (bridged : Bridged s) {event : Relay.Event} (retired : Retired (.server event) s)
    (h : s.step (.server event) = some s') : Bridged s' := by
  obtain ⟨server, taken, rfl⟩ := Option.map_eq_some_iff.mp h
  have ordered := bridged.wired.ordered
  have after : Ordered server := by
    refine ordered.step taken fun conn initial is => ?_
    subst is
    intro v visit found conn
    rcases Nat.lt_or_ge v s.server.routed with known | fresh
    · exact retired v known visit found conn
    · exact absurd ((ordered.numbered.fresh v fresh).symm.trans found) (by simp)
  obtain ⟨extra, queued⟩ := ordered.grows taken
  refine ⟨?_, ?_⟩
  · rw [queued, List.length_append]
    exact Nat.le_add_right_of_le bridged.within
  · have same : server.queued.take s.taken = s.server.queued.take s.taken := by
      rw [queued, List.take_append_of_le_length bridged.within]
    dsimp only
    rw [same]
    exact bridged.wired.served after fun v n owns => ordered.owns taken owns

theorem reads (bridged : Bridged s) {routed stalls : Bool} (retired : Retired (.reads routed stalls) s)
    (h : s.step (.reads routed stalls) = some s') : Bridged s' := by
  simp only [State.step] at h
  split at h
  · cases h
  · split at h
    · rename_i message next
      obtain ⟨after, handled, rfl⟩ := Option.map_eq_some_iff.mp h
      have is : s.server.queued[s.taken]? = some message := by
        unfold State.next at next
        split at next
        · exact next
        · cases next
      have within : s.taken < s.server.queued.length := (List.getElem?_eq_some_iff.mp is).1
      have more : s.server.queued.take (s.taken + 1) = s.server.queued.take s.taken ++ [message] := by
        rw [List.take_add_one, is]
        rfl
      obtain ⟨same, taken, wired⟩ := bridged.wired.handles (bridged.wired.ordered.placed s.taken message is)
        (by
          intro tag n opens
          subst opens
          exact retired n (by simp [State.opening, next])) handled
      refine ⟨?_, ?_⟩
      · dsimp only
        rw [same, taken]
        exact within
      · dsimp only
        rw [same, taken, more]
        exact ⟨same ▸ wired.ordered, wired.fresh, wired.named, wired.alone, same ▸ wired.each⟩
    · cases h

/-- A step of a channel's own tasks. -/
theorem local_ (bridged : Bridged s) (found : s.locals i = some channel) (conn : after.conn = channel.conn)
    (visit : after.visit = channel.visit) (active : after.active = true → channel.active = true)
    (runs : ∀ items, Runs items (s.channels channel.conn = some i) channel →
      Runs items (s.channels channel.conn = some i) after) : Bridged (s.change i fun _ => after) :=
  ⟨bridged.within, bridged.wired.change found conn visit active runs⟩

theorem joins (bridged : Bridged s) (h : s.step (.joins i) = some s') : Bridged s' := by
  simp only [State.step] at h
  split at h
  · rename_i channel found
    split at h
    · rename_i ready
      cases h
      have returned : channel.task = .returned := by simp at ready; exact ready.2
      obtain ⟨v, -, -, serves, -⟩ := bridged.wired.each i channel found
      have gone : channel.serving = false := serves.idle (by simp [returned])
      refine ⟨bridged.within, bridged.wired.unlists found ?_ (fun channel => { channel with task := .joined })
        channel.aborted .joined rfl ?_ (fun _ => gone) (fun is => is) (fun _ => gone)⟩
      · intro j listed
        obtain ⟨c, was, conn, -⟩ := bridged.wired.named _ j listed
        obtain ⟨w, -, -, serves', -⟩ := bridged.wired.each j c was
        refine bridged.wired.alone j i c channel was found (serves'.listed (conn ▸ listed)).1 ?_ conn
        simp [Channel.active, returned]
      · intro live
        simp [Channel.active] at live
    · cases h
  · cases h

theorem ends (bridged : Bridged s) (h : s.step .ends = some s') : Bridged s' := by
  cases h
  refine ⟨bridged.within, bridged.wired.turned
    (fun _ channel => { channel with aborted := channel.aborted || channel.active }) rfl rfl (fun _ => rfl) ?_ ?_ ?_⟩
  · exact fun j c _ => ⟨rfl, rfl, fun live => live⟩
  · intro n j listed
    cases listed
  · intro j c v was _ _ ran
    refine ran.untables (by simp) (c.aborted || c.active) c.task ran.1.idle (fun is => by simp [is]) fun alive => ?_
    simp only [Bool.or_eq_false_iff] at alive
    refine ran.1.idle fun running => ?_
    simp [Channel.active, running] at alive

theorem tasks (bridged : Bridged s) {event : Event} (own : event = .receives i ∨ (∃ count, event = .writes i count) ∨
    event = .breaks i ∨ (∃ count, event = .tlsReads i count) ∨ event = .tlsEnds i ∨ event = .leaves i ∨
    event = .returns i ∨ event = .cancelled i) (h : s.step event = some s') : Bridged s' := by
  rcases own with rfl | ⟨count, rfl⟩ | rfl | ⟨count, rfl⟩ | rfl | rfl | rfl | rfl
  · obtain ⟨channel, after, found, ran, rfl⟩ := onChannel_spec h
    split at ran
    · rename_i receiving
      split at ran
      · rename_i payload rest next
        cases ran
        exact bridged.local_ found rfl rfl (fun live => live) fun items runs => runs.takes receiving next
      · rename_i rest next
        cases ran
        exact bridged.local_ found rfl rfl (fun live => live) fun items runs => runs.shuts receiving (.inl next)
      · rename_i bare
        split at ran
        · rename_i untabled
          cases ran
          refine bridged.local_ found rfl rfl (fun live => live) fun items runs => ?_
          have same : ({ channel with receive := .shut } : Channel) =
              { channel with inbound := [], receive := .shut } := by
            rw [← bare]
          rw [same]
          exact runs.shuts receiving (.inr ⟨bare, rfl, untabled⟩)
        · cases ran
    · cases ran
  · obtain ⟨channel, after, found, ran, rfl⟩ := onChannel_spec h
    split at ran
    · rename_i rest writing
      split at ran
      · cases ran
        exact bridged.local_ found rfl rfl (fun live => live) fun items runs => runs.writes writing count
      · cases ran
    · cases ran
  · obtain ⟨channel, after, found, ran, rfl⟩ := onChannel_spec h
    split at ran
    · rename_i rest writing
      split at ran
      · cases ran
        exact bridged.local_ found rfl rfl (fun live => live) fun items runs => runs.stops (by simp [writing])
      · cases ran
    · cases ran
  · obtain ⟨channel, after, found, ran, rfl⟩ := onChannel_spec h
    split at ran
    · rename_i ready
      cases ran
      exact bridged.local_ found rfl rfl (fun live => live) fun items runs => runs.tlsReads count ready.2.1 ready.2.2
    · cases ran
  · obtain ⟨channel, after, found, ran, rfl⟩ := onChannel_spec h
    split at ran
    · rename_i ready
      cases ran
      exact bridged.local_ found rfl rfl (fun live => live) fun items runs =>
        runs.tlsEnds ready.1 ready.2.1 ready.2.2
    · cases ran
  · obtain ⟨channel, after, found, ran, rfl⟩ := onChannel_spec h
    cases ran
    exact bridged.local_ found rfl rfl (fun live => live) fun items runs =>
      runs.leaves channel.task fun listed => (runs.1.listed listed).1
  · obtain ⟨channel, after, found, ran, rfl⟩ := onChannel_spec h
    split at ran
    · rename_i ready
      cases ran
      refine bridged.local_ found rfl rfl (fun _ => by simp [Channel.active, ready.1]) fun items runs => ?_
      have returned := runs.leaves .returned fun _ => by simp [Channel.active]
      rw [show ({ channel with serving := false, task := .returned } : Channel) =
        { channel with task := .returned } from by rw [← ready.2]] at returned
      split
      · rename_i shut
        rw [show ({ channel with task := .returned, receive := .shut } : Channel) =
          { channel with task := .returned } from by rw [← shut]]
        exact returned
      · rename_i open_
        exact returned.stops open_
    · cases ran
  · obtain ⟨channel, after, found, ran, rfl⟩ := onChannel_spec h
    split at ran
    · rename_i ready
      cases ran
      refine bridged.local_ found rfl rfl (fun live => by simp [Channel.active] at live) fun items runs => ?_
      refine runs.leaves .cancelled fun listed => ?_
      exact absurd ((runs.1.listed listed).2.symm.trans ready.1) (by simp)
    · cases ran

theorem step (bridged : Bridged s) {event : Event} (retired : Retired event s) (h : s.step event = some s') :
    Bridged s' := by
  cases event with
  | server event => exact bridged.server retired h
  | reads routed stalls => exact bridged.reads retired h
  | joins i => exact bridged.joins h
  | ends => exact bridged.ends h
  | receives i => exact bridged.tasks (.inl rfl) h
  | writes i count => exact bridged.tasks (.inr (.inl ⟨count, rfl⟩)) h
  | breaks i => exact bridged.tasks (.inr (.inr (.inl rfl))) h
  | tlsReads i count => exact bridged.tasks (.inr (.inr (.inr (.inl ⟨count, rfl⟩)))) h
  | tlsEnds i => exact bridged.tasks (.inr (.inr (.inr (.inr (.inl rfl))))) h
  | leaves i => exact bridged.tasks (.inr (.inr (.inr (.inr (.inr (.inl rfl)))))) h
  | returns i => exact bridged.tasks (.inr (.inr (.inr (.inr (.inr (.inr (.inl rfl))))))) h
  | cancelled i => exact bridged.tasks (.inr (.inr (.inr (.inr (.inr (.inr (.inr rfl))))))) h

/-- What the session read for a connection is the beginning of what was queued for it. -/
theorem heard_prefix (s : State) (v : Nat) :
    itemsOf v (s.server.queued.take s.taken) <+: itemsOf v s.server.queued := by
  have all : itemsOf v (s.server.queued.take s.taken ++ s.server.queued.drop s.taken) =
      itemsOf v (s.server.queued.take s.taken) ++ itemsOf v (s.server.queued.drop s.taken) := itemsOf_append
  rw [List.take_append_drop] at all
  exact ⟨_, all.symm⟩

/-- Where the last item was taken, all were. -/
theorem all_of_last {done rest data : List Inbound} (is : done ++ rest = data ++ [.end_]) (last : .end_ ∈ done)
    (earlier : .end_ ∉ data) : rest = [] := by
  rcases List.eq_nil_or_concat rest with bare | ⟨front, item, rfl⟩
  · exact bare
  · rw [List.concat_eq_append, ← List.append_assoc] at is
    have same := (List.append_inj' is rfl).1
    exact absurd (same ▸ List.mem_append_left front last) earlier

theorem faithful (bridged : Bridged s) : UploadsFaithful s := by
  refine ⟨?_, ?_, ?_⟩
  · intro before v message after queued item
    have is : s.server.queued[before.length]? = some (some v, message) := by
      rw [queued]
      simp
    have front : s.server.queued.take before.length = before := by
      rw [queued]
      simp
    have placed := bridged.wired.ordered.placed _ _ is
    rw [front] at placed
    rcases item with ⟨n, payload, rfl⟩ | ⟨n, rfl⟩
    · obtain ⟨w, same, -, last⟩ := placed
      cases same
      exact ⟨n, lastOpen_mem last⟩
    · obtain ⟨w, same, -, last⟩ := placed
      cases same
      exact ⟨n, lastOpen_mem last⟩
  · intro i channel found
    obtain ⟨v, tag, ⟨visit, at_, conn⟩, -, done, missed, lost, flow⟩ := bridged.wired.each i channel found
    refine ⟨v, visit, tag, at_, conn, ?_⟩
    have sent := (bridged.wired.ordered.uploads v visit at_).came
    obtain ⟨later, all⟩ := heard_prefix s v
    refine List.IsPrefix.trans ?_ sent
    rw [← all, ← flow.items, bytesOf_append, bytesOf_append, bytesOf_append, flow.bytes]
    simp only [List.append_assoc]
    exact List.prefix_append _ _
  · intro i channel found ended alive
    obtain ⟨v, tag, ⟨visit, at_, conn⟩, -, done, missed, lost, flow⟩ := bridged.wired.each i channel found
    obtain ⟨shut, bare, last⟩ := flow.ended ended
    obtain ⟨later, all⟩ := heard_prefix s v
    have items : done ++ (channel.inbound ++ missed ++ later) = itemsOf v s.server.queued := by
      rw [← all, ← flow.items]
      simp only [List.append_assoc]
    have told : Inbound.end_ ∈ itemsOf v s.server.queued := items ▸ List.mem_append_left _ (last alive)
    obtain ⟨returned, bytes, data, is, earlier⟩ := (bridged.wired.ordered.uploads v visit at_).ended told
    have none := all_of_last (items.trans is) (last alive) earlier
    rw [none, List.append_nil] at items
    refine ⟨v, visit, tag, at_, ?_, returned, ?_⟩
    · have read := flow.bytes
      rw [items, bytes, bare, flow.lossless (by simp [shut])] at read
      simpa [unwritten, shut] using read.symm
    · obtain ⟨⟨tag', message⟩, listed, brings⟩ := List.mem_filterMap.mp told
      dsimp only at brings
      split at brings
      · rename_i own
        subst own
        obtain ⟨k, there⟩ := List.mem_iff_getElem?.mp listed
        have placed := bridged.wired.ordered.placed k _ there
        cases message with
        | end_ n =>
            obtain ⟨w, same, owns, -⟩ := placed
            cases same
            rw [← Owns.same owns ⟨visit, at_, conn⟩]
            exact listed
        | open_ n => cases brings
        | data n payload => cases brings
        | reset n => cases brings
        | other => cases brings
      · cases brings

end Bridged

/-- In every run in which a number is given again only when both sides are done with it, uploads are faithful. -/
theorem uploads_faithful {s : State} (reached : Stepped State.step Retired {} s) : UploadsFaithful s := by
  have bridged : Bridged s := reached.invariant Bridged.start fun _ _ _ retired bridged taken =>
    Bridged.step bridged retired taken
  exact bridged.faithful

instance (event : Event) (s : State) : Decidable (Retired event s) :=
  match event with
  | .server (.route conn _) => inferInstanceAs (Decidable
      (∀ v < s.server.routed, ∀ visit ∈ s.server.visits v, visit.conn = conn → visit.carried = false))
  | .reads .. => inferInstanceAs (Decidable (∀ n ∈ s.opening, s.channels n = none ∧
      ∀ i < s.opened, ∀ channel ∈ s.locals i, channel.conn = n → channel.active = false))
  | .server (.refused _) | .server (.opens _) | .server (.greets _) | .server (.uploadTakes ..)
  | .server (.uploadSends ..) | .server (.uploadEnds _) | .server (.downloadTakes ..) | .server (.downloadWrites ..)
  | .server (.shutsDown _) | .server (.idle _) | .server (.over _) | .server (.frame ..) | .server (.stalls _)
  | .server .resets | .server .resetSent | .server .takes | .server .sends | .server (.promises _) | .server .close
  | .server .writerEnds | .server (.finishChannels _) | .joins _ | .ends | .receives _ | .writes .. | .breaks _
  | .tlsReads .. | .tlsEnds _ | .leaves _ | .returns _ | .cancelled _ => isTrue trivial

/-- A visitor sends two bytes in its ClientHello and a third one, and the client's TLS side reads what arrives. -/
def carries : List Event :=
  [.server (.route 1 [1, 2]), .server (.opens 0), .server (.greets 0), .server .takes, .server .takes,
    .reads true false, .reads true false, .receives 0, .writes 0 2, .tlsReads 0 2]

/-- Whom the first channel is for, what its TLS side read, whether it read the end, and whether it was aborted; and what
    the first visitor sent. -/
structure Seen where
  visit : Option Nat
  read : Bytes
  ended : Bool
  aborted : Bool
  came : Option Bytes
deriving DecidableEq

def seen (s : State) : Option Seen :=
  (s.locals 0).map fun channel =>
    ⟨channel.visit, channel.read, channel.ended, channel.aborted, (s.server.visits 0).map fun visit => visit.came⟩

/-- The visitor's third byte and its end arrive. -/
theorem uploads_faithful_whole : ∃ s, Stepped State.step Retired {} s ∧
    seen s = some ⟨some 0, [1, 2, 3], true, false, some [1, 2, 3]⟩ ∧ UploadsFaithful s := by
  have played : (playSteps State.step Retired (carries ++
      [.server (.uploadTakes 0 (.bytes [3])), .server (.uploadSends 0 false), .server (.uploadTakes 0 .eof),
        .server (.uploadEnds 0), .server .takes, .server .takes, .reads true false, .reads true false, .receives 0,
        .writes 0 1, .tlsReads 0 1, .receives 0, .tlsEnds 0]) {}).map seen =
      some (some ⟨some 0, [1, 2, 3], true, false, some [1, 2, 3]⟩) := by
    decide +kernel
  obtain ⟨s, ran, is⟩ := Option.map_eq_some_iff.mp played
  have reached := stepped_of_play ran
  exact ⟨s, reached, is, uploads_faithful reached⟩

/-- The client sends its end while the visitor still sends, the server gives the number to the next visitor, and the
    client's table forgets the first connection: its TLS side reads the end without the visitor's third byte. The run gives
    the number again at once, which `route` does only after its sequence of numbers has wrapped. -/
theorem reused_number_cuts_upload : ∃ s, Stepped State.step (fun _ _ => True) {} s ∧
    seen s = some ⟨some 0, [1, 2], true, false, some [1, 2, 3]⟩ ∧ ¬ UploadsFaithful s := by
  have played : (playSteps State.step (fun _ _ => True) (carries ++
      [.server (.frame (.end_ 1) true), .server (.uploadTakes 0 (.bytes [3])), .server (.route 1 [9]),
        .server (.opens 1), .server .takes, .reads true false, .receives 0, .tlsEnds 0]) {}).map seen =
      some (some ⟨some 0, [1, 2], true, false, some [1, 2, 3]⟩) := by
    decide +kernel
  obtain ⟨s, ran, is⟩ := Option.map_eq_some_iff.mp played
  refine ⟨s, stepped_of_play ran, is, fun faithful => ?_⟩
  obtain ⟨channel, found, is⟩ := Option.map_eq_some_iff.mp is
  simp only [Seen.mk.injEq] at is
  obtain ⟨first, read, ended, alive, came⟩ := is
  obtain ⟨v, visit, tag, at_, all, -⟩ := faithful.whole 0 channel found ended alive
  cases first.symm.trans tag
  rw [at_, Option.map_some, Option.some.injEq, ← all, read] at came
  cases came

end Channels

end OpenTunnel
