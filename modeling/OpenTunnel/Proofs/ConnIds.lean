/-
Module: OpenTunnel.Proofs.ConnIds
Layer: Proofs
Purpose: The loop of `route` ends with a number that no listed bridge uses. The channels only become fewer while it looks,
  so a bridge that did not have the candidate does not get it; and a number that is free when the loop begins stays free,
  and comes up after all those before it.
Imports: Mathlib.Data.List.Perm.Subperm, Mathlib.Data.List.Count, OpenTunnel.Model.ConnIds
Trusted boundary: none (fully proved)
Main exports: ConnIds.Fresh, ConnIds.advance_fresh, ConnIds.advance_rank, ConnIds.loop_run, ConnIds.conn_ids_fresh
Open obligations: none
-/
import Mathlib.Data.List.Perm.Subperm
import Mathlib.Data.List.Count
import OpenTunnel.Model.ConnIds

namespace OpenTunnel.ConnIds

/-! ### Bridges -/

theorem holds_iff {bridge : Bridge} {conn : UInt32} :
    bridge.holds conn = true ↔ conn ∈ bridge.channels.map Prod.fst := by
  unfold Bridge.holds
  rw [List.any_eq_true, List.mem_map]
  exact exists_congr fun channel => and_congr_right fun _ => by simp

theorem holds_remove {bridge : Bridge} {conn gone : UInt32} (free : bridge.holds conn = false) :
    (bridge.remove gone).holds conn = false := by
  rw [Bool.eq_false_iff, ne_eq, holds_iff] at *
  intro held
  obtain ⟨channel, kept, is⟩ := List.mem_map.mp held
  exact free (List.mem_map.mpr ⟨channel, List.mem_of_mem_filter kept, is⟩)

/-- A number that is free replaces nothing. -/
theorem insert_free {bridge : Bridge} {conn : UInt32} (free : bridge.holds conn = false) (connection : Nat) :
    bridge.insert conn connection = { bridge with channels := (conn, connection) :: bridge.channels } := by
  have kept : bridge.channels.filter (fun channel => channel.1 ≠ conn) = bridge.channels := by
    rw [List.filter_eq_self]
    intro channel held
    rw [Bool.eq_false_iff, ne_eq, holds_iff] at free
    simp only [ne_eq, decide_not, Bool.not_eq_true', decide_eq_false_iff_not]
    exact fun same => free (List.mem_map.mpr ⟨channel, held, same⟩)
  unfold Bridge.insert Bridge.remove
  rw [kept]

/-! ### Free numbers -/

/-- No bridge that is listed uses the number. -/
def Free (s : State) (conn : UInt32) : Prop := ∀ bridge ∈ s.bridges, bridge.holds conn = false

/-- What a step does to the bridges while `route` is not registering its connection. -/
structure Quiet (s s' : State) : Prop where
  count : s'.bridges.length = s.bridges.length
  fewer : ∀ bridge' ∈ s'.bridges, ∃ bridge ∈ s.bridges, bridge'.id = bridge.id ∧
    ∀ conn, bridge.holds conn = false → bridge'.holds conn = false

theorem Quiet.same {s s' : State} (same : s'.bridges = s.bridges) : Quiet s s' := by
  refine ⟨congrArg List.length same, ?_⟩
  intro bridge held
  exact ⟨bridge, same ▸ held, rfl, fun _ free => free⟩

theorem Quiet.onBridge {s : State} {id : Nat} {change : Bridge → Bridge} (kept : ∀ bridge, (change bridge).id = bridge.id)
    (fewer : ∀ bridge conn, bridge.holds conn = false → (change bridge).holds conn = false) : Quiet s (s.onBridge id change) := by
  refine ⟨List.length_map _, ?_⟩
  intro bridge' held
  obtain ⟨bridge, listed, rfl⟩ := List.mem_map.mp held
  refine ⟨bridge, listed, ?_, ?_⟩
  · split
    · exact kept bridge
    · rfl
  · intro conn free
    split
    · exact fewer bridge conn free
    · exact free

theorem Free.quiet {s s' : State} {conn : UInt32} (quiet : Quiet s s') (free : Free s conn) : Free s' conn := by
  intro bridge' held
  obtain ⟨bridge, listed, _, fewer⟩ := quiet.fewer bridge' held
  exact fewer conn (free bridge listed)

/-! ### What is known of the candidate -/

/-- The candidate is not used by the bridges that were asked, and comes right before the sequence. -/
def Fresh (s : State) (phase : Phase) : Prop :=
  match phase with
  | .next => True
  | .checking candidate unasked =>
      candidate ≠ 0 ∧ s.sequence = candidate + 1 ∧ unasked.length ≤ s.bridges.length ∧
        ∀ bridge ∈ s.bridges, bridge.id ∉ unasked → bridge.holds candidate = false
  | .found conn => conn ≠ 0 ∧ Free s conn

theorem Fresh.quiet {s s' : State} {phase : Phase} (quiet : Quiet s s') (same : s'.sequence = s.sequence)
    (fresh : Fresh s phase) : Fresh s' phase := by
  cases phase with
  | next => trivial
  | found conn => exact ⟨fresh.1, fresh.2.quiet quiet⟩
  | checking candidate unasked =>
      obtain ⟨some_, before, few, asked⟩ := fresh
      refine ⟨some_, same.trans before, quiet.count ▸ few, ?_⟩
      intro bridge' held out
      obtain ⟨bridge, listed, same, fewer⟩ := quiet.fewer bridge' held
      exact fewer candidate (asked bridge listed (same ▸ out))

theorem not_used {s : State} {id : Nat} {conn : UInt32} (unused : ¬ s.used id conn = true) {bridge : Bridge}
    (listed : bridge ∈ s.bridges) (is : bridge.id = id) : bridge.holds conn = false := by
  rw [Bool.eq_false_iff]
  intro holds
  exact unused (List.any_eq_true.mpr ⟨bridge, listed, by simp [is, holds]⟩)

theorem used_held {s : State} {id : Nat} {conn : UInt32} (used : s.used id conn = true) :
    ∃ bridge ∈ s.bridges, bridge.holds conn = true := by
  obtain ⟨bridge, listed, is⟩ := List.any_eq_true.mp used
  exact ⟨bridge, listed, (Bool.and_eq_true_iff.mp is).2⟩

/-! ### Steps of the loop -/

section Loop

variable {s : State} {routing : Routing}

/-- Whatever else happens, `route` keeps its place and the channels become fewer. -/
theorem step_other (running : s.routing = some routing) {event : Event} (other : event ≠ .advance) :
    (s.step event).routing = some routing ∧ (s.step event).sequence = s.sequence ∧ Quiet s (s.step event) := by
  cases event with
  | advance => exact absurd rfl other
  | route bridge connection =>
      rw [State.step, if_neg (by simp [running])]
      exact ⟨running, rfl, .same rfl⟩
  | registered bridge =>
      rw [State.step, if_neg (by simp [running])]
      exact ⟨running, rfl, .same rfl⟩
  | gone bridge =>
      rw [State.step, if_neg (by simp [running])]
      exact ⟨running, rfl, .same rfl⟩
  | ended bridge conn => exact ⟨running, rfl, .onBridge (fun _ => rfl) fun _ _ => holds_remove⟩
  | finished bridge => exact ⟨running, rfl, .onBridge (fun _ => rfl) fun _ _ _ => rfl⟩

theorem step_running (running : s.routing = some routing) : s.step .advance = s.advance routing := by
  unfold State.step
  rw [running]

/-- How far the loop is from a number that is free. -/
def rank (free : UInt32) (s : State) : Phase → Nat
  | .next => ((free - s.sequence).toNat + 1) * (s.bridges.length + 3)
  | .checking candidate unasked => (free - candidate).toNat * (s.bridges.length + 3) + unasked.length + 1
  | .found _ => 0

/-- Each number that is not the free one is one closer to it. -/
theorem sub_succ {free candidate : UInt32} (differs : candidate ≠ free) :
    (free - (candidate + 1)).toNat + 1 = (free - candidate).toNat := by
  have apart : candidate.toNat ≠ free.toNat := fun same => differs (UInt32.toNat_inj.mp same)
  have small := candidate.toNat_lt
  have small' := free.toNat_lt
  have one : (1 : UInt32).toNat = 1 := rfl
  rw [UInt32.toNat_sub, UInt32.toNat_sub, UInt32.toNat_add, one]
  omega

/-- Where a step of the loop goes. -/
def phaseAfter (s : State) : Phase → Phase
  | .next => if s.sequence ≠ 0 then .checking s.sequence (s.bridges.map Bridge.id) else .next
  | .checking candidate [] => .found candidate
  | .checking candidate (id :: unasked) => if s.used id candidate then .next else .checking candidate unasked
  | .found conn => .found conn

theorem advance_phase (looks : ∀ conn, routing.phase ≠ .found conn) :
    (s.advance routing).routing = some { routing with phase := phaseAfter s routing.phase } ∧
      (s.advance routing).bridges = s.bridges := by
  obtain ⟨bridge, connection, phase⟩ := routing
  cases phase with
  | found conn => exact absurd rfl (looks conn)
  | next => exact ⟨rfl, rfl⟩
  | checking candidate unasked =>
      cases unasked with
      | nil => exact ⟨rfl, rfl⟩
      | cons id unasked => exact ⟨rfl, rfl⟩

/-- A step of the loop keeps what is known of the candidate. -/
theorem advance_fresh (fresh : Fresh s routing.phase) (looks : ∀ conn, routing.phase ≠ .found conn) :
    Fresh (s.advance routing) (phaseAfter s routing.phase) := by
  obtain ⟨bridge, connection, phase⟩ := routing
  cases phase with
  | found conn => exact absurd rfl (looks conn)
  | next =>
      unfold phaseAfter
      dsimp only
      split
      · rename_i nonzero
        refine ⟨nonzero, rfl, Nat.le_of_eq (List.length_map _), ?_⟩
        intro bridge listed out
        exact absurd (List.mem_map_of_mem listed) out
      · trivial
  | checking candidate unasked =>
      obtain ⟨nonzero, before, few, asked⟩ := fresh
      cases unasked with
      | nil => exact ⟨nonzero, fun bridge listed => asked bridge listed List.not_mem_nil⟩
      | cons id unasked =>
          unfold phaseAfter
          dsimp only
          split
          · trivial
          · rename_i unused
            rw [List.length_cons] at few
            refine ⟨nonzero, before, Nat.le_of_succ_le few, ?_⟩
            intro bridge listed out
            by_cases here : bridge.id = id
            · exact not_used unused listed here
            · exact asked bridge listed (by simp [here, out])

/-- A step of the loop goes on towards the free number. -/
theorem advance_rank (fresh : Fresh s routing.phase) (looks : ∀ conn, routing.phase ≠ .found conn) {free : UInt32}
    (some_ : free ≠ 0) (unused : Free s free) :
    rank free (s.advance routing) (phaseAfter s routing.phase) < rank free s routing.phase := by
  obtain ⟨bridge, connection, phase⟩ := routing
  cases phase with
  | found conn => exact absurd rfl (looks conn)
  | next =>
      unfold phaseAfter State.advance
      dsimp only
      split
      · simp only [rank, List.length_map]
        rw [Nat.add_mul]
        omega
      · rename_i zero
        have differs : s.sequence ≠ free := fun same => zero (same ▸ some_)
        simp only [rank]
        rw [sub_succ differs, Nat.add_mul]
        omega
  | checking candidate unasked =>
      obtain ⟨nonzero, before, few, asked⟩ := fresh
      cases unasked with
      | nil => exact Nat.succ_pos _
      | cons id unasked =>
          unfold phaseAfter State.advance
          dsimp only
          split
          · rename_i used
            have differs : candidate ≠ free := by
              rintro rfl
              obtain ⟨bridge, listed, holds⟩ := used_held used
              rw [unused bridge listed] at holds
              cases holds
            simp only [rank, before]
            rw [sub_succ differs]
            omega
          · simp only [rank, List.length_cons]
            omega

end Loop

/-! ### The loop ends -/

theorem rank_quiet {s s' : State} (quiet : Quiet s s') (same : s'.sequence = s.sequence) (free : UInt32) (phase : Phase) :
    rank free s' phase = rank free s phase := by
  cases phase with
  | next => rw [rank, rank, same, quiet.count]
  | checking candidate unasked => rw [rank, rank, quiet.count]
  | found conn => rfl

theorem rank_zero {free : UInt32} {s : State} {phase : Phase} (ended : rank free s phase = 0) : ∃ conn, phase = .found conn := by
  cases phase with
  | found conn => exact ⟨conn, rfl⟩
  | next =>
      have pos : 0 < ((free - s.sequence).toNat + 1) * (s.bridges.length + 3) := Nat.mul_pos (by omega) (by omega)
      rw [rank] at ended
      omega
  | checking candidate unasked => simp [rank] at ended

theorem loop_run {s : State} {routing : Routing} (running : s.routing = some routing) (fresh : Fresh s routing.phase)
    {free : UInt32} (some_ : free ≠ 0) (unused : Free s free) (events : List Event)
    (enough : rank free s routing.phase ≤ events.count .advance) :
    ∃ front back conn, events = front ++ back ∧ (s.run front).routing = some { routing with phase := .found conn } ∧
      Fresh (s.run front) (.found conn) := by
  induction events generalizing s routing with
  | nil =>
      obtain ⟨conn, is⟩ := rank_zero (Nat.le_zero.mp enough)
      exact ⟨[], [], conn, rfl, by rw [← is]; exact running, is ▸ fresh⟩
  | cons event events ih =>
      by_cases ended : ∃ conn, routing.phase = .found conn
      · obtain ⟨conn, is⟩ := ended
        exact ⟨[], event :: events, conn, rfl, by rw [← is]; exact running, is ▸ fresh⟩
      · by_cases own : event = .advance
        · subst own
          have looks : ∀ conn, routing.phase ≠ .found conn := fun conn is => ended ⟨conn, is⟩
          obtain ⟨goes, same⟩ := advance_phase looks
          have fresh' := advance_fresh fresh looks
          have closer := advance_rank fresh looks some_ unused
          rw [← step_running running] at goes same fresh' closer
          have unused' : Free (s.step .advance) free := unused.quiet (.same same)
          rw [List.count_cons_self] at enough
          obtain ⟨front, back, conn, is, found, free'⟩ := ih goes fresh' unused' (by dsimp only; omega)
          exact ⟨.advance :: front, back, conn, congrArg (.advance :: ·) is, found, free'⟩
        · obtain ⟨goes, same, quiet⟩ := step_other running own
          rw [List.count_cons_of_ne own] at enough
          obtain ⟨front, back, conn, is, found, free'⟩ := ih goes (fresh.quiet quiet same) (unused.quiet quiet)
            (by rw [rank_quiet quiet same]; exact enough)
          exact ⟨event :: front, back, conn, congrArg (event :: ·) is, found, free'⟩

/-- As long as there are fewer channels than numbers, one is free. -/
theorem free_exists {s : State} (few : s.channelCount < 2 ^ 32 - 1) : ∃ free : UInt32, free ≠ 0 ∧ Free s free := by
  let taken := 0 :: s.bridges.flatMap fun bridge => bridge.channels.map Prod.fst
  have size : taken.length = s.channelCount + 1 := by
    simp [taken, State.channelCount, List.length_flatMap]
  obtain ⟨n, below, out⟩ : ∃ n, n < 2 ^ 32 ∧ n ∉ taken.map UInt32.toNat := by
    apply Classical.byContradiction
    intro none_
    have all : List.range (2 ^ 32) ⊆ taken.map UInt32.toNat := by
      intro n inside
      apply Classical.byContradiction
      exact fun out => none_ ⟨n, List.mem_range.mp inside, out⟩
    have fits := (List.nodup_range.subperm all).length_le
    rw [List.length_range, List.length_map, size] at fits
    omega
  have value : (UInt32.ofNat n).toNat = n := UInt32.toNat_ofNat_of_lt' below
  have missing : UInt32.ofNat n ∉ taken := fun held => out (List.mem_map.mpr ⟨_, held, value⟩)
  refine ⟨UInt32.ofNat n, fun zero => missing (zero ▸ List.mem_cons_self), ?_⟩
  intro bridge listed
  rw [Bool.eq_false_iff, ne_eq, holds_iff]
  exact fun held => missing (List.mem_cons_of_mem _ (List.mem_flatMap.mpr ⟨bridge, listed, held⟩))

/-! ### Runs -/

/-- What is known of the candidate of a `route` that holds the lock. -/
def Known (s : State) : Prop := ∀ routing, s.routing = some routing → Fresh s routing.phase

theorem known_step {s : State} (known : Known s) (event : Event) : Known (s.step event) := by
  cases routes : s.routing with
  | some routing =>
      have fresh := known routing routes
      by_cases own : event = .advance
      · subst own
        rw [step_running routes]
        by_cases ended : ∃ conn, routing.phase = .found conn
        · obtain ⟨conn, is⟩ := ended
          intro routing' routes'
          rw [State.advance, is] at routes'
          cases routes'
        · have looks : ∀ conn, routing.phase ≠ .found conn := fun conn is => ended ⟨conn, is⟩
          intro routing' routes'
          rw [(advance_phase looks).1] at routes'
          cases routes'
          exact advance_fresh fresh looks
      · obtain ⟨goes, same, quiet⟩ := step_other routes own
        intro routing' routes'
        rw [goes] at routes'
        cases routes'
        exact fresh.quiet quiet same
  | none =>
      have idle {s' : State} (same : s'.routing = none) : Known s' := by
        intro routing' routes'
        rw [same] at routes'
        cases routes'
      cases event with
      | advance =>
          rw [State.step, routes]
          exact idle routes
      | route bridge connection =>
          rw [State.step]
          split
          · intro routing' routes'
            cases routes'
            trivial
          · exact known
      | registered bridge =>
          rw [State.step]
          split
          · exact idle routes
          · exact known
      | gone bridge =>
          rw [State.step, if_pos routes]
          exact idle routes
      | ended bridge conn => exact idle routes
      | finished bridge => exact idle routes

theorem known_run {s : State} (known : Known s) (events : List Event) : Known (s.run events) := by
  induction events generalizing s with
  | nil => exact known
  | cons event events ih => exact ih (known_step known event)

/-- The registration of a connection whose number is free. -/
theorem advance_found {s : State} {routing : Routing} {conn : UInt32} (free : Free s conn)
    (found : routing.phase = .found conn) :
    (s.advance routing).bridges = s.bridges.map fun bridge =>
      if bridge.id = routing.bridge then { bridge with channels := (conn, routing.connection) :: bridge.channels } else bridge := by
  unfold State.advance
  rw [found]
  refine List.map_congr_left ?_
  intro bridge listed
  dsimp only
  rw [insert_free (free bridge listed)]

/-- The loop ends, whatever ends in between, with a number that is free; and registering it replaces nothing, in any run. -/
theorem conn_ids_fresh :
    (∀ (s : State) (routing : Routing), s.routing = some routing → routing.phase = .next → s.channelCount < 2 ^ 32 - 1 →
      ∃ n, ∀ events : List Event, n ≤ events.count .advance → ∃ front back conn, events = front ++ back ∧
        (s.run front).routing = some { routing with phase := .found conn } ∧ conn ≠ 0 ∧
        ∀ bridge ∈ (s.run front).bridges, bridge.holds conn = false) ∧
    ∀ (s : State) (events : List Event) (routing : Routing) (conn : UInt32), s.routing = none →
      (s.run events).routing = some routing → routing.phase = .found conn →
      conn ≠ 0 ∧ (∀ bridge ∈ (s.run events).bridges, bridge.holds conn = false) ∧
      ((s.run events).step .advance).bridges = (s.run events).bridges.map fun bridge =>
        if bridge.id = routing.bridge then { bridge with channels := (conn, routing.connection) :: bridge.channels }
        else bridge := by
  constructor
  · intro s routing running begins few
    obtain ⟨free, some_, unused⟩ := free_exists few
    have fresh : Fresh s routing.phase := by
      rw [begins]
      trivial
    refine ⟨rank free s routing.phase, ?_⟩
    intro events enough
    obtain ⟨front, back, conn, is, found, nonzero, free'⟩ := loop_run running fresh some_ unused events enough
    exact ⟨front, back, conn, is, found, nonzero, free'⟩
  · intro s events routing conn idle routes found
    have known : Known s := by
      intro routing routes
      rw [idle] at routes
      cases routes
    have fresh := known_run known events routing routes
    rw [found] at fresh
    rw [step_running routes]
    exact ⟨fresh.1, fresh.2, advance_found fresh.2 found⟩

/-- The sequence wraps, and skips zero and a number in use. -/
example : ((State.mk 0xffffffff [⟨1, [(0xffffffff, 7), (1, 8)]⟩] none).run
    (.route 1 9 :: List.replicate 9 .advance)).bridges = [⟨1, [(2, 9), (0xffffffff, 7), (1, 8)]⟩] := by
  decide

end OpenTunnel.ConnIds
