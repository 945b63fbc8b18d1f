/-
Module: OpenTunnel.Proofs.ReadBatches
Layer: Proofs
Purpose: Batched reads lose and mix nothing. A request is in the queue, in one runner's batch or answered, never in two
  of them; its answer comes from a statement that ran after it was put into the queue; as long as the queue is not
  empty there is a runner; and in every run in which each runner goes on, each request is answered.
Imports: OpenTunnel.Tasks.Steps, OpenTunnel.Model.ReadBatches
Trusted boundary: none (fully proved)
Main exports: ReadState.Intact, ReadState.reads_served
Open obligations: none
-/
import OpenTunnel.Tasks.Steps
import OpenTunnel.Model.ReadBatches

namespace OpenTunnel

open Tasks

variable {Snapshot : Type}

/-! ### Statements and what they return -/

theorem mem_statementsOf {ids : List TunnelId} {id : TunnelId} (asked : id ∈ ids) : ∃ s ∈ statementsOf ids, id ∈ s := by
  unfold statementsOf
  cases plain : isLiteral id with
  | false =>
      refine ⟨[id], List.mem_append_left _ ?_, by simp⟩
      exact List.mem_map.mpr ⟨id, by simp [asked, plain], rfl⟩
  | true =>
      have literal : id ∈ (ids.filter isLiteral).eraseDups := by simp [asked, plain]
      refine ⟨_, List.mem_append_right _ ?_, literal⟩
      have some_ : (ids.filter isLiteral).eraseDups ≠ [] := List.ne_nil_of_mem literal
      simp [some_]

theorem lookup_returned (rows : TunnelId → Option (DecodedRow Snapshot)) (ids : List TunnelId) (id : TunnelId) :
    (returned rows ids).lookup id = if id ∈ ids then rows id else none := by
  induction ids with
  | nil => rfl
  | cons first rest ih =>
      unfold returned at ih ⊢
      by_cases same : id = first
      · subst same
        cases found : rows id with
        | none => simpa [found] using ih
        | some row => simp [found]
      · cases found : rows first with
        | none => simpa [found, same] using ih
        | some row =>
            have differs : (id == first) = false := by simp [same]
            simpa [found, same, List.lookup_cons, differs] using ih

namespace ReadState

/-! ### What every state satisfies -/

/-- The requests that a runner has taken. -/
def batchOf : BatchRunner Snapshot → List ReadRequest
  | .top => []
  | .reading batch _ _ => batch

@[simp] theorem batchOf_top : batchOf (.top : BatchRunner Snapshot) = [] := rfl

@[simp] theorem batchOf_reading (batch : List ReadRequest) (left : List (List TunnelId))
    (found : List (TunnelId × DecodedRow Snapshot)) : batchOf (.reading batch left found) = batch := rfl

/-- A statement of the request's batch, run after it was put into the queue, found this for its ID. -/
def Evidence (statements : List (ReadStatement Snapshot)) (request : ReadRequest) (row : Option (DecodedRow Snapshot)) :
    Prop :=
  ∃ statement ∈ statements, request ∈ statement.batch ∧ request.enqueuedAt < statement.time ∧
    request.id ∈ statement.ids ∧ statement.error = none ∧ statement.rows request.id = row

/-- A statement of the request's batch, run after it was put into the queue, failed. -/
def Failure (statements : List (ReadStatement Snapshot)) (request : ReadRequest) (error : String) : Prop :=
  ∃ statement ∈ statements, request ∈ statement.batch ∧ request.enqueuedAt < statement.time ∧
    statement.error = some error

/-- The answer is the row of the request's own ID, its absence, the reason it does not decode, or the batch's error. -/
def Truthful (statements : List (ReadStatement Snapshot)) (answer : ReadAnswer Snapshot) : Prop :=
  (∃ row, Evidence statements answer.request row ∧ answer.answer = answerOf row) ∨
    ∃ error, Failure statements answer.request error ∧ answer.answer = .error (batchError error)

/-- What a runner has found for its requests is what its statements returned, or is still to be asked. -/
def Backed (statements : List (ReadStatement Snapshot)) : BatchRunner Snapshot → Prop
  | .top => True
  | .reading batch left found => ∀ request ∈ batch,
      (∀ row, found.lookup request.id = some row → Evidence statements request (some row)) ∧
      (found.lookup request.id = none → (∃ ids ∈ left, request.id ∈ ids) ∨ Evidence statements request none)

structure Intact (s : ReadState Snapshot) : Prop where
  keys : (s.runners.map (·.1)).Nodup
  fresh : ∀ entry ∈ s.runners, entry.1 < s.clock
  counted : s.running = s.runners.length
  few : s.running ≤ readBatches
  awake : s.waiting ≠ [] → s.runners ≠ []
  /-- each request asked is in one place -/
  whole : List.Perm (s.waiting ++ s.runners.flatMap (fun entry => batchOf entry.2) ++ s.answered.map (·.request)) s.asked
  tickets : s.asked.map (·.ticket) = List.range s.asked.length
  earlier : ∀ request ∈ s.asked, request.enqueuedAt < s.clock
  backed : ∀ entry ∈ s.runners, Backed s.statements entry.2
  truthful : ∀ answer ∈ s.answered, Truthful s.statements answer

section Monotone

variable {statements more : List (ReadStatement Snapshot)}

theorem Evidence.mono (subset : ∀ s ∈ statements, s ∈ more) {request : ReadRequest} {row : Option (DecodedRow Snapshot)}
    (evidence : Evidence statements request row) : Evidence more request row := by
  obtain ⟨statement, held, rest⟩ := evidence
  exact ⟨statement, subset statement held, rest⟩

theorem Truthful.mono (subset : ∀ s ∈ statements, s ∈ more) {answer : ReadAnswer Snapshot}
    (truthful : Truthful statements answer) : Truthful more answer := by
  rcases truthful with ⟨row, evidence, is⟩ | ⟨error, ⟨statement, held, rest⟩, is⟩
  · exact Or.inl ⟨row, evidence.mono subset, is⟩
  · exact Or.inr ⟨error, ⟨statement, subset statement held, rest⟩, is⟩

theorem Backed.mono (subset : ∀ s ∈ statements, s ∈ more) {runner : BatchRunner Snapshot}
    (backed : Backed statements runner) : Backed more runner := by
  cases runner with
  | top => trivial
  | reading batch left found =>
      intro request held
      obtain ⟨present, absent⟩ := backed request held
      exact ⟨fun row is => (present row is).mono subset, fun is => (absent is).imp_right (·.mono subset)⟩

end Monotone

/-- A statement returns the rows of its IDs. -/
theorem Backed.ask {statements : List (ReadStatement Snapshot)} {batch : List ReadRequest} {ids : List TunnelId}
    {left : List (List TunnelId)} {found : List (TunnelId × DecodedRow Snapshot)}
    {rows : TunnelId → Option (DecodedRow Snapshot)} {time : Nat}
    (backed : Backed statements (.reading batch (ids :: left) found))
    (earlier : ∀ request ∈ batch, request.enqueuedAt < time) :
    Backed (statements ++ [{ time := time, batch := batch, ids := ids, rows := rows, error := none }])
      (.reading batch left (returned rows ids ++ found)) := by
  intro request held
  obtain ⟨present, absent⟩ := backed request held
  have subset : ∀ s ∈ statements,
      s ∈ statements ++ [{ time := time, batch := batch, ids := ids, rows := rows, error := none }] :=
    fun _ held => List.mem_append_left _ held
  have asked (inside : request.id ∈ ids) : Evidence (statements ++
      [{ time := time, batch := batch, ids := ids, rows := rows, error := none }]) request (rows request.id) :=
    ⟨_, List.mem_append_right _ (List.mem_singleton_self _), held, earlier request held, inside, rfl, rfl⟩
  rw [List.lookup_append, lookup_returned]
  by_cases inside : request.id ∈ ids
  · rw [if_pos inside]
    have evidence := asked inside
    cases read : rows request.id with
    | some row =>
        rw [read] at evidence
        refine ⟨fun other is => ?_, fun is => by simp at is⟩
        cases is
        exact evidence
    | none =>
        rw [read] at evidence
        exact ⟨fun row is => (present row (by simpa using is)).mono subset, fun _ => Or.inr evidence⟩
  · rw [if_neg inside]
    refine ⟨fun row is => (present row (by simpa using is)).mono subset, fun is => ?_⟩
    rcases absent (by simpa using is) with ⟨others, among, asks⟩ | evidence
    · rcases List.mem_cons.mp among with rfl | later
      · exact absurd asks inside
      · exact Or.inl ⟨others, later, asks⟩
    · exact Or.inr (evidence.mono subset)

namespace Intact

variable {s s' : ReadState Snapshot}

theorem initial (rows : TunnelId → Option (DecodedRow Snapshot)) : Intact { rows := rows } where
  keys := List.nodup_nil
  fresh := by simp
  counted := rfl
  few := Nat.zero_le _
  awake := by simp
  whole := List.Perm.refl _
  tickets := rfl
  earlier := by simp
  backed := by simp
  truthful := by simp

theorem tick (intact : Intact s) : Intact { s with clock := s.clock + 1 } :=
  { intact with
    fresh := fun entry held => Nat.lt_succ_of_lt (intact.fresh entry held)
    earlier := fun request held => Nat.lt_succ_of_lt (intact.earlier request held) }

/-- A runner's number names one entry, and setting it changes that entry only. -/
theorem split (intact : Intact s) {runner : Nat} {at_ : BatchRunner Snapshot}
    (found : s.runners.lookup runner = some at_) : ∃ before after, s.runners = before ++ (runner, at_) :: after ∧
      (∀ new, (s.runners.map fun entry => if entry.1 = runner then (runner, new) else entry) =
        before ++ (runner, new) :: after) ∧
      s.runners.filter (·.1 ≠ runner) = before ++ after := by
  obtain ⟨before, after, is, -⟩ := List.lookup_eq_some_iff.mp found
  have keys := intact.keys
  rw [is, List.map_append, List.map_cons, List.nodup_append] at keys
  obtain ⟨-, rest, apart⟩ := keys
  have first : ∀ entry ∈ before, entry.1 ≠ runner := by
    intro entry held
    exact apart entry.1 (List.mem_map_of_mem held) runner List.mem_cons_self
  have last : ∀ entry ∈ after, entry.1 ≠ runner := by
    rintro entry held rfl
    exact (List.nodup_cons.mp rest).1 (List.mem_map.mpr ⟨entry, held, rfl⟩)
  refine ⟨before, after, is, ?_, ?_⟩
  · intro new
    have kept {entries : List (Nat × BatchRunner Snapshot)} (others : ∀ entry ∈ entries, entry.1 ≠ runner) :
        (entries.map fun entry => if entry.1 = runner then (runner, new) else entry) = entries := by
      apply (List.map_congr_left ?_).trans (List.map_id entries)
      intro entry held
      exact if_neg (others entry held)
    rw [is, List.map_append, List.map_cons, kept first, kept last]
    simp
  · rw [is, List.filter_append, List.filter_cons]
    have firsts : before.filter (·.1 ≠ runner) = before := List.filter_eq_self.mpr fun entry held => by
      simpa using first entry held
    have lasts : after.filter (·.1 ≠ runner) = after := List.filter_eq_self.mpr fun entry held => by
      simpa using last entry held
    simp only [ne_eq, not_true_eq_false, decide_false, Bool.false_eq_true, if_false] at firsts lasts ⊢
    rw [firsts, lasts]

/-- One runner goes on: what it takes comes from the queue, what it gives up is answered. -/
theorem replace (intact : Intact s) {runner : Nat} {old new : BatchRunner Snapshot}
    (found : s.runners.lookup runner = some old)
    (runners : s'.runners = s.runners.map fun entry => if entry.1 = runner then (runner, new) else entry)
    (clock : s'.clock = s.clock) (running : s'.running = s.running) (asked : s'.asked = s.asked)
    (logged : ∀ statement ∈ s.statements, statement ∈ s'.statements)
    (moved : List.Perm (s'.waiting ++ batchOf new ++ s'.answered.map (·.request))
      (s.waiting ++ batchOf old ++ s.answered.map (·.request)))
    (backed : Backed s'.statements new) (truthful : ∀ answer ∈ s'.answered, Truthful s'.statements answer) :
    Intact s' := by
  obtain ⟨before, after, is, set, -⟩ := intact.split found
  have now : s'.runners = before ++ (runner, new) :: after := runners.trans (set new)
  have keys := intact.keys
  have fresh := intact.fresh
  have counted := intact.counted
  have whole := intact.whole
  rw [is] at keys fresh counted whole
  exact {
    keys := by simpa [now] using keys
    fresh := by
      intro entry held
      rw [clock]
      rw [now] at held
      rcases List.mem_append.mp held with first | later
      · exact fresh entry (List.mem_append_left _ first)
      · rcases List.mem_cons.mp later with rfl | last
        · exact fresh (runner, old) (by simp)
        · exact fresh entry (by simp [last])
    counted := by
      rw [running, now, counted]
      simp
    few := by
      rw [running]
      exact intact.few
    awake := by simp [now]
    whole := by
      rw [asked]
      refine List.Perm.trans ?_ whole
      apply List.perm_iff_count.mpr
      intro request
      have same := List.perm_iff_count.mp moved request
      simp only [now, List.flatMap_append, List.flatMap_cons, List.count_append] at same ⊢
      omega
    tickets := by
      rw [asked]
      exact intact.tickets
    earlier := by
      rw [asked, clock]
      exact intact.earlier
    backed := by
      intro entry held
      rw [now] at held
      have others : entry ∈ before ++ (runner, old) :: after → Backed s'.statements entry.2 := by
        intro held
        rw [← is] at held
        exact (intact.backed entry held).mono logged
      rcases List.mem_append.mp held with first | later
      · exact others (List.mem_append_left _ first)
      · rcases List.mem_cons.mp later with rfl | last
        · exact backed
        · exact others (by simp [last])
    truthful := truthful }

theorem read_clock (s : ReadState Snapshot) (id : TunnelId) : (s.read id).clock = s.clock := by
  unfold ReadState.read
  split <;> rfl

/-- A caller puts a request into the queue, and there is a runner. -/
theorem read (intact : Intact s) (id : TunnelId) : Intact { s.read id with clock := s.clock + 1 } := by
  have asked (request : ReadRequest) (held : request ∈ s.asked ++ [s.request id]) :
      request.enqueuedAt < s.clock + 1 := by
    rcases List.mem_append.mp held with old | new
    · exact Nat.lt_succ_of_lt (intact.earlier request old)
    · obtain rfl := List.mem_singleton.mp new
      exact Nat.lt_succ_self _
  have tickets : (s.asked ++ [s.request id]).map (·.ticket) = List.range (s.asked ++ [s.request id]).length := by
    simp [intact.tickets, List.range_succ, request]
  have whole {runners : List (Nat × BatchRunner Snapshot)}
      (same : runners.flatMap (fun entry => batchOf entry.2) = s.runners.flatMap (fun entry => batchOf entry.2)) :
      List.Perm (s.waiting ++ [s.request id] ++ runners.flatMap (fun entry => batchOf entry.2) ++
        s.answered.map (·.request)) (s.asked ++ [s.request id]) := by
    apply List.perm_iff_count.mpr
    intro request
    have before := List.perm_iff_count.mp intact.whole request
    simp only [same, List.count_append] at before ⊢
    omega
  have fresh (entry : Nat × BatchRunner Snapshot) (held : entry ∈ s.runners) : entry.1 < s.clock + 1 :=
    Nat.lt_succ_of_lt (intact.fresh entry held)
  unfold ReadState.read
  split
  · rename_i room
    exact {
      keys := by
        simp only [List.map_append, List.map_cons, List.map_nil]
        apply List.nodup_append.mpr
        refine ⟨intact.keys, by simp, ?_⟩
        intro key held key' new same
        obtain ⟨entry, there, rfl⟩ := List.mem_map.mp held
        obtain rfl := List.mem_singleton.mp new
        have older := intact.fresh entry there
        omega
      fresh := by
        intro entry held
        rcases List.mem_append.mp held with old | new
        · exact fresh entry old
        · obtain rfl := List.mem_singleton.mp new
          exact Nat.lt_succ_self _
      counted := by simp [intact.counted]
      few := room
      awake := by simp
      whole := whole (by simp [batchOf])
      tickets := tickets
      earlier := asked
      backed := by
        intro entry held
        rcases List.mem_append.mp held with old | new
        · exact intact.backed entry old
        · obtain rfl := List.mem_singleton.mp new
          trivial
      truthful := intact.truthful }
  · rename_i full
    exact {
      keys := intact.keys
      fresh := fresh
      counted := intact.counted
      few := intact.few
      awake := by
        intro _ none
        have none' : s.runners = [] := none
        have counted := intact.counted
        rw [none', List.length_nil] at counted
        simp [counted, readBatches] at full
      whole := whole rfl
      tickets := tickets
      earlier := asked
      backed := intact.backed
      truthful := intact.truthful }

/-- A runner ends when the queue is empty. -/
theorem leave (intact : Intact s) {runner : Nat} (found : s.runners.lookup runner = some .top) (idle : s.waiting = []) :
    Intact { s with running := s.running - 1, runners := s.runners.filter (·.1 ≠ runner) } := by
  obtain ⟨before, after, is, -, gone⟩ := intact.split found
  have sub : (s.runners.filter (·.1 ≠ runner)).Sublist s.runners := List.filter_sublist
  exact {
    keys := intact.keys.sublist (sub.map _)
    fresh := fun entry held => intact.fresh entry (sub.subset held)
    counted := by
      have counted := intact.counted
      simp only [is, List.length_append, List.length_cons] at counted
      simp only [gone, List.length_append]
      omega
    few := Nat.le_trans (Nat.sub_le _ _) intact.few
    awake := fun waits => absurd idle waits
    whole := by
      have whole := intact.whole
      simp only [is, List.flatMap_append, List.flatMap_cons, batchOf_top, List.nil_append] at whole
      simpa only [gone, List.flatMap_append] using whole
    tickets := intact.tickets
    earlier := intact.earlier
    backed := fun entry held => intact.backed entry (sub.subset held)
    truthful := intact.truthful }

/-- The requests of a runner's batch were put into the queue before now. -/
theorem taken_earlier (intact : Intact s) {runner : Nat} {at_ : BatchRunner Snapshot}
    (found : s.runners.lookup runner = some at_) : ∀ request ∈ batchOf at_, request.enqueuedAt < s.clock := by
  intro request held
  obtain ⟨before, after, is, -, -⟩ := intact.split found
  apply intact.earlier
  apply intact.whole.subset
  simp [is, held]

theorem backed_of (intact : Intact s) {runner : Nat} {at_ : BatchRunner Snapshot}
    (found : s.runners.lookup runner = some at_) : Backed s.statements at_ := by
  obtain ⟨before, after, is, -, -⟩ := intact.split found
  exact intact.backed (runner, at_) (by simp [is])

theorem turn (intact : Intact s) {runner : Nat} {error : Option String} (taken : s.turn runner error = some s') :
    Intact s' := by
  unfold ReadState.turn at taken
  split at taken
  · cases taken
  · rename_i found
    split at taken
    · rename_i idle
      cases taken
      exact intact.leave found (List.isEmpty_iff.mp idle)
    · cases taken
      refine intact.replace found rfl rfl rfl rfl (fun _ held => held) ?_ ?_ intact.truthful
      · apply List.perm_iff_count.mpr
        intro request
        have parts : (s.waiting.take (min s.waiting.length readBatch)).count request +
            (s.waiting.drop (min s.waiting.length readBatch)).count request = s.waiting.count request := by
          rw [← List.count_append, List.take_append_drop]
        simp only [setRunner, batchOf_reading, batchOf_top, List.count_append, List.count_nil] at parts ⊢
        omega
      · intro request held
        refine ⟨fun row is => by simp at is, fun _ => Or.inl (mem_statementsOf (List.mem_map_of_mem held))⟩
  · -- every statement has run: the rows found are the answers
    rename_i batch rows found
    cases taken
    have backed : Backed s.statements (.reading batch [] rows) := intact.backed_of found
    refine intact.replace found rfl rfl rfl rfl (fun _ held => held) ?_ trivial ?_
    · apply List.perm_iff_count.mpr
      intro request
      simp [setRunner, Function.comp_def, List.count_append]
      omega
    · intro answer held
      rcases List.mem_append.mp held with old | new
      · exact intact.truthful answer old
      · obtain ⟨request, inside, rfl⟩ := List.mem_map.mp new
        left
        obtain ⟨present, absent⟩ := backed request inside
        cases read : rows.lookup request.id with
        | some row => exact ⟨some row, present row read, rfl⟩
        | none =>
            rcases absent read with ⟨ids, left, -⟩ | evidence
            · cases left
            · exact ⟨none, evidence, rfl⟩
  · -- a statement runs
    rename_i batch ids left rows found
    have backed : Backed s.statements (.reading batch (ids :: left) rows) := intact.backed_of found
    have earlier := intact.taken_earlier found
    split at taken
    · cases taken
      refine intact.replace found rfl rfl rfl rfl (fun _ held => List.mem_append_left _ held) (List.Perm.refl _) ?_ ?_
      · exact backed.ask earlier
      · intro answer held
        exact (intact.truthful answer held).mono fun _ held => List.mem_append_left _ held
    · rename_i error
      cases taken
      refine intact.replace found rfl rfl rfl rfl (fun _ held => List.mem_append_left _ held) ?_ trivial ?_
      · apply List.perm_iff_count.mpr
        intro request
        simp [setRunner, Function.comp_def, List.count_append]
        omega
      · intro answer held
        rcases List.mem_append.mp held with old | new
        · exact (intact.truthful answer old).mono fun _ held => List.mem_append_left _ held
        · obtain ⟨request, inside, rfl⟩ := List.mem_map.mp new
          right
          exact ⟨error, ⟨_, List.mem_append_right _ (List.mem_singleton_self _), inside, earlier request inside, rfl⟩, rfl⟩

theorem step {e : Event Snapshot} (intact : Intact s) (taken : s.step e = some s') : Intact s' := by
  obtain ⟨mid, moved, rfl⟩ := Option.map_eq_some_iff.mp taken
  cases e with
  | write id row =>
      cases moved
      exact { intact.tick with }
  | read id =>
      cases moved
      rw [read_clock]
      exact intact.read id
  | turn runner error => exact (intact.turn moved).tick

end Intact

/-! ### Every request is answered -/

section Progress

variable {s s' : ReadState Snapshot} {runner : Nat} {error : Option String}

theorem lookup_setRunner (s : ReadState Snapshot) (runner other : Nat) (new : BatchRunner Snapshot) :
    (s.setRunner runner new).runners.lookup other =
      if other = runner then (s.runners.lookup other).map fun _ => new else s.runners.lookup other := by
  unfold setRunner
  dsimp only
  induction s.runners with
  | nil => simp
  | cons entry rest ih =>
      obtain ⟨key, at_⟩ := entry
      by_cases same : other = runner
      · subst same
        by_cases is : key = other
        · simp [is]
        · have differs : (other == key) = false := by simp [Ne.symm is]
          simpa [is, List.lookup_cons, differs] using ih
      · by_cases is : other = key
        · subst is
          simp [same]
        · by_cases owns : key = runner
          · have differs : (other == runner) = false := by simp [same]
            simpa [owns, List.lookup_cons, differs, same] using ih
          · have differs : (other == key) = false := by simp [is]
            simpa [owns, List.lookup_cons, differs, same] using ih

theorem lookup_setRunner_self {old : BatchRunner Snapshot} (new : BatchRunner Snapshot)
    (found : s.runners.lookup runner = some old) : (s.setRunner runner new).runners.lookup runner = some new := by
  rw [lookup_setRunner, if_pos rfl, found]
  rfl

theorem lookup_filter_ne {entries : List (Nat × BatchRunner Snapshot)} {other : Nat} (differs : other ≠ runner) :
    (entries.filter (·.1 ≠ runner)).lookup other = entries.lookup other := by
  induction entries with
  | nil => rfl
  | cons entry rest ih =>
      obtain ⟨key, at_⟩ := entry
      by_cases is : key = runner
      · subst is
        have unequal : (other == key) = false := by simp [differs]
        simpa [List.lookup_cons, unequal] using ih
      · by_cases same : other == key <;> simp_all [List.lookup_cons]

/-- The turns that a runner needs to come back to the top of its loop. -/
def work : BatchRunner Snapshot → Nat
  | .top => 0
  | .reading _ left _ => left.length + 1

/-- A runner is moved by its own turns only. -/
theorem step_other {e : Event Snapshot} {at_ : BatchRunner Snapshot} (taken : s.step e = some s')
    (other : ∀ error, e ≠ .turn runner error) (found : s.runners.lookup runner = some at_) :
    s'.runners.lookup runner = some at_ := by
  obtain ⟨mid, moved, rfl⟩ := Option.map_eq_some_iff.mp taken
  cases e with
  | write id row =>
      cases moved
      exact found
  | read id =>
      cases moved
      unfold ReadState.read
      split
      · simp [List.lookup_append, found]
      · exact found
  | turn mover error =>
      have differs : runner ≠ mover := by
        rintro rfl
        exact other error rfl
      simp only [ReadState.next, ReadState.turn] at moved
      split at moved
      · cases moved
      · split at moved <;> cases moved
        · exact (lookup_filter_ne differs).trans found
        · exact (lookup_setRunner _ _ _ _).trans (by simpa [differs] using found)
      · cases moved
        exact (lookup_setRunner _ _ _ _).trans (by simpa [differs] using found)
      · split at moved <;> cases moved
        · exact (lookup_setRunner _ _ _ _).trans (by simpa [differs] using found)
        · exact (lookup_setRunner _ _ _ _).trans (by simpa [differs] using found)

/-- A turn with a batch: the batch is answered, or a statement less is left. -/
theorem turn_reading {batch : List ReadRequest} {left : List (List TunnelId)}
    {found : List (TunnelId × DecodedRow Snapshot)} (taken : s.turn runner error = some s')
    (at_ : s.runners.lookup runner = some (.reading batch left found)) :
    s'.waiting = s.waiting ∧
      ((∀ request ∈ batch, ∃ answer ∈ s'.answered, answer.request = request) ∧ s'.runners.lookup runner = some .top ∨
      ∃ ids rest found', left = ids :: rest ∧ s'.runners.lookup runner = some (.reading batch rest found')) := by
  have answers (answer : ReadRequest → Except String (Option Snapshot)) (request : ReadRequest)
      (held : request ∈ batch) : ∃ given ∈ s.answered ++ batch.map fun request =>
        ({ request := request, answer := answer request } : ReadAnswer Snapshot), given.request = request :=
    ⟨_, List.mem_append_right _ (List.mem_map_of_mem held), rfl⟩
  cases left with
  | nil =>
      simp only [ReadState.turn, at_] at taken
      cases taken
      exact ⟨rfl, Or.inl ⟨answers _, lookup_setRunner_self _ at_⟩⟩
  | cons ids rest =>
      simp only [ReadState.turn, at_] at taken
      cases error with
      | none =>
          cases taken
          exact ⟨rfl, Or.inr ⟨ids, rest, _, rfl, lookup_setRunner_self _ at_⟩⟩
      | some error =>
          cases taken
          exact ⟨rfl, Or.inl ⟨answers _, lookup_setRunner_self _ at_⟩⟩

/-- The request has come forward in the queue, or is in a batch. -/
def Advanced (request : ReadRequest) (ahead : Nat) (s : ReadState Snapshot) : Prop :=
  (∃ before after, s.waiting = before ++ request :: after ∧ before.length < ahead) ∨
    ∃ runner batch left found, s.runners.lookup runner = some (.reading batch left found) ∧ request ∈ batch

/-- A turn at the top takes the front of the queue. -/
theorem turn_top {request : ReadRequest} {before after : List ReadRequest} (taken : s.turn runner error = some s')
    (at_ : s.runners.lookup runner = some .top) (queued : s.waiting = before ++ request :: after) :
    Advanced request before.length s' := by
  have some_ : ¬ s.waiting.isEmpty := by simp [queued]
  simp only [ReadState.turn, at_, if_neg some_] at taken
  cases taken
  have taken : 0 < min s.waiting.length readBatch := by
    have waits : s.waiting ≠ [] := by simp [queued]
    exact Nat.lt_min.mpr ⟨List.length_pos_iff.mpr waits, by decide⟩
  by_cases reached : before.length < min s.waiting.length readBatch
  · have inside : request ∈ s.waiting.take (min s.waiting.length readBatch) := by
      generalize min s.waiting.length readBatch = n at reached
      obtain ⟨m, more⟩ : ∃ m, n - before.length = m + 1 := ⟨n - before.length - 1, by omega⟩
      rw [queued, List.take_append, more]
      simp
    exact Or.inr ⟨runner, _, _, _, lookup_setRunner_self _ at_, inside⟩
  · refine Or.inl ⟨before.drop (min s.waiting.length readBatch), after, ?_, ?_⟩
    · show s.waiting.drop _ = _
      generalize min s.waiting.length readBatch = n at reached
      rw [queued, List.drop_append_of_le_length (by omega)]
    · rw [List.length_drop]
      omega

/-- Every step leaves a request where it is in the queue, or brings it forward. -/
theorem step_queued {e : Event Snapshot} {request : ReadRequest} {before after : List ReadRequest}
    (taken : s.step e = some s') (queued : s.waiting = before ++ request :: after) :
    (∃ after', s'.waiting = before ++ request :: after') ∨ Advanced request before.length s' := by
  obtain ⟨mid, moved, rfl⟩ := Option.map_eq_some_iff.mp taken
  cases e with
  | write id row =>
      cases moved
      exact Or.inl ⟨after, queued⟩
  | read id =>
      cases moved
      refine Or.inl ⟨after ++ [s.request id], ?_⟩
      unfold ReadState.read
      split <;> simp [enqueue, queued]
  | turn runner error =>
      cases found : s.runners.lookup runner with
      | none => simp [ReadState.next, ReadState.turn, found] at moved
      | some at_ =>
          cases at_ with
          | top =>
              have advanced := turn_top moved found queued
              exact Or.inr advanced
          | reading batch left rows => exact Or.inl ⟨after, (turn_reading moved found).1.trans queued⟩

end Progress

section Endless

variable {run : Nat → ReadState Snapshot} {events : Nat → Event Snapshot}

/-- Every runner goes on: its statements end, and it gets its turns. -/
def Fair (run : Nat → ReadState Snapshot) (events : Nat → Event Snapshot) : Prop :=
  ∀ t runner at_, (run t).runners.lookup runner = some at_ → ∃ t', t ≤ t' ∧ ∃ error, events t' = .turn runner error

/-- The request has its answer. -/
def Answered (request : ReadRequest) (s : ReadState Snapshot) : Prop := ∃ answer ∈ s.answered, answer.request = request

/-- When the runner's next turn comes, it is where it was. -/
theorem next_turn (endless : Endless step run events) (fair : Fair run events) {t runner : Nat}
    {at_ : BatchRunner Snapshot} (found : (run t).runners.lookup runner = some at_) : ∃ t' error, t ≤ t' ∧
      (run t').runners.lookup runner = some at_ ∧ events t' = .turn runner error := by
  have kept (t' : Nat) (other : ¬ ∃ error, events t' = .turn runner error)
      (still : (run t').runners.lookup runner = some at_) :
      (run (t' + 1)).runners.lookup runner = some at_ ∨ False :=
    Or.inl (step_other (endless.next t') (fun error is => other ⟨error, is⟩) still)
  rcases awaited (P := fun s : ReadState Snapshot => s.runners.lookup runner = some at_) (Q := fun _ => False)
    (T := fun e => ∃ error, e = Event.turn runner error) found (fair t runner at_ found) kept with
    ⟨t', later, still, error, is⟩ | ⟨_, _, never⟩
  · exact ⟨t', error, later, still, is⟩
  · exact never.elim

theorem turned (endless : Endless step run events) {t runner : Nat} {error : Option String}
    (is : events t = .turn runner error) : ∃ s, (run t).turn runner error = some s ∧ run (t + 1) = { s with clock := s.clock + 1 } := by
  have taken := endless.next t
  rw [is] at taken
  obtain ⟨s, moved, same⟩ := Option.map_eq_some_iff.mp taken
  exact ⟨s, moved, same.symm⟩

/-- A request in a batch is answered. Induction on the statements left. -/
theorem batch_answered (endless : Endless step run events) (fair : Fair run events) {request : ReadRequest}
    {runner : Nat} {batch : List ReadRequest} (held : request ∈ batch) (left : List (List TunnelId))
    {found : List (TunnelId × DecodedRow Snapshot)} {t : Nat}
    (at_ : (run t).runners.lookup runner = some (.reading batch left found)) :
    ∃ t', t ≤ t' ∧ Answered request (run t') := by
  induction left generalizing found t with
  | nil =>
      obtain ⟨t', error, later, still, is⟩ := next_turn endless fair at_
      obtain ⟨s, taken, after⟩ := turned endless is
      rcases (turn_reading taken still).2 with ⟨answers, -⟩ | ⟨ids, rest, _, none, -⟩
      · refine ⟨t' + 1, by omega, ?_⟩
        rw [after]
        exact answers request held
      · cases none
  | cons ids rest ih =>
      obtain ⟨t', error, later, still, is⟩ := next_turn endless fair at_
      obtain ⟨s, taken, after⟩ := turned endless is
      rcases (turn_reading taken still).2 with ⟨answers, -⟩ | ⟨_, _, found', same, reads⟩
      · refine ⟨t' + 1, by omega, ?_⟩
        rw [after]
        exact answers request held
      · cases same
        obtain ⟨t'', last, answered⟩ := ih (t := t' + 1) (by rw [after]; exact reads)
        exact ⟨t'', by omega, answered⟩

/-- A request in the queue comes forward, or is where it was when a runner's next turn comes. -/
theorem queued_turn (endless : Endless step run events) (fair : Fair run events) {request : ReadRequest}
    {before after : List ReadRequest} {t runner : Nat} {at_ : BatchRunner Snapshot}
    (found : (run t).runners.lookup runner = some at_) (queued : (run t).waiting = before ++ request :: after) :
    (∃ t' s error after, t ≤ t' ∧ (run t').turn runner error = some s ∧ run (t' + 1) = { s with clock := s.clock + 1 } ∧
      (run t').runners.lookup runner = some at_ ∧ (run t').waiting = before ++ request :: after) ∨
    ∃ t', t ≤ t' ∧ Advanced request before.length (run t') := by
  have kept (t' : Nat) (other : ¬ ∃ error, events t' = .turn runner error)
      (holds : (run t').runners.lookup runner = some at_ ∧ ∃ after, (run t').waiting = before ++ request :: after) :
      ((run (t' + 1)).runners.lookup runner = some at_ ∧ ∃ after, (run (t' + 1)).waiting = before ++ request :: after) ∨
        Advanced request before.length (run (t' + 1)) := by
    obtain ⟨still, after, queued⟩ := holds
    rcases step_queued (endless.next t') queued with ⟨after', queued'⟩ | advanced
    · exact Or.inl ⟨step_other (endless.next t') (fun error is => other ⟨error, is⟩) still, after', queued'⟩
    · exact Or.inr advanced
  rcases awaited (T := fun e => ∃ error, e = Event.turn runner error) (Q := Advanced request before.length)
    (P := fun s : ReadState Snapshot => s.runners.lookup runner = some at_ ∧
      ∃ after, s.waiting = before ++ request :: after)
    ⟨found, after, queued⟩ (fair t runner at_ found) kept with ⟨t', later, ⟨still, after, queued⟩, error, is⟩ | advanced
  · obtain ⟨s, taken, next⟩ := turned endless is
    exact Or.inl ⟨t', s, error, after, later, taken, next, still, queued⟩
  · exact Or.inr advanced

/-- As long as there is a runner, a request in the queue comes forward. Induction on the turns the runner needs to come
    back to the top of its loop. -/
theorem queue_advances (endless : Endless step run events) (fair : Fair run events) {request : ReadRequest}
    {before after : List ReadRequest} {runner n t : Nat} {at_ : BatchRunner Snapshot} (needs : work at_ ≤ n)
    (found : (run t).runners.lookup runner = some at_) (queued : (run t).waiting = before ++ request :: after) :
    ∃ t', t ≤ t' ∧ Advanced request before.length (run t') := by
  induction n generalizing at_ t after with
  | zero =>
      cases at_ with
      | reading batch left rows => simp [work] at needs
      | top =>
          rcases queued_turn endless fair found queued with ⟨t', s, error, after, later, taken, next, still, queued⟩ |
            advanced
          · refine ⟨t' + 1, by omega, ?_⟩
            rw [next]
            have advanced := turn_top taken still queued
            exact advanced
          · exact advanced
  | succ n ih =>
      rcases queued_turn endless fair found queued with ⟨t', s, error, after, later, taken, next, still, queued⟩ |
        advanced
      · have goesOn (at' : BatchRunner Snapshot) (fewer : work at' ≤ n) (waits : s.waiting = before ++ request :: after)
            (moved : s.runners.lookup runner = some at') : ∃ t', t ≤ t' ∧ Advanced request before.length (run t') := by
          have found' : (run (t' + 1)).runners.lookup runner = some at' := by
            rw [next]
            exact moved
          have queued' : (run (t' + 1)).waiting = before ++ request :: after := by
            rw [next]
            exact waits
          obtain ⟨t'', last, advanced⟩ := ih fewer found' queued'
          exact ⟨t'', by omega, advanced⟩
        cases at_ with
        | top =>
            refine ⟨t' + 1, by omega, ?_⟩
            rw [next]
            have advanced := turn_top taken still queued
            exact advanced
        | reading batch left rows =>
            obtain ⟨same, ⟨-, top⟩ | ⟨ids, rest, found', is, reads⟩⟩ := turn_reading taken still
            · exact goesOn .top (Nat.zero_le _) (same.trans queued) top
            · subst is
              exact goesOn _ (by simp [work] at needs ⊢; omega) (same.trans queued) reads
      · exact advanced

/-- A request in the queue is answered. Induction on the requests before it. -/
theorem queue_answered (endless : Endless step run events) (fair : Fair run events) (intact : ∀ t, Intact (run t))
    {request : ReadRequest} (ahead : Nat) {before after : List ReadRequest} {t : Nat} (position : before.length ≤ ahead)
    (queued : (run t).waiting = before ++ request :: after) : ∃ t', t ≤ t' ∧ Answered request (run t') := by
  have advances {before after : List ReadRequest} {t : Nat} (queued : (run t).waiting = before ++ request :: after) :
      ∃ t', t ≤ t' ∧ Advanced request before.length (run t') := by
    have runs : (run t).runners ≠ [] := (intact t).awake (by simp [queued])
    obtain ⟨⟨runner, at_⟩, rest, is⟩ := List.exists_cons_of_ne_nil runs
    have found : (run t).runners.lookup runner = some at_ := by simp [is]
    exact queue_advances endless fair (Nat.le_refl _) found queued
  induction ahead generalizing before after t with
  | zero =>
      obtain ⟨t', later, advanced⟩ := advances queued
      rcases advanced with ⟨before', _, _, less⟩ | ⟨runner, batch, left, found, reads, held⟩
      · omega
      · obtain ⟨t'', last, answered⟩ := batch_answered endless fair held left reads
        exact ⟨t'', by omega, answered⟩
  | succ ahead ih =>
      obtain ⟨t', later, advanced⟩ := advances queued
      rcases advanced with ⟨before', after', queued', less⟩ | ⟨runner, batch, left, found, reads, held⟩
      · obtain ⟨t'', last, answered⟩ := ih (by omega) queued'
        exact ⟨t'', by omega, answered⟩
      · obtain ⟨t'', last, answered⟩ := batch_answered endless fair held left reads
        exact ⟨t'', by omega, answered⟩

end Endless

/-! ### The reads -/

/-- What holds of the requests, the runners and the answers in a state. -/
structure Served (s : ReadState Snapshot) : Prop where
  runners : s.runners.length ≤ readBatches
  awake : s.waiting ≠ [] → s.runners ≠ []
  /-- each request is in the queue, in one batch or answered, once -/
  once : List.Perm (s.waiting ++ s.runners.flatMap (fun entry => batchOf entry.2) ++ s.answered.map (·.request)) s.asked
  distinct : s.asked.Nodup
  truthful : ∀ answer ∈ s.answered, Truthful s.statements answer

theorem Intact.served {s : ReadState Snapshot} (intact : Intact s) : Served s where
  runners := by
    rw [← intact.counted]
    exact intact.few
  awake := intact.awake
  once := intact.whole
  distinct := by
    have tickets : (s.asked.map (·.ticket)).Nodup := by
      rw [intact.tickets]
      exact List.nodup_range
    exact (List.pairwise_map.mp tickets).imp fun differs same => differs (congrArg ReadRequest.ticket same)
  truthful := intact.truthful

theorem lookup_of_mem {entries : List (Nat × BatchRunner Snapshot)} (keys : (entries.map (·.1)).Nodup)
    {entry : Nat × BatchRunner Snapshot} (held : entry ∈ entries) : entries.lookup entry.1 = some entry.2 := by
  induction entries with
  | nil => cases held
  | cons first rest ih =>
      obtain ⟨out, apart⟩ := List.nodup_cons.mp keys
      obtain ⟨key, at_⟩ := first
      rcases List.mem_cons.mp held with rfl | later
      · simp
      · have differs : (entry.1 == key) = false := by
          rw [beq_eq_false_iff_ne]
          rintro rfl
          exact out (List.mem_map.mpr ⟨entry, later, rfl⟩)
        rw [List.lookup_cons, differs]
        exact ih apart later

/-- In every state the requests are served as promised; and in every run in which the runners go on, every request that
    was asked is answered. -/
theorem reads_served (rows : TunnelId → Option (DecodedRow Snapshot)) :
    (∀ s, Stepped step (fun _ _ => True) { rows := rows } s → Served s) ∧
    ∀ run events, run 0 = { rows := rows } → Endless step run events → Fair run events →
      ∀ t, ∀ request ∈ (run t).asked, ∃ t', t ≤ t' ∧ Answered request (run t') := by
  have intact (s : ReadState Snapshot) (reached : Stepped step (fun _ _ => True) { rows := rows } s) : Intact s :=
    reached.invariant (.initial rows) fun _ _ _ _ holds taken => holds.step taken
  refine ⟨fun s reached => (intact s reached).served, ?_⟩
  intro run events start endless fair t request asked
  have all (t : Nat) : Intact (run t) := intact (run t) (start ▸ endless.stepped t)
  rcases List.mem_append.mp ((all t).whole.symm.subset asked) with here | given
  · rcases List.mem_append.mp here with waits | taken
    · obtain ⟨before, after, queued⟩ := List.append_of_mem waits
      exact queue_answered endless fair all before.length (Nat.le_refl _) queued
    · obtain ⟨⟨runner, at_⟩, held, inside⟩ := List.mem_flatMap.mp taken
      have found := lookup_of_mem (all t).keys held
      cases at_ with
      | top => cases inside
      | reading batch left rows => exact batch_answered endless fair inside left found
  · obtain ⟨answer, held, is⟩ := List.mem_map.mp given
    exact ⟨t, Nat.le_refl _, answer, held, is⟩

/-- One read, whose runner takes it, reads, answers and ends. After that only rows are written. -/
def soloEvents : Nat → Event Nat
  | 0 => .read "t"
  | 1 | 2 | 3 | 4 => .turn 0 none
  | _ => .write "other" none

def soloRun : Nat → ReadState Nat :=
  runOf step soloEvents { rows := fun id => if id = "t" then some (.ok 7) else none }

theorem solo_endless : Endless step soloRun soloEvents := by
  apply endless_runOf
  intro t
  match t with
  | 0 | 1 | 2 | 3 | 4 => decide +kernel
  | t + 5 => rfl

theorem solo_rests (t : Nat) : (soloRun (t + 5)).runners.map (·.1) = [] := by
  induction t with
  | zero => decide +kernel
  | succ t ih => exact ih

theorem solo_keys (t : Nat) : (soloRun t).runners.map (·.1) = [] ∨
    (soloRun t).runners.map (·.1) = [0] ∧ soloEvents t = .turn 0 none := by
  match t with
  | 0 => exact Or.inl rfl
  | 1 | 2 | 3 | 4 => exact Or.inr ⟨by decide +kernel, rfl⟩
  | t + 5 => exact Or.inl (solo_rests t)

theorem solo_fair : Fair soloRun soloEvents := by
  intro t runner at_ found
  have held : runner ∈ (soloRun t).runners.map (·.1) := by
    obtain ⟨before, after, is, -⟩ := List.lookup_eq_some_iff.mp found
    simp [is]
  rcases solo_keys t with none_ | ⟨one, turn⟩
  · rw [none_] at held
    cases held
  · rw [one, List.mem_singleton] at held
    exact ⟨t, Nat.le_refl _, none, held ▸ turn⟩

/-- The read of an endless run is answered, and its states are as promised. -/
theorem reads_served_solo :
    (∃ t, Answered { ticket := 0, id := "t", enqueuedAt := 0 } (soloRun t)) ∧ Served (soloRun 3) ∧
      (soloRun 3).runners.length = 1 := by
  obtain ⟨served, answered⟩ := @reads_served Nat fun id => if id = "t" then some (.ok 7) else none
  obtain ⟨t, -, given⟩ := answered soloRun soloEvents rfl solo_endless solo_fair 1
    { ticket := 0, id := "t", enqueuedAt := 0 } (by decide +kernel)
  exact ⟨⟨t, given⟩, served _ (solo_endless.stepped 3), by decide +kernel⟩

/-- A row that does not decode: its read is answered with the reason, which is neither a row nor the error of a
    batch. -/
theorem undecoded_row_answered : ∃ s : ReadState Nat,
    Stepped step (fun _ _ => True) { rows := fun id => if id = "t" then some (.error "decoding a stored tunnel") else none } s ∧
    ∃ answer ∈ s.answered, (∀ row, answer.answer ≠ .ok row) ∧ ∀ error, ¬ Failure s.statements answer.request error := by
  have played : (playSteps step (fun _ _ => True) [.read "t", .turn 0 none, .turn 0 none, .turn 0 none]
      { rows := fun id => if id = "t" then some (.error "decoding a stored tunnel") else none }).map
        (fun s : ReadState Nat => (s.answered.map (fun answer => match answer.answer with
          | .ok _ => none
          | .error error => some error), s.statements.map (·.error))) =
      some ([some "decoding a stored tunnel"], [none]) := by
    decide +kernel
  obtain ⟨s, ran, seen⟩ := Option.map_eq_some_iff.mp played
  obtain ⟨answers, errors⟩ := Prod.mk.inj seen
  obtain ⟨answer, others, is, failed, -⟩ := List.map_eq_cons_iff.mp answers
  refine ⟨s, stepped_of_play ran, answer, by simp [is], ?_, ?_⟩
  · intro row same
    simp [same] at failed
  · rintro error ⟨statement, held, -, -, fails⟩
    have none_ : statement.error ∈ s.statements.map (·.error) := List.mem_map_of_mem held
    rw [errors, List.mem_singleton, fails] at none_
    cases none_

end ReadState

end OpenTunnel
