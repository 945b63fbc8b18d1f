/-
Module: OpenTunnel.Proofs.Schedule
Layer: Proofs
Purpose: The runner's schedule, the list of due jobs and the claim say the same of what may be taken now. The schedule
  lists what is not yet due by kind before time, so it is soonest first exactly when no first issuance comes due
  before a renewal listed ahead of it.
Imports: OpenTunnel.Model.Schedule
Trusted boundary: none (fully proved)
Main exports: ScheduleAgrees, schedule_agrees_iff
Open obligations: none
-/
import OpenTunnel.Model.Schedule

namespace OpenTunnel

open Tasks (Table)

/-- The owner may take the job at `now`, as the statements' conditions read it. -/
def JobRow.Ready (row : JobRow) (owner : MachineId) (now : Nat) : Prop :=
  row.status = .pending ∧ row.runAt ≤ now ∧ row.takeable owner now = true

/-- What the two listings and the claim are to agree on, whatever limit a listing is given: a listed due job can be
claimed; a job that can be claimed is listed, unless the listing is full of due ones; what is due comes first, and
of it renewals and the server's own jobs before first issuance; the rest is soonest first. -/
structure ScheduleAgrees (db : Db) (owner : MachineId) (now : Nat) : Prop where
  scheduled : ∀ limit, ∀ entry ∈ db.dueSchedule owner now limit,
    (db.takeJob entry.certificateId owner now).isSome = true
  listed : ∀ limit, ∀ c ∈ db.dueJobIds owner now limit, (db.takeJob c owner now).isSome = true
  takenScheduled : ∀ limit c, (db.takeJob c owner now).isSome = true →
    (∃ entry ∈ db.dueSchedule owner now limit, entry.certificateId = c) ∨
      (db.dueSchedule owner now limit).length = limit
  takenListed : ∀ limit c, (db.takeJob c owner now).isSome = true →
    c ∈ db.dueJobIds owner now limit ∨ (db.dueJobIds owner now limit).length = limit
  renewalsFirst : ∀ limit, (db.jobSchedule owner now limit).Pairwise fun a b =>
    b.readyAt ≤ now → a.readyAt ≤ now ∧ (b.kind ≠ .issue → a.kind ≠ .issue)
  soonestFirst : ∀ limit, ((db.jobSchedule owner now limit).filter fun entry => now < entry.readyAt).Pairwise
    fun a b => a.readyAt ≤ b.readyAt

/-- No pending first issuance that is not yet due comes due before such a renewal or server job. -/
def Db.RenewalsSooner (db : Db) (owner : MachineId) (now : Nat) : Prop :=
  ∀ c row c' row', db.job c = some row → db.job c' = some row' → row.status = .pending → row'.status = .pending →
    now < row.readyAt owner → now < row'.readyAt owner → row.job.kind = .issue → row'.job.kind ≠ .issue →
      row'.readyAt owner ≤ row.readyAt owner

section Claims

variable {db : Db} {owner : MachineId} {now : Nat} {c : CertificateId}

/-- The schedule's time and the condition under which a job is claimed: a lease that ends at `lease_until` holds through that millisecond. -/
theorem readyAt_le_iff {row : JobRow} :
    row.readyAt owner ≤ now ↔ row.runAt ≤ now ∧ row.takeable owner now = true := by
  unfold JobRow.readyAt JobRow.takeable
  cases row.leaseUntil with
  | none => simp
  | some leaseUntil =>
      by_cases own : row.leaseOwner = some owner
      · simp [own]
      · simp only [own, if_false, Option.all_some, decide_false, Bool.or_false, decide_eq_true_eq]
        omega

theorem takeJob_isSome_iff :
    (db.takeJob c owner now).isSome = true ↔ ∃ row, db.job c = some row ∧ row.Ready owner now := by
  unfold Db.takeJob Db.claimJob JobRow.Ready
  cases held : db.job c with
  | none => simp
  | some row =>
      by_cases ready : row.status = .pending ∧ row.runAt ≤ now ∧ row.takeable owner now = true
      · simp [ready, Db.claimedJob]
      · simp [ready]

theorem mem_due_pending {entry : Scheduled} :
    (entry ∈ db.pendingJobs owner ∧ entry.readyAt ≤ now) ↔
      ∃ row, db.job entry.certificateId = some row ∧ row.Ready owner now ∧ entry.readyAt = row.readyAt owner ∧
        entry.kind = row.job.kind := by
  constructor
  · rintro ⟨listed, due⟩
    obtain ⟨row, held, pending, ready, kind⟩ := Db.mem_pendingJobs.mp listed
    rw [ready] at due
    exact ⟨row, held, ⟨pending, readyAt_le_iff.mp due⟩, ready, kind⟩
  · rintro ⟨row, held, ⟨pending, due⟩, ready, kind⟩
    refine ⟨Db.mem_pendingJobs.mpr ⟨row, held, pending, ready, kind⟩, ?_⟩
    rw [ready]
    exact readyAt_le_iff.mpr due

theorem pending_of_mem_jobSchedule {limit : Nat} {entry : Scheduled}
    (listed : entry ∈ db.jobSchedule owner now limit) : entry ∈ db.pendingJobs owner :=
  (mem_orderBy _).mp (List.mem_of_mem_take listed)

theorem ready_of_mem_dueJobs {limit : Nat} {row : JobRow} (listed : (c, row) ∈ db.dueJobs owner now limit) :
    db.job c = some row ∧ row.Ready owner now := by
  obtain ⟨held, ready⟩ := List.mem_filter.mp ((mem_orderBy _).mp (List.mem_of_mem_take listed))
  exact ⟨Db.mem_jobRows.mp held, by simpa [JobRow.Ready] using ready⟩

end Claims

section Order

variable {now : Nat} {a b : Scheduled}

/-- Lists are ordered by their first elements, then by what follows. -/
theorem cons_le_iff {m n : Nat} {rest rest' : List Nat} : m :: rest ≤ n :: rest' ↔ m < n ∨ m = n ∧ rest ≤ rest' := by
  rw [← not_lt, ← not_lt, List.cons_lt_cons_iff, not_or, not_and, not_lt]
  constructor
  · rintro ⟨first, later⟩
    rcases lt_or_eq_of_le first with less | same
    · exact .inl less
    · exact .inr ⟨same, later same.symm⟩
  · rintro (less | ⟨rfl, later⟩)
    · exact ⟨less.le, fun same => absurd same less.ne'⟩
    · exact ⟨le_rfl, fun _ => later⟩

theorem order_le_iff : a.order now ≤ b.order now ↔
    (decide (now < a.readyAt)).toNat < (decide (now < b.readyAt)).toNat ∨
      (decide (now < a.readyAt)).toNat = (decide (now < b.readyAt)).toNat ∧
        ((decide (a.kind = .issue)).toNat < (decide (b.kind = .issue)).toNat ∨
          (decide (a.kind = .issue)).toNat = (decide (b.kind = .issue)).toNat ∧ a.readyAt ≤ b.readyAt) := by
  unfold Scheduled.order
  simp only [cons_le_iff]
  simp [Nat.le_iff_lt_or_eq]

theorem due_of_order_le (before : a.order now ≤ b.order now) (due : b.readyAt ≤ now) :
    a.readyAt ≤ now ∧ (b.kind ≠ .issue → a.kind ≠ .issue) := by
  have notLate : ¬ now < b.readyAt := by omega
  rw [order_le_iff] at before
  by_cases late : now < a.readyAt
  · simp [late, notLate] at before
  · refine ⟨by omega, fun second first => ?_⟩
    simp [late, notLate, first, second] at before

/-- Two jobs not yet due, in the schedule's order. -/
theorem late_order_le_iff (lateA : now < a.readyAt) (lateB : now < b.readyAt) :
    a.order now ≤ b.order now ↔
      (a.kind ≠ .issue ∧ b.kind = .issue) ∨ ((a.kind = .issue ↔ b.kind = .issue) ∧ a.readyAt ≤ b.readyAt) := by
  rw [order_le_iff]
  by_cases first : a.kind = .issue <;> by_cases second : b.kind = .issue <;>
    simp [lateA, lateB, first, second]

end Order

/-- A sorted listing cut off before one of its rows holds as many rows as it may, each sorted before that one. -/
theorem take_orderBy_full {α : Type} (key : α → List Nat) {rows : List α} (limit : Nat) {row : α}
    (held : row ∈ rows) :
    row ∈ (orderBy key rows).take limit ∨
      ((orderBy key rows).take limit).length = limit ∧ ∀ other ∈ (orderBy key rows).take limit, key other ≤ key row := by
  have listed : row ∈ (orderBy key rows).take limit ++ (orderBy key rows).drop limit := by
    rw [List.take_append_drop]
    exact (mem_orderBy key).mpr held
  rcases List.mem_append.mp listed with kept | cut
  · exact .inl kept
  · refine .inr ⟨?_, fun other before => ?_⟩
    · have more := List.length_pos_of_mem cut
      rw [List.length_drop] at more
      rw [List.length_take]
      omega
    · exact (orderBy_pairwise key rows).rel_of_mem_take_of_mem_drop before cut

section Agreement

variable (db : Db) (owner : MachineId) (now : Nat)

theorem dueSchedule_taken (limit : Nat) (entry : Scheduled) (listed : entry ∈ db.dueSchedule owner now limit) :
    (db.takeJob entry.certificateId owner now).isSome = true := by
  obtain ⟨kept, due⟩ := List.mem_filter.mp listed
  obtain ⟨row, held, ready, _, _⟩ := mem_due_pending.mp ⟨pending_of_mem_jobSchedule kept, by simpa using due⟩
  exact takeJob_isSome_iff.mpr ⟨row, held, ready⟩

theorem dueJobIds_taken (limit : Nat) (c : CertificateId) (listed : c ∈ db.dueJobIds owner now limit) :
    (db.takeJob c owner now).isSome = true := by
  obtain ⟨⟨id, row⟩, kept, rfl⟩ := List.mem_map.mp listed
  obtain ⟨held, ready⟩ := ready_of_mem_dueJobs kept
  exact takeJob_isSome_iff.mpr ⟨row, held, ready⟩

theorem taken_dueSchedule (limit : Nat) (c : CertificateId) (taken : (db.takeJob c owner now).isSome = true) :
    (∃ entry ∈ db.dueSchedule owner now limit, entry.certificateId = c) ∨
      (db.dueSchedule owner now limit).length = limit := by
  obtain ⟨row, held, ready⟩ := takeJob_isSome_iff.mp taken
  let entry : Scheduled := { certificateId := c, readyAt := row.readyAt owner, kind := row.job.kind }
  have due : entry ∈ db.pendingJobs owner ∧ entry.readyAt ≤ now :=
    mem_due_pending.mpr ⟨row, held, ready, rfl, rfl⟩
  rcases take_orderBy_full (Scheduled.order now) limit due.1 with kept | ⟨full, before⟩
  · exact .inl ⟨entry, List.mem_filter.mpr ⟨kept, by simpa using due.2⟩, rfl⟩
  · right
    -- everything listed comes before a due job, so all of it is due
    have all : db.dueSchedule owner now limit = db.jobSchedule owner now limit := by
      apply List.filter_eq_self.mpr
      intro other listed
      simpa using (due_of_order_le (before other listed) due.2).1
    rw [all]
    exact full

theorem taken_dueJobIds (limit : Nat) (c : CertificateId) (taken : (db.takeJob c owner now).isSome = true) :
    c ∈ db.dueJobIds owner now limit ∨ (db.dueJobIds owner now limit).length = limit := by
  obtain ⟨row, held, ready⟩ := takeJob_isSome_iff.mp taken
  have selected : (c, row) ∈ db.jobRows.filter fun entry =>
      entry.2.status = .pending ∧ entry.2.runAt ≤ now ∧ entry.2.takeable owner now = true :=
    List.mem_filter.mpr ⟨Db.mem_jobRows.mpr held, by simpa [JobRow.Ready] using ready⟩
  rcases take_orderBy_full (fun entry => [entry.2.runAt]) limit selected with kept | ⟨full, _⟩
  · exact .inl (List.mem_map.mpr ⟨(c, row), kept, rfl⟩)
  · right
    rw [Db.dueJobIds, List.length_map]
    exact full

theorem jobSchedule_pairwise (limit : Nat) :
    (db.jobSchedule owner now limit).Pairwise fun a b => a.order now ≤ b.order now :=
  (orderBy_pairwise _ _).take

theorem renewals_first (limit : Nat) : (db.jobSchedule owner now limit).Pairwise fun a b =>
    b.readyAt ≤ now → a.readyAt ≤ now ∧ (b.kind ≠ .issue → a.kind ≠ .issue) :=
  (jobSchedule_pairwise db owner now limit).imp due_of_order_le

/-- Two rows of a sorted listing, the first of which sorts strictly before the second: they stand in that order. -/
theorem related_of_order_lt {rows : List Scheduled} {R : Scheduled → Scheduled → Prop}
    (related : rows.Pairwise R) (sorted : rows.Pairwise fun a b => a.order now ≤ b.order now) {a b : Scheduled}
    (first : a ∈ rows) (second : b ∈ rows) (before : ¬ b.order now ≤ a.order now) : R a b := by
  have both := sorted.and related
  induction rows with
  | nil => cases first
  | cons head tail ih =>
      obtain ⟨heads, tails⟩ := List.pairwise_cons.mp both
      rcases List.mem_cons.mp first with rfl | laterA
      · rcases List.mem_cons.mp second with rfl | laterB
        · exact absurd (le_refl _) before
        · exact (heads b laterB).2
      · rcases List.mem_cons.mp second with rfl | laterB
        · exact absurd (heads a laterA).1 before
        · exact ih related.of_cons sorted.of_cons laterA laterB tails

theorem soonest_first_of_sooner (sooner : db.RenewalsSooner owner now) (limit : Nat) :
    ((db.jobSchedule owner now limit).filter fun entry => now < entry.readyAt).Pairwise
      fun a b => a.readyAt ≤ b.readyAt := by
  apply List.Pairwise.imp_of_mem _ ((jobSchedule_pairwise db owner now limit).filter _)
  intro a b listedA listedB before
  obtain ⟨keptA, lateA⟩ := List.mem_filter.mp listedA
  obtain ⟨keptB, lateB⟩ := List.mem_filter.mp listedB
  simp only [decide_eq_true_eq] at lateA lateB
  rcases (late_order_le_iff lateA lateB).mp before with ⟨renewal, issuance⟩ | ⟨_, soon⟩
  · obtain ⟨rowA, heldA, pendingA, readyA, kindA⟩ := Db.mem_pendingJobs.mp (pending_of_mem_jobSchedule keptA)
    obtain ⟨rowB, heldB, pendingB, readyB, kindB⟩ := Db.mem_pendingJobs.mp (pending_of_mem_jobSchedule keptB)
    rw [readyA] at lateA ⊢
    rw [readyB] at lateB ⊢
    exact sooner _ rowB _ rowA heldB heldA pendingB pendingA lateB lateA (kindB ▸ issuance) (kindA ▸ renewal)
  · exact soon

theorem sooner_of_soonest_first
    (soonest : ∀ limit, ((db.jobSchedule owner now limit).filter fun entry => now < entry.readyAt).Pairwise
      fun a b => a.readyAt ≤ b.readyAt) : db.RenewalsSooner owner now := by
  intro c row c' row' held held' pending pending' late late' issuance renewal
  let limit := (orderBy (Scheduled.order now) (db.pendingJobs owner)).length
  have whole : db.jobSchedule owner now limit = orderBy (Scheduled.order now) (db.pendingJobs owner) :=
    List.take_length
  have listed : ∀ {c : CertificateId} {row : JobRow}, db.job c = some row → row.status = .pending →
      now < row.readyAt owner →
      { certificateId := c, readyAt := row.readyAt owner, kind := row.job.kind : Scheduled } ∈
        (db.jobSchedule owner now limit).filter fun entry => now < entry.readyAt := by
    intro c row held pending late
    rw [whole]
    apply List.mem_filter.mpr
    refine ⟨(mem_orderBy _).mpr (Db.mem_pendingJobs.mpr ⟨row, held, pending, rfl, rfl⟩), ?_⟩
    simpa using late
  have sorted := (jobSchedule_pairwise db owner now limit).filter fun entry => decide (now < entry.readyAt)
  refine related_of_order_lt now (soonest limit) sorted (listed held' pending' late') (listed held pending late) ?_
  intro before
  rcases (late_order_le_iff (by exact late) (by exact late')).mp before with ⟨other, _⟩ | ⟨same, _⟩
  · exact other issuance
  · exact renewal (same.mp issuance)

/-- The listings and the claim agree exactly when no first issuance that is not yet due comes due before a renewal or
server job that is not yet due either. -/
theorem schedule_agrees_iff : ScheduleAgrees db owner now ↔ db.RenewalsSooner owner now := by
  constructor
  · intro agrees
    exact sooner_of_soonest_first db owner now agrees.soonestFirst
  · intro sooner
    exact {
      scheduled := dueSchedule_taken db owner now
      listed := dueJobIds_taken db owner now
      takenScheduled := taken_dueSchedule db owner now
      takenListed := taken_dueJobIds db owner now
      renewalsFirst := renewals_first db owner now
      soonestFirst := soonest_first_of_sooner db owner now sooner }

end Agreement

/-- A pending job of `kind`, due at `runAt`, that nobody holds. -/
def queuedJob (c : CertificateId) (kind : JobKind) (runAt : Nat) : JobRow :=
  { job := { certificateId := c, tunnelId := some "t", kind := kind, identifiers := [], csr := "", attempts := 0,
             createdAt := 0 },
    status := .pending, runAt := runAt, updatedAt := 0, leaseOwner := none, leaseUntil := none, lastError := none }

/-- A renewal due at 20 and a first issuance due at 10. -/
def renewalAndIssuance : Db :=
  { tunnels := Table.empty, transactions := Table.empty
    jobs := (Table.empty.put "issue" (queuedJob "issue" .issue 10)).put "renew" (queuedJob "renew" .renew 20) }

/-- Before either is due the schedule has the renewal first, so the runner sleeps past the issuance. -/
theorem renewal_listed_before_sooner_issuance :
    renewalAndIssuance.jobSchedule "a" 0 10 =
        [{ certificateId := "renew", readyAt := 20, kind := .renew },
         { certificateId := "issue", readyAt := 10, kind := .issue }] ∧
      ¬ ScheduleAgrees renewalAndIssuance "a" 0 := by
  have rows : renewalAndIssuance.pendingJobs "a" =
      [{ certificateId := "renew", readyAt := 20, kind := .renew },
       { certificateId := "issue", readyAt := 10, kind := .issue }] := by decide
  have listing : renewalAndIssuance.jobSchedule "a" 0 10 =
      [{ certificateId := "renew", readyAt := 20, kind := .renew },
       { certificateId := "issue", readyAt := 10, kind := .issue }] := by
    rw [Db.jobSchedule, rows, orderBy_of_pairwise]
    · rfl
    · decide
  refine ⟨listing, fun agrees => ?_⟩
  have soonest := agrees.soonestFirst 10
  rw [listing] at soonest
  revert soonest
  decide

end OpenTunnel
