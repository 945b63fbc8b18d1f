/-
Module: OpenTunnel.Proofs.Leases
Layer: Proofs
Purpose: Job leases are exclusive. The statements on `jobs` compete over one row with different guards; a journal is
  the statements of any owners in the order the database ran them, with the times they were sent with. One inversion
  lemma says what a statement may do to a job's row, and three facts follow by induction along a journal: a lease
  that has not expired keeps others out until its owner gives it up, an owner that lost its lease changes nothing,
  and a finished job changes only by being queued again.
Imports: OpenTunnel.Tasks.Journal, OpenTunnel.Model.Statements
Trusted boundary: none (fully proved)
Main exports: RowMove, leases_exclusive
Open obligations: none
-/
import OpenTunnel.Tasks.Journal
import OpenTunnel.Model.Statements

namespace OpenTunnel

open Tasks

/-! ### Statements -/

/-- A database on which finished jobs have no lease, and leases have an end. -/
def Db.Leases (db : Db) : Prop :=
  ∀ c row, db.job c = some row → (row.status ≠ .pending → row.leaseOwner = none) ∧
    (row.leaseOwner = none ↔ row.leaseUntil = none)

/-! ### One statement -/

/-- What a statement may do to a job's row. -/
inductive RowMove (s : JobStatement) (c : CertificateId) (before after : Option JobRow) : Prop where
  | same (kept : after = before)
  | added (job : Job) (runAt : Nat) (row : JobRow) (is : s.call = .add job runAt) (missing : before = none)
      (wrote : after = some row) (pending : row.status = .pending) (free : row.leaseOwner = none)
      (endless : row.leaseUntil = none)
  | claimed (owner : MachineId) (row : JobRow) (is : s.call = .claim c owner) (found : before = some row)
      (pending : row.status = .pending) (free : row.takeable owner s.now = true)
      (wrote : after = some { row with leaseOwner := some owner, leaseUntil := some (s.now + Db.leaseMs) })
  | extended (owner : MachineId) (row : JobRow) (is : s.call = .extend c owner) (found : before = some row)
      (pending : row.status = .pending) (mine : row.leaseOwner = some owner)
      (wrote : after = some { row with leaseUntil := some (s.now + Db.leaseMs) })
  | recorded (owner : MachineId) (row row' : JobRow) (is : s.call.records c owner) (found : before = some row)
      (mine : row.leaseOwner = some owner) (wrote : after = some row') (free : row'.leaseOwner = none)
      (ended : row'.leaseUntil = none)
  | released (owner : MachineId) (row : JobRow) (is : s.call = .release owner) (found : before = some row)
      (mine : row.leaseOwner = some owner)
      (wrote : after = some { row with leaseOwner := none, leaseUntil := none })
  | requeued (row : JobRow) (createdAt : Nat) (is : s.call = .requeueFailed c) (found : before = some row)
      (failed : row.status = .failed) (wrote : after = some (row.requeued createdAt s.now))
  | requeuedBefore (row : JobRow) (limit createdAt : Nat) (is : s.call = .requeueBefore c limit)
      (found : before = some row) (status : row.status = .failed ∨ row.status = .pending)
      (early : row.job.createdAt < limit) (expired : row.leaseUntil.all (· < s.now) = true)
      (wrote : after = some (row.requeued createdAt s.now))

section Statement

variable {s : JobStatement} {db : Db} {c : CertificateId}

theorem job_updateJob (db : Db) (c c' : CertificateId) (guard : JobRow → Bool) (update : JobRow → JobRow) :
    ((db.updateJob c' guard update).2.job c = db.job c ∧ (c = c' → (db.updateJob c' guard update).1 = false)) ∨
      ∃ row, c = c' ∧ db.job c = some row ∧ guard row = true ∧ (db.updateJob c' guard update).1 = true ∧
        (db.updateJob c' guard update).2.job c = some (update row) := by
  unfold Db.updateJob
  cases found : db.job c' with
  | none => exact Or.inl ⟨rfl, fun _ => rfl⟩
  | some row =>
      dsimp only
      by_cases met : guard row = true
      · rw [if_pos met]
        by_cases same : c = c'
        · subst same
          exact Or.inr ⟨row, rfl, found, met, rfl, by simp⟩
        · exact Or.inl ⟨by simp [same], fun is => absurd is same⟩
      · rw [if_neg met]
        exact Or.inl ⟨rfl, fun _ => rfl⟩

theorem job_releaseLeases (db : Db) (owner : MachineId) (c : CertificateId) :
    (db.releaseLeases owner).job c = (db.job c).map fun row =>
      if row.leaseOwner = some owner then { row with leaseOwner := none, leaseUntil := none } else row := by
  unfold Db.releaseLeases Db.job
  simp only [Table.get_update]
  cases db.jobs.get c with
  | none => rfl
  | some row =>
      simp only [Option.bind_some, Option.map_some]
      split <;> rfl

/-- Every statement changes a job's row in one of these ways. -/
theorem perform_row (s : JobStatement) (db : Db) (c : CertificateId) :
    RowMove s c (db.job c) ((s.perform db).2.job c) := by
  obtain ⟨now, call⟩ := s
  cases call with
  | add job runAt =>
      simp only [JobStatement.perform, Db.addJob]
      cases found : db.job job.certificateId with
      | some row => exact .same rfl
      | none =>
          by_cases same : c = job.certificateId
          · subst same
            exact .added job runAt _ rfl found (by rw [Db.job_putJob, if_pos rfl]) rfl rfl rfl
          · exact .same (by simp [same])
  | claim c' owner =>
      simp only [JobStatement.perform, Db.claimJob]
      cases found : db.job c' with
      | none => exact .same rfl
      | some row =>
          dsimp only
          split
          · rename_i guard
            by_cases same : c = c'
            · subst same
              exact .claimed owner row rfl found guard.1 guard.2.2 (by simp)
            · exact .same (by simp [same])
          · exact .same rfl
  | extend c' owner =>
      simp only [JobStatement.perform, Db.extendLease]
      rcases job_updateJob db c c' _ _ with ⟨kept, -⟩ | ⟨row, rfl, found, guard, -, wrote⟩
      · exact .same kept
      · simp only [Bool.and_eq_true, decide_eq_true_eq] at guard
        exact .extended owner row rfl found guard.2 guard.1 wrote
  | finish c' owner status error =>
      simp only [JobStatement.perform, Db.finishJob]
      rcases job_updateJob db c c' _ _ with ⟨kept, -⟩ | ⟨row, rfl, found, guard, -, wrote⟩
      · exact .same kept
      · exact .recorded owner row _ (Or.inl ⟨status, error, rfl⟩) found (of_decide_eq_true guard) wrote rfl rfl
  | retry c' owner attempts runAt error =>
      simp only [JobStatement.perform, Db.retryJob]
      rcases job_updateJob db c c' _ _ with ⟨kept, -⟩ | ⟨row, rfl, found, guard, -, wrote⟩
      · exact .same kept
      · exact .recorded owner row _ (Or.inr ⟨attempts, runAt, error, rfl⟩) found (of_decide_eq_true guard) wrote
          rfl rfl
  | release owner =>
      simp only [JobStatement.perform]
      rw [job_releaseLeases]
      cases found : db.job c with
      | none => exact .same rfl
      | some row =>
          by_cases mine : row.leaseOwner = some owner
          · exact .released owner row rfl rfl mine (by simp [mine])
          · exact .same (by simp [mine])
  | requeueFailed c' =>
      simp only [JobStatement.perform, Db.requeueFailedJob]
      rcases job_updateJob db c c' _ _ with ⟨kept, -⟩ | ⟨row, rfl, found, guard, -, wrote⟩
      · exact .same kept
      · exact .requeued row now rfl found (of_decide_eq_true guard) wrote
  | requeueBefore c' before =>
      simp only [JobStatement.perform, Db.requeueJobQueuedBefore]
      rcases job_updateJob db c c' _ _ with ⟨kept, -⟩ | ⟨row, rfl, found, guard, -, wrote⟩
      · exact .same kept
      · simp only [Bool.and_eq_true, Bool.or_eq_true, decide_eq_true_eq] at guard
        exact .requeuedBefore row before _ rfl found guard.1.1 guard.1.2 guard.2 wrote

/-- A statement that answers false did nothing. -/
theorem perform_false (refused : (s.perform db).1 = false) : (s.perform db).2 = db := by
  have update {c' : CertificateId} {guard : JobRow → Bool} {change : JobRow → JobRow}
      (refused : (db.updateJob c' guard change).1 = false) : (db.updateJob c' guard change).2 = db := by
    unfold Db.updateJob at refused ⊢
    split at refused
    · split at refused
      · cases refused
      · rename_i unmet
        simp [unmet]
    · rfl
  obtain ⟨now, call⟩ := s
  cases call with
  | add job runAt =>
      simp only [JobStatement.perform, Db.addJob] at refused ⊢
      split at refused
      · cases refused
      · rfl
  | claim c owner =>
      simp only [JobStatement.perform, Db.claimJob] at refused ⊢
      split at refused
      · split at refused
        · cases refused
        · rename_i unmet
          rw [if_neg unmet]
      · rfl
  | extend c owner => exact update refused
  | finish c owner status error => exact update refused
  | retry c owner attempts runAt error => exact update refused
  | release owner => cases refused
  | requeueFailed c => exact update refused
  | requeueBefore c before => exact update refused

/-- A claim that succeeds leaves its owner with the lease. -/
theorem claim_true {owner : MachineId} (is : s.call = .claim c owner) (taken : (s.perform db).1 = true) :
    ∃ row, (s.perform db).2.job c = some row ∧ row.status = .pending ∧ row.leaseOwner = some owner ∧
      row.leaseUntil = some (s.now + Db.leaseMs) := by
  simp only [JobStatement.perform, is, Db.claimJob] at taken ⊢
  cases found : db.job c with
  | none => simp [found] at taken
  | some row =>
      simp only [found] at taken ⊢
      split at taken
      · rename_i guard
        rw [if_pos guard]
        exact ⟨{ row with leaseOwner := some owner, leaseUntil := some (s.now + Db.leaseMs) }, by simp, guard.1, rfl,
          rfl⟩
      · cases taken

theorem extend_true {owner : MachineId} (is : s.call = .extend c owner) (taken : (s.perform db).1 = true) :
    ∃ row, (s.perform db).2.job c = some row ∧ row.status = .pending ∧ row.leaseOwner = some owner ∧
      row.leaseUntil = some (s.now + Db.leaseMs) := by
  simp only [JobStatement.perform, is, Db.extendLease] at taken ⊢
  rcases job_updateJob db c c _ _ with ⟨-, refused⟩ | ⟨row, -, found, guard, -, wrote⟩
  · rw [refused rfl] at taken
    cases taken
  · simp only [Bool.and_eq_true, decide_eq_true_eq] at guard
    exact ⟨_, wrote, guard.2, guard.1, rfl⟩

/-- Writing an outcome or extending needs the lease. -/
theorem needs_lease {owner : MachineId} (is : s.call.records c owner ∨ s.call = .extend c owner)
    (done : (s.perform db).1 = true) : ∃ row, db.job c = some row ∧ row.leaseOwner = some owner := by
  have update {guard : JobRow → Bool} {change : JobRow → JobRow}
      (owned : ∀ row, guard row = true → row.leaseOwner = some owner)
      (done : (db.updateJob c guard change).1 = true) : ∃ row, db.job c = some row ∧ row.leaseOwner = some owner := by
    rcases job_updateJob db c c guard change with ⟨-, refused⟩ | ⟨row, -, found, met, -, -⟩
    · rw [refused rfl] at done
      cases done
    · exact ⟨row, found, owned row met⟩
  obtain ⟨now, call⟩ := s
  rcases is with (⟨status, error, rfl⟩ | ⟨attempts, runAt, error, rfl⟩) | rfl
  · exact update (fun row met => of_decide_eq_true met) done
  · exact update (fun row met => of_decide_eq_true met) done
  · apply update (fun row met => ?_) done
    simp only [Bool.and_eq_true, decide_eq_true_eq] at met
    exact met.1

/-! ### What a statement keeps -/

theorem Db.Leases.step (leases : db.Leases) (s : JobStatement) : (s.perform db).2.Leases := by
  intro c row found
  cases perform_row s db c with
  | same kept =>
      rw [kept] at found
      exact leases c row found
  | added job runAt new is missing wrote pending free endless =>
      rw [wrote] at found
      cases found
      exact ⟨fun _ => free, by simp [free, endless]⟩
  | claimed owner old is before pending free wrote =>
      rw [wrote] at found
      cases found
      exact ⟨fun finished => absurd pending finished, by simp⟩
  | extended owner old is before pending mine wrote =>
      rw [wrote] at found
      cases found
      exact ⟨fun finished => absurd pending finished, by simp [mine]⟩
  | recorded owner old new is before mine wrote free ended =>
      rw [wrote] at found
      cases found
      exact ⟨fun _ => free, by simp [free, ended]⟩
  | released owner old is before mine wrote =>
      rw [wrote] at found
      cases found
      exact ⟨fun _ => rfl, by simp⟩
  | requeued old createdAt is before failed wrote =>
      rw [wrote] at found
      cases found
      exact ⟨fun _ => rfl, by simp [JobRow.requeued]⟩
  | requeuedBefore old limit createdAt is before status early expired wrote =>
      rw [wrote] at found
      cases found
      exact ⟨fun _ => rfl, by simp [JobRow.requeued]⟩

/-- The owner's lease on the job runs at least until then. -/
def Db.HeldUntil (db : Db) (c : CertificateId) (owner : MachineId) (until_ : Nat) : Prop :=
  ∃ row at_, db.job c = some row ∧ row.status = .pending ∧ row.leaseOwner = some owner ∧
    row.leaseUntil = some at_ ∧ until_ ≤ at_

/-- The owner gives its lease up. -/
def JobCall.givesUp (call : JobCall) (c : CertificateId) (owner : MachineId) : Prop :=
  call.records c owner ∨ call = .release owner

/-- An unexpired lease stays with its owner, unless the owner gives it up. -/
theorem Db.HeldUntil.step {owner : MachineId} {until_ : Nat} (held : db.HeldUntil c owner until_)
    (early : s.now ≤ until_) (recent : until_ ≤ s.now + leaseMs) (keeps : ¬ s.call.givesUp c owner) :
    (s.perform db).2.HeldUntil c owner until_ := by
  obtain ⟨row, at_, found, pending, mine, ends, later⟩ := held
  cases perform_row s db c with
  | same kept => exact ⟨row, at_, kept.trans found, pending, mine, ends, later⟩
  | added job runAt new is missing wrote _ _ _ =>
      rw [found] at missing
      cases missing
  | claimed owner' old is before _ free wrote =>
      rw [found] at before
      cases before
      -- a claim takes the job only from an expired lease or from itself
      have same : owner' = owner := by
        simp only [JobRow.takeable, ends, Option.all_some, Bool.or_eq_true, decide_eq_true_eq] at free
        rcases free with expired | own
        · omega
        · rw [mine] at own
          exact (Option.some.inj own).symm
      subst same
      exact ⟨_, s.now + leaseMs, wrote, pending, rfl, rfl, recent⟩
  | extended owner' old is before _ _ wrote =>
      rw [found] at before
      cases before
      exact ⟨_, s.now + leaseMs, wrote, pending, mine, rfl, recent⟩
  | recorded owner' old new is before own wrote _ _ =>
      rw [found] at before
      cases before
      rw [mine] at own
      cases own
      exact absurd (Or.inl is) keeps
  | released owner' old is before own wrote =>
      rw [found] at before
      cases before
      rw [mine] at own
      cases own
      exact absurd (Or.inr is) keeps
  | requeued old createdAt is before failed wrote =>
      rw [found] at before
      cases before
      rw [pending] at failed
      cases failed
  | requeuedBefore old limit createdAt is before _ _ expired wrote =>
      rw [found] at before
      cases before
      simp only [ends, Option.all_some, decide_eq_true_eq] at expired
      omega

/-- The owner does not hold the job's lease. -/
def Db.Lost (db : Db) (c : CertificateId) (owner : MachineId) : Prop :=
  ∀ row, db.job c = some row → row.leaseOwner ≠ some owner

/-- A lost lease comes back only by a claim that succeeds. -/
theorem Db.Lost.step {owner : MachineId} (lost : db.Lost c owner)
    (unclaimed : s.call = .claim c owner → (s.perform db).1 = false) : (s.perform db).2.Lost c owner := by
  cases answer : (s.perform db).1 with
  | false =>
      rw [perform_false answer]
      exact lost
  | true =>
      intro row found
      cases perform_row s db c with
      | same kept =>
          rw [kept] at found
          exact lost row found
      | added job runAt new is missing wrote pending free endless =>
          rw [wrote] at found
          cases found
          simp [free]
      | claimed owner' old is before pending free wrote =>
          rw [wrote] at found
          cases found
          intro same
          cases same
          rw [unclaimed is] at answer
          cases answer
      | extended owner' old is before pending mine wrote =>
          rw [wrote] at found
          cases found
          exact lost old before
      | recorded owner' old new is before mine wrote free ended =>
          rw [wrote] at found
          cases found
          simp [free]
      | released owner' old is before mine wrote =>
          rw [wrote] at found
          cases found
          simp
      | requeued old createdAt is before failed wrote =>
          rw [wrote] at found
          cases found
          simp [JobRow.requeued]
      | requeuedBefore old limit createdAt is before status early expired wrote =>
          rw [wrote] at found
          cases found
          simp [JobRow.requeued]

end Statement

/-! ### Journals -/

section Journal

variable {db₀ : Db} {journal : List JobStatement} {c : CertificateId} {owner other : MachineId}

/-- The statement at the position took effect and answered true. -/
abbrev Succeeded (db₀ : Db) (journal : List JobStatement) (i : Nat) (s : JobStatement) : Prop :=
  Answers JobStatement.perform db₀ journal i s true

/-- An owner's run of a job that wrote its outcome: claimed at `i`, written at `j`, not claimed again between. -/
structure Executed (db₀ : Db) (journal : List JobStatement) (c : CertificateId) (owner : MachineId) (i j : Nat) :
    Prop where
  claimed : ∃ s, Succeeded db₀ journal i s ∧ s.call = .claim c owner
  recorded : ∃ s, Succeeded db₀ journal j s ∧ s.call.records c owner
  started : i < j
  once : ∀ k s, i < k → k < j → Succeeded db₀ journal k s → s.call ≠ .claim c owner

theorem stateAt_leases (sound : db₀.Leases) (i : Nat) : (stateAt JobStatement.perform db₀ journal i).Leases := by
  apply stateAt_kept (Nat.zero_le i) sound
  intro k s _ _ _ leases
  exact leases.step s

/-- A lease just taken or extended. -/
theorem held_after {i : Nat} {s : JobStatement} (done : Succeeded db₀ journal i s)
    (is : s.call = .claim c owner ∨ s.call = .extend c owner) :
    (stateAt JobStatement.perform db₀ journal (i + 1)).HeldUntil c owner (s.now + Db.leaseMs) := by
  rw [stateAt_succ done.1]
  have written : ∃ row, (s.perform (stateAt JobStatement.perform db₀ journal i)).2.job c = some row ∧
      row.status = .pending ∧ row.leaseOwner = some owner ∧ row.leaseUntil = some (s.now + Db.leaseMs) := by
    rcases is with claim | extend
    · exact claim_true claim done.2
    · exact extend_true extend done.2
  obtain ⟨row, found, pending, mine, ends⟩ := written
  exact ⟨row, _, found, pending, mine, ends, Nat.le_refl _⟩

/-- Nobody else's claim succeeds while the lease runs, unless its owner gave it up. -/
theorem claim_waits (ordered : journal.Pairwise fun a b => a.now ≤ b.now) {i j : Nat} {s s' : JobStatement}
    (done : Succeeded db₀ journal i s) (is : s.call = .claim c owner ∨ s.call = .extend c owner) (later : i < j)
    (taken : Succeeded db₀ journal j s') (is' : s'.call = .claim c other) (differ : other ≠ owner)
    (early : s'.now ≤ s.now + Db.leaseMs) :
    ∃ k r, i < k ∧ k < j ∧ Succeeded db₀ journal k r ∧ r.call.givesUp c owner := by
  -- otherwise the lease is still the owner's when the other claims
  apply Classical.byContradiction
  intro kept
  have held : (stateAt JobStatement.perform db₀ journal j).HeldUntil c owner (s.now + Db.leaseMs) := by
    apply stateAt_kept (P := fun db : Db => db.HeldUntil c owner (s.now + Db.leaseMs)) later (held_after done is)
    intro k r after before found held
    cases answer : (r.perform (stateAt JobStatement.perform db₀ journal k)).1 with
    | false =>
        rw [perform_false answer]
        exact held
    | true =>
        have notBefore : s.now ≤ r.now := ordered_times ordered (Nat.le_of_succ_le after) done.1 found
        have notAfter : r.now ≤ s'.now := ordered_times ordered (Nat.le_of_lt before) found taken.1
        apply held.step (Nat.le_trans notAfter early) (Nat.add_le_add_right notBefore _)
        intro gives
        exact kept ⟨k, r, after, before, ⟨found, answer⟩, gives⟩
  have foreign : ¬ s'.call.givesUp c owner := by
    rw [is']
    rintro ((⟨_, _, same⟩ | ⟨_, _, _, same⟩) | same) <;> cases same
  have notBefore : s.now ≤ s'.now := ordered_times ordered (Nat.le_of_lt later) done.1 taken.1
  obtain ⟨row, _, found, _, mine, _, _⟩ := held.step early (Nat.add_le_add_right notBefore _) foreign
  obtain ⟨row', found', _, theirs, _⟩ := claim_true is' taken.2
  rw [found] at found'
  cases found'
  rw [mine] at theirs
  exact differ (Option.some.inj theirs).symm

/-- An owner whose job another claimed has lost it until it claims it again. -/
theorem lost_after {i j : Nat} {s : JobStatement} (taken : Succeeded db₀ journal i s) (is : s.call = .claim c other)
    (differ : other ≠ owner) (later : i < j)
    (unclaimed : ∀ k r, i < k → k < j → Succeeded db₀ journal k r → r.call ≠ .claim c owner) :
    (stateAt JobStatement.perform db₀ journal j).Lost c owner := by
  have lost : (stateAt JobStatement.perform db₀ journal (i + 1)).Lost c owner := by
    rw [stateAt_succ taken.1]
    intro row found mine
    obtain ⟨row', found', _, theirs, _⟩ := claim_true is taken.2
    rw [found] at found'
    cases found'
    rw [mine] at theirs
    exact differ (Option.some.inj theirs).symm
  apply stateAt_kept (P := fun db : Db => db.Lost c owner) later lost
  intro k r after before found lost
  apply lost.step
  intro claim
  cases answer : (r.perform (stateAt JobStatement.perform db₀ journal k)).1 with
  | false => rfl
  | true => exact absurd claim (unclaimed k r after before ⟨found, answer⟩)

/-- Without the lease, writing an outcome and extending answer false and do nothing. -/
theorem Db.Lost.refuses {db : Db} {s : JobStatement} (lost : db.Lost c owner)
    (is : s.call.records c owner ∨ s.call = .extend c owner) : s.perform db = (false, db) := by
  cases answer : (s.perform db).1 with
  | false =>
      have kept := perform_false answer
      exact Prod.ext answer kept
  | true =>
      obtain ⟨row, found, mine⟩ := needs_lease is answer
      exact absurd mine (lost row found)

/-- An execution that begins while another's runs keeps that one from writing its outcome. -/
theorem Executed.ends_before {i j i' j' : Nat} (first : Executed db₀ journal c owner i j)
    (second : Executed db₀ journal c other i' j') (differ : other ≠ owner) (inside : i < i') : j < i' := by
  obtain ⟨s, taken, is⟩ := second.claimed
  obtain ⟨r, wrote, records⟩ := first.recorded
  rcases Nat.lt_trichotomy j i' with before | same | after
  · exact before
  · subst same
    have one := wrote.1
    rw [taken.1] at one
    cases one
    rw [is] at records
    rcases records with ⟨_, _, is'⟩ | ⟨_, _, _, is'⟩ <;> cases is'
  · have lost := lost_after taken is differ after fun k r' first' last done =>
      first.once k r' (Nat.lt_trans inside first') last done
    have refused := wrote.2
    rw [lost.refuses (Or.inl records)] at refused
    cases refused

/-- A finished job's row is changed by the requeue operations alone. -/
theorem finished_changes {db : Db} (leases : db.Leases) (s : JobStatement) {row : JobRow} (found : db.job c = some row)
    (finished : row.status ≠ .pending) :
    (s.perform db).2.job c = some row ∨
      (s.call = .requeueFailed c ∧ row.status = .failed) ∨
      ∃ before, s.call = .requeueBefore c before ∧ row.status = .failed ∧ row.job.createdAt < before := by
  have free : row.leaseOwner = none := (leases c row found).1 finished
  cases perform_row s db c with
  | same kept => exact Or.inl (kept.trans found)
  | added job runAt new is missing wrote pending unowned endless =>
      rw [found] at missing
      cases missing
  | claimed owner old is before pending unowned wrote =>
      rw [found] at before
      cases before
      exact absurd pending finished
  | extended owner old is before pending mine wrote =>
      rw [found] at before
      cases before
      exact absurd pending finished
  | recorded owner old new is before mine wrote unowned ended =>
      rw [found] at before
      cases before
      rw [free] at mine
      cases mine
  | released owner old is before mine wrote =>
      rw [found] at before
      cases before
      rw [free] at mine
      cases mine
  | requeued old createdAt is before failed wrote =>
      rw [found] at before
      cases before
      exact Or.inr (Or.inl ⟨is, failed⟩)
  | requeuedBefore old limit createdAt is before status early expired wrote =>
      rw [found] at before
      cases before
      rcases status with failed | pending
      · exact Or.inr (Or.inr ⟨limit, is, failed, early⟩)
      · exact absurd pending finished

end Journal

/-- Job leases are exclusive, in every journal of statements with a shared clock that does not go back. -/
theorem leases_exclusive {db₀ : Db} (sound : db₀.Leases) (journal : List JobStatement)
    (ordered : journal.Pairwise fun a b => a.now ≤ b.now) (c : CertificateId) :
    -- after a claim or extension, others wait for its end, unless the owner gave it up
    (∀ (owner other : MachineId) (i j : Nat) (s s' : JobStatement), other ≠ owner → i < j →
      Succeeded db₀ journal i s → (s.call = .claim c owner ∨ s.call = .extend c owner) →
      Succeeded db₀ journal j s' → s'.call = .claim c other → s'.now ≤ s.now + Db.leaseMs →
      ∃ k r, i < k ∧ k < j ∧ Succeeded db₀ journal k r ∧ r.call.givesUp c owner) ∧
    -- once another's claim succeeded, the owner's statements do nothing and answer false until it claims again
    (∀ (owner other : MachineId) (i j : Nat) (s s' : JobStatement), other ≠ owner → i < j →
      Succeeded db₀ journal i s → s.call = .claim c other → journal[j]? = some s' →
      (s'.call.records c owner ∨ s'.call = .extend c owner) →
      (∀ k r, i < k → k < j → Succeeded db₀ journal k r → r.call ≠ .claim c owner) →
      Answers JobStatement.perform db₀ journal j s' false ∧
        stateAt JobStatement.perform db₀ journal (j + 1) = stateAt JobStatement.perform db₀ journal j) ∧
    -- executions by different owners that both wrote an outcome do not overlap
    (∀ (owner other : MachineId) (i j i' j' : Nat), other ≠ owner → Executed db₀ journal c owner i j →
      Executed db₀ journal c other i' j' → j < i' ∨ j' < i) ∧
    -- a finished job changes by being queued again only
    (∀ (i : Nat) (s : JobStatement) (row : JobRow), journal[i]? = some s →
      (stateAt JobStatement.perform db₀ journal i).job c = some row → row.status ≠ .pending →
      (stateAt JobStatement.perform db₀ journal (i + 1)).job c = some row ∨
        (s.call = .requeueFailed c ∧ row.status = .failed) ∨
        ∃ before, s.call = .requeueBefore c before ∧ row.status = .failed ∧ row.job.createdAt < before) := by
  refine ⟨?_, ?_, ?_, ?_⟩
  · intro owner other i j s s' differ later done is taken is' early
    exact claim_waits ordered done is later taken is' differ early
  · intro owner other i j s s' differ later taken is found is' unclaimed
    have refused := (lost_after taken is differ later unclaimed).refuses is'
    rw [stateAt_succ found, refused]
    exact ⟨⟨found, by rw [refused]⟩, rfl⟩
  · intro owner other i j i' j' differ first second
    rcases Nat.lt_trichotomy i i' with before | same | after
    · exact Or.inl (first.ends_before second differ before)
    · subst same
      obtain ⟨s, taken, is⟩ := first.claimed
      obtain ⟨s', taken', is'⟩ := second.claimed
      have one := taken.1
      rw [taken'.1] at one
      cases one
      rw [is] at is'
      cases is'
      exact absurd rfl differ
    · exact Or.inr (second.ends_before first (Ne.symm differ) after)
  · intro i s row found stored finished
    rw [stateAt_succ found]
    exact finished_changes (stateAt_leases sound i) s stored finished

namespace Sample

/-- A machine claims a job and stalls; once its lease expired another claims the job, and both write an outcome. -/
def takeover : List JobStatement :=
  [⟨0, .add ⟨"cert", none, .server, [], "", 0, 0⟩ 0⟩, ⟨1, .claim "cert" "a"⟩, ⟨Db.leaseMs + 2, .claim "cert" "b"⟩,
    ⟨Db.leaseMs + 3, .finish "cert" "a" .failed none⟩, ⟨Db.leaseMs + 4, .finish "cert" "b" .done none⟩]

end Sample

/-- The machine that lost its lease writes nothing. -/
theorem leases_exclusive_takeover :
    Answers JobStatement.perform ⟨.empty, .empty, .empty⟩ Sample.takeover 3
        ⟨Db.leaseMs + 3, .finish "cert" "a" .failed none⟩ false ∧
      Succeeded ⟨.empty, .empty, .empty⟩ Sample.takeover 4 ⟨Db.leaseMs + 4, .finish "cert" "b" .done none⟩ := by
  have sound : Db.Leases ⟨.empty, .empty, .empty⟩ := by
    intro c row found
    cases found
  have exclusive := leases_exclusive sound Sample.takeover (by decide) "cert"
  have refused := exclusive.2.1 "a" "b" 2 3 ⟨Db.leaseMs + 2, .claim "cert" "b"⟩
    ⟨Db.leaseMs + 3, .finish "cert" "a" .failed none⟩ (by decide) (by decide) ⟨rfl, by decide⟩ rfl rfl
    (Or.inl (Or.inl ⟨.failed, none, rfl⟩)) (by omega)
  exact ⟨refused.1, rfl, by decide⟩

end OpenTunnel
