/-
Module: OpenTunnel.Proofs.Requeues
Layer: Proofs
Purpose: How often a failed issuance is queued again. A run that gave up on a transient error did so at the end of its
  retry window, so a pass does not select the job it leaves behind. That holds as long as the text of an error reads
  as transient only where its type is, refusals do not read so, and a pass queues again only a job it would still
  select; then the early-give-up rule queues a job again at most once, in every interleaving of runs and passes.
Imports: OpenTunnel.Tasks.Steps, OpenTunnel.Proofs.Frame, OpenTunnel.Model.Retry, OpenTunnel.Proofs.Leases
Trusted boundary: none (fully proved)
Main exports: Db.Follows, Queue.Consistent, Queue.Settled, Queue.requeued_at_most_once
Open obligations: none
-/
import OpenTunnel.Tasks.Steps
import OpenTunnel.Proofs.Frame
import OpenTunnel.Model.Retry
import OpenTunnel.Proofs.Leases

namespace OpenTunnel

open Tasks

/-! ### The retry window -/

theorem backoff_le (baseMs attempts jitter : Nat) : backoff baseMs attempts jitter ≤ maxDelayMs := by
  have capped : min (max (baseMs * 2 ^ min (attempts - 1) 32) 1) maxDelayMs ≤ maxDelayMs := Nat.min_le_right _ _
  unfold backoff
  dsimp only
  generalize min (max (baseMs * 2 ^ min (attempts - 1) 32) 1) maxDelayMs = delay at capped ⊢
  have share : delay / 2 * min jitter (2 ^ 32) / 2 ^ 32 ≤ delay / 2 := by
    apply Nat.div_le_of_le_mul
    rw [Nat.mul_comm (2 ^ 32)]
    exact Nat.mul_le_mul_left _ (Nat.min_le_right _ _)
  omega

/-- A transient failure gives up only in the last hour of the window. -/
theorem nextAttempt_transient_none {failure : FailureClass} {attempts baseMs queuedAt now jitter : Nat}
    (transient : failure.isTransient = true) (gaveUp : nextAttempt failure attempts baseMs queuedAt now jitter = none) :
    queuedAt + retryWindowMs < now + maxDelayMs := by
  cases failure with
  | permanent => cases transient
  | unknown => cases transient
  | transient after =>
      have waits := backoff_le baseMs attempts jitter
      have asked : min (after.getD 0) maxDelayMs ≤ maxDelayMs := Nat.min_le_right _ _
      simp only [nextAttempt] at gaveUp
      split at gaveUp
      · cases gaveUp
      · omega

/-- So the job it leaves behind is not one that gave up early. -/
theorem nextAttempt_late {failure : FailureClass} {attempts baseMs queuedAt now jitter : Nat}
    (transient : failure.isTransient = true) (gaveUp : nextAttempt failure attempts baseMs queuedAt now jitter = none) :
    queuedAt + retryWindowMs / 2 ≤ now := by
  have last := nextAttempt_transient_none transient gaveUp
  have window : retryWindowMs = 24 * maxDelayMs := rfl
  omega

/-! ### Rows -/

/-- What a statement that neither takes a lease nor records a failure leaves of a row: its lease is an old one of the
    same job, and a failed job failed before. -/
structure JobRow.Follows (old : Option JobRow) (row : JobRow) : Prop where
  leased : ∀ owner, row.leaseOwner = some owner →
    ∃ was, old = some was ∧ was.leaseOwner = some owner ∧ row.status = was.status ∧
      row.job.createdAt = was.job.createdAt
  failed : row.status = .failed → ∃ was, old = some was ∧ was.status = .failed ∧ row.failedJob = was.failedJob

theorem JobRow.Follows.refl (row : JobRow) : JobRow.Follows (some row) row :=
  ⟨fun _ leased => ⟨row, rfl, leased, rfl, rfl⟩, fun failed => ⟨row, rfl, failed, rfl⟩⟩

/-- A row without a lease that is not failed follows any other. -/
theorem JobRow.Follows.fresh {old : Option JobRow} {row : JobRow} (free : row.leaseOwner = none)
    (active : row.status ≠ .failed) : JobRow.Follows old row :=
  ⟨fun owner leased => by simp [free] at leased, fun failed => absurd failed active⟩

namespace Db

variable {db db' : Db}

def Follows (db db' : Db) : Prop := ∀ c row, db'.job c = some row → JobRow.Follows (db.job c) row

theorem Follows.refl (db : Db) : Follows db db := by
  intro c row found
  rw [found]
  exact .refl row

theorem Follows.updateJob (c : CertificateId) (guard : JobRow → Bool) (update : JobRow → JobRow)
    (row : ∀ row, guard row = true → db.job c = some row → JobRow.Follows (some row) (update row)) :
    Follows db (db.updateJob c guard update).2 := by
  intro c' row' found
  rcases job_updateJob (c := c') db c guard update with ⟨kept, -⟩ | ⟨was, rfl, before, met, -, after⟩
  · rw [kept] at found
    exact Follows.refl db c' row' found
  · rw [after] at found
    cases found
    rw [before]
    exact row was met before

theorem Follows.addJob (job : Job) (runAt : Nat) : Follows db (db.addJob job runAt).2 := by
  intro c row found
  unfold Db.addJob at found
  split at found
  · simp only [job_putJob] at found
    split at found
    · cases found
      exact .fresh rfl (by simp)
    · exact Follows.refl db c row found
  · exact Follows.refl db c row found

theorem Follows.extendLease (c : CertificateId) (owner : MachineId) (now : Nat) :
    Follows db (db.extendLease c owner now).2 :=
  .updateJob c _ _ fun row _ _ =>
    ⟨fun _ leased => ⟨row, rfl, leased, rfl, rfl⟩, fun failed => ⟨row, rfl, failed, rfl⟩⟩

theorem Follows.finishJob (c : CertificateId) (owner : MachineId) {status : JobStatus} (error : Option String)
    (now : Nat) (other : status ≠ .failed) : Follows db (db.finishJob c owner status error now).2 :=
  .updateJob c _ _ fun _ _ _ => .fresh rfl other

theorem Follows.retryJob (c : CertificateId) (owner : MachineId) (attempts runAt : Nat) (error : String) (now : Nat)
    (pending : ∀ row, db.job c = some row → row.leaseOwner = some owner → row.status = .pending) :
    Follows db (db.retryJob c owner attempts runAt error now).2 := by
  apply Follows.updateJob
  intro row mine found
  have active : row.status = .pending := pending row found (by simpa using mine)
  exact .fresh rfl (by simp [active])

theorem Follows.requeueFailedJob (c : CertificateId) (now : Nat) : Follows db (db.requeueFailedJob c now).2 :=
  .updateJob c _ _ fun _ _ _ => .fresh rfl (by simp [JobRow.requeued])

theorem Follows.requeueJobQueuedBefore (c : CertificateId) (before now : Nat) :
    Follows db (db.requeueJobQueuedBefore c before now).2 :=
  .updateJob c _ _ fun _ _ _ => .fresh rfl (by simp [JobRow.requeued])

theorem Follows.releaseLeases (owner : MachineId) : Follows db (db.releaseLeases owner) := by
  intro c row found
  rw [job_releaseLeases] at found
  obtain ⟨was, before, rfl⟩ := Option.map_eq_some_iff.mp found
  rw [before]
  split
  · exact ⟨fun _ leased => by simp at leased, fun failed => ⟨was, rfl, failed, rfl⟩⟩
  · exact .refl was

end Db

/-! ### Runs -/

namespace RunPhase

/-- The job the run read. -/
def job? : RunPhase → Option Job
  | .starting => none
  | .taken => none
  | .attempting job => some job
  | .attempted job _ _ => some job
  | .givingUp job _ _ => some job

/-- While the row is leased to the run's process it is the pending job the run read. -/
def Suits (phase : RunPhase) (row : JobRow) : Prop :=
  row.status = .pending ∧ ∀ job, phase.job? = some job → row.job.createdAt = job.createdAt

/-- The error of an attempt reads as transient only when its type is, and a job that is given up on such an error is
    old. -/
def Late : RunPhase → Prop
  | .attempted _ (.failed error) _ => classifyReason (reasonOf error) = .transient → (classify error).isTransient = true
  | .givingUp job reason now => classifyReason reason = .transient → job.createdAt + retryWindowMs / 2 ≤ now
  | _ => True

end RunPhase

namespace Queue

/-- Where the two classifications agree and no pass acts on what is no longer so: the text of a failed attempt reads as
    transient only if its type is, the text of a refusal does not, and a job that a pass selected for its first loop is,
    if it is failed when the loop comes to it, still one that the rule selects. -/
def Consistent (e : Event) (s : Queue) : Prop :=
  match e with
  | .attempt _ _ (.failed error) _ _ _ =>
      classifyReason (reasonOf error) = .transient → (classify error).isTransient = true
  | .refuse _ _ reason _ _ => classifyReason ("Certificate request refused: " ++ reason) ≠ .transient
  | .retryFailed p _ => ∀ job ∈ s.upcoming p, retriesFailed job = true → ∀ row ∈ s.db.job job.certificateId,
      row.status = .failed → retriesFailed row.failedJob = true
  | _ => True

/-- What holds in every state: a job that was queued again is not selected once more. -/
structure Settled (s : Queue) : Prop where
  once : ∀ c, s.early c ≤ 1
  unselected : ∀ c row, s.early c ≠ 0 → s.db.job c = some row → row.status = .failed →
    retriesFailed row.failedJob = false
  suits : ∀ owner c phase row, s.runs owner c = some phase → phase ≠ .starting → s.db.job c = some row →
    row.leaseOwner = some owner → phase.Suits row
  late : ∀ owner c phase, s.runs owner c = some phase → phase.Late

namespace Settled

variable {s : Queue}

theorem initial (db : Db) : Settled { db := db } where
  once c := Nat.zero_le 1
  unselected c row early := absurd rfl early
  suits owner c phase row run := by cases run
  late owner c phase run := by cases run

theorem follow {db : Db} (settled : Settled s) (follows : Db.Follows s.db db) : Settled { s with db := db } where
  once := settled.once
  unselected c row early found failed := by
    obtain ⟨was, before, failedBefore, same⟩ := (follows c row found).failed failed
    rw [same]
    exact settled.unselected c was early before failedBefore
  suits owner c phase row run started found leased := by
    obtain ⟨was, before, held, status, createdAt⟩ := (follows c row found).leased owner leased
    obtain ⟨pending, read⟩ := settled.suits owner c phase was run started before held
    exact ⟨status.trans pending, fun job reads => createdAt.trans (read job reads)⟩
  late := settled.late

theorem setRun {phase : Option RunPhase} (settled : Settled s) (owner : MachineId) (c : CertificateId)
    (suits : ∀ entered row, phase = some entered → entered ≠ .starting → s.db.job c = some row →
      row.leaseOwner = some owner → entered.Suits row)
    (late : ∀ entered, phase = some entered → entered.Late) : Settled (s.setRun owner c phase) where
  once := settled.once
  unselected := settled.unselected
  suits owner' c' phase' row run started found leased := by
    simp only [Queue.setRun] at run found
    split at run
    · rename_i here
      obtain ⟨rfl, rfl⟩ := here
      exact suits phase' row run started found leased
    · exact settled.suits owner' c' phase' row run started found leased
  late owner' c' phase' run := by
    simp only [Queue.setRun] at run
    split at run
    · exact late phase' run
    · exact settled.late owner' c' phase' run

theorem endRun {db : Db} (settled : Settled s) (owner : MachineId) (c : CertificateId)
    (follows : Db.Follows s.db db) : Settled (s.endRun owner c db) := by
  apply (settled.follow follows).setRun
  · intro entered row none_
    cases none_
  · intro entered none_
    cases none_

theorem setPass (settled : Settled s) (p : Nat) (pass : Option RetryPass) : Settled (s.setPass p pass) :=
  ⟨settled.once, settled.unselected, settled.suits, settled.late⟩

theorem setShown (settled : Settled s) (c : CertificateId) (failed : Bool) : Settled (s.setShown c failed) :=
  ⟨settled.once, settled.unselected, settled.suits, settled.late⟩

/-- A run goes on with the job it read. -/
theorem goOn {owner : MachineId} {c : CertificateId} {before entered : RunPhase} (settled : Settled s)
    (run : s.runs owner c = some before) (started : before ≠ .starting) (same : entered.job? = before.job?)
    (late : entered.Late) : Settled (s.setRun owner c (some entered)) := by
  apply settled.setRun
  · intro phase row is _ found leased
    cases is
    obtain ⟨pending, read⟩ := settled.suits owner c before row run started found leased
    exact ⟨pending, fun job reads => read job (same ▸ reads)⟩
  · intro phase is
    cases is
    exact late

/-- The lease goes to a run that read nothing yet; a run of another process loses it. -/
theorem claim {owner : MachineId} {c : CertificateId} (settled : Settled s) (now : Nat) :
    Settled ({ s with db := (s.db.claimJob c owner now).2 }.setRun owner c
      (if (s.db.claimJob c owner now).1 then some .taken else none)) := by
  unfold Db.claimJob
  split
  case h_2 => exact settled.endRun owner c (.refl s.db)
  case h_1 row found =>
      split
      case isFalse => exact settled.endRun owner c (.refl s.db)
      case isTrue free =>
          refine ⟨settled.once, ?_, ?_, ?_⟩
          · intro c' row' early found' failed
            simp only [Queue.setRun, Db.job_putJob] at found'
            split at found'
            · cases found'
              simp [free.1] at failed
            · exact settled.unselected c' row' early found' failed
          · intro owner' c' phase row' run started found' leased
            simp only [Queue.setRun, Db.job_putJob] at run found'
            split at run
            · rename_i here
              rw [if_pos here.2] at found'
              cases found'
              cases run
              exact ⟨free.1, fun job reads => by cases reads⟩
            · rename_i elsewhere
              split at found'
              · rename_i same
                cases found'
                exact absurd ⟨(Option.some.inj leased).symm, same⟩ elsewhere
              · exact settled.suits owner' c' phase row' run started found' leased
          · intro owner' c' phase run
            simp only [Queue.setRun] at run
            split at run
            · cases run
              trivial
            · exact settled.late owner' c' phase run

/-- The one step that leaves a failed job behind. -/
theorem giveUp {owner : MachineId} {c : CertificateId} {job : Job} {reason : String} {now : Nat} (settled : Settled s)
    (run : s.runs owner c = some (.givingUp job reason now)) :
    Settled (s.endRun owner c (s.db.finishJob c owner .failed (some reason) now).2) := by
  rcases s.db.updateJob_cases c (fun row => decide (row.leaseOwner = some owner)) (fun row =>
      { row with status := .failed, lastError := some reason, updatedAt := now, leaseOwner := none, leaseUntil := none })
    with ⟨same, -⟩ | ⟨row, found, mine, wrote⟩
  · unfold Db.finishJob
    rw [same]
    exact settled.endRun owner c (.refl s.db)
  · have leased : row.leaseOwner = some owner := by simpa using mine
    obtain ⟨-, read⟩ := settled.suits owner c _ row run (by simp) found leased
    have queuedAt : row.job.createdAt = job.createdAt := read job rfl
    have late : classifyReason reason = .transient → job.createdAt + retryWindowMs / 2 ≤ now := settled.late owner c _ run
    unfold Db.finishJob
    rw [wrote]
    refine ⟨settled.once, ?_, ?_, ?_⟩
    · intro c' row' early found' failed
      simp only [Queue.endRun, Queue.setRun, Db.job_putJob] at found'
      split at found'
      · cases found'
        by_cases transient : classifyReason reason = .transient
        · have old : ¬ now - row.job.createdAt < retryWindowMs / 2 := by
            have := late transient
            omega
          simp [retriesFailed, JobRow.failedJob, old]
        · simp [retriesFailed, JobRow.failedJob, transient]
      · exact settled.unselected c' row' early found' failed
    · intro owner' c' phase row' run' started found' leased'
      simp only [Queue.endRun, Queue.setRun, Db.job_putJob] at run' found'
      split at run'
      · cases run'
      · split at found'
        · cases found'
          cases leased'
        · exact settled.suits owner' c' phase row' run' started found' leased'
    · intro owner' c' phase run'
      simp only [Queue.endRun, Queue.setRun] at run'
      split at run'
      · cases run'
      · exact settled.late owner' c' phase run'

theorem recordFailure {baseMs : Nat} {owner : MachineId} {c : CertificateId} {job : Job} {error : List Cause} {now : Nat}
    (settled : Settled s) (run : s.runs owner c = some (.attempted job (.failed error) now)) (wanted told : Bool)
    (jitter later : Nat) : Settled (s.recordFailure baseMs owner c job error now wanted told jitter later) := by
  have agree : classifyReason (reasonOf error) = .transient → (classify error).isTransient = true :=
    settled.late owner c _ run
  unfold Queue.recordFailure
  dsimp only
  split
  · exact settled.endRun owner c (.finishJob c owner _ later (by simp))
  · split
    · apply settled.endRun owner c
      apply Db.Follows.retryJob
      intro row found leased
      exact (settled.suits owner c _ row run (by simp) found leased).1
    · rename_i gaveUp
      have late : (RunPhase.givingUp job (reasonOf error) now).Late :=
        fun transient => nextAttempt_late (agree transient) gaveUp
      split
      · exact (settled.setShown c true).goOn run (by simp) rfl late
      · exact settled.goOn run (by simp) rfl late

/-- The rule queues a job again: it was not queued again before. -/
theorem countEarly {c : CertificateId} (settled : Settled s) (first : s.early c = 0)
    (active : ∀ row, s.db.job c = some row → row.status ≠ .failed) : Settled (s.countEarly c) where
  once c' := by
    simp only [Queue.countEarly]
    split
    · rename_i same
      rewrite [same, first]
      exact Nat.le_refl 1
    · exact settled.once c'
  unselected c' row early found failed := by
    simp only [Queue.countEarly] at early found
    split at early
    · rename_i same
      subst same
      exact absurd failed (active row found)
    · exact settled.unselected c' row early found failed
  suits := settled.suits
  late := settled.late

theorem retryJob {p : Nat} {pass : RetryPass} {job : FailedJob} {rest : List FailedJob} (settled : Settled s)
    (saved : Bool) (selected : retriesFailed job = true → ∀ row ∈ s.db.job job.certificateId, row.status = .failed →
      retriesFailed row.failedJob = true) : Settled (s.retryJob p pass job rest saved) := by
  unfold Queue.retryJob
  dsimp only
  split
  · exact settled.setPass p _
  rename_i chosen
  split
  · exact settled.setPass p _
  split
  · exact settled.setPass p _
  have follows : Db.Follows s.db (s.db.requeueFailedJob job.certificateId pass.now).2 := .requeueFailedJob _ _
  rcases s.db.updateJob_cases job.certificateId (fun row => decide (row.status = .failed))
      (fun row => row.requeued pass.now pass.now) with ⟨same, -⟩ | ⟨row, found, met, wrote⟩
  · have unchanged : s.db.requeueFailedJob job.certificateId pass.now = (false, s.db) := same
    rw [unchanged]
    exact settled.setPass p _
  · have failed : row.status = .failed := by simpa using met
    have written : s.db.requeueFailedJob job.certificateId pass.now =
        (true, s.db.putJob job.certificateId (row.requeued pass.now pass.now)) := wrote
    have first : s.early job.certificateId = 0 := by
      by_cases again : s.early job.certificateId = 0
      · exact again
      · have still := selected (by simpa using chosen) row found failed
        rw [settled.unselected _ row again found failed] at still
        cases still
    rw [written] at follows ⊢
    have after := (settled.setPass p (some { pass with left := rest })).follow follows
    have active : ∀ row', (s.db.putJob job.certificateId (row.requeued pass.now pass.now)).job job.certificateId =
        some row' → row'.status ≠ .failed := by
      intro row' found'
      simp only [Db.job_putJob, if_true] at found'
      cases found'
      simp [JobRow.requeued]
    simp only [Bool.not_true, Bool.false_eq_true, if_false]
    apply Settled.countEarly
    · split
      · exact (after.setPass p _).setShown _ _
      · exact after.setPass p _
    · split <;> exact first
    · split <;> exact active

theorem retryStuckJob {p : Nat} {pass : RetryPass} {job : FailedJob} {rest : List FailedJob} (settled : Settled s)
    (waiting saved : Bool) : Settled (s.retryStuckJob p pass job rest waiting saved) := by
  have after := (settled.setPass p (some { pass with left := rest })).follow
    (.requeueJobQueuedBefore job.certificateId authzPendingFixMs pass.now)
  unfold Queue.retryStuckJob
  dsimp only
  split
  · exact settled.setPass p _
  split
  · exact settled.setPass p _
  split
  · exact settled.setPass p _
  split
  · exact after.setShown _ _
  · exact after

theorem step {baseMs : Nat} {e : Event} {s' : Queue} (consistent : Consistent e s) (settled : Settled s)
    (taken : Queue.step baseMs e s = some s') : Settled s' := by
  cases e with
  | add job runAt =>
      cases taken
      exact settled.follow (.addJob job runAt)
  | start owner c =>
      simp only [Queue.step] at taken
      split at taken <;> cases taken
      apply settled.setRun
      · intro entered row is started
        cases is
        exact absurd rfl started
      · intro entered is
        cases is
        trivial
  | claim owner c now =>
      simp only [Queue.step] at taken
      split at taken <;> cases taken
      exact settled.claim now
  | load owner c =>
      simp only [Queue.step] at taken
      split at taken <;> cases taken
      rename_i run
      apply settled.setRun
      · intro entered row is _ found leased
        obtain ⟨job, read, rfl⟩ := Option.map_eq_some_iff.mp is
        simp only [Db.claimedJob, found, Option.bind_some, leased, if_true] at read
        cases read
        exact ⟨(settled.suits owner c _ row run (by simp) found leased).1, fun job reads => by cases reads; rfl⟩
      · intro entered is
        obtain ⟨job, -, rfl⟩ := Option.map_eq_some_iff.mp is
        trivial
  | renew owner c now =>
      simp only [Queue.step] at taken
      split at taken <;> cases taken
      exact settled.follow (.extendLease c owner now)
  | refuse owner c reason told now =>
      simp only [Queue.step] at taken
      split at taken <;> cases taken
      rename_i job run
      have late : (RunPhase.givingUp job ("Certificate request refused: " ++ reason) now).Late :=
        fun transient => absurd transient consistent
      split
      · exact (settled.setShown c true).goOn run (by simp) rfl late
      · exact settled.goOn run (by simp) rfl late
  | unwanted owner c now =>
      simp only [Queue.step] at taken
      split at taken <;> cases taken
      exact settled.endRun owner c (.finishJob c owner _ now (by simp))
  | attempt owner c result checked checkedAt now =>
      simp only [Queue.step] at taken
      split at taken <;> try cases taken
      rename_i job run
      have late : (RunPhase.attempted job result now).Late := by
        cases result with
        | issued => trivial
        | failed error => exact consistent
      split at taken <;> cases taken
      · have after := settled.follow (.extendLease c owner checkedAt)
        split
        · exact after.goOn run (by simp) rfl late
        · exact settled.endRun owner c (.extendLease c owner checkedAt)
      · exact settled.goOn run (by simp) rfl late
  | settle owner c wanted told jitter later =>
      simp only [Queue.step] at taken
      split at taken <;> cases taken
      · rename_i run
        exact settled.recordFailure run wanted told jitter later
      · exact settled.endRun owner c (.finishJob c owner _ _ (by simp))
  | giveUp owner c =>
      simp only [Queue.step] at taken
      split at taken <;> cases taken
      rename_i run
      exact settled.giveUp run
  | leave owner c =>
      cases taken
      exact settled.endRun owner c (.refl s.db)
  | release owner =>
      cases taken
      exact settled.follow (.releaseLeases owner)
  | shown c failed =>
      cases taken
      exact settled.setShown c failed
  | begin p now =>
      simp only [Queue.step] at taken
      split at taken <;> cases taken
      exact settled.setPass p _
  | retryFailed p saved =>
      simp only [Queue.step] at taken
      split at taken <;> try cases taken
      rename_i pass found
      split at taken <;> cases taken
      rename_i job rest first left
      apply settled.retryJob saved
      apply consistent job
      simp [upcoming, found, first, left]
  | findStuck p =>
      simp only [Queue.step] at taken
      split at taken <;> try cases taken
      split at taken <;> cases taken
      exact settled.setPass p _
  | retryStuck p waiting saved =>
      simp only [Queue.step] at taken
      split at taken <;> try cases taken
      split at taken <;> cases taken
      exact settled.retryStuckJob waiting saved
  | quit p =>
      cases taken
      exact settled.setPass p none

end Settled

/-- Whatever the runs and the passes of all machines do, the early-give-up rule queues a job again at most once: after
    that a failed row of the job is not one that the rule selects. -/
theorem requeued_at_most_once (baseMs : Nat) (db : Db) {s : Queue}
    (reached : Stepped (Queue.step baseMs) Consistent { db := db } s) (c : CertificateId) :
    s.early c ≤ 1 ∧ ∀ row, s.early c = 1 → s.db.job c = some row → row.status = .failed →
      retriesFailed row.failedJob = false := by
  have settled : Settled s := reached.invariant (.initial db) fun _ _ _ meets holds taken => holds.step meets taken
  refine ⟨settled.once c, ?_⟩
  intro row again found failed
  exact settled.unselected c row (by simp [again]) found failed

/-! ### Runs of one job -/

instance (e : Event) (s : Queue) : Decidable (Consistent e s) :=
  match e with
  | .attempt _ _ (.failed error) _ _ _ =>
      inferInstanceAs (Decidable (classifyReason (reasonOf error) = .transient → (classify error).isTransient = true))
  | .refuse _ _ reason _ _ =>
      inferInstanceAs (Decidable (classifyReason ("Certificate request refused: " ++ reason) ≠ .transient))
  | .retryFailed p _ => inferInstanceAs (Decidable (∀ job ∈ s.upcoming p, retriesFailed job = true →
      ∀ row ∈ s.db.job job.certificateId, row.status = .failed → retriesFailed row.failedJob = true))
  | .attempt _ _ .issued _ _ _ | .add .. | .start .. | .claim .. | .load .. | .renew .. | .unwanted .. | .settle ..
  | .giveUp .. | .leave .. | .release .. | .shown .. | .begin .. | .findStuck .. | .retryStuck .. | .quit .. =>
      inferInstanceAs (Decidable True)

/-- An attempt that fails, at the time given. -/
def failing (error : List Cause) (now : Nat) : List Event :=
  [.start "m" "c", .claim "m" "c" now, .load "m" "c", .attempt "m" "c" (.failed error) true now now,
   .settle "m" "c" true true 0 now]

/-- A pass that finds one failed job. -/
def passing (now : Nat) : List Event := [.begin 0 now, .retryFailed 0 true, .findStuck 0, .quit 0]

def firstJob : Job :=
  { certificateId := "c", tunnelId := some "t", kind := .issue, identifiers := ["t.example", "*.t.example"],
    csr := "csr", attempts := 0, createdAt := 0 }

/-- How often the job was queued again early, when it was queued and when it last changed. -/
def progress (s : Queue) : Nat × Option (JobStatus × Nat × Nat) :=
  (s.early "c", (s.db.job "c").map fun row => (row.status, row.job.createdAt, row.updatedAt))

/-- The nonce is missing, as the server types it. -/
def missingNonce : List Cause := [.transient "ACME server returned no nonce (HTTP 503)" none]

/-- The row of a job that gave up before errors were typed. -/
def untypedFailure : JobRow :=
  { job := firstJob, status := .failed, runAt := 0, updatedAt := 45000, leaseOwner := none, leaseUntil := none,
    lastError := some "ACME server returned no nonce" }

/-- A job that gave up early before errors were typed is queued again, fails for a day and stays failed. -/
theorem requeued_at_most_once_day : ∃ db s, Stepped (Queue.step 15000) Consistent { db := db } s ∧
    progress s = (1, some (.failed, 60000, 60000 + dayMs)) ∧ s.early "c" ≤ 1 := by
  have played : (playSteps (Queue.step 15000) Consistent
      ([.shown "c" true] ++ passing 60000 ++ failing missingNonce 60000 ++ failing missingNonce (60000 + dayMs) ++
        [.giveUp "m" "c"] ++ passing (60000 + dayMs))
      { db := Db.putJob ⟨.empty, .empty, .empty⟩ "c" untypedFailure }).map progress =
        some (1, some (.failed, 60000, 60000 + dayMs)) := by
    decide +kernel
  obtain ⟨s, ran, seen⟩ := Option.map_eq_some_iff.mp played
  have reached := stepped_of_play ran
  exact ⟨_, s, reached, seen, (requeued_at_most_once 15000 _ reached "c").1⟩

/-- A problem of a type that is neither in the permanent nor in the transient list, with a detail that names a
    time-out. -/
def dnsProblem : List Cause :=
  [.problem 400 "urn:ietf:params:acme:error:dns" none
    "urn:ietf:params:acme:error:dns: looking up TXT: operation timed out | HTTP 400 | "]

/-- Three attempts that end in that problem; the job is given up within a minute. -/
def givingUpAt (now : Nat) : List Event :=
  failing dnsProblem now ++ failing dnsProblem (now + 7500) ++ failing dnsProblem (now + 22500) ++ [.giveUp "m" "c"]

/-- A job whose error is unrecognized by its type and transient by its text is queued again by every pass. -/
theorem unrecognized_problem_requeued_again :
    ∃ s, Stepped (Queue.step 15000) (fun _ _ => True) { db := ⟨.empty, .empty, .empty⟩ } s ∧ s.early "c" = 2 := by
  have played : (playSteps (Queue.step 15000) (fun _ _ => True)
      ([.add firstJob 0] ++ givingUpAt 0 ++ passing 60000 ++ givingUpAt 60000 ++ passing 120000)
      { db := ⟨.empty, .empty, .empty⟩ }).map progress = some (2, some (.pending, 120000, 120000)) := by
    decide +kernel
  obtain ⟨s, ran, seen⟩ := Option.map_eq_some_iff.mp played
  exact ⟨s, stepped_of_play ran, congrArg Prod.fst seen⟩

end Queue

end OpenTunnel
