/-
Module: OpenTunnel.Model.Store
Layer: Model
Purpose: The database (`store.rs`): the `tunnels` and `jobs` tables and each SQL statement the server sends
  to them, as a function on the tables. A statement is atomic; `Fault` says how the call that sends it may
  fail all the same, before the statement took effect or, when the answer is lost to the timeout of `timed`,
  after it did. The transaction of an import locks its row and stages its update until it commits.
Imports: OpenTunnel.Tasks.Table, OpenTunnel.Model.Names
Trusted boundary: none (fully proved)
Main exports: Task, Fault, Err, Row, Db, Db.saveTunnel, Db.setAlarm, Db.clearAlarm, Db.selectsAlarms,
  Db.importInsert, Db.addJob, Db.claimJob, Db.finishJob
Open obligations: none
-/
import OpenTunnel.Tasks.Table
import OpenTunnel.Model.Names

namespace OpenTunnel

open Tasks (Table)

/-- An asynchronous task of a server process. -/
structure Task where
  machine : MachineId
  number : Nat
deriving DecidableEq, Repr

/-! ### Failures -/

/-- How a storage call fails: not at all, without its statement taking effect, or after it did. -/
inductive Fault where
  | none
  | failed
  | late
deriving DecidableEq, Repr

/-- The errors of storage calls: the `Conflict` of a guarded write, an unavailable database (`contended` when it
    was a lock wait or a deadlock, which `retryable` accepts), or another error by its text. -/
inductive Err where
  | conflict
  | unavailable
  | contended
  | message (text : String)
deriving DecidableEq, Repr

/-- The error's text (`to_string`). -/
def Err.text : Err → String
  | .conflict => "the tunnel changed concurrently; try again"
  | .unavailable => "storage unavailable"
  | .contended => "storage unavailable"
  | .message text => text

/-! ### Tables -/

/-- A row of `tunnels`. The columns `updated_at` and `imported_at` are written and never read. -/
structure Row where
  record : StoredTunnel
  revision : Nat
  deleted : Bool
  issuing : Bool
  alarmAt : Option Nat
  localUpdate : Bool
deriving DecidableEq, Repr

inductive JobKind where
  | issue
  | renew
  | server
deriving DecidableEq, Repr

inductive JobStatus where
  | pending
  | done
  | failed
  | abandoned
deriving DecidableEq, Repr

structure Job where
  certificateId : CertificateId
  tunnelId : Option TunnelId
  kind : JobKind
  identifiers : List String
  csr : String
  attempts : Nat
  createdAt : Nat
deriving DecidableEq, Repr

/-- A row of `jobs`. -/
structure JobRow where
  job : Job
  status : JobStatus
  runAt : Nat
  updatedAt : Nat
  leaseOwner : Option MachineId
  leaseUntil : Option Nat
  lastError : Option String
deriving DecidableEq, Repr

/-- A failed or still retrying job, as `failed_issue_jobs` and `authz_pending_issue_jobs` return it. -/
structure FailedJob where
  certificateId : CertificateId
  tunnelId : Option TunnelId
  status : JobStatus
  lastError : String
  createdAt : Nat
  updatedAt : Nat
deriving DecidableEq, Repr

namespace JobRow

/-- Another process holds no unexpired lease. -/
def takeable (row : JobRow) (owner : MachineId) (now : Nat) : Bool :=
  row.leaseUntil.all (· < now) || row.leaseOwner = some owner

/-- A job queued again as if it were new. -/
def requeued (row : JobRow) (createdAt now : Nat) : JobRow :=
  { row with job := { row.job with attempts := 0, createdAt := createdAt }, status := .pending, runAt := now,
             updatedAt := now, leaseOwner := none, leaseUntil := none }

def failedJob (row : JobRow) : FailedJob :=
  { certificateId := row.job.certificateId, tunnelId := row.job.tunnelId, status := row.status,
    lastError := row.lastError.getD "", createdAt := row.job.createdAt, updatedAt := row.updatedAt }

end JobRow

/-- An import's open transaction: who holds the row's lock, the row as it read it, and the update it has staged. -/
structure Transaction where
  owner : Task
  read : Row
  staged : Option Row
deriving DecidableEq, Repr

structure Db where
  tunnels : Table TunnelId Row
  jobs : Table CertificateId JobRow
  transactions : Table TunnelId Transaction

namespace Db

def row (db : Db) (id : TunnelId) : Option Row := db.tunnels.get id

def job (db : Db) (c : CertificateId) : Option JobRow := db.jobs.get c

/-- The stored record and its revision; a missing row is revision 0. -/
def stored (db : Db) (id : TunnelId) : Option StoredTunnel × Nat :=
  match db.row id with
  | some row => (some row.record, row.revision)
  | none => (none, 0)

/-- The live record: stored and not deleted. -/
def live (db : Db) (id : TunnelId) : Option StoredTunnel :=
  (db.row id).bind fun row => if row.record.isDeleted then none else some row.record

def putRow (db : Db) (id : TunnelId) (row : Row) : Db :=
  { db with tunnels := db.tunnels.put id row }

def putJob (db : Db) (c : CertificateId) (job : JobRow) : Db :=
  { db with jobs := db.jobs.put c job }

@[simp] theorem row_putRow (db : Db) (id id' : TunnelId) (row : Row) :
    (db.putRow id row).row id' = if id' = id then some row else db.row id' := rfl

@[simp] theorem job_putJob (db : Db) (c c' : CertificateId) (job : JobRow) :
    (db.putJob c job).job c' = if c' = c then some job else db.job c' := rfl

@[simp] theorem job_putRow (db : Db) (id : TunnelId) (row : Row) (c : CertificateId) :
    (db.putRow id row).job c = db.job c := rfl

@[simp] theorem row_putJob (db : Db) (c : CertificateId) (job : JobRow) (id : TunnelId) :
    (db.putJob c job).row id = db.row id := rfl

/-! ### Tunnels -/

/-- The row `save_tunnel` writes for a record: its columns are derived from it, its alarm is kept. -/
def savedRow (record : StoredTunnel) (revision : Nat) (alarmAt : Option Nat) : Row :=
  { record := record, revision := revision, deleted := (recordFlags record).1,
    issuing := (recordFlags record).2, alarmAt := alarmAt, localUpdate := true }

/-- `save_tunnel`: an insert at revision 0, else an update of the row still at the revision. -/
def saveTunnel (db : Db) (record : StoredTunnel) (revision : Nat) : Except Err Nat × Db :=
  if revision = 0 then
    match db.row record.id with
    | none => (.ok 1, db.putRow record.id (savedRow record 1 none))
    | some _ => (.error .conflict, db)
  else
    match db.row record.id with
    | some row =>
        if row.revision = revision then
          (.ok (revision + 1), db.putRow record.id (savedRow record (row.revision + 1) row.alarmAt))
        else (.error .conflict, db)
    | none => (.error .conflict, db)

/-- `alarm` -/
def alarm (db : Db) (id : TunnelId) : Option Nat := (db.row id).bind (·.alarmAt)

/-- `set_alarm` -/
def setAlarm (db : Db) (id : TunnelId) (at_ : Option Nat) : Db :=
  match db.row id with
  | some row => db.putRow id { row with alarmAt := at_ }
  | none => db

/-- `take_due_alarms_and_next`, the guarded clear of one alarm: whether it was still the one read. -/
def clearAlarm (db : Db) (id : TunnelId) (at_ : Nat) : Bool × Db :=
  match db.row id with
  | some row =>
      if row.alarmAt = some at_ then (true, db.putRow id { row with alarmAt := none })
      else (false, db)
  | none => (false, db)

/-- `SELECT id, alarm_at … WHERE alarm_at IS NOT NULL ORDER BY alarm_at LIMIT ?`: which answers the database may
    give. Rows with equal alarms come in any order. -/
def selectsAlarms (db : Db) (limit : Nat) (answer : List (TunnelId × Nat)) : Prop :=
  (answer.map Prod.fst).Nodup ∧ (∀ due ∈ answer, db.alarm due.1 = some due.2) ∧
  answer.Pairwise (fun a b => a.2 ≤ b.2) ∧ answer.length ≤ limit ∧
  ∀ id ∈ db.tunnels.present, id ∈ answer.map Prod.fst ∨
    ∀ at_ ∈ db.alarm id, answer.length = limit ∧ ∀ due ∈ answer, due.2 ≤ at_

instance (db : Db) (limit : Nat) (answer : List (TunnelId × Nat)) :
    Decidable (db.selectsAlarms limit answer) := by
  unfold selectsAlarms
  infer_instance

/-- `deleted_tunnels`: those of the tunnels whose `deleted` column is set. -/
def deletedTunnels (db : Db) (ids : List TunnelId) : List TunnelId :=
  ids.filter fun id => (db.row id).any (·.deleted)

/-- `issuing_tunnels` -/
def issuingTunnels (db : Db) : List StoredTunnel :=
  db.tunnels.present.filterMap fun id =>
    (db.row id).bind fun row => if row.issuing && !row.deleted then some row.record else none

/-! ### Imports -/

/-- The row an import writes. -/
def importedRow (record : StoredTunnel) (revision : Nat) (alarmAt : Option Nat) : Row :=
  { record := record, revision := revision, deleted := (recordFlags record).1,
    issuing := (recordFlags record).2, alarmAt := alarmAt, localUpdate := false }

/-- `try_import`, the insert: false when the row exists. -/
def importInsert (db : Db) (record : StoredTunnel) (alarmAt : Option Nat) : Bool × Db :=
  match db.row record.id with
  | none => (true, db.putRow record.id (importedRow record 1 alarmAt))
  | some _ => (false, db)

/-- `SELECT … FOR UPDATE` in the import's transaction: the row is locked until it ends. -/
def begin (db : Db) (t : Task) (id : TunnelId) (row : Row) : Db :=
  { db with transactions := db.transactions.put id ⟨t, row, none⟩ }

/-- The import's update, staged in its transaction. -/
def stage (db : Db) (t : Task) (record : StoredTunnel) (alarmAt : Option Nat) : Db :=
  match db.row record.id with
  | some row =>
      { db with transactions := db.transactions.put record.id
                  ⟨t, row, some (importedRow record (row.revision + 1) alarmAt)⟩ }
  | none => db

/-- The transaction ends without its update. -/
def rollback (db : Db) (id : TunnelId) : Db :=
  { db with transactions := db.transactions.update fun id' open_ => if id' = id then none else some open_ }

/-- The transaction ends with its update. -/
def commit (db : Db) (id : TunnelId) : Db :=
  match (db.transactions.get id).bind (·.staged) with
  | some row => (db.putRow id row).rollback id
  | none => db.rollback id

/-- The task's transaction on the row is open. -/
def inTransaction (db : Db) (t : Task) (id : TunnelId) : Bool :=
  (db.transactions.get id).any fun open_ => open_.owner = t

/-- A statement outside transactions does not wait for one on its row. -/
def free (db : Db) (id : TunnelId) : Bool := (db.transactions.get id).isNone

/-! ### Jobs -/

def leaseMs : Nat := 2 * minuteMs

/-- `add_job`: false when the certificate has one. -/
def addJob (db : Db) (job : Job) (runAt : Nat) : Bool × Db :=
  match db.job job.certificateId with
  | none =>
      (true, db.putJob job.certificateId
        { job := job, status := .pending, runAt := runAt, updatedAt := job.createdAt, leaseOwner := none,
          leaseUntil := none, lastError := none })
  | some _ => (false, db)

/-- `claim_job`, its update: whether the lease was taken. -/
def claimJob (db : Db) (c : CertificateId) (owner : MachineId) (now : Nat) : Bool × Db :=
  match db.job c with
  | some row =>
      if row.status = .pending ∧ row.runAt ≤ now ∧ row.takeable owner now = true then
        (true, db.putJob c { row with leaseOwner := some owner, leaseUntil := some (now + leaseMs) })
      else (false, db)
  | none => (false, db)

/-- `claim_job`, its read: the job as it is once taken. -/
def claimedJob (db : Db) (c : CertificateId) (owner : MachineId) : Option Job :=
  (db.job c).bind fun row => if row.leaseOwner = some owner then some row.job else none

/-- A guarded update of one job: whether its row met the guard. -/
def updateJob (db : Db) (c : CertificateId) (guard : JobRow → Bool) (update : JobRow → JobRow) : Bool × Db :=
  match db.job c with
  | some row => if guard row then (true, db.putJob c (update row)) else (false, db)
  | none => (false, db)

/-- `extend_lease` -/
def extendLease (db : Db) (c : CertificateId) (owner : MachineId) (now : Nat) : Bool × Db :=
  db.updateJob c (fun row => row.leaseOwner = some owner && row.status = .pending) fun row =>
    { row with leaseUntil := some (now + leaseMs) }

/-- `finish_job` -/
def finishJob (db : Db) (c : CertificateId) (owner : MachineId) (status : JobStatus) (error : Option String)
    (now : Nat) : Bool × Db :=
  db.updateJob c (fun row => row.leaseOwner = some owner) fun row =>
    { row with status := status, lastError := error, updatedAt := now, leaseOwner := none,
               leaseUntil := none }

/-- `retry_job` -/
def retryJob (db : Db) (c : CertificateId) (owner : MachineId) (attempts runAt : Nat) (error : String)
    (now : Nat) : Bool × Db :=
  db.updateJob c (fun row => row.leaseOwner = some owner) fun row =>
    { row with job := { row.job with attempts := attempts }, runAt := runAt, lastError := some error,
               updatedAt := now, leaseOwner := none, leaseUntil := none }

/-- `requeue_failed_job` -/
def requeueFailedJob (db : Db) (c : CertificateId) (now : Nat) : Bool × Db :=
  db.updateJob c (fun row => row.status = .failed) fun row => row.requeued now now

/-- `requeue_job_queued_before` -/
def requeueJobQueuedBefore (db : Db) (c : CertificateId) (before now : Nat) : Bool × Db :=
  db.updateJob c (fun row => (row.status = .failed || row.status = .pending) &&
      row.job.createdAt < before && row.leaseUntil.all (· < now)) fun row =>
    row.requeued (max now before) now

/-- `release_leases` -/
def releaseLeases (db : Db) (owner : MachineId) : Db :=
  { db with jobs := db.jobs.update fun _ row =>
      if row.leaseOwner = some owner then some { row with leaseOwner := none, leaseUntil := none }
      else some row }

/-- `failed_issue_jobs` -/
def failedIssueJobs (db : Db) (since : Nat) : List FailedJob :=
  db.jobs.present.filterMap fun c => (db.job c).bind fun row =>
    if row.status = .failed ∧ row.job.kind = .issue ∧ since ≤ row.updatedAt then
      some row.failedJob
    else none

/-- `authz_pending_issue_jobs` -/
def authzPendingIssueJobs (db : Db) (before since : Nat) : List FailedJob :=
  db.jobs.present.filterMap fun c => (db.job c).bind fun row =>
    if row.job.kind = .issue ∧ (row.status = .failed ∨ row.status = .pending) ∧
        row.job.createdAt < before ∧ since ≤ row.updatedAt ∧
        row.lastError.any (containsText · "authorization ended in pending") then
      some row.failedJob
    else none

end Db

end OpenTunnel
