/-
Module: OpenTunnel.Model.Schedule
Layer: Model
Purpose: The listings of the jobs a process may take (`due_job_ids` and `job_schedule` of `store.rs`). A listing is a
  stable sort of the rows in the table's own order, so the tables that differ only in that order give every order
  the database may choose among equal rows.
Imports: Mathlib.Data.List.Lex, OpenTunnel.Model.Store
Trusted boundary: none (fully proved)
Main exports: orderBy, JobRow.readyAt, Db.jobSchedule, Db.dueJobIds, Db.takeJob
Open obligations: none
-/
import Mathlib.Data.List.Lex
import OpenTunnel.Model.Store

namespace OpenTunnel

open Tasks (Table)

section Ordering

variable {α : Type} (key : α → List Nat)

/-- `ORDER BY` the values of `key`, the first that differs deciding. -/
def orderBy (rows : List α) : List α := rows.mergeSort fun a b => key a ≤ key b

theorem mem_orderBy {rows : List α} {a : α} : a ∈ orderBy key rows ↔ a ∈ rows :=
  List.mem_mergeSort

theorem orderBy_pairwise (rows : List α) : (orderBy key rows).Pairwise fun a b => key a ≤ key b := by
  have sorted := @List.pairwise_mergeSort _ (fun a b => decide (key a ≤ key b))
    (fun a b c first second => by
      simp only [decide_eq_true_eq] at first second ⊢
      exact le_trans first second)
    (fun a b => by simpa using le_total (key a) (key b)) rows
  simpa [orderBy] using sorted

theorem orderBy_of_pairwise {rows : List α} (sorted : rows.Pairwise fun a b => key a ≤ key b) :
    orderBy key rows = rows := by
  apply List.mergeSort_of_pairwise
  simpa using sorted

end Ordering

/-- When `owner` may take the job: when it is due and any lease of another process has expired. -/
def JobRow.readyAt (row : JobRow) (owner : MachineId) : Nat :=
  max row.runAt (match row.leaseUntil with
    | none => 0
    | some leaseUntil => if row.leaseOwner = some owner then 0 else leaseUntil + 1)

/-- A row of `job_schedule`. -/
structure Scheduled where
  certificateId : CertificateId
  readyAt : Nat
  kind : JobKind
deriving DecidableEq, Repr

namespace Scheduled

/-- The keys `job_schedule` orders by: `ready_at > now`, `kind = 'issue'`, `ready_at`. -/
def order (now : Nat) (entry : Scheduled) : List Nat :=
  [(decide (now < entry.readyAt)).toNat, (decide (entry.kind = .issue)).toNat, entry.readyAt]

end Scheduled

namespace Db

def jobRows (db : Db) : List (CertificateId × JobRow) :=
  db.jobs.present.filterMap fun c => (db.job c).map fun row => (c, row)

/-- The pending jobs with when `owner` may take each. -/
def pendingJobs (db : Db) (owner : MachineId) : List Scheduled :=
  (db.jobRows.filter fun entry => entry.2.status = .pending).map fun entry =>
    { certificateId := entry.1, readyAt := entry.2.readyAt owner, kind := entry.2.job.kind }

/-- `job_schedule` -/
def jobSchedule (db : Db) (owner : MachineId) (now limit : Nat) : List Scheduled :=
  (orderBy (Scheduled.order now) (db.pendingJobs owner)).take limit

/-- The jobs of the schedule that may be taken at `now`, as `start_due` goes through them. -/
def dueSchedule (db : Db) (owner : MachineId) (now limit : Nat) : List Scheduled :=
  (db.jobSchedule owner now limit).filter fun entry => entry.readyAt ≤ now

/-- `due_job_ids`, with its rows. -/
def dueJobs (db : Db) (owner : MachineId) (now limit : Nat) : List (CertificateId × JobRow) :=
  (orderBy (fun entry => [entry.2.runAt]) (db.jobRows.filter fun entry =>
    entry.2.status = .pending ∧ entry.2.runAt ≤ now ∧ entry.2.takeable owner now = true)).take limit

/-- `due_job_ids` -/
def dueJobIds (db : Db) (owner : MachineId) (now limit : Nat) : List CertificateId :=
  (db.dueJobs owner now limit).map Prod.fst

/-- `claim_job` with nothing between its update and its read. -/
def takeJob (db : Db) (c : CertificateId) (owner : MachineId) (now : Nat) : Option Job :=
  if (db.claimJob c owner now).1 then (db.claimJob c owner now).2.claimedJob c owner else none

theorem mem_jobRows {db : Db} {c : CertificateId} {row : JobRow} :
    (c, row) ∈ db.jobRows ↔ db.job c = some row := by
  constructor
  · intro listed
    obtain ⟨found, _, same⟩ := List.mem_filterMap.mp listed
    obtain ⟨held, read, equal⟩ := Option.map_eq_some_iff.mp same
    cases equal
    exact read
  · intro read
    apply List.mem_filterMap.mpr
    exact ⟨c, Table.mem_present.mpr (by simp [show db.jobs.get c = some row from read]), by simp [read]⟩

theorem mem_pendingJobs {db : Db} {owner : MachineId} {entry : Scheduled} :
    entry ∈ db.pendingJobs owner ↔
      ∃ row, db.job entry.certificateId = some row ∧ row.status = .pending ∧ entry.readyAt = row.readyAt owner ∧
        entry.kind = row.job.kind := by
  constructor
  · intro listed
    obtain ⟨⟨c, row⟩, kept, rfl⟩ := List.mem_map.mp listed
    obtain ⟨held, pending⟩ := List.mem_filter.mp kept
    exact ⟨row, mem_jobRows.mp held, by simpa using pending, rfl, rfl⟩
  · rintro ⟨row, held, pending, ready, kind⟩
    apply List.mem_map.mpr
    refine ⟨(entry.certificateId, row), List.mem_filter.mpr ⟨mem_jobRows.mpr held, by simpa using pending⟩, ?_⟩
    simp [← ready, ← kind]

end Db

end OpenTunnel
