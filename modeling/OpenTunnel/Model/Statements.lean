/-
Module: OpenTunnel.Model.Statements
Layer: Model
Purpose: The statements on `jobs` (`store.rs`) as one type: who sends them and with which time, and what each answers
  and does.
Imports: OpenTunnel.Model.Store
Trusted boundary: none (fully proved)
Main exports: JobCall, JobStatement, JobStatement.perform
Open obligations: none
-/
import OpenTunnel.Model.Store

namespace OpenTunnel

/-- The statements on `jobs` and who sends them. -/
inductive JobCall where
  | add (job : Job) (runAt : Nat)
  | claim (c : CertificateId) (owner : MachineId)
  | extend (c : CertificateId) (owner : MachineId)
  | finish (c : CertificateId) (owner : MachineId) (status : JobStatus) (error : Option String)
  | retry (c : CertificateId) (owner : MachineId) (attempts runAt : Nat) (error : String)
  | release (owner : MachineId)
  | requeueFailed (c : CertificateId)
  | requeueBefore (c : CertificateId) (before : Nat)
deriving DecidableEq, Repr

/-- A statement with the time it is sent with. -/
structure JobStatement where
  now : Nat
  call : JobCall
deriving DecidableEq, Repr

/-- What a statement answers and does. -/
def JobStatement.perform (s : JobStatement) (db : Db) : Bool × Db :=
  match s.call with
  | .add job runAt => db.addJob job runAt
  | .claim c owner => db.claimJob c owner s.now
  | .extend c owner => db.extendLease c owner s.now
  | .finish c owner status error => db.finishJob c owner status error s.now
  | .retry c owner attempts runAt error => db.retryJob c owner attempts runAt error s.now
  | .release owner => (true, db.releaseLeases owner)
  | .requeueFailed c => db.requeueFailedJob c s.now
  | .requeueBefore c before => db.requeueJobQueuedBefore c before s.now

/-- The owner writes the job's outcome. -/
def JobCall.records (call : JobCall) (c : CertificateId) (owner : MachineId) : Prop :=
  (∃ status error, call = .finish c owner status error) ∨
    ∃ attempts runAt error, call = .retry c owner attempts runAt error

end OpenTunnel
