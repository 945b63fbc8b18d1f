/-
Module: OpenTunnel.Model.Jobs
Layer: Model
Purpose: The background work (`jobs.rs`), imports (`admin.rs`, `migration.rs`, `store.rs`) and the system of all
  operations. A certificate job is claimed, checked, ordered and recorded as `execute` does it; which due job is
  taken next, the free slots and the cool-down of the certificate authority are left to the scheduler, and so
  are the ticks that extend a lease. `system` is what the theorems run.
Imports: OpenTunnel.Tasks.System, OpenTunnel.Model.Bridges
Trusted boundary: none (fully proved)
Main exports: permitted, wanted, execute, runJob, takeDueAlarms, fireDueAlarms, importTunnel, importFile,
  Operation, program, system
Open obligations: none
-/
import OpenTunnel.Tasks.System
import OpenTunnel.Model.Bridges

namespace OpenTunnel

section Jobs

variable (setup : Setup) (m : MachineId)

/-! ### Certificate jobs -/

/-- `PERSIST_FAILED` -/
def persistFailed : String := "Failed to persist certificate state: tunnel or certificate not found"

/-- `permitted` -/
def permitted (job : Job) : Except String Unit :=
  let domain := toAsciiLowercase setup.domain
  match job.kind, job.tunnelId with
  | .server, none =>
      let namesDomain := fun names : List String =>
        match names with
        | [name] => eqIgnoreAsciiCase name domain
        | _ => false
      match setup.externals.parseCsr job.csr with
      | none => .error "the CSR does not parse or verify"
      | some request =>
          if namesDomain job.identifiers && namesDomain request.identifiers then .ok ()
          else .error ("a server certificate for " ++ setup.externals.quotedList job.identifiers ++
            " is not for " ++ domain)
  | .server, some _ => .error "a tunnel certificate without a tunnel"
  | _, some id => checkTunnelRequest setup.externals id domain job.identifiers job.csr
  | _, none => .error "a tunnel certificate without a tunnel"

/-- The tunnel a job's certificate is for. -/
def Job.tunnel (job : Job) : Option TunnelId := if job.kind = .server then none else job.tunnelId

/-- `finish_job`, as the last statement of an execution. -/
def finish (job : Job) (status : JobStatus) (error : Option String) (now : Nat) : Fallible Unit := do
  let _ ← fallible (act (.finishJob job.certificateId status error now))

/-- `refuse` -/
def refuse (job : Job) (reason : String) : Fallible Unit := do
  let reason := "Certificate request refused: " ++ reason
  match job.tunnel with
  | some id =>
      let _ ← updateCertificate setup m id job.certificateId (.failed reason)
  | none => pure ()
  let now ← act .now
  finish job .failed (some reason) now

/-- `wanted` -/
def wanted (job : Job) : Call Bool :=
  match job.tunnel with
  | none => pure true
  | some id => do
      match ← (wantsCertificate setup m id job.certificateId).run with
      | .ok wanted => pure wanted
      | .error _ => pure true

/-- `abandon` -/
def abandon (job : Job) (reason : Option String) : Fallible Unit := do
  let now ← act .now
  finish job .abandoned reason now

/-- The challenge callback of `execute`: only first issuance shows the challenge. -/
def showChallenge (job : Job) (challenge : Challenge) : Call (Except IssueError Unit) :=
  match job.kind, job.tunnelId with
  | .issue, some id => do
      match ← (updateCertificate setup m id job.certificateId (.challenge challenge.token challenge.key)).run with
      | .ok true => pure (.ok ())
      | .ok false => pure (.error ⟨persistFailed, persistFailed, false⟩)
      | .error err => pure (.error ⟨err.text, err.text, false⟩)
  | _, _ => pure (.ok ())

/-- `issuer.issue`: the order is placed, the first pending authorization's challenge is shown, and the order
    ends. -/
def issue (job : Job) : Call (Except IssueError Issued) := do
  match ← act (.placeOrder job.identifiers job.csr) with
  | .error err => pure (.error err)
  | .ok none => act .completeOrder
  | .ok (some challenge) =>
      match ← showChallenge setup m job challenge with
      | .error err => pure (.error err)
      | .ok () => act .completeOrder

/-- `execute`, once the certificate was issued. One that is not wanted any more is logged and dropped. -/
def recordIssued (job : Job) (issued : Issued) (now : Nat) : Fallible Unit := do
  match job.tunnel with
  | some id =>
      if !(← updateCertificate setup m id job.certificateId
          (.ready issued.certificate issued.chain issued.expiry)) then
        act (.unwanted job.certificateId)
  | none => if job.kind = .server then fallible (act .installServer) else pure ()
  finish job .done none now

/-- `execute`, once the attempt failed. -/
def recordFailure (job : Job) (err : IssueError) (now : Nat) : Fallible Unit := do
  if containsText err.text persistFailed then
    abandon job (some err.text)
  else if !(← wanted setup m job) then
    abandon job (some err.text)
  else
    let attempts := job.attempts + 1
    match ← act .nextAttempt with
    | some at_ =>
        let _ ← fallible (act (.retryJob job.certificateId attempts at_ err.text now))
    | none =>
        match job.tunnel with
        | some id =>
            let _ ← updateCertificate setup m id job.certificateId (.failed err.publicReason)
        | none => pure ()
        finish job .failed (some err.text) now

/-- `execute` -/
def execute (job : Job) : Fallible Unit := do
  match permitted setup job with
  | .error reason => refuse setup m job reason
  | .ok () =>
      if !(← wanted setup m job) then
        abandon job none
      else
        let result ← ExceptT.lift (issue setup m job)
        let checkedAt ← act .now
        match ← attempt (act (.extendLease job.certificateId checkedAt)) with
        | .ok false => pure ()
        | _ =>
            let now ← act .now
            match result with
            | .ok issued => recordIssued setup m job issued now
            | .error err => if err.stopped then pure () else recordFailure setup m job err now

/-- `claim_job` -/
def claimJob (c : CertificateId) (now : Nat) : Fallible (Option Job) := do
  if !(← fallible (act (.claimJob c now))) then
    return none
  fallible (act (.claimedJob c))

/-- `start_due` of one job and the task it spawns. -/
def runJob (c : CertificateId) : Call Unit := do
  if ← act (.startRunning c) then
    let now ← act .now
    match ← (claimJob c now).run with
    | .ok (some job) =>
        let _ ← (execute setup m job).run
        act (.stopRunning c)
    | _ => act (.stopRunning c)

/-- A tick of `execute` that extends the lease. -/
def renewLease (c : CertificateId) : Call Unit := do
  let now ← act .now
  let _ ← (fallible (act (.extendLease c now))).run

/-! ### Alarms -/

def takeLimit : Nat := 500

/-- Clears the alarms read, one by one; those that were still as read are taken. -/
def clearAlarms : List (TunnelId × Nat) → Fallible (List TunnelId)
  | [] => pure []
  | (id, at_) :: rest => do
      let cleared ← fallible (act (.clearAlarm id at_))
      let others ← clearAlarms rest
      return if cleared then id :: others else others

/-- `take_due_alarms_and_next`: what is taken of the rows read, and when the next one is due. -/
def dueAlarms (rows : List (TunnelId × Nat)) (now : Nat) : List (TunnelId × Nat) :=
  (rows.takeWhile fun row => decide (row.2 ≤ now)).take takeLimit

def nextAlarm (rows : List (TunnelId × Nat)) (now : Nat) : Option Nat :=
  (rows[(dueAlarms rows now).length]?).map fun row => max row.2 now

/-- `take_due_alarms_and_next` -/
def takeDueAlarms (now : Nat) : Fallible (List TunnelId × Option Nat) := do
  let rows ← fallible (act (.selectAlarms (takeLimit + 1)))
  let taken ← clearAlarms (dueAlarms rows now)
  return (taken, nextAlarm rows now)

/-- A failure is logged (`renewal alarm failed`) and the alarm set again. -/
def retryAlarm (id : TunnelId) : Fallible Unit := do
  act (.alarmFailed id)
  let now ← act .now
  fallible (act (.setAlarm id (some (now + minuteMs))))

def fireAlarm (id : TunnelId) : Fallible Unit := do
  match ← attempt (alarm setup m id).run with
  | .ok () => pure ()
  | .error _ => retryAlarm id

/-- The loop of `fire_due_alarms_and_next`. -/
def fireAlarms : List TunnelId → Fallible Unit
  | [] => pure ()
  | id :: rest => do
      fireAlarm setup m id
      fireAlarms rest

/-- `fire_due_alarms_and_next` -/
def fireDueAlarms : Fallible (Nat × Option Nat) := do
  let now ← act .now
  let (due, next) ← takeDueAlarms now
  fireAlarms setup m due
  if due.isEmpty then
    return (due.length, next)
  let now ← act .now
  return (due.length, some (next.elim (now + minuteMs) fun next => min next (now + minuteMs)))

/-! ### Imports -/

inductive ImportOutcome where
  | inserted
  | updated
  | unchanged
  | keptLocal
deriving DecidableEq, Repr

/-- `try_import` -/
def tryImport (record : StoredTunnel) (alarmAt : Option Nat) (force : Bool) : Fallible ImportOutcome := do
  if ← fallible (act (.importInsert record alarmAt)) then
    return .inserted
  let (existing, localUpdate) ← fallible (act (.importSelect record.id))
  let outcome ←
    if localUpdate && !force then pure ImportOutcome.keptLocal
    else if existing = record then pure .unchanged
    else do
      fallible (act (.importUpdate record alarmAt))
      pure .updated
  fallible (act (.importCommit record.id))
  return outcome

/-- `import_tunnel`, with the attempts it has left. -/
def importTunnel (record : StoredTunnel) (alarmAt : Option Nat) (force : Bool) : Nat → Fallible ImportOutcome
  | 0 => tryImport record alarmAt force
  | attempts + 1 => do
      match ← attempt (tryImport record alarmAt force).run with
      | .error .contended => importTunnel record alarmAt force attempts
      | result => ExceptT.mk (pure result)

/-- One line of an export file. -/
structure ExportedRecord where
  record : Option StoredTunnel
  alarm : Option Nat
deriving DecidableEq, Repr

/-- `import`: the IDs of the records it imported. -/
def importRecords (force : Bool) : List ExportedRecord → Fallible (List TunnelId)
  | [] => pure []
  | entry :: rest =>
      match entry.record with
      | none => importRecords force rest
      | some record =>
          match checkImport setup.externals record setup.domain with
          | .error _ => importRecords force rest
          | .ok () => do
              let _ ← importTunnel record (entry.alarm.filter fun at_ => decide (0 < at_)) force 5
              let ids ← importRecords force rest
              return record.id :: ids

/-- The `import` endpoint of `admin.rs`: the cached copies are forgotten once the whole file is imported. -/
def importFile (force : Bool) (records : List ExportedRecord) : Call Unit := do
  match ← (importRecords setup force records).run with
  | .ok ids => ids.forM invalidate
  | .error _ => pure ()

end Jobs

/-! ### The system -/

/-- The operations a server's tasks run. -/
inductive Operation where
  | create (id : TunnelId) (tokenHash : String)
  | bindCertificate (id : TunnelId) (token csr : String)
  | remove (id : TunnelId) (token : String)
  | info (id : TunnelId)
  | session (id : TunnelId) (requests : List AttachRequest)
  | afterAttach (id : TunnelId) (b : BridgeId) (alarm : Option (Option Nat))
  | tunnelExists (id : TunnelId)
  | route (id : TunnelId) (sni : String)
  | heldRoutes (id : TunnelId)
  | sweep
  | drain
  | closeDeleted (id : TunnelId)
  | closeDeletedTunnels
  | invalidate (id : TunnelId)
  | expire (id : TunnelId)
  | handleNotice
  | updateCertificate (id : TunnelId) (c : CertificateId) (input : CertificateState)
  | runJob (c : CertificateId)
  | renewLease (c : CertificateId)
  | releaseLeases
  | fireDueAlarms
  | resumeOrphanedIssuance (graceMs : Nat)
  | retryFailedIssuance
  | importFile (force : Bool) (records : List ExportedRecord)
deriving DecidableEq, Repr

/-- The rest of a task that ignores its result. -/
def ignore {α : Type} (p : Fallible α) : Call Unit := do
  let _ ← p.run

/-- `info` and `certificate`: the entry is locked with its current record and only read. -/
def info (setup : Setup) (m : MachineId) (id : TunnelId) : Fallible Entry := do
  lockFresh setup m id
  holding id do
    let e ← act (.peek id)
    return e

def program (setup : Setup) (t : Task) : Operation → Call Unit
  | .create id tokenHash => ignore (create setup t.machine id tokenHash)
  | .bindCertificate id token csr => ignore (bindCertificate setup t.machine id token csr)
  | .remove id token => ignore (remove setup t.machine id token)
  | .info id => ignore (info setup t.machine id)
  | .session id requests => session setup t.machine id requests
  | .afterAttach id b alarm => afterAttach setup id b alarm
  | .tunnelExists id => ignore (tunnelExists setup t.machine id)
  | .route id sni => ignore (route setup t.machine id sni)
  | .heldRoutes id => do let _ ← heldRoutes id
  | .sweep => sweep
  | .drain => drain
  | .closeDeleted id => closeDeleted id
  | .closeDeletedTunnels => closeDeletedTunnels
  | .invalidate id => invalidate id
  | .expire id => expire id
  | .handleNotice => handleNotice
  | .updateCertificate id c input => ignore (updateCertificate setup t.machine id c input)
  | .runJob c => runJob setup t.machine c
  | .renewLease c => renewLease c
  | .releaseLeases => ignore (fallible (act .releaseLeases))
  | .fireDueAlarms => ignore (fireDueAlarms setup t.machine)
  | .resumeOrphanedIssuance graceMs => ignore (resumeOrphanedIssuance setup t.machine graceMs)
  | .retryFailedIssuance => ignore (retryFailedIssuance setup t.machine)
  | .importFile force records => importFile setup force records

/-- The deployment: the acts, the surroundings and the operations. -/
def system (setup : Setup) : Tasks.Semantics Task Act Act.Ans World Operation where
  Choice := Choice
  Move := Move
  exec := exec setup
  move := move
  program := program setup

end OpenTunnel
