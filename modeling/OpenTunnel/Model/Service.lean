/-
Module: OpenTunnel.Model.Service
Layer: Model
Purpose: The operations of `Service` (`service.rs`) as programs over the acts, in the source's order. A guard that
  goes out of scope is an `unlock` on every path. Analytics, metrics and logging are left out; so is the
  semaphore that bounds attach bookkeeping, which only delays it.
Imports: OpenTunnel.Tasks.Prog, OpenTunnel.Model.Act, OpenTunnel.Model.Names
Trusted boundary: none (fully proved)
Main exports: lock, lockFresh, lockRoutable, lockForAttach, refresh, create, bindCertificate, remove,
  updateCertificate, wantsCertificate, startRenewal, alarm, onAttached, resumeOrphanedIssuance, retryFailedIssuance
Open obligations: none
-/
import OpenTunnel.Tasks.Prog
import OpenTunnel.Model.Act
import OpenTunnel.Model.Names

namespace OpenTunnel

open Tasks (Prog)

/-! ### Constants -/

def renewBeforeMs : Nat := 30 * dayMs
def activeWindowMs : Nat := 90 * dayMs
def renewalRetryMs : Nat := hourMs
def renewalStaleMs : Nat := dayMs
def orphanMaxAgeMs : Nat := 2 * dayMs
def retryFailedMaxAgeMs : Nat := 7 * dayMs
def authzPendingFixMs : Nat := 1791957600000
def refreshBackoffMs : Nat := 5000
def notReadyTtlMs : Nat := 5000
def safetyTtlMs : Nat := 10 * minuteMs
def attachRereadMs : Nat := 2000
def lastConnectedIntervalMs : Nat := hourMs
def maxTunnelRoutes : Nat := 256
def retryWindowMs : Nat := dayMs

/-! ### Programs -/

/-- Code that cannot fail. -/
abbrev Call := Prog Act Act.Ans

/-- Code that returns a `Result`. -/
abbrev Fallible := ExceptT Err Call

def act (op : Act) : Call op.Ans := Prog.act op

/-- The `?` of a storage call. -/
def fallible {α : Type} (p : Call (Except Err α)) : Fallible α := ExceptT.mk p

/-- A result that is looked at instead of returned. -/
def attempt {α : Type} (p : Call (Except Err α)) : Fallible (Except Err α) := ExceptT.lift p

/-- Runs the rest of a function that holds an entry's guard, and drops the guard however it returns. -/
def holding {α : Type} (id : TunnelId) (body : Fallible α) : Fallible α := ExceptT.mk do
  let result ← body.run
  act (.unlock id)
  pure result

section Operations

variable (setup : Setup) (m : MachineId)

/-! ### Locks -/

/-- Reads the record of a locked entry that has none. -/
def load (id : TunnelId) : Fallible Unit := do
  match ← attempt (act (.read id)) with
  | .error err =>
      act (.unlock id)
      throw err
  | .ok found =>
      let now ← act .now
      let generation ← act .generation
      act (.stamp id ⟨now, generation, found.map fun alarm => (now, alarm)⟩)

/-- `lock` -/
def lock (id : TunnelId) : Fallible Unit := do
  act (.lock id)
  let e ← act (.peek id)
  if !e.loaded then
    load id

/-- `refresh` -/
def refresh (id : TunnelId) (e : Entry) : Call Unit := do
  let now ← act .now
  let failedAt ← act .refreshFailedAt
  if now - failedAt < refreshBackoffMs then
    return
  let generation ← act .generation
  match ← act (.read id) with
  | .ok _ => act (.stamp id ⟨now, generation, e.alarm⟩)
  | .error _ => act (.setRefreshFailedAt now)

/-- `lock_fresh` -/
def lockFresh (id : TunnelId) : Fallible Unit := do
  if !setup.clustered m then
    lock id
  else
    act (.lock id)
    let e ← act (.peek id)
    if !e.loaded then
      act (.unlock id)
      lock id
    else
      refresh id e

/-- `lock_routable` -/
def lockRoutable (id : TunnelId) : Fallible Unit := do
  if !setup.clustered m then
    lock id
  else
    act (.lock id)
    let e ← act (.peek id)
    if !e.loaded then
      act (.unlock id)
      lock id
    else if e.stale then
      refresh id e
    else if e.live.any (·.certificateReady) then
      pure ()
    else
      let generation ← act .generation
      if e.generation < generation then
        refresh id e
      else
        let complete ← act .complete
        let ttl := if complete then safetyTtlMs else if e.live.isSome then notReadyTtlMs else missingTtlMs
        let now ← act .now
        if now - e.checkedAt < ttl then
          pure ()
        else
          refresh id e

/-- An attach uses the record read with an alarm this recently. -/
def rereadAlarm (e : Entry) (generation now : Nat) : Option (Option Nat) :=
  match e.alarm with
  | some (readAt, alarm) =>
      if e.loaded ∧ e.stale = false ∧ e.generation = generation ∧ readAt = e.checkedAt ∧
          now - readAt < attachRereadMs then
        some alarm
      else none
  | none => none

/-- `lock_for_attach`; answers the alarm when it was read with the record (`AttachFollowup`). -/
def lockForAttach (id : TunnelId) : Fallible (Option (Option Nat)) := do
  if !setup.clustered m then
    lock id
    pure none
  else
    act (.lock id)
    let e ← act (.peek id)
    let now ← act .now
    let failedAt ← act .refreshFailedAt
    if e.loaded && decide (now - failedAt < refreshBackoffMs) then
      pure none
    else
      let generation ← act .generation
      match rereadAlarm e generation now with
      | some alarm => pure (some alarm)
      | none =>
          match ← attempt (act (.read id)) with
          | .ok (some alarm) =>
              act (.stamp id ⟨now, generation, some (now, alarm)⟩)
              pure (some alarm)
          | .ok none =>
              act (.stamp id ⟨now, generation, e.alarm⟩)
              pure none
          | .error err =>
              if e.loaded then
                act (.setRefreshFailedAt now)
                pure none
              else
                act (.unlock id)
                throw err

/-- `expire` -/
def expire (id : TunnelId) : Call Unit := do
  if ← act (.known id) then
    act (.lock id)
    act (.markStale id)
    act (.unlock id)

/-- `invalidate` -/
def invalidate (id : TunnelId) : Call Unit := do
  act (.lock id)
  act (.unload id)
  act (.unlock id)

/-! ### API -/

inductive Lookup where
  | ok
  | notFound
  | unauthorized
deriving DecidableEq, Repr

/-- `create` -/
def create (id : TunnelId) (tokenHash : String) : Fallible Bool := do
  lockFresh setup m id
  holding id do
    let e ← act (.peek id)
    if e.live.isSome then
      return false
    let now ← act .now
    fallible (act (.save id (.create (id ++ "." ++ setup.domain) tokenHash (setup.externals.iso now))))
    act (.publish (.tunnelCreated id))
    fallible (act (.setAlarm id none))
    return true

/-- `ensure_issuance` -/
def ensureIssuance (record : StoredTunnel) (kind : JobKind) : Fallible Unit := do
  let certificateId := if kind = .renew then record.renewal.map (·.certificateId) else record.certificateId
  match certificateId with
  | none => throw (.message "Certificate ID is missing")
  | some c =>
      match record.certificateCsr with
      | none => throw (.message "Certificate CSR is missing")
      | some csr =>
          let createdAt ← act .now
          let runAt ← act .now
          let added ← fallible (act (.addJob
            { certificateId := c, tunnelId := some record.id, kind := kind, identifiers := record.identifiers,
              csr := csr, attempts := 0, createdAt := createdAt } runAt))
          if added then
            act (.publish .jobEnqueued)

inductive Bind where
  | ok (certificate : CertificateInfo)
  | notFound
  | unauthorized
  | inProgress
  | invalidRequest (message : String)
  | invalidHostname (provided expected : String)
  | unavailable (reason : String)
  | rateLimited (retryAfterMs : Nat)
  | backlogged
deriving DecidableEq, Repr

/-- The limits on new certificates, when this machine has any. -/
def issuanceLimits (id : TunnelId) : Fallible (Option Bind) := do
  if setup.limited m then
    if ← act .backlogged then
      return some .backlogged
    match ← fallible (act (.issuance id)) with
    | some retryAfterMs => return some (.rateLimited retryAfterMs)
    | none => return none
  return none

/-- `bind_certificate`, the new certificate. -/
def bindNew (id : TunnelId) (csr : String) (request : Request) : Fallible Bind := do
  let certificateId := "cert_" ++ (← act .uuid)
  let startedAt ← act .now
  fallible (act (.save id (.bind certificateId csr request.identifiers (setup.externals.iso startedAt))))
  act (.publish (.certificateChanged id))
  let e ← act (.peek id)
  match e.record with
  | none => return .notFound
  | some issuing =>
      match ← attempt (ensureIssuance issuing .issue).run with
      | .ok () => return .ok ⟨certificateId, .issuing⟩
      | .error err =>
          fallible (act (.save id (.bindFailed certificateId err.text)))
          return .unavailable err.text

/-- `bind_certificate` -/
def bindCertificate (id : TunnelId) (token csr : String) : Fallible Bind := do
  lockFresh setup m id
  holding id do
    let e ← act (.peek id)
    match e.live with
    | none => return .notFound
    | some record =>
        if !tokenMatches setup.externals token record.tokenHash then
          return .unauthorized
        match setup.externals.parseCsr csr with
        | none => return .invalidRequest "Failed to parse CSR"
        | some request =>
            if request.hostname ≠ record.hostname then
              return .invalidHostname request.hostname record.hostname
            let wildcard := "*." ++ record.hostname
            if request.identifiers.any fun name => name != record.hostname && name != wildcard then
              return .invalidHostname (String.intercalate "," request.identifiers)
                (record.hostname ++ "," ++ wildcard)
            match record.certificate with
            | some certificate =>
                if record.certificateCsr = some csr then
                  match ← attempt (ensureIssuance record .issue).run with
                  | .error err => return .unavailable err.text
                  | .ok () => return .ok certificate
                if !(certificate.state.isReady || certificate.state.isFailed) then
                  return .inProgress
            | none => pure ()
            match ← issuanceLimits setup m id with
            | some refused => return refused
            | none => bindNew setup id csr request

/-- `remove` -/
def remove (id : TunnelId) (token : String) : Fallible Lookup := do
  lockFresh setup m id
  holding id do
    let e ← act (.peek id)
    match e.live with
    | none => return .notFound
    | some record =>
        if !tokenMatches setup.externals token record.tokenHash then
          return .unauthorized
        act (.closeBridges id)
        let now ← act .now
        fallible (act (.save id (.delete (setup.externals.iso now))))
        act (.publish (.tunnelDeleted id))
        fallible (act (.setAlarm id none))
        return .ok

/-! ### Certificates -/

/-- `schedule_renewal` -/
def scheduleRenewal (record : StoredTunnel) : Fallible Unit := do
  if record.isDeleted then
    return
  match record.readyExpiry.bind setup.externals.parseIso with
  | none => return
  | some expiry =>
      let now ← act .now
      fallible (act (.setAlarm record.id (some (max (expiry - renewBeforeMs) (now + minuteMs)))))

/-- `update_certificate` of the renewal. -/
def updateRenewal (id : TunnelId) (renewal : Renewal) (input : CertificateState) (now : Nat) :
    Fallible Unit := do
  match input with
  | .ready .. =>
      fallible (act (.save id (.renewed renewal.certificateId input)))
      act (.publish (.certificateChanged id))
      let e ← act (.peek id)
      match e.record with
      | some renewed => scheduleRenewal setup renewed
      | none => pure ()
  | .failed _ =>
      fallible (act (.save id .clearRenewal))
      fallible (act (.setAlarm id (some (now + renewalRetryMs))))
  | _ => pure ()

/-- `update_certificate` of the current certificate. -/
def updateCurrent (id : TunnelId) (c : CertificateId) (input : CertificateState) : Fallible Unit := do
  fallible (act (.save id (.certificate c input)))
  if input.isReady then
    act (.publish (.certificateChanged id))
  let e ← act (.peek id)
  match e.record with
  | some updated => scheduleRenewal setup updated
  | none => pure ()

/-- `update_certificate` -/
def updateCertificate (id : TunnelId) (c : CertificateId) (input : CertificateState) : Fallible Bool := do
  lockFresh setup m id
  holding id do
    let e ← act (.peek id)
    match e.live with
    | none => return false
    | some record =>
        let now ← act .now
        match record.renewal.filter fun renewal => renewal.certificateId == c with
        | some renewal =>
            updateRenewal setup id renewal input now
            return true
        | none =>
            if record.certificateId ≠ some c then
              return false
            updateCurrent setup id c input
            return true

/-- `wants_certificate` -/
def wantsCertificate (id : TunnelId) (c : CertificateId) : Fallible Bool := do
  lockFresh setup m id
  holding id do
    let e ← act (.peek id)
    return e.live.any (·.wants c)

/-- The record says the tunnel was connected within the window (`is_active`, without its bridges). -/
def recentlyConnected (record : StoredTunnel) (now : Nat) : Bool :=
  (record.lastConnectedAt.bind setup.externals.parseIso).any fun at_ => decide (now - at_ < activeWindowMs)

/-- `is_active` -/
def isActive (id : TunnelId) (record : StoredTunnel) : Call Bool := do
  let bridges ← act (.bridgesOf id)
  if bridges.any fun b => b.2.isAttached then
    return true
  let now ← act .now
  return recentlyConnected setup record now

/-- `start_renewal` -/
def startRenewal (id : TunnelId) (record : StoredTunnel) : Fallible Unit := do
  if record.certificateCsr.isNone then
    return
  let certificateId := "cert_" ++ (← act .uuid)
  let startedAt ← act .now
  fallible (act (.save id (.renew certificateId (setup.externals.iso startedAt))))
  let e ← act (.peek id)
  match e.record with
  | none => return
  | some renewing =>
      match ← attempt (ensureIssuance renewing .renew).run with
      | .ok () => return
      | .error _ =>
          fallible (act (.save id (.restoreRenewal record.renewal)))
          let now ← act .now
          fallible (act (.setAlarm record.id (some (now + renewalRetryMs))))

/-- A renewal is under way and not yet treated as lost. -/
def renewalFresh (record : StoredTunnel) (now : Nat) : Bool :=
  record.renewal.any fun renewal =>
    (setup.externals.parseIso renewal.startedAt).any fun started => decide (now - started < renewalStaleMs)

/-- `alarm` -/
def alarm (id : TunnelId) : Fallible Unit := do
  lockFresh setup m id
  holding id do
    let e ← act (.peek id)
    match e.live with
    | none => return
    | some record =>
        match record.readyExpiry.bind setup.externals.parseIso with
        | none => return
        | some expiry =>
            let now ← act .now
            if renewalFresh setup record now then
              return
            if now < expiry - renewBeforeMs then
              scheduleRenewal setup record
            else
              let active ← isActive setup id record
              if active then
                startRenewal setup id record

/-- `on_attached` -/
def onAttached (id : TunnelId) (record : StoredTunnel) (alarm : Option (Option Nat)) : Fallible Unit := do
  match record.readyExpiry.bind setup.externals.parseIso with
  | none => return
  | some expiry =>
      let now ← act .now
      if !renewalFresh setup record now && decide (expiry - renewBeforeMs ≤ now) then
        startRenewal setup id record
      else
        let current ← match alarm with
          | some alarm => pure alarm
          | none => fallible (act (.alarm record.id))
        if current.isNone then
          scheduleRenewal setup record

/-- The records of `resume_orphaned_issuance` that are old enough to be resumed, and not abandoned. -/
def orphanAge (graceMs now : Nat) (started : Option String) : Bool :=
  (started.bind setup.externals.parseIso).any fun started =>
    decide (graceMs ≤ now - started) && decide (now - started < orphanMaxAgeMs)

/-- `resume_orphaned_issuance` of one candidate. -/
def resumeOrphan (graceMs now : Nat) (candidate : StoredTunnel) : Fallible Unit := do
  lockFresh setup m candidate.id
  holding candidate.id do
    let e ← act (.peek candidate.id)
    match e.live with
    | none => return
    | some record =>
        match record.certificateId with
        | some c =>
            if (record.certificate.any fun certificate => certificate.state.isIssuing) &&
                orphanAge setup graceMs now record.certificateStartedAt then
              if !(← fallible (act (.jobExists c))) then
                ensureIssuance record .issue
        | none => pure ()
        match record.renewal with
        | some renewal =>
            if orphanAge setup graceMs now (some renewal.startedAt) then
              if !(← fallible (act (.jobExists renewal.certificateId))) then
                ensureIssuance record .renew
        | none => pure ()

/-- `resume_orphaned_issuance` -/
def resumeOrphanedIssuance (graceMs : Nat) : Fallible Unit := do
  let now ← act .now
  let candidates ← fallible (act .issuingTunnels)
  candidates.forM (resumeOrphan setup m graceMs now)

/-- A failed job gave up early on a transient error. -/
def retriesFailed (job : FailedJob) : Bool :=
  decide (job.updatedAt - job.createdAt < retryWindowMs / 2) && classifyReason job.lastError == .transient

/-- The record shows the certificate, in a state that satisfies `state`. -/
def shows (record : StoredTunnel) (c : CertificateId) (state : CertificateState → Bool) : Bool :=
  record.certificateId == some c &&
    record.certificate.any fun certificate => certificate.id == c && state certificate.state

/-- `retry_failed_issuance`, one failed job; answers whether it was queued again. -/
def retryFailedJob (now : Nat) (job : FailedJob) : Fallible Bool := do
  if !retriesFailed job then
    return false
  match job.tunnelId with
  | none => return false
  | some id =>
      lockFresh setup m id
      holding id do
        let e ← act (.peek id)
        match e.live with
        | none => return false
        | some record =>
            if !shows record job.certificateId (·.isFailed) then
              return false
            if !(← fallible (act (.requeueFailedJob job.certificateId now))) then
              return false
            let _ ← attempt (act (.save id (.reissue job.certificateId)))
            return true

/-- `retry_failed_issuance`, one job that ended on a pending authorization. -/
def retryPendingJob (now : Nat) (seen : List CertificateId) (job : FailedJob) : Fallible Bool := do
  if seen.contains job.certificateId then
    return false
  match job.tunnelId with
  | none => return false
  | some id =>
      lockFresh setup m id
      holding id do
        let e ← act (.peek id)
        match e.live with
        | none => return false
        | some record =>
            if !shows record job.certificateId (!·.isReady) then
              return false
            if !(← fallible (act (.requeueJobQueuedBefore job.certificateId authzPendingFixMs now))) then
              return false
            if record.certificate.any (·.state.isFailed) then
              let _ ← attempt (act (.save id (.reissue job.certificateId)))
            return true

/-- The certificates of the jobs a pass queued again. -/
def requeued (retry : FailedJob → Fallible Bool) : List FailedJob → Fallible (List CertificateId)
  | [] => pure []
  | job :: rest => do
      let again ← retry job
      let others ← requeued retry rest
      return if again then job.certificateId :: others else others

/-- `retry_failed_issuance` -/
def retryFailedIssuance : Fallible Unit := do
  let now ← act .now
  let failed ← fallible (act (.failedIssueJobs (now - retryFailedMaxAgeMs)))
  let seen ← requeued (retryFailedJob setup m now) failed
  let stuck ← fallible (act (.authzPendingIssueJobs authzPendingFixMs (now - retryFailedMaxAgeMs)))
  let others ← requeued (retryPendingJob setup m now seen) stuck
  if !(seen ++ others).isEmpty then
    act (.publish .jobEnqueued)

end Operations

end OpenTunnel
