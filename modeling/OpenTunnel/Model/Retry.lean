/-
Module: OpenTunnel.Model.Retry
Layer: Model
Purpose: Failed attempts and the jobs queued again (`retry.rs`, the failure path of `execute` in `jobs.rs`,
  `retry_failed_issuance` in `service.rs`). A failed attempt is classified by the typed causes of its error and
  decides when the job runs again; a pass classifies the text that was recorded. The statements on `jobs`, the runs of
  every process and the passes of every machine interleave in any order.
Imports: OpenTunnel.Model.Jobs
Trusted boundary: none (fully proved)
Main exports: Cause, classify, nextAttempt, Queue, Queue.Event, Queue.step
Open obligations: none
-/
import OpenTunnel.Model.Jobs

namespace OpenTunnel

/-! ### Typed errors (`retry.rs`, `acme.rs`) -/

/-- A cause in the chain of an error. Times are in milliseconds. -/
inductive Cause where
  /-- `acme::Transient` -/
  | transient (message : String) (retryAfter : Option Nat)
  /-- `acme::Problem`; `kind` is the problem's type, empty when the body was not a problem document -/
  | problem (status : Nat) (kind : String) (retryAfter : Option Nat) (message : String)
  /-- `reqwest::Error`; `retryable` is whether it is about a timeout, connecting, the request, a body or decoding -/
  | request (status : Option Nat) (retryable : Bool) (text : String)
  | other (text : String)
deriving DecidableEq, Repr

/-- `Class` -/
inductive FailureClass where
  | transient (after : Option Nat)
  | permanent
  | unknown
deriving DecidableEq, Repr

def FailureClass.isTransient : FailureClass → Bool
  | .transient _ => true
  | _ => false

/-- `classify_reason` knows no `Retry-After`. -/
def RetryClass.failureClass : RetryClass → FailureClass
  | .transient => .transient none
  | .permanent => .permanent
  | .unknown => .unknown

/-- `classify_status` of a response with its `Retry-After`. -/
def classifyResponse (status : Nat) (after : Option Nat) : FailureClass :=
  if status = 429 ∨ (500 ≤ status ∧ status ≤ 599) then .transient after
  else if status = 408 then .transient none
  else .unknown

/-- `classify_problem` -/
def classifyProblem (status : Nat) (kind : String) (retryAfter : Option Nat) : FailureClass :=
  -- `rsplit(':').next()`
  let kind := String.ofList (kind.toList.reverse.takeWhile (· ≠ ':')).reverse
  if permanentProblems.contains kind then .permanent
  else if transientProblems.contains kind then .transient retryAfter
  else classifyResponse status retryAfter

namespace Cause

def text : Cause → String
  | .transient message _ => message
  | .problem _ _ _ message => message
  | .request _ _ text => text
  | .other text => text

/-- What the cause's type says, where it says something. -/
def failureClass : Cause → Option FailureClass
  | .transient _ retryAfter => some (.transient retryAfter)
  | .problem status kind retryAfter _ => some (classifyProblem status kind retryAfter)
  | .request (some status) _ _ => some (classifyResponse status none)
  | .request none retryable _ => if retryable then some (.transient none) else none
  | .other _ => none

end Cause

/-- The text of an error with its causes, outermost first: the reason that is recorded. -/
def reasonOf (error : List Cause) : String := ": ".intercalate (error.map Cause.text)

/-- `classify` -/
def classify (error : List Cause) : FailureClass :=
  (error.findSome? Cause.failureClass).getD (classifyReason (reasonOf error)).failureClass

def issuanceAttempts : Nat := 3

def maxDelayMs : Nat := hourMs

/-- `backoff`. `jitter` is the random number that `jitter` divides by 2^32; the product fits a double exactly. -/
def backoff (baseMs attempts jitter : Nat) : Nat :=
  let delay := min (max (baseMs * 2 ^ min (attempts - 1) 32) 1) maxDelayMs
  let half := delay / 2
  half + half * min jitter (2 ^ 32) / 2 ^ 32

/-- `next_attempt` -/
def nextAttempt (failure : FailureClass) (attempts baseMs queuedAt now jitter : Nat) : Option Nat :=
  match failure with
  | .permanent => none
  | .unknown => if issuanceAttempts ≤ attempts then none else some (now + backoff baseMs attempts jitter)
  | .transient after =>
      let delay := max (backoff baseMs attempts jitter) (min (after.getD 0) maxDelayMs)
      if now + delay ≤ queuedAt + retryWindowMs then some (now + delay) else none

/-! ### The queue and who works on it -/

/-- How an attempt ended. -/
inductive AttemptResult where
  | issued
  | failed (error : List Cause)
deriving DecidableEq, Repr

/-- A certificate in a process's `running` set, as far as its task got. -/
inductive RunPhase where
  /-- before `claim_job` -/
  | starting
  /-- `claim_job` took the lease and did not read the job yet -/
  | taken
  /-- in `execute`, before its result -/
  | attempting (job : Job)
  /-- past the check of the lease -/
  | attempted (job : Job) (result : AttemptResult) (now : Nat)
  /-- the tunnel was told; the job is still to be finished as failed -/
  | givingUp (job : Job) (reason : String) (now : Nat)
deriving DecidableEq, Repr

/-- A `retry_failed_issuance` under way. -/
structure RetryPass where
  now : Nat
  /-- the jobs of the loop it is in that it still has to look at -/
  left : List FailedJob
  /-- it is in its second loop -/
  stuck : Bool := false
  seen : List CertificateId := []
deriving DecidableEq, Repr

/-- The jobs and everyone who works on them. `failedShown` is whether the certificate's tunnel still waits for it and
    shows it as failed; `early` counts how often the early-give-up rule queued a job again. -/
structure Queue where
  db : Db
  runs : MachineId → CertificateId → Option RunPhase := fun _ _ => none
  passes : Nat → Option RetryPass := fun _ => none
  failedShown : CertificateId → Bool := fun _ => false
  early : CertificateId → Nat := fun _ => 0

namespace Queue

def setRun (s : Queue) (owner : MachineId) (c : CertificateId) (phase : Option RunPhase) : Queue :=
  { s with runs := fun owner' c' => if owner' = owner ∧ c' = c then phase else s.runs owner' c' }

def setPass (s : Queue) (p : Nat) (pass : Option RetryPass) : Queue :=
  { s with passes := fun p' => if p' = p then pass else s.passes p' }

def setShown (s : Queue) (c : CertificateId) (failed : Bool) : Queue :=
  { s with failedShown := fun c' => if c' = c then failed else s.failedShown c' }

def countEarly (s : Queue) (c : CertificateId) : Queue :=
  { s with early := fun c' => if c' = c then s.early c' + 1 else s.early c' }

/-- The run ends with a last statement. -/
def endRun (s : Queue) (owner : MachineId) (c : CertificateId) (db : Db) : Queue :=
  { s with db := db }.setRun owner c none

inductive Event where
  | add (job : Job) (runAt : Nat)
  /-- `start_due` puts the certificate into `running` -/
  | start (owner : MachineId) (c : CertificateId)
  | claim (owner : MachineId) (c : CertificateId) (now : Nat)
  | load (owner : MachineId) (c : CertificateId)
  /-- a tick of `execute` that extends the lease -/
  | renew (owner : MachineId) (c : CertificateId) (now : Nat)
  /-- `refuse`, as far as telling the tunnel; `told` is whether that took effect -/
  | refuse (owner : MachineId) (c : CertificateId) (reason : String) (told : Bool) (now : Nat)
  /-- `execute` finds that the certificate is not wanted -/
  | unwanted (owner : MachineId) (c : CertificateId) (now : Nat)
  /-- the attempt ends and the lease is checked; `checked` is whether that statement was answered -/
  | attempt (owner : MachineId) (c : CertificateId) (result : AttemptResult) (checked : Bool) (checkedAt now : Nat)
  /-- what follows from the result; `wanted` and `told` are about the tunnel, `later` is the time `abandon` reads -/
  | settle (owner : MachineId) (c : CertificateId) (wanted told : Bool) (jitter later : Nat)
  | giveUp (owner : MachineId) (c : CertificateId)
  /-- the run ends where it is: its process dies or stops, or a statement fails -/
  | leave (owner : MachineId) (c : CertificateId)
  | release (owner : MachineId)
  /-- anything else that changes what the tunnel shows -/
  | shown (c : CertificateId) (failed : Bool)
  /-- `retry_failed_issuance` starts -/
  | begin (p : Nat) (now : Nat)
  /-- its first loop looks at the next job; `saved` is whether showing the tunnel as issuing again took effect -/
  | retryFailed (p : Nat) (saved : Bool)
  /-- its second loop starts -/
  | findStuck (p : Nat)
  /-- its second loop looks at the next job; `waiting` is whether the tunnel still waits for that certificate -/
  | retryStuck (p : Nat) (waiting saved : Bool)
  /-- it ends, or a statement of it fails -/
  | quit (p : Nat)
deriving DecidableEq, Repr

/-- One job of the first loop. -/
def retryJob (s : Queue) (p : Nat) (pass : RetryPass) (job : FailedJob) (rest : List FailedJob) (saved : Bool) : Queue :=
  let c := job.certificateId
  let on := s.setPass p (some { pass with left := rest })
  if !retriesFailed job then on
  else if job.tunnelId.isNone then on
  else if !s.failedShown c then on
  else
    let (done, db) := s.db.requeueFailedJob c pass.now
    if !done then { on with db := db }
    else
      let seen := { on with db := db }.setPass p (some { pass with left := rest, seen := c :: pass.seen })
      (if saved then seen.setShown c false else seen).countEarly c

/-- One job of the second loop. -/
def retryStuckJob (s : Queue) (p : Nat) (pass : RetryPass) (job : FailedJob) (rest : List FailedJob)
    (waiting saved : Bool) : Queue :=
  let c := job.certificateId
  let on := s.setPass p (some { pass with left := rest })
  if pass.seen.contains c then on
  else if job.tunnelId.isNone then on
  else if !waiting then on
  else
    let (done, db) := s.db.requeueJobQueuedBefore c authzPendingFixMs pass.now
    if done && saved then { on with db := db }.setShown c false else { on with db := db }

/-- What `execute` does once an attempt failed. -/
def recordFailure (baseMs : Nat) (s : Queue) (owner : MachineId) (c : CertificateId) (job : Job) (error : List Cause)
    (now : Nat) (wanted told : Bool) (jitter later : Nat) : Queue :=
  let reason := reasonOf error
  if containsText reason persistFailed || !wanted then
    s.endRun owner c (s.db.finishJob c owner .abandoned (some reason) later).2
  else
    let attempts := job.attempts + 1
    match nextAttempt (classify error) attempts baseMs job.createdAt now jitter with
    | some at_ => s.endRun owner c (s.db.retryJob c owner attempts at_ reason now).2
    | none =>
        let telling := job.tunnel.isSome && told
        (if telling then s.setShown c true else s).setRun owner c (some (.givingUp job reason now))

def step (baseMs : Nat) (e : Event) (s : Queue) : Option Queue :=
  match e with
  | .add job runAt => some { s with db := (s.db.addJob job runAt).2 }
  | .start owner c => match s.runs owner c with
      | none => some (s.setRun owner c (some .starting))
      | some _ => none
  | .claim owner c now => match s.runs owner c with
      | some .starting =>
          let (taken, db) := s.db.claimJob c owner now
          some ({ s with db := db }.setRun owner c (if taken then some .taken else none))
      | _ => none
  | .load owner c => match s.runs owner c with
      | some .taken => some (s.setRun owner c ((s.db.claimedJob c owner).map .attempting))
      | _ => none
  | .renew owner c now => match s.runs owner c with
      | some (.attempting _) => some { s with db := (s.db.extendLease c owner now).2 }
      | _ => none
  | .refuse owner c reason told now => match s.runs owner c with
      | some (.attempting job) =>
          let telling := job.tunnel.isSome && told
          some ((if telling then s.setShown c true else s).setRun owner c
            (some (.givingUp job ("Certificate request refused: " ++ reason) now)))
      | _ => none
  | .unwanted owner c now => match s.runs owner c with
      | some (.attempting _) => some (s.endRun owner c (s.db.finishJob c owner .abandoned none now).2)
      | _ => none
  | .attempt owner c result checked checkedAt now => match s.runs owner c with
      | some (.attempting job) =>
          if checked then
            let (held, db) := s.db.extendLease c owner checkedAt
            some ({ s with db := db }.setRun owner c (if held then some (.attempted job result now) else none))
          else some (s.setRun owner c (some (.attempted job result now)))
      | _ => none
  | .settle owner c wanted told jitter later => match s.runs owner c with
      | some (.attempted job (.failed error) now) =>
          some (s.recordFailure baseMs owner c job error now wanted told jitter later)
      | some (.attempted _ .issued now) => some (s.endRun owner c (s.db.finishJob c owner .done none now).2)
      | _ => none
  | .giveUp owner c => match s.runs owner c with
      | some (.givingUp _ reason now) =>
          some (s.endRun owner c (s.db.finishJob c owner .failed (some reason) now).2)
      | _ => none
  | .leave owner c => some (s.setRun owner c none)
  | .release owner => some { s with db := s.db.releaseLeases owner }
  | .shown c failed => some (s.setShown c failed)
  | .begin p now => match s.passes p with
      | none => some (s.setPass p (some { now := now, left := s.db.failedIssueJobs (now - retryFailedMaxAgeMs) }))
      | some _ => none
  | .retryFailed p saved => match s.passes p with
      | some pass => match pass.stuck, pass.left with
          | false, job :: rest => some (s.retryJob p pass job rest saved)
          | _, _ => none
      | none => none
  | .findStuck p => match s.passes p with
      | some pass => match pass.stuck, pass.left with
          | false, [] =>
              let left := s.db.authzPendingIssueJobs authzPendingFixMs (pass.now - retryFailedMaxAgeMs)
              some (s.setPass p (some { pass with left := left, stuck := true }))
          | _, _ => none
      | none => none
  | .retryStuck p waiting saved => match s.passes p with
      | some pass => match pass.stuck, pass.left with
          | true, job :: rest => some (s.retryStuckJob p pass job rest waiting saved)
          | _, _ => none
      | none => none
  | .quit p => some (s.setPass p none)

/-- The job the first loop of the pass looks at next. -/
def upcoming (s : Queue) (p : Nat) : Option FailedJob :=
  (s.passes p).bind fun pass => if pass.stuck then none else pass.left.head?

end Queue

end OpenTunnel
