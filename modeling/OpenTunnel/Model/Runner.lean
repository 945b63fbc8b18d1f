/-
Module: OpenTunnel.Model.Runner
Layer: Model
Purpose: Which due jobs a process starts (`start_due` of `jobs.rs`). A pass lists the jobs, looks up the cool-down of
  the certificate authority, and goes through the due ones: under the lock of `running` it decides whether there is
  room, then it claims the job. Statements of every process, ends of executions and the shutdown happen in between.
Imports: OpenTunnel.Model.Schedule, OpenTunnel.Model.Statements
Trusted boundary: none (fully proved)
Main exports: issueSlots, StartPass, Runner, Runner.Event, Runner.step
Open obligations: none
-/
import OpenTunnel.Model.Schedule
import OpenTunnel.Model.Statements

namespace OpenTunnel

/-- `issue_slots` -/
def issueSlots (concurrency : Nat) : Nat := if 1 < concurrency then concurrency - 1 else concurrency

/-- A `start_due`, as far as it got. -/
inductive StartPass where
  /-- before `job_schedule` -/
  | listing (now limit : Nat)
  /-- before the cool-down is known -/
  | listed (now : Nat) (schedule : List Scheduled)
  /-- in the loop, with the due jobs that are left -/
  | starting (cooling : Bool) (due : List Scheduled)
  /-- `claim_job` of one of them: before its update, and before its read -/
  | claiming (cooling : Bool) (due : List Scheduled) (c : CertificateId)
  | reading (cooling : Bool) (due : List Scheduled) (c : CertificateId)
deriving DecidableEq, Repr

/-- A process's runner. `running` is its map of certificate IDs; `executing` are the tasks inside `execute`, `leaving`
    those that are done and still in the map. -/
structure Runner where
  db : Db
  running : List (CertificateId × JobKind) := []
  stopping : Bool := false
  pass : Option StartPass := none
  executing : List CertificateId := []
  leaving : List CertificateId := []

namespace Runner

def ids (s : Runner) : List CertificateId := s.running.map (·.1)

/-- `running.insert`: an ID that is there gets the new kind. -/
def insertRunning (s : Runner) (c : CertificateId) (kind : JobKind) : Runner :=
  if s.ids.contains c then { s with running := s.running.map fun entry => if entry.1 = c then (c, kind) else entry }
  else { s with running := (c, kind) :: s.running }

/-- `running.remove` -/
def removeRunning (s : Runner) (c : CertificateId) : Runner :=
  { s with running := s.running.filter (·.1 ≠ c) }

/-- First issuances in the map. -/
def issuing (s : Runner) : Nat := (s.running.filter (·.2 = .issue)).length

/-- What happens: statements of other processes and of this one's tasks, the shutdown, the turns of a pass, and the ends
    of executions. `answered` is whether a statement was; `ran` whether one that was not answered took effect. -/
inductive Event where
  | statement (s : JobStatement)
  | stop
  | begin (now : Nat)
  | list (answered : Bool)
  | cool (coolingUntil : Nat)
  | consider
  | claim (now : Nat) (answered ran : Bool)
  | read (answered : Bool)
  | executed (c : CertificateId)
  | leave (c : CertificateId)
deriving DecidableEq, Repr

/-- The body of the loop, up to the claim. -/
def consider (concurrency : Nat) (s : Runner) (cooling : Bool) (due : List Scheduled) : Runner :=
  match due with
  | [] => { s with pass := none }
  | entry :: rest =>
      let skip := { s with pass := some (.starting cooling rest) }
      if concurrency ≤ s.running.length then { s with pass := none }
      else if entry.kind = .issue ∧ issueSlots concurrency ≤ s.issuing then skip
      else if cooling ∧ (entry.kind = .issue ∨ s.issuing < s.running.length) then skip
      else if s.ids.contains entry.certificateId then skip.insertRunning entry.certificateId entry.kind
      else { s with pass := some (.claiming cooling rest entry.certificateId) }.insertRunning entry.certificateId entry.kind

/-- `owner` is the process's name on leases, `configured` the number of jobs it was told to run at once. -/
def step (owner : MachineId) (configured : Nat) (e : Event) (s : Runner) : Option Runner :=
  let concurrency := max configured 1
  match e with
  | .statement statement => some { s with db := (statement.perform s.db).2 }
  | .stop => some { s with stopping := true }
  | .begin now => match s.pass with
      | none =>
          if s.stopping ∨ concurrency ≤ s.running.length then some s
          else some { s with pass := some (.listing now (concurrency + s.running.length + 1)) }
      | some _ => none
  | .list answered => match s.pass with
      | some (.listing now limit) =>
          if answered then some { s with pass := some (.listed now (s.db.jobSchedule owner now limit)) }
          else some { s with pass := none }
      | _ => none
  | .cool coolingUntil => match s.pass with
      | some (.listed now schedule) =>
          let due := schedule.filter fun entry => entry.readyAt ≤ now
          some { s with pass := some (.starting (decide (now < coolingUntil)) due) }
      | _ => none
  | .consider => match s.pass with
      | some (.starting cooling due) => some (s.consider concurrency cooling due)
      | _ => none
  | .claim now answered ran => match s.pass with
      | some (.claiming cooling due c) =>
          let (taken, db) := s.db.claimJob c owner now
          if answered then
            if taken then some { s with db := db, pass := some (.reading cooling due c) }
            else some ({ s with db := db, pass := some (.starting cooling due) }.removeRunning c)
          else some ({ s with db := if ran then db else s.db, pass := none }.removeRunning c)
      | _ => none
  | .read answered => match s.pass with
      | some (.reading cooling due c) =>
          if answered then
            match s.db.claimedJob c owner with
            | some _ => some { s with pass := some (.starting cooling due), executing := c :: s.executing }
            | none => some ({ s with pass := some (.starting cooling due) }.removeRunning c)
          else some ({ s with pass := none }.removeRunning c)
      | _ => none
  | .executed c =>
      if c ∈ s.executing then some { s with executing := s.executing.erase c, leaving := c :: s.leaving } else none
  | .leave c =>
      if c ∈ s.leaving then some ({ s with leaving := s.leaving.erase c }.removeRunning c) else none

/-- The pass under way found the certificate authority cooling down. -/
def foundCooling (s : Runner) : Bool :=
  match s.pass with
  | some (.starting cooling _) | some (.claiming cooling _ _) | some (.reading cooling _ _) => cooling
  | _ => false

end Runner

end OpenTunnel
