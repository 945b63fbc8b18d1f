/-
Module: OpenTunnel.Model.Sweep
Layer: Model
Purpose: The sweep of leftover challenge records (`sweep_dns` of `jobs.rs`, `sweep` of `dns.rs`). A sweep takes the
  sweeper's lease, reads the names of the jobs that are leased, lists the records of the zone page by page, and deletes
  the old ones one by one. In between, jobs are claimed and finished, and challenge records are created, taken over
  and deleted, on any machine.
Imports: OpenTunnel.Model.Names, OpenTunnel.Model.Acme, OpenTunnel.Model.Statements
Trusted boundary: none (fully proved)
Main exports: ZoneRecord, Db.leasedNames, SweepPass, DnsApi, cloudflare, Zone, Zone.Event, Zone.step
Open obligations: none
-/
import OpenTunnel.Model.Names
import OpenTunnel.Model.Acme
import OpenTunnel.Model.Statements

namespace OpenTunnel

def dnsSweepEveryMs : Nat := 10 * minuteMs
def dnsSweepAgeMs : Nat := hourMs
def dnsSweepLimit : Nat := 1000
def sweepPage : Nat := 500

/-- A TXT record as Cloudflare lists it (`Listed`), with its creation time where that reads as one. -/
structure ZoneRecord where
  id : String
  name : String
  content : String
  createdOn : Option Nat
deriving DecidableEq, Repr

/-- `trim_matches('"')` -/
def unquoted (content : String) : String :=
  String.ofList (((content.toList.dropWhile (· = '"')).reverse.dropWhile (· = '"')).reverse)

/-- A SHA-256 in base64url. -/
def isDigest (value : String) : Bool :=
  value.toList.length = 43 &&
    value.toList.all fun c => asciiLower c || asciiDigit c || ('A' ≤ c && c ≤ 'Z') || c = '-' || c = '_'

namespace ZoneRecord

/-- Only what issuance makes: a challenge name under the domain, and a digest. -/
def ours (domain : String) (record : ZoneRecord) : Bool :=
  let name := toAsciiLowercase record.name
  "_acme-challenge.".toList.isPrefixOf name.toList &&
    (("." ++ domain).toList.isSuffixOf name.toList || name = "_acme-challenge." ++ domain) &&
    isDigest (unquoted record.content)

def old (before : Nat) (record : ZoneRecord) : Bool := record.createdOn.any (· < before)

/-- The sweep deletes it. -/
def sweepable (domain : String) (before : Nat) (inFlight : List String) (record : ZoneRecord) : Bool :=
  record.ours domain && record.old before && !inFlight.contains (toAsciiLowercase record.name)

end ZoneRecord

/-- The names of a job's challenge records, as the sweep compares them. -/
def JobRow.challengeNames (row : JobRow) : List String :=
  row.job.identifiers.map fun identifier => toAsciiLowercase (Acme.recordName identifier)

/-- The job is running: its lease has not expired. -/
def JobRow.leasedAt (row : JobRow) (now : Nat) : Bool := row.status = .pending && row.leaseUntil.any (now ≤ ·)

/-- `leased_job_identifiers`, as names of challenge records. -/
def Db.leasedNames (db : Db) (now : Nat) : List String :=
  (db.jobs.present.filterMap fun c => (db.job c).bind fun row =>
    if row.leasedAt now then some row.challengeNames else none).flatten

/-- A sweep, as far as it got. `now` is when it began. -/
inductive SweepPass where
  /-- before `swap_meta`, with the value it read -/
  | leasing (now : Nat) (current : Option (MachineId × Nat))
  /-- before `leased_job_identifiers` -/
  | reading (now : Nat)
  /-- `challenge_records`: the records listed and the page to read -/
  | listing (now : Nat) (inFlight : List String) (records : List ZoneRecord) (page : Nat)
  | deleting (now : Nat) (inFlight : List String) (records : List ZoneRecord) (swept : Nat)
deriving DecidableEq, Repr

/-- A record the sweep deleted, when, and the names of the jobs leased at that moment. -/
structure SweptRecord where
  record : ZoneRecord
  time : Nat
  leased : List String
deriving DecidableEq, Repr

/-- What the DNS provider makes of its zone: the records once one was asked for by its name and value, with the identifier
    and the time it is given if it is new, and a page of the challenge records with the number of pages. It is not part of
    the server, and nothing is assumed of it. -/
structure DnsApi where
  create : List ZoneRecord → String → String → String → Nat → List ZoneRecord
  page : List ZoneRecord → Nat → List ZoneRecord × Nat

/-- Cloudflare as `create_txt` and `challenge_records` know it: a record that exists with that value stays as it is, and
    the challenge records are listed in pages of `SWEEP_PAGE`. -/
def cloudflare : DnsApi where
  create records name value id time :=
    if records.any fun record => record.name = name && unquoted record.content = value then records
    else records ++ [{ id := id, name := name, content := value, createdOn := some time }]
  page records page :=
    let all := records.filter fun record => "_acme-challenge.".toList.isPrefixOf record.name.toList
    ((all.drop (sweepPage * (page - 1))).take sweepPage, (all.length + sweepPage - 1) / sweepPage)

/-- The jobs, the zone, the sweeper's lease (`meta`), and the sweep of one machine. -/
structure Zone where
  db : Db
  records : List ZoneRecord := []
  sweeper : Option (MachineId × Nat) := none
  pass : Option SweepPass := none
  swept : List SweptRecord := []

namespace Zone

/-- What happens: statements on `jobs`, challenge records created and deleted by issuances and by other sweeps, other
    machines' changes of the sweeper's lease, and the calls of this machine's sweep. `ran` is whether a deletion took
    effect, `answered` whether the call was answered. -/
inductive Event where
  | statement (s : JobStatement)
  | createTxt (name value id : String) (time : Nat)
  | deleteTxt (id : String)
  | changeSweeper (value : Option (MachineId × Nat))
  | begin (now : Nat)
  | swap (answered : Bool)
  | read (answered : Bool)
  | list (answered : Bool)
  | delete (time : Nat) (ran answered : Bool)
deriving DecidableEq, Repr

def step (api : DnsApi) (owner : MachineId) (domain : String) (e : Event) (s : Zone) : Option Zone :=
  match e with
  | .statement statement => some { s with db := (statement.perform s.db).2 }
  | .createTxt name value id time => some { s with records := api.create s.records name value id time }
  | .deleteTxt id => some { s with records := s.records.filter (·.id ≠ id) }
  | .changeSweeper value => some { s with sweeper := value }
  | .begin now => match s.pass with
      | none => match s.sweeper with
          | some (holder, leasedUntil) =>
              if holder ≠ owner ∧ now < leasedUntil then some s
              else some { s with pass := some (.leasing now s.sweeper) }
          | none => some { s with pass := some (.leasing now none) }
      | some _ => none
  | .swap answered => match s.pass with
      | some (.leasing now current) =>
          if answered ∧ s.sweeper = current then
            some { s with sweeper := some (owner, now + 2 * dnsSweepEveryMs), pass := some (.reading now) }
          else some { s with pass := none }
      | _ => none
  | .read answered => match s.pass with
      | some (.reading now) =>
          if answered then some { s with pass := some (.listing now (s.db.leasedNames now) [] 1) }
          else some { s with pass := none }
      | _ => none
  | .list answered => match s.pass with
      | some (.listing now inFlight records page) =>
          let body := api.page s.records page
          if ¬ answered then some { s with pass := none }
          else if body.1.length = 0 ∨ max body.2 1 ≤ page ∨ 1000 ≤ page then
            some { s with pass := some (.deleting now inFlight (records ++ body.1) 0) }
          else some { s with pass := some (.listing now inFlight (records ++ body.1) (page + 1)) }
      | _ => none
  | .delete time ran answered => match s.pass with
      | some (.deleting now inFlight records swept) => match records with
          | [] => some { s with pass := none }
          | record :: rest =>
              if dnsSweepLimit ≤ swept then some { s with pass := none }
              else if ¬ record.sweepable domain (now - dnsSweepAgeMs) inFlight then
                some { s with pass := some (.deleting now inFlight rest swept) }
              else if time < now then none
              else some { s with
                records := if ran then s.records.filter (·.id ≠ record.id) else s.records
                swept := if ran then { record := record, time := time, leased := s.db.leasedNames time } :: s.swept
                  else s.swept
                pass := if answered then some (.deleting now inFlight rest (swept + 1)) else none }
      | _ => none

end Zone

end OpenTunnel
