/-
Module: OpenTunnel.Model.Sample
Layer: Model
Purpose: A small deployment on which runs are evaluated: two machines, one tunnel `a`, and the values the other
  crates' functions really have on the few texts that occur (a token's SHA-256, timestamps, a signed certificate
  request for the tunnel's hostname).
Imports: OpenTunnel.Model.Jobs
Trusted boundary: `Sample.externals` agrees with the crates on the texts listed
Main exports: Sample.externals, Sample.setup, Sample.tunnel, Sample.world
Open obligations: none
-/
import OpenTunnel.Model.Jobs

namespace OpenTunnel.Sample

open Tasks (Table)

instance exceptDecEq {ε α : Type} [DecidableEq ε] [DecidableEq α] : DecidableEq (Except ε α)
  | .ok a, .ok b => decidable_of_iff (a = b) (by simp)
  | .error a, .error b => decidable_of_iff (a = b) (by simp)
  | .ok _, .error _ => isFalse (by simp)
  | .error _, .ok _ => isFalse (by simp)

/-- The times runs happen at, with their RFC 3339 texts. -/
def times : List (Nat × String) :=
  [(1792224000000, "2026-10-17T08:00:00.000Z"),
   (1799913600000, "2027-01-14T08:00:00.000Z"),
   (1800000000000, "2027-01-15T08:00:00.000Z"),
   (1800000000001, "2027-01-15T08:00:00.001Z"),
   (1800000060000, "2027-01-15T08:01:00.000Z"),
   (1800000060001, "2027-01-15T08:01:00.001Z"),
   (1800003600000, "2027-01-15T09:00:00.000Z"),
   (1807776000000, "2027-04-15T08:00:00.000Z")]

def start : Nat := 1800000000000

/-- A certificate request for `a.opentunnel.test`, base64 DER. -/
def csr : String :=
  "MIIBBjCBrQIBADAcMRowGAYDVQQDDBFhLm9wZW50dW5uZWwudGVzdDBZMBMGByqGSM49AgEGCCqGSM49AwEHA0IABEMxcgnJ" ++
  "rIT09EMErZmSoZytQxTQWb1WWNJfnfJR/3lVw+CJc5btwZAlEDX/thRRcV1l8Edx+2XSvXEgaGxDKyegLzAtBgkqhkiG9w0B" ++
  "CQ4xIDAeMBwGA1UdEQQVMBOCEWEub3BlbnR1bm5lbC50ZXN0MAoGCCqGSM49BAMCA0gAMEUCIQCBMm5p8QAtTpLIa6is4dWu" ++
  "u7oz6M55VrnHWSxFUiH5AwIgD0LbTrSsQ1dpbzDRpizZP4gg87CKGUoUxxXz9aj3pRc="

def secretHash : String := "2bb80d537b1da3e38bd30361aa855686bde0eacd7162fef6a25fe97bf527a25b"

def externals : Externals where
  hashToken := fun token => if token = "secret" then secretHash else ""
  iso := fun ms => (times.lookup ms).getD ""
  parseIso := fun text => (times.find? fun time => time.2 == text).map (·.1)
  readCsr := fun text =>
    if text = csr then some ⟨[some "a.opentunnel.test"], [[.dns "a.opentunnel.test"]]⟩ else none
  quoted := fun text => "\"" ++ text ++ "\""

/-- Machines without limits, each one of many or alone. -/
def setup (clustered : Bool) : Setup where
  externals := externals
  domain := "opentunnel.test"
  clustered := fun _ => clustered
  limited := fun _ => false

/-- The tunnel's record with a ready certificate that expires at the time given. -/
def tunnel (expiry : String) : StoredTunnel where
  version := 1
  id := "a"
  hostname := "a.opentunnel.test"
  state := .offline
  certificateId := some "cert_1"
  tokenHash := secretHash
  createdAt := "2027-01-15T08:00:00.000Z"
  deletedAt := none
  certificate := some ⟨"cert_1", .ready "certificate" "chain" expiry⟩
  certificateCsr := some csr
  certificateIdentifiers := some ["a.opentunnel.test"]
  certificateStartedAt := some "2027-01-15T08:00:00.000Z"
  lastConnectedAt := none
  renewal := none

/-- The tunnel as it was created. -/
def newTunnel : StoredTunnel :=
  { tunnel "" with
    certificateId := none, certificate := none, certificateCsr := none, certificateIdentifiers := none,
    certificateStartedAt := none }

/-- A database with these tunnels, as first saved. -/
def db (records : List StoredTunnel) : Db :=
  records.foldl (fun db record => db.putRow record.id (Db.savedRow record 1 none))
    { tunnels := .empty, jobs := .empty, transactions := .empty }

/-- Servers that have just started on a database. -/
def world (db : Db) : World where
  db := db
  machines := fun _ => { clock := start }
  uuids := []
  wires := fun _ _ => none

/-- Choices for a call: nothing fails, the statement fails, its answer is lost. -/
def plain : Choice := {}
def failing : Choice := { fault := .failed }
def timeout : Choice := { fault := .late }

/-- The next turns of one task, with these choices. -/
def calls (setup : Setup) (t : Task) (choices : List Choice) : List (system setup).Turn :=
  choices.map fun c => .call t c

end OpenTunnel.Sample
