/-
Module: OpenTunnel.Model.Acme
Layer: Model
Purpose: One issuance (`issue` of `acme.rs`): the order, the challenge records, the answers to the challenges, the
  polling of their authorizations, the certificate, and the clean-up. Each request to the certificate authority, to
  the DNS provider and each pause is a call; a shutdown may end the attempt at any of its calls, and leaves what it
  had created and answered to the clean-up.
Imports: OpenTunnel.Tasks.Prog
Trusted boundary: none (fully proved)
Main exports: AcmeOp, AcmeAns, Pending, Progress, placeOrder, attempt, deactivate, cleanUp, issue
Open obligations: none
-/
import OpenTunnel.Tasks.Prog

namespace OpenTunnel.Acme

open Tasks (Prog)

/-! ### What the certificate authority and the DNS provider answer -/

/-- A problem document: its type, its detail, and the whole as text. -/
structure ProblemDocument where
  kind : String := ""
  detail : String := ""
  text : String
deriving DecidableEq, Repr

structure AcmeChallenge where
  kind : String
  url : String
  token : String := ""
  status : String := ""
  /-- why validation failed -/
  error : Option ProblemDocument := none
deriving DecidableEq, Repr

structure Authorization where
  status : String
  identifier : String
  challenges : List AcmeChallenge := []
deriving DecidableEq, Repr

structure Order where
  status : String
  authorizations : List String := []
  finalize : Option String := none
  certificate : Option String := none
deriving DecidableEq, Repr

/-- A response with its body, and what the body reads as: an order, an authorization, or neither. -/
structure Response where
  location : Option String := none
  order : Option Order := none
  authorization : Option Authorization := none
  /-- what `serde_json` says where the body is not what it is read as -/
  misread : String := ""
  text : String := ""
deriving DecidableEq, Repr

structure TxtRecord where
  name : String
  value : String
  id : Option String
deriving DecidableEq, Repr

/-- A pending authorization this attempt answers. -/
structure Pending where
  url : String
  identifier : String
  challengeUrl : String
  token : String
  /-- the TXT record value -/
  value : String
deriving DecidableEq, Repr

structure Issued where
  certificate : String
  chain : String
  expiry : String
deriving DecidableEq, Repr

/-- How an attempt fails. -/
inductive Failure where
  | stopped
  | transient (message : String)
  | other (message : String)
deriving DecidableEq, Repr

/-- `context`, as the whole error is written out; it stays the kind of error it is. -/
def Failure.context (what : String) : Failure → Failure
  | .stopped => .stopped
  | .transient message => .transient (what ++ ": " ++ message)
  | .other message => .other (what ++ ": " ++ message)

namespace Authorization

/-- `dns_challenge` -/
def dnsChallenge (authorization : Authorization) : Option AcmeChallenge :=
  authorization.challenges.find? (·.kind = "dns-01")

/-- `error_detail` -/
def errorDetail (authorization : Authorization) : String :=
  "; ".intercalate ((authorization.challenges.filterMap (·.error)).map fun error =>
    match error.kind.isEmpty, error.detail.isEmpty with
    | false, false => error.kind ++ ": " ++ error.detail
    | true, true => error.text
    | _, _ => error.kind ++ error.detail)

end Authorization

/-! ### Calls -/

/-- What an issuance asks for. -/
inductive Request where
  /-- reading the directory and, once, registering the account -/
  | openSession
  | newOrder (url : String) (identifiers : List String)
  | get (url : String)
  /-- the POST that answers an authorization's challenge -/
  | answer (authorization : Pending)
  | deactivate (url : String)
  | finalize (url : String) (csr : String)
  | onChallenge (token key : String)
  | createTxt (name value : String)
  | waitForPropagation (records : List TxtRecord)
  | deleteTxt (record : TxtRecord)
  | sleep
deriving DecidableEq, Repr

/-- What it is answered. -/
abbrev Reply : Request → Type
  | .openSession => Except Failure String
  | .newOrder .. | .get _ | .answer _ | .deactivate _ | .finalize .. => Except Failure Response
  | .onChallenge .. => Except Failure Unit
  | .createTxt .. => Except Failure TxtRecord
  | .deleteTxt _ => Bool
  | .waitForPropagation _ | .sleep => Unit

/-- A call: a request, or one that the shutdown may cut off (`select!`). -/
inductive AcmeOp where
  | plain (request : Request)
  | select (request : Request)
deriving DecidableEq, Repr

abbrev AcmeAns : AcmeOp → Type
  | .plain request => Reply request
  | .select request => Option (Reply request)

abbrev AcmeProg := Prog AcmeOp AcmeAns

def request (r : Request) : AcmeProg (Reply r) := Prog.act (AcmeOp.plain r)

abbrev Fallible := ExceptT Failure AcmeProg

/-- The variables of `issue` that the attempt changes and the clean-up reads. -/
structure Progress where
  records : List TxtRecord := []
  /-- answered (or perhaps answered) and not final -/
  unsettled : List Pending := []
deriving DecidableEq, Repr

/-- The attempt: it fails at its first error, and what it did so far stays. -/
abbrev Attempt := ExceptT Failure (StateT Progress AcmeProg)

/-- A call of the attempt, which the shutdown may cut off. -/
def await (r : Request) : Attempt (Reply r) := fun progress =>
  .call (.select r) fun (answered : Option (Reply r)) => match answered with
    | some reply => .ret (.ok reply, progress)
    | none => .ret (.error .stopped, progress)

/-- `?` -/
def check {m : Type → Type} [Monad m] {α : Type} (result : Except Failure α) : ExceptT Failure m α :=
  ExceptT.mk (pure result)

/-- `parse`: a body that is not what it should be is shown by its first 100 characters. -/
def parse {α : Type} (what : String) (response : Response) (read : Option α) : Except Failure α :=
  read.elim (.error (.transient ("ACME " ++ what ++ " response could not be read (" ++ response.misread ++ "): " ++
    String.ofList (response.text.toList.take 100)))) .ok

def parseOrder (response : Response) : Except Failure Order := parse "order" response response.order

def parseAuthorization (response : Response) : Except Failure Authorization :=
  parse "authorization" response response.authorization

/-! ### Placing an order -/

/-- `deactivate` -/
def deactivate (url : String) : Fallible Unit := do
  match ← liftM (request (.deactivate url)) with
  | .ok _ => pure ()
  | .error error =>
      let response ← check (← liftM (request (.get url)))
      let authorization ← check (parseAuthorization response)
      if authorization.status = "pending" then throw (error.context "deactivating an ACME authorization") else pure ()

def ordersPerAttempt : Nat := 2

/-- What the source computes with keys and certificates. -/
structure Crypto where
  /-- the TXT value for a challenge's token: the digest of the key authorization -/
  recordValue : String → String
  /-- `pem_der` -/
  pemDer : String → Option String
  /-- `chain_from_pem` -/
  chainFromPem : String → Except Failure Issued
  /-- `certifies_key` -/
  certifiesKey : String → String → Bool

variable (crypto : Crypto)

/-- The authorizations of an order read so far. -/
structure OrderReads where
  pending : List Pending := []
  stale : List String := []
  usable : Bool := true
deriving DecidableEq, Repr

/-- Reads the authorizations of an order. -/
def readAuthorizations (reads : OrderReads) : List String → Fallible OrderReads
  | [] => pure reads
  | url :: rest => do
      let response ← check (← liftM (request (.get url)))
      let authorization ← check (parseAuthorization response)
      if authorization.status = "valid" then readAuthorizations reads rest
      else if authorization.status = "pending" then
        match authorization.dnsChallenge with
        | none => throw (.other "ACME server did not offer dns-01")
        | some challenge =>
            if ¬ (challenge.status = "" ∨ challenge.status = "pending") then
              readAuthorizations { reads with stale := reads.stale ++ [url], usable := false } rest
            else
              let pending : Pending :=
                { url := url, identifier := authorization.identifier, challengeUrl := challenge.url,
                  token := challenge.token, value := crypto.recordValue challenge.token }
              readAuthorizations { reads with pending := reads.pending ++ [pending] } rest
      else readAuthorizations { reads with usable := false } rest

def deactivateAll : List String → Fallible Unit
  | [] => pure ()
  | url :: rest => do
      deactivate url
      deactivateAll rest

/-- `place_order`, with the orders it may still place. -/
def placeOrder (newOrder : String) (identifiers : List String) : Nat → Fallible (String × List Pending)
  | 0 => throw (.transient "ACME server kept handing out authorizations that cannot succeed")
  | left + 1 => do
      let response ← check (← liftM (request (.newOrder newOrder identifiers)))
      match response.location with
      | none => throw (.other "ACME order has no location URL")
      | some orderUrl =>
          let order ← check (parseOrder response)
          let reads ← readAuthorizations crypto {} order.authorizations
          if reads.usable then pure (orderUrl, reads.pending)
          else
            deactivateAll reads.stale
            placeOrder newOrder identifiers left

/-! ### The attempt -/

/-- The name of an identifier's challenge record: every leading `*.` is left out. -/
def recordName (identifier : String) : String :=
  "_acme-challenge." ++ String.ofList (trim identifier.toList)
where
  trim : List Char → List Char
    | '*' :: '.' :: rest => trim rest
    | other => other

/-- The records wanted: one for each name and value. -/
def wantedRecords (pending : List Pending) : List (String × String) :=
  pending.foldl (fun wanted authorization =>
    let record := (recordName authorization.identifier, authorization.value)
    if wanted.contains record then wanted else wanted ++ [record]) []

def createRecords : List (String × String) → Attempt Unit
  | [] => pure ()
  | (name, value) :: rest => do
      let created ← await (.createTxt name value)
      let record ← check (created.mapError (·.context "creating the DNS challenge record"))
      modify fun progress => { progress with records := progress.records ++ [record] }
      createRecords rest

def answerChallenges : List Pending → Attempt Unit
  | [] => pure ()
  | authorization :: rest => do
      modify fun progress => { progress with unsettled := progress.unsettled ++ [authorization] }
      let _ ← check (← await (.answer authorization))
      answerChallenges rest

/-- A round of polls: `kept` are the authorizations before the index, still pending. -/
def pollEach (kept : List Pending) : List Pending → Attempt Unit
  | [] => pure ()
  | current :: rest => do
      let response ← check (← await (.get current.url))
      let authorization ← check (parseAuthorization response)
      if authorization.status = "valid" then
        modify fun progress => { progress with unsettled := kept ++ rest }
        pollEach kept rest
      else if authorization.status = "pending" then pollEach (kept ++ [current]) rest
      else
        modify fun progress => { progress with unsettled := kept ++ rest }
        let ended := "ACME authorization for " ++ current.identifier ++ " ended in " ++ authorization.status
        if authorization.errorDetail = "" then throw (.other ended)
        else throw (.other (ended ++ ": " ++ authorization.errorDetail))

def authorizationPolls : Nat := 60

/-- Polls the answered authorizations, with the rounds that are left after this one. -/
def pollAuthorizations (left : Nat) : Attempt Unit := do
  pollEach [] (← get).unsettled
  if (← get).unsettled.isEmpty then pure ()
  else
    match left with
    | 0 => throw (.transient "ACME authorization ended in pending")
    | left + 1 =>
        await .sleep
        pollAuthorizations left

def readOrder (orderUrl : String) : Attempt Order := do
  let response ← check (← await (.get orderUrl))
  check (parseOrder response)

/-- Reads the order again while it has the status given, at most `left` times. -/
def pollOrder (orderUrl status : String) (order : Order) : Nat → Attempt Order
  | 0 => pure order
  | left + 1 =>
      if order.status ≠ status then pure order
      else do
        await .sleep
        pollOrder orderUrl status (← readOrder orderUrl) left

/-- Finalizes the order, unless an earlier attempt has. -/
def finalizeOrder (orderUrl csr : String) (order : Order) : Attempt Order :=
  if order.status = "ready" then
    match order.finalize with
    | none => throw (.other "ACME order has no finalize URL")
    | some url => do
        let _ ← check (← await (.finalize url csr))
        readOrder orderUrl
  else pure order

/-- Where the certificate of an order is. -/
def certificateUrl (order : Order) : Except Failure String :=
  match order.certificate with
  | some url => if order.status = "valid" then .ok url else .error (ended order.status)
  | none => .error (ended order.status)
where
  ended (status : String) : Failure :=
    if status = "pending" ∨ status = "processing" then .transient ("ACME order ended in " ++ status)
    else .other ("ACME order ended in " ++ status)

/-- From the authorizations to the certificate. -/
def finish (orderUrl csrPem : String) : Attempt Issued := do
  let order ← pollOrder orderUrl "pending" (← readOrder orderUrl) 30
  let csr ← check ((crypto.pemDer csrPem).elim (.error (.other "CSR is not PEM")) .ok)
  let order ← finalizeOrder orderUrl csr order
  let order ← pollOrder orderUrl "processing" order 30
  let url ← check (certificateUrl order)
  let response ← check (← await (.get url))
  let issued ← check (crypto.chainFromPem response.text)
  if crypto.certifiesKey response.text csr then pure issued
  else throw (.other "ACME returned a certificate for another key")

def attempt (orderUrl csrPem : String) (pending : List Pending) : Attempt Issued := do
  createRecords (wantedRecords pending)
  await (.waitForPropagation (← get).records)
  answerChallenges pending
  pollAuthorizations authorizationPolls
  finish crypto orderUrl csrPem

/-! ### The clean-up and the whole -/

/-- Deactivates what is unsettled: whether all of it was. -/
def settleAll : List Pending → AcmeProg Bool
  | [] => pure true
  | authorization :: rest => do
      match ← (deactivate authorization.url).run with
      | .ok _ => settleAll rest
      | .error _ =>
          let _ ← settleAll rest
          pure false

def deleteRecords : List TxtRecord → AcmeProg Unit
  | [] => pure ()
  | record :: rest => do
      let _ ← request (.deleteTxt record)
      deleteRecords rest

def cleanUp (progress : Progress) : AcmeProg Unit := do
  if ← settleAll progress.unsettled then deleteRecords progress.records

/-- The first challenge is shown to the caller. -/
def showChallenge : List Pending → Fallible Unit
  | [] => pure ()
  | first :: _ => do check (← liftM (request (.onChallenge first.token first.value)))

/-- What the settings must have. -/
structure AcmeConfig where
  eabKid : Option String
  eabHmacKey : Option String
  dns : Bool

def AcmeConfig.checked (config : AcmeConfig) : Except Failure Unit :=
  if config.eabKid.isNone ∨ config.eabHmacKey.isNone then
    .error (.other "ACME_EAB_KID and ACME_EAB_HMAC_KEY are required")
  else if ¬ config.dns then .error (.other "CLOUDFLARE_ZONE_ID and CLOUDFLARE_API_TOKEN are required")
  else .ok ()

/-- `issue`. `stopping` is whether the server was shutting down before it began. -/
def issue (config : AcmeConfig) (stopping : Bool) (identifiers : List String) (csrPem : String) : Fallible Issued := do
  check config.checked
  check (if stopping then .error .stopped else .ok ())
  let newOrder ← check (← liftM (request .openSession))
  let placed ← placeOrder crypto newOrder identifiers ordersPerAttempt
  showChallenge placed.2
  let ended ← liftM ((attempt crypto placed.1 csrPem placed.2).run {})
  liftM (cleanUp ended.2)
  check ended.1

end OpenTunnel.Acme
