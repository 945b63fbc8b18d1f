/-
Module: OpenTunnel.Model.Network
Layer: Model
Purpose: Clients and servers together. A client's API calls are requests (`api.rs`) that a machine's handler
  (`http.rs`) answers by the operations of the service; between two calls of the handler every other task of the
  servers and every other client may run. A request that gets no answer may still have arrived: its handler is then a
  task of the server's own, which may run any operation at any time.
Imports: OpenTunnel.Model.Jobs, OpenTunnel.Model.Profile
Trusted boundary: none (fully proved)
Main exports: certificateLookup, Http.bind, Http.certificate, ApiRequest, sendRequest, Party, Work, network
Open obligations: none
-/
import OpenTunnel.Model.Jobs
import OpenTunnel.Model.Profile

namespace OpenTunnel

open Tasks (Prog)

/-! ### Handlers (`http.rs`) -/

inductive CertificateLookup where
  | ok (certificate : CertificateInfo)
  | notFound
  | unauthorized
  | noCertificate
deriving DecidableEq, Repr

/-- `certificate`, of the record that is read. -/
def CertificateLookup.of (setup : Setup) (token : String) : Option StoredTunnel → CertificateLookup
  | none => .notFound
  | some record =>
      if !tokenMatches setup.externals token record.tokenHash then .unauthorized
      else match record.certificate with
        | some certificate => .ok certificate
        | none => .noCertificate

/-- `certificate` -/
def certificateLookup (setup : Setup) (m : MachineId) (id : TunnelId) (token : String) : Fallible CertificateLookup := do
  lockFresh setup m id
  holding id do
    let e ← act (.peek id)
    return .of setup token e.live

namespace Http

/-! The error bodies, as the client reads them. -/

def unauthorized : ClientError := .api 401 "UnauthorizedError" "Invalid bearer token"

def tunnelNotFound : ClientError := .api 404 "TunnelNotFoundError" "Tunnel not found"

def unavailable (message : String) : ClientError := .api 503 "ServiceUnavailableError" message

def rateLimited (message : String) (ms : Nat) : ClientError :=
  let minutes := max ((ms + 59999) / 60000) 1
  let wait := if minutes = 1 then "a minute" else toString minutes ++ " minutes"
  .api 429 "RateLimitedError" (message ++ "; try again in " ++ wait)

def backlogged : ClientError := unavailable "certificate issuance is busy; try again later"

/-- `bind` -/
def bind (setup : Setup) (m : MachineId) (token : String) (id : TunnelId) (csr : String) :
    Call (Except ClientError CertificateInfo) := do
  match ← (bindCertificate setup m id token csr).run with
  | .ok (.ok certificate) => return .ok certificate
  | .ok .unauthorized => return .error unauthorized
  | .ok .notFound => return .error tunnelNotFound
  | .ok (.invalidRequest message) => return .error (.api 400 "InvalidRequestError" message)
  | .ok (.invalidHostname ..) =>
      return .error (.api 400 "InvalidHostnameError" "CSR hostname does not match tunnel hostname")
  | .ok .inProgress =>
      return .error (.api 409 "CertificateInProgressError" "Certificate issuance is already in progress")
  | .ok (.unavailable message) => return .error (unavailable message)
  | .ok (.rateLimited ms) =>
      return .error (rateLimited "Too many new certificates requested for this tunnel" ms)
  | .ok .backlogged => return .error backlogged
  | .error err => return .error (unavailable err.text)

/-- The `certificate` route. -/
def certificate (setup : Setup) (m : MachineId) (token : String) (id : TunnelId) :
    Call (Except ClientError CertificateInfo) := do
  match ← (certificateLookup setup m id token).run with
  | .ok (.ok certificate) => return .ok certificate
  | .ok .unauthorized => return .error unauthorized
  | .ok .noCertificate => return .error (.api 404 "CertificateNotFoundError" "Certificate not found")
  | .ok .notFound => return .error tunnelNotFound
  | .error err => return .error (unavailable err.text)

end Http

/-! ### Requests (`api.rs`) -/

inductive ApiRequest where
  | bind (token : String) (id : TunnelId) (csr : String)
  | certificate (token : String) (id : TunnelId)
deriving DecidableEq, Repr

def ApiRequest.serve (setup : Setup) (m : MachineId) : ApiRequest → Call (Except ClientError CertificateInfo)
  | .bind token id csr => Http.bind setup m token id csr
  | .certificate token id => Http.certificate setup m token id

/-- What happens in the network: an act of a task on a machine, a request that reaches a machine or fails, and what a
    client does on its own. -/
inductive NetAct where
  | server (m : MachineId) (op : Act)
  | connect (request : ApiRequest)
  | client (op : ClientAct)

@[reducible] def NetAct.Ans : NetAct → Type
  | .server _ op => op.Ans
  | .connect _ => Except ClientError MachineId
  | .client op => op.Ans

abbrev NetProg := Prog NetAct NetAct.Ans

/-- A server's program, run on a machine. -/
def onMachine {α : Type} (m : MachineId) (p : Call α) : NetProg α :=
  p.interpret fun op => Prog.act (NetAct.server m op)

/-- A request is sent. -/
def reach (request : ApiRequest) : NetProg (Except ClientError MachineId) := Prog.act (NetAct.connect request)

/-- One attempt of a request. -/
def attemptRequest (setup : Setup) (request : ApiRequest) : NetProg (Except ClientError CertificateInfo) := do
  match ← reach request with
  | .error err => return .error err
  | .ok m => onMachine m (request.serve setup m)

/-- `RETRIES` -/
def apiRetries : Nat := 6

/-- `send` of an idempotent request, with the retries it has left. -/
def sendRequest (setup : Setup) (request : ApiRequest) : Nat → NetProg (Except ClientError CertificateInfo)
  | 0 => attemptRequest setup request
  | retries + 1 => do
      match ← attemptRequest setup request with
      | .ok info => return .ok info
      | .error err => if err.isTransient then sendRequest setup request retries else return .error err

/-- How a client's call is carried out. -/
def carry (setup : Setup) : (op : ClientAct) → NetProg op.Ans
  | .apiBind token id csr => sendRequest setup (.bind token id csr) apiRetries
  | .apiCertificate token id => sendRequest setup (.certificate token id) apiRetries
  | op => Prog.act (NetAct.client op)

/-! ### The network -/

/-- A task of a server, or a client. -/
inductive Party where
  | server (t : Task)
  | client (n : Nat)
deriving DecidableEq, Repr

/-- The task a party's acts on a machine belong to: a client's requests have tasks of their own. -/
def Party.task (m : MachineId) : Party → Task
  | .server t => ⟨m, 2 * t.number⟩
  | .client n => ⟨m, 2 * n + 1⟩

/-- What parties do: a server's operations, and clients that complete a pending provision. -/
inductive Work where
  | serve (operation : Operation)
  | complete (profile : String) (pending : PendingIdentity) (polls : Nat)
deriving DecidableEq, Repr

/-- A client's own calls when nothing goes wrong on its side. -/
def ClientAct.quiet : (op : ClientAct) → op.Ans
  | .ensureDir => .ok ()
  | .readText _ => .ok none
  | .readTunnel => .ok none
  | .readPending => .ok none
  | .writeText .. => .ok ()
  | .writeTunnel _ => .ok ()
  | .writePending _ => .ok ()
  | .removePending => .ok ()
  | .apiCreate => .error (.http true)
  | .apiBind .. => .error (.http true)
  | .apiCertificate .. => .error (.http true)
  | .generate _ => .error (.crypto "")
  | .expired _ => false

/-- What is decided outside: for the servers, which machine a request reaches or how it fails, and how a client's own
    calls are answered. -/
structure NetChoice where
  choice : Choice := {}
  reached : Except ClientError MachineId := .error (.http true)
  answers : (op : ClientAct) → op.Ans := ClientAct.quiet

def network (setup : Setup) : Tasks.Semantics Party NetAct NetAct.Ans World Work where
  Choice := NetChoice
  Move := Move
  exec := fun p op c w =>
    match op with
    | .server m op => exec setup (p.task m) op c.choice w
    | .connect _ => some (c.reached, w)
    | .client op => some (c.answers op, w)
  move := move
  program := fun p work =>
    match p, work with
    | .server t, .serve operation => onMachine t.machine (program setup t operation)
    | .client _, .complete profile pending polls => do
        let _ ← (Client.complete profile pending polls).run.interpret (carry setup)
    | _, _ => .ret ()

end OpenTunnel
