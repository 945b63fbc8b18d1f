/-
Module: OpenTunnel.Model.Client
Layer: Model
Purpose: The Rust client's identities: the files of a profile (`storage.rs`) and the operations that provision a tunnel
  and keep its certificate (`client.rs`), as programs over file and API calls in the source's order. Progress
  callbacks are left out; JSON files hold the structures they encode.
Imports: OpenTunnel.Tasks.Prog, OpenTunnel.Model.Names
Trusted boundary: none (fully proved)
Main exports: Identity, PendingIdentity, ClientAct, Storage.load, Storage.loadPending, Storage.savePending,
  Storage.save, Client.create, Client.resume, Client.ensure, Client.provision, Client.complete
Open obligations: none
-/
import OpenTunnel.Tasks.Prog
import OpenTunnel.Model.Names

namespace OpenTunnel

open Tasks (Prog)

/-! ### Identities -/

structure Identity where
  id : TunnelId
  hostname : String
  token : String
  privateKey : String
  certificate : String
  chain : String
  certificateExpiry : String
deriving DecidableEq, Repr

/-- A tunnel whose certificate has been requested but not issued yet. -/
structure PendingIdentity where
  id : TunnelId
  hostname : String
  token : String
  privateKey : String
  csr : String
deriving DecidableEq, Repr

/-- `tunnel.json` -/
structure TunnelFile where
  id : TunnelId
  hostname : String
  certificateExpiry : String
deriving DecidableEq, Repr

/-- `pending.json` -/
structure PendingFile where
  id : TunnelId
  hostname : String
  csr : String
deriving DecidableEq, Repr

/-- The text files: `token`, `private-key.pem`, `certificate.pem` and `chain.pem`. -/
inductive TextFile where
  | token
  | privateKey
  | certificate
  | chain
deriving DecidableEq, Repr

/-- The answer to `create`. -/
structure CreatedTunnel where
  id : TunnelId
  hostname : String
  token : String
deriving DecidableEq, Repr

structure KeyAndCsr where
  privateKey : String
  csr : String
deriving DecidableEq, Repr

/-- `error.rs`; an HTTP error keeps whether it is a failure to connect, a timeout or a failed request. -/
inductive ClientError where
  | api (status : Nat) (tag message : String)
  | http (transient : Bool)
  | io (context : String)
  | certificateFailed (reason : String)
  | invalid (message : String)
  | crypto (message : String)
deriving DecidableEq, Repr

/-- `is_transient` -/
def ClientError.isTransient : ClientError → Bool
  | .api status _ _ => status == 429 || (decide (500 ≤ status) && decide (status ≤ 599))
  | .http transient => transient
  | _ => false

/-! ### Calls -/

/-- The files of one profile, the API and the surroundings. Writes replace a file atomically (`write_secret`). -/
inductive ClientAct where
  | ensureDir
  | readText (file : TextFile)
  | readTunnel
  | readPending
  | writeText (file : TextFile) (content : String)
  | writeTunnel (content : TunnelFile)
  | writePending (content : PendingFile)
  | removePending
  | apiCreate
  | apiBind (token : String) (id : TunnelId) (csr : String)
  | apiCertificate (token : String) (id : TunnelId)
  | generate (hostname : String)
  | expired (expiry : String)
deriving DecidableEq, Repr

@[reducible] def ClientAct.Ans : ClientAct → Type
  | .ensureDir => Except ClientError Unit
  | .readText _ => Except ClientError (Option String)
  | .readTunnel => Except ClientError (Option TunnelFile)
  | .readPending => Except ClientError (Option PendingFile)
  | .writeText .. => Except ClientError Unit
  | .writeTunnel _ => Except ClientError Unit
  | .writePending _ => Except ClientError Unit
  | .removePending => Except ClientError Unit
  | .apiCreate => Except ClientError CreatedTunnel
  | .apiBind .. => Except ClientError CertificateInfo
  | .apiCertificate .. => Except ClientError CertificateInfo
  | .generate _ => Except ClientError KeyAndCsr
  | .expired _ => Bool

abbrev ClientProg := Prog ClientAct ClientAct.Ans

abbrev ClientCall := ExceptT ClientError ClientProg

def send (op : ClientAct) : ClientProg op.Ans := Prog.act op

/-- A call whose error is returned (`?`). -/
def request {α : Type} (p : ClientProg (Except ClientError α)) : ClientCall α := ExceptT.mk p

/-- A call whose result is looked at. -/
def answer {α : Type} (p : ClientProg α) : ClientCall α := ExceptT.lift p

/-! ### Storage -/

/-- `White_Space` -/
def whitespace (c : Char) : Bool :=
  let n := c.toNat
  (decide (9 ≤ n) && decide (n ≤ 13)) || n == 0x20 || n == 0x85 || n == 0xA0 || n == 0x1680 ||
    (decide (0x2000 ≤ n) && decide (n ≤ 0x200A)) || n == 0x2028 || n == 0x2029 || n == 0x202F || n == 0x205F || n == 0x3000

/-- `trim` -/
def trim (text : String) : String :=
  String.ofList ((text.toList.dropWhile whitespace).reverse.dropWhile whitespace).reverse

namespace Storage

/-- `profile_dir` -/
def profileDir (profile : String) : ClientCall Unit :=
  if isLabel profile then pure ()
  else throw (.invalid ("invalid profile name '" ++ profile ++ "': use lowercase letters, numbers, and hyphens"))

/-- A file that has to be there. -/
def required (profile kind : String) (file : TextFile) : ClientCall String := do
  match ← request (send (.readText file)) with
  | some content => return content
  | none => throw (.invalid ("incomplete " ++ kind ++ " for '" ++ profile ++ "'"))

/-- `load` -/
def load (profile : String) : ClientCall (Option Identity) := do
  profileDir profile
  match ← request (send .readTunnel) with
  | none => return none
  | some file =>
      let token ← required profile "tunnel identity" .token
      let privateKey ← required profile "tunnel identity" .privateKey
      let certificate ← required profile "tunnel identity" .certificate
      let chain ← required profile "tunnel identity" .chain
      return some
        { id := file.id, hostname := file.hostname, token := trim token, privateKey := privateKey,
          certificate := certificate, chain := chain, certificateExpiry := file.certificateExpiry }

/-- `load_pending` -/
def loadPending (profile : String) : ClientCall (Option PendingIdentity) := do
  profileDir profile
  match ← request (send .readPending) with
  | none => return none
  | some file =>
      let token ← required profile "pending tunnel identity" .token
      let privateKey ← required profile "pending tunnel identity" .privateKey
      return some
        { id := file.id, hostname := file.hostname, token := trim token, privateKey := privateKey, csr := file.csr }

/-- `ensure_dir` -/
def ensureDir (profile : String) : ClientCall Unit := do
  profileDir profile
  request (send .ensureDir)

/-- `save_pending` -/
def savePending (profile : String) (pending : PendingIdentity) : ClientCall Unit := do
  ensureDir profile
  request (send (.writeText .token (pending.token ++ "\n")))
  request (send (.writeText .privateKey pending.privateKey))
  request (send (.writePending { id := pending.id, hostname := pending.hostname, csr := pending.csr }))

/-- `save` -/
def save (profile : String) (identity : Identity) : ClientCall Unit := do
  ensureDir profile
  request (send (.writeText .token (identity.token ++ "\n")))
  request (send (.writeText .privateKey identity.privateKey))
  request (send (.writeText .certificate identity.certificate))
  request (send (.writeText .chain identity.chain))
  request (send (.writeTunnel
    { id := identity.id, hostname := identity.hostname, certificateExpiry := identity.certificateExpiry }))
  request (send .removePending)

end Storage

/-! ### Operations -/

namespace Client

/-- The loop of `complete`, for as many polls as are left before the process is stopped. -/
def poll (pending : PendingIdentity) : Nat → ClientCall (String × String × String)
  | 0 => throw (.io "stopped")
  | polls + 1 => do
      let info ← request (send (.apiCertificate pending.token pending.id))
      match info.state with
      | .ready certificate chain expiry => return (certificate, chain, expiry)
      | .failed reason => throw (.certificateFailed reason)
      | .challenge .. => poll pending polls
      | .issuing => poll pending polls

/-- The identity a pending provision becomes with its certificate. -/
def completed (pending : PendingIdentity) (certificate chain expiry : String) : Identity where
  id := pending.id
  hostname := pending.hostname
  token := pending.token
  privateKey := pending.privateKey
  certificate := certificate
  chain := chain
  certificateExpiry := expiry

/-- `complete` -/
def complete (profile : String) (pending : PendingIdentity) (polls : Nat) : ClientCall Identity := do
  match ← answer (send (.apiBind pending.token pending.id pending.csr)) with
  | .ok _ => pure ()
  | .error (.api status tag message) =>
      -- a resumed provision may already have an issuance in flight
      if tag == "CertificateInProgressError" then pure () else throw (.api status tag message)
  | .error err => throw err
  let (certificate, chain, expiry) ← poll pending polls
  let identity := completed pending certificate chain expiry
  Storage.save profile identity
  return identity

/-- `provision` -/
def provision (profile : String) (id : TunnelId) (hostname token : String) (polls : Nat) : ClientCall Identity := do
  let generated ← request (send (.generate hostname))
  let pending : PendingIdentity :=
    { id := id, hostname := hostname, token := token, privateKey := generated.privateKey, csr := generated.csr }
  Storage.savePending profile pending
  complete profile pending polls

/-- `create` -/
def create (profile : String) (polls : Nat) : ClientCall Identity := do
  if (← Storage.load profile).isSome then
    throw (.invalid ("profile '" ++ profile ++ "' already has a tunnel"))
  match ← Storage.loadPending profile with
  | some pending => complete profile pending polls
  | none =>
      let created ← request (send .apiCreate)
      provision profile created.id created.hostname created.token polls

/-- `resume` -/
def resume (profile : String) (polls : Nat) : ClientCall (Option Identity) := do
  match ← Storage.loadPending profile with
  | none => return none
  | some pending => return some (← complete profile pending polls)

/-- `ensure` -/
def ensure (profile : String) (polls : Nat) : ClientCall Identity := do
  match ← Storage.load profile with
  | none => create profile polls
  | some existing =>
      match ← answer (send (.apiCertificate existing.token existing.id)) with
      | .error err =>
          if err.isTransient then
            if !(← answer (send (.expired existing.certificateExpiry))) then
              return existing
          throw err
      | .ok info =>
          match info.state with
          | .ready certificate chain expiry =>
              if certificate != existing.certificate then
                -- the server renewed the certificate while this machine was offline
                let renewed :=
                  { existing with certificate := certificate, chain := chain, certificateExpiry := expiry }
                Storage.save profile renewed
                return renewed
              return existing
          | .failed _ => provision profile existing.id existing.hostname existing.token polls
          | _ => return existing

end Client

end OpenTunnel
