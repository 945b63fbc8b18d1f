/-
Module: OpenTunnel.Model.Record
Layer: Model
Purpose: The stored tunnel record (`record.rs`, `protocol/api.rs`) with the functions the server reads it
  by, the changes the service makes to it, and what the server takes from other crates. Timestamps are the
  ISO texts the record holds; `Externals` stands for the crates that hash tokens (`ring`), format and read
  timestamps (`humantime`), and read certificate requests (`x509-parser`).
Imports: none (Mathlib-free)
Trusted boundary: `Externals`
Main exports: StoredTunnel, CertificateState, Externals, recordFlags, Change, Change.apply
Open obligations: none
-/

namespace OpenTunnel

abbrev TunnelId := String
abbrev CertificateId := String
abbrev MachineId := String
abbrev BridgeId := Nat

/-! ### Time (`clock.rs`) -/

def secondMs : Nat := 1000
def minuteMs : Nat := 60 * secondMs
def hourMs : Nat := 60 * minuteMs
def dayMs : Nat := 24 * hourMs

/-! ### The record -/

inductive TunnelState where
  | offline
  | online
deriving DecidableEq, Repr

inductive CertificateState where
  | challenge (token key : String)
  | issuing
  | ready (certificate chain expiry : String)
  | failed (reason : String)
deriving DecidableEq, Repr

structure CertificateInfo where
  id : CertificateId
  state : CertificateState
deriving DecidableEq, Repr

/-- A renewal issuing alongside the current certificate, which keeps serving until it completes. -/
structure Renewal where
  certificateId : CertificateId
  startedAt : String
deriving DecidableEq, Repr

structure StoredTunnel where
  version : Nat
  id : TunnelId
  hostname : String
  state : TunnelState
  certificateId : Option CertificateId
  tokenHash : String
  createdAt : String
  deletedAt : Option String
  certificate : Option CertificateInfo
  certificateCsr : Option String
  certificateIdentifiers : Option (List String)
  certificateStartedAt : Option String
  lastConnectedAt : Option String
  renewal : Option Renewal
deriving DecidableEq, Repr

namespace CertificateState

def isReady : CertificateState → Bool
  | .ready .. => true
  | _ => false

def isFailed : CertificateState → Bool
  | .failed _ => true
  | _ => false

/-- Issuance is under way: `issuing` or `challenge`. -/
def isIssuing : CertificateState → Bool
  | .issuing => true
  | .challenge .. => true
  | _ => false

end CertificateState

namespace StoredTunnel

def isDeleted (r : StoredTunnel) : Bool := r.deletedAt.isSome

def readyExpiry (r : StoredTunnel) : Option String :=
  match r.certificate with
  | some ⟨_, .ready _ _ expiry⟩ => some expiry
  | _ => none

def certificateReady (r : StoredTunnel) : Bool := r.readyExpiry.isSome

def identifiers (r : StoredTunnel) : List String :=
  r.certificateIdentifiers.getD [r.hostname]

/-- The certificate is the tunnel's current one or its renewal (`Service::wants_certificate`). -/
def wants (r : StoredTunnel) (c : CertificateId) : Bool :=
  r.certificateId == some c || (r.renewal.any fun renewal => renewal.certificateId == c)

end StoredTunnel

/-- `store.rs`: the columns derived from a record, `deleted` and `issuing`. -/
def recordFlags (r : StoredTunnel) : Bool × Bool :=
  let issuing := r.renewal.isSome ||
    (r.certificate.any fun certificate => certificate.state.isIssuing)
  (r.isDeleted, issuing)

/-! ### Other crates -/

/-- A name of a subject alternative name extension. -/
inductive GeneralName where
  | dns (name : String)
  | other
deriving DecidableEq, Repr

/-- A certificate request as `x509-parser` reads it: the common names of its subject, those that are text, and the names
    of each subject alternative name extension it requests. -/
structure Csr where
  commonNames : List (Option String)
  alternativeNames : List (List GeneralName)
deriving DecidableEq, Repr

/-- What a certificate request asks for (`csr.rs`). -/
structure Request where
  hostname : String
  identifiers : List String
deriving DecidableEq, Repr

/-- The functions of other crates: `hashToken` is the lowercase hex SHA-256 of a token, `iso` and `parseIso`
    format and read RFC 3339 timestamps in Unix milliseconds, `readCsr` decodes, reads and verifies a certificate
    request, and `quoted` is the standard library's `{:?}` of a string. -/
structure Externals where
  hashToken : String → String
  iso : Nat → String
  parseIso : String → Option Nat
  readCsr : String → Option Csr
  quoted : String → String

/-- `crypto.rs`: the constant-time comparison is an equality of the digests. -/
def tokenMatches (X : Externals) (token hash : String) : Bool := X.hashToken token == hash

/-! ### Changes of a record

Every `StoredTunnel { .., ..record }` the service builds, by the operation that builds it. The record changed is
the one the tunnel's entry caches, which the operation holds the lock of. -/

inductive Change where
  /-- `create` -/
  | create (hostname tokenHash createdAt : String)
  /-- `bind_certificate`, a new certificate -/
  | bind (c : CertificateId) (csr : String) (identifiers : List String) (startedAt : String)
  /-- `bind_certificate`, when the issuance could not be queued -/
  | bindFailed (c : CertificateId) (reason : String)
  /-- `remove` -/
  | delete (deletedAt : String)
  /-- `update_certificate` of the current certificate -/
  | certificate (c : CertificateId) (state : CertificateState)
  /-- `update_certificate` of a renewal that is ready -/
  | renewed (c : CertificateId) (state : CertificateState)
  /-- `update_certificate` of a renewal that failed -/
  | clearRenewal
  /-- `after_attach` -/
  | connected (at_ : String)
  /-- `start_renewal` -/
  | renew (c : CertificateId) (startedAt : String)
  /-- `start_renewal`, when the issuance could not be queued: the record before it -/
  | restoreRenewal (renewal : Option Renewal)
  /-- `retry_failed_issuance` -/
  | reissue (c : CertificateId)
deriving DecidableEq, Repr

/-- The record of tunnel `id` a change builds from the cached one; only `create` needs none. -/
def Change.apply (id : TunnelId) : Change → Option StoredTunnel → Option StoredTunnel
  | .create hostname tokenHash createdAt, _ =>
      some { version := 1, id := id, hostname := hostname, state := .offline, certificateId := none,
             tokenHash := tokenHash, createdAt := createdAt, deletedAt := none, certificate := none,
             certificateCsr := none, certificateIdentifiers := none, certificateStartedAt := none,
             lastConnectedAt := none, renewal := none }
  | .bind c csr identifiers startedAt, some r =>
      some { r with certificateId := some c, certificate := some ⟨c, .issuing⟩, certificateCsr := some csr,
                    certificateIdentifiers := some identifiers, certificateStartedAt := some startedAt,
                    renewal := none }
  | .bindFailed c reason, some r => some { r with certificate := some ⟨c, .failed reason⟩ }
  | .delete deletedAt, some r => some { r with state := .offline, deletedAt := some deletedAt }
  | .certificate c state, some r => some { r with certificate := some ⟨c, state⟩ }
  | .renewed c state, some r =>
      some { r with certificateId := some c, certificate := some ⟨c, state⟩, renewal := none }
  | .clearRenewal, some r => some { r with renewal := none }
  | .connected at_, some r => some { r with state := .online, lastConnectedAt := some at_ }
  | .renew c startedAt, some r => some { r with renewal := some ⟨c, startedAt⟩ }
  | .restoreRenewal renewal, some r => some { r with renewal := renewal }
  | .reissue c, some r => some { r with certificate := some ⟨c, .issuing⟩ }
  | _, none => none

/-- Changes keep the tunnel's ID. -/
theorem Change.apply_id {id : TunnelId} {change : Change} {before : Option StoredTunnel}
    {record : StoredTunnel} (made : change.apply id before = some record)
    (keyed : ∀ r, before = some r → r.id = id) : record.id = id := by
  cases before with
  | none =>
      cases change <;> simp only [apply, Option.some.injEq, reduceCtorEq] at made
      rw [← made]
  | some r =>
      have same := keyed r rfl
      cases change <;> simp only [apply, Option.some.injEq] at made <;> rw [← made] <;> exact same

end OpenTunnel
