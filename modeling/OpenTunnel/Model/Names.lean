/-
Module: OpenTunnel.Model.Names
Layer: Model
Purpose: The names a tunnel may have and ask for: route and tunnel labels (`protocol/names.rs`), the names of a
  certificate request (`csr.rs`), an imported record's check (`migration.rs`), and whether a recorded failure
  is transient (`retry.rs`). All of it is pure text; errors carry the source's messages.
Imports: OpenTunnel.Model.Record
Trusted boundary: none (fully proved)
Main exports: isValidRoute, validTunnelId, checkTunnelNames, checkTunnelRequest, checkImport, classifyReason
Open obligations: none
-/
import OpenTunnel.Model.Record

namespace OpenTunnel

/-! ### Labels -/

def asciiLower (c : Char) : Bool := 'a' ≤ c && c ≤ 'z'

def asciiDigit (c : Char) : Bool := '0' ≤ c && c ≤ '9'

def asciiHexDigit (c : Char) : Bool :=
  asciiDigit c || ('a' ≤ c && c ≤ 'f') || ('A' ≤ c && c ≤ 'F')

def toAsciiLower (c : Char) : Char :=
  if 'A' ≤ c && c ≤ 'Z' then Char.ofNat (c.toNat + 32) else c

/-- `to_ascii_lowercase` -/
def toAsciiLowercase (text : String) : String := String.ofList (text.toList.map toAsciiLower)

/-- `eq_ignore_ascii_case` -/
def eqIgnoreAsciiCase (a b : String) : Bool :=
  a.toList.map toAsciiLower = b.toList.map toAsciiLower

/-- `is_label`; a label that passes is ASCII, so its length in characters is its length in bytes. -/
def isLabel (value : String) : Bool :=
  let valid := fun c => asciiLower c || asciiDigit c
  match value.toList with
  | [] => false
  | [only] => valid only
  | first :: rest =>
      decide (rest.length + 1 ≤ 63) && valid first && rest.getLast?.any valid &&
        rest.dropLast.all fun c => valid c || c == '-'

def isValidRoute (value : String) : Bool := value == "@" || isLabel value

def isValidProfile (value : String) : Bool := isLabel value

/-- `valid_tunnel_id` -/
def validTunnelId (id : String) : Bool :=
  let bytes := id.toList
  !bytes.isEmpty && decide (bytes.length ≤ 63) &&
    (bytes.all fun c => asciiLower c || asciiDigit c || c == '-') &&
    bytes.head? != some '-' && bytes.getLast? != some '-'

/-! ### Certificate requests -/

section Requests

variable (X : Externals)

/-- The DNS names of a request, each once. -/
def Csr.dnsNames (csr : Csr) : List String :=
  csr.alternativeNames.flatten.foldl (fun names name =>
    match name with
    | .dns name => if names.contains name then names else names ++ [name]
    | .other => names) []

/-- `parse`: common names are joined with commas; a request without DNS names is for its common name. -/
def Externals.parseCsr (csr : String) : Option Request :=
  (X.readCsr csr).map fun request =>
    let hostname := String.intercalate "," (request.commonNames.filterMap id)
    { hostname := hostname,
      identifiers := if request.dnsNames.isEmpty then [hostname] else request.dnsNames }

/-- `{:?}` of a list of strings. -/
def Externals.quotedList (names : List String) : String :=
  "[" ++ String.intercalate ", " (names.map X.quoted) ++ "]"

/-- The check of one requested name of `check_tunnel_names`, with the names before it. -/
def checkTunnelName (id hostname wildcard : String) (earlier : List String) (identifier : String) :
    Except String Unit :=
  if !eqIgnoreAsciiCase identifier hostname && !eqIgnoreAsciiCase identifier wildcard then
    .error (X.quoted identifier ++ " is not a name of tunnel " ++ id)
  else if earlier.any fun name => eqIgnoreAsciiCase name identifier then
    .error (X.quoted identifier ++ " requested twice")
  else .ok ()

/-- The loop of `check_tunnel_names`. -/
def checkEachName (id hostname wildcard : String) (earlier : List String) :
    List String → Except String Unit
  | [] => .ok ()
  | identifier :: rest => do
      checkTunnelName X id hostname wildcard earlier identifier
      checkEachName id hostname wildcard (earlier ++ [identifier]) rest

/-- `check_tunnel_names` -/
def checkTunnelNames (id domain : String) (identifiers : List String) : Except String Unit := do
  if !validTunnelId id then
    .error (X.quoted id ++ " is not a tunnel ID")
  let hostname := id ++ "." ++ domain
  let wildcard := "*." ++ hostname
  if identifiers.isEmpty || identifiers.length > 2 then
    .error (toString identifiers.length ++ " names requested")
  checkEachName X id hostname wildcard [] identifiers
  if !(identifiers.any fun identifier => eqIgnoreAsciiCase identifier hostname) then
    .error (hostname ++ " is not requested")

/-- `check_tunnel_request` -/
def checkTunnelRequest (id domain : String) (identifiers : List String) (csr : String) :
    Except String Unit := do
  checkTunnelNames X id domain identifiers
  match X.parseCsr csr with
  | none => .error "the CSR does not parse or verify"
  | some request =>
      if !eqIgnoreAsciiCase request.hostname (id ++ "." ++ domain) then
        .error ("the CSR is for " ++ X.quoted request.hostname ++ ", not tunnel " ++ id)
      let same := request.identifiers.length == identifiers.length &&
        request.identifiers.all fun name =>
          identifiers.any fun identifier => eqIgnoreAsciiCase identifier name
      if !same then
        .error ("the CSR asks for " ++ X.quotedList request.identifiers ++ ", not " ++
          X.quotedList identifiers)

/-- `migration.rs`, `check`: an imported record is one this server could have written. -/
def checkImport (record : StoredTunnel) (domain : String) : Except String Unit := do
  if !validTunnelId record.id then
    .error (X.quoted record.id ++ " is not a tunnel ID")
  let hostname := record.id ++ "." ++ domain
  if record.hostname != hostname then
    .error ("hostname " ++ X.quoted record.hostname ++ " is not " ++ hostname)
  if !(record.tokenHash.toList.length == 64 && record.tokenHash.toList.all asciiHexDigit) then
    .error "the token hash is not SHA-256 hex"
  match record.certificateCsr, record.certificateIdentifiers with
  | some csr, _ => checkTunnelRequest X record.id domain record.identifiers csr
  | none, some identifiers => checkTunnelNames X record.id domain identifiers
  | none, none => .ok ()

end Requests

/-! ### Failure reasons (`retry.rs`) -/

inductive RetryClass where
  | transient
  | permanent
  | unknown
deriving DecidableEq, Repr

/-- The text after the first occurrence of `needle`. -/
def textAfter (needle : List Char) : List Char → Option (List Char)
  | [] => if needle.isEmpty then some [] else none
  | c :: rest =>
      if needle.isPrefixOf (c :: rest) then some ((c :: rest).drop needle.length)
      else textAfter needle rest

/-- `contains` of a string. -/
def containsText (text needle : String) : Bool := (textAfter needle.toList text.toList).isSome

def permanentProblems : List String :=
  ["rejectedIdentifier", "unsupportedIdentifier", "badCSR", "caa", "badSignatureAlgorithm", "badPublicKey",
   "externalAccountRequired", "accountDoesNotExist", "invalidContact", "unsupportedContact", "malformed"]

def transientProblems : List String := ["badNonce", "rateLimited", "serverInternal"]

def permanentReasons : List String :=
  ["Failed to persist certificate state", " are required", "is not a P-256 private JWK", "is not base64url",
   "CSR is not PEM", "did not offer dns-01", "a certificate for another key"]

def transientReasons : List String :=
  ["returned no nonce", "error decoding response body", "error sending request", "operation timed out",
   "connection closed", "connection reset", "status server error", "authorization ended in pending",
   "An identical record already exists", "ACME directory"]

/-- The status in the three characters after `| HTTP `. -/
def httpStatus (reason : String) : Option Nat :=
  (textAfter "| HTTP ".toList reason.toList).bind fun rest =>
    let digits := rest.take 3
    if !digits.isEmpty && digits.all asciiDigit then
      some (digits.foldl (fun n c => 10 * n + (c.toNat - '0'.toNat)) 0)
    else none

/-- `classify_status` -/
def classifyStatus (status : Nat) : RetryClass :=
  if status = 429 ∨ (500 ≤ status ∧ status ≤ 599) ∨ status = 408 then .transient else .unknown

/-- `classify_reason` -/
def classifyReason (reason : String) : RetryClass :=
  if permanentReasons.any (containsText reason) then .permanent
  else if permanentProblems.any fun p => containsText reason ("acme:error:" ++ p) then .permanent
  else if transientProblems.any fun p => containsText reason ("acme:error:" ++ p) then .transient
  else if transientReasons.any (containsText reason) then .transient
  else (httpStatus reason).elim .unknown classifyStatus

end OpenTunnel
