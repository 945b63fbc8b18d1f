/-
Module: OpenTunnel.Model.Migration
Layer: Model
Purpose: Exports and imports of the tunnels table (`migration.rs`, `export_page` of `store.rs`): the JSON shape of a
  record (the serde attributes of `record.rs` and `protocol/api.rs`), the export read a page at a time and written a
  record to a line, and the import of what a reader makes of it. The JSON text is a codec's (`serde_json`).
Imports: Mathlib.Algebra.Group.Nat.Defs, OpenTunnel.Formats.Json, OpenTunnel.Formats.Paging, OpenTunnel.Model.Jobs
Trusted boundary: the codec is a parameter
Main exports: asF64, encodeTunnel, decodeTunnel, ExportFile, decodeFile, exportPage, exportPages, exportText, importText
Open obligations: none
-/
import Mathlib.Algebra.Group.Nat.Defs
import OpenTunnel.Formats.Json
import OpenTunnel.Formats.Paging
import OpenTunnel.Model.Jobs

namespace OpenTunnel

open Formats

/-! ### Numbers -/

/-- `u64 as f64`: the nearest number of 53 bits, and of two the even one. Its value is whole. -/
def asF64 (n : Nat) : Nat :=
  let dropped := 2 ^ (n.log2 - 52)
  let high := n / dropped
  let low := n % dropped
  if dropped < 2 * low ∨ (2 * low = dropped ∧ high % 2 = 1) then (high + 1) * dropped else high * dropped

/-- `f64 as u64` of a whole number -/
def asU64 (f : Nat) : Nat := min f (2 ^ 64 - 1)

/-! ### JSON shapes -/

/-- A document whose floats are whole numbers. -/
abbrev Doc := Json Nat

/-- `null` for nothing -/
def nullable (value : Option Doc) : Doc := value.getD .null

def encodeState : TunnelState → Doc
  | .offline => .str "offline"
  | .online => .str "online"

def encodeCertificateState : CertificateState → Doc
  | .challenge token key => .obj [("type", .str "challenge"), ("token", .str token), ("key", .str key)]
  | .issuing => .obj [("type", .str "issuing")]
  | .ready certificate chain expiry =>
      .obj [("type", .str "ready"), ("certificate", .str certificate), ("chain", .str chain), ("expiry", .str expiry)]
  | .failed reason => .obj [("type", .str "failed"), ("reason", .str reason)]

def encodeCertificate (certificate : CertificateInfo) : Doc :=
  .obj [("id", .str certificate.id), ("state", encodeCertificateState certificate.state)]

def encodeRenewal (renewal : Renewal) : Doc :=
  .obj [("certificateID", .str renewal.certificateId), ("startedAt", .str renewal.startedAt)]

/-- The fields of a record; those that are nothing are left out. -/
def tunnelFields (r : StoredTunnel) : List (String × Option Doc) :=
  [("version", some (.nat r.version)),
   ("id", some (.str r.id)),
   ("hostname", some (.str r.hostname)),
   ("state", some (encodeState r.state)),
   ("certificateID", r.certificateId.map .str),
   ("tokenHash", some (.str r.tokenHash)),
   ("createdAt", some (.str r.createdAt)),
   ("deletedAt", r.deletedAt.map .str),
   ("certificate", r.certificate.map encodeCertificate),
   ("certificateCsr", r.certificateCsr.map .str),
   ("certificateIdentifiers", r.certificateIdentifiers.map fun names => .arr (names.map .str)),
   ("certificateStartedAt", r.certificateStartedAt.map .str),
   ("lastConnectedAt", r.lastConnectedAt.map .str),
   ("renewal", r.renewal.map encodeRenewal)]

def encodeTunnel (r : StoredTunnel) : Doc := .obj (given (tunnelFields r))

/-- A line of the export. -/
def encodeExported (record : StoredTunnel) (alarm : Option Nat) : Doc :=
  .obj [("record", encodeTunnel record), ("alarm", nullable (alarm.map fun at_ => .float (asF64 at_)))]

/-- A field that must be there. -/
def required {α : Type} (members : List (String × Doc)) (name : String) (decode : Doc → Option α) : Option α :=
  (member members name).bind fun found => found.bind decode

/-- An `Option` field: missing and `null` are nothing. -/
def defaulted {α : Type} (members : List (String × Doc)) (name : String) (decode : Doc → Option α) :
    Option (Option α) :=
  (member members name).bind fun found =>
    match found with
    | none | some .null => some none
    | some v => (decode v).map some

def decodeU32 : Doc → Option Nat
  | .nat n => if n < 2 ^ 32 then some n else none
  | _ => none

/-- An `f64`, which an integer is too. -/
def decodeF64 : Doc → Option Nat
  | .nat n => some (asF64 n)
  | .float f => some f
  | _ => none

def decodeString : Doc → Option String
  | .str s => some s
  | _ => none

def decodeStrings : Doc → Option (List String)
  | .arr items => items.mapM decodeString
  | _ => none

def decodeState : Doc → Option TunnelState
  | .str "offline" => some .offline
  | .str "online" => some .online
  | _ => none

def decodeCertificateState : Doc → Option CertificateState
  | .obj members => do
      match ← required members "type" decodeString with
      | "challenge" => return .challenge (← required members "token" decodeString) (← required members "key" decodeString)
      | "issuing" => return .issuing
      | "ready" =>
          return .ready (← required members "certificate" decodeString) (← required members "chain" decodeString)
            (← required members "expiry" decodeString)
      | "failed" => return .failed (← required members "reason" decodeString)
      | _ => none
  | _ => none

def decodeCertificate : Doc → Option CertificateInfo
  | .obj members => do
      return { id := ← required members "id" decodeString, state := ← required members "state" decodeCertificateState }
  | _ => none

def decodeRenewal : Doc → Option Renewal
  | .obj members => do
      return { certificateId := ← required members "certificateID" decodeString,
               startedAt := ← required members "startedAt" decodeString }
  | _ => none

def decodeTunnel : Doc → Option StoredTunnel
  | .obj members => do
      return { version := ← required members "version" decodeU32,
               id := ← required members "id" decodeString,
               hostname := ← required members "hostname" decodeString,
               state := ← required members "state" decodeState,
               certificateId := ← defaulted members "certificateID" decodeString,
               tokenHash := ← required members "tokenHash" decodeString,
               createdAt := ← required members "createdAt" decodeString,
               deletedAt := ← defaulted members "deletedAt" decodeString,
               certificate := ← defaulted members "certificate" decodeCertificate,
               certificateCsr := ← defaulted members "certificateCsr" decodeString,
               certificateIdentifiers := ← defaulted members "certificateIdentifiers" decodeStrings,
               certificateStartedAt := ← defaulted members "certificateStartedAt" decodeString,
               lastConnectedAt := ← defaulted members "lastConnectedAt" decodeString,
               renewal := ← defaulted members "renewal" decodeRenewal }
  | _ => none

/-- A line that is read; the alarm is cast as the import casts it. `objectId` is read by nobody. -/
def decodeExported : Doc → Option ExportedRecord
  | .obj members => do
      return { record := ← defaulted members "record" decodeTunnel,
               alarm := (← defaulted members "alarm" decodeF64).map asU64 }
  | _ => none

structure ExportFile where
  version : Nat
  exportedAt : Option String
  records : List ExportedRecord
deriving DecidableEq, Repr

def decodeFile : Doc → Option ExportFile
  | .obj members => do
      return { version := ← required members "version" decodeU32,
               exportedAt := ← defaulted members "exportedAt" decodeString,
               records := ← required members "records" fun
                 | .arr items => items.mapM decodeExported
                 | _ => none }
  | _ => none

/-! ### Exports -/

/-- A row as `export_page` answers it. -/
structure ExportRow where
  id : TunnelId
  record : StoredTunnel
  alarm : Option Nat
deriving DecidableEq, Repr

def Db.exportRow (db : Db) (id : TunnelId) : Option ExportRow :=
  (db.row id).map fun row => { id := id, record := row.record, alarm := row.alarmAt }

/-- `export_page`. The order of `utf8mb4_bin` is by characters. -/
def Db.exportPage (db : Db) (after : Option TunnelId) (limit : Nat) : List ExportRow :=
  ((sortKeys (db.tunnels.present.filter fun id => after.getD "" < id)).take limit).filterMap db.exportRow

/-- The loop of `export_pages`: the pages it reads, with the queries it has left. -/
def exportPages (db : Db) (page : Nat) : Nat → Option TunnelId → Option (List (List ExportRow))
  | 0, _ => none
  | fuel + 1, after =>
      let rows := db.exportPage after page
      match rows.getLast? with
      | none => some []
      | some last =>
          let full := rows.length = page
          if full then (exportPages db page fuel (some last.id)).map (rows :: ·) else some [rows]

section Text

variable (codec : Codec Nat)

/-- The lines of a page; the first line of all has no comma before it. -/
def chunk (first : Bool) : List ExportRow → Text
  | [] => []
  | row :: rows =>
      (if first then ['\n'] else [',', '\n']) ++ codec.write (encodeExported row.record row.alarm) ++ chunk false rows

def chunks (first : Bool) : List (List ExportRow) → Text
  | [] => []
  | rows :: pages => chunk codec first rows ++ chunks (first && rows.isEmpty) pages

def opening : Text := "\x7b\"version\":1,\"exportedAt\":".toList

def recordsOpening : Text := ",\"records\":[".toList

def closing : Text := "\n]\x7d\n".toList

/-- `export_pages`: what it sends. -/
def exportText (exportedAt : String) (pages : List (List ExportRow)) : Text :=
  opening ++ codec.write (.str exportedAt) ++ recordsOpening ++ chunks codec true pages ++ closing

/-- `export`, with the page size it is asked for and the queries it may make. -/
def exportTunnels (exportedAt : String) (db : Db) (page fuel : Nat) : Option Text :=
  (exportPages db (max page 1) fuel none).map (exportText codec exportedAt)

/-! ### Imports -/

/-- `import` of a file's text. -/
def importText (setup : Setup) (force : Bool) (text : Text) : Fallible (List TunnelId) :=
  match (codec.read text).bind decodeFile with
  | none => throw (.message "reading the export file")
  | some file =>
      if file.version ≠ 1 then throw (.message s!"unsupported export version {file.version}")
      else importRecords setup force file.records

end Text

end OpenTunnel
