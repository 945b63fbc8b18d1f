/-
Module: OpenTunnel.Proofs.Migration
Layer: Proofs
Purpose: Exports and imports round-trip. Every record is read as it is encoded, the pages of an export are the table in
  order, its text spells the file, and an import into an empty store restores what passes its check; the same import
  again changes nothing.
Imports: OpenTunnel.Formats.JsonText, OpenTunnel.Tasks.Sequential, OpenTunnel.Model.Migration, OpenTunnel.Model.Sample
Trusted boundary: none (fully proved)
Main exports: decodeTunnel_encode, exportPages_all, exportText_spells, export_restores
Open obligations: none
-/
import OpenTunnel.Formats.JsonText
import OpenTunnel.Tasks.Sequential
import OpenTunnel.Model.Migration
import OpenTunnel.Model.Sample

namespace OpenTunnel

open Tasks Formats

/-! ### Records -/

theorem asF64_small {n : Nat} (small : n ≤ 2 ^ 53) : asF64 n = n := by
  have whole (dropped : Nat) (divides : n % dropped = 0) (pos : 0 < dropped) (is : 2 ^ (n.log2 - 52) = dropped) :
      asF64 n = n := by
    simp only [asF64, is, divides]
    rw [if_neg (by omega)]
    exact Nat.div_mul_cancel (Nat.dvd_of_mod_eq_zero divides)
  by_cases top : n = 2 ^ 53
  · subst top
    exact whole 2 (by decide) (by decide) (by rewrite [Nat.log2_two_pow]; rfl)
  · by_cases zero : n = 0
    · subst zero
      decide
    · have bits : n.log2 < 53 := (Nat.log2_lt zero).mpr (by omega)
      exact whole 1 (Nat.mod_one n) (by decide) (by rw [show n.log2 - 52 = 0 by omega, Nat.pow_zero])

theorem decodeStrings_encode (names : List String) : decodeStrings (.arr (names.map .str)) = some names := by
  show (names.map (Json.str (F := Nat))).mapM decodeString = some names
  induction names with
  | nil => rfl
  | cons name names ih => simp [List.mapM_cons, decodeString, ih]

theorem decodeState_encode (state : TunnelState) : decodeState (encodeState state) = some state := by
  cases state <;> rfl

theorem decodeCertificateState_encode (state : CertificateState) :
    decodeCertificateState (encodeCertificateState state) = some state := by
  cases state <;> simp [encodeCertificateState, decodeCertificateState, required, member, decodeString]

theorem decodeCertificate_encode (certificate : CertificateInfo) :
    decodeCertificate (encodeCertificate certificate) = some certificate := by
  simp [encodeCertificate, decodeCertificate, required, member, decodeString, decodeCertificateState_encode]

theorem decodeRenewal_encode (renewal : Renewal) : decodeRenewal (encodeRenewal renewal) = some renewal := by
  simp [encodeRenewal, decodeRenewal, required, member, decodeString]

/-- A field that is left out or encoded is read as it was. -/
theorem defaulted_encode {α : Type} {members : List (String × Doc)} {name : String} {decode : Doc → Option α}
    {encode : α → Doc} {value : Option α} (found : member members name = some (value.map encode))
    (reads : ∀ a, decode (encode a) = some a) (shown : ∀ a, encode a ≠ .null) :
    defaulted members name decode = some value := by
  cases value with
  | none => simp [defaulted, found]
  | some a =>
      simp only [defaulted, found, Option.map_some, Option.bind_some]
      split
      · rename_i is
        cases is
      · rename_i is
        exact absurd (Option.some.inj is) (shown a)
      · rename_i is
        cases is
        rw [reads, Option.map_some]

theorem required_encode {α : Type} {members : List (String × Doc)} {name : String} {decode : Doc → Option α} {v : Doc}
    {a : α} (found : member members name = some (some v)) (reads : decode v = some a) :
    required members name decode = some a := by
  simp [required, found, reads]

theorem tunnelFields_distinct (r : StoredTunnel) : ((tunnelFields r).map (·.1)).Nodup := by
  simp [tunnelFields]

section Fields

variable (r : StoredTunnel)

theorem tunnel_member {name : String} {value : Option Doc} (listed : (name, value) ∈ tunnelFields r) :
    member (given (tunnelFields r)) name = some value :=
  member_given (tunnelFields_distinct r) listed

theorem tunnel_text {name s : String} (listed : (name, some (Json.str s)) ∈ tunnelFields r) :
    required (given (tunnelFields r)) name decodeString = some s :=
  required_encode (tunnel_member r listed) rfl

theorem tunnel_optionalText {name : String} {value : Option String}
    (listed : (name, value.map Json.str) ∈ tunnelFields r) :
    defaulted (given (tunnelFields r)) name decodeString = some value :=
  defaulted_encode (tunnel_member r listed) (fun _ => rfl) (by simp)

/-- Every record is read as it was written. -/
theorem decodeTunnel_encode (u32 : r.version < 2 ^ 32) : decodeTunnel (encodeTunnel r) = some r := by
  have version : required (given (tunnelFields r)) "version" decodeU32 = some r.version :=
    required_encode (v := .nat r.version) (tunnel_member r (by simp [tunnelFields])) (if_pos u32)
  have state : required (given (tunnelFields r)) "state" decodeState = some r.state :=
    required_encode (v := encodeState r.state) (tunnel_member r (by simp [tunnelFields])) (decodeState_encode _)
  have certificate : defaulted (given (tunnelFields r)) "certificate" decodeCertificate = some r.certificate :=
    defaulted_encode (tunnel_member r (by simp [tunnelFields])) decodeCertificate_encode (by simp [encodeCertificate])
  have identifiers :
      defaulted (given (tunnelFields r)) "certificateIdentifiers" decodeStrings = some r.certificateIdentifiers :=
    defaulted_encode (tunnel_member r (by simp [tunnelFields])) decodeStrings_encode (by simp)
  have renewal : defaulted (given (tunnelFields r)) "renewal" decodeRenewal = some r.renewal :=
    defaulted_encode (tunnel_member r (by simp [tunnelFields])) decodeRenewal_encode (by simp [encodeRenewal])
  have id : required (given (tunnelFields r)) "id" decodeString = some r.id := tunnel_text r (by simp [tunnelFields])
  have hostname : required (given (tunnelFields r)) "hostname" decodeString = some r.hostname :=
    tunnel_text r (by simp [tunnelFields])
  have tokenHash : required (given (tunnelFields r)) "tokenHash" decodeString = some r.tokenHash :=
    tunnel_text r (by simp [tunnelFields])
  have createdAt : required (given (tunnelFields r)) "createdAt" decodeString = some r.createdAt :=
    tunnel_text r (by simp [tunnelFields])
  have certificateId : defaulted (given (tunnelFields r)) "certificateID" decodeString = some r.certificateId :=
    tunnel_optionalText r (by simp [tunnelFields])
  have deletedAt : defaulted (given (tunnelFields r)) "deletedAt" decodeString = some r.deletedAt :=
    tunnel_optionalText r (by simp [tunnelFields])
  have csr : defaulted (given (tunnelFields r)) "certificateCsr" decodeString = some r.certificateCsr :=
    tunnel_optionalText r (by simp [tunnelFields])
  have startedAt : defaulted (given (tunnelFields r)) "certificateStartedAt" decodeString =
      some r.certificateStartedAt :=
    tunnel_optionalText r (by simp [tunnelFields])
  have lastConnectedAt : defaulted (given (tunnelFields r)) "lastConnectedAt" decodeString = some r.lastConnectedAt :=
    tunnel_optionalText r (by simp [tunnelFields])
  simp only [decodeTunnel, encodeTunnel, version, state, certificate, identifiers, renewal, id, hostname, tokenHash,
    createdAt, certificateId, deletedAt, csr, startedAt, lastConnectedAt]
  rfl

end Fields

/-- What the import makes of an exported alarm. -/
def importedAlarm (alarm : Option Nat) : Option Nat := alarm.map fun at_ => asU64 (asF64 at_)

theorem decodeExported_encode {record : StoredTunnel} (u32 : record.version < 2 ^ 32) (alarm : Option Nat) :
    decodeExported (encodeExported record alarm) = some { record := some record, alarm := importedAlarm alarm } := by
  have read := decodeTunnel_encode record u32
  rw [encodeTunnel] at read
  cases alarm <;>
    simp [decodeExported, encodeExported, encodeTunnel, defaulted, member, nullable, decodeF64, importedAlarm, read]

theorem importedAlarm_small {alarm : Option Nat} (small : ∀ at_, alarm = some at_ → 1 ≤ at_ ∧ at_ ≤ 2 ^ 53) :
    ((importedAlarm alarm).filter fun at_ => decide (0 < at_)) = alarm := by
  cases alarm with
  | none => rfl
  | some at_ =>
      obtain ⟨first, last⟩ := small at_ rfl
      have same : asU64 at_ = at_ := Nat.min_eq_left (Nat.le_trans last (by decide))
      simp only [importedAlarm, Option.map_some, asF64_small last, same]
      simp [Nat.lt_of_succ_le first]

/-! ### Pages -/

section Pages

variable {db : Db}

/-- The rows of tunnels that exist, one each. -/
theorem exportRows_ids {ids : List TunnelId} (present : ∀ id ∈ ids, id ∈ db.tunnels.present) :
    (ids.filterMap db.exportRow).map (·.id) = ids := by
  induction ids with
  | nil => rfl
  | cons id ids ih =>
      obtain ⟨row, found⟩ := Option.isSome_iff_exists.mp (Table.mem_present.mp (present id List.mem_cons_self))
      have is : db.exportRow id = some { id := id, record := row.record, alarm := row.alarmAt } := by
        rw [Db.exportRow, Db.row, found, Option.map_some]
      rw [List.filterMap_cons_some is, List.map_cons, ih fun id' held => present id' (List.mem_cons_of_mem _ held)]

/-- The IDs after one, in order. -/
def Db.idsAfter (db : Db) (after : Option TunnelId) : List TunnelId :=
  (sortKeys db.tunnels.present).filter fun id => after.getD "" < id

theorem idsAfter_present {after : Option TunnelId} {id : TunnelId} (listed : id ∈ db.idsAfter after) :
    id ∈ db.tunnels.present :=
  List.mem_mergeSort.mp (List.mem_filter.mp listed).1

theorem exportPage_eq (after : Option TunnelId) (limit : Nat) :
    db.exportPage after limit = ((db.idsAfter after).take limit).filterMap db.exportRow := by
  rw [Db.exportPage, sortKeys_filter, Db.idsAfter]

/-- The loop reads every row that is left, in order, and ends. -/
theorem exportPages_after {page : Nat} (positive : 1 ≤ page) (bound : Nat) (after : Option TunnelId)
    (enough : (db.idsAfter after).length ≤ bound) :
    ∃ pages, (∀ fuel, bound < fuel → exportPages db page fuel after = some pages) ∧
      pages.flatten = (db.idsAfter after).filterMap db.exportRow := by
  induction bound generalizing after with
  | zero =>
      have none_ := List.length_eq_zero_iff.mp (Nat.le_zero.mp enough)
      refine ⟨[], fun fuel more => ?_, by rw [none_]; rfl⟩
      obtain ⟨fuel, rfl⟩ : ∃ f, fuel = f + 1 := ⟨fuel - 1, by omega⟩
      rw [exportPages, exportPage_eq, none_, List.take_nil]
      rfl
  | succ bound ih =>
      have ids : (db.exportPage after page).map (·.id) = (db.idsAfter after).take page := by
        rw [exportPage_eq]
        exact exportRows_ids fun id held => idsAfter_present (List.mem_of_mem_take held)
      have length : (db.exportPage after page).length = min page (db.idsAfter after).length := by
        rw [← List.length_map, ids, List.length_take]
      have whole : db.exportPage after page ++ ((db.idsAfter after).drop page).filterMap db.exportRow =
          (db.idsAfter after).filterMap db.exportRow := by
        rw [exportPage_eq, ← List.filterMap_append, List.take_append_drop]
      cases ends : (db.exportPage after page).getLast? with
      | none =>
          have empty := List.getLast?_eq_none_iff.mp ends
          have none_ : (db.idsAfter after).length = 0 := by
            rw [empty, List.length_nil] at length
            omega
          refine ⟨[], fun fuel more => ?_, by rw [List.length_eq_zero_iff.mp none_]; rfl⟩
          obtain ⟨fuel, rfl⟩ : ∃ f, fuel = f + 1 := ⟨fuel - 1, by omega⟩
          simp only [exportPages, ends]
      | some last =>
          have lastId : ((db.idsAfter after).take page).getLast? = some last.id := by
            rw [← ids, List.getLast?_map, ends, Option.map_some]
          by_cases full : (db.exportPage after page).length = page
          · have rest : db.idsAfter (some last.id) = (db.idsAfter after).drop page :=
              after_page (sortKeys_strict (db.tunnels.nodup.filter _)) lastId
            obtain ⟨pages, read, all⟩ := ih (some last.id) (by
              rw [rest, List.length_drop]
              omega)
            refine ⟨db.exportPage after page :: pages, fun fuel more => ?_, ?_⟩
            · obtain ⟨fuel, rfl⟩ : ∃ f, fuel = f + 1 := ⟨fuel - 1, by omega⟩
              simp only [exportPages, ends, full, if_true, read fuel (by omega), Option.map_some]
            · rw [List.flatten_cons, all, rest, whole]
          · have rest : (db.idsAfter after).drop page = [] := List.drop_eq_nil_of_le (by omega)
            refine ⟨[db.exportPage after page], fun fuel more => ?_, ?_⟩
            · obtain ⟨fuel, rfl⟩ : ∃ f, fuel = f + 1 := ⟨fuel - 1, by omega⟩
              simp only [exportPages, ends, full, if_false]
            · rw [← whole, rest]
              simp

/-- What every write of a row keeps: it is under its record's ID, which is not empty, its derived columns are, and the
    version is a `u32`. -/
structure Exportable (db : Db) : Prop where
  keyed : ∀ id row, db.row id = some row → row.record.id = id
  named : db.row "" = none
  derived : ∀ id row, db.row id = some row → (row.deleted, row.issuing) = recordFlags row.record
  u32 : ∀ id row, db.row id = some row → row.record.version < 2 ^ 32

theorem exportRow_eq_some {row : ExportRow} {id : TunnelId} (is : db.exportRow id = some row) :
    ∃ stored, db.row id = some stored ∧ row = { id := id, record := stored.record, alarm := stored.alarmAt } := by
  obtain ⟨stored, found, rfl⟩ := Option.map_eq_some_iff.mp is
  exact ⟨stored, found, rfl⟩

theorem exportPages_all (table : Exportable db) {page : Nat} (positive : 1 ≤ page) :
    ∃ pages, (∀ fuel, db.tunnels.present.length < fuel → exportPages db page fuel none = some pages) ∧
      (pages.flatten.map (·.id)).Pairwise (fun a b => a < b) ∧
      (∀ id, id ∈ pages.flatten.map (·.id) ↔ (db.row id).isSome = true) ∧
      ∀ row ∈ pages.flatten, db.exportRow row.id = some row := by
  have length : (db.idsAfter none).length ≤ db.tunnels.present.length := by
    refine Nat.le_trans (List.length_filter_le _ _) ?_
    rewrite [sortKeys, List.length_mergeSort]
    exact Nat.le_refl _
  obtain ⟨pages, read, all⟩ := exportPages_after positive _ none length
  have ids : pages.flatten.map (·.id) = db.idsAfter none := by
    rw [all]
    exact exportRows_ids fun id held => idsAfter_present held
  refine ⟨pages, read, ?_, ?_, ?_⟩
  · rw [ids]
    exact (sortKeys_strict (db.tunnels.nodup.filter _)).filter _
  · intro id
    rw [ids]
    constructor
    · intro held
      exact Table.mem_present.mp (idsAfter_present held)
    · intro found
      refine List.mem_filter.mpr ⟨List.mem_mergeSort.mpr (Table.mem_present.mpr found), decide_eq_true ?_⟩
      have shown : id ≠ "" := by
        rintro rfl
        rw [table.named] at found
        cases found
      have least : "" ≤ id := by
        show ¬ id.toList < "".toList
        simp
      exact Std.lt_of_le_of_ne least shown.symm
  · intro row held
    rw [all] at held
    obtain ⟨id, _, is⟩ := List.mem_filterMap.mp held
    obtain ⟨stored, found, rfl⟩ := exportRow_eq_some is
    exact is

end Pages

/-! ### The text -/

section Spelling

variable {codec : Codec Nat}

def lineOf (row : ExportRow) : Doc := encodeExported row.record row.alarm

def lineText (codec : Codec Nat) (row : ExportRow) : Text := '\n' :: codec.write (lineOf row)

theorem commas_cons (text : Text) (rest : List Text) : commas (text :: rest) = text ++ rest.flatMap (',' :: ·) := by
  induction rest generalizing text with
  | nil => simp [commas]
  | cons next rest ih => rw [commas, ih, List.flatMap_cons, List.cons_append]; simp

theorem commas_append (texts : List Text) (text behind : Text) :
    commas (texts ++ [text ++ behind]) = commas (texts ++ [text]) ++ behind := by
  cases texts with
  | nil => rfl
  | cons first texts => simp [commas_cons]

theorem chunk_later (rows : List ExportRow) :
    chunk codec false rows = (rows.map (lineText codec)).flatMap (',' :: ·) := by
  induction rows with
  | nil => rfl
  | cons row rows ih => simp [chunk, ih, lineText, lineOf]

theorem chunks_later (pages : List (List ExportRow)) :
    chunks codec false pages = (pages.flatten.map (lineText codec)).flatMap (',' :: ·) := by
  induction pages with
  | nil => rfl
  | cons rows pages ih =>
      rw [chunks, Bool.false_and, ih, chunk_later, List.flatten_cons, List.map_append, List.flatMap_append]

/-- The chunks are the lines of all pages with commas between. -/
theorem chunks_first (pages : List (List ExportRow)) :
    chunks codec true pages = commas (pages.flatten.map (lineText codec)) := by
  induction pages with
  | nil => rfl
  | cons rows pages ih =>
      cases rows with
      | nil => simpa [chunks, chunk] using ih
      | cons row rows =>
          rw [chunks, List.isEmpty_cons, Bool.and_false, chunks_later, chunk, chunk_later, List.flatten_cons,
            List.cons_append, List.map_cons, commas_cons]
          simp [lineText, lineOf]

theorem exact_given {fields : List (String × Option Doc)} (each : ∀ field ∈ fields, ∀ v, field.2 = some v → codec.Exact v) :
    codec.Exact (.obj (given fields)) := by
  apply Codec.Exact.obj
  intro member held
  obtain ⟨field, listed, is⟩ := List.mem_filterMap.mp held
  obtain ⟨v, value, rfl⟩ := Option.map_eq_some_iff.mp is
  exact each field listed v value

theorem exact_texts (names : List (String × String)) :
    codec.Exact (.obj (names.map fun name => (name.1, .str name.2))) := by
  apply Codec.Exact.obj
  intro member held
  obtain ⟨name, _, rfl⟩ := List.mem_map.mp held
  exact .str _

theorem exact_certificate (certificate : CertificateInfo) : codec.Exact (encodeCertificate certificate) := by
  have state : codec.Exact (encodeCertificateState certificate.state) := by
    cases certificate.state with
    | challenge token key => exact exact_texts [("type", "challenge"), ("token", token), ("key", key)]
    | issuing => exact exact_texts [("type", "issuing")]
    | ready certificate chain expiry =>
        exact exact_texts [("type", "ready"), ("certificate", certificate), ("chain", chain), ("expiry", expiry)]
    | failed reason => exact exact_texts [("type", "failed"), ("reason", reason)]
  apply Codec.Exact.obj
  simp only [List.mem_cons, List.not_mem_nil, or_false, forall_eq_or_imp, forall_eq]
  exact ⟨.str _, state⟩

/-- A record has no floats. -/
theorem exact_tunnel (r : StoredTunnel) : codec.Exact (encodeTunnel r) := by
  have text (value : Option String) (v : Doc) (is : value.map Json.str = some v) : codec.Exact v := by
    obtain ⟨s, _, rfl⟩ := Option.map_eq_some_iff.mp is
    exact .str s
  apply exact_given
  simp only [tunnelFields, List.mem_cons, List.not_mem_nil, or_false, forall_eq_or_imp, forall_eq, Option.some.injEq,
    forall_eq']
  refine ⟨.nat _, .str _, .str _, ?_, text _, .str _, .str _, text _, ?_, text _, ?_, text _, text _, ?_⟩
  · cases r.state <;> exact .str _
  · intro v is
    obtain ⟨certificate, _, rfl⟩ := Option.map_eq_some_iff.mp is
    exact exact_certificate certificate
  · intro v is
    obtain ⟨names, _, rfl⟩ := Option.map_eq_some_iff.mp is
    apply Codec.Exact.arr
    intro item held
    obtain ⟨s, _, rfl⟩ := List.mem_map.mp held
    exact .str s
  · intro v is
    obtain ⟨renewal, _, rfl⟩ := Option.map_eq_some_iff.mp is
    exact exact_texts [("certificateID", renewal.certificateId), ("startedAt", renewal.startedAt)]

theorem exact_line {row : ExportRow} (alarm : ∀ at_, row.alarm = some at_ →
    codec.read (codec.write (.float (asF64 at_))) = some (.float (asF64 at_))) : codec.Exact (lineOf row) := by
  apply Codec.Exact.obj
  simp only [List.mem_cons, List.not_mem_nil, or_false, forall_eq_or_imp, forall_eq]
  refine ⟨exact_tunnel _, ?_⟩
  cases is : row.alarm with
  | none => exact .null
  | some at_ => exact .float (alarm at_ is)

/-- The document that the export stands for. -/
def fileDoc (exportedAt : String) (rows : List ExportRow) : Doc :=
  .obj [("version", .nat 1), ("exportedAt", .str exportedAt), ("records", .arr (rows.map lineOf))]

theorem newline_blank : Blank ['\n'] := by simp [Blank, isBlank]

theorem records_spelled (lawful : codec.Lawful) {rows : List ExportRow} (exact_ : ∀ row ∈ rows, codec.Exact (lineOf row)) :
    codec.Spells (.arr (rows.map lineOf)) ('[' :: commas (rows.map (lineText codec)) ++ ['\n', ']']) := by
  have line (row : ExportRow) (held : row ∈ rows) : codec.Spells (lineOf row) (lineText codec row) := by
    have spelled := Codec.Spells.blank newline_blank (by simp [Blank] : Blank []) (lawful.writes (exact_ row held))
    simpa [lineText] using spelled
  rcases List.eq_nil_or_concat rows with rfl | ⟨front, last, rfl⟩
  · exact .none_ newline_blank
  · have lastLine := Codec.Spells.blank (by simp [Blank] : Blank []) newline_blank (line last (by simp))
    have spelled := @Codec.Spells.arr _ codec
      (front.map (fun row => (lineOf row, lineText codec row)) ++ [(lineOf last, [] ++ lineText codec last ++ ['\n'])]) (by
        intro item held
        rcases List.mem_append.mp held with held | held
        · obtain ⟨row, listed, rfl⟩ := List.mem_map.mp held
          exact line row (by simp [listed])
        · rw [List.mem_singleton.mp held]
          exact lastLine)
    simp only [List.map_append, List.map_map, Function.comp_def, List.map_cons, List.map_nil, List.nil_append,
      commas_append] at spelled
    simpa [List.map_append] using spelled

theorem opening_eq :
    opening = '{' :: (quoted "version" ++ ':' :: Nat.toDigits 10 1 ++ ',' :: quoted "exportedAt" ++ [':']) := by
  decide +kernel

theorem recordsOpening_eq : recordsOpening = ',' :: quoted "records" ++ [':', '['] := by
  decide +kernel

theorem closing_eq : closing = ['\n', ']', '}', '\n'] := by
  decide +kernel

/-- The text of an export spells its document. -/
theorem exportText_spells (lawful : codec.Lawful) (exportedAt : String) {pages : List (List ExportRow)}
    (exact_ : ∀ row ∈ pages.flatten, codec.Exact (lineOf row)) :
    codec.Spells (fileDoc exportedAt pages.flatten) (exportText codec exportedAt pages) := by
  have spelled := @Codec.Spells.obj _ codec
    [("version", .nat 1, Nat.toDigits 10 1), ("exportedAt", .str exportedAt, codec.write (.str exportedAt)),
      ("records", .arr (pages.flatten.map lineOf),
        '[' :: commas (pages.flatten.map (lineText codec)) ++ ['\n', ']'])] (by
    simp only [List.mem_cons, forall_eq_or_imp, List.not_mem_nil, false_implies, implies_true, and_true]
    exact ⟨.nat 1, .str exportedAt, records_spelled lawful exact_⟩)
  have whole := Codec.Spells.blank (by simp [Blank] : Blank []) newline_blank spelled
  have version : codec.write (.str "version") = quoted "version" := lawful.plain (by decide +kernel)
  have exportedAt_ : codec.write (.str "exportedAt") = quoted "exportedAt" := lawful.plain (by decide +kernel)
  have records : codec.write (.str "records") = quoted "records" := lawful.plain (by decide +kernel)
  simp only [exportText, chunks_first, opening_eq, recordsOpening_eq, closing_eq, fileDoc, List.append_assoc,
    List.cons_append, List.nil_append]
  simp only [List.map_cons, List.map_nil, commas, version, exportedAt_, records, List.append_assoc, List.cons_append,
    List.nil_append] at whole
  exact whole

/-- What the import makes of a row that is exported. -/
def entryOf (row : ExportRow) : ExportedRecord := { record := some row.record, alarm := importedAlarm row.alarm }

theorem decodeFile_fileDoc (exportedAt : String) {rows : List ExportRow}
    (u32 : ∀ row ∈ rows, row.record.version < 2 ^ 32) :
    decodeFile (fileDoc exportedAt rows) =
      some { version := 1, exportedAt := some exportedAt, records := rows.map entryOf } := by
  have lines : (rows.map lineOf).mapM decodeExported = some (rows.map entryOf) := by
    induction rows with
    | nil => rfl
    | cons row rows ih =>
        have first := decodeExported_encode (u32 row List.mem_cons_self) row.alarm
        have rest := ih fun row' held => u32 row' (List.mem_cons_of_mem _ held)
        simp [List.mapM_cons, lineOf, first, rest, entryOf]
  simp [decodeFile, fileDoc, required, defaulted, member, decodeU32, decodeString, lines]

end Spelling

/-! ### Imports -/

section Imports

variable {setup : Setup} {t : Task} {record : StoredTunnel} {alarm : Option Nat} {force : Bool} {db db' db'' : Db}

/-- An act of an import that runs alone. -/
def Alone (setup : Setup) (t : Task) (op : Act) (w : World) (ans : op.Ans) (w' : World) : Prop :=
  ∃ c, exec setup t op c w = some (ans, w')

/-- No transaction is open. -/
def Db.Quiet (db : Db) : Prop := ∀ id, db.transactions.get id = none

/-- The row is missing, or as an import of the record left it. -/
def Db.Fits (db : Db) (record : StoredTunnel) : Prop :=
  ∀ row, db.row record.id = some row → row.record = record ∧ row.localUpdate = false

/-- At most the record's row is inserted. -/
structure Db.Inserts (record : StoredTunnel) (alarm : Option Nat) (db db' : Db) : Prop where
  quiet : db'.Quiet
  rows : ∀ id, db'.row id = db.row id ∨
    (id = record.id ∧ db.row id = none ∧ db'.row id = some (importedRow record 1 alarm))

namespace Db.Inserts

theorem refl (quiet : db.Quiet) : Db.Inserts record alarm db db := ⟨quiet, fun _ => Or.inl rfl⟩

theorem trans (first : Db.Inserts record alarm db db') (second : Db.Inserts record alarm db' db'') :
    Db.Inserts record alarm db db'' := by
  refine ⟨second.quiet, fun id => ?_⟩
  rcases second.rows id with same | ⟨is, missing, inserted⟩
  · rw [same]
    exact first.rows id
  · rcases first.rows id with same | ⟨_, _, before⟩
    · exact Or.inr ⟨is, same ▸ missing, inserted⟩
    · rw [before] at missing
      cases missing

theorem fits (inserts : Db.Inserts record alarm db db') (fits : db.Fits record) : db'.Fits record := by
  intro row found
  rcases inserts.rows record.id with same | ⟨_, _, inserted⟩
  · exact fits row (same ▸ found)
  · rw [inserted] at found
    cases found
    exact ⟨rfl, rfl⟩

end Db.Inserts

theorem Db.Quiet.free (quiet : db.Quiet) (id : TunnelId) : db.free id = true := by
  simp [Db.free, quiet id]

/-- A transaction without an update leaves the rows, however it ends. -/
theorem Db.begin_end (quiet : db.Quiet) (t : Task) (id : TunnelId) (row : Row) :
    Db.Inserts record alarm db ((db.begin t id row).rollback id) ∧
      Db.Inserts record alarm db ((db.begin t id row).commit id) ∧ (db.begin t id row).inTransaction t id = true := by
  have closed : Db.Inserts record alarm db ((db.begin t id row).rollback id) := by
    refine ⟨fun id' => ?_, fun _ => Or.inl rfl⟩
    by_cases same : id' = id
    · simp [Db.begin, Db.rollback, same]
    · simp [Db.begin, Db.rollback, same, quiet id']
  refine ⟨closed, ?_, ?_⟩
  · have unstaged : (db.begin t id row).commit id = (db.begin t id row).rollback id := by
      simp [Db.commit, Db.begin]
    rw [unstaged]
    exact closed
  · simp [Db.inTransaction, Db.begin]

theorem Db.importInsert_inserts (quiet : db.Quiet) : Db.Inserts record alarm db (db.importInsert record alarm).2 := by
  unfold Db.importInsert
  cases found : db.row record.id with
  | some row => exact .refl quiet
  | none =>
      refine ⟨quiet, fun id => ?_⟩
      by_cases same : id = record.id
      · exact Or.inr ⟨same, same ▸ found, by simp [same]⟩
      · exact Or.inl (by simp [same])

/-- The import of one record leaves every row, or inserts the record's; when it returns, the row is there. -/
def Db.Leaves (record : StoredTunnel) (alarm : Option Nat) (db : Db) {α : Type} (result : Except Err α) (db' : Db) : Prop :=
  Db.Inserts record alarm db db' ∧ ∀ a, result = .ok a → (db'.row record.id).isSome = true

variable {w w' : World}

theorem insert_alone (quiet : w.db.Quiet) {ans : Except Err Bool}
    (done : Alone setup t (.importInsert record alarm) w ans w') :
    Db.Inserts record alarm w.db w'.db ∧ (ans = .ok true → (w'.db.row record.id).isSome = true) := by
  obtain ⟨c, executed⟩ := done
  have inserts := @Db.importInsert_inserts record alarm w.db quiet
  have inserted (new : (w.db.importInsert record alarm).1 = true) :
      ((w.db.importInsert record alarm).2.row record.id).isSome = true := by
    unfold Db.importInsert at new ⊢
    split
    · simp
    · rename_i row found
      rw [found] at new
      cases new
  simp only [exec, World.onRow, quiet.free, if_true, World.write, sure, Option.some.injEq] at executed
  split at executed <;> cases executed
  · exact ⟨inserts, fun is => inserted (by simpa using is)⟩
  · exact ⟨.refl quiet, fun is => by cases is⟩
  · exact ⟨inserts, fun is => by cases is⟩

theorem select_alone (quiet : w.db.Quiet) {ans : Except Err (StoredTunnel × Bool)}
    (done : Alone setup t (.importSelect record.id) w ans w') :
    (∃ err, ans = .error err ∧ w' = w) ∨
      ∃ row, w.db.row record.id = some row ∧ ans = .ok (row.record, row.localUpdate) ∧
        w' = w.setDb (w.db.begin t record.id row) := by
  obtain ⟨c, executed⟩ := done
  simp only [exec, quiet.free, if_true] at executed
  split at executed
  · rename_i row found _
    cases executed
    exact Or.inr ⟨row, found, rfl, rfl⟩
  · cases executed
    exact Or.inl ⟨_, rfl, rfl⟩

theorem commit_alone (quiet : db.Quiet) {row : Row} (found : db.row record.id = some row)
    (is : w.db = db.begin t record.id row) {ans : Except Err Unit}
    (done : Alone setup t (.importCommit record.id) w ans w') :
    Db.Inserts record alarm db w'.db ∧ (w'.db.row record.id).isSome = true := by
  obtain ⟨c, executed⟩ := done
  obtain ⟨rolled, committed, mine⟩ := @Db.begin_end record alarm db quiet t record.id row
  have held (db' : Db) (inserts : Db.Inserts record alarm db db') : (db'.row record.id).isSome = true := by
    rcases inserts.rows record.id with same | ⟨_, missing, _⟩
    · rw [same, found]
      rfl
    · rw [found] at missing
      cases missing
  simp only [exec, is, mine, if_true] at executed
  split at executed <;> cases executed
  · exact ⟨committed, held _ committed⟩
  · exact ⟨rolled, held _ rolled⟩
  · exact ⟨committed, held _ committed⟩

theorem tryImport_leaves (quiet : w.db.Quiet) (fits : w.db.Fits record) :
    Prog.Keeps (Alone setup t) (fun _ => True) (tryImport record alarm force).run
      (fun result w' => Db.Leaves record alarm w.db result w'.db) w := by
  unfold tryImport
  apply Prog.keeps_exceptBind
  intro inserted w₁ insert
  refine ⟨trivial, ?_⟩
  obtain ⟨first, there⟩ := insert_alone quiet insert
  cases inserted with
  | error err => exact ⟨first, fun a is => by cases is⟩
  | ok new =>
      cases new with
      | true => exact ⟨first, fun _ _ => there rfl⟩
      | false =>
          apply Prog.keeps_exceptBind
          intro existing w₂ select
          refine ⟨trivial, ?_⟩
          rcases select_alone first.quiet select with ⟨err, rfl, rfl⟩ | ⟨row, found, rfl, rfl⟩
          · exact ⟨first, fun a is => by cases is⟩
          · obtain ⟨same, imported⟩ := first.fits fits row found
            show Prog.Keeps _ _ (ExceptT.run
              (if (row.localUpdate && !force) = true then _ else if row.record = record then _ else _)) _ _
            rw [imported, same, Bool.false_and, if_neg Bool.false_ne_true, if_pos rfl]
            show Prog.Keeps _ _ (ExceptT.run
              (fallible (act (.importCommit record.id)) >>= fun _ => pure ImportOutcome.unchanged)) _ _
            apply Prog.keeps_exceptBind
            intro committed w₃ commit
            refine ⟨trivial, ?_⟩
            obtain ⟨second, there⟩ := commit_alone first.quiet found rfl commit
            cases committed with
            | error err => exact ⟨first.trans second, fun a is => by cases is⟩
            | ok _ => exact ⟨first.trans second, fun _ _ => there⟩

theorem importTunnel_leaves (attempts : Nat) (quiet : w.db.Quiet) (fits : w.db.Fits record) :
    Prog.Keeps (Alone setup t) (fun _ => True) (importTunnel record alarm force attempts).run
      (fun result w' => Db.Leaves record alarm w.db result w'.db) w := by
  induction attempts generalizing w with
  | zero => exact tryImport_leaves quiet fits
  | succ attempts ih =>
      unfold importTunnel
      apply Prog.keeps_exceptBind
      apply Prog.keeps_bind
      refine Prog.keeps_mono (tryImport_leaves quiet fits) ?_
      intro result w₁ leaves
      change Prog.Keeps (Alone setup t) (fun _ => True) (ExceptT.run (_ : Fallible ImportOutcome))
        (fun result w' => Db.Leaves record alarm w.db result w'.db) w₁
      split
      · refine Prog.keeps_mono (ih leaves.1.quiet (leaves.1.fits fits)) ?_
        intro result w₂ later
        exact ⟨leaves.1.trans later.1, later.2⟩
      · exact leaves

/-- A run in which no statement fails imports the record at once. -/
theorem importTunnel_returns (attempts : Nat) (quiet : w.db.Quiet) (fits : w.db.Fits record) :
    Prog.Reaches (Alone setup t) (importTunnel record alarm force attempts).run (fun result _ => ∃ o, result = .ok o) w := by
  have tries : Prog.Reaches (Alone setup t) (tryImport record alarm force).run
      (fun result _ => ∃ o, result = .ok o) w := by
    unfold tryImport
    apply Prog.reaches_exceptBind
    have inserts : exec setup t (.importInsert record alarm) {} w =
        some (.ok (w.db.importInsert record alarm).1, w.setDb (w.db.importInsert record alarm).2) := by
      simp [exec, World.onRow, quiet.free, World.write, sure]
    refine ⟨_, _, ⟨{}, inserts⟩, _, rfl, ?_⟩
    cases found : w.db.row record.id with
    | none =>
        have new : (w.db.importInsert record alarm).1 = true := by simp [Db.importInsert, found]
        rw [new]
        exact ⟨_, rfl⟩
    | some row =>
        have old : w.db.importInsert record alarm = (false, w.db) := by simp [Db.importInsert, found]
        rw [old]
        show Prog.Reaches _ (ExceptT.run (_ >>= _)) _ _
        apply Prog.reaches_exceptBind
        have selects : exec setup t (.importSelect record.id) {} (w.setDb w.db) =
            some (.ok (row.record, row.localUpdate), w.setDb (w.db.begin t record.id row)) := by
          simp [exec, quiet.free, found, World.setDb]
        refine ⟨_, _, ⟨{}, selects⟩, _, rfl, ?_⟩
        obtain ⟨same, imported⟩ := fits row found
        show Prog.Reaches _ (ExceptT.run
          (if (row.localUpdate && !force) = true then _ else if row.record = record then _ else _)) _ _
        rw [imported, same, Bool.false_and, if_neg Bool.false_ne_true, if_pos rfl]
        show Prog.Reaches _ (ExceptT.run
          (fallible (act (.importCommit record.id)) >>= fun _ => pure ImportOutcome.unchanged)) _ _
        apply Prog.reaches_exceptBind
        have mine := (@Db.begin_end record alarm w.db quiet t record.id row).2.2
        have commits : exec setup t (.importCommit record.id) {} (w.setDb (w.db.begin t record.id row)) =
            some (.ok (), w.setDb ((w.db.begin t record.id row).commit record.id)) := by
          simp [exec, mine, World.setDb]
        exact ⟨_, _, ⟨{}, commits⟩, _, rfl, _, rfl⟩
  cases attempts with
  | zero => exact tries
  | succ attempts =>
      unfold importTunnel
      apply Prog.reaches_exceptBind
      apply Prog.reaches_bind
      refine Prog.reaches_mono tries ?_
      rintro result w₁ ⟨o, rfl⟩
      exact ⟨_, rfl, o, rfl⟩

/-! ### A file -/

/-- The line's record passes the import's check. -/
def Passes (setup : Setup) (entry : ExportedRecord) (record : StoredTunnel) : Prop :=
  entry.record = some record ∧ checkImport setup.externals record setup.domain = .ok ()

/-- The alarm that the import of the line writes. -/
def alarmOf (entry : ExportedRecord) : Option Nat := entry.alarm.filter fun at_ => decide (0 < at_)

/-- Rows are left, or inserted from lines that pass; when the import returns, every line that passes has its row. -/
structure Db.Loads (setup : Setup) (entries : List ExportedRecord) (db : Db) {α : Type} (result : Except Err α)
    (db' : Db) : Prop where
  quiet : db'.Quiet
  rows : ∀ id, db'.row id = db.row id ∨ (db.row id = none ∧ ∃ entry ∈ entries, ∃ record, Passes setup entry record ∧
    record.id = id ∧ db'.row id = some (importedRow record 1 (alarmOf entry)))
  all : ∀ a, result = .ok a → ∀ entry ∈ entries, ∀ record, Passes setup entry record →
    (db'.row record.id).isSome = true

/-- No two lines are of one tunnel. -/
def Distinct (entries : List ExportedRecord) : Prop :=
  entries.Pairwise fun one other => ∀ r r', one.record = some r → other.record = some r' → r.id ≠ r'.id

namespace Db.Loads

variable {entry : ExportedRecord} {entries : List ExportedRecord} {α : Type} {result : Except Err α}

/-- A line that does not pass is passed over. -/
theorem skip (loads : Db.Loads setup entries db result db') (refused : ∀ record, ¬ Passes setup entry record) :
    Db.Loads setup (entry :: entries) db result db' := by
  refine ⟨loads.quiet, fun id => ?_, fun a is e held record passes => ?_⟩
  · rcases loads.rows id with same | ⟨missing, e, held, rest⟩
    · exact Or.inl same
    · exact Or.inr ⟨missing, e, List.mem_cons_of_mem _ held, rest⟩
  · rcases List.mem_cons.mp held with rfl | later
    · exact absurd passes (refused record)
    · exact loads.all a is e later record passes

/-- The first line's row is inserted, or there, before the rest. -/
theorem cons (inserts : Db.Inserts record (alarmOf entry) db db') (passes : Passes setup entry record)
    (there : (db'.row record.id).isSome = true) (loads : Db.Loads setup entries db' result db'') :
    Db.Loads setup (entry :: entries) db result db'' := by
  have kept (id : TunnelId) (held : (db'.row id).isSome = true) : db''.row id = db'.row id := by
    rcases loads.rows id with same | ⟨missing, _⟩
    · exact same
    · rw [missing] at held
      cases held
  refine ⟨loads.quiet, fun id => ?_, fun a is e held record' passes' => ?_⟩
  · rcases inserts.rows id with same | ⟨own, missing, inserted⟩
    · rcases loads.rows id with same' | ⟨missing, e, held, rest⟩
      · exact Or.inl (same'.trans same)
      · exact Or.inr ⟨same ▸ missing, e, List.mem_cons_of_mem _ held, rest⟩
    · refine Or.inr ⟨missing, entry, List.mem_cons_self, record, passes, own.symm, ?_⟩
      rw [kept id (own ▸ there), inserted]
  · rcases List.mem_cons.mp held with rfl | later
    · have same : record' = record := Option.some.inj (passes'.1.symm.trans passes.1)
      rw [same, kept _ there]
      exact there
    · exact loads.all a is e later record' passes'

/-- The import stops at the first line. -/
theorem stop {err : Err} (inserts : Db.Inserts record (alarmOf entry) db db') (passes : Passes setup entry record) :
    Db.Loads setup (entry :: entries) db (.error err : Except Err α) db' := by
  refine ⟨inserts.quiet, fun id => ?_, fun a is => by cases is⟩
  rcases inserts.rows id with same | ⟨own, missing, inserted⟩
  · exact Or.inl same
  · exact Or.inr ⟨missing, entry, List.mem_cons_self, record, passes, own.symm, inserted⟩

end Db.Loads

theorem not_passes {entry : ExportedRecord} {reason : String} (is : entry.record = some record)
    (check : checkImport setup.externals record setup.domain = .error reason) (record' : StoredTunnel) :
    ¬ Passes setup entry record' := by
  intro passes
  obtain rfl : record = record' := Option.some.inj (is.symm.trans passes.1)
  rw [passes.2] at check
  cases check

/-- Another record's row is still as it was. -/
theorem Db.Inserts.fits_other (inserts : Db.Inserts record alarm db db') {other : StoredTunnel}
    (apart : record.id ≠ other.id) (fits : db.Fits other) : db'.Fits other := by
  intro row found
  rcases inserts.rows other.id with same | ⟨own, _⟩
  · exact fits row (same ▸ found)
  · exact absurd own.symm apart

theorem importRecords_loads {entries : List ExportedRecord} (distinct : Distinct entries) (quiet : w.db.Quiet)
    (fits : ∀ entry ∈ entries, ∀ record, Passes setup entry record → w.db.Fits record) :
    Prog.Keeps (Alone setup t) (fun _ => True) (importRecords setup force entries).run
      (fun result w' => Db.Loads setup entries w.db result w'.db) w := by
  induction entries generalizing w with
  | nil => exact ⟨quiet, fun _ => Or.inl rfl, by simp⟩
  | cons entry entries ih =>
      obtain ⟨apart, distinct⟩ := List.pairwise_cons.mp distinct
      have rest := ih distinct quiet fun e held => fits e (List.mem_cons_of_mem _ held)
      unfold importRecords
      cases is : entry.record with
      | none => exact Prog.keeps_mono rest fun result w' loads => loads.skip fun record passes => by simp [Passes, is] at passes
      | some record =>
          cases check : checkImport setup.externals record setup.domain with
          | error reason =>
              simp only [check]
              exact Prog.keeps_mono rest fun result w' loads => loads.skip (not_passes is check)
          | ok _ =>
              have passes : Passes setup entry record := ⟨is, check⟩
              simp only [check]
              apply Prog.keeps_exceptBind
              refine Prog.keeps_mono (importTunnel_leaves 5 quiet (fits entry List.mem_cons_self record passes)) ?_
              rintro outcome w₁ ⟨inserts, there⟩
              cases outcome with
              | error err => exact .stop inserts passes
              | ok o =>
                  have fits₁ (e : ExportedRecord) (held : e ∈ entries) (other : StoredTunnel)
                      (passes' : Passes setup e other) : w₁.db.Fits other :=
                    inserts.fits_other (apart e held record other is passes'.1)
                      (fits e (List.mem_cons_of_mem _ held) other passes')
                  apply Prog.keeps_exceptBind
                  refine Prog.keeps_mono (ih distinct inserts.quiet fits₁) ?_
                  intro result w₂ loads
                  have whole := Db.Loads.cons inserts passes (there o rfl) loads
                  cases result with
                  | error err => exact ⟨whole.quiet, whole.rows, fun a is => by cases is⟩
                  | ok ids => exact ⟨whole.quiet, whole.rows, fun _ _ => whole.all ids rfl⟩

/-- Some run imports the whole file. -/
theorem importRecords_returns {entries : List ExportedRecord} (distinct : Distinct entries) (quiet : w.db.Quiet)
    (fits : ∀ entry ∈ entries, ∀ record, Passes setup entry record → w.db.Fits record) :
    Prog.Reaches (Alone setup t) (importRecords setup force entries).run (fun result _ => ∃ ids, result = .ok ids) w := by
  induction entries generalizing w with
  | nil => exact ⟨[], rfl⟩
  | cons entry entries ih =>
      obtain ⟨apart, distinct⟩ := List.pairwise_cons.mp distinct
      have rest := ih distinct quiet fun e held => fits e (List.mem_cons_of_mem _ held)
      unfold importRecords
      cases is : entry.record with
      | none => exact rest
      | some record =>
          cases check : checkImport setup.externals record setup.domain with
          | error reason =>
              simp only [check]
              exact rest
          | ok _ =>
              have fit := fits entry List.mem_cons_self record ⟨is, check⟩
              simp only [check]
              apply Prog.reaches_exceptBind
              refine Prog.reaches_mono
                (Prog.reaches_and (importTunnel_returns 5 quiet fit) (importTunnel_leaves 5 quiet fit)) ?_
              rintro outcome w₁ ⟨⟨o, returned⟩, inserts, -⟩
              have fits₁ (e : ExportedRecord) (held : e ∈ entries) (other : StoredTunnel)
                  (passes' : Passes setup e other) : w₁.db.Fits other :=
                inserts.fits_other (apart e held record other is passes'.1)
                  (fits e (List.mem_cons_of_mem _ held) other passes')
              refine ⟨o, returned, ?_⟩
              apply Prog.reaches_exceptBind
              refine Prog.reaches_mono (ih distinct inserts.quiet fits₁) ?_
              rintro result w₂ ⟨ids, is⟩
              exact ⟨ids, is, record.id :: ids, rfl⟩

/-! ### The round trip -/

/-- The records that pass the import's check are restored, and no others: the record, the derived columns, and an alarm
    that a float holds. -/
def Restores (setup : Setup) (source db : Db) : Prop :=
  (∀ id row, source.row id = some row → checkImport setup.externals row.record setup.domain = .ok () →
    ∃ row', db.row id = some row' ∧ row'.record = row.record ∧ row'.deleted = row.deleted ∧
      row'.issuing = row.issuing ∧
      ((∀ at_, row.alarmAt = some at_ → 1 ≤ at_ ∧ at_ ≤ 2 ^ 53) → row'.alarmAt = row.alarmAt)) ∧
  ∀ id, (db.row id).isSome = true →
    ∃ row, source.row id = some row ∧ checkImport setup.externals row.record setup.domain = .ok ()

theorem passes_entryOf {row : ExportRow} :
    Passes setup (entryOf row) record ↔
      row.record = record ∧ checkImport setup.externals record setup.domain = .ok () := by
  simp [Passes, entryOf]

section RoundTrip

variable {source : Db} {rows : List ExportRow} (table : Exportable source)
  (all : ∀ id, id ∈ rows.map (·.id) ↔ (source.row id).isSome = true)
  (rowOf : ∀ row ∈ rows, source.exportRow row.id = some row)

include table rowOf in
/-- Two rows of one record are one. -/
theorem rows_unique {row row' : ExportRow} (held : row ∈ rows) (held' : row' ∈ rows)
    (same : row.record.id = row'.record.id) : row = row' := by
  obtain ⟨stored, found, is⟩ := exportRow_eq_some (rowOf row held)
  obtain ⟨stored', found', is'⟩ := exportRow_eq_some (rowOf row' held')
  have id : row.record.id = row.id := by rw [is]; exact table.keyed row.id stored found
  have id' : row'.record.id = row'.id := by rw [is']; exact table.keyed row'.id stored' found'
  have exported := rowOf row held
  rw [← id, same, id', rowOf row' held'] at exported
  exact (Option.some.inj exported).symm

include table rowOf in
theorem entries_distinct (ordered : (rows.map (·.id)).Pairwise fun a b => a < b) : Distinct (rows.map entryOf) := by
  refine List.pairwise_map.mpr ((List.pairwise_map.mp ordered).imp_of_mem ?_)
  intro one other held held' less r r' is is' same
  cases is
  cases is'
  rw [rows_unique table rowOf held held' same] at less
  exact String.lt_irrefl _ less

include table rowOf in
theorem loads_fits {α : Type} {result : Except Err α} (empty : ∀ id, db.row id = none)
    (loads : Db.Loads setup (rows.map entryOf) db result db') {row : ExportRow} (held : row ∈ rows) :
    db'.Fits row.record := by
  intro stored found
  rcases loads.rows row.record.id with same | ⟨_, entry, listed, record, passes, is, inserted⟩
  · rw [same, empty] at found
    cases found
  · obtain ⟨other, held', rfl⟩ := List.mem_map.mp listed
    obtain ⟨rfl, _⟩ := passes_entryOf.mp passes
    obtain rfl := rows_unique table rowOf held' held is
    rw [inserted] at found
    cases found
    exact ⟨rfl, rfl⟩

include table all rowOf in
/-- An import of the lines into an empty store restores the table. -/
theorem loads_restores {α : Type} {a : α} (empty : ∀ id, db.row id = none)
    (loads : Db.Loads setup (rows.map entryOf) db (.ok a : Except Err α) db') : Restores setup source db' := by
  have inserted (id : TunnelId) (there : (db'.row id).isSome = true) : ∃ row ∈ rows, row.record.id = id ∧
      checkImport setup.externals row.record setup.domain = .ok () ∧
      db'.row id = some (Db.importedRow row.record 1 (alarmOf (entryOf row))) := by
    rcases loads.rows id with same | ⟨_, entry, held, record, passes, is, found⟩
    · rw [same, empty] at there
      cases there
    · obtain ⟨row, listed, rfl⟩ := List.mem_map.mp held
      obtain ⟨rfl, check⟩ := passes_entryOf.mp passes
      exact ⟨row, listed, is, check, found⟩
  have stored (row : ExportRow) (held : row ∈ rows) :
      ∃ stored, source.row row.record.id = some stored ∧ row.record = stored.record ∧ row.alarm = stored.alarmAt := by
    obtain ⟨stored, found, is⟩ := exportRow_eq_some (rowOf row held)
    have record : row.record = stored.record := by rw [is]
    have alarm : row.alarm = stored.alarmAt := by rw [is]
    refine ⟨stored, ?_, record, alarm⟩
    rw [record, table.keyed row.id stored found, found]
  constructor
  · intro id row found check
    obtain ⟨exported, held, rfl⟩ := List.mem_map.mp ((all id).mpr (by rw [found]; rfl))
    obtain ⟨row', found', is⟩ := exportRow_eq_some (rowOf exported held)
    obtain rfl : row' = row := Option.some.inj (found'.symm.trans found)
    have record : exported.record = row'.record := by rw [is]
    have idOf : exported.record.id = exported.id := by rw [record, table.keyed exported.id row' found]
    have there := loads.all a rfl (entryOf exported) (List.mem_map_of_mem held) exported.record
      (passes_entryOf.mpr ⟨rfl, record ▸ check⟩)
    obtain ⟨other, listed, sameId, _, is'⟩ := inserted _ there
    obtain ⟨stored₁, found₁, record₁, alarm₁⟩ := stored other listed
    obtain rfl : stored₁ = row' := by
      rw [sameId, idOf, found] at found₁
      exact (Option.some.inj found₁).symm
    rw [idOf, record₁] at is'
    have flags := table.derived exported.id stored₁ found
    refine ⟨_, is', rfl, ?_, ?_, ?_⟩
    · exact (congrArg Prod.fst flags).symm
    · exact (congrArg Prod.snd flags).symm
    · intro small
      show alarmOf (entryOf other) = _
      rw [alarmOf, entryOf, alarm₁]
      exact importedAlarm_small small
  · intro id there
    obtain ⟨row, held, rfl, check, _⟩ := inserted id there
    obtain ⟨stored, found, record, _⟩ := stored row held
    exact ⟨stored, found, record ▸ check⟩

end RoundTrip

/-- An export emits every tunnel once, in order, with its alarm, whatever the page size. Its text, imported into an empty
    store, restores what passes the check once the import returns, as some run does, and importing it again changes no
    row. The codec reads the alarms that it writes. -/
theorem export_restores {codec : Codec Nat} (lawful : codec.Lawful) {source : Db} (table : Exportable source)
    (exact_ : ∀ id row at_, source.row id = some row → row.alarmAt = some at_ →
      codec.read (codec.write (.float (asF64 at_))) = some (.float (asF64 at_)))
    (setup : Setup) (exportedAt : String) (page : Nat) :
    ∃ pages,
      (∀ fuel, source.tunnels.present.length < fuel →
        exportTunnels codec exportedAt source page fuel = some (exportText codec exportedAt pages)) ∧
      (pages.flatten.map (·.id)).Pairwise (fun a b => a < b) ∧
      (∀ id, id ∈ pages.flatten.map (·.id) ↔ (source.row id).isSome = true) ∧
      (∀ row ∈ pages.flatten, source.exportRow row.id = some row) ∧
      ∀ t force w, w.db.Quiet → (∀ id, w.db.row id = none) →
        Prog.Reaches (Alone setup t) (importText codec setup force (exportText codec exportedAt pages)).run
          (fun result _ => ∃ ids, result = .ok ids) w ∧
        Prog.Keeps (Alone setup t) (fun _ => True)
          (importText codec setup force (exportText codec exportedAt pages)).run
          (fun result w' => ∀ ids, result = .ok ids → Restores setup source w'.db ∧
            ∀ force', Prog.Keeps (Alone setup t) (fun _ => True)
              (importText codec setup force' (exportText codec exportedAt pages)).run
              (fun _ w'' => ∀ id, w''.db.row id = w'.db.row id) w') w := by
  obtain ⟨pages, read, ordered, all, rowOf⟩ := exportPages_all table (Nat.le_max_right page 1)
  have exact' : ∀ row ∈ pages.flatten, codec.Exact (lineOf row) := by
    intro row held
    obtain ⟨stored, found, is⟩ := exportRow_eq_some (rowOf row held)
    refine exact_line fun at_ alarm => exact_ row.id stored at_ found ?_
    rw [is] at alarm
    exact alarm
  have u32 : ∀ row ∈ pages.flatten, row.record.version < 2 ^ 32 := by
    intro row held
    obtain ⟨stored, found, is⟩ := exportRow_eq_some (rowOf row held)
    rw [is]
    exact table.u32 row.id stored found
  have file : (codec.read (exportText codec exportedAt pages)).bind decodeFile =
      some { version := 1, exportedAt := some exportedAt, records := pages.flatten.map entryOf } := by
    rw [lawful.reads (exportText_spells lawful exportedAt exact'), Option.bind_some, decodeFile_fileDoc exportedAt u32]
  have imports (force : Bool) : importText codec setup force (exportText codec exportedAt pages) =
      importRecords setup force (pages.flatten.map entryOf) := by
    simp [importText, file]
  have distinct := entries_distinct table rowOf ordered
  refine ⟨pages, fun fuel more => by rw [exportTunnels, read fuel more, Option.map_some], ordered, all, rowOf, ?_⟩
  intro t force w quiet empty
  have fits (entry : ExportedRecord) (_ : entry ∈ pages.flatten.map entryOf) (record : StoredTunnel)
      (_ : Passes setup entry record) : w.db.Fits record := by
    intro row found
    rw [empty] at found
    cases found
  rw [imports]
  refine ⟨importRecords_returns distinct quiet fits, ?_⟩
  refine Prog.keeps_mono (importRecords_loads distinct quiet fits) ?_
  intro result w' loads ids is
  subst is
  refine ⟨loads_restores table all rowOf empty loads, fun force' => ?_⟩
  have fits' (entry : ExportedRecord) (held : entry ∈ pages.flatten.map entryOf) (record : StoredTunnel)
      (passes : Passes setup entry record) : w'.db.Fits record := by
    obtain ⟨exported, listed, rfl⟩ := List.mem_map.mp held
    obtain ⟨rfl, _⟩ := passes_entryOf.mp passes
    exact loads_fits table rowOf empty loads listed
  rw [imports]
  refine Prog.keeps_mono (importRecords_loads distinct loads.quiet fits') ?_
  intro result w'' again id
  rcases again.rows id with same | ⟨missing, entry, held, record, passes, is, _⟩
  · exact same
  · have there := loads.all ids rfl entry held record passes
    rw [is, missing] at there
    cases there

/-- Tunnel `a` with a renewal under way. -/
def renewingTunnel : StoredTunnel :=
  { Sample.tunnel "2027-04-15T08:00:00.000Z" with renewal := some ⟨"cert_2", "2027-01-15T09:00:00.000Z"⟩ }

def deletedTunnel : StoredTunnel :=
  { Sample.newTunnel with
    id := "b", hostname := "b.opentunnel.test", deletedAt := some "2027-01-15T08:01:00.000Z" }

/-- A table with both, each with an alarm. -/
def sampleSource : Db :=
  ((Sample.db []).putRow "a" (Db.savedRow renewingTunnel 3 (some 1800000060000))).putRow "b"
    (Db.savedRow deletedTunnel 2 (some 7))

theorem sampleSource_a : sampleSource.row "a" = some (Db.savedRow renewingTunnel 3 (some 1800000060000)) := by
  simp [sampleSource]

theorem sampleSource_row {id : TunnelId} {row : Row} (found : sampleSource.row id = some row) :
    id = "a" ∧ row = Db.savedRow renewingTunnel 3 (some 1800000060000) ∨
      id = "b" ∧ row = Db.savedRow deletedTunnel 2 (some 7) := by
  simp only [sampleSource, Db.row_putRow] at found
  split at found
  · exact Or.inr ⟨‹_›, (Option.some.inj found).symm⟩
  · split at found
    · exact Or.inl ⟨‹_›, (Option.some.inj found).symm⟩
    · cases found

theorem sampleSource_exportable : Exportable sampleSource where
  keyed := by
    intro id row found
    rcases sampleSource_row found with ⟨rfl, rfl⟩ | ⟨rfl, rfl⟩ <;> rfl
  named := by
    rw [sampleSource, Db.row_putRow, Db.row_putRow, if_neg (by decide), if_neg (by decide)]
    rfl
  derived := by
    intro id row found
    rcases sampleSource_row found with ⟨rfl, rfl⟩ | ⟨rfl, rfl⟩ <;> rfl
  u32 := by
    intro id row found
    rcases sampleSource_row found with ⟨rfl, rfl⟩ | ⟨rfl, rfl⟩ <;> decide

/-- The sample is exported, a tunnel to a page, and imported. -/
theorem export_restores_sample : ∃ text,
    exportTunnels textCodec "2027-01-15T09:00:00.000Z" sampleSource 0 3 = some text ∧
    Prog.Reaches (Alone (Sample.setup false) ⟨"m", 0⟩) (importText textCodec (Sample.setup false) false text).run
      (fun _ w' => ∃ row, w'.db.row "a" = some row ∧ row.record = renewingTunnel ∧ row.alarmAt = some 1800000060000)
      (Sample.world (Sample.db [])) := by
  have exact_ (id : TunnelId) (row : Row) (at_ : Nat) (_ : sampleSource.row id = some row)
      (_ : row.alarmAt = some at_) := textCodec_exact (asF64 at_)
  obtain ⟨pages, exports, _, _, _, imports⟩ := export_restores textCodec_lawful sampleSource_exportable exact_
    (Sample.setup false) "2027-01-15T09:00:00.000Z" 0
  have exported := exports 3 (by decide +kernel)
  have imported := imports ⟨"m", 0⟩ false (Sample.world (Sample.db [])) (fun _ => rfl) (fun _ => rfl)
  generalize exportText textCodec "2027-01-15T09:00:00.000Z" pages = text at exported imported
  refine ⟨text, exported, ?_⟩
  refine Prog.reaches_mono (Prog.reaches_and imported.1 imported.2) ?_
  intro result w' ⟨⟨ids, is⟩, restored⟩
  obtain ⟨row', found, record, _, _, alarm⟩ := (restored ids is).1.1 "a" _ sampleSource_a (by decide +kernel)
  refine ⟨row', found, record, alarm ?_⟩
  intro at_ is
  cases is
  decide

end Imports

end OpenTunnel
