/-
Module: OpenTunnel.Proofs.ProxyRoundTrip
Layer: Proofs
Purpose: The server reads back the PROXY header that the client library writes, whatever follows it, and waits for more on
  every part of it. A line has its line feed at its very end only, and its words without blanks; the bytes of the other
  form say how long it is.
Imports: OpenTunnel.Proofs.ProxyHeaders
Trusted boundary: none (fully proved)
Main exports: ProxyReader.parse_line, ProxyReader.parse_v2_of, header_read_back
Open obligations: none
-/
import OpenTunnel.Proofs.ProxyHeaders

namespace OpenTunnel

open Formats

/-! ### Plain words -/

/-- Without blanks, control characters and anything beyond ASCII. -/
def PlainText (text : List Char) : Prop := ∀ c ∈ text, 33 ≤ c.toNat ∧ c.toNat ≤ 126

instance (text : List Char) : Decidable (PlainText text) := List.decidableBAll _ text

/-- Digits are plain characters. -/
theorem digit_plain {radix : Nat} {c : Char} (digit : (toDigit radix c).isSome = true) : 33 ≤ c.toNat ∧ c.toNat ≤ 126 := by
  have value : (digitValue c).isSome = true := by
    cases is : digitValue c with
    | none => simp [toDigit, is] at digit
    | some n => rfl
  rw [digitValue_eq] at value
  split at value
  · omega
  · split at value
    · omega
    · split at value
      · omega
      · cases value

theorem plain_digits {radix : Nat} {text : List Char} (digits : Digits radix text) : PlainText text :=
  fun c held => digit_plain (digits c held)

theorem plain_intercalate {separator : Char} (plain : 33 ≤ separator.toNat ∧ separator.toNat ≤ 126)
    {parts : List (List Char)} (all : ∀ part ∈ parts, PlainText part) : PlainText ([separator].intercalate parts) := by
  induction parts with
  | nil =>
      intro c held
      cases held
  | cons part parts ih =>
      cases parts with
      | nil => simpa using all part List.mem_cons_self
      | cons next parts =>
          intro c held
          rw [List.intercalate_cons_cons] at held
          simp only [List.mem_append, List.mem_singleton] at held
          rcases held with (here | rfl) | later
          · exact all part List.mem_cons_self c here
          · exact plain
          · exact ih (fun part held => all part (List.mem_cons_of_mem _ held)) c later

/-- The texts of addresses are plain. -/
theorem plain_display_v4 (ip : Ipv4Addr) : PlainText ip.display := by
  refine plain_intercalate (by decide) ?_
  intro part held
  obtain ⟨octet, _, rfl⟩ := List.mem_map.mp held
  exact plain_digits (decimal_octet octet).digits

theorem plain_subslice (chunk : List UInt16) : PlainText (fmtSubslice chunk) := by
  refine plain_intercalate (by decide) ?_
  intro part held
  obtain ⟨segment, _, rfl⟩ := List.mem_map.mp held
  exact plain_digits (hex_group segment).digits

theorem plain_append {front back : List Char} (one : PlainText front) (other : PlainText back) :
    PlainText (front ++ back) := by
  intro c held
  rcases List.mem_append.mp held with here | there
  · exact one c here
  · exact other c there

/-- Plain words joined by spaces. -/
theorem joined_chars {words : List (List Char)} (each : ∀ word ∈ words, PlainText word) :
    ∀ c ∈ [' '].intercalate words, 32 ≤ c.toNat ∧ c.toNat ≤ 126 := by
  induction words with
  | nil =>
      intro c held
      cases held
  | cons word words ih =>
      have own := each word List.mem_cons_self
      cases words with
      | nil =>
          intro c held
          have bounds := own c (by simpa using held)
          omega
      | cons next words =>
          intro c held
          rw [List.intercalate_cons_cons] at held
          simp only [List.mem_append, List.mem_singleton] at held
          rcases held with (here | rfl) | later
          · have bounds := own c here
            omega
          · decide
          · exact ih (fun word held => each word (List.mem_cons_of_mem _ held)) c later

theorem plain_display_v6 (ip : Ipv6Addr) : PlainText ip.display := by
  unfold Ipv6Addr.display
  split
  · exact plain_append (by decide) (plain_display_v4 _)
  · dsimp only
    split
    · exact plain_append (plain_append (plain_subslice _) (by decide)) (plain_subslice _)
    · exact plain_subslice _

/-- ASCII is written as its codes. -/
theorem utf8_ascii {text : List Char} (ascii : ∀ c ∈ text, c.toNat ≤ 127) :
    utf8 text = text.map fun c => UInt8.ofNat c.toNat := by
  induction text with
  | nil => rfl
  | cons c text ih =>
      have one : String.utf8EncodeChar c = [UInt8.ofNat c.toNat] := by
        unfold String.utf8EncodeChar
        exact if_pos (ascii c List.mem_cons_self)
      rw [utf8_cons, one, ih (fun c held => ascii c (List.mem_cons_of_mem _ held))]
      rfl

namespace ProxyReader

/-! ### Lines -/

/-- The parts of what is written first are the same, wherever it is cut. -/
theorem front_same {data back front more : List UInt8} (is : data ++ back = front ++ more) :
    data.take (min data.length front.length) = front.take (min data.length front.length) := by
  have taken := congrArg (List.take (min data.length front.length)) is
  rwa [List.take_append_of_le_length (Nat.min_le_left _ _), List.take_append_of_le_length (Nat.min_le_right _ _)] at taken

/-- A line of plain words. -/
structure Line (words : List (List Char)) : Prop where
  first : ∃ second rest, words = "PROXY".toList :: second :: rest
  plain : ∀ word ∈ words, PlainText word
  short : ([' '].intercalate words).length + 2 ≤ v1Max

variable {words : List (List Char)}

theorem Line.chars (line : Line words) : ∀ c ∈ [' '].intercalate words, 32 ≤ c.toNat ∧ c.toNat ≤ 126 :=
  joined_chars line.plain

/-- The bytes of a line are no line feeds and no carriage returns. -/
theorem Line.bytes (line : Line words) {byte : UInt8} (held : byte ∈ utf8 ([' '].intercalate words)) :
    32 ≤ byte.toNat ∧ byte.toNat ≤ 126 := by
  have chars := line.chars
  rw [utf8_ascii (fun c held => by have := chars c held; omega)] at held
  obtain ⟨c, of, rfl⟩ := List.mem_map.mp held
  have range := chars c of
  rw [byte_toNat (by omega)]
  exact range

theorem Line.length (line : Line words) : (utf8 ([' '].intercalate words)).length = ([' '].intercalate words).length := by
  have chars := line.chars
  rw [utf8_ascii (fun c held => by have := chars c held; omega), List.length_map]

/-- A line is split into its words. -/
theorem Line.split (line : Line words) : ([' '].intercalate words).splitOn ' ' = words := by
  refine List.splitOn_intercalate ' ' ?_ ?_
  · intro word held blank
    have plain := line.plain word held ' ' blank
    revert plain
    decide
  · obtain ⟨second, rest, is⟩ := line.first
    rw [is]
    exact List.cons_ne_nil _ _

theorem Line.front (line : Line words) : ∃ more, utf8 ([' '].intercalate words) = utf8 "PROXY ".toList ++ more := by
  obtain ⟨second, rest, rfl⟩ := line.first
  refine ⟨utf8 ([' '].intercalate (second :: rest)), ?_⟩
  rw [List.intercalate_cons_cons, utf8_append]
  rfl

/-- The whole line with its end. -/
def lineBytes (words : List (List Char)) : List UInt8 := utf8 ([' '].intercalate words) ++ [0x0d, 0x0a]

/-- What begins like a line goes through `parse_v1`. -/
theorem parse_v1_of {data back : List UInt8} {words : List (List Char)} (line : Line words)
    (is : ∃ more, data ++ back = lineBytes words ++ more) (some_ : data ≠ []) :
    parse data = match indexOf [0x0d, 0x0a] data with
      | none => if data.length ≥ v1Max then .invalid else .incomplete
      | some stop =>
          match fromUtf8 (data.take stop) with
          | none => .invalid
          | some line => parseWords (stop + 2) (line.splitOn ' ') := by
  obtain ⟨more, is⟩ := is
  obtain ⟨behind, front⟩ := line.front
  have whole : data ++ back = utf8 "PROXY ".toList ++ (behind ++ [0x0d, 0x0a] ++ more) := by
    rw [is, lineBytes, front]
    simp
  cases data with
  | nil => exact absurd rfl some_
  | cons first data =>
      have letter : first = 0x50 := by
        have heads := congrArg List.head? whole
        exact Option.some.inj heads
      have same := front_same whole
      have six : (utf8 "PROXY ".toList).length = 6 := by decide
      rw [six] at same
      subst letter
      have v1 : parse (0x50 :: data) = parseV1 (0x50 :: data) := rfl
      rw [v1, parseV1]
      exact if_neg (fun differs => differs same)

theorem lineBytes_length (words : List (List Char)) : (lineBytes words).length = (utf8 ([' '].intercalate words)).length + 2 := by
  rw [lineBytes, List.length_append]
  rfl

/-- A line is read up to its line feed, whatever follows it. -/
theorem parse_line (line : Line words) (rest : List UInt8) :
    parse (lineBytes words ++ rest) = parseWords (lineBytes words).length words := by
  have clear : (0x0d : UInt8) ∉ utf8 ([' '].intercalate words) := by
    intro held
    have range := line.bytes held
    revert range
    decide
  have found : indexOf [0x0d, 0x0a] (lineBytes words ++ rest) = some (utf8 ([' '].intercalate words)).length := by
    rw [lineBytes, List.append_assoc]
    exact indexOf_front clear rest
  have some_ : lineBytes words ++ rest ≠ [] := by
    rw [lineBytes]
    simp
  have front : (lineBytes words ++ rest).take (utf8 ([' '].intercalate words)).length = utf8 ([' '].intercalate words) := by
    rw [lineBytes, List.append_assoc, List.take_left]
  rw [parse_v1_of line ⟨rest, List.append_nil _⟩ some_, found]
  dsimp only
  rw [front, fromUtf8_utf8]
  dsimp only
  rw [line.split, lineBytes_length words]

/-- A part of a line is waited for. -/
theorem parse_line_part (line : Line words) {front back : List UInt8} (is : front ++ back = lineBytes words)
    (more : back ≠ []) : parse front = .incomplete := by
  cases front with
  | nil => rfl
  | cons first front =>
      have same : first :: front = (utf8 ([' '].intercalate words) ++ [0x0d]).take (first :: front).length := by
        have size := congrArg List.length is
        have some_ := List.length_pos_iff.mpr more
        rw [lineBytes_length words, List.length_append] at size
        have shape : lineBytes words = utf8 ([' '].intercalate words) ++ [0x0d] ++ [0x0a] := by
          rw [lineBytes, List.append_assoc]
          rfl
        have taken := congrArg (List.take (first :: front).length) (is.trans shape)
        rwa [List.take_left, List.take_append_of_le_length (by rw [List.length_append, List.length_singleton]; omega)]
          at taken
      have clear : (0x0a : UInt8) ∉ first :: front := by
        intro held
        rw [same] at held
        rcases List.mem_append.mp (List.mem_of_mem_take held) with inside | last
        · have range := line.bytes inside
          revert range
          decide
        · revert last
          decide
      have short : ¬ (first :: front).length ≥ v1Max := by
        have size := congrArg List.length is
        have some_ := List.length_pos_iff.mpr more
        have limit := line.short
        rw [lineBytes_length words, line.length, List.length_append] at size
        omega
      rw [parse_v1_of line ⟨[], by rw [is, List.append_nil]⟩ (List.cons_ne_nil _ _), indexOf_none (by simp) clear]
      exact if_neg short

/-! ### The written line -/

/-- How long joined parts can be. -/
theorem length_intercalate {separator : Char} {parts : List (List Char)} {most : Nat}
    (short : ∀ part ∈ parts, part.length ≤ most) :
    ([separator].intercalate parts).length ≤ (most + 1) * parts.length := by
  induction parts with
  | nil => exact Nat.zero_le _
  | cons part parts ih =>
      have here := short part List.mem_cons_self
      have later := ih (fun part held => short part (List.mem_cons_of_mem _ held))
      rw [List.length_cons, Nat.mul_succ]
      cases parts with
      | nil =>
          rw [List.intercalate_singleton]
          omega
      | cons next parts =>
          rw [List.intercalate_cons_cons, List.length_append, List.length_append, List.length_singleton]
          omega

theorem length_subslice (chunk : List UInt16) : (fmtSubslice chunk).length ≤ 5 * chunk.length := by
  have each : ∀ part ∈ chunk.map (fun segment => Nat.toDigits 16 segment.toNat), part.length ≤ 4 := by
    intro part held
    obtain ⟨segment, _, rfl⟩ := List.mem_map.mp held
    exact (hex_group segment).short
  have bound : (fmtSubslice chunk).length ≤ (4 + 1) * _ := length_intercalate each
  rwa [List.length_map] at bound

theorem length_display_v4 (ip : Ipv4Addr) : ip.display.length ≤ 15 := (Ipv4Addr.display_text ip).chars.2

theorem length_display_v6 (ip : Ipv6Addr) : ip.display.length ≤ 42 := by
  unfold Ipv6Addr.display
  split
  · rename_i ipv4 mapped
    have four := length_display_v4 ipv4
    rw [List.length_append]
    exact Nat.le_trans (Nat.add_le_add_left four _) (by decide)
  · dsimp only
    split
    · have eight := ip.length
      generalize longestZeros 0 {} {} ip.segments = zeroes
      have head := length_subslice (ip.segments.take zeroes.start)
      have tail := length_subslice (ip.segments.drop (zeroes.start + zeroes.len))
      rw [List.length_take, eight] at head
      rw [List.length_drop, eight] at tail
      have two : "::".toList.length = 2 := by decide
      rw [List.length_append, List.length_append, two]
      omega
    · have all := length_subslice ip.segments
      rw [ip.length] at all
      omega

/-- The words of the line of `v1`. -/
def v1Words : Option SocketAddr → List (List Char)
  | some (.v4 ip port) =>
      ["PROXY".toList, "TCP4".toList, ip.display, Ipv4Addr.unspecified.display, decimal port.toNat,
        decimal Proxy.publicPort.toNat]
  | some (.v6 ip port _ _) =>
      ["PROXY".toList, "TCP6".toList, ip.display, Ipv6Addr.unspecified.display, decimal port.toNat,
        decimal Proxy.publicPort.toNat]
  | none => ["PROXY".toList, "UNKNOWN".toList]

theorem six_words {front blank first second : List Char} (is : front = first ++ ([' '] ++ (second ++ [' '])))
    (gap : blank = [' ']) (source target port publicPort : List Char) :
    front ++ source ++ blank ++ target ++ blank ++ port ++ blank ++ publicPort =
      [' '].intercalate [first, second, source, target, port, publicPort] := by
  subst is gap
  simp only [List.intercalate_cons_cons, List.intercalate_singleton, List.append_assoc]

theorem v1Line_words (source : Option SocketAddr) :
    Proxy.v1Line source = [' '].intercalate (v1Words source) ++ "\r\n".toList := by
  have blank : " ".toList = [' '] := by decide
  have tcp4 : "PROXY TCP4 ".toList = "PROXY".toList ++ ([' '] ++ ("TCP4".toList ++ [' '])) := by decide
  have tcp6 : "PROXY TCP6 ".toList = "PROXY".toList ++ ([' '] ++ ("TCP6".toList ++ [' '])) := by decide
  match source with
  | none => rfl
  | some (.v4 ip port) => exact congrArg (· ++ "\r\n".toList) (six_words tcp4 blank ip.display _ _ _)
  | some (.v6 ip port _ _) => exact congrArg (· ++ "\r\n".toList) (six_words tcp6 blank ip.display _ _ _)

/-- The client library writes a line of these words. -/
theorem v1_words (source : Option SocketAddr) : Proxy.v1 source = lineBytes (v1Words source) := by
  rw [Proxy.v1, v1Line_words, utf8_append]
  rfl

theorem port_short (port : UInt16) : (decimal port.toNat).length ≤ 5 :=
  (Nat.length_toDigits_le_iff (by decide) (by decide)).mpr (Nat.lt_of_lt_of_le port.toNat_lt (by decide))

/-- Two addresses and two ports make a line that is not too long. -/
theorem line_of_addresses {kind address target : List Char} (four : kind.length = 4)
    (plain : PlainText kind ∧ PlainText address ∧ PlainText target) (short : address.length + target.length ≤ 44)
    (port : UInt16) :
    Line ["PROXY".toList, kind, address, target, decimal port.toNat, decimal Proxy.publicPort.toNat] := by
  refine { first := ⟨_, _, rfl⟩, plain := ?_, short := ?_ }
  · intro word held
    simp only [List.mem_cons, List.not_mem_nil, or_false] at held
    rcases held with rfl | rfl | rfl | rfl | rfl | rfl
    · decide
    · exact plain.1
    · exact plain.2.1
    · exact plain.2.2
    · exact plain_digits (digits_toDigits (by decide) (by decide) port.toNat)
    · decide
  · have number := port_short port
    have first : "PROXY".toList.length = 5 := by decide
    have last : (decimal Proxy.publicPort.toNat).length = 3 := by decide
    rw [v1Max]
    simp only [List.intercalate_cons_cons, List.intercalate_singleton, List.length_append, List.length_singleton]
    omega

/-- What the client library writes is a line. -/
theorem line_v1 (source : Option SocketAddr) : Line (v1Words source) := by
  match source with
  | none => exact { first := ⟨_, _, rfl⟩, plain := by decide, short := by decide }
  | some (.v4 ip port) =>
      have address := length_display_v4 ip
      have target := length_display_v4 Ipv4Addr.unspecified
      exact line_of_addresses (by decide) ⟨by decide, plain_display_v4 ip, plain_display_v4 _⟩ (by omega) port
  | some (.v6 ip port _ _) =>
      have address := length_display_v6 ip
      have target : Ipv6Addr.unspecified.display.length = 2 := congrArg List.length unspecified_v6
      exact line_of_addresses (by decide) ⟨by decide, plain_display_v6 ip, plain_display_v6 _⟩ (by omega) port

/-- A source that keeps nothing but its address, not a mapped one, and its port. -/
def Simple : Option SocketAddr → Prop
  | some (.v6 ip _ flowinfo scopeId) => ip.toIpv4Mapped = none ∧ flowinfo = 0 ∧ scopeId = 0
  | _ => True

/-- A visitor that was parsed has no flow and no scope. -/
theorem simple_parsePeer (peer : List Char) : Simple (Proxy.parsePeer peer) := by
  cases parsed : Proxy.parsePeer peer with
  | none => trivial
  | some source =>
      cases source with
      | v4 ip port => trivial
      | v6 ip port flowinfo scopeId => exact parsePeer_own parsed

theorem parseU16_decimal (port : UInt16) : parseU16 (decimal port.toNat) = some port.toNat := by
  have some_ : decimal port.toNat ≠ [] := by
    intro none_
    exact absurd (congrArg List.length none_) (Nat.ne_of_gt Nat.length_toDigits_pos)
  have digits : Digits 10 (decimal port.toNat) := digits_toDigits (by decide) (by decide) port.toNat
  have value : numeral 10 (decimal port.toNat) = port.toNat := numeral_toDigits (by decide) (by decide) port.toNat
  rw [parseU16_digits some_ digits, value]
  exact if_pos port.toNat_lt

/-- The words of two addresses are read as the first of them. -/
theorem parseWords_addresses {kind address target publicPort : List Char} {ip : IpAddr}
    (known : kind = "TCP4".toList ∨ kind = "TCP6".toList) (read : IpAddr.parse address = some ip) (port : UInt16)
    (length : Nat) :
    parseWords length ["PROXY".toList, kind, address, target, decimal port.toNat, publicPort] =
      .complete length (some (.new ip port)) := by
  have other : ¬ ("PROXY".toList = "PROXY".toList ∧ kind = "UNKNOWN".toList) := by
    rcases known with rfl | rfl
    · decide
    · decide
  rw [parseWords, if_neg other, if_pos ⟨rfl, known⟩]
  rw [read, parseU16_decimal]
  exact congrArg (fun port => Header.complete length (some (.new ip port))) UInt16.ofNat_toNat

/-- The words the client library writes are read as the visitor. -/
theorem parseWords_v1 {source : Option SocketAddr} (simple : Simple source) (length : Nat) :
    parseWords length (v1Words source) = .complete length source := by
  match source, simple with
  | none, _ => rfl
  | some (.v4 ip port), _ =>
      exact parseWords_addresses (.inl rfl) (IpAddr.parse_v4_iff.mpr (Ipv4Addr.display_text ip)) port length
  | some (.v6 ip port flowinfo scopeId), simple =>
      obtain ⟨own, rfl, rfl⟩ := simple
      exact parseWords_addresses (.inr rfl) (IpAddr.parse_v6_iff.mpr (Ipv6Addr.display_text own)) port length

/-! ### Bytes -/

/-- What is written in front of a body. -/
def v2Front (command family : UInt8) (length : Nat) : List UInt8 :=
  Proxy.v2Signature ++ [command, family] ++ toBeBytes (UInt16.ofNat length)

/-- The length in front of a body is read back. -/
theorem be_length {length : Nat} (fits : length < 2 ^ 16) :
    (fromBeBytes (UInt8.ofNat ((UInt16.ofNat length).toNat / 256)) (UInt8.ofNat ((UInt16.ofNat length).toNat % 256))).toNat =
      length := by
  rw [fromBeBytes_toBeBytes]
  exact UInt16.toNat_ofNat_of_lt' fits

/-- The bytes in front say how long the body is, which is waited for and then read. -/
theorem parse_v2_of {command family : UInt8} {length : Nat} (version : command.toNat >>> 4 = 2) (fits : length < 2 ^ 16)
    (behind : List UInt8) : parse (v2Front command family length ++ behind) =
      if behind.length < length then .incomplete
      else readBody (16 + length) (command.toNat &&& 0x0f) (family.toNat >>> 4) (behind.take length) := by
  have size : (v2Front command family length ++ behind).length = 16 + behind.length := by
    rw [List.length_append]
    rfl
  have front : min (v2Front command family length ++ behind).length 12 = 12 := by omega
  have taken : ((v2Front command family length ++ behind).take (16 + length)).drop 16 = behind.take length := by
    rw [Nat.add_comm]
    rfl
  have first : (v2Front command family length ++ behind).getD 12 0 = command := rfl
  have second : (v2Front command family length ++ behind).getD 13 0 = family := rfl
  have said : (fromBeBytes ((v2Front command family length ++ behind).getD 14 0)
      ((v2Front command family length ++ behind).getD 15 0)).toNat = length := be_length fits
  have same : ¬ (v2Front command family length ++ behind).take 12 ≠ Proxy.v2Signature.take 12 :=
    fun differs => differs rfl
  have spelled : parse (v2Front command family length ++ behind) = parseV2 (v2Front command family length ++ behind) := rfl
  rw [spelled, parseV2]
  dsimp only
  rw [front, if_neg same, if_neg (by omega), first, second, said, if_neg (fun other => other version), taken, size]
  by_cases short : behind.length < length
  · rw [if_pos short, if_pos (by omega)]
  · rw [if_neg short, if_neg (by omega)]

/-- A part of the other form is waited for. -/
theorem parse_v2_part {command family : UInt8} {body : List UInt8} (version : command.toNat >>> 4 = 2)
    (fits : body.length < 2 ^ 16) {front back : List UInt8} (is : front ++ back = v2Front command family body.length ++ body)
    (more : back ≠ []) : parse front = .incomplete := by
  by_cases short : front.length < 16
  · cases front with
    | nil => rfl
    | cons first front =>
        have letter : first = 0x0d := by
          have heads := congrArg List.head? is
          exact Option.some.inj heads
        subst letter
        have signature : (0x0d :: front) ++ back = Proxy.v2Signature ++
            ([command, family] ++ (toBeBytes (UInt16.ofNat body.length) ++ body)) := by
          rw [is, v2Front]
          simp only [List.append_assoc]
        have same := front_same signature
        have spelled : parse (0x0d :: front) = parseV2 (0x0d :: front) := rfl
        rw [spelled, parseV2]
        dsimp only
        rw [if_neg (fun differs => differs same), if_pos short]
  · have sixteen : (v2Front command family body.length).length = 16 := rfl
    obtain ⟨behind, rfl, parts⟩ : ∃ behind, front = v2Front command family body.length ++ behind ∧ behind ++ back = body := by
      refine ⟨front.drop 16, ?_, ?_⟩
      · have taken := congrArg (List.take 16) is
        rw [List.take_append_of_le_length (by omega), List.take_append_of_le_length (by omega),
          List.take_of_length_le (by omega : (v2Front command family body.length).length ≤ 16)] at taken
        rw [← taken, List.take_append_drop]
      · have dropped := congrArg (List.drop 16) is
        rwa [List.drop_append_of_le_length (by omega), List.drop_append_of_le_length (by omega),
          List.drop_of_length_le (by omega : (v2Front command family body.length).length ≤ 16), List.nil_append] at dropped
    have size := congrArg List.length parts
    have some_ := List.length_pos_iff.mpr more
    rw [List.length_append] at size
    rw [parse_v2_of version fits]
    exact if_pos (by omega)

/-- The body of `v2`. -/
def v2Body (source : Option SocketAddr) (sni : List Char) : List UInt8 := Proxy.v2Addresses source ++ Proxy.v2Authority sni

/-- The body is short enough for its length field. -/
theorem v2Body_fits (source : Option SocketAddr) (sni : List Char) : (v2Body source sni).length < 2 ^ 16 := by
  have authority := authority_small sni
  have addresses : (Proxy.v2Addresses source).length ≤ 36 := by
    match source with
    | none => decide
    | some (.v4 ip port) =>
        have twelve : (Proxy.v2Addresses (some (.v4 ip port))).length = 12 := rfl
        omega
    | some (.v6 ip port _ _) =>
        have six := octets_length ip
        have unspecified := octets_length Ipv6Addr.unspecified
        have two : ∀ n, (toBeBytes n).length = 2 := fun _ => rfl
        simp only [Proxy.v2Addresses, List.length_append, two]
        omega
  rw [v2Body, List.length_append]
  omega

def v2Command : Option SocketAddr → UInt8
  | some _ => Proxy.v2Proxy
  | none => Proxy.v2Local

def v2Family : Option SocketAddr → UInt8
  | some (.v4 ..) => Proxy.v2Tcp4
  | some (.v6 ..) => Proxy.v2Tcp6
  | none => Proxy.v2Unspec

/-- The client library writes the bytes in front and the body. -/
theorem v2_front (source : Option SocketAddr) (sni : List Char) :
    Proxy.v2 source sni = v2Front (v2Command source) (v2Family source) (v2Body source sni).length ++ v2Body source sni := by
  match source with
  | none => rfl
  | some (.v4 ip port) => rfl
  | some (.v6 ip port _ _) => rfl

theorem v2_version (source : Option SocketAddr) : (v2Command source).toNat >>> 4 = 2 := by
  cases source with
  | none => decide
  | some source => exact (by decide : Proxy.v2Proxy.toNat >>> 4 = 2)

/-- Addresses of the old protocol are read back. -/
theorem readBody_v4 (ip : Ipv4Addr) (port : UInt16) {behind : List UInt8} (two : behind.length ≥ 2) (total : Nat) :
    readBody total 1 1 (ip.octets ++ Ipv4Addr.unspecified.octets ++ toBeBytes port ++ behind) =
      .complete total (some (.v4 ip port)) := by
  have enough : (ip.octets ++ Ipv4Addr.unspecified.octets ++ toBeBytes port ++ behind).length ≥ 12 := by
    rw [List.length_append]
    exact Nat.add_le_add_left two 10
  rw [readBody, if_pos enough]
  exact congrArg (fun port => Header.complete total (some (.v4 ip port))) (fromBeBytes_toBeBytes port)

/-- Addresses of the new protocol are read back. -/
theorem readBody_v6 (ip : Ipv6Addr) (port : UInt16) {behind : List UInt8} (two : behind.length ≥ 2) (total : Nat) :
    readBody total 1 2 (ip.octets ++ Ipv6Addr.unspecified.octets ++ toBeBytes port ++ behind) =
      .complete total (some (.v6 ip port 0 0)) := by
  obtain ⟨segments, eight⟩ := ip
  match segments, eight with
  | [a, b, c, d, e, f, g, h], eight =>
      generalize is : Ipv6Addr.octets ⟨[a, b, c, d, e, f, g, h], eight⟩ ++ Ipv6Addr.unspecified.octets ++ toBeBytes port ++
        behind = body
      have enough : body.length ≥ 36 := by
        rw [← is, List.length_append]
        exact Nat.add_le_add_left two 34
      have segments : ((List.range 8).map fun i => fromBeBytes (body.getD (2 * i) 0) (body.getD (2 * i + 1) 0)) =
          [a, b, c, d, e, f, g, h] := by
        have each := fromBeBytes_toBeBytes
        subst is
        simp [List.range_succ, Ipv6Addr.octets, toBeBytes, each]
      have number : fromBeBytes (body.getD 32 0) (body.getD 33 0) = port := by
        subst is
        exact fromBeBytes_toBeBytes port
      rw [readBody, if_pos enough]
      dsimp only
      rw [segments, number, Ipv6Addr.ofGroups, dif_pos eight]
      rfl

/-- The body the client library writes is read as the visitor. -/
theorem readBody_v2 {source : Option SocketAddr} (simple : Simple source) (sni : List Char) (total : Nat) :
    readBody total ((v2Command source).toNat &&& 0x0f) ((v2Family source).toNat >>> 4) (v2Body source sni) =
      .complete total source := by
  have two : (toBeBytes Proxy.publicPort ++ Proxy.v2Authority sni).length ≥ 2 := by
    rw [List.length_append]
    exact Nat.le_add_right 2 _
  have command : Proxy.v2Proxy.toNat &&& 0x0f = 1 := by decide
  match source, simple with
  | none, _ => rfl
  | some (.v4 ip port), _ =>
      have family : Proxy.v2Tcp4.toNat >>> 4 = 1 := by decide
      rw [v2Body, Proxy.v2Addresses, List.append_assoc _ (toBeBytes Proxy.publicPort), v2Command, v2Family, command, family]
      exact readBody_v4 ip port two total
  | some (.v6 ip port flowinfo scopeId), simple =>
      have family : Proxy.v2Tcp6.toNat >>> 4 = 2 := by decide
      obtain ⟨own, rfl, rfl⟩ := simple
      rw [v2Body, Proxy.v2Addresses, List.append_assoc _ (toBeBytes Proxy.publicPort), v2Command, v2Family, command, family]
      exact readBody_v6 ip port two total

end ProxyReader

/-! ### Headers -/

/-- The server reads the header of the client library back as the visitor it was written for, with exactly its length,
    whatever follows it, and waits for more on every part of it. -/
theorem header_read_back (version : ProxyProtocol) (peer sni : List Char) (rest : List UInt8) :
    ProxyReader.parse (Proxy.header version peer sni ++ rest) =
        .complete (Proxy.header version peer sni).length (Proxy.parsePeer peer) ∧
      ∀ front back, front ++ back = Proxy.header version peer sni → back ≠ [] →
        ProxyReader.parse front = .incomplete := by
  have simple := ProxyReader.simple_parsePeer peer
  generalize is : Proxy.parsePeer peer = source at simple
  cases version with
  | v1 =>
      have line := ProxyReader.line_v1 source
      rw [Proxy.header, is, ProxyReader.v1_words]
      constructor
      · rw [ProxyReader.parse_line line, ProxyReader.parseWords_v1 simple]
      · intro front back parts more
        exact ProxyReader.parse_line_part line parts more
  | v2 =>
      have fits := ProxyReader.v2Body_fits source sni
      have version := ProxyReader.v2_version source
      rw [Proxy.header, is, ProxyReader.v2_front]
      constructor
      · rw [List.append_assoc, ProxyReader.parse_v2_of version fits, if_neg (by simp), List.take_left,
          ProxyReader.readBody_v2 simple, List.length_append]
        rfl
      · intro front back parts more
        exact ProxyReader.parse_v2_part version fits parts more

theorem header_read_back_sample :
    Proxy.header .v1 "[::1]:80".toList [] = utf8 "PROXY TCP6 ::1 :: 80 443\r\n".toList ∧
      ProxyReader.parse (Proxy.header .v1 "[::1]:80".toList [] ++ [0x16]) =
        .complete 26 (some (.v6 ⟨[0, 0, 0, 0, 0, 0, 0, 1], rfl⟩ 80 0 0)) ∧
      ProxyReader.parse (utf8 "PROXY TCP6 ::1 :: 80 443\r".toList) = .incomplete := by
  have written : Proxy.header .v1 "[::1]:80".toList [] = utf8 "PROXY TCP6 ::1 :: 80 443\r\n".toList := by
    decide +kernel
  have parsed : Proxy.parsePeer "[::1]:80".toList = some (.v6 ⟨[0, 0, 0, 0, 0, 0, 0, 1], rfl⟩ 80 0 0) := by
    decide +kernel
  have back := header_read_back .v1 "[::1]:80".toList [] [0x16]
  have size : (Proxy.header .v1 "[::1]:80".toList []).length = 26 := by
    rw [written]
    decide +kernel
  rw [size, parsed] at back
  exact ⟨written, back.1, back.2 _ [0x0a] (by rw [written]; decide +kernel) (by decide)⟩

end OpenTunnel
