/-
Module: OpenTunnel.Proofs.Accept
Layer: Proofs
Purpose: Accepting a connection does not depend on how its bytes are split into reads. A part of the stream is not a PROXY
  header yet until it holds the whole of it, and then it is the same one; so the reads go on until the header is there,
  and then until the ClientHello is.
Imports: OpenTunnel.Model.Accept, OpenTunnel.Proofs.HelloRecords, OpenTunnel.Proofs.ProxyRoundTrip
Trusted boundary: none (fully proved)
Main exports: ProxyReader.parse_part, Accept.acceptHeader_reads, Accept.acceptHello_reads, Accept.accept_segmentation
Open obligations: none
-/
import OpenTunnel.Model.Accept
import OpenTunnel.Proofs.HelloRecords
import OpenTunnel.Proofs.ProxyRoundTrip

namespace OpenTunnel

open Formats

namespace ProxyReader

/-! ### Parts of a header -/

/-- How long a header may be: the line, or the bytes of the other form. -/
def headerLimit (stream : List UInt8) : Nat := if stream.head? = some 0x50 then v1Max else 536

theorem parseWords_length {words : List (List Char)} {length length' : Nat} {source : Option SocketAddr}
    (parsed : parseWords length words = .complete length' source) : length' = length := by
  unfold parseWords at parsed
  split at parsed
  · split at parsed
    · cases parsed
      rfl
    · split at parsed
      · split at parsed
        · split at parsed
          · cases parsed
            rfl
          · cases parsed
        · cases parsed
      · cases parsed
  · cases parsed

/-- What a line that is read says of its bytes. -/
structure LineRead (stream : List UInt8) (length : Nat) (source : Option SocketAddr) : Prop where
  front : stream.take (min stream.length 6) = (utf8 "PROXY ".toList).take (min stream.length 6)
  stops : ∃ stop line, indexOf [0x0d, 0x0a] stream = some stop ∧ length = stop + 2 ∧
    fromUtf8 (stream.take stop) = some line ∧ parseWords length (line.splitOn ' ') = .complete length source

theorem parseV1_read {stream : List UInt8} {length : Nat} {source : Option SocketAddr}
    (parsed : parseV1 stream = .complete length source) : LineRead stream length source := by
  unfold parseV1 at parsed
  dsimp only at parsed
  split at parsed
  · cases parsed
  · rename_i front
    split at parsed
    · split at parsed
      · cases parsed
      · cases parsed
    · rename_i stop found
      split at parsed
      · cases parsed
      · rename_i line text
        have size := parseWords_length parsed
        subst size
        exact ⟨Decidable.not_not.mp front, stop, line, found, rfl, text, parsed⟩

theorem parseV1_part {data rest : List UInt8} {length : Nat} {source : Option SocketAddr}
    (read : LineRead (data ++ rest) length source) (short : length ≤ v1Max) :
    parseV1 data = if data.length < length then .incomplete else .complete length source := by
  obtain ⟨front, stop, line, found, rfl, text, words⟩ := read
  have begins : data.take (min data.length 6) = (utf8 "PROXY ".toList).take (min data.length 6) := by
    have cut := congrArg (List.take (min data.length 6)) front
    have least : min (min data.length 6) (min (data ++ rest).length 6) = min data.length 6 := by
      rw [List.length_append]
      omega
    rw [List.take_take, List.take_take, least] at cut
    rwa [List.take_append_of_le_length (Nat.min_le_left _ _)] at cut
  rw [parseV1]
  refine (if_neg (fun differs => differs begins)).trans ?_
  by_cases part : data.length < stop + 2
  · have none_ : indexOf [0x0d, 0x0a] data = none := by
      cases early : indexOf [0x0d, 0x0a] data with
      | none => rfl
      | some index =>
          have inside := indexOf_inside early
          have same := (indexOf_append inside rest).mpr early
          rw [found] at same
          cases same
          exact absurd part (Nat.not_lt.mpr inside)
    rw [none_, if_pos part]
    exact if_neg (by omega)
  · have here := (indexOf_append (Nat.not_lt.mp part) rest).mp found
    rw [List.take_append_of_le_length (by omega)] at text
    rw [here, if_neg part]
    dsimp only
    rw [text]
    exact words

theorem readBody_length {total total' command family : Nat} {body : List UInt8} {source : Option SocketAddr}
    (read : readBody total command family body = .complete total' source) : total' = total := by
  unfold readBody at read
  split at read
  · cases read
    rfl
  · split at read
    · cases read
      rfl
    · cases read
      rfl
  · split at read
    · cases read
      rfl
    · cases read
      rfl
  · cases read
    rfl
  · cases read

/-- The bytes in front of a body that is read. -/
theorem parseV2_read {stream : List UInt8} {length : Nat} {source : Option SocketAddr}
    (parsed : parseV2 stream = .complete length source) :
    ∃ command family size behind, stream = v2Front command family size ++ behind ∧ command.toNat >>> 4 = 2 ∧ size < 2 ^ 16 := by
  unfold parseV2 at parsed
  dsimp only at parsed
  split at parsed
  · cases parsed
  · rename_i front
    split at parsed
    · cases parsed
    · rename_i long
      split at parsed
      · cases parsed
      · rename_i version
        have twelve : min stream.length 12 = 12 := by omega
        rw [twelve] at front
        have signature : stream.take 12 = Proxy.v2Signature := Decidable.not_not.mp front
        obtain ⟨command, family, high, low, behind, is⟩ : ∃ a b c d behind, stream.drop 12 = a :: b :: c :: d :: behind := by
          match shape : stream.drop 12 with
          | a :: b :: c :: d :: behind => exact ⟨a, b, c, d, behind, rfl⟩
          | [] | [_] | [_, _] | [_, _, _] =>
              have size := congrArg List.length shape
              rw [List.length_drop] at size
              simp only [List.length_nil, List.length_cons] at size
              omega
        have whole : stream = Proxy.v2Signature ++ (command :: family :: high :: low :: behind) := by
          rw [← signature, ← is, List.take_append_drop]
        have size : toBeBytes (UInt16.ofNat (high.toNat * 256 + low.toNat)) = [high, low] := by
          have highSmall := high.toNat_lt
          have lowSmall := low.toNat_lt
          have value : (UInt16.ofNat (high.toNat * 256 + low.toNat)).toNat = high.toNat * 256 + low.toNat :=
            UInt16.toNat_ofNat_of_lt' (show _ < 65536 by omega)
          have first : (high.toNat * 256 + low.toNat) / 256 = high.toNat := by omega
          have second : (high.toNat * 256 + low.toNat) % 256 = low.toNat := by omega
          rw [toBeBytes, value, first, second, UInt8.ofNat_toNat, UInt8.ofNat_toNat]
        have kind : stream.getD 12 0 = command := by
          rw [whole]
          rfl
        refine ⟨command, family, high.toNat * 256 + low.toNat, behind, ?_, ?_, ?_⟩
        · rw [v2Front, size, whole]
          rfl
        · rw [kind] at version
          exact Decidable.not_not.mp version
        · have highSmall := high.toNat_lt
          have lowSmall := low.toNat_lt
          omega

/-- What the other form that is read says of its bytes. -/
structure BytesRead (stream : List UInt8) (length : Nat) (source : Option SocketAddr) (command family : UInt8)
    (body more : List UInt8) : Prop where
  whole : stream = v2Front command family body.length ++ body ++ more
  version : command.toNat >>> 4 = 2
  fits : body.length < 2 ^ 16
  size : length = 16 + body.length
  read : readBody length (command.toNat &&& 0x0f) (family.toNat >>> 4) body = .complete length source

theorem parseV2_body {stream : List UInt8} {length : Nat} {source : Option SocketAddr}
    (parsed : parseV2 stream = .complete length source) :
    ∃ command family body more, BytesRead stream length source command family body more := by
  obtain ⟨command, family, size, behind, is, version, fits⟩ := parseV2_read parsed
  have same : parse stream = parseV2 stream := by
    rw [is]
    rfl
  rw [← same, is, parse_v2_of version fits] at parsed
  split at parsed
  · cases parsed
  · rename_i enough
    have total := readBody_length parsed
    subst total
    have taken : (behind.take size).length = size := by
      rw [List.length_take]
      omega
    refine ⟨command, family, behind.take size, behind.drop size, ?_, version, ?_, ?_, parsed⟩
    · rw [taken, List.append_assoc, List.take_append_drop]
      exact is
    · rwa [taken]
    · rw [taken]

theorem parseV2_part {data rest : List UInt8} {length : Nat} {source : Option SocketAddr}
    (parsed : parseV2 (data ++ rest) = .complete length source) :
    parse data = if data.length < length then .incomplete else .complete length source := by
  obtain ⟨command, family, body, more, whole, version, fits, rfl, read⟩ := parseV2_body parsed
  have front : v2Front command family body.length ++ body <+: data ++ rest := ⟨more, whole.symm⟩
  have sized : (v2Front command family body.length ++ body).length = 16 + body.length := List.length_append
  by_cases part : data.length < 16 + body.length
  · rw [if_pos part]
    obtain ⟨back, parts⟩ := List.prefix_of_prefix_length_le (List.prefix_append data rest) front (by omega)
    refine parse_v2_part version fits parts ?_
    intro none_
    have all := congrArg List.length parts
    rw [none_, List.append_nil] at all
    omega
  · rw [if_neg part]
    obtain ⟨back, parts⟩ := List.prefix_of_prefix_length_le front (List.prefix_append data rest) (by omega)
    rw [← parts, List.append_assoc, parse_v2_of version fits, if_neg (by simp), List.take_left]
    exact read

theorem parse_inside {data : List UInt8} {length : Nat} {source : Option SocketAddr}
    (parsed : parse data = .complete length source) : 0 < length ∧ length ≤ data.length := by
  cases data with
  | nil => cases parsed
  | cons first data =>
      by_cases line : first = 0x50
      · subst line
        obtain ⟨_, stop, _, found, rfl, _⟩ := parseV1_read parsed
        exact ⟨by omega, indexOf_inside found⟩
      · by_cases bytes : first = 0x0d
        · subst bytes
          obtain ⟨command, family, body, more, whole, _, _, rfl, _⟩ := parseV2_body parsed
          have sized : (v2Front command family body.length ++ body).length = 16 + body.length := List.length_append
          have all := congrArg List.length whole
          rw [List.length_append, sized] at all
          exact ⟨by omega, by omega⟩
        · rw [parse, if_neg bytes, if_neg line] at parsed
          cases parsed

/-- A part of a stream with a header is a header once it holds all of it, and can become one before. -/
theorem parse_part {data rest : List UInt8} {length : Nat} {source : Option SocketAddr}
    (parsed : parse (data ++ rest) = .complete length source) (short : length ≤ headerLimit (data ++ rest)) :
    parse data = if data.length < length then .incomplete else .complete length source := by
  cases data with
  | nil => exact (if_pos (parse_inside parsed).1).symm
  | cons first data =>
      by_cases line : first = 0x50
      · subst line
        exact parseV1_part (parseV1_read parsed) short
      · by_cases bytes : first = 0x0d
        · subst bytes
          exact parseV2_part parsed
        · have invalid : parse (first :: data ++ rest) = .invalid := by
            rw [List.cons_append, parse, if_neg bytes, if_neg line]
          rw [invalid] at parsed
          cases parsed

theorem headerLimit_le (stream : List UInt8) : headerLimit stream ≤ 536 := by
  unfold headerLimit
  split
  · decide
  · exact Nat.le_refl _

end ProxyReader

namespace Accept

/-! ### The header -/

section Reads

variable {lower : List Char → List Char} {stream : List UInt8} {length : Nat} {source : Option SocketAddr}

theorem acceptHeader_reads (peer : SocketAddr) (parsed : ProxyReader.parse stream = .complete length source)
    (short : length ≤ ProxyReader.headerLimit stream) (reads : List (List UInt8)) (some_ : ∀ bytes ∈ reads, bytes ≠ [])
    {buffer : List UInt8} (whole : buffer ++ reads.flatten = stream) :
    ∃ buffer' reads', acceptHeader peer buffer reads = .ok (source.getD peer, length, buffer', reads') ∧
      length ≤ buffer'.length ∧ buffer' ++ reads'.flatten = stream ∧ ∀ bytes ∈ reads', bytes ≠ [] := by
  induction reads generalizing buffer with
  | nil =>
      rw [List.flatten_nil, List.append_nil] at whole
      subst whole
      refine ⟨buffer, [], ?_, (ProxyReader.parse_inside parsed).2, by simp, some_⟩
      rw [acceptHeader.eq_def, parsed]
  | cons bytes reads ih =>
      have part : ProxyReader.parse buffer = if buffer.length < length then .incomplete else .complete length source := by
        subst whole
        exact ProxyReader.parse_part parsed short
      by_cases missing : buffer.length < length
      · rw [if_pos missing] at part
        have limit := ProxyReader.headerLimit_le stream
        cases bytes with
        | nil => exact absurd rfl (some_ [] List.mem_cons_self)
        | cons byte bytes =>
            rw [acceptHeader.eq_def, part]
            dsimp only
            rw [if_neg (by omega)]
            refine ih (fun bytes held => some_ bytes (List.mem_cons_of_mem _ held)) ?_
            rw [← whole, List.flatten_cons, List.append_assoc]
      · rw [if_neg missing] at part
        refine ⟨buffer, bytes :: reads, ?_, Nat.not_lt.mp missing, whole, some_⟩
        rw [acceptHeader.eq_def, part]

/-! ### The hello -/

/-- The parser answers as a new one does, to all that begins with what it has seen. -/
def Agrees (lower : List Char → List Char) (parser : HelloParser) (data : List UInt8) : Prop :=
  ∀ more, scanAll (HelloParser.round lower) parser (data ++ more) = scanAll (HelloParser.round lower) {} (data ++ more)

theorem Agrees.later {parser parser' : HelloParser} {data : List UInt8} (agrees : Agrees lower parser data)
    (waits : parser.parse lower data = some (.incomplete, parser')) (bytes : List UInt8) :
    Agrees lower parser' (data ++ bytes) := by
  obtain ⟨found, scanned, is⟩ := Option.map_eq_some_iff.mp waits
  have none_ := (HelloParser.scanAll_incomplete lower scanned).mp (congrArg Prod.fst is)
  have same : found.2 = parser' := congrArg Prod.snd is
  obtain ⟨answer, parser''⟩ := found
  subst none_ same
  intro more
  rw [List.append_assoc, ← scanAll_resume (HelloParser.steady lower) scanned, agrees]

theorem Agrees.parse {parser : HelloParser} {data : List UInt8} (agrees : Agrees lower parser data) {hello : Hello}
    (plain : parseClientHello lower data = some hello) : ∃ parser', parser.parse lower data = some (hello, parser') := by
  have same := agrees []
  rw [List.append_nil] at same
  rw [parseClientHello_scan, ← same] at plain
  obtain ⟨found, scanned, rfl⟩ := Option.map_eq_some_iff.mp plain
  exact ⟨found.2, by rw [HelloParser.parse, scanned]; rfl⟩

/-- A part of the bytes is answered like the first of them that make a hello, or waited for while it is short. -/
theorem parse_part {rest data more : List UInt8} {sni alpn : List Char} (is : data ++ more = rest)
    (complete : parseClientHello lower (rest.take clientHelloLimit) = some (.complete sni alpn)) :
    parseClientHello lower data = some (.complete sni alpn) ∨
      parseClientHello lower data = some .incomplete ∧ data.length < clientHelloLimit ∧ more ≠ [] := by
  by_cases long : clientHelloLimit ≤ data.length
  · left
    have front : data = rest.take clientHelloLimit ++ data.drop clientHelloLimit := by
      rw [← is, List.take_append_of_le_length long, List.take_append_drop]
    rw [front]
    exact parseClientHello_stable complete nofun _
  · obtain ⟨found, parsed⟩ := HelloParser.parse_total lower {} data
    have plain : parseClientHello lower data = some found.1 := by
      rw [parseClientHello, parsed]
      rfl
    by_cases waits : found.1 = .incomplete
    · right
      rw [waits] at plain
      refine ⟨plain, Nat.not_le.mp long, ?_⟩
      intro none_
      rw [none_, List.append_nil] at is
      rw [← is, List.take_of_length_le (by omega), plain] at complete
      cases complete
    · left
      have front : rest.take clientHelloLimit = data ++ (rest.drop data.length).take (clientHelloLimit - data.length) := by
        rw [← is, List.take_append, List.drop_left, List.take_of_length_le (by omega)]
      rw [front, parseClientHello_stable plain waits] at complete
      rw [plain, complete]

theorem slice_rest {buffer : List UInt8} {start : Nat} (inside : start ≤ buffer.length) :
    slice buffer start buffer.length = some (buffer.drop start) := by
  rw [slice_inside inside (Nat.le_refl _), List.take_length]

theorem acceptHello_done (peer : SocketAddr) {start : Nat} {sni alpn : List Char} {parser : HelloParser}
    {buffer : List UInt8} (inside : start ≤ buffer.length) (agrees : Agrees lower parser (buffer.drop start))
    (plain : parseClientHello lower (buffer.drop start) = some (.complete sni alpn)) (reads : List (List UInt8)) :
    acceptHello lower peer start parser buffer reads =
      some (.ok { peer := peer, initial := buffer.drop start, sni := sni, alpn := alpn, unread := reads }) := by
  obtain ⟨parser', parsed⟩ := agrees.parse plain
  rw [acceptHello.eq_def, slice_rest inside, Option.bind_some, parsed]

/-- A read behind bytes that are no hello yet. -/
theorem acceptHello_next (peer : SocketAddr) {start : Nat} {parser : HelloParser} {buffer bytes : List UInt8}
    (inside : start ≤ buffer.length) (agrees : Agrees lower parser (buffer.drop start))
    (waits : parseClientHello lower (buffer.drop start) = some .incomplete)
    (short : (buffer.drop start).length < clientHelloLimit) (some_ : bytes ≠ []) (reads : List (List UInt8)) :
    ∃ parser', acceptHello lower peer start parser buffer (bytes :: reads) =
        acceptHello lower peer start parser' (buffer ++ bytes) reads ∧ Agrees lower parser' ((buffer ++ bytes).drop start) := by
  obtain ⟨parser', parsed⟩ := agrees.parse waits
  rw [List.length_drop] at short
  cases bytes with
  | nil => exact absurd rfl some_
  | cons byte bytes =>
      refine ⟨parser', ?_, ?_⟩
      · rw [acceptHello.eq_def, slice_rest inside, Option.bind_some, parsed]
        exact if_neg (by omega)
      · rw [List.drop_append_of_le_length inside]
        exact agrees.later parsed _

theorem take_start {buffer : List UInt8} {start : Nat} {reads : List (List UInt8)} (inside : start ≤ buffer.length)
    (whole : buffer ++ reads.flatten = stream) : stream.take start ++ buffer.drop start ++ reads.flatten = stream := by
  rw [← whole, List.take_append_of_le_length inside, List.take_append_drop]

theorem acceptHello_reads (peer : SocketAddr) {start : Nat} {sni alpn : List Char}
    (complete : parseClientHello lower ((stream.drop start).take clientHelloLimit) = some (.complete sni alpn))
    (reads : List (List UInt8)) (some_ : ∀ bytes ∈ reads, bytes ≠ []) {parser : HelloParser} {buffer : List UInt8}
    (whole : buffer ++ reads.flatten = stream) (inside : start ≤ buffer.length)
    (agrees : Agrees lower parser (buffer.drop start)) :
    ∃ initial unread, acceptHello lower peer start parser buffer reads =
        some (.ok { peer := peer, initial := initial, sni := sni, alpn := alpn, unread := unread }) ∧
      stream.take start ++ initial ++ unread.flatten = stream := by
  induction reads generalizing parser buffer with
  | nil =>
      have parts : buffer.drop start ++ [] = stream.drop start := by
        rw [← whole, List.flatten_nil, List.append_nil, List.append_nil]
      rcases parse_part parts complete with plain | ⟨_, _, more⟩
      · exact ⟨_, _, acceptHello_done peer inside agrees plain [], take_start inside whole⟩
      · exact absurd rfl more
  | cons bytes reads ih =>
      have parts : buffer.drop start ++ (bytes :: reads).flatten = stream.drop start := by
        rw [← whole, List.drop_append_of_le_length inside]
      rcases parse_part parts complete with plain | ⟨waits, short, _⟩
      · exact ⟨_, _, acceptHello_done peer inside agrees plain _, take_start inside whole⟩
      · obtain ⟨parser', reads_, later⟩ :=
          acceptHello_next peer inside agrees waits short (some_ bytes List.mem_cons_self) reads
        rw [reads_]
        refine ih (fun bytes held => some_ bytes (List.mem_cons_of_mem _ held)) ?_ ?_ later
        · rw [← whole, List.flatten_cons, List.append_assoc]
        · rw [List.length_append]
          omega

end Reads

/-- The stream begins as the connection should: with a header that is not too long, or with the hello at once. -/
def Begins (proxyProtocol : Bool) (stream : List UInt8) (length : Nat) (source : Option SocketAddr) : Prop :=
  if proxyProtocol then
    ProxyReader.parse stream = .complete length source ∧ length ≤ ProxyReader.headerLimit stream
  else length = 0 ∧ source = none

/-- However the stream is split into reads, the connection is accepted with the same visitor and names, and nothing of
    the stream is lost. -/
theorem accept_segmentation (lower : List Char → List Char) (peer : SocketAddr) {proxyProtocol : Bool} {stream : List UInt8}
    {length : Nat} {source : Option SocketAddr} (begins : Begins proxyProtocol stream length source) {sni alpn : List Char}
    (complete : parseClientHello lower ((stream.drop length).take clientHelloLimit) = some (.complete sni alpn))
    {buffer : List UInt8} {reads : List (List UInt8)} (some_ : ∀ bytes ∈ reads, bytes ≠ [])
    (whole : buffer ++ reads.flatten = stream) :
    ∃ initial unread, acceptWith lower peer proxyProtocol buffer reads =
        some (.ok { peer := source.getD peer, initial := initial, sni := sni, alpn := alpn, unread := unread }) ∧
      stream.take length ++ initial ++ unread.flatten = stream := by
  have fresh (data : List UInt8) : Agrees lower {} data := fun _ => rfl
  cases proxyProtocol with
  | false =>
      obtain ⟨rfl, rfl⟩ : length = 0 ∧ source = none := begins
      exact acceptHello_reads peer complete reads some_ whole (Nat.zero_le _) (fresh _)
  | true =>
      obtain ⟨parsed, short⟩ : ProxyReader.parse stream = .complete length source ∧ length ≤ ProxyReader.headerLimit stream :=
        begins
      obtain ⟨buffer', reads', header, inside, whole', some'⟩ := acceptHeader_reads peer parsed short reads some_ whole
      obtain ⟨initial, unread, accepted, parts⟩ :=
        acceptHello_reads (source.getD peer) complete reads' some' whole' inside (fresh _)
      refine ⟨initial, unread, ?_, parts⟩
      rw [acceptWith, if_pos rfl, header]
      exact accepted

namespace Sample

def peer : SocketAddr := .v4 ⟨192, 0, 2, 1⟩ 5000

/-- A line, the hello in three records, and a byte of the next record. -/
def stream : List UInt8 := utf8 "PROXY TCP4 192.0.2.7 192.0.2.8 7 443\r\n".toList ++ OpenTunnel.Sample.cut.bytes ++ [0x16]

/-- The hello in a record that goes on behind it. -/
def longCut : Cut OpenTunnel.Sample.hello.message where
  before := []
  last := ⟨3, 1, OpenTunnel.Sample.hello.message ++ List.replicate 65460 0, by
    rw [List.length_append, List.length_replicate]
    decide +kernel⟩
  behind := List.replicate 65460 0
  whole := List.flatMap_singleton _ _
  unfinished := by decide +kernel

/-- A header and the long record. -/
def longStream : List UInt8 := Proxy.v1 (some (.v4 ⟨192, 0, 2, 7⟩ 7)) ++ longCut.bytes

end Sample

theorem hello_text : fromUtf8Lossy OpenTunnel.Sample.hello.name = ['a'] ∧
    fromUtf8Lossy OpenTunnel.Sample.hello.protocol = ['h', '2'] := by
  decide +kernel

theorem accept_segmentation_sample :
    Begins true Sample.stream 38 (some (.v4 ⟨192, 0, 2, 7⟩ 7)) ∧
      ∃ initial unread, acceptWith id Sample.peer true [] [Sample.stream.take 3, Sample.stream.drop 3] =
          some (.ok ⟨.v4 ⟨192, 0, 2, 7⟩ 7, initial, ['a'], ['h', '2'], unread⟩) ∧
        Sample.stream.take 38 ++ initial ++ unread.flatten = Sample.stream := by
  have parsed : ProxyReader.parse Sample.stream = .complete 38 (some (.v4 ⟨192, 0, 2, 7⟩ 7)) := by
    decide +kernel
  have short : 38 ≤ ProxyReader.headerLimit Sample.stream := by
    decide +kernel
  have begins : Begins true Sample.stream 38 (some (.v4 ⟨192, 0, 2, 7⟩ 7)) := ⟨parsed, short⟩
  have rest : (Sample.stream.drop 38).take clientHelloLimit = OpenTunnel.Sample.cut.bytes ++ [0x16] := by
    decide +kernel
  have complete : parseClientHello id ((Sample.stream.drop 38).take clientHelloLimit) = some (.complete ['a'] ['h', '2']) := by
    rw [rest, parseClientHello_cut id OpenTunnel.Sample.cut [0x16], hello_text.1, hello_text.2]
    rfl
  have parts : [] ++ [Sample.stream.take 3, Sample.stream.drop 3].flatten = Sample.stream := by
    decide +kernel
  have some_ : ∀ bytes ∈ [Sample.stream.take 3, Sample.stream.drop 3], bytes ≠ [] := by
    decide +kernel
  exact ⟨begins, accept_segmentation id Sample.peer begins complete some_ parts⟩

/-! ### A long record -/

/-- The reads of a stream that leave off at these places, and at its end. -/
def readsTo (stream : List UInt8) : Nat → List Nat → List (List UInt8)
  | at_, [] => [stream.drop at_]
  | at_, place :: places => (stream.take place).drop at_ :: readsTo stream place places

theorem read_joined (stream : List UInt8) {at_ place : Nat} (later : at_ ≤ place) :
    stream.take at_ ++ (stream.take place).drop at_ = stream.take place := by
  have parts := List.take_append_drop at_ (stream.take place)
  rwa [List.take_take, Nat.min_eq_left later] at parts

theorem read_some {stream : List UInt8} {at_ place : Nat} (later : at_ < place) (inside : place ≤ stream.length) :
    (stream.take place).drop at_ ≠ [] := by
  apply List.ne_nil_of_length_pos
  rw [List.length_drop, List.length_take]
  omega

/-- The reads go on while there is no hello and the limit is not reached. -/
theorem acceptHello_places {lower : List Char → List Char} {stream : List UInt8} (peer : SocketAddr) {start : Nat}
    (waits : ∀ n < start + clientHelloLimit, parseClientHello lower ((stream.take n).drop start) = some .incomplete)
    (places : List Nat) {at_ : Nat} (grow : (at_ :: places).Pairwise (· < ·))
    (within : ∀ n ∈ at_ :: places, start ≤ n ∧ n < start + clientHelloLimit ∧ n ≤ stream.length) {parser : HelloParser}
    (agrees : Agrees lower parser ((stream.take at_).drop start)) (others : List Nat) :
    ∃ parser', acceptHello lower peer start parser (stream.take at_) (readsTo stream at_ (places ++ others)) =
        acceptHello lower peer start parser' (stream.take (places.getLastD at_))
          (readsTo stream (places.getLastD at_) others) ∧
      Agrees lower parser' ((stream.take (places.getLastD at_)).drop start) := by
  induction places generalizing at_ parser with
  | nil => exact ⟨parser, rfl, agrees⟩
  | cons place places ih =>
      obtain ⟨after, below, inside⟩ := within at_ List.mem_cons_self
      have here := within place (List.mem_cons_of_mem _ List.mem_cons_self)
      have later : at_ < place := (List.pairwise_cons.mp grow).1 place List.mem_cons_self
      have long : start ≤ (stream.take at_).length := by
        rw [List.length_take]
        omega
      have short : ((stream.take at_).drop start).length < clientHelloLimit := by
        rw [List.length_drop, List.length_take]
        omega
      obtain ⟨parser', reads_, agrees'⟩ := acceptHello_next peer long agrees (waits at_ below) short
        (read_some later here.2.2) (readsTo stream place (places ++ others))
      rw [read_joined stream (Nat.le_of_lt later)] at reads_ agrees'
      obtain ⟨parser'', rest, agrees''⟩ := ih (List.pairwise_cons.mp grow).2
        (fun n held => within n (List.mem_cons_of_mem _ held)) agrees'
      rw [List.getLastD_cons]
      exact ⟨parser'', reads_.trans rest, agrees''⟩

/-- The header is in the first read. -/
theorem acceptHeader_first (peer : SocketAddr) {bytes : List UInt8} {length : Nat} {source : Option SocketAddr}
    (parsed : ProxyReader.parse bytes = .complete length source) (some_ : bytes ≠ []) (reads : List (List UInt8)) :
    acceptHeader peer [] (bytes :: reads) = .ok (source.getD peer, length, bytes, reads) := by
  cases bytes with
  | nil => exact absurd rfl some_
  | cons byte bytes =>
      have next : acceptHeader peer [] ((byte :: bytes) :: reads) = acceptHeader peer (byte :: bytes) reads := by
        rw [acceptHeader.eq_def]
        rfl
      rw [next, acceptHeader.eq_def, parsed]

/-- A hello that is not there within the limit is refused. -/
theorem refused_at_limit {lower : List Char → List Char} (peer : SocketAddr) {start : Nat} {parser : HelloParser}
    {buffer : List UInt8} (inside : start ≤ buffer.length) (agrees : Agrees lower parser (buffer.drop start))
    (waits : parseClientHello lower (buffer.drop start) = some .incomplete)
    (long : clientHelloLimit ≤ (buffer.drop start).length) (reads : List (List UInt8)) :
    acceptHello lower peer start parser buffer reads = some (.error "ClientHello exceeded inspection limit") := by
  obtain ⟨parser', parsed⟩ := agrees.parse waits
  rw [List.length_drop] at long
  rw [acceptHello.eq_def, slice_rest inside, Option.bind_some, parsed]
  exact if_pos long

section LongRecord

variable {front bytes : List UInt8} {source : SocketAddr}

/-- As long as a part of the record is missing behind the header, the reads go on. -/
theorem record_waits (header : front.length = 36) (some_ : 0 < bytes.length)
    (part : ∀ {first rest : List UInt8}, first ++ rest = bytes → rest ≠ [] → parseClientHello id first = some .incomplete)
    {n : Nat} (below : n < 36 + bytes.length) : parseClientHello id (((front ++ bytes).take n).drop 36) = some .incomplete := by
  have behind : ((front ++ bytes).take n).drop 36 = bytes.take (n - 36) := by
    rw [← header, List.drop_take, List.drop_left]
  rw [behind]
  refine part (List.take_append_drop _ _) (List.ne_nil_of_length_pos ?_)
  rw [List.length_drop]
  omega

/-- Reads that fill the buffer, whose size doubles, take a header and a record longer than the limit up to 64 KiB. -/
theorem buffer_filled (header : front.length = 36)
    (heads : ∀ more, ProxyReader.parse (front ++ more) = .complete 36 (some source))
    (long : clientHelloLimit < bytes.length)
    (part : ∀ {first rest : List UInt8}, first ++ rest = bytes → rest ≠ [] → parseClientHello id first = some .incomplete)
    (peer : SocketAddr) (others : List Nat) :
    ∃ parser, acceptWith id peer true [] (readsTo (front ++ bytes) 0 ([4096, 8192, 16384, 32768, 65536] ++ others)) =
        acceptHello id source 36 parser ((front ++ bytes).take 65536) (readsTo (front ++ bytes) 65536 others) ∧
      Agrees id parser (((front ++ bytes).take 65536).drop 36) := by
  have limit : clientHelloLimit = 65536 := rfl
  have total : (front ++ bytes).length = 36 + bytes.length := by
    rw [List.length_append, header]
  have within : ∀ n ∈ [4096, 8192, 16384, 32768, 65536],
      36 ≤ n ∧ n < 36 + clientHelloLimit ∧ n ≤ (front ++ bytes).length := by
    have few : ∀ n ∈ [4096, 8192, 16384, 32768, 65536], 36 ≤ n ∧ n ≤ 65536 := by decide
    intro n listed
    have between := few n listed
    omega
  have first : (front ++ bytes).take 4096 = front ++ bytes.take 4060 := by
    rw [List.take_append, header, List.take_of_length_le (by omega)]
  have parsed := heads (bytes.take 4060)
  rw [← first] at parsed
  have some_ : (front ++ bytes).take 4096 ≠ [] := read_some (Nat.zero_lt_succ 4095) (by omega)
  have begins : acceptWith id peer true [] (readsTo (front ++ bytes) 0 ([4096, 8192, 16384, 32768, 65536] ++ others)) =
      acceptHello id source 36 {} ((front ++ bytes).take 4096)
        (readsTo (front ++ bytes) 4096 ([8192, 16384, 32768, 65536] ++ others)) := by
    rw [acceptWith, if_pos rfl, List.cons_append, readsTo, List.drop_zero, acceptHeader_first peer parsed some_]
    rfl
  rw [begins]
  exact acceptHello_places source (fun n below => record_waits header (by omega) part (by omega)) _ (by decide) within
    (fun _ => rfl) others

end LongRecord

/-- The hello ends within the limit, but the record that holds it does not. Each read fills the buffer; with the header in
    front, 65500 bytes of the record have come when it is 64 KiB. If the next read brings the rest of the record the
    connection is accepted, and if it brings the record up to the limit the connection is refused. -/
theorem long_record_refused :
    OpenTunnel.Sample.hello.message.length + 5 ≤ clientHelloLimit ∧
      acceptWith id Sample.peer true [] (readsTo Sample.longStream 0 [4096, 8192, 16384, 32768, 65536]) =
        some (.ok ⟨.v4 ⟨192, 0, 2, 7⟩ 7, Sample.longCut.bytes, ['a'], ['h', '2'], []⟩) ∧
      acceptWith id Sample.peer true [] (readsTo Sample.longStream 0 [4096, 8192, 16384, 32768, 65536, 65572]) =
        some (.error "ClientHello exceeded inspection limit") := by
  have message : OpenTunnel.Sample.hello.message.length = 75 := by decide +kernel
  have size : Sample.longCut.bytes.length = 65540 := by
    have one : Sample.longCut.bytes = Sample.longCut.last.bytes := List.flatMap_singleton _ _
    have fragment : Sample.longCut.last.fragment = OpenTunnel.Sample.hello.message ++ List.replicate 65460 0 := rfl
    rw [one, HelloParser.record_length, fragment, List.length_append, message, List.length_replicate]
  have complete := parseClientHello_cut id Sample.longCut []
  rw [List.append_nil, hello_text.1, hello_text.2] at complete
  have part {front back : List UInt8} (is : front ++ back = Sample.longCut.bytes) (missing : back ≠ []) :=
    parseClientHello_part id Sample.longCut is missing
  have header : (Proxy.v1 (some (.v4 ⟨192, 0, 2, 7⟩ 7))).length = 36 := by decide +kernel
  have heads (more : List UInt8) : ProxyReader.parse (Proxy.v1 (some (.v4 ⟨192, 0, 2, 7⟩ 7)) ++ more) =
      .complete 36 (some (.v4 ⟨192, 0, 2, 7⟩ 7)) := by
    have words := ProxyReader.v1_words (some (.v4 ⟨192, 0, 2, 7⟩ 7))
    rw [words] at header ⊢
    rw [ProxyReader.parse_line (ProxyReader.line_v1 _), header]
    exact ProxyReader.parseWords_v1 (show ProxyReader.Simple (some (.v4 ⟨192, 0, 2, 7⟩ 7)) from trivial) 36
  unfold Sample.longStream
  generalize Proxy.v1 (some (.v4 ⟨192, 0, 2, 7⟩ 7)) = front at header heads
  generalize Sample.longCut.bytes = bytes at size complete part
  have limit : clientHelloLimit = 65536 := rfl
  have total : (front ++ bytes).length = 65576 := by
    rw [List.length_append, header, size]
  have filled := buffer_filled header heads (by omega) part Sample.peer
  have waits {n : Nat} (below : n < 65576) := record_waits header (by omega) part (show n < 36 + bytes.length by omega)
  have inside {n : Nat} (most : n ≤ 65576) : ((front ++ bytes).take n).length = n := by
    rw [List.length_take]
    omega
  have short : (((front ++ bytes).take 65536).drop 36).length < clientHelloLimit := by
    rw [List.length_drop, inside (by decide)]
    decide
  refine ⟨by rw [message]; decide, ?_, ?_⟩
  · -- The rest of the record comes at once.
    obtain ⟨parser, reads, known⟩ := filled []
    have rest : (front ++ bytes).drop 65536 ≠ [] := by
      apply List.ne_nil_of_length_pos
      rw [List.length_drop]
      omega
    obtain ⟨parser', next, known'⟩ := acceptHello_next (.v4 ⟨192, 0, 2, 7⟩ 7) (by rw [inside (by decide)]; decide) known
      (waits (by decide)) short rest []
    rw [List.take_append_drop] at next known'
    have all : (front ++ bytes).drop 36 = bytes := by
      rw [← header, List.drop_left]
    have done := acceptHello_done (.v4 ⟨192, 0, 2, 7⟩ 7) (show 36 ≤ (front ++ bytes).length by omega) known'
      (by rw [all]; exact complete) []
    rw [all] at done
    exact reads.trans (next.trans done)
  · -- It comes up to the limit.
    obtain ⟨parser, reads, known⟩ := filled [65572]
    have rest : ((front ++ bytes).take 65572).drop 65536 ≠ [] := read_some (by decide) (by omega)
    obtain ⟨parser', next, known'⟩ := acceptHello_next (.v4 ⟨192, 0, 2, 7⟩ 7) (by rw [inside (by decide)]; decide) known
      (waits (by decide)) short rest [(front ++ bytes).drop 65572]
    rw [read_joined _ (by decide)] at next known'
    have full : clientHelloLimit ≤ (((front ++ bytes).take 65572).drop 36).length := by
      rw [List.length_drop, inside (by decide)]
      decide
    have refused := refused_at_limit (.v4 ⟨192, 0, 2, 7⟩ 7) (by rw [inside (by decide)]; decide) known'
      (waits (by decide)) full [(front ++ bytes).drop 65572]
    exact reads.trans (next.trans refused)

end Accept

end OpenTunnel
