/-
Module: OpenTunnel.Proofs.Hello
Layer: Proofs
Purpose: The parser of the ClientHello indexes nothing that is not there, and its answer to bytes that arrive piece by piece
  is the one to all of them: a round takes a whole record, which later bytes do not change.
Imports: OpenTunnel.Model.Hello
Trusted boundary: none (fully proved)
Main exports: parseHelloBody_total, HelloParser.round_record, HelloParser.steady, hello_incremental
Open obligations: none
-/
import OpenTunnel.Model.Hello

namespace OpenTunnel

open Formats

/-! ### Indexes -/

section Indexes

variable {data more : List UInt8} {offset start stop : Nat}

theorem getElem_inside (inside : offset < data.length) : ∃ byte, data[offset]? = some byte :=
  ⟨_, List.getElem?_eq_getElem inside⟩

theorem u16At_inside (inside : offset + 1 < data.length) : ∃ n, u16At data offset = some n := by
  obtain ⟨high, first⟩ := getElem_inside (Nat.lt_of_succ_lt inside)
  obtain ⟨low, second⟩ := getElem_inside inside
  refine ⟨high.toNat * 256 + low.toNat, ?_⟩
  simp [u16At, first, second]

theorem u16At_append (inside : offset + 1 < data.length) : u16At (data ++ more) offset = u16At data offset := by
  rw [u16At, u16At, List.getElem?_append_left inside, List.getElem?_append_left (Nat.lt_of_succ_lt inside)]

theorem slice_inside (ordered : start ≤ stop) (inside : stop ≤ data.length) :
    slice data start stop = some ((data.take stop).drop start) :=
  if_pos ⟨ordered, inside⟩

end Indexes

/-! ### The body -/

/-- The search for a host name ends inside the list. -/
theorem hostName_total {hello : List UInt8} {listEnd : Nat} (inside : listEnd ≤ hello.length) {fuel nameOffset : Nat}
    (enough : listEnd - nameOffset < fuel) : ∃ found, hostName hello listEnd fuel nameOffset = some found := by
  induction fuel generalizing nameOffset with
  | zero => omega
  | succ fuel ih =>
      rw [hostName]
      split
      · rename_i room
        obtain ⟨nameType, one⟩ := getElem_inside (by omega : nameOffset < hello.length)
        obtain ⟨nameLength, two⟩ := u16At_inside (by omega : nameOffset + 1 + 1 < hello.length)
        simp only [one, two, Option.bind_eq_bind, Option.bind_some]
        split
        · exact ⟨_, rfl⟩
        · split
          · rw [slice_inside (by omega) (by omega)]
            exact ⟨_, rfl⟩
          · exact ih (by omega)
      · exact ⟨_, rfl⟩

theorem firstProtocol_total {hello : List UInt8} {offset listEnd : Nat} (inside : listEnd ≤ hello.length)
    (room : offset + 2 < hello.length) : ∃ found, firstProtocol hello offset listEnd = some found := by
  obtain ⟨protocolLength, one⟩ := getElem_inside room
  unfold firstProtocol
  simp only [one, Option.bind_eq_bind, Option.bind_some]
  split
  · rw [slice_inside (by omega) (by omega)]
    exact ⟨_, rfl⟩
  · exact ⟨_, rfl⟩

/-- Going through the extensions ends, with whatever they say. -/
theorem helloExtensions_total (lower : List Char → List Char) {hello : List UInt8} {extensionsEnd : Nat}
    (inside : extensionsEnd ≤ hello.length) {fuel offset : Nat} (enough : extensionsEnd - offset < fuel)
    (serverName alpn : List Char) :
    ∃ found, helloExtensions lower hello extensionsEnd fuel offset serverName alpn = some found ∧ found ≠ .incomplete := by
  induction fuel generalizing offset serverName alpn with
  | zero => omega
  | succ fuel ih =>
      rw [helloExtensions]
      split
      · rename_i room
        obtain ⟨kind, one⟩ := u16At_inside (by omega : offset + 1 < hello.length)
        obtain ⟨length, two⟩ := u16At_inside (by omega : offset + 2 + 1 < hello.length)
        simp only [one, two, Option.bind_eq_bind, Option.bind_some]
        split
        · exact ⟨_, rfl, nofun⟩
        · split
          · rename_i fits name
            obtain ⟨listLength, three⟩ := u16At_inside (by omega : offset + 4 + 1 < hello.length)
            have within : min (offset + 4 + length) (offset + 4 + 2 + listLength) ≤ hello.length := by omega
            obtain ⟨found, four⟩ := hostName_total within (by omega :
              min (offset + 4 + length) (offset + 4 + 2 + listLength) - (offset + 4 + 2) < hello.length + 1)
            simp only [three, four, Option.bind_some]
            exact ih (by omega) _ _
          · split
            · rename_i fits _ protocols
              obtain ⟨listLength, three⟩ := u16At_inside (by omega : offset + 4 + 1 < hello.length)
              have within : min (offset + 4 + length) (offset + 4 + 2 + listLength) ≤ hello.length := by omega
              obtain ⟨found, four⟩ := firstProtocol_total within (by omega : offset + 4 + 2 < hello.length)
              simp only [three, four, Option.bind_some]
              exact ih (by omega) _ _
            · exact ih (by omega) _ _
      · refine ⟨_, rfl, ?_⟩
        unfold helloFound
        split
        · nofun
        · nofun

/-- A whole hello is read or refused, and never waited for. -/
theorem parseHelloBody_total (lower : List Char → List Char) (hello : List UInt8) :
    ∃ found, parseHelloBody lower hello = some found ∧ found ≠ .incomplete := by
  unfold parseHelloBody
  split
  · exact ⟨_, rfl, nofun⟩
  · rename_i long
    obtain ⟨sessionLength, one⟩ := getElem_inside (by omega : 2 + 32 < hello.length)
    simp only [one, Option.bind_eq_bind, Option.bind_some]
    split
    · exact ⟨_, rfl, nofun⟩
    · obtain ⟨cipherLength, two⟩ := u16At_inside (by omega : 2 + 32 + 1 + sessionLength.toNat + 1 < hello.length)
      simp only [two, Option.bind_some]
      split
      · exact ⟨_, rfl, nofun⟩
      · obtain ⟨compressionLength, three⟩ :=
          getElem_inside (by omega : 2 + 32 + 1 + sessionLength.toNat + 2 + cipherLength < hello.length)
        simp only [three, Option.bind_some]
        split
        · exact ⟨_, rfl, nofun⟩
        · split
          · exact ⟨_, rfl, nofun⟩
          · obtain ⟨extensionsLength, four⟩ := u16At_inside (by omega : 2 + 32 + 1 + sessionLength.toNat + 2 + cipherLength + 1 +
              compressionLength.toNat + 1 < hello.length)
            simp only [four, Option.bind_some]
            split
            · exact ⟨_, rfl, nofun⟩
            · exact helloExtensions_total lower (by omega) (by omega) _ _

/-! ### Rounds -/

namespace HelloParser

variable (lower : List Char → List Char)

/-- The parser after a record of this length. -/
def take (parser : HelloParser) (data : List UInt8) (recordLength : Nat) : HelloParser :=
  { parser with
    handshake := parser.handshake ++ (data.take (parser.recordOffset + 5 + recordLength)).drop (parser.recordOffset + 5)
    recordOffset := parser.recordOffset + 5 + recordLength }

/-- After a record the handshake is refused, or goes on with the length it said. -/
theorem afterRecord_cases (parser : HelloParser) :
    parser.afterRecord = some (.answer (.invalid "expected TLS ClientHello") parser) ∨
      ∃ handshakeLength, parser.afterRecord = some (.again { parser with handshakeLength := handshakeLength }) := by
  unfold afterRecord
  split
  · rename_i long
    obtain ⟨first, zero⟩ := getElem_inside (by omega : 0 < parser.handshake.length)
    obtain ⟨high, one⟩ := getElem_inside (by omega : 1 < parser.handshake.length)
    obtain ⟨middle, two⟩ := getElem_inside (by omega : 2 < parser.handshake.length)
    obtain ⟨low, three⟩ := getElem_inside (by omega : 3 < parser.handshake.length)
    simp only [zero, one, two, three, Option.bind_eq_bind, Option.bind_some]
    split
    · exact .inl rfl
    · exact .inr ⟨_, rfl⟩
  · exact .inr ⟨parser.handshakeLength, rfl⟩

/-- A round that looks at a record. -/
theorem round_record {parser : HelloParser} (data : List UInt8) (unfinished : parser.whole = none)
    (head : 5 ≤ data.length - parser.recordOffset) :
    ∃ kind recordLength, data[parser.recordOffset]? = some kind ∧ u16At data (parser.recordOffset + 3) = some recordLength ∧
      round lower data parser =
        if kind ≠ 0x16 then some (.answer (.invalid "expected TLS handshake record") parser)
        else if data.length - parser.recordOffset - 5 < recordLength then some .wait
        else (parser.take data recordLength).afterRecord := by
  obtain ⟨kind, one⟩ := getElem_inside (by omega : parser.recordOffset < data.length)
  obtain ⟨recordLength, two⟩ := u16At_inside (by omega : parser.recordOffset + 3 + 1 < data.length)
  refine ⟨kind, recordLength, one, two, ?_⟩
  rw [round, unfinished]
  dsimp only
  rw [if_neg (Nat.not_lt.mpr head)]
  simp only [one, two, Option.bind_eq_bind, Option.bind_some]
  split
  · rfl
  · split
    · rfl
    · rw [slice_inside (by omega) (by omega)]
      rfl

/-- A hello that is whole is answered. -/
theorem round_whole {parser : HelloParser} {length : Nat} (is : parser.whole = some length) (data : List UInt8) :
    ∃ hello, parseHelloBody lower ((parser.handshake.take (length + 4)).drop 4) = some hello ∧ hello ≠ .incomplete ∧
      round lower data parser = some (.answer hello parser) := by
  obtain ⟨hello, parsed, answers⟩ := parseHelloBody_total lower ((parser.handshake.take (length + 4)).drop 4)
  have long : length + 4 ≤ parser.handshake.length := by
    have kept := (Option.filter_eq_some_iff.mp is).2
    simpa using kept
  refine ⟨hello, parsed, answers, ?_⟩
  rw [round, is]
  dsimp only
  rw [slice_inside (by omega) long]
  simp only [Option.bind_eq_bind, Option.bind_some, parsed]

/-- A record without its head is waited for. -/
theorem round_short {parser : HelloParser} {data : List UInt8} (unfinished : parser.whole = none)
    (head : data.length - parser.recordOffset < 5) : round lower data parser = some .wait := by
  rw [round, unfinished]
  exact if_pos head

/-- A round never reads outside the data. -/
theorem round_total (data : List UInt8) (parser : HelloParser) : round lower data parser ≠ none := by
  intro none_
  cases whole : parser.whole with
  | some length =>
      obtain ⟨hello, _, _, is⟩ := round_whole lower whole data
      rw [is] at none_
      cases none_
  | none =>
      by_cases head : data.length - parser.recordOffset < 5
      · rw [round_short lower whole head] at none_
        cases none_
      · obtain ⟨kind, recordLength, _, _, is⟩ := round_record lower data whole (Nat.not_lt.mp head)
        rw [is] at none_
        split at none_
        · cases none_
        · split at none_
          · cases none_
          · rcases (parser.take data recordLength).afterRecord_cases with wrong | ⟨_, goes⟩
            · rw [wrong] at none_
              cases none_
            · rw [goes] at none_
              cases none_

/-- A round that goes on moves forward, inside the data. -/
theorem round_forward {data : List UInt8} {parser parser' : HelloParser}
    (goes : round lower data parser = some (.again parser')) :
    parser.recordOffset < parser'.recordOffset ∧ parser'.recordOffset ≤ data.length := by
  cases whole : parser.whole with
  | some length =>
      obtain ⟨hello, _, _, is⟩ := round_whole lower whole data
      rw [is] at goes
      cases goes
  | none =>
      by_cases head : data.length - parser.recordOffset < 5
      · rw [round_short lower whole head] at goes
        cases goes
      · obtain ⟨kind, recordLength, _, _, is⟩ := round_record lower data whole (Nat.not_lt.mp head)
        rw [is] at goes
        split at goes
        · cases goes
        · split at goes
          · cases goes
          · rcases (parser.take data recordLength).afterRecord_cases with wrong | ⟨_, again⟩
            · rw [wrong] at goes
              cases goes
            · rw [again] at goes
              cases goes
              simp only [take]
              omega

/-- A round that does not wait does the same with more data. -/
theorem round_stable {data : List UInt8} {parser : HelloParser} {r : Round Hello HelloParser} (more : List UInt8)
    (is : round lower data parser = some r) (goes : r ≠ .wait) : round lower (data ++ more) parser = some r := by
  cases whole : parser.whole with
  | some length =>
      obtain ⟨hello, parsed, _, one⟩ := round_whole lower whole data
      obtain ⟨hello', parsed', _, other⟩ := round_whole lower whole (data ++ more)
      rw [other, ← is, one]
      rw [parsed] at parsed'
      cases parsed'
      rfl
  | none =>
      by_cases head : data.length - parser.recordOffset < 5
      · rw [round_short lower whole head] at is
        cases is
        exact absurd rfl goes
      · have longer : (data ++ more).length = data.length + more.length := List.length_append
        obtain ⟨kind, recordLength, one, two, looks⟩ := round_record lower data whole (Nat.not_lt.mp head)
        obtain ⟨kind', recordLength', one', two', looks'⟩ := round_record lower (data ++ more) whole (by omega)
        rw [List.getElem?_append_left (by omega), one] at one'
        rw [u16At_append (by omega), two] at two'
        cases one'
        cases two'
        rw [looks] at is
        rw [looks']
        split at is
        · rename_i other
          rw [if_pos other]
          exact is
        · rename_i same
          rw [if_neg same]
          split at is
          · cases is
            exact absurd rfl goes
          · rename_i there
            have taken : parser.take (data ++ more) recordLength = parser.take data recordLength := by
              unfold take
              rw [List.take_append_of_le_length (by omega)]
            rw [if_neg (by omega), taken]
            exact is

theorem steady : Steady (round lower) HelloParser.recordOffset where
  total := round_total lower
  forward := round_forward lower
  stable := round_stable lower

/-! ### Answers -/

/-- The parser always answers. -/
theorem parse_total (parser : HelloParser) (data : List UInt8) : ∃ found, parse lower parser data = some found := by
  obtain ⟨found, is⟩ := scanAll_total (steady lower) parser data
  exact ⟨_, by rw [parse, is]; rfl⟩

/-- An answer is final. -/
theorem round_answer {data : List UInt8} {parser parser' : HelloParser} {hello : Hello}
    (answers : round lower data parser = some (.answer hello parser')) : hello ≠ .incomplete := by
  cases whole : parser.whole with
  | some length =>
      obtain ⟨hello', _, answered, is⟩ := round_whole lower whole data
      rw [is] at answers
      cases answers
      exact answered
  | none =>
      by_cases head : data.length - parser.recordOffset < 5
      · rw [round_short lower whole head] at answers
        cases answers
      · obtain ⟨kind, recordLength, _, _, is⟩ := round_record lower data whole (Nat.not_lt.mp head)
        rw [is] at answers
        split at answers
        · cases answers
          nofun
        · split at answers
          · cases answers
          · rcases (parser.take data recordLength).afterRecord_cases with wrong | ⟨_, goes⟩
            · rw [wrong] at answers
              cases answers
              nofun
            · rw [goes] at answers
              cases answers

/-- What the answers of the rounds say to the caller. -/
theorem scanAll_incomplete {parser : HelloParser} {data : List UInt8} {found : Option Hello × HelloParser}
    (scanned : scanAll (round lower) parser data = some found) : found.1.getD .incomplete = .incomplete ↔ found.1 = none := by
  obtain ⟨answer, parser'⟩ := found
  cases answer with
  | none => simp
  | some hello =>
      obtain ⟨_, last⟩ := scan_last scanned
      simp [round_answer lower last]

/-- The answers of one parser to bytes that grow. -/
def feed (parser : HelloParser) : List (List UInt8) → Option (List Hello)
  | [] => some []
  | data :: later => do
      let (hello, parser) ← parser.parse lower data
      let rest ← feed parser later
      some (hello :: rest)

/-- The answers of a parser that is kept are those of the rounds. -/
theorem feed_answers (parser : HelloParser) (datas : List (List UInt8)) :
    feed lower parser datas =
      (answers (round lower) parser datas).map (List.map fun answer => answer.getD .incomplete) := by
  induction datas generalizing parser with
  | nil => rfl
  | cons data later ih =>
      rw [feed, answers, parse]
      cases scanAll (round lower) parser data with
      | none => rfl
      | some found =>
          simp only [Option.map_some, Option.bind_eq_bind, Option.bind_some, ih]
          cases answers (round lower) found.2 later with
          | none => rfl
          | some rest => rfl

theorem answers_incomplete {parser : HelloParser} {datas : List (List UInt8)} {found : List (Option Hello)}
    (asked : answers (round lower) parser datas = some found) {answer : Option Hello} (of : answer ∈ found)
    (waits : answer.getD .incomplete = .incomplete) : answer = none := by
  induction datas generalizing parser found with
  | nil =>
      cases asked
      cases of
  | cons data later ih =>
      obtain ⟨first, one, rest, others, rfl⟩ : ∃ first, scanAll (round lower) parser data = some first ∧
          ∃ rest, answers (round lower) first.2 later = some rest ∧ first.1 :: rest = found := by
        simpa [answers, Option.bind_eq_some_iff] using asked
      rcases List.mem_cons.mp of with rfl | behind
      · exact (scanAll_incomplete lower one).mp waits
      · exact ih others behind

end HelloParser

theorem parseClientHello_scan (lower : List Char → List Char) (data : List UInt8) :
    parseClientHello lower data =
      (scanAll (HelloParser.round lower) {} data).map fun found => found.1.getD Hello.incomplete := by
  rw [parseClientHello, HelloParser.parse, Option.map_map]
  rfl

/-- A final answer stays, whatever follows. -/
theorem parseClientHello_stable {lower : List Char → List Char} {data : List UInt8} {hello : Hello}
    (parsed : parseClientHello lower data = some hello) (answers : hello ≠ .incomplete) (more : List UInt8) :
    parseClientHello lower (data ++ more) = some hello := by
  rw [parseClientHello_scan] at parsed ⊢
  obtain ⟨⟨answer, parser⟩, scanned, rfl⟩ := Option.map_eq_some_iff.mp parsed
  cases answer with
  | none => exact absurd rfl answers
  | some answer =>
      rw [scanAll_answer (HelloParser.steady lower) scanned more]
      rfl

/-- Asked again and again while the bytes arrive, the parser answers as to all of them at once; what it answers does not
    change as more arrives; and it always answers. -/
theorem hello_incremental (lower : List Char → List Char) :
    (∀ datas : List (List UInt8), datas.Pairwise (· <+: ·) → ∃ hellos, HelloParser.feed lower {} datas = some hellos ∧
      hellos.length = datas.length ∧ ∀ (i : Nat) (data : List UInt8), datas[i]? = some data →
        (∀ j, j < i → hellos[j]? = some Hello.incomplete) →
        hellos[i]? = parseClientHello lower data) ∧
    ∀ data : List UInt8, ∃ hello, parseClientHello lower data = some hello ∧
      (hello ≠ .incomplete → ∀ more, parseClientHello lower (data ++ more) = some hello) := by
  constructor
  · intro datas growing
    obtain ⟨found, asked⟩ := answers_total (HelloParser.steady lower) {} datas
    refine ⟨found.map fun answer => answer.getD Hello.incomplete, ?_, ?_, ?_⟩
    · rw [HelloParser.feed_answers, asked]
      rfl
    · rw [List.length_map]
      exact answers_length asked
    · intro i data at_ waited
      have before : ∀ j, j < i → found[j]? = some none := by
        intro j below
        have incomplete := waited j below
        rw [List.getElem?_map] at incomplete
        obtain ⟨answer, is, waits⟩ := Option.map_eq_some_iff.mp incomplete
        rw [is, HelloParser.answers_incomplete lower asked (List.mem_of_getElem? is) waits]
      rw [List.getElem?_map, answers_of_steady (HelloParser.steady lower) growing asked at_ before, parseClientHello_scan,
        Option.map_map]
      rfl
  · intro data
    obtain ⟨found, is⟩ := HelloParser.parse_total lower {} data
    have parsed : parseClientHello lower data = some found.1 := by
      rw [parseClientHello, is]
      rfl
    exact ⟨found.1, parsed, fun answers more => parseClientHello_stable parsed answers more⟩

end OpenTunnel
