/-
Module: OpenTunnel.Proofs.HelloRecords
Layer: Proofs
Purpose: What the parser answers to a ClientHello that a visitor sends, however it is cut into records. The bytes are
  spelled by `ClientHello` and `Record`; at each offset the parser finds what is written there.
Imports: Mathlib.Algebra.GroupWithZero.Nat, OpenTunnel.Proofs.Hello
Trusted boundary: none (fully proved)
Main exports: Extension, ClientHello, Record, Cut, At, parseHelloBody_hello, hello_records
Open obligations: none
-/
import Mathlib.Algebra.GroupWithZero.Nat
import OpenTunnel.Proofs.Hello

namespace OpenTunnel

open Formats

/-! ### What a visitor sends -/

/-- A number of 16 bits. -/
def be16 (n : Nat) : List UInt8 := [UInt8.ofNat (n / 256), UInt8.ofNat (n % 256)]

/-- The extensions that the parser reads, and the others. -/
inductive Extension where
  /-- `server_name`, with one `host_name`. -/
  | serverName (name : List UInt8)
  /-- `application_layer_protocol_negotiation` -/
  | protocols (names : List (List UInt8))
  | other (kind : Nat) (body : List UInt8)

namespace Extension

def kind : Extension → Nat
  | serverName _ => 0
  | protocols _ => 16
  | other kind _ => kind

/-- The names of a protocol list, each behind its length. -/
def protocolList (names : List (List UInt8)) : List UInt8 := names.flatMap fun name => UInt8.ofNat name.length :: name

def body : Extension → List UInt8
  | serverName name => be16 (name.length + 3) ++ (0 :: (be16 name.length ++ name))
  | protocols names => be16 (protocolList names).length ++ protocolList names
  | other _ body => body

def bytes (e : Extension) : List UInt8 := be16 e.kind ++ (be16 e.body.length ++ e.body)

/-- The lengths fit their fields, and the kind is that of the extension. -/
def Fits (e : Extension) : Prop :=
  e.body.length < 2 ^ 16 ∧
    match e with
    | serverName _ => True
    | protocols names => ∀ name ∈ names, name.length < 2 ^ 8
    | other kind _ => kind < 2 ^ 16 ∧ kind ≠ 0 ∧ kind ≠ 16

def name? : Extension → Option (List UInt8)
  | serverName name => some name
  | _ => none

def protocols? : Extension → Option (List (List UInt8))
  | protocols names => some names
  | _ => none

end Extension

/-- A ClientHello, with a server name and perhaps a list of protocols. -/
structure ClientHello where
  version : List UInt8
  random : List UInt8
  session : List UInt8
  cipherSuites : List UInt8
  compression : List UInt8
  extensions : List Extension
  name : List UInt8
  alpn : Option (List (List UInt8))
  version_length : version.length = 2
  random_length : random.length = 32
  session_fits : session.length < 2 ^ 8
  cipherSuites_fit : cipherSuites.length < 2 ^ 16
  compression_fits : compression.length < 2 ^ 8
  extensions_fit : (extensions.flatMap Extension.bytes).length < 2 ^ 16
  each_fits : ∀ e ∈ extensions, e.Fits
  named : extensions.filterMap Extension.name? = [name]
  name_some : name ≠ []
  offered : extensions.filterMap Extension.protocols? = alpn.toList

namespace ClientHello

/-- The first protocol, or none. -/
def protocol (hello : ClientHello) : List UInt8 := ((hello.alpn.getD []).head?).getD []

def extensionBytes (hello : ClientHello) : List UInt8 := hello.extensions.flatMap Extension.bytes

def body (hello : ClientHello) : List UInt8 :=
  (hello.version ++ hello.random) ++ (UInt8.ofNat hello.session.length :: (hello.session ++
    (be16 hello.cipherSuites.length ++ (hello.cipherSuites ++ (UInt8.ofNat hello.compression.length :: (hello.compression ++
      (be16 hello.extensionBytes.length ++ hello.extensionBytes)))))))

/-- The handshake message. -/
def message (hello : ClientHello) : List UInt8 :=
  0x01 :: UInt8.ofNat (hello.body.length / 65536) :: UInt8.ofNat (hello.body.length / 256 % 256) ::
    UInt8.ofNat (hello.body.length % 256) :: hello.body

end ClientHello

/-- A handshake record. -/
structure Record where
  major : UInt8
  minor : UInt8
  fragment : List UInt8
  fits : fragment.length < 2 ^ 16

def Record.bytes (record : Record) : List UInt8 :=
  0x16 :: record.major :: record.minor :: (be16 record.fragment.length ++ record.fragment)

/-- A message cut into records: its last byte is in the last of them, which may go on behind it. -/
structure Cut (message : List UInt8) where
  before : List Record
  last : Record
  behind : List UInt8
  whole : (before ++ [last]).flatMap Record.fragment = message ++ behind
  unfinished : (before.flatMap Record.fragment).length < message.length

def Cut.bytes {message : List UInt8} (cut : Cut message) : List UInt8 := (cut.before ++ [cut.last]).flatMap Record.bytes

/-! ### What is at an offset -/

/-- From the offset on, the data is this. -/
def At (data : List UInt8) (offset : Nat) (rest : List UInt8) : Prop :=
  ∃ front, data = front ++ rest ∧ front.length = offset

section At

variable {data rest part : List UInt8} {offset : Nat}

theorem At.begin (data : List UInt8) : At data 0 data := ⟨[], rfl, rfl⟩

theorem At.length (at_ : At data offset rest) : data.length = offset + rest.length := by
  obtain ⟨front, rfl, rfl⟩ := at_
  exact List.length_append

/-- Behind a part comes the rest. -/
theorem At.skip (at_ : At data offset (part ++ rest)) : At data (offset + part.length) rest := by
  obtain ⟨front, rfl, rfl⟩ := at_
  exact ⟨front ++ part, (List.append_assoc _ _ _).symm, List.length_append⟩

theorem At.byte {byte : UInt8} (at_ : At data offset (byte :: rest)) : data[offset]? = some byte := by
  obtain ⟨front, rfl, rfl⟩ := at_
  rw [List.getElem?_append_right (Nat.le_refl _), Nat.sub_self]
  rfl

theorem At.next {byte : UInt8} (at_ : At data offset (byte :: rest)) : At data (offset + 1) rest := by
  obtain ⟨front, rfl, rfl⟩ := at_
  exact ⟨front ++ [byte], (List.append_assoc front [byte] rest).symm, List.length_append⟩

/-- A part is sliced out. -/
theorem At.slice (at_ : At data offset (part ++ rest)) : slice data offset (offset + part.length) = some part := by
  have size := at_.length
  rw [List.length_append] at size
  rw [slice_inside (by omega) (by omega)]
  obtain ⟨front, rfl, rfl⟩ := at_
  rw [← List.append_assoc, List.take_left' List.length_append, List.drop_left]

theorem u16_of_be16 {n : Nat} (small : n < 2 ^ 16) :
    (UInt8.ofNat (n / 256)).toNat * 256 + (UInt8.ofNat (n % 256)).toNat = n := by
  rw [byte_toNat (by omega), byte_toNat (by omega)]
  omega

theorem At.u16 {n : Nat} (at_ : At data offset (be16 n ++ rest)) (small : n < 2 ^ 16) : u16At data offset = some n := by
  have high := At.byte (at_ : At data offset (_ :: (_ :: rest)))
  have low := At.byte (At.next (at_ : At data offset (_ :: (_ :: rest))))
  simp only [u16At, high, low, Option.bind_eq_bind, Option.bind_some, u16_of_be16 small]

theorem At.all (at_ : At data offset rest) : At data offset (rest ++ []) := by
  rwa [List.append_nil]

theorem At.skip16 {n : Nat} (at_ : At data offset (be16 n ++ rest)) : At data (offset + 2) rest := at_.skip

end At

/-! ### The body -/

section Body

variable {lower : List Char → List Char} {hello rest : List UInt8} {offset : Nat}

/-- The first host name is found. -/
theorem hostName_name {name : List UInt8} (at_ : At hello offset (0 :: (be16 name.length ++ (name ++ rest))))
    (small : name.length < 2 ^ 16) (fuel : Nat) :
    hostName hello (offset + 3 + name.length) (fuel + 1) offset = some (some (fromUtf8Lossy name)) := by
  have type := at_.byte
  have length := at_.next.u16 small
  have text := at_.next.skip16.slice
  rw [hostName, if_pos (by omega)]
  simp only [type, length, Option.bind_eq_bind, Option.bind_some]
  rw [if_neg (by omega), if_pos trivial, text]
  rfl

/-- The first protocol is found. -/
theorem firstProtocol_name {name : List UInt8} {listEnd : Nat}
    (at_ : At hello (offset + 2) (UInt8.ofNat name.length :: (name ++ rest))) (small : name.length < 2 ^ 8)
    (room : offset + 3 + name.length ≤ listEnd) : firstProtocol hello offset listEnd = some (some (fromUtf8Lossy name)) := by
  have length := at_.byte
  have text := at_.next.slice
  unfold firstProtocol
  simp only [length, Option.bind_eq_bind, Option.bind_some, byte_toNat small]
  rw [if_pos room, text]
  rfl

/-- What an extension tells. -/
def Extension.tell (e : Extension) (told : List Char × List Char) : List Char × List Char :=
  match e with
  | serverName name => (fromUtf8Lossy name, told.2)
  | protocols (name :: _) => (told.1, fromUtf8Lossy name)
  | _ => told

theorem be16_length (n : Nat) : (be16 n).length = 2 := rfl

/-- The loop at an extension. -/
theorem helloExtensions_next {e : Extension} (fits : e.Fits) {extensionsEnd : Nat} (at_ : At hello offset (e.bytes ++ rest))
    (within : offset + e.bytes.length ≤ extensionsEnd) (fuel : Nat) (told : List Char × List Char) :
    helloExtensions lower hello extensionsEnd (fuel + 1) offset told.1 told.2 =
      helloExtensions lower hello extensionsEnd fuel (offset + e.bytes.length) (e.tell told).1 (e.tell told).2 := by
  have size : e.bytes.length = 4 + e.body.length := by
    simp [Extension.bytes, be16_length]
    omega
  have kindFits : e.kind < 2 ^ 16 := by
    cases e with
    | serverName name => exact Nat.two_pow_pos 16
    | protocols names => exact (by decide : 16 < 2 ^ 16)
    | other kind body => exact fits.2.1
  rw [Extension.bytes, List.append_assoc, List.append_assoc] at at_
  have kind := at_.u16 kindFits
  have length := at_.skip16.u16 fits.1
  have inside := at_.skip16.skip16
  rw [helloExtensions, if_pos (by omega)]
  simp only [kind, length, Option.bind_eq_bind, Option.bind_some]
  rw [if_neg (by omega), size, ← Nat.add_assoc]
  cases e with
  | serverName name =>
      have total : (Extension.serverName name).body.length = name.length + 5 := by
        simp [Extension.body, be16_length]
        omega
      have small := fits.1
      rw [total] at small ⊢
      have spelled : At hello (offset + 4) (be16 (name.length + 3) ++ (0 :: (be16 name.length ++ (name ++ rest)))) := by
        simpa only [Extension.body, List.append_assoc, List.cons_append] using inside
      have listLength := spelled.u16 (by omega)
      have listEnd : min (offset + 4 + (name.length + 5)) (offset + 4 + 2 + (name.length + 3)) = offset + 4 + 2 + 3 + name.length := by
        omega
      rw [if_pos ⟨rfl, by omega⟩, listLength]
      simp only [Option.bind_some]
      rw [listEnd, hostName_name spelled.skip16 (by omega)]
      rfl
  | protocols names =>
      rw [if_neg (fun is => absurd is.1 (by decide : ¬ (16 : Nat) = 0))]
      cases names with
      | nil =>
          rw [if_neg (fun is => absurd is.2 (by decide))]
          rfl
      | cons name names =>
          have list : Extension.protocolList (name :: names) =
              UInt8.ofNat name.length :: (name ++ Extension.protocolList names) := rfl
          have total : (Extension.protocols (name :: names)).body.length =
              2 + (Extension.protocolList (name :: names)).length := by
            rw [Extension.body, List.length_append, be16_length]
          have longer : (Extension.protocolList (name :: names)).length =
              1 + name.length + (Extension.protocolList names).length := by
            rw [list, List.length_cons, List.length_append]
            omega
          have small := fits.1
          rw [total] at small ⊢
          have spelled : At hello (offset + 4) (be16 (Extension.protocolList (name :: names)).length ++
              (UInt8.ofNat name.length :: (name ++ (Extension.protocolList names ++ rest)))) := by
            simpa only [Extension.body, list, List.append_assoc, List.cons_append] using inside
          have listLength := spelled.u16 (by omega)
          rw [if_pos ⟨rfl, by omega⟩, listLength]
          simp only [Option.bind_some]
          rw [firstProtocol_name spelled.skip16 (fits.2 name List.mem_cons_self) (by omega)]
          rfl
  | other kind body =>
      obtain ⟨_, noName, noProtocols⟩ := fits.2
      rw [if_neg (fun is => noName is.1), if_neg (fun is => noProtocols is.1)]
      rfl

/-- The extensions are gone through to their end. -/
theorem helloExtensions_all (lower : List Char → List Char) {extensions : List Extension} (fits : ∀ e ∈ extensions, e.Fits)
    (at_ : At hello offset (extensions.flatMap Extension.bytes ++ rest)) {fuel : Nat} (enough : extensions.length < fuel)
    (told : List Char × List Char) :
    helloExtensions lower hello (offset + (extensions.flatMap Extension.bytes).length) fuel offset told.1 told.2 =
      some (helloFound lower (extensions.foldl (fun told e => e.tell told) told).1
        (extensions.foldl (fun told e => e.tell told) told).2) := by
  induction extensions generalizing offset fuel told with
  | nil =>
      obtain ⟨fuel, rfl⟩ : ∃ n, fuel = n + 1 := ⟨fuel - 1, by simp at enough; omega⟩
      rw [helloExtensions, if_neg (by simp)]
      rfl
  | cons e extensions ih =>
      obtain ⟨fuel, rfl⟩ : ∃ n, fuel = n + 1 := ⟨fuel - 1, by simp at enough; omega⟩
      rw [List.flatMap_cons, List.append_assoc] at at_
      rw [List.flatMap_cons, List.length_append,
        helloExtensions_next (fits e List.mem_cons_self) at_ (by omega), ← Nat.add_assoc]
      rw [List.length_cons] at enough
      exact ih (fun e held => fits e (List.mem_cons_of_mem _ held)) at_.skip (by omega) (e.tell told)

/-- What the extensions tell of the name and of the protocol, each by the extensions of its kind. -/
theorem told_by (extensions : List Extension) (told : List Char × List Char) :
    extensions.foldl (fun told e => e.tell told) told =
      ((extensions.filterMap Extension.name?).foldl (fun _ name => fromUtf8Lossy name) told.1,
        (extensions.filterMap Extension.protocols?).foldl (fun alpn names => (names.head?.map fromUtf8Lossy).getD alpn)
          told.2) := by
  induction extensions generalizing told with
  | nil => rfl
  | cons e extensions ih =>
      rw [List.foldl_cons, ih]
      cases e with
      | serverName name => rfl
      | protocols names =>
          cases names with
          | nil => rfl
          | cons name names => rfl
      | other kind body => rfl

theorem bytes_length_pos (e : Extension) : 0 < e.bytes.length := by
  rw [Extension.bytes, List.length_append, be16_length]
  omega

theorem length_le_bytes (extensions : List Extension) : extensions.length ≤ (extensions.flatMap Extension.bytes).length := by
  induction extensions with
  | nil => exact Nat.le_refl 0
  | cons e extensions ih =>
      have some_ := bytes_length_pos e
      rw [List.flatMap_cons, List.length_append, List.length_cons]
      omega

/-- The body of a hello is read as its name and protocol. -/
theorem parseHelloBody_hello (lower : List Char → List Char) (hello : ClientHello) :
    parseHelloBody lower hello.body = some (.complete (lower (fromUtf8Lossy hello.name)) (fromUtf8Lossy hello.protocol)) := by
  have head : (hello.version ++ hello.random).length = 2 + 32 := by
    rw [List.length_append, hello.version_length, hello.random_length]
  have begins : At hello.body 0 ((hello.version ++ hello.random) ++ (UInt8.ofNat hello.session.length :: (hello.session ++
      (be16 hello.cipherSuites.length ++ (hello.cipherSuites ++ (UInt8.ofNat hello.compression.length ::
        (hello.compression ++ (be16 hello.extensionBytes.length ++ hello.extensionBytes)))))))) := At.begin hello.body
  generalize hello.body = data at begins
  have session := begins.skip
  rw [head, Nat.zero_add] at session
  have ciphers := session.next.skip
  have compression := ciphers.skip16.skip
  have extensions := compression.next.skip
  have size := extensions.skip16.length
  have few : hello.extensions.length < data.length + 1 := by
    have least : hello.extensions.length ≤ hello.extensionBytes.length := length_le_bytes hello.extensions
    omega
  have found := helloExtensions_all lower hello.each_fits extensions.skip16.all few ([], [])
  have name : (hello.extensions.foldl (fun told e => e.tell told) ([], [])).1 = fromUtf8Lossy hello.name := by
    rw [told_by, hello.named]
    rfl
  have protocol : (hello.extensions.foldl (fun told e => e.tell told) ([], [])).2 = fromUtf8Lossy hello.protocol := by
    rw [told_by, hello.offered, ClientHello.protocol]
    cases hello.alpn with
    | none => rfl
    | some names =>
        cases names with
        | nil => rfl
        | cons name names => rfl
  rw [name, protocol] at found
  unfold parseHelloBody
  rw [if_neg (by omega)]
  simp only [session.byte, ciphers.u16 hello.cipherSuites_fit, compression.byte, extensions.u16 hello.extensions_fit,
    Option.bind_eq_bind, Option.bind_some, byte_toNat hello.session_fits, byte_toNat hello.compression_fits]
  rw [if_neg (by omega), if_neg (by omega), if_neg (by omega), if_neg (by omega), if_neg (by omega)]
  refine found.trans ?_
  rw [helloFound, if_neg (by simpa using fromUtf8Lossy_ne_nil hello.name_some)]

/-- A body is short enough for its length field. -/
theorem body_fits (hello : ClientHello) : hello.body.length < 2 ^ 24 := by
  have session := hello.session_fits
  have ciphers := hello.cipherSuites_fit
  have compression := hello.compression_fits
  have extensions : hello.extensionBytes.length < 2 ^ 16 := hello.extensions_fit
  simp only [ClientHello.body, List.length_append, List.length_cons, hello.version_length, hello.random_length, be16_length]
  omega

end Body

/-! ### Records -/

namespace HelloParser

/-- The parser that has seen this part of a handshake of that length. -/
def seen (length offset : Nat) (contents : List UInt8) : HelloParser where
  recordOffset := offset
  handshake := contents
  handshakeLength := if contents.length ≥ 4 then some length else none

@[simp] theorem seen_offset (length offset : Nat) (contents : List UInt8) : (seen length offset contents).recordOffset = offset := rfl

theorem seen_whole {length offset : Nat} {contents : List UInt8} (more : contents.length < length + 4) :
    (seen length offset contents).whole = none := by
  unfold whole seen
  split
  · rw [Option.filter_eq_none_iff]
    intro n is
    cases is
    simpa using more
  · rfl

theorem seen_done {length offset : Nat} {contents : List UInt8} (all : length + 4 ≤ contents.length) :
    (seen length offset contents).whole = some length := by
  unfold whole seen
  rw [if_pos (by omega)]
  exact Option.filter_eq_some_iff.mpr ⟨rfl, by simpa using all⟩

/-- What the parser has seen of a hello when a record ends. -/
theorem afterRecord_seen {hello : ClientHello} {parser : HelloParser} {behind : List UInt8}
    (part : parser.handshake <+: hello.message ++ behind)
    (known : parser.handshakeLength = none ∨ parser.handshakeLength = some hello.body.length)
    (early : parser.handshakeLength ≠ none → 4 ≤ parser.handshake.length) :
    parser.afterRecord = some (.again (seen hello.body.length parser.recordOffset parser.handshake)) := by
  obtain ⟨offset, handshake, handshakeLength⟩ := parser
  have fits := body_fits hello
  unfold afterRecord seen
  dsimp only at *
  split
  · rename_i long
    obtain ⟨tail, rfl⟩ : ∃ tail, handshake = 0x01 :: UInt8.ofNat (hello.body.length / 65536) ::
        UInt8.ofNat (hello.body.length / 256 % 256) :: UInt8.ofNat (hello.body.length % 256) :: tail := by
      match handshake, long with
      | a :: b :: c :: d :: tail, _ =>
          obtain ⟨rest, is⟩ := part
          rw [ClientHello.message] at is
          simp only [List.cons_append, List.cons.injEq] at is
          obtain ⟨rfl, rfl, rfl, rfl, _⟩ := is
          exact ⟨tail, rfl⟩
    have value : (UInt8.ofNat (hello.body.length / 65536)).toNat * 65536 + (UInt8.ofNat (hello.body.length / 256 % 256)).toNat * 256 +
        (UInt8.ofNat (hello.body.length % 256)).toNat = hello.body.length := by
      rw [byte_toNat (by omega), byte_toNat (by omega), byte_toNat (by omega)]
      omega
    simp only [List.getElem?_cons_zero, List.getElem?_cons_succ, Option.bind_eq_bind, Option.bind_some, value]
    rw [if_neg (fun differs => differs rfl)]
    rcases known with none_ | some_
    · rw [none_]
      rfl
    · rw [some_]
      rfl
  · rename_i short
    have none_ : handshakeLength = none := by
      rcases known with none_ | some_
      · exact none_
      · exact absurd (early (by simp [some_])) short
    rw [none_]

variable (lower : List Char → List Char) {hello : ClientHello} {data contents rest behind : List UInt8} {offset : Nat}
  {record : Record}

theorem record_length (record : Record) : record.bytes.length = 5 + record.fragment.length := by
  simp only [Record.bytes, List.length_cons, List.length_append, be16_length]
  omega

/-- A round that takes a record. -/
theorem round_fragment (more : contents.length < hello.message.length) (at_ : At data offset (record.bytes ++ rest))
    (part : contents ++ record.fragment <+: hello.message ++ behind) :
    round lower data (seen hello.body.length offset contents) =
      some (.again (seen hello.body.length (offset + record.bytes.length) (contents ++ record.fragment))) := by
  have size := at_.length
  have whole : (seen hello.body.length offset contents).whole = none := seen_whole more
  rw [List.length_append, record_length] at size
  obtain ⟨kind, recordLength, one, two, looks⟩ := round_record lower data whole (by rw [seen_offset]; omega)
  have spelled : At data offset (0x16 :: (record.major :: (record.minor :: (be16 record.fragment.length ++ (record.fragment ++ rest))))) := by
    simpa only [Record.bytes, List.cons_append, List.append_assoc] using at_
  have kindIs : data[offset]? = some 0x16 := spelled.byte
  have lengthIs : u16At data (offset + 3) = some record.fragment.length := spelled.next.next.next.u16 record.fits
  have text := spelled.next.next.next.skip16.slice
  simp only [seen_offset] at one two
  rw [kindIs] at one
  rw [lengthIs] at two
  cases one
  cases two
  rw [slice_inside (by omega) (by omega)] at text
  have taken : (seen hello.body.length offset contents).take data record.fragment.length =
      { (seen hello.body.length offset contents) with
        handshake := contents ++ record.fragment
        recordOffset := offset + record.bytes.length } := by
    have same : (data.take (offset + 5 + record.fragment.length)).drop (offset + 5) = record.fragment := Option.some.inj text
    unfold take seen
    dsimp only
    rw [same, record_length, Nat.add_assoc]
  rw [looks, if_neg (fun differs => differs rfl), if_neg (by rw [seen_offset]; omega), taken]
  refine afterRecord_seen part ?_ ?_
  · unfold seen
    dsimp only
    split
    · exact .inr rfl
    · exact .inl rfl
  · intro known
    unfold seen at known
    dsimp only at known ⊢
    rw [List.length_append]
    split at known
    · omega
    · exact absurd rfl known

/-- A record that has not arrived yet is waited for. -/
theorem round_part (more : contents.length < hello.message.length) {front back : List UInt8} (at_ : At data offset front)
    (is : front ++ back = record.bytes) (missing : back ≠ []) :
    round lower data (seen hello.body.length offset contents) = some .wait := by
  have size := at_.length
  have whole : (seen hello.body.length offset contents).whole = none := seen_whole more
  have total := congrArg List.length is
  have some_ := List.length_pos_iff.mpr missing
  rw [List.length_append, record_length] at total
  by_cases head : front.length < 5
  · exact round_short lower whole (by rw [seen_offset]; omega)
  · obtain ⟨kind, recordLength, one, two, looks⟩ := round_record lower data whole (by rw [seen_offset]; omega)
    simp only [seen_offset] at one two
    have spelled : At (data ++ back) offset (0x16 :: (record.major :: (record.minor :: (be16 record.fragment.length ++ record.fragment)))) := by
      obtain ⟨before, rfl, rfl⟩ := at_
      exact ⟨before, by rw [List.append_assoc, is]; rfl, rfl⟩
    have kindIs := spelled.byte
    have lengthIs := spelled.next.next.next.u16 record.fits
    rw [List.getElem?_append_left (by omega), one] at kindIs
    rw [u16At_append (by omega), two] at lengthIs
    cases kindIs
    cases lengthIs
    rw [looks, if_neg (fun differs => differs rfl), if_pos (by rw [seen_offset]; omega)]

theorem message_length (hello : ClientHello) : hello.message.length = hello.body.length + 4 := rfl

/-- The round after the last record. -/
theorem round_seen (hello : ClientHello) (offset : Nat) (data behind : List UInt8) :
    round lower data (seen hello.body.length offset (hello.message ++ behind)) =
      some (.answer (.complete (lower (fromUtf8Lossy hello.name)) (fromUtf8Lossy hello.protocol))
        (seen hello.body.length offset (hello.message ++ behind))) := by
  have done : (seen hello.body.length offset (hello.message ++ behind)).whole = some hello.body.length := by
    refine seen_done ?_
    rw [List.length_append, message_length]
    omega
  obtain ⟨answer, parsed, _, is⟩ := round_whole lower done data
  have body : ((hello.message ++ behind).take (hello.body.length + 4)).drop 4 = hello.body := by
    rw [List.take_left' (message_length hello)]
    rfl
  have same : (seen hello.body.length offset (hello.message ++ behind)).handshake = hello.message ++ behind := rfl
  rw [same, body, parseHelloBody_hello] at parsed
  cases parsed
  exact is

/-- The rounds over all the records. -/
theorem scan_records (contents : List UInt8) (before : List Record) {last : Record}
    (whole : contents ++ (before ++ [last]).flatMap Record.fragment = hello.message ++ behind)
    (unfinished : (contents ++ before.flatMap Record.fragment).length < hello.message.length)
    (at_ : At data offset ((before ++ [last]).flatMap Record.bytes ++ rest)) :
    ∃ parser, scan (round lower) data (before.length + 2) (seen hello.body.length offset contents) =
      some (some (.complete (lower (fromUtf8Lossy hello.name)) (fromUtf8Lossy hello.protocol)), parser) := by
  induction before generalizing contents offset with
  | nil =>
      rw [List.nil_append, List.flatMap_singleton] at whole at_
      rw [List.flatMap_nil, List.append_nil] at unfinished
      have taken := round_fragment lower unfinished at_ ⟨[], (List.append_nil _).trans whole⟩
      rw [whole] at taken
      exact ⟨_, (scan_again taken).trans (scan_answers (round_seen lower hello _ data behind))⟩
  | cons record before ih =>
      rw [List.cons_append, List.flatMap_cons, List.append_assoc] at at_
      rw [List.cons_append, List.flatMap_cons, ← List.append_assoc] at whole
      rw [List.flatMap_cons, ← List.append_assoc] at unfinished
      have more : contents.length < hello.message.length := by
        simp only [List.length_append] at unfinished
        omega
      have taken := round_fragment lower more at_ ⟨_, whole⟩
      obtain ⟨parser, found⟩ := ih _ whole unfinished at_.skip
      exact ⟨parser, (scan_again taken).trans found⟩

/-- The rounds over a part of the records. -/
theorem scan_part (contents : List UInt8) (before : List Record) {last : Record} {front back : List UInt8}
    (whole : contents ++ (before ++ [last]).flatMap Record.fragment = hello.message ++ behind)
    (unfinished : (contents ++ before.flatMap Record.fragment).length < hello.message.length)
    (at_ : At data offset front) (is : front ++ back = (before ++ [last]).flatMap Record.bytes) (missing : back ≠ []) :
    ∃ fuel parser, scan (round lower) data fuel (seen hello.body.length offset contents) = some (none, parser) := by
  induction before generalizing contents offset front with
  | nil =>
      rw [List.nil_append, List.flatMap_singleton] at is
      rw [List.flatMap_nil, List.append_nil] at unfinished
      exact ⟨1, _, scan_wait (round_part lower unfinished at_ is missing)⟩
  | cons record before ih =>
      rw [List.cons_append, List.flatMap_cons] at is
      rw [List.cons_append, List.flatMap_cons, ← List.append_assoc] at whole
      rw [List.flatMap_cons, ← List.append_assoc] at unfinished
      have more : contents.length < hello.message.length := by
        simp only [List.length_append] at unfinished
        omega
      rcases List.append_eq_append_iff.mp is with ⟨gap, rest, behind⟩ | ⟨front', rfl, rest⟩
      · by_cases none_ : gap = []
        · -- the record has just arrived, and the next one has not
          subst none_
          rw [List.append_nil] at rest
          subst rest
          have taken := round_fragment lower more (at_.all) ⟨_, whole⟩
          obtain ⟨fuel, parser, found⟩ := ih _ whole unfinished (at_.all.skip) (by simpa using behind)
          exact ⟨fuel + 1, parser, (scan_again taken).trans found⟩
        · exact ⟨1, _, scan_wait (round_part lower more at_ rest.symm none_)⟩
      · have taken := round_fragment lower more at_ ⟨_, whole⟩
        obtain ⟨fuel, parser, found⟩ := ih _ whole unfinished at_.skip rest.symm
        exact ⟨fuel + 1, parser, (scan_again taken).trans found⟩

theorem seen_nothing (length : Nat) : seen length 0 [] = {} := rfl

end HelloParser

/-- A hello is read from its records, however it is cut into them. -/
theorem parseClientHello_cut (lower : List Char → List Char) {hello : ClientHello} (cut : Cut hello.message)
    (rest : List UInt8) : parseClientHello lower (cut.bytes ++ rest) =
      some (.complete (lower (fromUtf8Lossy hello.name)) (fromUtf8Lossy hello.protocol)) := by
  obtain ⟨parser, found⟩ := HelloParser.scan_records lower [] cut.before cut.whole cut.unfinished (At.begin (cut.bytes ++ rest))
  rw [HelloParser.seen_nothing] at found
  rw [parseClientHello_scan, scanAll_of_scan (HelloParser.steady lower) found]
  rfl

/-- A part of the records is waited for. -/
theorem parseClientHello_part (lower : List Char → List Char) {hello : ClientHello} (cut : Cut hello.message)
    {front back : List UInt8} (is : front ++ back = cut.bytes) (missing : back ≠ []) :
    parseClientHello lower front = some .incomplete := by
  obtain ⟨fuel, parser, found⟩ :=
    HelloParser.scan_part lower [] cut.before cut.whole cut.unfinished (At.begin front) is missing
  rw [HelloParser.seen_nothing] at found
  rw [parseClientHello_scan, scanAll_of_scan (HelloParser.steady lower) found]
  rfl

/-- A ClientHello is read however it is cut into records, and waited for until its last record is there. -/
theorem hello_records (lower : List Char → List Char) (hello : ClientHello) (cut : Cut hello.message) :
    (∀ rest, parseClientHello lower (cut.bytes ++ rest) =
      some (.complete (lower (fromUtf8Lossy hello.name)) (fromUtf8Lossy hello.protocol))) ∧
    ∀ front back, front ++ back = cut.bytes → back ≠ [] → parseClientHello lower front = some .incomplete := by
  constructor
  · intro rest
    exact parseClientHello_cut lower cut rest
  · intro front back is missing
    exact parseClientHello_part lower cut is missing

theorem tls12_length : [(3 : UInt8), 3].length = 2 := rfl

theorem zeros_length : (List.replicate 32 (0 : UInt8)).length = 32 := rfl

theorem no_session_fits : ([] : List UInt8).length < 2 ^ 8 := by decide

theorem nothing_fits : ([] : List UInt8).length < 2 ^ 16 := by decide

theorem uncompressed_fits : [(0 : UInt8)].length < 2 ^ 8 := by decide

namespace Sample

/-- A hello for `a` that offers `h2`. -/
def hello : ClientHello where
  version := [3, 3]
  random := List.replicate 32 0
  session := []
  cipherSuites := [0x13, 1]
  compression := [0]
  extensions := [.other 43 [2, 3, 4], .serverName [97], .protocols [[104, 50], [104]]]
  name := [97]
  alpn := some [[104, 50], [104]]
  version_length := tls12_length
  random_length := zeros_length
  session_fits := no_session_fits
  cipherSuites_fit := by decide
  compression_fits := uncompressed_fits
  extensions_fit := by decide
  each_fits := by simp [Extension.Fits, Extension.body, be16, Extension.protocolList]
  named := rfl
  name_some := by decide
  offered := rfl

/-- Its first byte alone, an empty record, and the rest with a byte behind it. -/
def cut : Cut hello.message where
  before := [⟨3, 1, [1], by decide⟩, ⟨3, 1, [], nothing_fits⟩]
  last := ⟨3, 3, hello.message.drop 1 ++ [9], by decide +kernel⟩
  behind := [9]
  whole := by decide +kernel
  unfinished := by decide +kernel

end Sample

theorem hello_records_sample :
    parseClientHello id (Sample.cut.bytes ++ [7]) = some (.complete ['a'] ['h', '2']) ∧
      parseClientHello id Sample.cut.bytes.dropLast = some .incomplete := by
  have found := hello_records id Sample.hello Sample.cut
  have parts : Sample.cut.bytes.dropLast ++ [9] = Sample.cut.bytes := by decide +kernel
  have text : fromUtf8Lossy [97] = ['a'] ∧ fromUtf8Lossy [104, 50] = ['h', '2'] := by decide +kernel
  exact ⟨(found.1 [7]).trans (by rw [← text.1, ← text.2]; rfl), found.2 _ [9] parts (by decide)⟩

end OpenTunnel
