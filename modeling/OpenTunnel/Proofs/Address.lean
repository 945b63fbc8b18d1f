/-
Module: OpenTunnel.Proofs.Address
Layer: Proofs
Purpose: Which texts spell an address. The spellings are given part by part, without a reader: four decimal octets between
  dots, groups of hexadecimal digits between colons with an IPv4 address in the last place, and a gap of two colons. The
  readers of the standard library take exactly these texts, and give what they spell.
Imports: OpenTunnel.Model.Address
Trusted boundary: none (fully proved)
Main exports: OctetText, GroupText, Ipv4Text, GroupsText, Ipv6Text, Ipv4Addr.parse_iff, Ipv6Addr.parse_iff,
  IpAddr.parse_v4_iff, IpAddr.parse_v6_iff
Open obligations: none
-/
import OpenTunnel.Model.Address

namespace OpenTunnel

open Formats

/-! ### Numbers -/

/-- At most three decimal digits, no zero in front of others. -/
structure OctetText (part : List Char) (octet : UInt8) : Prop where
  digits : Digits 10 part
  some_ : part ≠ []
  short : part.length ≤ 3
  zero : part.head? = some '0' → part.length = 1
  small : numeral 10 part < 2 ^ 8
  value : octet = UInt8.ofNat (numeral 10 part)

/-- At most four hexadecimal digits. -/
structure GroupText (part : List Char) (group : UInt16) : Prop where
  digits : Digits 16 part
  some_ : part ≠ []
  short : part.length ≤ 4
  value : group = UInt16.ofNat (numeral 16 part)

theorem GroupText.small {part : List Char} {group : UInt16} (is : GroupText part group) : numeral 16 part < 2 ^ 16 := by
  calc numeral 16 part < 16 ^ part.length := numeral_lt (by omega) part
    _ ≤ 16 ^ 4 := Nat.pow_le_pow_right (by omega) is.short
    _ = 2 ^ 16 := by decide

/-- What stands between the digits and the rest. -/
theorem readNumber_of {radix most : Nat} {zeros : Bool} {part rest : List Char} (digits : Digits radix part)
    (stops : DigitsEnd radix rest) (some_ : part ≠ []) (short : part.length ≤ most)
    (zero : zeros = false → part.head? = some '0' → part.length = 1) :
    readNumber radix most zeros (part ++ rest) = some (numeral radix part, rest) := by
  have head : (part ++ rest).head? = part.head? := by
    cases part with
    | nil => exact absurd rfl some_
    | cons c part => rfl
  have count : ¬ part.length = 0 := fun none_ => some_ (List.length_eq_zero_iff.mp none_)
  rw [readNumber, scanDigits_of_digits digits stops (by omega) 0]
  simp only [Nat.zero_add, if_neg count, head]
  split
  · rename_i refused
    simp only [Bool.and_eq_true, Bool.not_eq_true', beq_iff_eq, decide_eq_true_eq] at refused
    obtain ⟨⟨strict, leading⟩, long⟩ := refused
    have one := zero strict leading
    omega
  · rfl

theorem readNumber_spec {radix most : Nat} {zeros : Bool} {text : List Char} {found : Nat × List Char}
    (read : readNumber radix most zeros text = some found) : ∃ part, text = part ++ found.2 ∧ Digits radix part ∧
    DigitsEnd radix found.2 ∧ part ≠ [] ∧ part.length ≤ most ∧
    (zeros = false → part.head? = some '0' → part.length = 1) ∧ found.1 = numeral radix part := by
  unfold readNumber at read
  split at read
  · cases read
  · rename_i result count rest scanned
    obtain ⟨part, shape, digits, stops, counted, bounded, value⟩ := scanDigits_spec scanned
    dsimp only at shape counted bounded value stops
    split at read
    · cases read
    · rename_i counted_
      split at read
      · cases read
      · rename_i allowed
        cases read
        have some_ : part ≠ [] := by
          intro none_
          rw [none_] at counted
          exact counted_ counted
        refine ⟨part, shape, digits, stops, some_, ?_, ?_, value⟩
        · have fits := bounded (Nat.zero_le _)
          omega
        · intro strict leading
          have head : text.head? = some '0' := by
            rw [shape]
            cases part with
            | nil => exact absurd rfl some_
            | cons c part => exact leading
          have long : ¬ count > 1 := by
            intro long
            apply allowed
            simp [strict, head, long]
          have pos := List.length_pos_iff.mpr some_
          omega

theorem readOctet_of {part rest : List Char} {octet : UInt8} (is : OctetText part octet) (stops : DigitsEnd 10 rest) :
    readOctet (part ++ rest) = some (octet, rest) := by
  rw [readOctet, readNumber_of is.digits stops is.some_ is.short (fun _ => is.zero)]
  dsimp only
  rw [if_pos is.small, is.value]

theorem readOctet_spec {text : List Char} {found : UInt8 × List Char} (read : readOctet text = some found) :
    ∃ part, text = part ++ found.2 ∧ OctetText part found.1 ∧ DigitsEnd 10 found.2 := by
  unfold readOctet at read
  split at read
  · rename_i n rest number
    obtain ⟨part, shape, digits, stops, some_, short, zero, value⟩ := readNumber_spec number
    dsimp only at shape stops value
    split at read
    · rename_i small
      cases read
      rw [value] at small
      exact ⟨part, shape, ⟨digits, some_, short, zero rfl, small, by rw [value]⟩, stops⟩
    · cases read
  · cases read

theorem readGroup_of {part rest : List Char} {group : UInt16} (is : GroupText part group) (stops : DigitsEnd 16 rest) :
    readGroup (part ++ rest) = some (group, rest) := by
  rw [readGroup, readNumber_of is.digits stops is.some_ is.short (by simp)]
  dsimp only
  rw [if_pos is.small, is.value]

theorem readGroup_spec {text : List Char} {found : UInt16 × List Char} (read : readGroup text = some found) :
    ∃ part, text = part ++ found.2 ∧ GroupText part found.1 ∧ DigitsEnd 16 found.2 := by
  unfold readGroup at read
  split at read
  · rename_i n rest number
    obtain ⟨part, shape, digits, stops, some_, short, _, value⟩ := readNumber_spec number
    dsimp only at shape stops value
    split at read
    · cases read
      exact ⟨part, shape, ⟨digits, some_, short, by rw [value]⟩, stops⟩
    · cases read
  · cases read

/-! ### IPv4 addresses -/

/-- Four octets between dots. -/
inductive Ipv4Text : List Char → Ipv4Addr → Prop where
  | intro {ta tb tc td : List Char} {a b c d : UInt8} : OctetText ta a → OctetText tb b → OctetText tc c →
      OctetText td d → Ipv4Text (ta ++ '.' :: (tb ++ '.' :: (tc ++ '.' :: td))) ⟨a, b, c, d⟩

theorem dot_ends {radix : Nat} {rest : List Char} : DigitsEnd radix ('.' :: rest) := digitsEnd_cons rfl

theorem colon_ends {radix : Nat} {rest : List Char} : DigitsEnd radix (':' :: rest) := digitsEnd_cons rfl

/-- The next octet, after its dot. -/
theorem readSeparator_of {α : Type} {separator : Char} {inner : TextReader α} {text : List Char} {index : Nat} :
    readSeparator separator (index + 1) inner (separator :: text) = inner text := by
  simp [readSeparator, readGivenChar]

theorem readSeparator_spec {α : Type} {separator : Char} {inner : TextReader α} {text : List Char} {index : Nat}
    {found : α × List Char} (read : readSeparator separator (index + 1) inner text = some found) :
    ∃ rest, text = separator :: rest ∧ inner rest = some found := by
  simp only [readSeparator, Nat.succ_pos, if_true] at read
  cases text with
  | nil => cases read
  | cons c rest =>
      simp only [readGivenChar] at read
      split at read
      · rename_i same
        exact ⟨rest, by rw [same], read⟩
      · cases read

theorem readIpv4Addr_of {text rest : List Char} {ip : Ipv4Addr} (is : Ipv4Text text ip) (stops : DigitsEnd 10 rest) :
    readIpv4Addr (text ++ rest) = some (ip, rest) := by
  cases is with
  | @intro ta tb tc td a b c d ha hb hc hd =>
      have shape : ta ++ '.' :: (tb ++ '.' :: (tc ++ '.' :: td)) ++ rest =
          ta ++ '.' :: (tb ++ '.' :: (tc ++ '.' :: (td ++ rest))) := by
        simp
      have first : readSeparator '.' 0 readOctet (ta ++ '.' :: (tb ++ '.' :: (tc ++ '.' :: (td ++ rest)))) =
          some (a, '.' :: (tb ++ '.' :: (tc ++ '.' :: (td ++ rest)))) := readOctet_of ha dot_ends
      rw [shape, readIpv4Addr, first]
      dsimp only [bind, Option.bind]
      rw [readSeparator_of, readOctet_of hb dot_ends]
      dsimp only
      rw [readSeparator_of, readOctet_of hc dot_ends]
      dsimp only
      rw [readSeparator_of, readOctet_of hd stops]

theorem readIpv4Addr_spec {text : List Char} {found : Ipv4Addr × List Char} (read : readIpv4Addr text = some found) :
    ∃ front, text = front ++ found.2 ∧ Ipv4Text front found.1 ∧ DigitsEnd 10 found.2 := by
  unfold readIpv4Addr at read
  simp only [Option.bind_eq_bind, Option.bind_eq_some_iff] at read
  obtain ⟨⟨a, t₁⟩, first, ⟨b, t₂⟩, second, ⟨c, t₃⟩, third, ⟨d, t₄⟩, fourth, is⟩ := read
  cases is
  obtain ⟨ta, rfl, ha, _⟩ := readOctet_spec first
  obtain ⟨r₁, s₁, second⟩ := readSeparator_spec second
  obtain ⟨tb, rfl, hb, _⟩ := readOctet_spec second
  obtain ⟨r₂, s₂, third⟩ := readSeparator_spec third
  obtain ⟨tc, rfl, hc, _⟩ := readOctet_spec third
  obtain ⟨r₃, s₃, fourth⟩ := readSeparator_spec fourth
  obtain ⟨td, rfl, hd, stops⟩ := readOctet_spec fourth
  dsimp only at s₁ s₂ s₃ stops
  refine ⟨ta ++ '.' :: (tb ++ '.' :: (tc ++ '.' :: td)), ?_, .intro ha hb hc hd, stops⟩
  simp [s₁, s₂, s₃]

/-- An IPv4 address is read only where a dot comes first after the digits. -/
theorem readIpv4Addr_dot {text : List Char} {found : Ipv4Addr × List Char} (read : readIpv4Addr text = some found) :
    ∃ part rest, text = part ++ '.' :: rest ∧ Digits 10 part := by
  obtain ⟨ip, behind⟩ := found
  obtain ⟨front, shape, is, _⟩ := readIpv4Addr_spec read
  cases is with
  | @intro ta tb tc td a b c d ha hb hc hd =>
      exact ⟨ta, tb ++ '.' :: (tc ++ '.' :: td) ++ behind, by rw [shape]; simp, ha.digits⟩

/-- Digits of a group with a colon or nothing behind them begin no IPv4 address. -/
theorem readIpv4Addr_group {part rest : List Char} (digits : Digits 16 part) (stops : rest = [] ∨ ∃ t, rest = ':' :: t) :
    readIpv4Addr (part ++ rest) = none := by
  cases read : readIpv4Addr (part ++ rest) with
  | none => rfl
  | some found =>
      obtain ⟨part', rest', shape, digits'⟩ := readIpv4Addr_dot read
      have nowhere : '.' ∉ part := by
        intro held
        have digit := digits '.' held
        revert digit
        decide
      have colon : ':' ∉ part' := by
        intro held
        have digit := digits' ':' held
        revert digit
        decide
      rcases List.append_eq_append_iff.mp shape with ⟨m, longer, behind⟩ | ⟨m, shorter, behind⟩
      · -- the digits reach beyond the group, over the colon
        rcases stops with rfl | ⟨t, rfl⟩
        · cases m <;> cases behind
        · cases m with
          | nil => cases behind
          | cons c m =>
              cases behind
              exact absurd (longer ▸ List.mem_append_right part List.mem_cons_self) colon
      · cases m with
        | nil =>
            rcases stops with rfl | ⟨t, rfl⟩
            · cases behind
            · cases behind
        | cons c m =>
            cases behind
            exact absurd (shorter ▸ List.mem_append_right part' List.mem_cons_self) nowhere

/-! ### Groups -/

/-- The parts of a text between colons and their groups; an IPv4 address may be the last part where it is allowed. -/
inductive GroupsText : Bool → List (List Char) → List UInt16 → Prop where
  | nil {allow : Bool} : GroupsText allow [] []
  | group {allow : Bool} {part : List Char} {group : UInt16} {parts : List (List Char)} {groups : List UInt16} :
      GroupText part group → GroupsText allow parts groups → GroupsText allow (part :: parts) (group :: groups)
  | ipv4 {part : List Char} {ip : Ipv4Addr} :
      Ipv4Text part ip → GroupsText true [part] [fromBeBytes ip.a ip.b, fromBeBytes ip.c ip.d]

/-- The parts from the one at `index` on, each behind its colon but the very first. -/
def led : Nat → List (List Char) → List Char
  | _, [] => []
  | 0, part :: parts => part ++ led 1 parts
  | index + 1, part :: parts => ':' :: part ++ led (index + 2) parts

theorem led_succ (index : Nat) (parts : List (List Char)) : led (index + 1) parts = led 1 parts := by
  induction parts generalizing index with
  | nil => rfl
  | cons part parts ih =>
      rw [led, led, ih (index + 1), ih 1]

theorem led_intercalate (parts : List (List Char)) : led 0 parts = [':'].intercalate parts := by
  have behind (parts : List (List Char)) (part : List Char) :
      part ++ led 1 parts = [':'].intercalate (part :: parts) := by
    induction parts generalizing part with
    | nil => simp [led]
    | cons next parts ih =>
        rw [led, led_succ, List.intercalate_cons_cons, ← ih next]
        simp
  cases parts with
  | nil => rfl
  | cons part parts => exact behind parts part

/-- What stands behind the groups: nothing, or the gap. -/
def GroupsEnd (rest : List Char) : Prop := rest = [] ∨ ∃ t, rest = ':' :: ':' :: t

theorem led_ends (index : Nat) (parts : List (List Char)) {rest : List Char} (stops : GroupsEnd rest) :
    led (index + 1) parts ++ rest = [] ∨ ∃ t, led (index + 1) parts ++ rest = ':' :: t := by
  cases parts with
  | nil =>
      rcases stops with rfl | ⟨t, rfl⟩
      · exact .inl rfl
      · exact .inr ⟨':' :: t, rfl⟩
  | cons part parts => exact .inr ⟨_, rfl⟩

theorem ends_digits {radix : Nat} {rest : List Char} (stops : rest = [] ∨ ∃ t, rest = ':' :: t) :
    DigitsEnd radix rest := by
  rcases stops with rfl | ⟨t, rfl⟩
  · exact digitsEnd_nil
  · exact colon_ends

theorem readOctet_stop {text : List Char} (stops : DigitsEnd 10 text) : readOctet text = none := by
  have scanned : scanDigits 10 3 0 0 ([] ++ text) = some (0, 0, text) :=
    scanDigits_of_digits (by simp [Digits]) stops (by simp) 0
  rw [List.nil_append] at scanned
  simp [readOctet, readNumber, scanned]

theorem readGroup_stop {text : List Char} (stops : DigitsEnd 16 text) : readGroup text = none := by
  have scanned : scanDigits 16 4 0 0 ([] ++ text) = some (0, 0, text) :=
    scanDigits_of_digits (by simp [Digits]) stops (by simp) 0
  rw [List.nil_append] at scanned
  simp [readGroup, readNumber, scanned]

theorem readIpv4Addr_stop {text : List Char} (stops : DigitsEnd 10 text) : readIpv4Addr text = none := by
  have first : readSeparator '.' 0 readOctet text = none := readOctet_stop stops
  rw [readIpv4Addr, first]
  rfl

/-- Nothing is read where the groups are at their end. -/
theorem readSeparator_end {α : Type} {inner : TextReader α} {index : Nat} {rest : List Char} (stops : GroupsEnd rest)
    (stuck : ∀ text, (text = [] ∨ ∃ t, text = ':' :: t) → inner text = none) :
    readSeparator ':' index inner rest = none := by
  cases index with
  | zero =>
      rcases stops with rfl | ⟨t, rfl⟩
      · exact stuck _ (.inl rfl)
      · exact stuck _ (.inr ⟨_, rfl⟩)
  | succ index =>
      rcases stops with rfl | ⟨t, rfl⟩
      · rfl
      · rw [readSeparator_of]
        exact stuck _ (.inr ⟨t, rfl⟩)

theorem readGroups_end {index slots : Nat} {rest : List Char} (stops : GroupsEnd rest) :
    readGroups index slots rest = ([], false, rest) := by
  cases slots with
  | zero => rfl
  | succ slots =>
      have noIpv4 : (if 0 < slots then readSeparator ':' index readIpv4Addr rest else none) = none := by
        rw [readSeparator_end stops (fun text ends => readIpv4Addr_stop (ends_digits ends)), ite_self]
      rw [readGroups, noIpv4, readSeparator_end stops (fun text ends => readGroup_stop (ends_digits ends))]

/-- The reader of the part at `index`. -/
theorem readSeparator_led {α : Type} (inner : TextReader α) (index : Nat) (part : List Char)
    (parts : List (List Char)) (rest : List Char) :
    readSeparator ':' index inner (led index (part :: parts) ++ rest) = inner (part ++ (led (index + 1) parts ++ rest)) := by
  cases index with
  | zero => simp [led, readSeparator]
  | succ index =>
      rw [led, List.cons_append, List.cons_append, readSeparator_of, List.append_assoc]

/-- Groups that are spelled are read, up to what stands behind them. -/
theorem readGroups_of {allow : Bool} {parts : List (List Char)} {groups : List UInt16}
    (is : GroupsText allow parts groups) (index slots : Nat) (fits : groups.length ≤ slots) {rest : List Char}
    (stops : GroupsEnd rest) (last : allow = true → rest = []) :
    ∃ ipv4, readGroups index slots (led index parts ++ rest) = (groups, ipv4, rest) ∧ (allow = false → ipv4 = false) := by
  induction is generalizing index slots with
  | nil => exact ⟨false, readGroups_end stops, fun _ => rfl⟩
  | @group allow part group parts groups text is ih =>
      cases slots with
      | zero => simp at fits
      | succ slots =>
          obtain ⟨ipv4, later, plain⟩ := ih (index + 1) slots (by simpa using fits) last
          have behind := led_ends index parts stops
          have noIpv4 : (if 0 < slots then readSeparator ':' index readIpv4Addr (led index (part :: parts) ++ rest)
              else none) = none := by
            rw [readSeparator_led, readIpv4Addr_group text.digits behind, ite_self]
          refine ⟨ipv4, ?_, plain⟩
          rw [readGroups, noIpv4, readSeparator_led, readGroup_of text (ends_digits behind)]
          dsimp only
          rw [later]
  | @ipv4 part ip text =>
      have ends := last rfl
      subst ends
      cases slots with
      | zero => simp at fits
      | succ slots =>
          have two : 0 < slots := by
            simp only [List.length_cons, List.length_nil] at fits
            omega
          have found : readSeparator ':' index readIpv4Addr (led index [part] ++ []) = some (ip, []) := by
            rw [readSeparator_led]
            exact readIpv4Addr_of text digitsEnd_nil
          refine ⟨true, ?_, fun plain => by cases plain⟩
          rw [readGroups, if_pos two, found]

theorem led_cons (index : Nat) (part : List Char) (parts : List (List Char)) :
    led index (part :: parts) = led index [part] ++ led (index + 1) parts := by
  cases index with
  | zero => simp [led]
  | succ index => simp [led]

/-- What a reader takes at `index` is the part there, behind its colon. -/
theorem readSeparator_part {α : Type} {inner : TextReader α} {index : Nat} {text : List Char} {found : α × List Char}
    (read : readSeparator ':' index inner text = some found) :
    ∃ rest, inner rest = some found ∧ ∀ part, rest = part ++ found.2 → text = led index [part] ++ found.2 := by
  cases index with
  | zero => exact ⟨text, read, fun part shape => by simp [led, shape]⟩
  | succ index =>
      obtain ⟨rest, rfl, read⟩ := readSeparator_spec read
      exact ⟨rest, read, fun part shape => by simp [led, shape]⟩

/-- Groups that are read are spelled in front of what is left. -/
theorem readGroups_spec {index slots : Nat} {text : List Char} {found : List UInt16 × Bool × List Char}
    (read : readGroups index slots text = found) :
    ∃ parts, text = led index parts ++ found.2.2 ∧ GroupsText found.2.1 parts found.1 ∧ found.1.length ≤ slots := by
  induction slots generalizing index text found with
  | zero =>
      cases read
      exact ⟨[], rfl, .nil, Nat.le_refl _⟩
  | succ slots ih =>
      rw [readGroups] at read
      split at read
      · rename_i ip rest ipv4
        split at ipv4
        · rename_i two
          cases read
          obtain ⟨start, inner, shape⟩ := readSeparator_part ipv4
          obtain ⟨part, is, spelled, _⟩ := readIpv4Addr_spec inner
          exact ⟨[part], shape part is, .ipv4 spelled, by simp only [List.length_cons, List.length_nil]; omega⟩
        · cases ipv4
      · split at read
        · rename_i group rest number
          obtain ⟨start, inner, shape⟩ := readSeparator_part number
          obtain ⟨part, is, spelled, _⟩ := readGroup_spec inner
          obtain ⟨parts, later, groups, fits⟩ := ih (rfl : readGroups (index + 1) slots rest = _)
          cases read
          refine ⟨part :: parts, ?_, .group spelled groups, Nat.succ_le_succ fits⟩
          rw [led_cons, List.append_assoc, ← later]
          exact shape part is
        · cases read
          exact ⟨[], rfl, .nil, Nat.zero_le _⟩

/-! ### IPv6 addresses -/

/-- Eight groups, or a gap for at least one. -/
inductive Ipv6Text : List Char → List UInt16 → Prop where
  | full {parts : List (List Char)} {groups : List UInt16} : GroupsText true parts groups → groups.length = 8 →
      Ipv6Text (led 0 parts) groups
  | gap {headParts tailParts : List (List Char)} {head tail : List UInt16} : GroupsText false headParts head →
      GroupsText true tailParts tail → head.length + tail.length ≤ 7 →
      Ipv6Text (led 0 headParts ++ ':' :: ':' :: led 0 tailParts)
        (head ++ List.replicate (8 - head.length - tail.length) 0 ++ tail)

theorem GroupsText.allow {allow : Bool} {parts : List (List Char)} {groups : List UInt16}
    (is : GroupsText allow parts groups) : GroupsText true parts groups := by
  induction is with
  | nil => exact .nil
  | group text _ ih => exact .group text ih
  | ipv4 text => exact .ipv4 text

theorem parseWith_iff {α : Type} {inner : TextReader α} {text : List Char} {a : α} :
    parseWith inner text = some a ↔ inner text = some (a, []) := by
  unfold parseWith
  constructor
  · intro parsed
    split at parsed
    · rename_i read
      cases parsed
      exact read
    · cases parsed
  · intro read
    rw [read]

theorem ofGroups_iff {groups : List UInt16} {ip : Ipv6Addr} : Ipv6Addr.ofGroups groups = some ip ↔ ip.segments = groups := by
  unfold Ipv6Addr.ofGroups
  constructor
  · intro is
    split at is
    · cases is
      rfl
    · cases is
  · intro is
    subst is
    rw [dif_pos ip.length]

theorem readGivenChar_iff {target : Char} {text rest : List Char} :
    readGivenChar target text = some rest ↔ text = target :: rest := by
  cases text with
  | nil => simp [readGivenChar]
  | cons c text =>
      simp only [readGivenChar, List.cons.injEq]
      split <;> simp_all

theorem readIpv6Addr_of {text : List Char} {ip : Ipv6Addr} (is : Ipv6Text text ip.segments) :
    readIpv6Addr text = some (ip, []) := by
  generalize spelled : ip.segments = segments at is
  cases is with
  | full groups eight =>
      obtain ⟨ipv4, read, _⟩ := readGroups_of groups 0 8 (by omega) (.inl rfl) (fun _ => rfl)
      rw [List.append_nil] at read
      simp only [readIpv6Addr, read, if_pos eight, ofGroups_iff.mpr spelled, Option.map_some]
  | @gap headParts tailParts head tail headText tailText fits =>
      obtain ⟨ipv4, headRead, plain⟩ := readGroups_of headText 0 8 (by omega)
        (.inr ⟨led 0 tailParts, rfl⟩) (fun allow => by cases allow)
      obtain ⟨_, tailRead, _⟩ := readGroups_of tailText 0 (8 - (head.length + 1)) (by omega)
        (.inl rfl) (fun _ => rfl)
      rw [List.append_nil] at tailRead
      have short : ¬ head.length = 8 := by omega
      simp only [readIpv6Addr, headRead, if_neg short, plain rfl, Bool.false_eq_true, if_false, Option.bind_eq_bind,
        readGivenChar, if_true, Option.bind_some, tailRead, ofGroups_iff.mpr spelled, Option.map_some]

theorem readIpv6Addr_spec {text : List Char} {ip : Ipv6Addr} (read : readIpv6Addr text = some (ip, [])) :
    Ipv6Text text ip.segments := by
  unfold readIpv6Addr at read
  obtain ⟨parts, shape, groups, few⟩ := readGroups_spec (rfl : readGroups 0 8 text = _)
  generalize readGroups 0 8 text = found at read shape groups few
  obtain ⟨head, headIpv4, rest⟩ := found
  dsimp only at read shape groups few
  split at read
  · rename_i eight
    obtain ⟨ip', of, is⟩ := Option.map_eq_some_iff.mp read
    cases is
    rw [ofGroups_iff.mp of, shape, List.append_nil]
    exact .full groups.allow eight
  · split at read
    · cases read
    · rename_i plain
      simp only [Bool.not_eq_true] at plain
      rw [plain] at groups
      simp only [Option.bind_eq_bind, Option.bind_eq_some_iff] at read
      obtain ⟨rest₁, colon, rest₂, colon', read⟩ := read
      rw [readGivenChar_iff.mp colon, readGivenChar_iff.mp colon'] at shape
      obtain ⟨tailParts, tailShape, tailGroups, fits⟩ := readGroups_spec
        (rfl : readGroups 0 (8 - (head.length + 1)) rest₂ = _)
      generalize readGroups 0 (8 - (head.length + 1)) rest₂ = found at read tailShape tailGroups fits
      obtain ⟨tail, tailIpv4, rest₃⟩ := found
      dsimp only at read tailShape tailGroups fits
      obtain ⟨ip', of, is⟩ := Option.map_eq_some_iff.mp read
      cases is
      rw [ofGroups_iff.mp of, shape, tailShape, List.append_nil]
      exact .gap groups tailGroups.allow (by omega)

/-! ### What is parsed -/

theorem Ipv6Addr.parse_iff {text : List Char} {ip : Ipv6Addr} :
    Ipv6Addr.parse text = some ip ↔ Ipv6Text text ip.segments :=
  parseWith_iff.trans ⟨readIpv6Addr_spec, readIpv6Addr_of⟩

theorem parseWith_ipv4_iff {text : List Char} {ip : Ipv4Addr} : parseWith readIpv4Addr text = some ip ↔ Ipv4Text text ip := by
  rw [parseWith_iff]
  constructor
  · intro read
    obtain ⟨front, shape, is, _⟩ := readIpv4Addr_spec read
    rw [shape, List.append_nil]
    exact is
  · intro is
    have read := readIpv4Addr_of is digitsEnd_nil
    rwa [List.append_nil] at read

theorem utf8_length_ascii {text : List Char} (ascii : ∀ c ∈ text, c.val ≤ 127) : (utf8 text).length = text.length := by
  induction text with
  | nil => rfl
  | cons c text ih =>
      have one : c.utf8Size = 1 := Char.utf8Size_eq_one_iff.mpr (ascii c List.mem_cons_self)
      rw [utf8_cons, List.length_append, String.length_utf8EncodeChar, one, List.length_cons,
        ih (fun c held => ascii c (List.mem_cons_of_mem _ held)), Nat.add_comm]

theorem digit_ascii {radix : Nat} {c : Char} (digit : (toDigit radix c).isSome = true) : c.val ≤ 127 := by
  have value : (digitValue c).isSome = true := by
    cases is : digitValue c with
    | none => simp [toDigit, is] at digit
    | some n => rfl
  have below (d : Char) (small : d.val ≤ 127) (under : c ≤ d) : c.val ≤ 127 := UInt32.le_trans under small
  unfold digitValue at value
  split at value
  · rename_i both
    simp only [Bool.and_eq_true, decide_eq_true_eq] at both
    exact below '9' (by decide) both.2
  · split at value
    · rename_i both
      simp only [Bool.and_eq_true, decide_eq_true_eq] at both
      exact below 'z' (by decide) both.2
    · split at value
      · rename_i both
        simp only [Bool.and_eq_true, decide_eq_true_eq] at both
        exact below 'Z' (by decide) both.2
      · cases value

/-- The characters of an IPv4 address, and its length. -/
theorem Ipv4Text.chars {text : List Char} {ip : Ipv4Addr} (is : Ipv4Text text ip) :
    (∀ c ∈ text, (toDigit 10 c).isSome = true ∨ c = '.') ∧ text.length ≤ 15 := by
  cases is with
  | @intro ta tb tc td a b c d ha hb hc hd =>
      constructor
      · intro x held
        simp only [List.mem_append, List.mem_cons] at held
        rcases held with held | rfl | held | rfl | held | rfl | held
        · exact .inl (ha.digits x held)
        · exact .inr rfl
        · exact .inl (hb.digits x held)
        · exact .inr rfl
        · exact .inl (hc.digits x held)
        · exact .inr rfl
        · exact .inl (hd.digits x held)
      · have sa := ha.short
        have sb := hb.short
        have sc := hc.short
        have sd := hd.short
        simp only [List.length_append, List.length_cons]
        omega

theorem Ipv4Addr.parse_iff {text : List Char} {ip : Ipv4Addr} : Ipv4Addr.parse text = some ip ↔ Ipv4Text text ip := by
  unfold Ipv4Addr.parse
  split
  · rename_i long
    constructor
    · intro none_
      cases none_
    · intro is
      obtain ⟨chars, short⟩ := is.chars
      have length : (utf8 text).length = text.length := utf8_length_ascii fun c held => by
        rcases chars c held with digit | rfl
        · exact digit_ascii digit
        · decide
      omega
  · exact parseWith_ipv4_iff

/-- The text of an IPv6 address begins no IPv4 address. -/
theorem Ipv6Text.noIpv4 {text : List Char} {segments : List UInt16} (is : Ipv6Text text segments) :
    readIpv4Addr text = none := by
  have groups {parts : List (List Char)} {first : List Char} {rest : List Char} {group : UInt16}
      (spelled : GroupText first group) (stops : GroupsEnd rest) :
      readIpv4Addr (led 0 (first :: parts) ++ rest) = none := by
    rw [led, List.append_assoc]
    exact readIpv4Addr_group spelled.digits (led_ends 0 parts stops)
  cases is with
  | full text eight =>
      cases text with
      | nil => simp at eight
      | @group _ part group parts _ spelled later =>
          have none_ := @groups parts part [] group spelled (.inl rfl)
          rwa [List.append_nil] at none_
      | ipv4 => simp at eight
  | gap headText tailText fits =>
      cases headText with
      | nil => exact readIpv4Addr_stop colon_ends
      | group spelled later => exact groups spelled (.inr ⟨_, rfl⟩)

theorem IpAddr.parse_v4_iff {text : List Char} {ip : Ipv4Addr} :
    IpAddr.parse text = some (.v4 ip) ↔ Ipv4Text text ip := by
  rw [← parseWith_ipv4_iff, IpAddr.parse, parseWith_iff, parseWith_iff, readIpAddr]
  cases read : readIpv4Addr text with
  | none => simp
  | some found => simp [Prod.ext_iff]

theorem IpAddr.parse_v6_iff {text : List Char} {ip : Ipv6Addr} :
    IpAddr.parse text = some (.v6 ip) ↔ Ipv6Text text ip.segments := by
  constructor
  · intro parsed
    rw [IpAddr.parse, parseWith_iff, readIpAddr] at parsed
    cases read : readIpv4Addr text with
    | none =>
        rw [read] at parsed
        obtain ⟨⟨ip', rest⟩, six, same⟩ := Option.map_eq_some_iff.mp parsed
        cases same
        exact readIpv6Addr_spec six
    | some found =>
        rw [read] at parsed
        cases parsed
  · intro is
    rw [IpAddr.parse, parseWith_iff, readIpAddr, is.noIpv4, readIpv6Addr_of is]
    rfl

/-! ### Runs of zeros -/

/-- A list is taken apart into its runs of zeros and its other elements. -/
theorem runs_induction {P : List UInt16 → Prop} (nil : P []) (other : ∀ x rest, x ≠ 0 → P rest → P (x :: rest))
    (zeros : ∀ m rest, rest.head? ≠ some 0 → P rest → P (List.replicate (m + 1) 0 ++ rest)) (l : List UInt16) : P l := by
  induction is : l.length using Nat.strongRecOn generalizing l with
  | ind n ih =>
      cases l with
      | nil => exact nil
      | cons x rest =>
          have later {l : List UInt16} (short : l.length ≤ rest.length) : P l :=
            ih l.length (by rw [← is, List.length_cons]; omega) l rfl
          by_cases zero : x = 0
          · obtain ⟨m, rest', run, stops⟩ : ∃ m rest', rest = List.replicate m 0 ++ rest' ∧ rest'.head? ≠ some 0 := by
              clear is ih later
              induction rest with
              | nil => exact ⟨0, [], rfl, by simp⟩
              | cons y rest ih =>
                  by_cases more : y = 0
                  · obtain ⟨m, rest', run, stops⟩ := ih
                    exact ⟨m + 1, rest', by rw [run, more]; rfl, stops⟩
                  · exact ⟨0, y :: rest, rfl, by simpa using more⟩
            rw [zero, run]
            exact zeros m rest' stops (later (by rw [run]; simp))
          · exact other x rest zero (later (Nat.le_refl _))

theorem longestZeros_reset {index : Nat} {longest current : Span} {rest : List UInt16} (stops : rest.head? ≠ some 0) :
    longestZeros index longest current rest = longestZeros index longest {} rest := by
  cases rest with
  | nil => rfl
  | cons x rest =>
      have other : x ≠ 0 := by simpa using stops
      simp [longestZeros, other]

/-- The zeros that follow on a span lengthen it. -/
theorem longestZeros_more (m : Nat) {index start len : Nat} {longest : Span} {rest : List UInt16} (some_ : 0 < len)
    (known : len ≤ longest.len) :
    longestZeros index longest ⟨start, len⟩ (List.replicate m 0 ++ rest) =
      longestZeros (index + m) (if len + m > longest.len then ⟨start, len + m⟩ else longest) ⟨start, len + m⟩ rest := by
  induction m generalizing index len longest with
  | zero =>
      have kept : ¬ len + 0 > longest.len := by omega
      rw [if_neg kept]
      rfl
  | succ m ih =>
      have follows : ¬ len = 0 := by omega
      rw [List.replicate_succ, List.cons_append, longestZeros]
      simp only [if_true, if_neg follows]
      by_cases more : len + 1 > longest.len
      · rw [if_pos more, ih (Nat.succ_pos len) (Nat.le_refl _)]
        have longer : len + (m + 1) > longest.len := by omega
        rw [if_pos longer]
        have sum : len + 1 + m = len + (m + 1) := by omega
        have at_ : index + 1 + m = index + (m + 1) := by omega
        dsimp only
        rw [sum, at_]
        split
        · rfl
        · rename_i same
          have none_ : m = 0 := by omega
          subst none_
          rfl
      · rw [if_neg more, ih (by omega) (by omega)]
        have sum : len + 1 + m = len + (m + 1) := by omega
        have at_ : index + 1 + m = index + (m + 1) := by omega
        rw [sum, at_]

/-- A whole run of zeros is one span. -/
theorem longestZeros_run {m index : Nat} {longest : Span} {rest : List UInt16} (stops : rest.head? ≠ some 0) :
    longestZeros index longest {} (List.replicate (m + 1) 0 ++ rest) =
      longestZeros (index + (m + 1)) (if m + 1 > longest.len then ⟨index, m + 1⟩ else longest) {} rest := by
  have sum : 1 + m = m + 1 := Nat.add_comm 1 m
  have at_ : index + 1 + m = index + (m + 1) := by omega
  rw [List.replicate_succ, List.cons_append, longestZeros]
  simp only [if_true]
  by_cases first : 0 + 1 > longest.len
  · rw [if_pos first, longestZeros_more m (by omega) (by simp), longestZeros_reset stops]
    have longer : m + 1 > longest.len := by omega
    rw [if_pos longer]
    dsimp only
    rw [sum, at_]
    split
    · rfl
    · rename_i same
      have none_ : m = 0 := by omega
      subst none_
      rfl
  · rw [if_neg first, longestZeros_more m (by omega) (by omega), longestZeros_reset stops, sum, at_]

/-- The span that is found is within the list, and of zeros. -/
theorem longestZeros_zeros (front rest : List UInt16) (longest : Span)
    (zeros : ∃ before behind, front ++ rest = before ++ List.replicate longest.len 0 ++ behind ∧
      before.length = longest.start) :
    ∃ before behind, front ++ rest =
        before ++ List.replicate (longestZeros front.length longest {} rest).len 0 ++ behind ∧
      before.length = (longestZeros front.length longest {} rest).start := by
  induction rest using runs_induction generalizing front longest with
  | nil => exact zeros
  | other x rest zero ih =>
      have found := ih (front ++ [x]) longest (by simpa using zeros)
      rw [longestZeros, if_neg zero]
      simpa using found
  | zeros m rest stops ih =>
      rw [longestZeros_run stops]
      have found := ih (front ++ List.replicate (m + 1) 0)
        (if m + 1 > longest.len then ⟨front.length, m + 1⟩ else longest) (by
          split
          · exact ⟨front, rest, by simp, rfl⟩
          · simpa using zeros)
      simpa using found

/-! ### What is written -/

theorem decimal_octet (octet : UInt8) : OctetText (decimal octet.toNat) octet where
  digits := digits_toDigits (by omega) (by omega) _
  some_ := Nat.toDigits_ne_nil
  short := by
    have small : octet.toNat < 10 ^ 3 := Nat.lt_of_lt_of_le octet.toNat_lt (by decide)
    exact (Nat.length_toDigits_le_iff (by omega) (by omega)).mpr small
  zero := by
    intro zero
    by_cases none_ : octet.toNat = 0
    · rw [none_]
      rfl
    · exact absurd zero (toDigits_head (by omega) (by omega) (by omega))
  small := by
    rw [decimal, numeral_toDigits (by omega) (by omega)]
    exact octet.toNat_lt
  value := by
    rw [decimal, numeral_toDigits (by omega) (by omega)]
    exact UInt8.ofNat_toNat.symm

theorem hex_group (segment : UInt16) : GroupText (Nat.toDigits 16 segment.toNat) segment where
  digits := digits_toDigits (by omega) (by omega) _
  some_ := Nat.toDigits_ne_nil
  short := by
    have small : segment.toNat < 16 ^ 4 := Nat.lt_of_lt_of_le segment.toNat_lt (by decide)
    exact (Nat.length_toDigits_le_iff (by omega) (by omega)).mpr small
  value := by
    rw [numeral_toDigits (by omega) (by omega)]
    exact UInt16.ofNat_toNat.symm

theorem Ipv4Addr.display_text (ip : Ipv4Addr) : Ipv4Text ip.display ip := by
  have is := Ipv4Text.intro (decimal_octet ip.a) (decimal_octet ip.b) (decimal_octet ip.c) (decimal_octet ip.d)
  have shape : ip.display = decimal ip.a.toNat ++ '.' :: (decimal ip.b.toNat ++ '.' :: (decimal ip.c.toNat ++
      '.' :: decimal ip.d.toNat)) := by
    simp [Ipv4Addr.display, Ipv4Addr.octets]
  rw [shape]
  exact is

theorem groups_text (allow : Bool) (segments : List UInt16) :
    GroupsText allow (segments.map fun segment => Nat.toDigits 16 segment.toNat) segments := by
  induction segments with
  | nil => exact .nil
  | cons segment segments ih => exact .group (hex_group segment) ih

theorem fmtSubslice_led (chunk : List UInt16) :
    fmtSubslice chunk = led 0 (chunk.map fun segment => Nat.toDigits 16 segment.toNat) :=
  (led_intercalate _).symm

/-- An address that is not a mapped one is spelled as it is written. -/
theorem Ipv6Addr.display_text {ip : Ipv6Addr} (own : ip.toIpv4Mapped = none) : Ipv6Text ip.display ip.segments := by
  rw [Ipv6Addr.display, own]
  dsimp only
  split
  · rename_i long
    obtain ⟨before, behind, shape, start⟩ := longestZeros_zeros [] ip.segments {} ⟨[], ip.segments, rfl, rfl⟩
    rw [List.nil_append, List.length_nil] at shape
    rw [List.length_nil] at start
    generalize longestZeros 0 {} {} ip.segments = zeroes at long shape start
    have front : ip.segments.take zeroes.start = before := by
      rw [shape, ← start, List.append_assoc, List.take_left]
    have back : ip.segments.drop (zeroes.start + zeroes.len) = behind := by
      rw [shape, ← start]
      exact List.drop_left' (by simp)
    have eight := ip.length
    rw [shape] at eight
    simp only [List.length_append, List.length_replicate] at eight
    have between : 8 - before.length - behind.length = zeroes.len := by omega
    have is := Ipv6Text.gap (groups_text false before) (groups_text true behind) (by omega)
    rw [between, ← fmtSubslice_led, ← fmtSubslice_led] at is
    rw [front, back, shape]
    simpa using is
  · rw [fmtSubslice_led]
    exact .full (groups_text true ip.segments) ip.length

end OpenTunnel
