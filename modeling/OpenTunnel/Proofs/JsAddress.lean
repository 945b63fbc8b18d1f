/-
Module: OpenTunnel.Proofs.JsAddress
Layer: Proofs
Purpose: The TypeScript parser takes the same spellings of addresses as the standard library of Rust: it cuts a text at its
  separators, so that what it accepts is spelled part by part, and what is spelled has no other separators.
Imports: OpenTunnel.Model.JsProxyHeader, OpenTunnel.Proofs.Address
Trusted boundary: none (fully proved)
Main exports: asciiDigit_iff, asciiHexDigit_iff, JsProxy.parseIpv4_iff, JsProxy.parseIpv6_iff
Open obligations: none
-/
import OpenTunnel.Model.JsProxyHeader
import OpenTunnel.Proofs.Address

namespace OpenTunnel

open Formats

/-! ### Characters -/

theorem char_le_iff (a b : Char) : a ≤ b ↔ a.toNat ≤ b.toNat := Iff.rfl

/-- A digit's value, by the code of its character. -/
theorem digitValue_eq (c : Char) : digitValue c =
    if 48 ≤ c.toNat ∧ c.toNat ≤ 57 then some (c.toNat - 48)
    else if 97 ≤ c.toNat ∧ c.toNat ≤ 122 then some (c.toNat - 87)
    else if 65 ≤ c.toNat ∧ c.toNat ≤ 90 then some (c.toNat - 55)
    else none := by
  simp [digitValue, char_le_iff]

theorem asciiDigit_iff (c : Char) : asciiDigit c = (toDigit 10 c).isSome := by
  have code : asciiDigit c = decide (48 ≤ c.toNat ∧ c.toNat ≤ 57) := by
    simp [asciiDigit, char_le_iff]
  rw [code, toDigit, digitValue_eq]
  split
  · rename_i digit
    have small : c.toNat - 48 < 10 := by omega
    simp [digit, small]
  · rename_i digit
    rw [decide_eq_false digit]
    split
    · have large : ¬ c.toNat - 87 < 10 := by omega
      simp [large]
    · split
      · have large : ¬ c.toNat - 55 < 10 := by omega
        simp [large]
      · rfl

theorem asciiHexDigit_iff (c : Char) : asciiHexDigit c = (toDigit 16 c).isSome := by
  have code : asciiHexDigit c = decide (48 ≤ c.toNat ∧ c.toNat ≤ 57 ∨ 97 ≤ c.toNat ∧ c.toNat ≤ 102 ∨
      65 ≤ c.toNat ∧ c.toNat ≤ 70) := by
    simp [asciiHexDigit, asciiDigit, char_le_iff, Bool.or_assoc]
  rw [code, toDigit, digitValue_eq]
  split
  · rename_i digit
    have small : c.toNat - 48 < 16 := by omega
    simp [digit, small]
  · rename_i digit
    split
    · rename_i lower
      by_cases small : c.toNat - 87 < 16
      · have hex : 97 ≤ c.toNat ∧ c.toNat ≤ 102 := by omega
        simp [hex, small]
      · have hex : ¬ (48 ≤ c.toNat ∧ c.toNat ≤ 57 ∨ 97 ≤ c.toNat ∧ c.toNat ≤ 102 ∨ 65 ≤ c.toNat ∧ c.toNat ≤ 70) := by
          omega
        simp [hex, small]
    · rename_i lower
      split
      · by_cases small : c.toNat - 55 < 16
        · have hex : 65 ≤ c.toNat ∧ c.toNat ≤ 70 := by omega
          simp [hex, small]
        · have hex : ¬ (48 ≤ c.toNat ∧ c.toNat ≤ 57 ∨ 97 ≤ c.toNat ∧ c.toNat ≤ 102 ∨
              65 ≤ c.toNat ∧ c.toNat ≤ 70) := by
            omega
          simp [hex, small]
      · have hex : ¬ (48 ≤ c.toNat ∧ c.toNat ≤ 57 ∨ 97 ≤ c.toNat ∧ c.toNat ≤ 102 ∨
            65 ≤ c.toNat ∧ c.toNat ≤ 70) := by
          omega
        simp [hex]

theorem all_digits_iff {part : List Char} : part.all asciiDigit = true ↔ Digits 10 part := by
  simp [Digits, asciiDigit_iff]

theorem all_hexDigits_iff {part : List Char} : part.all asciiHexDigit = true ↔ Digits 16 part := by
  simp [Digits, asciiHexDigit_iff]

namespace JsProxy

theorem octetPattern_iff {part : List Char} : octetPattern part = true ↔
    Digits 10 part ∧ part ≠ [] ∧ part.length ≤ 3 ∧ (part.head? = some '0' → part.length = 1) := by
  cases part with
  | nil => simp [octetPattern]
  | cons first rest =>
      by_cases zero : first = '0'
      · subst zero
        cases rest with
        | nil =>
            have digit : Digits 10 ['0'] := by
              intro c held
              rw [List.mem_singleton.mp held]
              rfl
            simp [octetPattern, digit]
        | cons next rest => simp [octetPattern]
      · have own : octetPattern (first :: rest) =
            ('1' ≤ first && first ≤ '9' && rest.length ≤ 2 && rest.all asciiDigit) := by
          unfold octetPattern
          split
          · rename_i is
            cases is
            exact absurd rfl zero
          · rename_i is
            cases is
            rfl
          · rename_i is
            cases is
        have leading : ('1' ≤ first ∧ first ≤ '9') ↔ (toDigit 10 first).isSome = true := by
          have not_ : first.toNat ≠ 48 := fun same => zero (Char.toNat_inj.mp same)
          rw [← asciiDigit_iff]
          simp only [asciiDigit, Bool.and_eq_true, decide_eq_true_eq, char_le_iff, Char.reduceToNat]
          omega
        rw [own]
        simp only [Bool.and_eq_true, decide_eq_true_eq, all_digits_iff, leading]
        simp [Digits, zero]
        constructor
        · rintro ⟨⟨a, b⟩, c⟩
          exact ⟨⟨a, c⟩, by omega⟩
        · rintro ⟨⟨a, c⟩, b⟩
          exact ⟨⟨a, by omega⟩, c⟩

theorem parseOctet_iff {part : List Char} {octet : UInt8} : parseOctet part = some octet ↔ OctetText part octet := by
  unfold parseOctet
  constructor
  · intro parsed
    split at parsed
    · rename_i pattern
      obtain ⟨digits, some_, short, zero⟩ := octetPattern_iff.mp pattern
      dsimp only at parsed
      split at parsed
      · cases parsed
      · rename_i small
        cases parsed
        exact ⟨digits, some_, short, zero, by omega, rfl⟩
    · cases parsed
  · intro is
    have small := is.small
    have fits : ¬ numeral 10 part > 255 := by omega
    rw [if_pos (octetPattern_iff.mpr ⟨is.digits, is.some_, is.short, is.zero⟩)]
    dsimp only
    rw [if_neg fits, is.value]

theorem dot_not_digit {radix : Nat} {part : List Char} (digits : Digits radix part) : '.' ∉ part := by
  intro held
  have digit := digits '.' held
  simp [toDigit, digitValue] at digit

theorem colon_not_digit {radix : Nat} {part : List Char} (digits : Digits radix part) : ':' ∉ part := by
  intro held
  have digit := digits ':' held
  simp [toDigit, digitValue] at digit

theorem four_parts {α : Type} {parts : List α} (four : parts.length = 4) : ∃ a b c d, parts = [a, b, c, d] := by
  match parts, four with
  | [a, b, c, d], _ => exact ⟨a, b, c, d, rfl⟩

theorem parseIpv4_iff {value : List Char} {bytes : List UInt8} :
    parseIpv4 value = some bytes ↔ ∃ ip, Ipv4Text value ip ∧ bytes = ip.octets := by
  unfold parseIpv4
  dsimp only
  constructor
  · intro parsed
    split at parsed
    · cases parsed
    · rename_i four
      have joined : ['.'].intercalate (value.splitOn '.') = value := List.intercalate_splitOn '.'
      obtain ⟨ta, tb, tc, td, parts⟩ := four_parts (Decidable.not_not.mp four)
      rw [parts] at parsed joined
      simp only [List.mapM_cons, List.mapM_nil, Option.bind_eq_bind, Option.bind_eq_some_iff, Option.pure_def,
        Option.some.injEq] at parsed
      obtain ⟨a, ha, _, ⟨b, hb, _, ⟨c, hc, _, ⟨d, hd, _, rfl, rfl⟩, rfl⟩, rfl⟩, rfl⟩ := parsed
      refine ⟨⟨a, b, c, d⟩, ?_, rfl⟩
      have is := Ipv4Text.intro (parseOctet_iff.mp ha) (parseOctet_iff.mp hb) (parseOctet_iff.mp hc)
        (parseOctet_iff.mp hd)
      rw [← joined]
      simpa using is
  · rintro ⟨ip, is, rfl⟩
    cases is with
    | @intro ta tb tc td a b c d ha hb hc hd =>
        have parts : (ta ++ '.' :: (tb ++ '.' :: (tc ++ '.' :: td))).splitOn '.' = [ta, tb, tc, td] := by
          rw [List.splitOn_append_cons_self_of_not_mem (dot_not_digit ha.digits),
            List.splitOn_append_cons_self_of_not_mem (dot_not_digit hb.digits),
            List.splitOn_append_cons_self_of_not_mem (dot_not_digit hc.digits),
            List.splitOn_eq_singleton (dot_not_digit hd.digits)]
        rw [parts]
        simp [parseOctet_iff.mpr ha, parseOctet_iff.mpr hb, parseOctet_iff.mpr hc, parseOctet_iff.mpr hd,
          Ipv4Addr.octets]

/-! ### IPv6 addresses -/

theorem parseGroup_iff {part : List Char} {n : Nat} :
    parseGroup part = some n ↔ ∃ group, GroupText part group ∧ n = group.toNat := by
  unfold parseGroup
  constructor
  · intro parsed
    split at parsed
    · rename_i pattern
      obtain ⟨one, four, digits⟩ := pattern
      cases parsed
      have is : GroupText part (UInt16.ofNat (numeral 16 part)) :=
        ⟨all_hexDigits_iff.mp digits, List.length_pos_iff.mp one, four, rfl⟩
      refine ⟨_, is, ?_⟩
      rw [UInt16.toNat_ofNat', Nat.mod_eq_of_lt is.small]
    · cases parsed
  · rintro ⟨group, is, rfl⟩
    rw [if_pos ⟨List.length_pos_iff.mpr is.some_, is.short, all_hexDigits_iff.mpr is.digits⟩, is.value,
      UInt16.toNat_ofNat', Nat.mod_eq_of_lt is.small]

theorem join16_eq (high low : UInt8) : join16 high low = (fromBeBytes high low).toNat := by
  have small : high.toNat * 256 + low.toNat < 2 ^ 16 := by
    have := high.toNat_lt
    have := low.toNat_lt
    omega
  rw [join16, fromBeBytes, UInt16.toNat_ofNat', Nat.mod_eq_of_lt small,
    ← Nat.shiftLeft_add_eq_or_of_lt low.toNat_lt, Nat.shiftLeft_eq]

/-- A part that is an IPv4 address is no group. -/
theorem ipv4_dot {part : List Char} {ip : Ipv4Addr} (is : Ipv4Text part ip) : '.' ∈ part := by
  cases is
  simp

theorem parseParts_iff {allow : Bool} {parts : List (List Char)} {groups : List Nat} :
    parseParts allow parts = some groups ↔
      ∃ segments, GroupsText allow parts segments ∧ groups = segments.map UInt16.toNat := by
  induction parts generalizing groups with
  | nil =>
      constructor
      · intro parsed
        cases parsed
        exact ⟨[], .nil, rfl⟩
      · rintro ⟨segments, is, rfl⟩
        cases is
        rfl
  | cons part rest ih =>
      constructor
      · intro parsed
        rw [parseParts] at parsed
        split at parsed
        · rename_i ipv4
          simp only [Bool.and_eq_true, List.isEmpty_iff] at ipv4
          obtain ⟨⟨allowed, last⟩, _⟩ := ipv4
          subst allowed last
          split at parsed
          · rename_i a b c d bytes
            obtain ⟨ip, is, octets⟩ := parseIpv4_iff.mp bytes
            simp only [parseParts, Option.map_some, Option.some.injEq] at parsed
            refine ⟨_, .ipv4 is, ?_⟩
            simp only [Ipv4Addr.octets, List.cons.injEq] at octets
            obtain ⟨rfl, rfl, rfl, rfl, _⟩ := octets
            simp [← parsed, join16_eq]
          · cases parsed
        · split at parsed
          · rename_i group number
            obtain ⟨later, parsedLater, rfl⟩ := Option.map_eq_some_iff.mp parsed
            obtain ⟨segment, is, rfl⟩ := parseGroup_iff.mp number
            obtain ⟨segments, more, rfl⟩ := ih.mp parsedLater
            exact ⟨segment :: segments, .group is more, rfl⟩
          · cases parsed
      · rintro ⟨segments, is, rfl⟩
        cases is with
        | @group _ _ segment _ segments is more =>
            have plain : (allow && rest.isEmpty && part.contains '.') = false := by
              have none_ : part.contains '.' = false := by
                simpa using dot_not_digit is.digits
              rw [none_, Bool.and_false]
            rw [parseParts, plain, parseGroup_iff.mpr ⟨segment, is, rfl⟩, ih.mpr ⟨segments, more, rfl⟩]
            rfl
        | @ipv4 _ ip is =>
            have dotted : part.contains '.' = true := by
              simpa using ipv4_dot is
            rw [parseParts, dotted, parseIpv4_iff.mpr ⟨ip, is, rfl⟩]
            simp [Ipv4Addr.octets, parseParts, join16_eq]

/-- The parts of groups are not empty, and without colons. -/
theorem groups_parts {allow : Bool} {parts : List (List Char)} {segments : List UInt16}
    (is : GroupsText allow parts segments) : ∀ part ∈ parts, part ≠ [] ∧ ':' ∉ part := by
  induction is with
  | nil => simp
  | group text _ ih =>
      intro part held
      rcases List.mem_cons.mp held with rfl | later
      · exact ⟨text.some_, colon_not_digit text.digits⟩
      · exact ih part later
  | ipv4 text =>
      intro part held
      rw [List.mem_singleton.mp held]
      refine ⟨List.ne_nil_of_mem (ipv4_dot text), fun colon => ?_⟩
      rcases text.chars.1 ':' colon with digit | dot
      · revert digit
        decide
      · revert dot
        decide

theorem parseGroups_iff {value : List Char} {allow : Bool} {groups : List Nat} :
    parseGroups value allow = some groups ↔
      ∃ parts segments, value = led 0 parts ∧ GroupsText allow parts segments ∧ groups = segments.map UInt16.toNat := by
  unfold parseGroups
  constructor
  · intro parsed
    split at parsed
    · rename_i none_
      cases parsed
      exact ⟨[], [], List.isEmpty_iff.mp none_, .nil, rfl⟩
    · obtain ⟨segments, is, rfl⟩ := parseParts_iff.mp parsed
      refine ⟨value.splitOn ':', segments, ?_, is, rfl⟩
      rw [led_intercalate, List.intercalate_splitOn]
  · rintro ⟨parts, segments, rfl, is, rfl⟩
    cases parts with
    | nil =>
        cases is
        rfl
    | cons part rest =>
        have known := groups_parts is
        have some_ : (led 0 (part :: rest)).isEmpty = false := by
          simp [led, (known part List.mem_cons_self).1]
        rw [some_, led_intercalate, List.splitOn_intercalate ':' (fun l held => (known l held).2) (by simp)]
        exact parseParts_iff.mpr ⟨segments, is, rfl⟩

/-! ### The gap -/

theorem gap_skip {c : Char} (other : c ≠ ':') (text : List Char) :
    indexOf "::".toList (c :: text) = (indexOf "::".toList text).map (· + 1) := by
  have no : "::".toList.isPrefixOf (c :: text) = false := by
    simp [List.isPrefixOf, Ne.symm other]
  rw [indexOf, no]
  rfl

theorem gap_part {part : List Char} (plain : ':' ∉ part) (text : List Char) :
    indexOf "::".toList (part ++ text) = (indexOf "::".toList text).map (· + part.length) := by
  induction part with
  | nil => simp
  | cons c part ih =>
      have other : c ≠ ':' := fun same => plain (same ▸ List.mem_cons_self)
      rw [List.cons_append, gap_skip other, ih (fun held => plain (List.mem_cons_of_mem _ held)), Option.map_map]
      rfl

/-- One colon, and a part. -/
theorem gap_led {part : List Char} (some_ : part ≠ []) (plain : ':' ∉ part) (text : List Char) :
    indexOf "::".toList (':' :: part ++ text) = (indexOf "::".toList text).map (· + (part.length + 1)) := by
  have no : "::".toList.isPrefixOf (':' :: part ++ text) = false := by
    cases part with
    | nil => exact absurd rfl some_
    | cons c part =>
        have other : c ≠ ':' := fun same => plain (same ▸ List.mem_cons_self)
        simp [List.isPrefixOf, Ne.symm other]
  rw [List.cons_append, indexOf, ← List.cons_append, no, gap_part plain]
  simp [Option.map_map, Function.comp_def, Nat.add_assoc]

/-- There is no gap within groups, nor between them and what follows. -/
theorem gap_groups {parts : List (List Char)} (known : ∀ part ∈ parts, part ≠ [] ∧ ':' ∉ part) (index : Nat)
    (text : List Char) :
    indexOf "::".toList (led index parts ++ text) =
      (indexOf "::".toList text).map (· + (led index parts).length) := by
  induction parts generalizing index with
  | nil => simp [led]
  | cons part parts ih =>
      obtain ⟨some_, plain⟩ := known part List.mem_cons_self
      have later := ih (fun part held => known part (List.mem_cons_of_mem _ held)) (index + 1)
      rw [led_cons, List.append_assoc]
      cases index with
      | zero =>
          have one : led 0 [part] = part := by simp [led]
          rw [one, gap_part plain, later, Option.map_map]
          congr 1
          funext n
          simp only [Function.comp_apply, List.length_append]
          omega
      | succ index =>
          have one : led (index + 1) [part] = ':' :: part := by simp [led]
          rw [one, gap_led some_ plain, later, Option.map_map]
          congr 1
          funext n
          simp only [Function.comp_apply, List.length_append, List.length_cons]
          omega

theorem parseIpv6Groups_iff {value : List Char} {groups : List Nat} :
    parseIpv6Groups value = some groups ↔ ∃ segments, Ipv6Text value segments ∧ groups = segments.map UInt16.toNat := by
  unfold parseIpv6Groups
  constructor
  · intro parsed
    split at parsed
    · obtain ⟨all, eight⟩ := Option.filter_eq_some_iff.mp parsed
      obtain ⟨parts, segments, rfl, is, rfl⟩ := parseGroups_iff.mp all
      exact ⟨segments, .full is (by simpa using eight), rfl⟩
    · rename_i gap found
      split at parsed
      · cases parsed
      · split at parsed
        · rename_i head tail headParsed tailParsed
          split at parsed
          · cases parsed
          · rename_i fits
            obtain ⟨headParts, headSegments, headShape, headIs, rfl⟩ := parseGroups_iff.mp headParsed
            obtain ⟨tailParts, tailSegments, tailShape, tailIs, rfl⟩ := parseGroups_iff.mp tailParsed
            cases parsed
            simp only [List.length_map] at fits
            have shape := indexOf_split found
            rw [headShape] at shape
            have behind : value.drop (gap + "::".toList.length) = value.drop (gap + 2) := rfl
            rw [behind, tailShape] at shape
            have is := Ipv6Text.gap headIs tailIs (by omega)
            refine ⟨_, ?_, (by simp : _ = (headSegments ++ List.replicate
              (8 - headSegments.length - tailSegments.length) 0 ++ tailSegments).map UInt16.toNat)⟩
            rw [shape, List.append_assoc]
            exact is
        · cases parsed
  · rintro ⟨segments, is, rfl⟩
    cases is with
    | @full parts _ groups eight =>
        have none_ := gap_groups (groups_parts groups) 0 []
        rw [List.append_nil] at none_
        have nowhere : indexOf "::".toList (led 0 parts) = none := none_
        simp only [nowhere]
        rw [parseGroups_iff.mpr ⟨parts, _, rfl, groups, rfl⟩]
        simp [eight]
    | @gap headParts tailParts head tail headIs tailIs fits =>
        have found := gap_groups (groups_parts headIs) 0 (':' :: ':' :: led 0 tailParts)
        have here : indexOf "::".toList (':' :: ':' :: led 0 tailParts) = some 0 := by
          simp [indexOf, List.isPrefixOf]
        rw [here, Option.map_some, Nat.zero_add] at found
        have behind : (led 0 headParts ++ ':' :: ':' :: led 0 tailParts).drop ((led 0 headParts).length + 1) =
            ':' :: led 0 tailParts := by
          rw [← List.drop_drop, List.drop_left]
          rfl
        have after : (led 0 headParts ++ ':' :: ':' :: led 0 tailParts).drop ((led 0 headParts).length + 2) =
            led 0 tailParts := by
          rw [← List.drop_drop, List.drop_left]
          rfl
        have once : indexOf "::".toList (':' :: led 0 tailParts) = none := by
          cases tailParts with
          | nil => rfl
          | cons part parts =>
              have none_ := gap_groups (groups_parts tailIs) 1 []
              have same : ':' :: led 0 (part :: parts) = led 1 (part :: parts) := by
                simp [led, led_succ 1]
              rw [List.append_nil] at none_
              rw [same]
              exact none_
        simp only [found, behind, once, after, List.take_left]
        rw [parseGroups_iff.mpr ⟨headParts, _, rfl, headIs, rfl⟩, parseGroups_iff.mpr ⟨tailParts, _, rfl, tailIs, rfl⟩]
        have room : ¬ (head.map UInt16.toNat).length + (tail.map UInt16.toNat).length > 7 := by
          simp only [List.length_map]
          omega
        simp only [if_neg room]
        simp

theorem groupBytes_eq (segment : UInt16) :
    [UInt8.ofNat (segment.toNat >>> 8), UInt8.ofNat (segment.toNat &&& 0xff)] = toBeBytes segment := by
  have low : segment.toNat &&& 0xff = segment.toNat % 2 ^ 8 := Nat.and_two_pow_sub_one_eq_mod segment.toNat 8
  have high : segment.toNat >>> 8 = segment.toNat / 2 ^ 8 := Nat.shiftRight_eq_div_pow segment.toNat 8
  rewrite [toBeBytes, low, high]
  rfl

theorem parseIpv6_iff {value : List Char} {bytes : List UInt8} :
    parseIpv6 value = some bytes ↔ ∃ segments, Ipv6Text value segments ∧ bytes = segments.flatMap toBeBytes := by
  have bytesOf (segments : List UInt16) : ((segments.map UInt16.toNat).flatMap fun group =>
      [UInt8.ofNat (group >>> 8), UInt8.ofNat (group &&& 0xff)]) = segments.flatMap toBeBytes := by
    rw [List.flatMap_map]
    congr 1
    funext segment
    exact groupBytes_eq segment
  unfold parseIpv6
  rw [Option.map_eq_some_iff]
  constructor
  · rintro ⟨groups, parsed, rfl⟩
    obtain ⟨segments, is, rfl⟩ := parseIpv6Groups_iff.mp parsed
    exact ⟨segments, is, bytesOf segments⟩
  · rintro ⟨segments, is, rfl⟩
    exact ⟨_, parseIpv6Groups_iff.mpr ⟨segments, is, rfl⟩, bytesOf segments⟩

end JsProxy

end OpenTunnel
