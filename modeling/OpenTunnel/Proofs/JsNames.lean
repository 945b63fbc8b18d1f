/-
Module: OpenTunnel.Proofs.JsNames
Layer: Proofs
Purpose: Where the two clients agree on names and targets. Labels are the same texts. Targets are, but for ports that the
  integer parser takes and the pattern does not: with a plus sign, or with zeros that make them longer than five digits.
  Routes of server names are, but for hostnames whose lowercasing is not that of their ASCII letters alone.
Imports: OpenTunnel.Model.JsNames, OpenTunnel.Model.Routing, OpenTunnel.Proofs.HelloRecords, OpenTunnel.Proofs.Orders,
  OpenTunnel.Proofs.ProxyHeaders
Trusted boundary: none (fully proved)
Main exports: label_agree, LoosePort, LooseTarget, Lowercasing, Sendable, names_agree
Open obligations: none
-/
import OpenTunnel.Model.JsNames
import OpenTunnel.Model.Routing
import OpenTunnel.Proofs.HelloRecords
import OpenTunnel.Proofs.Orders
import OpenTunnel.Proofs.ProxyHeaders

namespace OpenTunnel

open Formats

/-! ### Labels -/

/-- One letter or digit, or up to 63 of them with dashes inside. -/
def LabelText (text : List Char) : Prop := ∃ first rest, text = first :: rest ∧ JsNames.labelEnd first = true ∧
  (rest = [] ∨ ∃ middle last, rest = middle ++ [last] ∧ middle.length ≤ 61 ∧
    (middle.all fun c => JsNames.labelEnd c || c == '-') = true ∧ JsNames.labelEnd last = true)

theorem label_test_iff {text : List Char} : JsNames.label.test text = true ↔ LabelText text := by
  rw [Pattern.test_iff, JsNames.label, Pattern.mem_seq]
  constructor
  · rintro ⟨rest, one, more⟩
    obtain ⟨first, valid, rfl⟩ := Pattern.mem_one.mp one
    refine ⟨first, rest, rfl, valid, ?_⟩
    rcases Pattern.mem_optional.mp more with none_ | long
    · exact .inl none_.symm
    · obtain ⟨between, repeated, ends⟩ := Pattern.mem_seq.mp long
      obtain ⟨last, valid', rfl⟩ := Pattern.mem_one.mp ends
      obtain ⟨middle, rfl, _, few, all⟩ := Pattern.mem_times.mp repeated
      exact .inr ⟨middle, last, rfl, few, all, valid'⟩
  · rintro ⟨first, rest, rfl, valid, shape⟩
    refine ⟨rest, Pattern.mem_one.mpr ⟨first, valid, rfl⟩, Pattern.mem_optional.mpr ?_⟩
    rcases shape with rfl | ⟨middle, last, rfl, few, all, valid'⟩
    · exact .inl rfl
    · exact .inr (Pattern.mem_seq.mpr ⟨[last], Pattern.mem_times.mpr ⟨middle, rfl, Nat.zero_le _, few, all⟩,
        Pattern.mem_one.mpr ⟨last, valid', rfl⟩⟩)

/-- The Rust client takes the same labels. -/
theorem isLabel_iff {value : String} : isLabel value = true ↔ LabelText value.toList := by
  unfold isLabel
  generalize value.toList = text
  match text with
  | [] =>
      constructor
      · intro no
        cases no
      · rintro ⟨first, rest, is, _⟩
        cases is
  | [only] =>
      constructor
      · intro valid
        exact ⟨only, [], rfl, valid, .inl rfl⟩
      · rintro ⟨first, rest, is, valid, _⟩
        cases is
        exact valid
  | first :: second :: more =>
      have parts := List.dropLast_concat_getLast (List.cons_ne_nil second more)
      have last := List.getLast?_eq_some_getLast (List.cons_ne_nil second more)
      have size := congrArg List.length parts
      rw [List.length_append, List.length_singleton] at size
      simp only [Bool.and_eq_true, decide_eq_true_eq, last, Option.any_some]
      constructor
      · rintro ⟨⟨⟨few, valid⟩, valid'⟩, all⟩
        exact ⟨first, second :: more, rfl, valid, .inr ⟨_, _, parts.symm, by omega, all, valid'⟩⟩
      · rintro ⟨first', rest, is, valid, shape⟩
        cases is
        rcases shape with none_ | ⟨middle, final, is, few, all, valid'⟩
        · cases none_
        · obtain ⟨same, same'⟩ := List.append_inj' (parts.trans is) rfl
          cases same'
          rw [same] at size
          exact ⟨⟨⟨by omega, valid⟩, valid'⟩, same ▸ all⟩

/-- Both clients take the same labels. -/
theorem label_agree (value : String) : isLabel value = JsNames.label.test value.toList := by
  rw [Bool.eq_iff_iff, isLabel_iff, label_test_iff]

/-! ### Ports -/

/-- The digits behind a plus sign. -/
def withoutPlus : List Char → List Char
  | '+' :: digits => digits
  | digits => digits

/-- The text of a port that is not zero, with or without a plus sign. -/
def PortText (text : List Char) (port : Nat) : Prop :=
  withoutPlus text ≠ [] ∧ Digits 10 (withoutPlus text) ∧ numeral 10 (withoutPlus text) = port ∧ 1 ≤ port ∧ port ≤ 65535

/-- A port that only the integer parser takes. -/
def LoosePort (text : List Char) : Prop :=
  (text.head? = some '+' ∨ 5 < text.length) ∧ ∃ port, PortText text port

/-- The port of a target, in the Rust client. -/
def portOf (text : List Char) : Option Nat := (parseU16 text).filter (· ≠ 0)

/-- The port of a target, in the TypeScript client. -/
def jsPortOf (text : List Char) : Option Nat :=
  if !JsNames.portPattern.test text then none
  else if numeral 10 text < 1 || numeral 10 text > 65535 then none
  else some (numeral 10 text)

theorem withoutPlus_plain {text : List Char} (plain : text.head? ≠ some '+') : withoutPlus text = text := by
  unfold withoutPlus
  split
  · exact absurd rfl plain
  · rfl

/-- What `parse` makes of the digits. -/
def readDigits (digits : List Char) : Option Nat :=
  if digits.isEmpty ∨ ¬ digits.all asciiDigit then none
  else if Nat.ofDigitChars 10 digits 0 < 2 ^ 16 then some (Nat.ofDigitChars 10 digits 0) else none

theorem parseU16_withoutPlus (text : List Char) : parseU16 text = readDigits (withoutPlus text) := by
  by_cases plus : text.head? = some '+'
  · cases text with
    | nil => cases plus
    | cons c text =>
        cases plus
        rfl
  · rw [withoutPlus_plain plus]
    unfold parseU16
    extract_lets digits value
    have own : digits = text := by
      simp only [digits]
      split
      · exact absurd rfl plus
      · rfl
    exact congrArg readDigits own

/-- What the Rust client reads as a number of 16 bits. -/
theorem parseU16_iff {text : List Char} {n : Nat} : parseU16 text = some n ↔
    withoutPlus text ≠ [] ∧ Digits 10 (withoutPlus text) ∧ numeral 10 (withoutPlus text) = n ∧ n < 2 ^ 16 := by
  rw [parseU16_withoutPlus]
  generalize withoutPlus text = digits
  unfold readDigits
  by_cases good : digits.isEmpty = true ∨ ¬ digits.all asciiDigit = true
  · rw [if_pos good]
    constructor
    · intro none_
      cases none_
    · rintro ⟨some_, all, _⟩
      rcases good with empty | other
      · exact absurd (List.isEmpty_iff.mp empty) some_
      · exact absurd (all_digits_iff.mpr all) other
  · have all : Digits 10 digits := by
      refine all_digits_iff.mp ?_
      simpa using fun other => good (.inr other)
    have some_ : digits ≠ [] := fun empty => good (.inl (List.isEmpty_iff.mpr empty))
    rw [if_neg good, numeralFrom_ten digits all 0]
    have value : numeralFrom 10 0 digits = numeral 10 digits := rfl
    rw [value]
    constructor
    · intro is
      split at is
      · rename_i small
        cases is
        exact ⟨some_, all, rfl, small⟩
      · cases is
    · rintro ⟨_, _, rfl, small⟩
      rw [if_pos small]

/-- What it reads as a port. -/
theorem portOf_iff {text : List Char} {port : Nat} : portOf text = some port ↔ PortText text port := by
  rw [portOf, Option.filter_eq_some_iff, parseU16_iff]
  unfold PortText
  constructor
  · rintro ⟨⟨some_, all, value, small⟩, nonzero⟩
    have nonzero : port ≠ 0 := by simpa using nonzero
    exact ⟨some_, all, value, by omega, by omega⟩
  · rintro ⟨some_, all, value, low, high⟩
    exact ⟨⟨some_, all, value, by omega⟩, by simp; omega⟩

theorem port_test_iff {text : List Char} :
    JsNames.portPattern.test text = true ↔ 1 ≤ text.length ∧ text.length ≤ 5 ∧ Digits 10 text := by
  rw [Pattern.test_iff, JsNames.portPattern, Pattern.mem_times]
  constructor
  · rintro ⟨front, is, low, high, all⟩
    rw [List.append_nil] at is
    subst is
    exact ⟨low, high, all_digits_iff.mp all⟩
  · rintro ⟨low, high, all⟩
    exact ⟨text, (List.append_nil _).symm, low, high, all_digits_iff.mpr all⟩

/-- Digits have no plus sign in front. -/
theorem digits_plain {text : List Char} (all : Digits 10 text) : text.head? ≠ some '+' ∧ withoutPlus text = text := by
  cases text with
  | nil => exact ⟨nofun, rfl⟩
  | cons c text =>
      have plus : c ≠ '+' := by
        rintro rfl
        have digit := all '+' List.mem_cons_self
        revert digit
        decide
      refine ⟨fun is => plus (Option.some.inj is), ?_⟩
      unfold withoutPlus
      split
      · rename_i is
        cases is
        exact absurd rfl plus
      · rfl

/-- What the TypeScript client reads as a port. -/
theorem jsPortOf_iff {text : List Char} {port : Nat} : jsPortOf text = some port ↔
    PortText text port ∧ text.head? ≠ some '+' ∧ text.length ≤ 5 := by
  unfold jsPortOf PortText
  by_cases test : JsNames.portPattern.test text = true
  · obtain ⟨low, high, all⟩ := port_test_iff.mp test
    obtain ⟨plain, same⟩ := digits_plain all
    have some_ : text ≠ [] := List.ne_nil_of_length_pos low
    rw [if_neg (by simp [test]), same]
    constructor
    · intro is
      split at is
      · cases is
      · rename_i inside
        simp only [Bool.or_eq_true, decide_eq_true_eq, not_or, Nat.not_lt] at inside
        cases is
        exact ⟨⟨some_, all, rfl, by omega, by omega⟩, plain, high⟩
    · rintro ⟨⟨_, _, rfl, low', high'⟩, _⟩
      rw [if_neg]
      simp only [Bool.or_eq_true, decide_eq_true_eq, not_or, Nat.not_lt]
      omega
  · rw [if_pos (by simp [test])]
    constructor
    · intro none_
      cases none_
    · rintro ⟨⟨some_, all, _⟩, plain, high⟩
      rw [withoutPlus_plain plain] at some_ all
      exact absurd (port_test_iff.mpr ⟨List.length_pos_iff.mpr some_, high, all⟩) test

/-- They differ only on ports with a sign or with zeros in front. -/
theorem ports_agree {text : List Char} : portOf text = jsPortOf text ↔ ¬ LoosePort text := by
  constructor
  · rintro same ⟨loose, port, spelled⟩
    have taken := portOf_iff.mpr spelled
    rw [same] at taken
    obtain ⟨_, plain, short⟩ := jsPortOf_iff.mp taken
    rcases loose with plus | long
    · exact plain plus
    · omega
  · intro strict
    apply Option.ext
    intro port
    rw [portOf_iff, jsPortOf_iff]
    constructor
    · intro spelled
      refine ⟨spelled, fun plus => strict ⟨.inl plus, port, spelled⟩, ?_⟩
      exact Nat.not_lt.mp fun long => strict ⟨.inr long, port, spelled⟩
    · exact fun is => is.1

/-! ### Targets -/

def unbracketed (host : List Char) : Option (List Char) :=
  match host with
  | '[' :: inner => if inner.getLast? = some ']' then some inner.dropLast else none
  | _ => some host

/-- The host of a target, without its brackets. -/
def hostOf (host : List Char) : Option (List Char) :=
  (unbracketed host).filter fun host => !host.isEmpty && host.all hostChar

/-- A target that only the Rust client takes. -/
def LooseTarget (value : List Char) : Prop :=
  ∃ host port, rsplitOnce ':' value = some (host, port) ∧ (hostOf host).isSome = true ∧ LoosePort port

theorem unbracketed_bracket (inner : List Char) :
    unbracketed ('[' :: inner) = if inner.getLast? = some ']' then some inner.dropLast else none := rfl

theorem unbracketed_plain {host : List Char} (plain : ∀ inner, host = '[' :: inner → False) : unbracketed host = some host := by
  unfold unbracketed
  split
  · exact absurd rfl (plain _)
  · rfl

/-- Whether a host is kept, said as a test after the port is known. -/
theorem kept_host {unbracketed : Option (List Char)} {good : List Char → Bool} (port : Nat) :
    (unbracketed.bind fun host => if good host = true then some (host, port) else none) =
      (unbracketed.filter good).map fun host => (host, port) := by
  cases unbracketed with
  | none => rfl
  | some host =>
      by_cases kept : good host = true
      · simp [kept, Option.filter]
      · simp [kept, Option.filter]

/-- The Rust client splits a target into host and port. -/
theorem parseTarget_parts (value : String) : parseTarget value = (rsplitOnce ':' value.toList).bind fun parts =>
    (portOf parts.2).bind fun port => (hostOf parts.1).map fun host => (host, port) := by
  unfold parseTarget hostOf
  cases rsplitOnce ':' value.toList with
  | none => rfl
  | some parts =>
      obtain ⟨host, text⟩ := parts
      simp only [Option.bind_eq_bind, Option.bind_some]
      rw [← portOf]
      cases portOf text with
      | none => rfl
      | some port =>
          rw [Option.bind_some, Option.bind_some, ← kept_host]
          split
          · rename_i inner
            rw [unbracketed_bracket]
            split
            · rfl
            · rfl
          · rename_i plain
            rw [unbracketed_plain plain]
            rfl

theorem unbracketed_js (host : List Char) :
    (if host.head? = some '[' then if host.getLast? ≠ some ']' then none else some (host.drop 1).dropLast else some host) =
      unbracketed host := by
  cases host with
  | nil => rfl
  | cons c inner =>
      by_cases bracket : c = '['
      · subst bracket
        rw [List.head?_cons, if_pos rfl]
        have last : ('[' :: inner).getLast? = some ']' ↔ inner.getLast? = some ']' := by
          cases inner with
          | nil => decide
          | cons c inner => rw [List.getLast?_cons_cons]
        rw [unbracketed_bracket]
        by_cases closed : inner.getLast? = some ']'
        · rw [if_pos closed, if_neg (fun other => other (last.mpr closed))]
          rfl
        · rw [if_neg closed, if_pos (fun same => closed (last.mp same))]
      · rw [List.head?_cons, if_neg (fun is => bracket (Option.some.inj is))]
        refine (unbracketed_plain ?_).symm
        intro inner' is
        cases is
        exact bracket rfl

theorem hostClass_eq (c : Char) : JsNames.hostClass c = hostChar c := by
  have lower : asciiLower c = (decide ('a' ≤ c) && decide (c ≤ 'z')) := rfl
  have digit : asciiDigit c = (decide ('0' ≤ c) && decide (c ≤ '9')) := rfl
  rw [JsNames.hostClass, hostChar, lower, digit]
  cases decide ('a' ≤ c) && decide (c ≤ 'z') with
  | false => simp
  | true => simp

theorem host_test {host : List Char} (some_ : host ≠ []) : (JsNames.hostPattern host.length).test host = host.all hostChar := by
  rw [Bool.eq_iff_iff, Pattern.test_iff, JsNames.hostPattern, Pattern.mem_times, ← funext hostClass_eq]
  constructor
  · rintro ⟨front, is, _, _, all⟩
    rw [List.append_nil] at is
    rwa [is]
  · intro all
    exact ⟨host, (List.append_nil _).symm, List.length_pos_iff.mpr some_, Nat.le_refl _, all⟩

theorem host_kept (host : List Char) (port : Nat) :
    (if (host.isEmpty || !(JsNames.hostPattern host.length).test host) = true then none else some (host, port)) =
      if (!host.isEmpty && host.all hostChar) = true then some (host, port) else none := by
  cases host with
  | nil => rfl
  | cons c host =>
      rw [host_test (List.cons_ne_nil c host)]
      cases (c :: host).all hostChar with
      | false => rfl
      | true => rfl

/-- The TypeScript client splits it at the same place. -/
theorem jsParseTarget_parts (value : List Char) : JsNames.parseTarget value = (rsplitOnce ':' value).bind fun parts =>
    (jsPortOf parts.2).bind fun port => (hostOf parts.1).map fun host => (host, port) := by
  unfold JsNames.parseTarget hostOf jsPortOf
  cases rsplitOnce ':' value with
  | none => rfl
  | some parts =>
      obtain ⟨host, text⟩ := parts
      simp only [Option.bind_eq_bind, Option.bind_some, host_kept]
      split
      · rfl
      · split
        · rfl
        · rw [Option.bind_some, ← kept_host, ← unbracketed_js]
          split
          · split
            · rfl
            · rfl
          · rfl

/-- They differ only on targets with such a port. -/
theorem targets_agree (value : String) :
    parseTarget value = JsNames.parseTarget value.toList ↔ ¬ LooseTarget value.toList := by
  rw [parseTarget_parts, jsParseTarget_parts]
  unfold LooseTarget
  cases split : rsplitOnce ':' value.toList with
  | none => simp
  | some parts =>
      obtain ⟨host, text⟩ := parts
      simp only [Option.bind_some, Option.some.injEq, Prod.mk.injEq]
      cases found : hostOf host with
      | none =>
          have none_ (port : Option Nat) : (port.bind fun port => (none : Option (List Char)).map fun host => (host, port)) = none := by
            cases port with
            | none => rfl
            | some port => rfl
          rw [none_, none_]
          refine ⟨fun _ => ?_, fun _ => rfl⟩
          rintro ⟨host', port', ⟨rfl, rfl⟩, some_, _⟩
          rw [found] at some_
          cases some_
      | some kept =>
          have ports : (((portOf text).bind fun port => (some kept).map fun host => (host, port)) =
              ((jsPortOf text).bind fun port => (some kept).map fun host => (host, port))) ↔ portOf text = jsPortOf text := by
            cases portOf text with
            | none =>
                cases jsPortOf text with
                | none => simp
                | some port => simp
            | some port =>
                cases jsPortOf text with
                | none => simp
                | some port' => simp
          rw [ports, ports_agree]
          constructor
          · rintro strict ⟨host', port', ⟨rfl, rfl⟩, _, loose⟩
            exact strict loose
          · intro none_ loose
            exact none_ ⟨host, text, ⟨rfl, rfl⟩, by rw [found]; rfl, loose⟩

/-! ### Routes -/

/-- The route of a name that is lowercased, on a hostname that is. -/
def routeIn (name host : List Char) : Option (List Char) :=
  if name = host then some ['@']
  else if !('.' :: host).isSuffixOf name then none
  else
    let route := name.take (name.length - ('.' :: host).length)
    if JsNames.label.test route then some route else none

theorem jsRouteForSni_in (lower : List Char → List Char) (sni hostname : List Char) :
    JsNames.routeForSni lower sni hostname = routeIn (lower sni) (lower hostname) := rfl

theorem routeForSni_in (sni hostname : String) : (routeForSni sni hostname).map String.toList =
    routeIn (sni.toList.map toAsciiLower) (hostname.toList.map toAsciiLower) := by
  have listed (text : String) : text.toList.map toAsciiLower = (toAsciiLowercase text).toList := by
    rw [toAsciiLowercase, String.toList_ofList]
  unfold routeForSni routeIn
  rw [listed, listed]
  generalize toAsciiLowercase sni = name
  generalize toAsciiLowercase hostname = host
  dsimp only
  by_cases same : name = host
  · rw [if_pos same, if_pos (congrArg String.toList same)]
    decide
  · rw [if_neg same, if_neg (fun is => same (String.toList_inj.mp is))]
    by_cases ends : ('.' :: host.toList).isSuffixOf name.toList = true
    · obtain ⟨front, is⟩ := List.isSuffixOf_iff_suffix.mp ends
      have spelled : name = String.ofList front ++ "." ++ host := by
        apply String.toList_inj.mp
        simp [← is]
      have taken : name.toList.take (name.toList.length - ('.' :: host.toList).length) = front := by
        rw [← is]
        simp
      have one : stripSuffix name host = some (String.ofList front ++ ".") := stripSuffix_eq_some.mpr spelled
      have two : stripSuffix (String.ofList front ++ ".") "." = some (String.ofList front) := stripSuffix_eq_some.mpr rfl
      rw [if_neg (by simp [ends]), taken, one]
      simp only [Option.bind_eq_bind, Option.bind_some, two, label_agree, String.toList_ofList]
      split
      · simp
      · rfl
    · rw [if_pos (by rw [Bool.eq_false_iff.mpr ends]; rfl)]
      cases one : stripSuffix name host with
      | none => rfl
      | some rest =>
          cases two : stripSuffix rest "." with
          | none =>
              simp only [Option.bind_eq_bind, Option.bind_some, two]
              rfl
          | some label =>
              refine absurd (List.isSuffixOf_iff_suffix.mpr ⟨label.toList, ?_⟩) ends
              rw [stripSuffix_eq_some.mp one, stripSuffix_eq_some.mp two]
              simp

/-- What both lowercasings do, as Unicode has it. -/
structure Lowercasing (lower : List Char → List Char) : Prop where
  idempotent : ∀ text, lower (lower text) = lower text
  ascii : ∀ text, (∀ c ∈ text, c.toNat < 128) → lower text = text.map toAsciiLower
  noUpper : ∀ text, ∀ c ∈ lower text, toAsciiLower c = c

/-- A server name that the server can send: the parser of the ClientHello gave it. -/
def Sendable (lower : List Char → List Char) (sni : List Char) : Prop :=
  ∃ data alpn, parseClientHello lower data = some (.complete sni alpn)

/-- The two clients give every server name the same route on the hostname. -/
def RoutesAgree (lower : List Char → List Char) (hostname : String) : Prop :=
  ∀ sni : String, Sendable lower sni.toList →
    (routeForSni sni hostname).map String.toList = JsNames.routeForSni lower sni.toList hostname.toList

section Sendable

variable {lower : List Char → List Char}

theorem helloExtensions_found {hello : List UInt8} {extensionsEnd fuel offset : Nat} {serverName alpn sni alpn' : List Char}
    (found : helloExtensions lower hello extensionsEnd fuel offset serverName alpn = some (.complete sni alpn')) :
    ∃ text, sni = lower text := by
  induction fuel generalizing offset serverName alpn with
  | zero => cases found
  | succ fuel ih =>
      rw [helloExtensions] at found
      split at found
      · simp only [Option.bind_eq_bind, Option.bind_eq_some_iff] at found
        obtain ⟨kind, _, length, _, found⟩ := found
        split at found
        · cases found
        · split at found
          · obtain ⟨_, _, found⟩ := Option.bind_eq_some_iff.mp found
            obtain ⟨_, _, found⟩ := Option.bind_eq_some_iff.mp found
            exact ih found
          · split at found
            · obtain ⟨_, _, found⟩ := Option.bind_eq_some_iff.mp found
              obtain ⟨_, _, found⟩ := Option.bind_eq_some_iff.mp found
              exact ih found
            · exact ih found
      · unfold helloFound at found
        split at found
        · cases found
        · cases found
          exact ⟨serverName, rfl⟩

/-- The name of a hello is lowercased. -/
theorem parseHelloBody_found {hello : List UInt8} {sni alpn : List Char}
    (found : parseHelloBody lower hello = some (.complete sni alpn)) : ∃ text, sni = lower text := by
  unfold parseHelloBody at found
  dsimp only at found
  split at found
  · cases found
  · obtain ⟨_, _, found⟩ := Option.bind_eq_some_iff.mp found
    split at found
    · cases found
    · obtain ⟨_, _, found⟩ := Option.bind_eq_some_iff.mp found
      split at found
      · cases found
      · obtain ⟨_, _, found⟩ := Option.bind_eq_some_iff.mp found
        split at found
        · cases found
        · split at found
          · cases found
          · obtain ⟨_, _, found⟩ := Option.bind_eq_some_iff.mp found
            split at found
            · cases found
            · exact helloExtensions_found found

/-- So it is in the answer of a round. -/
theorem round_found {data : List UInt8} {parser parser' : HelloParser} {sni alpn : List Char}
    (answers : HelloParser.round lower data parser = some (.answer (.complete sni alpn) parser')) : ∃ text, sni = lower text := by
  unfold HelloParser.round at answers
  split at answers
  · obtain ⟨_, _, answers⟩ := Option.bind_eq_some_iff.mp answers
    obtain ⟨hello, found, answers⟩ := Option.bind_eq_some_iff.mp answers
    cases answers
    exact parseHelloBody_found found
  · dsimp only at answers
    split at answers
    · cases answers
    · obtain ⟨_, _, answers⟩ := Option.bind_eq_some_iff.mp answers
      split at answers
      · cases answers
      · obtain ⟨_, _, answers⟩ := Option.bind_eq_some_iff.mp answers
        split at answers
        · cases answers
        · obtain ⟨_, _, answers⟩ := Option.bind_eq_some_iff.mp answers
          rcases HelloParser.afterRecord_cases _ with wrong | ⟨_, goes⟩
          · rw [wrong] at answers
            cases answers
          · rw [goes] at answers
            cases answers

/-- The server sends names that are lowercased. -/
theorem Sendable.lowered {sni : List Char} (sent : Sendable lower sni) : ∃ text, sni = lower text := by
  obtain ⟨data, alpn, parsed⟩ := sent
  rw [parseClientHello_scan] at parsed
  obtain ⟨⟨answer, parser⟩, scanned, is⟩ := Option.map_eq_some_iff.mp parsed
  cases answer with
  | none => cases is
  | some answer =>
      cases is
      obtain ⟨_, last⟩ := scan_last scanned
      exact round_found last

theorem named_fits {name : List UInt8} (fits : name.length + 64 ≤ clientHelloLimit) :
    ([Extension.serverName name].flatMap Extension.bytes).length < 2 ^ 16 := by
  simp only [clientHelloLimit] at fits
  simp [Extension.bytes, Extension.body, be16_length]
  omega

theorem named_each {name : List UInt8} (fits : name.length + 64 ≤ clientHelloLimit) :
    ∀ e ∈ [Extension.serverName name], e.Fits := by
  simp only [clientHelloLimit] at fits
  simp [Extension.Fits, Extension.body, be16_length]
  omega

/-- A hello with this name and nothing else. -/
def helloOf (name : List UInt8) (some_ : name ≠ []) (fits : name.length + 64 ≤ clientHelloLimit) : ClientHello where
  version := [3, 3]
  random := List.replicate 32 0
  session := []
  cipherSuites := []
  compression := [0]
  extensions := [.serverName name]
  name := name
  alpn := none
  version_length := tls12_length
  random_length := zeros_length
  session_fits := no_session_fits
  cipherSuites_fit := nothing_fits
  compression_fits := uncompressed_fits
  extensions_fit := named_fits fits
  each_fits := named_each fits
  named := rfl
  name_some := some_
  offered := rfl

/-- How long a hello with only this name is. -/
theorem helloOf_length {name : List UInt8} (some_ : name ≠ []) (fits : name.length + 64 ≤ clientHelloLimit) :
    (helloOf name some_ fits).message.length = name.length + 54 := by
  simp [ClientHello.message, ClientHello.body, ClientHello.extensionBytes, helloOf, Extension.bytes, Extension.body, be16_length]
  omega

/-- Every name that fits a hello is sent, lowercased. -/
theorem Sendable.name {text : List Char} (some_ : text ≠ []) (fits : (utf8 text).length + 64 ≤ clientHelloLimit) :
    Sendable lower (lower text) := by
  have named : utf8 text ≠ [] := by
    intro is
    have least := length_le_utf8 text
    rw [is] at least
    exact some_ (List.eq_nil_of_length_eq_zero (Nat.le_zero.mp least))
  have length := helloOf_length named fits
  have small : (utf8 text).length + 54 < 2 ^ 16 := by
    simp only [clientHelloLimit] at fits
    omega
  have cut : Cut (helloOf (utf8 text) named fits).message :=
    ⟨[], ⟨3, 1, (helloOf (utf8 text) named fits).message, by omega⟩, [], by simp, by
      rw [length]
      simp⟩
  have parsed := parseClientHello_cut lower cut []
  have name : (helloOf (utf8 text) named fits).name = utf8 text := rfl
  rw [name, fromUtf8Lossy_utf8] at parsed
  exact ⟨_, _, parsed⟩

end Sendable

section Routes

variable {lower : List Char → List Char}

theorem Lowercasing.kept (lowercasing : Lowercasing lower) (text : List Char) :
    (lower text).map toAsciiLower = lower text :=
  (List.map_congr_left (lowercasing.noUpper text)).trans (List.map_id _)

/-- Where both lowercasings agree on the hostname, both clients find the same route. -/
theorem routes_agree_of_same (lowercasing : Lowercasing lower) {hostname : String}
    (same : lower hostname.toList = hostname.toList.map toAsciiLower) : RoutesAgree lower hostname := by
  intro sni sent
  obtain ⟨text, is⟩ := sent.lowered
  have kept : sni.toList.map toAsciiLower = sni.toList := by
    rw [is, lowercasing.kept]
  have still : lower sni.toList = sni.toList := by
    rw [is, lowercasing.idempotent]
  rw [routeForSni_in, jsRouteForSni_in, kept, still, same]

/-- The name of the tunnel itself goes to its root for the TypeScript client. -/
theorem same_of_routes_agree (lowercasing : Lowercasing lower) {hostname : String}
    (fits : (utf8 hostname.toList).length + 64 ≤ clientHelloLimit) (agree : RoutesAgree lower hostname) :
    lower hostname.toList = hostname.toList.map toAsciiLower := by
  by_cases none_ : hostname.toList = []
  · rw [none_]
    exact lowercasing.ascii [] nofun
  · have routed := agree (String.ofList (lower hostname.toList)) (by
      rw [String.toList_ofList]
      exact Sendable.name none_ fits)
    rw [routeForSni_in, jsRouteForSni_in, String.toList_ofList, lowercasing.idempotent, lowercasing.kept] at routed
    have root : routeIn (lower hostname.toList) (lower hostname.toList) = some ['@'] := if_pos rfl
    rw [root] at routed
    unfold routeIn at routed
    split at routed
    · assumption
    · split at routed
      · cases routed
      · dsimp only at routed
        split at routed
        · rename_i valid
          rw [Option.some.inj routed] at valid
          exact absurd valid (by decide)
        · cases routed

end Routes

/-- The clients agree on routes, profiles and, save for loose ports, targets; on the routes of a hostname they agree when its
    two lowercasings are the same, and only then if a hello can carry the hostname. -/
theorem names_agree {lower : List Char → List Char} (lowercasing : Lowercasing lower) :
    (∀ value : String, isValidRoute value = JsNames.isValidRoute value.toList) ∧
    (∀ value : String, isValidProfile value = JsNames.isValidProfile value.toList) ∧
    (∀ value : String, parseTarget value = JsNames.parseTarget value.toList ↔ ¬ LooseTarget value.toList) ∧
    (∀ hostname : String, lower hostname.toList = hostname.toList.map toAsciiLower → RoutesAgree lower hostname) ∧
    ∀ hostname : String, (utf8 hostname.toList).length + 64 ≤ clientHelloLimit →
      (RoutesAgree lower hostname ↔ lower hostname.toList = hostname.toList.map toAsciiLower) := by
  refine ⟨fun value => ?_, fun value => ?_, targets_agree, fun hostname => routes_agree_of_same lowercasing, fun hostname fits => ?_⟩
  · have root : (value == "@") = (value.toList == JsNames.rootRoute) := by
      rw [Bool.eq_iff_iff, beq_iff_eq, beq_iff_eq]
      exact String.toList_inj.symm
    rw [isValidRoute, JsNames.isValidRoute, label_agree, root]
  · exact label_agree value
  · exact ⟨same_of_routes_agree lowercasing fits, routes_agree_of_same lowercasing⟩

theorem lowercasing_ascii : Lowercasing (List.map toAsciiLower) where
  idempotent text := by
    rw [List.map_map]
    exact List.map_congr_left fun c _ => toAsciiLower_twice c
  ascii _ _ := rfl
  noUpper text c held := by
    obtain ⟨d, _, rfl⟩ := List.mem_map.mp held
    exact toAsciiLower_twice d

theorem names_agree_localhost :
    parseTarget "localhost:80" = JsNames.parseTarget "localhost:80".toList ∧ RoutesAgree (List.map toAsciiLower) "A.example" := by
  obtain ⟨_, _, targets, routes, _⟩ := names_agree lowercasing_ascii
  refine ⟨(targets _).mpr ?_, routes _ rfl⟩
  rintro ⟨host, port, is, _, loose, _⟩
  have split : rsplitOnce ':' "localhost:80".toList = some ("localhost".toList, "80".toList) := by decide
  rw [split] at is
  cases is
  exact absurd loose (by decide)

theorem plus_port_differs :
    parseTarget "localhost:+80" = some ("localhost".toList, 80) ∧ JsNames.parseTarget "localhost:+80".toList = none := by
  decide +kernel

end OpenTunnel
