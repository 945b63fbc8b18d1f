/-
Module: OpenTunnel.Proofs.ProxyHeaders
Layer: Proofs
Purpose: The two clients write the same PROXY headers. They parse the same peers, the TypeScript printer finds the same run
  of zeros, and the bytes that are written into an array of zeros are those that are written one after another.
Imports: OpenTunnel.Model.ProxyHeader, OpenTunnel.Proofs.JsAddress
Trusted boundary: none (fully proved)
Main exports: toJsAddress, parsePeer_agree, formatAddress_v6, headers_agree
Open obligations: none
-/
import OpenTunnel.Model.ProxyHeader
import OpenTunnel.Proofs.JsAddress

namespace OpenTunnel

open Formats

/-! ### Peers -/

/-- An address as the TypeScript client has it. -/
def toJsAddress : SocketAddr → JsProxy.Address
  | .v4 ip port => ⟨.four, ip.octets, port.toNat⟩
  | .v6 ip port _ _ => ⟨.six, ip.octets, port.toNat⟩

/-- The address that `parse_peer` goes on with. -/
def unmapped : IpAddr → IpAddr
  | .v6 ip => (ip.toIpv4Mapped.map IpAddr.v4).getD (.v6 ip)
  | ip => ip

theorem octets_length (ip : Ipv6Addr) : ip.octets.length = 16 := by
  have each : ∀ segment : UInt16, (toBeBytes segment).length = 2 := fun _ => rfl
  rw [Ipv6Addr.octets, List.length_flatMap]
  simp [each, List.map_const', ip.length]

/-- Which bytes the TypeScript client takes for a mapped address. -/
theorem mapped_iff {bytes : List UInt8} (sixteen : bytes.length = 16) :
    JsProxy.isIpv4Mapped bytes = true ↔ bytes.take 12 = mappedPrefix := by
  match bytes, sixteen with
  | [a, b, c, d, e, f, g, h, i, j, k, l, m, n, o, p], _ =>
      simp [JsProxy.isIpv4Mapped, mappedPrefix, and_assoc]

theorem address_v4 (ip : Ipv4Addr) (port : UInt16) :
    JsProxy.address ip.octets port.toNat = toJsAddress (.new (unmapped (.v4 ip)) port) := by
  simp [JsProxy.address, Ipv4Addr.octets, toJsAddress, unmapped, SocketAddr.new]

theorem address_v6 (ip : Ipv6Addr) (port : UInt16) :
    JsProxy.address ip.octets port.toNat = toJsAddress (.new (unmapped (.v6 ip)) port) := by
  have sixteen := octets_length ip
  unfold JsProxy.address
  simp only [sixteen, true_and, mapped_iff sixteen]
  split
  · rename_i mapped
    obtain ⟨a, b, c, d, last⟩ := JsProxy.four_parts (show (ip.octets.drop 12).length = 4 by
      rw [List.length_drop, sixteen])
    simp [unmapped, Ipv6Addr.toIpv4Mapped, mapped, last, toJsAddress, SocketAddr.new, Ipv4Addr.octets]
  · rename_i own
    simp [unmapped, Ipv6Addr.toIpv4Mapped, own, toJsAddress, SocketAddr.new]

theorem numeralFrom_ten (digits : List Char) (all : Digits 10 digits) (init : Nat) :
    Nat.ofDigitChars 10 digits init = numeralFrom 10 init digits := by
  induction digits generalizing init with
  | nil => simp [numeralFrom]
  | cons c digits ih =>
      have digit := all c List.mem_cons_self
      have code : toDigit 10 c = some (c.toNat - 48) := by
        have small : asciiDigit c = true := by rw [asciiDigit_iff]; exact digit
        simp only [asciiDigit, Bool.and_eq_true, decide_eq_true_eq, char_le_iff, Char.reduceToNat] at small
        have below : c.toNat - 48 < 10 := by omega
        rw [toDigit, digitValue_eq, if_pos small]
        simp [below]
      rw [Nat.ofDigitChars_cons, ih (fun c held => all c (List.mem_cons_of_mem _ held))]
      have start : numeralFrom 10 init (c :: digits) = numeralFrom 10 (init * 10 + (toDigit 10 c).getD 0) digits := rfl
      rw [start, code, Nat.mul_comm]
      rfl

theorem parseU16_digits {digits : List Char} (some_ : digits ≠ []) (all : Digits 10 digits) :
    parseU16 digits = if numeral 10 digits < 2 ^ 16 then some (numeral 10 digits) else none := by
  cases digits with
  | nil => exact absurd rfl some_
  | cons c digits =>
      have plus : c ≠ '+' := by
        intro same
        have digit := all c List.mem_cons_self
        rw [same] at digit
        revert digit
        decide
      have digit : ¬ ((c :: digits).isEmpty = true ∨ ¬ (c :: digits).all asciiDigit = true) := by
        rw [all_digits_iff]
        simp [all]
      unfold parseU16
      extract_lets body value
      have own : body = c :: digits := by
        simp only [body]
        split
        · rename_i is
          cases is
          exact absurd rfl plus
        · rfl
      have good : ¬ (body.isEmpty = true ∨ ¬ body.all asciiDigit = true) := by
        rw [own]
        exact digit
      have number : value = numeral 10 (c :: digits) := (congrArg (Nat.ofDigitChars 10 · 0) own).trans (numeralFrom_ten _ all 0)
      rw [if_neg good, number]

/-- Both clients read the same ports. -/
theorem parsePort_agree (value : List Char) : JsProxy.parsePort value = (Proxy.parsePort value).map UInt16.toNat := by
  unfold JsProxy.parsePort Proxy.parsePort
  by_cases all : value.all asciiDigit = true
  · have digits := all_digits_iff.mp all
    have length : (utf8 value).length = value.length := utf8_length_ascii fun c held => digit_ascii (digits c held)
    by_cases none_ : value = []
    · subst none_
      rfl
    · have some_ : value.isEmpty = false := by simpa using none_
      have one : 1 ≤ value.length := List.length_pos_iff.mpr none_
      simp only [length, all, some_, one]
      by_cases long : value.length > 5
      · have refused : ¬ value.length ≤ 5 := by omega
        simp [long, refused]
      · have short : value.length ≤ 5 := by omega
        simp only [long, short]
        rw [parseU16_digits none_ digits]
        by_cases small : numeral 10 value < 2 ^ 16
        · have fits : numeral 10 value ≤ 65535 := by omega
          have kept : (UInt16.ofNat (numeral 10 value)).toNat = numeral 10 value := by
            rw [UInt16.toNat_ofNat', Nat.mod_eq_of_lt small]
          rw [if_pos small]
          simp [fits, kept]
        · have large : ¬ numeral 10 value ≤ 65535 := by omega
          rw [if_neg small]
          simp [large]
  · simp [all]

theorem Ipv6Text.eight {text : List Char} {segments : List UInt16} (is : Ipv6Text text segments) : segments.length = 8 := by
  cases is with
  | full _ eight => exact eight
  | gap _ _ fits =>
      simp only [List.length_append, List.length_replicate]
      omega

/-- Both read the same addresses of the old protocol. -/
theorem parseIpv4_agree (text : List Char) : JsProxy.parseIpv4 text = (Ipv4Addr.parse text).map Ipv4Addr.octets := by
  apply Option.ext
  intro bytes
  rw [JsProxy.parseIpv4_iff, Option.map_eq_some_iff]
  constructor
  · rintro ⟨ip, is, rfl⟩
    exact ⟨ip, Ipv4Addr.parse_iff.mpr is, rfl⟩
  · rintro ⟨ip, parsed, rfl⟩
    exact ⟨ip, Ipv4Addr.parse_iff.mp parsed, rfl⟩

/-- And of the new one. -/
theorem parseIpv6_agree (text : List Char) : JsProxy.parseIpv6 text = (Ipv6Addr.parse text).map Ipv6Addr.octets := by
  apply Option.ext
  intro bytes
  rw [JsProxy.parseIpv6_iff, Option.map_eq_some_iff]
  constructor
  · rintro ⟨segments, is, rfl⟩
    exact ⟨⟨segments, is.eight⟩, Ipv6Addr.parse_iff.mpr is, rfl⟩
  · rintro ⟨ip, parsed, rfl⟩
    exact ⟨ip.segments, Ipv6Addr.parse_iff.mp parsed, rfl⟩

def IpAddr.octets : IpAddr → List UInt8
  | .v4 ip => ip.octets
  | .v6 ip => ip.octets

/-- A bare address. -/
theorem parseBare_agree (text : List Char) :
    (JsProxy.parseIpv4 text).or (JsProxy.parseIpv6 text) = (IpAddr.parse text).map IpAddr.octets := by
  cases four : Ipv4Addr.parse text with
  | some ip =>
      rw [IpAddr.parse_v4_iff.mpr (Ipv4Addr.parse_iff.mp four), parseIpv4_agree, four]
      rfl
  | none =>
      cases six : Ipv6Addr.parse text with
      | some ip =>
          rw [IpAddr.parse_v6_iff.mpr (Ipv6Addr.parse_iff.mp six), parseIpv4_agree, parseIpv6_agree, four, six]
          rfl
      | none =>
          have neither : IpAddr.parse text = none := by
            cases parsed : IpAddr.parse text with
            | none => rfl
            | some ip =>
                cases ip with
                | v4 ip =>
                    rw [Ipv4Addr.parse_iff.mpr (IpAddr.parse_v4_iff.mp parsed)] at four
                    cases four
                | v6 ip =>
                    rw [Ipv6Addr.parse_iff.mpr (IpAddr.parse_v6_iff.mp parsed)] at six
                    cases six
          rw [neither, parseIpv4_agree, parseIpv6_agree, four, six]
          rfl

/-- Both take a mapped address for the one it maps. -/
theorem address_agree (ip : IpAddr) (port : UInt16) :
    JsProxy.address ip.octets port.toNat = toJsAddress (.new (unmapped ip) port) := by
  cases ip with
  | v4 ip => exact address_v4 ip port
  | v6 ip => exact address_v6 ip port

theorem parsePeer_bare {peer : List Char} {ip : IpAddr} (bare : IpAddr.parse peer = some ip) :
    Proxy.parsePeer peer = some (.new (unmapped ip) 0) := by
  unfold Proxy.parsePeer
  rw [bare]
  cases ip <;> rfl

/-- A visitor in brackets is an address of the new protocol with a port. -/
theorem parsePeer_bracket {rest : List Char} (other : IpAddr.parse ('[' :: rest) = none) :
    Proxy.parsePeer ('[' :: rest) = (splitAtFirst "]:".toList rest).bind fun parts =>
      (Ipv6Addr.parse parts.1).bind fun ip => (Proxy.parsePort parts.2).map fun port => .new (unmapped (.v6 ip)) port := by
  unfold Proxy.parsePeer
  rw [other]
  dsimp only
  split
  · rename_i inner is
    cases is
    cases splitAtFirst "]:".toList rest with
    | none => rfl
    | some parts =>
        cases host : Ipv6Addr.parse parts.1 with
        | none => simp [host]
        | some ip =>
            cases port : Proxy.parsePort parts.2 with
            | none => simp [host, port]
            | some port' => simp [host, port, unmapped]
  · rename_i never
    exact absurd rfl (never rest)

/-- A visitor without brackets is an address of the old protocol with a port. -/
theorem parsePeer_plain {peer : List Char} (other : IpAddr.parse peer = none) (plain : peer.head? ≠ some '[') :
    Proxy.parsePeer peer = (rsplitOnce ':' peer).bind fun parts =>
      (Ipv4Addr.parse parts.1).bind fun ip => (Proxy.parsePort parts.2).map fun port => .new (unmapped (.v4 ip)) port := by
  unfold Proxy.parsePeer
  rw [other]
  dsimp only
  split
  · exact absurd rfl plain
  · cases rsplitOnce ':' peer with
    | none => rfl
    | some parts =>
        cases host : Ipv4Addr.parse parts.1 with
        | none => simp [host]
        | some ip =>
            cases port : Proxy.parsePort parts.2 with
            | none => simp [host, port]
            | some port' => simp [host, port, unmapped]

/-- Both clients read the same visitors. -/
theorem parsePeer_agree (peer : List Char) : JsProxy.parsePeer peer = (Proxy.parsePeer peer).map toJsAddress := by
  rw [JsProxy.parsePeer, parseBare_agree]
  cases bare : IpAddr.parse peer with
  | some ip =>
      rw [parsePeer_bare bare]
      exact congrArg some (address_agree ip 0)
  | none =>
      simp only [Option.map_none]
      split
      · rename_i bracket
        cases peer with
        | nil => cases bracket
        | cons c rest =>
            have same : c = '[' := by simpa using bracket
            subst same
            have skip : indexOf "]:".toList ('[' :: rest) = (indexOf "]:".toList rest).map (· + 1) := by
              simp [indexOf, List.isPrefixOf]
            rw [parsePeer_bracket bare, skip, splitAtFirst]
            cases indexOf "]:".toList rest with
            | none => rfl
            | some close =>
                have host : ((('[' :: rest).take (close + 1)).drop 1) = rest.take close := by simp
                have port : ('[' :: rest).drop (close + 1 + 2) = rest.drop (close + 2) := rfl
                simp only [Option.map_some, host, port, parseIpv6_agree, parsePort_agree, Option.bind_some]
                cases Ipv6Addr.parse (rest.take close) with
                | none => rfl
                | some ip =>
                    cases parsed : Proxy.parsePort (rest.drop (close + 2)) with
                    | none => simp [parsed]
                    | some port => simp [parsed, ← address_agree, IpAddr.octets]
      · rename_i plain
        rw [parsePeer_plain bare plain]
        cases rsplitOnce ':' peer with
        | none => rfl
        | some parts =>
            simp only [parseIpv4_agree, parsePort_agree, Option.bind_eq_bind, Option.bind_some]
            cases Ipv4Addr.parse parts.1 with
            | none => rfl
            | some ip =>
                cases Proxy.parsePort parts.2 with
                | none => rfl
                | some port => simp [← address_agree, IpAddr.octets]

/-! ### Texts of addresses -/

/-- The span of zeros that is left out, as both sides have it. -/
def SameRun (span : Span) (best : Option Nat × Nat) : Prop :=
  if span.len > 1 then best = (some span.start, span.len) else best = (none, 1)

theorem bestRun_zeros (m start : Nat) (bestStart : Option Nat) (bestLength : Nat) {rest : List UInt16}
    (stops : rest.head? ≠ some 0) :
    JsProxy.bestRun start bestStart bestLength ((List.replicate (m + 1) 0 ++ rest).map UInt16.toNat) =
      if m + 1 > bestLength then JsProxy.bestRun (start + (m + 1)) (some start) (m + 1) (rest.map UInt16.toNat)
      else JsProxy.bestRun (start + (m + 1)) bestStart bestLength (rest.map UInt16.toNat) := by
  have groups : (List.replicate (m + 1) 0 ++ rest).map UInt16.toNat =
      0 :: (List.replicate m 0 ++ rest.map UInt16.toNat) := by
    simp [List.replicate_succ]
  have ends : (rest.map UInt16.toNat).takeWhile (· = 0) = [] ∧
      (rest.map UInt16.toNat).dropWhile (· = 0) = rest.map UInt16.toNat := by
    cases rest with
    | nil => simp
    | cons x rest =>
        have other : ¬ x.toNat = 0 := by
          intro zero
          have is : x = 0 := UInt16.toNat_inj.mp zero
          exact stops (congrArg some is)
        simp [other]
  have run : (List.replicate m 0 ++ rest.map UInt16.toNat).takeWhile (· = 0) = List.replicate m 0 := by
    rw [List.takeWhile_append_of_pos (by simp), ends.1, List.append_nil]
  have behind : (List.replicate m 0 ++ rest.map UInt16.toNat).dropWhile (· = 0) = rest.map UInt16.toNat := by
    rw [List.dropWhile_append_of_pos (by simp), ends.2]
  rw [groups, JsProxy.bestRun]
  simp only [ne_eq, not_true_eq_false, if_false, run, behind, List.length_replicate, Nat.add_comm 1 m]

/-- Both find the same longest run of zeros. -/
theorem bestRun_agree (segments : List UInt16) (index : Nat) (longest : Span) (best : Option Nat × Nat)
    (same : SameRun longest best) :
    SameRun (longestZeros index longest {} segments)
      (JsProxy.bestRun index best.1 best.2 (segments.map UInt16.toNat)) := by
  induction segments using runs_induction generalizing index longest best with
  | nil => simpa [longestZeros, JsProxy.bestRun] using same
  | other x rest zero ih =>
      have other : x.toNat ≠ 0 := fun none_ => zero (UInt16.toNat_inj.mp none_)
      rw [longestZeros, if_neg zero, List.map_cons, JsProxy.bestRun, if_pos other]
      exact ih _ _ _ same
  | zeros m rest stops ih =>
      rw [longestZeros_run stops, bestRun_zeros m index best.1 best.2 stops]
      by_cases long : longest.len > 1
      · rw [SameRun, if_pos long] at same
        rw [same]
        dsimp only
        by_cases more : m + 1 > longest.len
        · rw [if_pos more, if_pos more]
          have two : m + 1 > 1 := by omega
          exact ih _ ⟨index, m + 1⟩ (some index, m + 1) (by rw [SameRun, if_pos two])
        · rw [if_neg more, if_neg more]
          exact ih _ longest (some longest.start, longest.len) (by rw [SameRun, if_pos long])
      · rw [SameRun, if_neg long] at same
        rw [same]
        dsimp only
        by_cases two : m + 1 > 1
        · have more : m + 1 > longest.len := by omega
          rw [if_pos two, if_pos more]
          exact ih _ ⟨index, m + 1⟩ (some index, m + 1) (by rw [SameRun, if_pos two])
        · rw [if_neg two]
          refine ih _ _ (none, 1) ?_
          rw [SameRun, if_neg]
          split
          · exact two
          · exact long

theorem fromBeBytes_toBeBytes (segment : UInt16) :
    fromBeBytes (UInt8.ofNat (segment.toNat / 256)) (UInt8.ofNat (segment.toNat % 256)) = segment := by
  have high : segment.toNat / 256 < 256 := by
    have := segment.toNat_lt
    omega
  have low : segment.toNat % 256 < 256 := Nat.mod_lt _ (by decide)
  rw [fromBeBytes, byte_toNat high, byte_toNat low]
  have whole : segment.toNat / 256 * 256 + segment.toNat % 256 = segment.toNat := Nat.div_add_mod' _ _
  rw [whole]
  exact UInt16.ofNat_toNat

theorem octets_groups (ip : Ipv6Addr) : ((List.range 8).map fun index =>
    JsProxy.join16 (ip.octets.getD (index * 2) 0) (ip.octets.getD (index * 2 + 1) 0)) = ip.segments.map UInt16.toNat := by
  obtain ⟨segments, eight⟩ := ip
  match segments, eight with
  | [a, b, c, d, e, f, g, h], _ =>
      simp [List.range, List.range.loop, Ipv6Addr.octets, toBeBytes, JsProxy.join16_eq, fromBeBytes_toBeBytes]

theorem formatAddress_v4 (ip : Ipv4Addr) (port : UInt16) :
    JsProxy.formatAddress (toJsAddress (.v4 ip port)) = ip.display := rfl

/-- Both write an address of the new protocol the same way, if it is not mapped. -/
theorem formatAddress_v6 {ip : Ipv6Addr} (own : ip.toIpv4Mapped = none) (port : UInt16) (flowinfo scopeId : UInt32) :
    JsProxy.formatAddress (toJsAddress (.v6 ip port flowinfo scopeId)) = ip.display := by
  have run := bestRun_agree ip.segments 0 {} (none, 1) (by simp [SameRun])
  have hex (segments : List UInt16) : JsProxy.hex (segments.map UInt16.toNat) = fmtSubslice segments := by
    simp [JsProxy.hex, fmtSubslice, Function.comp_def]
  rw [Ipv6Addr.display, own]
  simp only [JsProxy.formatAddress, toJsAddress, octets_groups]
  dsimp only at run
  generalize longestZeros 0 {} {} ip.segments = zeroes at run
  by_cases long : zeroes.len > 1
  · rw [SameRun, if_pos long] at run
    rw [run, if_pos long]
    dsimp only
    rw [← List.map_take, ← List.map_drop, hex, hex]
  · rw [SameRun, if_neg long] at run
    rw [run, if_neg long]
    exact hex ip.segments

/-! ### Headers -/

theorem parsePeer_new {peer : List Char} {source : SocketAddr} (parsed : Proxy.parsePeer peer = some source) :
    ∃ ip port, source = .new (unmapped ip) port := by
  cases bare : IpAddr.parse peer with
  | some ip =>
      rw [parsePeer_bare bare] at parsed
      exact ⟨ip, 0, (Option.some.inj parsed).symm⟩
  | none =>
      by_cases bracket : peer.head? = some '['
      · cases peer with
        | nil => cases bracket
        | cons c rest =>
            have same : c = '[' := by simpa using bracket
            subst same
            rw [parsePeer_bracket bare] at parsed
            simp only [Option.bind_eq_some_iff, Option.map_eq_some_iff] at parsed
            obtain ⟨_, _, _, _, port, _, is⟩ := parsed
            exact ⟨_, port, is.symm⟩
      · rw [parsePeer_plain bare bracket] at parsed
        simp only [Option.bind_eq_some_iff, Option.map_eq_some_iff] at parsed
        obtain ⟨_, _, _, _, port, _, is⟩ := parsed
        exact ⟨_, port, is.symm⟩

/-- `parse_peer` gives no mapped address, no flow and no scope. -/
theorem parsePeer_own {peer : List Char} {ip : Ipv6Addr} {port : UInt16} {flowinfo scopeId : UInt32}
    (parsed : Proxy.parsePeer peer = some (.v6 ip port flowinfo scopeId)) :
    ip.toIpv4Mapped = none ∧ flowinfo = 0 ∧ scopeId = 0 := by
  obtain ⟨ip', port', is⟩ := parsePeer_new parsed
  cases ip' with
  | v4 ip' => cases is
  | v6 ip' =>
      cases mapped : ip'.toIpv4Mapped with
      | some ipv4 =>
          rw [unmapped, mapped] at is
          cases is
      | none =>
          rw [unmapped, mapped] at is
          cases is
          exact ⟨mapped, rfl, rfl⟩

/-- A source that `parse_peer` can give. -/
def OwnSource : Option SocketAddr → Prop
  | some (.v6 ip _ _ _) => ip.toIpv4Mapped = none
  | _ => True

theorem ownSource_parsePeer (peer : List Char) : OwnSource (Proxy.parsePeer peer) := by
  cases parsed : Proxy.parsePeer peer with
  | none => trivial
  | some source =>
      cases source with
      | v4 ip port => trivial
      | v6 ip port flowinfo scopeId => exact (parsePeer_own parsed).1

theorem v1Line_four {source : JsProxy.Address} (four : source.family = .four) :
    JsProxy.v1Line (some source) =
      "PROXY ".toList ++ "TCP4".toList ++ " ".toList ++ JsProxy.formatAddress source ++ " ".toList ++
        "0.0.0.0".toList ++ " ".toList ++ Nat.toDigits 10 source.port ++ " ".toList ++
        Nat.toDigits 10 JsProxy.publicPort ++ "\r\n".toList := by
  unfold JsProxy.v1Line
  dsimp only
  rw [four]

theorem v1Line_six {source : JsProxy.Address} (six : source.family = .six) :
    JsProxy.v1Line (some source) =
      "PROXY ".toList ++ "TCP6".toList ++ " ".toList ++ JsProxy.formatAddress source ++ " ".toList ++
        "::".toList ++ " ".toList ++ Nat.toDigits 10 source.port ++ " ".toList ++
        Nat.toDigits 10 JsProxy.publicPort ++ "\r\n".toList := by
  unfold JsProxy.v1Line
  dsimp only
  rw [six]

theorem unspecified_v4 : Ipv4Addr.unspecified.display = "0.0.0.0".toList := by
  decide +kernel

theorem unspecified_v6 : Ipv6Addr.unspecified.display = "::".toList := by
  decide +kernel

theorem v1Line_v4 (ip : Ipv4Addr) (port : UInt16) :
    JsProxy.v1Line (some (toJsAddress (.v4 ip port))) = Proxy.v1Line (some (.v4 ip port)) := by
  have protocol : "PROXY ".toList ++ "TCP4".toList ++ " ".toList = "PROXY TCP4 ".toList := rfl
  unfold Proxy.v1Line
  dsimp only
  rw [v1Line_four rfl, protocol, formatAddress_v4, unspecified_v4]
  rfl

theorem v1Line_v6 {ip : Ipv6Addr} (own : ip.toIpv4Mapped = none) (port : UInt16) (flowinfo scopeId : UInt32) :
    JsProxy.v1Line (some (toJsAddress (.v6 ip port flowinfo scopeId))) =
      Proxy.v1Line (some (.v6 ip port flowinfo scopeId)) := by
  have protocol : "PROXY ".toList ++ "TCP6".toList ++ " ".toList = "PROXY TCP6 ".toList := rfl
  unfold Proxy.v1Line
  dsimp only
  rw [v1Line_six rfl, protocol, formatAddress_v6 own, unspecified_v6]
  rfl

/-- Both write the same line. -/
theorem v1_agree {source : Option SocketAddr} (own : OwnSource source) :
    JsProxy.v1 (source.map toJsAddress) = Proxy.v1 source := by
  unfold JsProxy.v1 Proxy.v1
  match source, own with
  | none, _ => rfl
  | some (.v4 ip port), _ => exact congrArg utf8 (v1Line_v4 ip port)
  | some (.v6 ip port flowinfo scopeId), own => exact congrArg utf8 (v1Line_v6 own port flowinfo scopeId)

/-- What is written behind what is written already, over zeros. -/
theorem set_zeros {written bytes : List UInt8} {offset n : Nat} (behind : offset = written.length) :
    JsProxy.set (written ++ List.replicate n 0) bytes offset =
      written ++ bytes ++ List.replicate (n - bytes.length) 0 := by
  subst behind
  have zeros : (written ++ List.replicate n 0).drop (written.length + bytes.length) =
      List.replicate (n - bytes.length) 0 := by
    rw [← List.drop_drop, List.drop_left, List.drop_replicate]
  rw [JsProxy.set, List.take_left, zeros]

theorem setUint16_zeros {written : List UInt8} {offset n value : Nat} (behind : offset = written.length)
    (small : value < 2 ^ 16) :
    JsProxy.setUint16 (written ++ List.replicate n 0) offset value =
      written ++ toBeBytes (UInt16.ofNat value) ++ List.replicate (n - 2) 0 := by
  have bytes : [UInt8.ofNat (value >>> 8), UInt8.ofNat value] = toBeBytes (UInt16.ofNat value) := by
    have whole : (UInt16.ofNat value).toNat = value := by
      rw [UInt16.toNat_ofNat', Nat.mod_eq_of_lt small]
    have low : UInt8.ofNat value = UInt8.ofNat (value % 256) := by
      apply UInt8.toNat_inj.mp
      simp [UInt8.toNat_ofNat']
    rw [toBeBytes, whole, Nat.shiftRight_eq_div_pow, ← low]
  rw [JsProxy.setUint16, set_zeros behind, bytes]
  rfl

/-- The first sixteen bytes. -/
theorem v2_front (command family : UInt8) {length : Nat} (small : length < 2 ^ 16) :
    JsProxy.setUint16 (JsProxy.set (JsProxy.set (JsProxy.set (List.replicate (16 + length) 0) JsProxy.v2Signature 0)
      [command] 12) [family] 13) 14 length =
    (Proxy.v2Signature ++ [command, family] ++ toBeBytes (UInt16.ofNat length)) ++ List.replicate length 0 := by
  have signature : JsProxy.set (List.replicate (16 + length) 0) JsProxy.v2Signature 0 =
      Proxy.v2Signature ++ List.replicate (4 + length) 0 := by
    have empty : List.replicate (16 + length) (0 : UInt8) = [] ++ List.replicate (16 + length) 0 := rfl
    have rest : 16 + length - JsProxy.v2Signature.length = 4 + length := by
      simp only [JsProxy.v2Signature, List.length_cons, List.length_nil]
      omega
    rw [empty, set_zeros (show 0 = ([] : List UInt8).length from rfl), rest]
    rfl
  rw [signature, set_zeros (show 12 = Proxy.v2Signature.length from rfl),
    set_zeros (show 13 = (Proxy.v2Signature ++ [command]).length from rfl),
    setUint16_zeros (show 14 = (Proxy.v2Signature ++ [command] ++ [family]).length from rfl) small]
  have rest : 4 + length - [command].length - [family].length - 2 = length := by
    simp only [List.length_cons, List.length_nil]
    omega
  rw [rest]
  simp

/-- The addresses and ports behind them. -/
theorem v2_source {written address : List UInt8} {n : Nat} (port : UInt16) (sixteen : written.length = 16)
    (room : 2 * address.length + 4 ≤ n) :
    JsProxy.setUint16 (JsProxy.setUint16 (JsProxy.set (written ++ List.replicate n 0) address 16)
      (16 + address.length * 2) port.toNat) (16 + address.length * 2 + 2) JsProxy.publicPort =
    (written ++ (address ++ List.replicate address.length 0 ++ toBeBytes port ++ toBeBytes Proxy.publicPort)) ++
      List.replicate (n - (2 * address.length + 4)) 0 := by
  have zeros : List.replicate (n - address.length) (0 : UInt8) =
      List.replicate address.length 0 ++ List.replicate (n - 2 * address.length) 0 := by
    rw [List.replicate_append_replicate]
    congr 1
    omega
  have ofPort : UInt16.ofNat port.toNat = port := UInt16.ofNat_toNat
  rw [set_zeros sixteen.symm, zeros, ← List.append_assoc,
    setUint16_zeros (by simp only [List.length_append, List.length_replicate]; omega) port.toNat_lt, ofPort,
    setUint16_zeros (by simp only [List.length_append, List.length_replicate, toBeBytes, List.length_cons, List.length_nil]; omega)
      (by decide)]
  have public_ : UInt16.ofNat JsProxy.publicPort = Proxy.publicPort := rfl
  have rest : n - 2 * address.length - 2 - 2 = n - (2 * address.length + 4) := by omega
  rw [public_, rest]
  simp

/-- The server name. -/
theorem v2_authority {written : List UInt8} {sni : List Char} (some_ : 0 < (utf8 sni).length)
    (short : (utf8 sni).length ≤ 255) :
    JsProxy.set (JsProxy.setUint16 (JsProxy.set (written ++ List.replicate (3 + (utf8 sni).length) 0)
      [JsProxy.pp2TypeAuthority] written.length) (written.length + 1) (utf8 sni).length) (utf8 sni) (written.length + 3) =
    written ++ Proxy.v2Authority sni := by
  have present : ¬ sni.isEmpty = true ∧ (utf8 sni).length ≤ 255 := by
    refine ⟨fun none_ => ?_, short⟩
    rw [List.isEmpty_iff.mp none_] at some_
    exact Nat.lt_irrefl _ some_
  rw [set_zeros rfl, setUint16_zeros (by simp) (by omega),
    set_zeros (by simp [toBeBytes]), Proxy.v2Authority, if_pos present]
  have rest : 3 + (utf8 sni).length - [JsProxy.pp2TypeAuthority].length - 2 - (utf8 sni).length = 0 := by
    simp only [List.length_cons, List.length_nil]
    omega
  rw [rest]
  simp [JsProxy.pp2TypeAuthority, Proxy.pp2TypeAuthority]

theorem v2Authority_length (sni : List Char) : (Proxy.v2Authority sni).length =
    if (utf8 sni).length > 0 ∧ (utf8 sni).length ≤ 255 then 3 + (utf8 sni).length else 0 := by
  have empty : (¬ sni.isEmpty = true) ↔ (utf8 sni).length > 0 := by
    cases sni with
    | nil => simp [utf8]
    | cons c sni =>
        have size := Char.utf8Size_pos c
        simp only [List.isEmpty_cons, utf8_cons, List.length_append, String.length_utf8EncodeChar]
        simp
        omega
  unfold Proxy.v2Authority
  by_cases present : (utf8 sni).length > 0 ∧ (utf8 sni).length ≤ 255
  · rw [if_pos present, if_pos ⟨empty.mpr present.1, present.2⟩]
    simp only [List.length_append, List.length_cons, List.length_nil, toBeBytes]
  · rw [if_neg present, if_neg (fun both => present ⟨empty.mp both.1, both.2⟩)]
    rfl

/-- The last part of `v2`. -/
theorem v2_end {written : List UInt8} {offset : Nat} (sni : List Char) (behind : offset = written.length) :
    (if (Proxy.v2Authority sni).length > 0 then
      JsProxy.set (JsProxy.setUint16 (JsProxy.set (written ++ List.replicate (Proxy.v2Authority sni).length 0)
        [JsProxy.pp2TypeAuthority] offset) (offset + 1) (utf8 sni).length) (utf8 sni) (offset + 3)
    else written ++ List.replicate (Proxy.v2Authority sni).length 0) = written ++ Proxy.v2Authority sni := by
  subst behind
  have length := v2Authority_length sni
  by_cases present : (utf8 sni).length > 0 ∧ (utf8 sni).length ≤ 255
  · rw [if_pos present] at length
    have some_ : 3 + (utf8 sni).length > 0 := by omega
    rw [length, if_pos some_, v2_authority present.1 present.2]
  · rw [if_neg present] at length
    rw [length, if_neg (Nat.lt_irrefl 0), List.length_eq_zero_iff.mp length]
    rfl

theorem authority_small (sni : List Char) : (Proxy.v2Authority sni).length ≤ 258 := by
  rw [v2Authority_length]
  split
  · omega
  · omega

/-- Both write the same header without a visitor. -/
theorem v2_none (sni : List Char) : JsProxy.v2 none sni = Proxy.v2 none sni := by
  have small := authority_small sni
  unfold JsProxy.v2
  dsimp only
  rw [← v2Authority_length sni, Nat.zero_add, v2_front _ _ (by omega)]
  refine (v2_end sni ?_).trans ?_
  · rfl
  · rfl

/-- The bytes behind the first sixteen, for a source. -/
theorem v2_rest {front address : List UInt8} (port : UInt16) (sni : List Char) (sixteen : front.length = 16) {length offset : Nat}
    (whole : length = 2 * address.length + 4 + (Proxy.v2Authority sni).length)
    (at_ : offset = 16 + address.length * 2) :
    (if (Proxy.v2Authority sni).length > 0 then
      JsProxy.set (JsProxy.setUint16 (JsProxy.set (JsProxy.setUint16 (JsProxy.setUint16
        (JsProxy.set (front ++ List.replicate length 0) address 16) offset port.toNat) (offset + 2) JsProxy.publicPort)
        [JsProxy.pp2TypeAuthority] (offset + 4)) (offset + 4 + 1) (utf8 sni).length) (utf8 sni) (offset + 4 + 3)
    else JsProxy.setUint16 (JsProxy.setUint16
      (JsProxy.set (front ++ List.replicate length 0) address 16) offset port.toNat) (offset + 2) JsProxy.publicPort) =
    front ++ (address ++ List.replicate address.length 0 ++ toBeBytes port ++ toBeBytes Proxy.publicPort) ++
      Proxy.v2Authority sni := by
  have rest : length - (2 * address.length + 4) = (Proxy.v2Authority sni).length := by omega
  rw [at_, v2_source port sixteen (by omega), rest]
  apply v2_end
  simp only [List.length_append, List.length_replicate, toBeBytes, List.length_cons, List.length_nil, sixteen]
  omega

/-- Both write the same header for a visitor of the old protocol. -/
theorem v2_v4 (ip : Ipv4Addr) (port : UInt16) (sni : List Char) :
    JsProxy.v2 (some (toJsAddress (.v4 ip port))) sni = Proxy.v2 (some (.v4 ip port)) sni := by
  have small := authority_small sni
  have body : (Proxy.v2Addresses (some (.v4 ip port)) ++ Proxy.v2Authority sni).length =
      12 + (Proxy.v2Authority sni).length := List.length_append
  unfold JsProxy.v2
  dsimp only [toJsAddress]
  rw [← v2Authority_length sni, v2_front _ _ (by omega)]
  refine (v2_rest port sni rfl rfl rfl).trans ?_
  unfold Proxy.v2
  dsimp only
  rw [body, List.append_assoc]
  rfl

/-- And for one of the new. -/
theorem v2_v6 (ip : Ipv6Addr) (port : UInt16) (flowinfo scopeId : UInt32) (sni : List Char) :
    JsProxy.v2 (some (toJsAddress (.v6 ip port flowinfo scopeId))) sni =
      Proxy.v2 (some (.v6 ip port flowinfo scopeId)) sni := by
  have small := authority_small sni
  have sixteen := octets_length ip
  have zeros : Ipv6Addr.unspecified.octets = List.replicate ip.octets.length 0 := by
    rw [sixteen]
    decide
  have body : (Proxy.v2Addresses (some (.v6 ip port flowinfo scopeId)) ++ Proxy.v2Authority sni).length =
      36 + (Proxy.v2Authority sni).length := by
    rw [List.length_append, Proxy.v2Addresses, zeros]
    simp only [List.length_append, List.length_replicate, sixteen, toBeBytes, List.length_cons, List.length_nil]
  unfold JsProxy.v2
  dsimp only [toJsAddress]
  rw [← v2Authority_length sni, v2_front _ _ (by omega)]
  refine (v2_rest port sni rfl ?_ rfl).trans ?_
  · rw [sixteen]
  · unfold Proxy.v2
    dsimp only
    rw [body, List.append_assoc, Proxy.v2Addresses, zeros]
    rfl

theorem v2_agree (source : Option SocketAddr) (sni : List Char) :
    JsProxy.v2 (source.map toJsAddress) sni = Proxy.v2 source sni := by
  match source with
  | none => exact v2_none sni
  | some (.v4 ip port) => exact v2_v4 ip port sni
  | some (.v6 ip port flowinfo scopeId) => exact v2_v6 ip port flowinfo scopeId sni

/-- The two clients parse the same peers, and write the same headers. -/
theorem headers_agree (peer sni : List Char) (version : ProxyProtocol) :
    JsProxy.parsePeer peer = (Proxy.parsePeer peer).map toJsAddress ∧
    JsProxy.header version peer sni = Proxy.header version peer sni := by
  have same := parsePeer_agree peer
  refine ⟨same, ?_⟩
  cases version with
  | v1 =>
      rw [JsProxy.header, Proxy.header, same]
      exact v1_agree (ownSource_parsePeer peer)
  | v2 =>
      rw [JsProxy.header, Proxy.header, same]
      exact v2_agree _ sni

end OpenTunnel
