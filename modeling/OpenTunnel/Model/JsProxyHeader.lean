/-
Module: OpenTunnel.Model.JsProxyHeader
Layer: Model
Purpose: The PROXY protocol headers of the TypeScript client (`proxy-protocol.ts`), with its own parser and printer of
  addresses: texts are cut at their separators and matched part by part. Strings are those of Unicode scalar values; an
  index that `indexOf` finds cuts between two of them. Numbers are naturals, and typed arrays are lists of bytes.
Imports: OpenTunnel.Model.Supervisor, OpenTunnel.Formats.Numerals, OpenTunnel.Formats.Utf8
Trusted boundary: none (fully proved)
Main exports: JsProxy.Address, JsProxy.parseIpv4, JsProxy.parseIpv6, JsProxy.parsePeer, JsProxy.formatAddress,
  JsProxy.header
Open obligations: none
-/
import OpenTunnel.Model.Supervisor
import OpenTunnel.Formats.Numerals
import OpenTunnel.Formats.Utf8

namespace OpenTunnel.JsProxy

open Formats

def publicPort : Nat := 443

def v2Signature : List UInt8 := [0x0d, 0x0a, 0x0d, 0x0a, 0x00, 0x0d, 0x0a, 0x51, 0x55, 0x49, 0x54, 0x0a]

def v2Proxy : UInt8 := 0x21
def v2Local : UInt8 := 0x20
def v2Tcp4 : UInt8 := 0x11
def v2Tcp6 : UInt8 := 0x21
def v2Unspec : UInt8 := 0x00
def pp2TypeAuthority : UInt8 := 0x02

inductive Family where
  | four
  | six
deriving DecidableEq, Repr

structure Address where
  family : Family
  bytes : List UInt8
  port : Nat
deriving DecidableEq, Repr

/-! ### Reading -/

/-- `/^(?:0|[1-9][0-9]{0,2})$/` -/
def octetPattern : List Char → Bool
  | ['0'] => true
  | first :: rest => '1' ≤ first && first ≤ '9' && rest.length ≤ 2 && rest.all asciiDigit
  | [] => false

/-- The body of the loop of `parseIpv4` -/
def parseOctet (part : List Char) : Option UInt8 :=
  if octetPattern part then
    let octet := numeral 10 part
    if octet > 255 then none else some (UInt8.ofNat octet)
  else none

/-- `parseIpv4` -/
def parseIpv4 (value : List Char) : Option (List UInt8) :=
  let parts := value.splitOn '.'
  if parts.length ≠ 4 then none else parts.mapM parseOctet

/-- `/^[0-9A-Fa-f]{1,4}$/`, and the number -/
def parseGroup (part : List Char) : Option Nat :=
  if 1 ≤ part.length ∧ part.length ≤ 4 ∧ part.all asciiHexDigit then some (numeral 16 part) else none

/-- `(high << 8) | low` -/
def join16 (high low : UInt8) : Nat := high.toNat <<< 8 ||| low.toNat

/-- The loop of `parseGroups` -/
def parseParts (allowIpv4 : Bool) : List (List Char) → Option (List Nat)
  | [] => some []
  | part :: rest =>
      if allowIpv4 && rest.isEmpty && part.contains '.' then
        match parseIpv4 part with
        | some [a, b, c, d] => (parseParts allowIpv4 rest).map ([join16 a b, join16 c d] ++ ·)
        | _ => none
      else
        match parseGroup part with
        | some group => (parseParts allowIpv4 rest).map (group :: ·)
        | none => none

/-- `parseGroups` -/
def parseGroups (value : List Char) (allowIpv4 : Bool) : Option (List Nat) :=
  if value.isEmpty then some [] else parseParts allowIpv4 (value.splitOn ':')

/-- `parseIpv6`, up to its bytes -/
def parseIpv6Groups (value : List Char) : Option (List Nat) :=
  match indexOf "::".toList value with
  | none => (parseGroups value true).filter fun groups => groups.length = 8
  | some gap =>
      if (indexOf "::".toList (value.drop (gap + 1))).isSome then none
      else
        match parseGroups (value.take gap) false, parseGroups (value.drop (gap + 2)) true with
        | some head, some tail =>
            if head.length + tail.length > 7 then none
            else some (head ++ List.replicate (8 - head.length - tail.length) 0 ++ tail)
        | _, _ => none

/-- `parseIpv6` -/
def parseIpv6 (value : List Char) : Option (List UInt8) :=
  (parseIpv6Groups value).map fun groups =>
    groups.flatMap fun group => [UInt8.ofNat (group >>> 8), UInt8.ofNat (group &&& 0xff)]

/-- `parsePort` -/
def parsePort (value : List Char) : Option Nat :=
  if 1 ≤ value.length ∧ value.length ≤ 5 ∧ value.all asciiDigit then
    let port := numeral 10 value
    if port ≤ 65535 then some port else none
  else none

/-- `isIpv4Mapped` -/
def isIpv4Mapped (bytes : List UInt8) : Bool :=
  (bytes.take 10).all (· = 0) && bytes.getD 10 0 = 0xff && bytes.getD 11 0 = 0xff

/-- `address` -/
def address (bytes : List UInt8) (port : Nat) : Address :=
  if bytes.length = 16 ∧ isIpv4Mapped bytes then ⟨.four, bytes.drop 12, port⟩
  else if bytes.length = 4 then ⟨.four, bytes, port⟩
  else ⟨.six, bytes, port⟩

/-- `parsePeer` -/
def parsePeer (peer : List Char) : Option Address :=
  match (parseIpv4 peer).or (parseIpv6 peer) with
  | some bare => some (address bare 0)
  | none =>
      if peer.head? = some '[' then
        match indexOf "]:".toList peer with
        | none => none
        | some close => do
            let bytes ← parseIpv6 ((peer.take close).drop 1)
            let port ← parsePort (peer.drop (close + 2))
            some (address bytes port)
      else do
        let (host, port) ← rsplitOnce ':' peer
        let bytes ← parseIpv4 host
        let port ← parsePort port
        some (address bytes port)

/-! ### Writing -/

/-- The loop of `formatAddress`, with the groups from `start` on: the first longest run of two or more zeros. -/
def bestRun (start : Nat) (bestStart : Option Nat) (bestLength : Nat) (groups : List Nat) : Option Nat × Nat :=
  match groups with
  | [] => (bestStart, bestLength)
  | group :: after =>
      if group ≠ 0 then bestRun (start + 1) bestStart bestLength after
      else
        let run := 1 + (after.takeWhile (· = 0)).length
        if run > bestLength then bestRun (start + run) (some start) run (after.dropWhile (· = 0))
        else bestRun (start + run) bestStart bestLength (after.dropWhile (· = 0))
termination_by groups.length
decreasing_by
  · exact Nat.lt_succ_self _
  · exact Nat.lt_succ_of_le (List.dropWhile_suffix _).length_le
  · exact Nat.lt_succ_of_le (List.dropWhile_suffix _).length_le

/-- `hex` -/
def hex (groups : List Nat) : List Char := [':'].intercalate (groups.map fun group => Nat.toDigits 16 group)

/-- `formatAddress` -/
def formatAddress (value : Address) : List Char :=
  match value.family with
  | .four => ['.'].intercalate (value.bytes.map fun byte => Nat.toDigits 10 byte.toNat)
  | .six =>
      let groups := (List.range 8).map fun index =>
        join16 (value.bytes.getD (index * 2) 0) (value.bytes.getD (index * 2 + 1) 0)
      match bestRun 0 none 1 groups with
      | (none, _) => hex groups
      | (some bestStart, bestLength) =>
          hex (groups.take bestStart) ++ "::".toList ++ hex (groups.drop (bestStart + bestLength))

/-- The line of `v1` -/
def v1Line (source : Option Address) : List Char :=
  match source with
  | none => "PROXY UNKNOWN\r\n".toList
  | some source =>
      let (protocol, destination) := match source.family with
        | .four => ("TCP4".toList, "0.0.0.0".toList)
        | .six => ("TCP6".toList, "::".toList)
      "PROXY ".toList ++ protocol ++ " ".toList ++ formatAddress source ++ " ".toList ++ destination ++ " ".toList ++
        Nat.toDigits 10 source.port ++ " ".toList ++ Nat.toDigits 10 publicPort ++ "\r\n".toList

def v1 (source : Option Address) : List UInt8 := utf8 (v1Line source)

/-- `out.set(bytes, offset)` -/
def set (out : List UInt8) (bytes : List UInt8) (offset : Nat) : List UInt8 :=
  out.take offset ++ bytes ++ out.drop (offset + bytes.length)

/-- `view.setUint16(offset, n)` -/
def setUint16 (out : List UInt8) (offset n : Nat) : List UInt8 :=
  set out [UInt8.ofNat (n >>> 8), UInt8.ofNat n] offset

/-- `v2` -/
def v2 (source : Option Address) (sni : List Char) : List UInt8 :=
  let authority := utf8 sni
  let tlv := if authority.length > 0 ∧ authority.length ≤ 255 then 3 + authority.length else 0
  let addresses := match source with
    | none => 0
    | some source => match source.family with
      | .four => 12
      | .six => 36
  let length := addresses + tlv
  let out := List.replicate (16 + length) 0
  let out := set out v2Signature 0
  let out := set out [if source.isSome then v2Proxy else v2Local] 12
  let out := set out [match source with
    | none => v2Unspec
    | some source => match source.family with
      | .four => v2Tcp4
      | .six => v2Tcp6] 13
  let out := setUint16 out 14 length
  let (out, offset) := match source with
    | none => (out, 16)
    | some source =>
        let size := source.bytes.length
        let out := set out source.bytes 16
        -- the destination is the unspecified address: already zero
        let offset := 16 + size * 2
        let out := setUint16 out offset source.port
        let out := setUint16 out (offset + 2) publicPort
        (out, offset + 4)
  if tlv > 0 then
    let out := set out [pp2TypeAuthority] offset
    let out := setUint16 out (offset + 1) authority.length
    set out authority (offset + 3)
  else out

/-- `header` -/
def header (version : ProxyProtocol) (peer sni : List Char) : List UInt8 :=
  match version with
  | .v1 => v1 (parsePeer peer)
  | .v2 => v2 (parsePeer peer) sni

end OpenTunnel.JsProxy
