/-
Module: OpenTunnel.Model.Address
Layer: Model
Purpose: The addresses of Rust's standard library as the program uses them: `Ipv4Addr`, `Ipv6Addr`, `IpAddr` and
  `SocketAddr`, how they are read from a text (a parser that goes from left to right and gives up what it has taken when
  it fails) and how they are written. A character that is not ASCII is part of no address, so texts are lists of
  characters.
Imports: OpenTunnel.Formats.Numerals, OpenTunnel.Formats.Utf8
Trusted boundary: none (fully proved)
Main exports: Ipv4Addr, Ipv6Addr, IpAddr, SocketAddr, readIpv4Addr, readIpv6Addr, Ipv4Addr.parse, Ipv6Addr.parse,
  IpAddr.parse, Ipv4Addr.display, Ipv6Addr.display, SocketAddr.display
Open obligations: none
-/
import OpenTunnel.Formats.Numerals
import OpenTunnel.Formats.Utf8

namespace OpenTunnel

open Formats

/-- `u16::from_be_bytes` -/
def fromBeBytes (high low : UInt8) : UInt16 := UInt16.ofNat (high.toNat * 256 + low.toNat)

/-- `u16::to_be_bytes` -/
def toBeBytes (n : UInt16) : List UInt8 := [UInt8.ofNat (n.toNat / 256), UInt8.ofNat (n.toNat % 256)]

structure Ipv4Addr where
  a : UInt8
  b : UInt8
  c : UInt8
  d : UInt8
deriving DecidableEq

def Ipv4Addr.octets (ip : Ipv4Addr) : List UInt8 := [ip.a, ip.b, ip.c, ip.d]

def Ipv4Addr.unspecified : Ipv4Addr := ⟨0, 0, 0, 0⟩

structure Ipv6Addr where
  segments : List UInt16
  length : segments.length = 8
deriving DecidableEq

def Ipv6Addr.octets (ip : Ipv6Addr) : List UInt8 := ip.segments.flatMap toBeBytes

def Ipv6Addr.unspecified : Ipv6Addr := ⟨List.replicate 8 0, rfl⟩

/-- What is in front of the address in an IPv4-mapped one. -/
def mappedPrefix : List UInt8 := List.replicate 10 0 ++ [0xff, 0xff]

/-- `to_ipv4_mapped` -/
def Ipv6Addr.toIpv4Mapped (ip : Ipv6Addr) : Option Ipv4Addr :=
  if ip.octets.take 12 = mappedPrefix then
    match ip.octets.drop 12 with
    | [a, b, c, d] => some ⟨a, b, c, d⟩
    | _ => none
  else none

inductive IpAddr where
  | v4 (ip : Ipv4Addr)
  | v6 (ip : Ipv6Addr)
deriving DecidableEq

inductive SocketAddr where
  | v4 (ip : Ipv4Addr) (port : UInt16)
  | v6 (ip : Ipv6Addr) (port : UInt16) (flowinfo scopeId : UInt32)
deriving DecidableEq

/-- `SocketAddr::new` -/
def SocketAddr.new (ip : IpAddr) (port : UInt16) : SocketAddr :=
  match ip with
  | .v4 ip => .v4 ip port
  | .v6 ip => .v6 ip port 0 0

/-! ### Reading

A reader gives what it has read and what is left; where it fails, its caller goes on from the text that it had. -/

abbrev TextReader (α : Type) := List Char → Option (α × List Char)

/-- `Parser::read_given_char` -/
def readGivenChar (target : Char) : List Char → Option (List Char)
  | c :: rest => if c = target then some rest else none
  | [] => none

/-- `Parser::read_separator` -/
def readSeparator {α : Type} (separator : Char) (index : Nat) (inner : TextReader α) : TextReader α := fun text =>
  if index > 0 then (readGivenChar separator text).bind inner else inner text

/-- `Parser::read_number` with a largest count of digits, before the number is converted. -/
def readNumber (radix maxDigits : Nat) (allowZeroPrefix : Bool) : TextReader Nat := fun text =>
  match scanDigits radix maxDigits 0 0 text with
  | none => none
  | some (result, digitCount, rest) =>
      if digitCount = 0 then none
      else if !allowZeroPrefix && text.head? == some '0' && digitCount > 1 then none
      else some (result, rest)

/-- `read_number::<u8>(10, Some(3), false)` -/
def readOctet : TextReader UInt8 := fun text =>
  match readNumber 10 3 false text with
  | some (n, rest) => if n < 2 ^ 8 then some (UInt8.ofNat n, rest) else none
  | none => none

/-- `read_number::<u16>(16, Some(4), true)` -/
def readGroup : TextReader UInt16 := fun text =>
  match readNumber 16 4 true text with
  | some (n, rest) => if n < 2 ^ 16 then some (UInt16.ofNat n, rest) else none
  | none => none

/-- `Parser::read_ipv4_addr` -/
def readIpv4Addr : TextReader Ipv4Addr := fun text => do
  let (a, text) ← readSeparator '.' 0 readOctet text
  let (b, text) ← readSeparator '.' 1 readOctet text
  let (c, text) ← readSeparator '.' 2 readOctet text
  let (d, text) ← readSeparator '.' 3 readOctet text
  some (⟨a, b, c, d⟩, text)

/-- `read_groups`, from the slot at `index` on, with `slots` of them left: the groups, whether the last two are from an IPv4
    address, and what is left. -/
def readGroups : Nat → Nat → List Char → List UInt16 × Bool × List Char
  | _, 0, text => ([], false, text)
  | index, slots + 1, text =>
      -- an IPv4 address needs two slots
      match if 0 < slots then readSeparator ':' index readIpv4Addr text else none with
      | some (ip, text) => ([fromBeBytes ip.a ip.b, fromBeBytes ip.c ip.d], true, text)
      | none =>
          match readSeparator ':' index readGroup text with
          | some (group, text) =>
              let (groups, ipv4, text) := readGroups (index + 1) slots text
              (group :: groups, ipv4, text)
          | none => ([], false, text)

/-- Eight groups. -/
def Ipv6Addr.ofGroups (groups : List UInt16) : Option Ipv6Addr :=
  if h : groups.length = 8 then some ⟨groups, h⟩ else none

/-- `Parser::read_ipv6_addr` -/
def readIpv6Addr : TextReader Ipv6Addr := fun text =>
  let (head, headIpv4, text) := readGroups 0 8 text
  if head.length = 8 then (Ipv6Addr.ofGroups head).map (·, text)
  else if headIpv4 then none
  else do
    let text ← readGivenChar ':' text
    let text ← readGivenChar ':' text
    let (tail, _, text) := readGroups 0 (8 - (head.length + 1)) text
    (Ipv6Addr.ofGroups (head ++ List.replicate (8 - head.length - tail.length) 0 ++ tail)).map (·, text)

/-- `Parser::read_ip_addr` -/
def readIpAddr : TextReader IpAddr := fun text =>
  match readIpv4Addr text with
  | some (ip, rest) => some (.v4 ip, rest)
  | none => (readIpv6Addr text).map fun found => (.v6 found.1, found.2)

/-- `Parser::parse_with`: nothing may be left. -/
def parseWith {α : Type} (inner : TextReader α) (text : List Char) : Option α :=
  match inner text with
  | some (a, []) => some a
  | _ => none

/-- `str::parse::<Ipv4Addr>` -/
def Ipv4Addr.parse (text : List Char) : Option Ipv4Addr := if (utf8 text).length > 15 then none else parseWith readIpv4Addr text

/-- `str::parse::<Ipv6Addr>` -/
def Ipv6Addr.parse (text : List Char) : Option Ipv6Addr := parseWith readIpv6Addr text

/-- `str::parse::<IpAddr>` -/
def IpAddr.parse (text : List Char) : Option IpAddr := parseWith readIpAddr text

/-! ### Writing -/

def decimal (n : Nat) : List Char := Nat.toDigits 10 n

def Ipv4Addr.display (ip : Ipv4Addr) : List Char := ['.'].intercalate (ip.octets.map fun octet => decimal octet.toNat)

structure Span where
  start : Nat := 0
  len : Nat := 0
deriving DecidableEq

/-- The first longest span of zeros. -/
def longestZeros : Nat → Span → Span → List UInt16 → Span
  | _, longest, _, [] => longest
  | index, longest, current, segment :: rest =>
      if segment = 0 then
        let current := { start := if current.len = 0 then index else current.start, len := current.len + 1 }
        longestZeros (index + 1) (if current.len > longest.len then current else longest) current rest
      else longestZeros (index + 1) longest {} rest

/-- `fmt_subslice` -/
def fmtSubslice (chunk : List UInt16) : List Char := [':'].intercalate (chunk.map fun segment => Nat.toDigits 16 segment.toNat)

def Ipv6Addr.display (ip : Ipv6Addr) : List Char :=
  match ip.toIpv4Mapped with
  | some ipv4 => "::ffff:".toList ++ ipv4.display
  | none =>
      let zeroes := longestZeros 0 {} {} ip.segments
      if zeroes.len > 1 then
        fmtSubslice (ip.segments.take zeroes.start) ++ "::".toList ++ fmtSubslice (ip.segments.drop (zeroes.start + zeroes.len))
      else fmtSubslice ip.segments

def SocketAddr.display : SocketAddr → List Char
  | .v4 ip port => ip.display ++ ":".toList ++ decimal port.toNat
  | .v6 ip port _ scopeId =>
      "[".toList ++ ip.display ++ (if scopeId = 0 then [] else "%".toList ++ decimal scopeId.toNat) ++ "]:".toList ++
        decimal port.toNat

end OpenTunnel
