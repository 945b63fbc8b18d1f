/-
Module: OpenTunnel.Model.Hello
Layer: Model
Purpose: Reading the ClientHello (`sni.rs`). Each index and each range of the source is checked where it is used: what
  would panic gives no answer.
Imports: OpenTunnel.Formats.Incremental, OpenTunnel.Formats.Utf8
Trusted boundary: `lower`, the lowercasing of `str::to_lowercase`
Main exports: Hello, parseHelloBody, HelloParser, HelloParser.round, HelloParser.parse, parseClientHello
Open obligations: none
-/
import OpenTunnel.Formats.Incremental
import OpenTunnel.Formats.Utf8

namespace OpenTunnel

open Formats

def clientHelloLimit : Nat := 64 * 1024

inductive Hello where
  | incomplete
  | invalid (reason : String)
  | complete (serverName alpn : List Char)
deriving DecidableEq

/-- `u16_at` -/
def u16At (data : List UInt8) (offset : Nat) : Option Nat := do
  let high ← data[offset]?
  let low ← data[offset + 1]?
  some (high.toNat * 256 + low.toNat)

/-- `&data[start..stop]` -/
def slice (data : List UInt8) (start stop : Nat) : Option (List UInt8) :=
  if start ≤ stop ∧ stop ≤ data.length then some ((data.take stop).drop start) else none

section Body

variable (lower : List Char → List Char)

/-- The loop over the names of a `server_name` extension: the name that is found, if any. -/
def hostName (hello : List UInt8) (listEnd : Nat) : Nat → Nat → Option (Option (List Char))
  | 0, _ => none
  | fuel + 1, nameOffset =>
      if nameOffset + 3 ≤ listEnd then do
        let nameType ← hello[nameOffset]?
        let nameLength ← u16At hello (nameOffset + 1)
        let nameOffset := nameOffset + 3
        if nameOffset + nameLength > listEnd then some none
        else if nameType = 0 then do
          let name ← slice hello nameOffset (nameOffset + nameLength)
          some (some (fromUtf8Lossy name))
        else hostName hello listEnd fuel (nameOffset + nameLength)
      else some none

/-- The first protocol of an ALPN extension. -/
def firstProtocol (hello : List UInt8) (offset listEnd : Nat) : Option (Option (List Char)) := do
  let protocolLength ← hello[offset + 2]?
  if offset + 3 + protocolLength.toNat ≤ listEnd then do
    let protocol ← slice hello (offset + 3) (offset + 3 + protocolLength.toNat)
    some (some (fromUtf8Lossy protocol))
  else some none

/-- What is answered after the extensions. -/
def helloFound (serverName alpn : List Char) : Hello :=
  if serverName.isEmpty then .invalid "ClientHello has no SNI" else .complete (lower serverName) alpn

/-- The loop over the extensions. -/
def helloExtensions (hello : List UInt8) (extensionsEnd : Nat) : Nat → Nat → List Char → List Char → Option Hello
  | 0, _, _, _ => none
  | fuel + 1, offset, serverName, alpn =>
      if offset + 4 ≤ extensionsEnd then do
        let kind ← u16At hello offset
        let length ← u16At hello (offset + 2)
        let offset := offset + 4
        let stop := offset + length
        if stop > extensionsEnd then some (.invalid "truncated extension")
        else if kind = 0 ∧ length ≥ 5 then do
          let listLength ← u16At hello offset
          let found ← hostName hello (min stop (offset + 2 + listLength)) (hello.length + 1) (offset + 2)
          helloExtensions hello extensionsEnd fuel stop (found.getD serverName) alpn
        else if kind = 16 ∧ length ≥ 3 then do
          let listLength ← u16At hello offset
          let found ← firstProtocol hello offset (min stop (offset + 2 + listLength))
          helloExtensions hello extensionsEnd fuel stop serverName (found.getD alpn)
        else helloExtensions hello extensionsEnd fuel stop serverName alpn
      else some (helloFound lower serverName alpn)

/-- `parse_hello_body` -/
def parseHelloBody (hello : List UInt8) : Option Hello :=
  if hello.length < 35 then some (.invalid "truncated ClientHello")
  else do
    let offset := 2 + 32
    let sessionLength : UInt8 ← hello[offset]?
    let offset := offset + 1 + sessionLength.toNat
    if offset + 2 > hello.length then some (.invalid "invalid session")
    else do
      let cipherLength ← u16At hello offset
      let offset := offset + 2 + cipherLength
      if offset ≥ hello.length then some (.invalid "invalid cipher suites")
      else do
        let compressionLength : UInt8 ← hello[offset]?
        let offset := offset + 1 + compressionLength.toNat
        if offset = hello.length then some (.invalid "ClientHello has no SNI")
        else if offset + 2 > hello.length then some (.invalid "invalid extensions")
        else do
          let extensionsLength ← u16At hello offset
          let offset := offset + 2
          let extensionsEnd := offset + extensionsLength
          if extensionsEnd > hello.length then some (.invalid "truncated extensions")
          else helloExtensions lower hello extensionsEnd (hello.length + 1) offset [] []

end Body

structure HelloParser where
  /-- Where the next record starts. -/
  recordOffset : Nat := 0
  handshake : List UInt8 := []
  handshakeLength : Option Nat := none
deriving DecidableEq

namespace HelloParser

variable (lower : List Char → List Char)

/-- The length of the hello, once all of it is there. -/
def whole (parser : HelloParser) : Option Nat :=
  parser.handshakeLength.filter fun length => parser.handshake.length ≥ length + 4

/-- What follows a record: the length of the handshake message is kept once it can be read. -/
def afterRecord (parser : HelloParser) : Option (Round Hello HelloParser) :=
  if parser.handshake.length ≥ 4 then do
    let first ← parser.handshake[0]?
    if first ≠ 0x01 then some (.answer (.invalid "expected TLS ClientHello") parser)
    else do
      let high : UInt8 ← parser.handshake[1]?
      let middle : UInt8 ← parser.handshake[2]?
      let low : UInt8 ← parser.handshake[3]?
      let length := high.toNat * 65536 + middle.toNat * 256 + low.toNat
      some (.again { parser with handshakeLength := some (parser.handshakeLength.getD length) })
  else some (.again parser)

/-- A round of the loop of `parse`. -/
def round (data : List UInt8) (parser : HelloParser) : Option (Round Hello HelloParser) :=
  match parser.whole with
  | some length => do
      let body ← slice parser.handshake 4 (length + 4)
      let hello ← parseHelloBody lower body
      some (.answer hello parser)
  | none =>
      let offset := parser.recordOffset
      if data.length - offset < 5 then some .wait
      else do
        let kind ← data[offset]?
        if kind ≠ 0x16 then some (.answer (.invalid "expected TLS handshake record") parser)
        else do
          let recordLength ← u16At data (offset + 3)
          if data.length - offset - 5 < recordLength then some .wait
          else do
            let start := offset + 5
            let fragment ← slice data start (start + recordLength)
            afterRecord { parser with
              handshake := parser.handshake ++ fragment
              recordOffset := start + recordLength }

/-- `parse`: the answer to what has arrived, and the parser for the next call. -/
def parse (parser : HelloParser) (data : List UInt8) : Option (Hello × HelloParser) :=
  (scanAll (round lower) parser data).map fun found => (found.1.getD .incomplete, found.2)

end HelloParser

/-- `parse_client_hello` -/
def parseClientHello (lower : List Char → List Char) (data : List UInt8) : Option Hello :=
  (HelloParser.parse lower {} data).map Prod.fst

end OpenTunnel
