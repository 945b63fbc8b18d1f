/-
Module: OpenTunnel.Model.Accept
Layer: Model
Purpose: The start of a public connection (`accept_with` of `relay.rs`): the optional PROXY header and the ClientHello, over
  the reads from the stream. A read gives the next bytes that arrived; one that gives none is the end of the stream.
Imports: OpenTunnel.Model.Hello, OpenTunnel.Model.ProxyHeader
Trusted boundary: `lower`, the lowercasing of `str::to_lowercase`
Main exports: Accept.Accepted, Accept.acceptHeader, Accept.acceptHello, Accept.acceptWith
Open obligations: none
-/
import OpenTunnel.Model.Hello
import OpenTunnel.Model.ProxyHeader

namespace OpenTunnel.Accept

open Formats

/-- The visitor, all that was read after the PROXY header, and what the ClientHello says; with the reads still to come. -/
structure Accepted where
  peer : SocketAddr
  initial : List UInt8
  sni : List Char
  alpn : List Char
  unread : List (List UInt8)
deriving DecidableEq

/-- The loop over the PROXY header: the visitor, the header's length, and the buffer and the reads left. -/
def acceptHeader (peer : SocketAddr) (buffer : List UInt8) (reads : List (List UInt8)) :
    Except String (SocketAddr × Nat × List UInt8 × List (List UInt8)) :=
  match ProxyReader.parse buffer with
  | .complete length source => .ok (source.getD peer, length, buffer, reads)
  | .invalid => .error "invalid PROXY protocol header"
  | .incomplete =>
      if buffer.length > 536 then .error "connection closed before the PROXY header"
      else
        match reads with
        | [] | [] :: _ => .error "connection closed before the PROXY header"
        | (byte :: bytes) :: reads => acceptHeader peer (buffer ++ byte :: bytes) reads

/-- The loop over the ClientHello. -/
def acceptHello (lower : List Char → List Char) (peer : SocketAddr) (start : Nat) (parser : HelloParser)
    (buffer : List UInt8) (reads : List (List UInt8)) : Option (Except String Accepted) :=
  match (slice buffer start buffer.length).bind (parser.parse lower) with
  | none => none
  | some (.complete serverName alpn, _) =>
      some (.ok { peer := peer, initial := buffer.drop start, sni := serverName, alpn := alpn, unread := reads })
  | some (.invalid reason, _) => some (.error reason)
  | some (.incomplete, parser) =>
      if buffer.length - start ≥ clientHelloLimit then some (.error "ClientHello exceeded inspection limit")
      else
        match reads with
        | [] | [] :: _ => some (.error "Connection closed before ClientHello")
        | (byte :: bytes) :: reads => acceptHello lower peer start parser (buffer ++ byte :: bytes) reads

/-- `accept_with`, within the time. -/
def acceptWith (lower : List Char → List Char) (peer : SocketAddr) (proxyProtocol : Bool) (buffer : List UInt8)
    (reads : List (List UInt8)) : Option (Except String Accepted) :=
  if proxyProtocol then
    match acceptHeader peer buffer reads with
    | .error reason => some (.error reason)
    | .ok (peer, start, buffer, reads) => acceptHello lower peer start {} buffer reads
  else acceptHello lower peer 0 {} buffer reads

end OpenTunnel.Accept
