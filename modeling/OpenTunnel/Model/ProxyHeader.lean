/-
Module: OpenTunnel.Model.ProxyHeader
Layer: Model
Purpose: The PROXY protocol headers: what the client library writes to a route's target (`protocol/proxy.rs`), and how the
  server reads the header in front of a public connection (`proxy_protocol.rs`).
Imports: OpenTunnel.Model.Address, OpenTunnel.Model.Supervisor
Trusted boundary: none (fully proved)
Main exports: Proxy.parsePeer, Proxy.header, ProxyReader.Header, ProxyReader.parse
Open obligations: none
-/
import OpenTunnel.Model.Address
import OpenTunnel.Model.Supervisor

namespace OpenTunnel

open Formats

namespace Proxy

def publicPort : UInt16 := 443

/-- The bytes of "\r\n\r\n\0\r\nQUIT\n". -/
def v2Signature : List UInt8 := [0x0d, 0x0a, 0x0d, 0x0a, 0x00, 0x0d, 0x0a, 0x51, 0x55, 0x49, 0x54, 0x0a]

def v2Proxy : UInt8 := 0x21
def v2Local : UInt8 := 0x20
def v2Tcp4 : UInt8 := 0x11
def v2Tcp6 : UInt8 := 0x21
def v2Unspec : UInt8 := 0x00
def pp2TypeAuthority : UInt8 := 0x02

/-- `parse_port` -/
def parsePort (value : List Char) : Option UInt16 :=
  if value.isEmpty ∨ (utf8 value).length > 5 ∨ ¬ value.all asciiDigit then none
  else (parseU16 value).map UInt16.ofNat

/-- `parse_peer` -/
def parsePeer (peer : List Char) : Option SocketAddr := do
  let (ip, port) ←
    match IpAddr.parse peer with
    | some ip => some (ip, (0 : UInt16))
    | none =>
        match peer with
        | '[' :: rest => do
            let (host, port) ← splitAtFirst "]:".toList rest
            let ip ← Ipv6Addr.parse host
            let port ← parsePort port
            some (.v6 ip, port)
        | _ => do
            let (host, port) ← rsplitOnce ':' peer
            let ip ← Ipv4Addr.parse host
            let port ← parsePort port
            some (.v4 ip, port)
  let ip :=
    match ip with
    | .v6 v6 => (v6.toIpv4Mapped.map IpAddr.v4).getD (.v6 v6)
    | ip => ip
  some (.new ip port)

/-- The line of `v1`. -/
def v1Line (source : Option SocketAddr) : List Char :=
  match source with
  | some (.v4 ip port) =>
      "PROXY TCP4 ".toList ++ ip.display ++ " ".toList ++ Ipv4Addr.unspecified.display ++ " ".toList ++
        decimal port.toNat ++ " ".toList ++ decimal publicPort.toNat ++ "\r\n".toList
  | some (.v6 ip port _ _) =>
      "PROXY TCP6 ".toList ++ ip.display ++ " ".toList ++ Ipv6Addr.unspecified.display ++ " ".toList ++
        decimal port.toNat ++ " ".toList ++ decimal publicPort.toNat ++ "\r\n".toList
  | none => "PROXY UNKNOWN\r\n".toList

/-- `v1` -/
def v1 (source : Option SocketAddr) : List UInt8 := utf8 (v1Line source)

/-- The addresses and ports of `v2`. -/
def v2Addresses : Option SocketAddr → List UInt8
  | some (.v4 ip port) => ip.octets ++ Ipv4Addr.unspecified.octets ++ toBeBytes port ++ toBeBytes publicPort
  | some (.v6 ip port _ _) => ip.octets ++ Ipv6Addr.unspecified.octets ++ toBeBytes port ++ toBeBytes publicPort
  | none => []

/-- The server name of `v2`. -/
def v2Authority (sni : List Char) : List UInt8 :=
  if ¬ sni.isEmpty ∧ (utf8 sni).length ≤ 255 then
    [pp2TypeAuthority] ++ toBeBytes (UInt16.ofNat (utf8 sni).length) ++ utf8 sni
  else []

/-- `v2` -/
def v2 (source : Option SocketAddr) (sni : List Char) : List UInt8 :=
  let (command, family) := match source with
    | some (.v4 ..) => (v2Proxy, v2Tcp4)
    | some (.v6 ..) => (v2Proxy, v2Tcp6)
    | none => (v2Local, v2Unspec)
  let body := v2Addresses source ++ v2Authority sni
  v2Signature ++ [command, family] ++ toBeBytes (UInt16.ofNat body.length) ++ body

/-- `header` -/
def header (version : ProxyProtocol) (peer sni : List Char) : List UInt8 :=
  match version with
  | .v1 => v1 (parsePeer peer)
  | .v2 => v2 (parsePeer peer) sni

end Proxy

namespace ProxyReader

def v1Max : Nat := 107

inductive Header where
  | incomplete
  | invalid
  | complete (length : Nat) (source : Option SocketAddr)
deriving DecidableEq

/-- What `parse_v2` makes of a whole body; command 0 (`LOCAL`) is a health check of the proxy itself. -/
def readBody (total command family : Nat) (body : List UInt8) : Header :=
  match command, family with
  | 0, _ => .complete total none
  | 1, 1 =>
      if body.length ≥ 12 then
        .complete total (some (.v4 ⟨body.getD 0 0, body.getD 1 0, body.getD 2 0, body.getD 3 0⟩
          (fromBeBytes (body.getD 8 0) (body.getD 9 0))))
      else .complete total none
  | 1, 2 =>
      if body.length ≥ 36 then
        let segments := (List.range 8).map fun i => fromBeBytes (body.getD (2 * i) 0) (body.getD (2 * i + 1) 0)
        .complete total ((Ipv6Addr.ofGroups segments).map fun ip =>
          .new (.v6 ip) (fromBeBytes (body.getD 32 0) (body.getD 33 0)))
      else .complete total none
  | 1, _ => .complete total none
  | _, _ => .invalid

/-- `parse_v2` -/
def parseV2 (data : List UInt8) : Header :=
  let front := min data.length 12
  if data.take front ≠ Proxy.v2Signature.take front then .invalid
  else if data.length < 16 then .incomplete
  else
    let versionCommand := (data.getD 12 0).toNat
    if versionCommand >>> 4 ≠ 2 then .invalid
    else
      let family := (data.getD 13 0).toNat
      let total := 16 + (fromBeBytes (data.getD 14 0) (data.getD 15 0)).toNat
      if data.length < total then .incomplete
      else
        readBody total (versionCommand &&& 0x0f) (family >>> 4) ((data.take total).drop 16)

/-- What `parse_v1` makes of the words of the line. -/
def parseWords (length : Nat) : List (List Char) → Header
  | first :: second :: rest =>
      if first = "PROXY".toList ∧ second = "UNKNOWN".toList then .complete length none
      else if first = "PROXY".toList ∧ (second = "TCP4".toList ∨ second = "TCP6".toList) then
        match rest with
        | [source, _, port, _] =>
            match IpAddr.parse source, parseU16 port with
            | some ip, some port => .complete length (some (.new ip (UInt16.ofNat port)))
            | _, _ => .invalid
        | _ => .invalid
      else .invalid
  | _ => .invalid

/-- `parse_v1` -/
def parseV1 (data : List UInt8) : Header :=
  let front := min data.length 6
  if data.take front ≠ (utf8 "PROXY ".toList).take front then .invalid
  else
    match indexOf [0x0d, 0x0a] data with
    | none => if data.length ≥ v1Max then .invalid else .incomplete
    | some stop =>
        match fromUtf8 (data.take stop) with
        | none => .invalid
        | some line => parseWords (stop + 2) (line.splitOn ' ')

/-- `parse` -/
def parse (data : List UInt8) : Header :=
  match data with
  | [] => .incomplete
  | first :: _ => if first = 0x0d then parseV2 data else if first = 0x50 then parseV1 data else .invalid

end ProxyReader

end OpenTunnel
