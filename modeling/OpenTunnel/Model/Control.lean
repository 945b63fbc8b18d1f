/-
Module: OpenTunnel.Model.Control
Layer: Model
Purpose: The messages of a bridge as they are written and read (`ServerControl`, `data_frame`, `read`, `attach`,
  `handle_control` and `data` of `bridge.rs`; `send_drain` of `service.rs`; `ClientMessage`, `ServerMessage` and the data
  frames of `protocol/bridge.rs`; the data frames of `bridge-protocol.ts`). A control message is a JSON object whose `type`
  says which fields it has; a data frame is the connection's number before its payload. `serde` would also take a message
  from an array of its values, which nobody writes; here it is invalid.
Imports: OpenTunnel.Formats.BigEndian, OpenTunnel.Formats.Fields
Trusted boundary: the JSON writer and reader (`serde_json`) are a parameter
Main exports: Control.ServerControl, Control.ServerMessage, Control.decode, Control.ClientMessage, Control.readText,
  Control.dataFrame, Control.decodeDataFrame
Open obligations: none
-/
import OpenTunnel.Formats.BigEndian
import OpenTunnel.Formats.Fields

namespace OpenTunnel.Control

open Formats

variable {F : Type}

/-! ### From the server -/

/-- `ServerControl`, and the message of `send_drain`; a pong gives back what its ping held. -/
inductive ServerControl (F : Type) where
  | attached (session : String) (routes : List String) (heartbeatMs idleTimeoutMs : UInt64)
  | attachError (code : String)
  | open_ (conn : UInt32) (peer sni alpn : String)
  | ping (timeSent : UInt64)
  | pong (timeSent : Json F)
  | drain (reason : String)
  | end_ (conn : UInt32)
  | reset (conn : UInt32) (code : String)

namespace ServerControl

/-- The `type` and the fields that are written. -/
def kind : ServerControl F → String
  | .attached .. => "attached"
  | .attachError _ => "attach_error"
  | .open_ .. => "open"
  | .ping _ => "ping"
  | .pong _ => "pong"
  | .drain _ => "drain"
  | .end_ _ => "end"
  | .reset .. => "reset"

def fields : ServerControl F → List (String × Json F)
  | .attached session routes heartbeatMs idleTimeoutMs =>
      [("session", .str session), ("routes", .arr (routes.map .str)), ("heartbeat_ms", .nat heartbeatMs.toNat),
        ("idle_timeout_ms", .nat idleTimeoutMs.toNat)]
  | .attachError code => [("code", .str code)]
  | .open_ conn peer sni alpn => [("conn", .nat conn.toNat), ("peer", .str peer), ("sni", .str sni), ("alpn", .str alpn)]
  | .ping timeSent => [("time_sent", .nat timeSent.toNat)]
  | .pong timeSent => [("time_sent", timeSent)]
  | .drain reason => [("reason", .str reason)]
  | .end_ conn => [("conn", .nat conn.toNat)]
  | .reset conn code => [("conn", .nat conn.toNat), ("code", .str code)]

def json (message : ServerControl F) : Json F := .obj (("type", .str message.kind) :: message.fields)

end ServerControl

/-- `ServerMessage` -/
inductive ServerMessage where
  | attached (session : String) (routes : List String) (heartbeatMs idleTimeoutMs : UInt64)
  | attachError (code : String)
  | open_ (conn : UInt32) (peer sni alpn : String)
  | ping (timeSent : UInt64)
  | pong (timeSent : UInt64)
  | drain (reason : String)
  | end_ (conn : UInt32)
  | reset (conn : UInt32) (code : String)
deriving DecidableEq, Repr

/-- `SERVER_TYPES` -/
def serverTypes : List String := ["attached", "attach_error", "open", "ping", "pong", "drain", "end", "reset"]

def asU64 (v : Json F) : Option UInt64 := (below (2 ^ 64) v).map UInt64.ofNat
def asU32 (v : Json F) : Option UInt32 := (below (2 ^ 32) v).map UInt32.ofNat

/-- The variant that `type` names, from the other members. -/
def ServerMessage.ofFields (kind : String) (members : List (String × Json F)) : Option ServerMessage :=
  match kind with
  | "attached" => do
      let session ← field members "session" asText
      let routes ← field members "routes" (asList asText)
      let heartbeatMs ← field members "heartbeat_ms" asU64
      let idleTimeoutMs ← field members "idle_timeout_ms" asU64
      some (.attached session routes heartbeatMs idleTimeoutMs)
  | "attach_error" => (field members "code" asText).map .attachError
  | "open" => do
      let conn ← field members "conn" asU32
      let peer ← field members "peer" asText
      let sni ← field members "sni" asText
      let alpn ← field members "alpn" asText
      some (.open_ conn peer sni alpn)
  | "ping" => (field members "time_sent" asU64).map .ping
  | "pong" => (field members "time_sent" asU64).map .pong
  | "drain" => (field members "reason" asText).map .drain
  | "end" => (field members "conn" asU32).map .end_
  | "reset" => do
      let conn ← field members "conn" asU32
      let code ← field members "code" asText
      some (.reset conn code)
  | _ => none

/-- `ServerMessage::decode` -/
def decode (codec : Codec F) (text : Text) : Except Unit (Option ServerMessage) :=
  match codec.read text with
  | some (.obj members) =>
      match field (latest members) "type" asText with
      | some kind =>
          if kind ∉ serverTypes then .ok none
          else match ServerMessage.ofFields kind (latest members) with
            | some message => .ok (some message)
            | none => .error ()
      | none => .error ()
  | _ => .error ()

/-! ### From the client -/

/-- `ClientMessage`; the only transport is `ws`. -/
inductive ClientMessage where
  | attach (token : String) (routes : List String) (version : String) (maxConns : UInt32)
  | ping (timeSent : UInt64)
  | pong (timeSent : UInt64)
  | end_ (conn : UInt32)
  | reset (conn : UInt32) (code : String)
deriving DecidableEq, Repr

namespace ClientMessage

def kind : ClientMessage → String
  | .attach .. => "attach"
  | .ping _ => "ping"
  | .pong _ => "pong"
  | .end_ _ => "end"
  | .reset .. => "reset"

def fields : ClientMessage → List (String × Json F)
  | .attach token routes version maxConns =>
      [("token", .str token), ("transport", .str "ws"), ("routes", .arr (routes.map .str)),
        ("client", .obj [("version", .str version), ("max_conns", .nat maxConns.toNat)])]
  | .ping timeSent => [("time_sent", .nat timeSent.toNat)]
  | .pong timeSent => [("time_sent", .nat timeSent.toNat)]
  | .end_ conn => [("conn", .nat conn.toNat)]
  | .reset conn code => [("conn", .nat conn.toNat), ("code", .str code)]

def json (message : ClientMessage) : Json F := .obj (("type", .str message.kind) :: message.fields)

end ClientMessage

/-- `MAX_ROUTES` -/
def maxRoutes : Nat := 128

/-- What the server makes of a text: it closes the bridge, refuses the attach, goes on with it, or handles a message of an
    attached bridge. -/
inductive Action (F : Type) where
  | invalidControl
  | attachRequired
  | tooManyRoutes
  | attach (token : String) (routes : List String) (maxConns : Option Nat)
  | pong (timeSent : Json F)
  | end_ (conn : UInt32)
  | reset (conn : UInt32)
  | ignored

/-- `control[name]` of an object -/
def get (members : List (String × Json F)) (name : String) : Option (Json F) := field (latest members) name some

def asObject : Json F → Option (List (String × Json F))
  | .obj members => some members
  | _ => none

/-- The first of each name, in order. -/
def firsts : List String → List String → List String
  | _, [] => []
  | seen, name :: rest => if name ∈ seen then firsts seen rest else name :: firsts (name :: seen) rest

/-- The routes of an `attach`; legacy clients attach the base hostname. -/
def attachRoutes (members : List (String × Json F)) : Option (List String) :=
  match get members "routes" with
  | some (.arr routes) => if maxRoutes < routes.length then none else some (firsts [] (routes.filterMap asText))
  | _ => some ["@"]

/-- `attach` until it asks the service. -/
def attach (members : List (String × Json F)) : Action F :=
  match (get members "type").bind asText, (get members "token").bind asText with
  | some "attach", some token =>
      match attachRoutes members with
      | none => .tooManyRoutes
      | some routes =>
          .attach token routes (((get members "client").bind asObject).bind fun client =>
            (get client "max_conns").bind (below (2 ^ 64)))
  | _, _ => .attachRequired

/-- `is_number` -/
def isNumber : Json F → Bool
  | .nat _ => true
  | .float _ => true
  | _ => false

/-- `handle_control` -/
def handleControl (members : List (String × Json F)) : Action F :=
  match (get members "type").bind asText with
  | some "ping" =>
      match get members "time_sent" with
      | some timeSent => if isNumber timeSent then .pong timeSent else .ignored
      | none => .ignored
  | some "end" =>
      match (get members "conn").bind asU32 with
      | some conn => .end_ conn
      | none => .ignored
  | some "reset" =>
      match (get members "conn").bind asU32 with
      | some conn => .reset conn
      | none => .ignored
  | _ => .ignored

/-- `read`: a text before and after the bridge attached. -/
def readText (codec : Codec F) (attached : Bool) (text : Text) : Action F :=
  match codec.read text with
  | some (.obj members) =>
      match (get members "type").bind asText with
      | none => .invalidControl
      | some _ => if attached then handleControl members else attach members
  | _ => .invalidControl

/-! ### Data frames -/

/-- `data_frame` and `data_message` of the server, `encode_data_frame` of the client. -/
def dataFrame (conn : UInt32) (payload : Bytes) : Bytes := toBe 4 conn.toNat ++ payload

/-- `decode_data_frame`, and the start of the server's `data`. -/
def decodeDataFrame (frame : Bytes) : Option (UInt32 × Bytes) :=
  if frame.length < 4 then none else some (UInt32.ofNat (fromBe (frame.take 4)), frame.drop 4)

/-- `buildDataFrame`: `setUint32` takes a number modulo 2 to the 32nd. -/
def buildDataFrame (conn : Nat) (payload : Bytes) : Bytes := toBe 4 (conn % 2 ^ 32) ++ payload

/-- `parseDataFrame` -/
def parseDataFrame (data : Bytes) : Option (Nat × Bytes) :=
  if data.length < 4 then none else some (fromBe (data.take 4), data.drop 4)

/-! ### A bridge's WebSocket -/

/-- A message on the socket. -/
inductive Frame where
  | text (text : Text)
  | binary (bytes : Bytes)

/-- What the server sends to a client. -/
inductive Sent (F : Type) where
  | control (message : ServerControl F)
  | data (conn : UInt32) (payload : Bytes)

/-- What the client makes of it. -/
inductive Heard where
  | control (message : ServerMessage)
  | data (conn : UInt32) (payload : Bytes)
  | ignored
deriving DecidableEq, Repr

def Sent.frame (codec : Codec F) : Sent F → Frame
  | .control message => .text (codec.write message.json)
  | .data conn payload => .binary (dataFrame conn payload)

/-- The loop of `session`: a short frame, a message of an unknown type and an invalid one are passed over. -/
def hear (codec : Codec F) : Frame → Heard
  | .text text =>
      match decode codec text with
      | .ok (some message) => .control message
      | _ => .ignored
  | .binary bytes =>
      match decodeDataFrame bytes with
      | some (conn, payload) => .data conn payload
      | none => .ignored

end OpenTunnel.Control
