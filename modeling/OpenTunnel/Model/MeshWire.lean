/-
Module: OpenTunnel.Model.MeshWire
Layer: Model
Purpose: The frames of a mesh link on its stream (`encode`, `read_frame` and the start of `run_link` of `mesh.rs`): a length of
  four bytes, then a JSON object whose `type` says what it holds. The first frame is a `hello` and short. The waits for a
  frame are not here.
Imports: OpenTunnel.Formats.BigEndian, OpenTunnel.Formats.Fields, OpenTunnel.Formats.Stream, OpenTunnel.Formats.Utf8,
  OpenTunnel.Model.Mesh
Trusted boundary: the JSON writer and reader (`serde_json`) are a parameter
Main exports: Mesh.Frame.json, Mesh.readFrame, Mesh.encode, Mesh.frameStep
Open obligations: none
-/
import OpenTunnel.Formats.BigEndian
import OpenTunnel.Formats.Fields
import OpenTunnel.Formats.Stream
import OpenTunnel.Formats.Utf8
import OpenTunnel.Model.Mesh

namespace OpenTunnel.Mesh

open Formats
open Formats.Stream (Piece)

variable {F : Type}

/-- `MAX_FRAME` and `MAX_HELLO` -/
def maxFrame : Nat := 16 * 2 ^ 20
def maxHello : Nat := 4 * 2 ^ 10

/-! ### Writing -/

def Entry.json (entry : Entry) : Json F :=
  .obj [("tunnel", .str entry.tunnel), ("bridge", .nat entry.bridge), ("routes", .arr (entry.routes.map .str)),
    ("attached_at", .nat entry.attachedAt)]

def Event.json : Event → Json F
  | .tunnelCreated tunnel => .obj [("type", .str "tunnel_created"), ("tunnel", .str tunnel)]
  | .certificateChanged tunnel => .obj [("type", .str "certificate_changed"), ("tunnel", .str tunnel)]
  | .tunnelDeleted tunnel => .obj [("type", .str "tunnel_deleted"), ("tunnel", .str tunnel)]
  | .leaving => .obj [("type", .str "leaving")]
  | .jobEnqueued => .obj [("type", .str "job_enqueued")]
  | .unknown => .obj [("type", .str "unknown")]

/-- What a frame is written with and the table does not hold. -/
structure Stamp where
  version : UInt32
  sentAt : UInt64

namespace Frame

def kind : Frame → String
  | .hello _ => "hello"
  | .snapshot .. => "snapshot"
  | .snapshotPart .. => "snapshot_part"
  | .attached .. => "attached"
  | .detached .. => "detached"
  | .event _ => "event"
  | .ping => "ping"
  | .unknown => "unknown"

/-- `more` of a snapshot is left out when it is false. -/
def fields (stamp : Stamp) : Frame → List (String × Json F)
  | .hello own =>
      [("version", .nat stamp.version.toNat), ("machine_id", .str own.machineId), ("region", .str own.region),
        ("address", .str own.address), ("epoch", .nat own.epoch), ("started_at", .nat own.startedAt),
        ("draining", .bool own.draining)]
  | .snapshot epoch seq entries more =>
      [("epoch", .nat epoch), ("seq", .nat seq), ("sent_at", .nat stamp.sentAt.toNat), ("entries", .arr (entries.map Entry.json))] ++
        if more then [("more", .bool true)] else []
  | .snapshotPart entries more => [("entries", .arr (entries.map Entry.json)), ("more", .bool more)]
  | .attached seq entry => [("seq", .nat seq), ("sent_at", .nat stamp.sentAt.toNat), ("entry", entry.json)]
  | .detached seq tunnel bridge =>
      [("seq", .nat seq), ("sent_at", .nat stamp.sentAt.toNat), ("tunnel", .str tunnel), ("bridge", .nat bridge)]
  | .event news => [("sent_at", .nat stamp.sentAt.toNat), ("event", news.json)]
  | .ping => [("sent_at", .nat stamp.sentAt.toNat)]
  | .unknown => []

def json (stamp : Stamp) (frame : Frame) : Json F := .obj (("type", .str frame.kind) :: frame.fields stamp)

end Frame

/-! ### Reading -/

def u64 (v : Json F) : Option Nat := below (2 ^ 64) v

def readEntry : Json F → Option Entry
  | .obj members => do
      let tunnel ← field members "tunnel" asText
      let bridge ← field members "bridge" u64
      let routes ← field members "routes" (asList asText)
      let attachedAt ← field members "attached_at" u64
      some { tunnel := tunnel, bridge := bridge, routes := routes, attachedAt := attachedAt }
  | _ => none

/-- An event; one of an unknown type is kept as that. -/
def readEvent : Json F → Option Event
  | .obj members => do
      let kind ← field members "type" asText
      match kind with
      | "tunnel_created" => (field members "tunnel" asText).map .tunnelCreated
      | "certificate_changed" => (field members "tunnel" asText).map .certificateChanged
      | "tunnel_deleted" => (field members "tunnel" asText).map .tunnelDeleted
      | "leaving" => some .leaving
      | "job_enqueued" => some .jobEnqueued
      | _ => some .unknown
  | _ => none

/-- The frame of this type; one of an unknown type is kept as that. -/
def Frame.ofFields (kind : String) (members : List (String × Json F)) : Option Frame :=
  match kind with
  | "hello" => do
      let _ ← field members "version" (below (2 ^ 32))
      let machineId ← field members "machine_id" asText
      let region ← field members "region" asText
      let address ← field members "address" asText
      let epoch ← field members "epoch" u64
      let startedAt ← field members "started_at" u64
      let draining ← field members "draining" asFlag
      some (.hello { machineId := machineId, region := region, address := address, epoch := epoch, startedAt := startedAt,
                     draining := draining })
  | "snapshot" => do
      let epoch ← field members "epoch" u64
      let seq ← field members "seq" u64
      let _ ← field members "sent_at" u64
      let entries ← field members "entries" (asList readEntry)
      let more ← fieldOr members "more" false asFlag
      some (.snapshot epoch seq entries more)
  | "snapshot_part" => do
      let entries ← field members "entries" (asList readEntry)
      let more ← fieldOr members "more" false asFlag
      some (.snapshotPart entries more)
  | "attached" => do
      let seq ← field members "seq" u64
      let _ ← field members "sent_at" u64
      let entry ← field members "entry" readEntry
      some (.attached seq entry)
  | "detached" => do
      let seq ← field members "seq" u64
      let _ ← field members "sent_at" u64
      let tunnel ← field members "tunnel" asText
      let bridge ← field members "bridge" u64
      some (.detached seq tunnel bridge)
  | "event" => do
      let _ ← field members "sent_at" u64
      let event ← field members "event" readEvent
      some (.event event)
  | "ping" => (field members "sent_at" u64).map fun _ => .ping
  | _ => some .unknown

def readFrame : Json F → Option Frame
  | .obj members => (field members "type" asText).bind fun kind => Frame.ofFields kind members
  | _ => none

/-! ### The stream -/

section Stream

variable (codec : Codec F)

/-- `encode` -/
def encode (stamp : Stamp) (frame : Frame) : Bytes :=
  let json := utf8 (codec.write (frame.json stamp))
  toBe 4 json.length ++ json

/-- Why a link ends. -/
inductive LinkError where
  | tooLong (length : Nat)
  | undecodable
  | noHello
deriving DecidableEq, Repr

def Frame.isHello : Frame → Bool
  | .hello _ => true
  | _ => false

/-- The largest frame, before and after the `hello`. -/
def frameLimit (said : Bool) : Nat := if said then maxFrame else maxHello

/-- `read_frame` of the bytes that arrived, and what `run_link` asks of the first frame. -/
def frameStep (held : Bytes) (said : Bool) : Piece UInt8 Frame LinkError Bool :=
  if held.length < 4 then .wait
  else
    let length := fromBe (held.take 4)
    if frameLimit said < length then .fail (.tooLong length)
    else if held.length < 4 + length then .wait
    else
      match ((fromUtf8 ((held.drop 4).take length)).bind codec.read).bind readFrame with
      | none => .fail .undecodable
      | some frame =>
          if !said && !frame.isHello then .fail .noHello
          else .took (some frame) (held.drop (4 + length)) true

end Stream

end OpenTunnel.Mesh
