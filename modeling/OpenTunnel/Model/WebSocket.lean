/-
Module: OpenTunnel.Model.WebSocket
Layer: Model
Purpose: The server side of a bridge's WebSocket (`websocket.rs`). The reader takes frames off the bytes it holds and reads
  more when the frame at their front is not complete; a read gives any number of bytes, so the capacity that the source
  reserves for it (`wanted`) is left out. The writer writes a frame through a socket that takes what it takes.
Imports: OpenTunnel.Formats.BigEndian, OpenTunnel.Formats.Stream, OpenTunnel.Formats.Utf8
Trusted boundary: none
Main exports: WebSocket.Message, WebSocket.Frame, WebSocket.frame, WebSocket.step, WebSocket.next, WebSocket.readAll,
  WebSocket.Socket, WebSocket.writeFrame, WebSocket.writeClose
Open obligations: none
-/
import OpenTunnel.Formats.BigEndian
import OpenTunnel.Formats.Stream
import OpenTunnel.Formats.Utf8

namespace OpenTunnel.WebSocket

open Formats

def continuation : UInt8 := 0x0
def text : UInt8 := 0x1
def binary : UInt8 := 0x2
def close : UInt8 := 0x8
def ping : UInt8 := 0x9
def pong : UInt8 := 0xa

/-! ### Reader -/

inductive Message where
  | text (text : List Char)
  | binary (data : List UInt8)
  | ping (data : List UInt8)
  | pong (data : List UInt8)
  | close (code : Nat)
deriving DecidableEq

inductive Error where
  | io
  | protocol (reason : String)
  | tooLarge (reason : String)
deriving DecidableEq

structure Frame where
  fin : Bool
  opcode : UInt8
  payload : List UInt8
deriving DecidableEq

/-- `max_message`; with a frame's header it is within `usize`, as 64 KiB and `MAX_FRAME` are. -/
structure Limit where
  bytes : Nat
  fits : bytes + 14 < 2 ^ 64

/-- A fragmented message being assembled: whether it is text, and its data so far. -/
abbrev Assembled := Option (Bool × List UInt8)

instance fourNonzero : NeZero 4 := ⟨by decide⟩

/-- `unmask`: eight bytes at a time with the mask twice, then the rest. -/
def unmask (mask : Fin 4 → UInt8) : List UInt8 → List UInt8
  | a :: b :: c :: d :: e :: f :: g :: h :: rest =>
      (a ^^^ mask 0) :: (b ^^^ mask 1) :: (c ^^^ mask 2) :: (d ^^^ mask 3) :: (e ^^^ mask 0) :: (f ^^^ mask 1) ::
        (g ^^^ mask 2) :: (h ^^^ mask 3) :: unmask mask rest
  | rest => rest.mapIdx fun index byte => byte ^^^ mask (Fin.ofNat 4 index)

/-- Which byte of a word the machine puts first (`from_ne_bytes`, `to_ne_bytes`). -/
inductive ByteOrder where
  | big
  | little
deriving DecidableEq, Repr

def fromNe : ByteOrder → List UInt8 → UInt64
  | .big, bytes => UInt64.ofNat (fromBe bytes)
  | .little, bytes => UInt64.ofNat (fromBe bytes.reverse)

def toNe : ByteOrder → UInt64 → List UInt8
  | .big, word => toBe 8 word.toNat
  | .little, word => (toBe 8 word.toNat).reverse

/-- `unmask` as the machine runs it: its first loop takes each eight bytes as one word. -/
def unmaskWords (order : ByteOrder) (mask : Fin 4 → UInt8) : List UInt8 → List UInt8
  | a :: b :: c :: d :: e :: f :: g :: h :: rest =>
      let wide := fromNe order [mask 0, mask 1, mask 2, mask 3, mask 0, mask 1, mask 2, mask 3]
      toNe order (fromNe order [a, b, c, d, e, f, g, h] ^^^ wide) ++ unmaskWords order mask rest
  | rest => rest.mapIdx fun index byte => byte ^^^ mask (Fin.ofNat 4 index)

/-- The length of the payload and where the mask starts, once they are there. -/
def payloadLength (buffer : List UInt8) (length : UInt8) : Option (Nat × Nat) :=
  if length = 126 then if buffer.length < 4 then none else some (fromBe ((buffer.take 4).drop 2), 4)
  else if length = 127 then if buffer.length < 10 then none else some (fromBe ((buffer.take 10).drop 2), 10)
  else some (length.toNat, 2)

/-- `frame`: the frame at the front of the buffer, unmasked, once it is complete, and what is behind it. -/
def frame (limit : Limit) (buffer : List UInt8) : Except Error (Option (Frame × List UInt8)) :=
  match buffer with
  | first :: second :: _ =>
      if first &&& 0x70 ≠ 0 then .error (.protocol "reserved bits set")
      else if second &&& 0x80 = 0 then .error (.protocol "unmasked client frame")
      else
        match payloadLength buffer (second &&& 0x7f) with
        | none => .ok none
        | some (length, offset) =>
            if length > limit.bytes then .error (.tooLarge "frame too large")
            else
              let wanted := offset + 4 + length
              if buffer.length < wanted then .ok none
              else
                let mask := fun index : Fin 4 => buffer.getD (offset + index) 0
                let payload := unmask mask ((buffer.drop (offset + 4)).take length)
                .ok (some (⟨first &&& 0x80 != 0, first &&& 0x0f, payload⟩, buffer.drop wanted))
  | _ => .ok none

/-- The message of a control frame. -/
def control (opcode : UInt8) (payload : List UInt8) : Except Error Message :=
  if opcode = close then
    match payload with
    | [] => .ok (.close 1005)
    | [_] => .error (.protocol "invalid close frame")
    | high :: low :: reason =>
        if (fromUtf8 reason).isNone then .error (.protocol "invalid close reason")
        else .ok (.close (high.toNat * 256 + low.toNat))
  else if opcode = ping then .ok (.ping payload)
  else if opcode = pong then .ok (.pong payload)
  else .error (.protocol "unknown opcode")

/-- The data of a data frame, behind that of the message it goes on. -/
def assemble (limit : Limit) (frame : Frame) (assembled : Assembled) : Except Error (Bool × List UInt8) :=
  if frame.opcode = text ∨ frame.opcode = binary then
    match assembled with
    | none => .ok (frame.opcode == text, frame.payload)
    | some _ => .error (.protocol "expected a continuation")
  else if frame.opcode = continuation then
    match assembled with
    | some (isText, data) =>
        if data.length + frame.payload.length > limit.bytes then .error (.tooLarge "message too large")
        else .ok (isText, data ++ frame.payload)
    | none => .error (.protocol "unexpected continuation")
  else .error (.protocol "unknown opcode")

/-- What `parse` makes of a frame: a message, if it completes one. -/
def received (limit : Limit) (frame : Frame) (assembled : Assembled) : Except Error (Option Message × Assembled) :=
  if frame.opcode ≥ close then
    if !frame.fin || frame.payload.length > 125 then .error (.protocol "invalid control frame")
    else do
      let message ← control frame.opcode frame.payload
      .ok (some message, assembled)
  else do
    let (isText, data) ← assemble limit frame assembled
    if !frame.fin then .ok (none, some (isText, data))
    else if isText then
      match fromUtf8 data with
      | some text => .ok (some (.text text), none)
      | none => .error (.protocol "text is not UTF-8")
    else .ok (some (.binary data), none)

/-- A round of the loop of `parse`. -/
def step (limit : Limit) (buffer : List UInt8) (assembled : Assembled) : Stream.Piece UInt8 Message Error Assembled :=
  match frame limit buffer with
  | .error error => .fail error
  | .ok none => .wait
  | .ok (some (frame, rest)) =>
      match received limit frame assembled with
      | .error error => .fail error
      | .ok (message, assembled) => .took message rest assembled

/-- `next`, with the reads that are still to come and the error that they end with, if any. -/
def next (limit : Limit) (ends : Option Error) (reads : List (List UInt8)) (buffer : List UInt8) (assembled : Assembled) :
    Option (Stream.Got UInt8 Message Error Assembled) :=
  Stream.next (step limit) ends reads buffer assembled

/-- Calls of `next` on a new reader until one gives no message: the messages, and the error if there is one. -/
def readAll (limit : Limit) (ends : Option Error) (reads : List (List UInt8)) : Option (List Message × Option Error) :=
  Stream.all (step limit) ends (reads.flatten.length + 1) reads [] none

/-! ### Writer -/

inductive WriteError where
  | io
  | writeZero
deriving DecidableEq

/-- The socket of a writer: what each call of `write_vectored` does with the number of bytes it is offered. -/
structure Socket where
  write : Nat → Nat → Except WriteError Nat
  flush : Except WriteError Unit
  within : ∀ {call offered written}, write call offered = .ok written → written ≤ offered

/-- `IoSlice::advance_slices`; nothing where it panics. -/
def advanceSlices : List (List UInt8) → Nat → Option (List (List UInt8))
  | [], left => if left = 0 then some [] else none
  | slice :: slices, left =>
      if slice.length ≤ left then advanceSlices slices (left - slice.length) else some (slice.drop left :: slices)

/-- The loop of `frame`: how it ended, and the bytes that the socket took. -/
def writeSlices (socket : Socket) : Nat → Nat → List (List UInt8) → List UInt8 → Option (Except WriteError Unit × List UInt8)
  | 0, _, _, _ => none
  | fuel + 1, call, slices, wire =>
      if slices.isEmpty then some (socket.flush, wire)
      else
        match socket.write call slices.flatten.length with
        | .error error => some (.error error, wire)
        | .ok written =>
            if written = 0 then some (.error .writeZero, wire)
            else do
              let rest ← advanceSlices slices written
              writeSlices socket fuel (call + 1) rest (wire ++ slices.flatten.take written)

/-- `&header[..header_length]` -/
def header (opcode : UInt8) (length : Nat) : List UInt8 :=
  (0x80 ||| opcode) ::
    if length < 126 then [UInt8.ofNat length]
    else if length < 2 ^ 16 then 126 :: toBe 2 length
    else 127 :: toBe 8 length

/-- `Writer::frame` -/
def writeFrame (socket : Socket) (opcode : UInt8) (front payload : List UInt8) : Option (Except WriteError Unit × List UInt8) := do
  let slices ← advanceSlices [header opcode (front.length + payload.length), front, payload] 0
  writeSlices socket (slices.flatten.length + 1) 0 slices []

def writeText (socket : Socket) (chars : List Char) : Option (Except WriteError Unit × List UInt8) :=
  writeFrame socket text [] (utf8 chars)

/-- The loop of `close`: the last boundary up to here. -/
def charBoundary (bytes : List UInt8) : Nat → Nat
  | 0 => 0
  | stop + 1 => if isCharBoundary bytes (stop + 1) then stop + 1 else charBoundary bytes stop

/-- `Writer::close` -/
def writeClose (socket : Socket) (close? : Option (Nat × List Char)) : Option (Except WriteError Unit × List UInt8) :=
  match close? with
  | some (code, reason) =>
      let bytes := utf8 reason
      let stop := charBoundary bytes (min bytes.length 123)
      writeFrame socket close (toBe 2 code) (bytes.take stop)
  | none => writeFrame socket close [] []

end OpenTunnel.WebSocket
