/-
Module: OpenTunnel.Proofs.WebSocketReader
Layer: Proofs
Purpose: The WebSocket reader. A frame is taken off the bytes held whatever follows it, so messages do not depend on how the
  bytes arrive; the frames of a client, however it fragments, masks and interleaves them, are read as what it sends; and
  no message, complete or not, is larger than the limit.
Imports: OpenTunnel.Model.WebSocket
Trusted boundary: none (fully proved)
Main exports: unmask_eq, unmaskWords_bytewise, frame_cases, local_step, Control, Part, Sending, reads_conversation, reader_reads
Open obligations: none
-/
import OpenTunnel.Model.WebSocket

namespace OpenTunnel.WebSocket

open Formats Stream

/-! ### Masks -/

/-- Each byte with the byte of the mask at its place. -/
def masked (mask : Fin 4 → UInt8) (data : List UInt8) : List UInt8 :=
  data.mapIdx fun index byte => byte ^^^ mask (Fin.ofNat 4 index)

theorem masked_eight (mask : Fin 4 → UInt8) (front rest : List UInt8) (eight : front.length = 8) :
    masked mask (front ++ rest) = masked mask front ++ masked mask rest := by
  have place (index : Nat) : Fin.ofNat 4 (index + 8) = Fin.ofNat 4 index := by
    apply Fin.ext
    simp only [Fin.ofNat]
    omega
  rw [masked, List.mapIdx_append, eight]
  simp only [place]
  rfl

/-- Unmasking word by word is unmasking byte by byte. -/
theorem unmask_eq (mask : Fin 4 → UInt8) (data : List UInt8) : unmask mask data = masked mask data := by
  induction data using unmask.induct with
  | case1 a b c d e f g h rest ih =>
      have front : masked mask [a, b, c, d, e, f, g, h] = [a ^^^ mask 0, b ^^^ mask 1, c ^^^ mask 2, d ^^^ mask 3,
          e ^^^ mask 0, f ^^^ mask 1, g ^^^ mask 2, h ^^^ mask 3] := by
        rewrite [masked]
        simp only [List.mapIdx_cons, List.mapIdx_nil]
        rfl
      have parts := masked_eight mask [a, b, c, d, e, f, g, h] rest rfl
      rw [front] at parts
      rw [unmask, ih]
      exact parts.symm
  | case2 rest short =>
      rw [unmask]
      · rfl
      · exact short

@[simp] theorem masked_length (mask : Fin 4 → UInt8) (data : List UInt8) : (masked mask data).length = data.length :=
  List.length_mapIdx

/-- A mask undoes itself. -/
theorem masked_masked (mask : Fin 4 → UInt8) (data : List UInt8) : masked mask (masked mask data) = data := by
  have same (byte key : UInt8) : byte ^^^ key ^^^ key = byte := by
    rw [UInt8.xor_assoc, UInt8.xor_self, UInt8.xor_zero]
  apply List.ext_getElem
  · simp
  · intro index there _
    simp [masked, same]

/-- The exclusive or of two words is that of their bytes, in either order of bytes. -/
theorem toNe_xor (order : ByteOrder) {xs ys : List UInt8} (eight : xs.length = 8) (eight' : ys.length = 8) :
    toNe order (fromNe order xs ^^^ fromNe order ys) = List.zipWith (· ^^^ ·) xs ys := by
  have whole {bytes : List UInt8} (eight : bytes.length = 8) : (UInt64.ofNat (fromBe bytes)).toNat = fromBe bytes := by
    have fits := fromBe_lt bytes
    rw [eight] at fits
    rw [UInt64.toNat_ofNat']
    exact Nat.mod_eq_of_lt fits
  have bytes {xs ys : List UInt8} (eight : xs.length = 8) (eight' : ys.length = 8) :
      toBe 8 (UInt64.ofNat (fromBe xs) ^^^ UInt64.ofNat (fromBe ys)).toNat = List.zipWith (· ^^^ ·) xs ys := by
    have first := toBe_fromBe xs
    have second := toBe_fromBe ys
    rw [eight] at first
    rw [eight'] at second
    rw [UInt64.toNat_xor, whole eight, whole eight', toBe_xor, first, second]
  cases order with
  | big => exact bytes eight eight'
  | little =>
      have reversed := bytes (xs.length_reverse.trans eight) (ys.length_reverse.trans eight')
      rw [toNe, fromNe, fromNe, reversed, List.reverse_zipWith (by simp [eight, eight']), List.reverse_reverse,
        List.reverse_reverse]

/-- A word's bytes are unmasked one by one, whichever comes first on the machine. -/
theorem unmaskWords_eq (order : ByteOrder) (mask : Fin 4 → UInt8) (data : List UInt8) :
    unmaskWords order mask data = unmask mask data := by
  induction data using unmask.induct with
  | case1 a b c d e f g h rest ih =>
      dsimp only [unmaskWords]
      rw [toNe_xor order rfl rfl, ih]
      rfl
  | case2 rest short =>
      rw [unmaskWords, unmask]
      · exact short
      · exact short

/-- Byte `i` is unmasked with byte `i % 4` of the mask. -/
theorem unmaskWords_bytewise (order : ByteOrder) (mask : Fin 4 → UInt8) (data : List UInt8) :
    (unmaskWords order mask data).length = data.length ∧
      ∀ i, (unmaskWords order mask data)[i]? = data[i]?.map fun byte => byte ^^^ mask ⟨i % 4, Nat.mod_lt i (by decide)⟩ := by
  rw [unmaskWords_eq, unmask_eq]
  refine ⟨masked_length mask data, fun i => ?_⟩
  rw [masked, List.getElem?_mapIdx]
  rfl

/-! ### Frames -/

section Frames

variable {limit : Limit} {buffer : List UInt8}

/-- The length is there with the bytes that tell it, whatever follows. -/
theorem payloadLength_append {length : UInt8} {found : Nat × Nat} (is : payloadLength buffer length = some found)
    (some_ : 2 ≤ buffer.length) (more : List UInt8) :
    payloadLength (buffer ++ more) length = some found ∧ 2 ≤ found.2 ∧ found.2 ≤ 10 ∧ found.2 ≤ buffer.length := by
  unfold payloadLength at is ⊢
  split
  · rename_i two
    rw [if_pos two] at is
    split at is
    · cases is
    · rename_i there
      cases is
      rw [if_neg (by simp; omega), List.take_append_of_le_length (by omega)]
      exact ⟨rfl, by simp, by simp, by simpa using there⟩
  · rename_i notTwo
    rw [if_neg notTwo] at is
    split
    · rename_i eight
      rw [if_pos eight] at is
      split at is
      · cases is
      · rename_i there
        cases is
        rw [if_neg (by simp; omega), List.take_append_of_le_length (by omega)]
        exact ⟨rfl, by simp, by simp, by simpa using there⟩
    · rename_i notEight
      rw [if_neg notEight] at is
      cases is
      exact ⟨rfl, by simp, by simp, some_⟩

theorem payloadLength_none {length : UInt8} (is : payloadLength buffer length = none) : buffer.length < 10 := by
  unfold payloadLength at is
  split at is
  · split at is
    · omega
    · cases is
  · split at is
    · split at is
      · assumption
      · cases is
    · cases is

/-- A frame whose length is known. -/
def frameAt (limit : Limit) (buffer : List UInt8) (first : UInt8) (length offset : Nat) :
    Except Error (Option (Frame × List UInt8)) :=
  if length > limit.bytes then .error (.tooLarge "frame too large")
  else if buffer.length < offset + 4 + length then .ok none
  else .ok (some (⟨first &&& 0x80 != 0, first &&& 0x0f,
    masked (fun index => buffer.getD (offset + index) 0) ((buffer.drop (offset + 4)).take length)⟩,
    buffer.drop (offset + 4 + length)))

theorem frame_two (limit : Limit) (first second : UInt8) (tail : List UInt8) : frame limit (first :: second :: tail) =
    if first &&& 0x70 ≠ 0 then .error (.protocol "reserved bits set")
    else if second &&& 0x80 = 0 then .error (.protocol "unmasked client frame")
    else
      match payloadLength (first :: second :: tail) (second &&& 0x7f) with
      | none => .ok none
      | some (length, offset) => frameAt limit (first :: second :: tail) first length offset := by
  have same : unmask = masked := by
    funext mask data
    exact unmask_eq mask data
  unfold frame frameAt
  rewrite [same]
  rfl

/-- A frame is waited for, refused, or whole. -/
theorem frameAt_cases (first : UInt8) (length : Nat) {offset : Nat} (inside : offset ≤ buffer.length) :
    (frameAt limit buffer first length offset = .ok none ∧ buffer.length < offset + 4 + limit.bytes) ∨
    (∃ error, frameAt limit buffer first length offset = .error error ∧
      ∀ more, frameAt limit (buffer ++ more) first length offset = .error error) ∨
    ∃ found rest, frameAt limit buffer first length offset = .ok (some (found, rest)) ∧ rest.length < buffer.length ∧
      found.payload.length ≤ limit.bytes ∧
      ∀ more, frameAt limit (buffer ++ more) first length offset = .ok (some (found, rest ++ more)) := by
  unfold frameAt
  split
  · exact .inr (.inl ⟨_, rfl, fun _ => rfl⟩)
  · split
    · exact .inl ⟨rfl, by omega⟩
    · rename_i within there
      refine .inr (.inr ⟨_, _, rfl, ?_, ?_, fun more => ?_⟩)
      · rw [List.length_drop]
        omega
      · rw [masked_length, List.length_take]
        omega
      · have mask : (fun index : Fin 4 => (buffer ++ more).getD (offset + index) 0) =
            fun index : Fin 4 => buffer.getD (offset + index) 0 := by
          funext index
          have small := index.isLt
          rw [List.getD_eq_getElem?_getD, List.getD_eq_getElem?_getD, List.getElem?_append_left (by omega)]
        rw [if_neg (by rw [List.length_append]; omega), mask, List.drop_append_of_le_length (by omega),
          List.take_append_of_le_length (by rw [List.length_drop]; omega), List.drop_append_of_le_length (by omega)]

/-- What `frame` can find: too little, which is less than the largest frame; an error, or a frame within the limit, both
    whatever follows. -/
theorem frame_cases (limit : Limit) (buffer : List UInt8) :
    (frame limit buffer = .ok none ∧ buffer.length < limit.bytes + 14) ∨
    (∃ error, frame limit buffer = .error error ∧ ∀ more, frame limit (buffer ++ more) = .error error) ∨
    ∃ found rest, frame limit buffer = .ok (some (found, rest)) ∧ rest.length < buffer.length ∧
      found.payload.length ≤ limit.bytes ∧ ∀ more, frame limit (buffer ++ more) = .ok (some (found, rest ++ more)) := by
  match buffer with
  | [] => exact .inl ⟨rfl, by simp⟩
  | [_] => exact .inl ⟨rfl, by simp⟩
  | first :: second :: tail =>
      have two : 2 ≤ (first :: second :: tail).length := by simp
      have longer (more : List UInt8) : first :: second :: tail ++ more = first :: second :: (tail ++ more) := rfl
      simp only [longer, frame_two]
      split
      · exact .inr (.inl ⟨_, rfl, fun _ => rfl⟩)
      · split
        · exact .inr (.inl ⟨_, rfl, fun _ => rfl⟩)
        · cases known : payloadLength (first :: second :: tail) (second &&& 0x7f) with
          | none =>
              have short := payloadLength_none known
              exact .inl ⟨rfl, by omega⟩
          | some found =>
              obtain ⟨length, offset⟩ := found
              have stays (more : List UInt8) := payloadLength_append known two more
              simp only [longer] at stays
              obtain ⟨_, least, most, inside⟩ := stays []
              rcases frameAt_cases first length inside with ⟨is, short⟩ | ⟨error, is, later⟩ | ⟨found, rest, is, fewer, small, later⟩
              · exact .inl ⟨is, by omega⟩
              · refine .inr (.inl ⟨error, is, fun more => ?_⟩)
                rw [(stays more).1]
                exact later more
              · refine .inr (.inr ⟨found, rest, is, fewer, small, fun more => ?_⟩)
                rw [(stays more).1]
                exact later more

end Frames

/-! ### Chunks -/

theorem local_step (limit : Limit) : Local (step limit) where
  shorter := by
    intro data assembled message rest assembled' is
    unfold step at is
    rcases frame_cases limit data with ⟨none_, _⟩ | ⟨error, wrong, _⟩ | ⟨found, behind, there, fewer, _, _⟩
    · rw [none_] at is
      cases is
    · rw [wrong] at is
      cases is
    · rw [there] at is
      dsimp only at is
      split at is
      · cases is
      · cases is
        exact fewer
  took := by
    intro data assembled message rest assembled' more is
    unfold step at is ⊢
    rcases frame_cases limit data with ⟨none_, _⟩ | ⟨error, wrong, _⟩ | ⟨found, behind, there, _, _, later⟩
    · rw [none_] at is
      cases is
    · rw [wrong] at is
      cases is
    · rw [there] at is
      rw [later more]
      dsimp only at is ⊢
      split at is
      · cases is
      · cases is
        rfl
  fail := by
    intro data assembled error more is
    unfold step at is ⊢
    rcases frame_cases limit data with ⟨none_, _⟩ | ⟨error', wrong, later⟩ | ⟨found, behind, there, _, _, later⟩
    · rw [none_] at is
      cases is
    · rw [wrong] at is
      cases is
      rw [later more]
    · rw [there] at is
      rw [later more]
      dsimp only at is ⊢
      split at is
      · cases is
        rfl
      · cases is

/-! ### Sizes -/

/-- The bytes of a message's contents. -/
def Message.size : Message → Nat
  | .text chars => (utf8 chars).length
  | .binary data => data.length
  | .ping data => data.length
  | .pong data => data.length
  | .close _ => 0

/-- A message being assembled is within the limit. -/
def Small (limit : Limit) (assembled : Assembled) : Prop := ∀ isText data, assembled = some (isText, data) → data.length ≤ limit.bytes

theorem small_none (limit : Limit) : Small limit none := by
  intro isText data is
  cases is

section Sizes

variable {limit : Limit} {found : Frame} {assembled assembled' : Assembled}

theorem control_small {opcode : UInt8} {payload : List UInt8} {message : Message}
    (is : control opcode payload = .ok message) : message.size ≤ payload.length := by
  unfold control at is
  split at is
  · split at is
    · cases is
      exact Nat.zero_le _
    · cases is
    · split at is
      · cases is
      · cases is
        exact Nat.zero_le _
  · split at is
    · cases is
      exact Nat.le_refl _
    · split at is
      · cases is
        exact Nat.le_refl _
      · cases is

theorem assemble_small {isText : Bool} {data : List UInt8} (fits : found.payload.length ≤ limit.bytes)
    (is : assemble limit found assembled = .ok (isText, data)) : data.length ≤ limit.bytes := by
  unfold assemble at is
  split at is
  · split at is
    · cases is
      exact fits
    · cases is
  · split at is
    · split at is
      · split at is
        · cases is
        · cases is
          rw [List.length_append]
          omega
      · cases is
    · cases is

/-- What is assembled stays within the limit. -/
theorem received_small {message : Option Message} (fits : found.payload.length ≤ limit.bytes) (small : Small limit assembled)
    (is : received limit found assembled = .ok (message, assembled')) :
    Small limit assembled' ∧ ∀ m ∈ message, m.size ≤ limit.bytes := by
  unfold received at is
  split at is
  · split at is
    · cases is
    · cases given : control found.opcode found.payload with
      | error error =>
          rw [given] at is
          cases is
      | ok m =>
          rw [given] at is
          cases is
          refine ⟨small, fun m' same => ?_⟩
          cases same
          exact Nat.le_trans (control_small given) fits
  · cases given : assemble limit found assembled with
    | error error =>
        rw [given] at is
        cases is
    | ok pair =>
        obtain ⟨isText, data⟩ := pair
        have within := assemble_small fits given
        rw [given] at is
        change (if _ then _ else _) = _ at is
        split at is
        · cases is
          refine ⟨fun _ _ same => ?_, nofun⟩
          cases same
          exact within
        · split at is
          · split at is
            · rename_i text decoded
              cases is
              refine ⟨nofun, fun m same => ?_⟩
              cases same
              rw [Message.size, utf8_of_fromUtf8 decoded]
              exact within
            · cases is
          · cases is
            refine ⟨nofun, fun m same => ?_⟩
            cases same
            exact within

/-- So does what a step takes off the buffer. -/
theorem step_small {buffer rest : List UInt8} {message : Option Message} (small : Small limit assembled)
    (is : step limit buffer assembled = .took message rest assembled') :
    Small limit assembled' ∧ ∀ m ∈ message, m.size ≤ limit.bytes := by
  unfold step at is
  rcases frame_cases limit buffer with ⟨none_, _⟩ | ⟨error, wrong, _⟩ | ⟨found, behind, there, _, fits, _⟩
  · rw [none_] at is
    cases is
  · rw [wrong] at is
    cases is
  · rw [there] at is
    dsimp only at is
    split at is
    · cases is
    · rename_i done
      cases is
      exact received_small fits small done

/-- The buffer stays short while a frame is waited for. -/
theorem step_waits {buffer : List UInt8} (is : step limit buffer assembled = .wait) : buffer.length < limit.bytes + 14 := by
  unfold step at is
  rcases frame_cases limit buffer with ⟨_, short⟩ | ⟨error, wrong, _⟩ | ⟨found, behind, there, _, _, _⟩
  · exact short
  · rw [wrong] at is
    cases is
  · rw [there] at is
    dsimp only at is
    split at is
    · cases is
    · cases is

/-- No message is longer than the limit. -/
theorem reads_small {ends error : Option Error} {data : List UInt8} {messages : List Message} (small : Small limit assembled)
    (reads : Reads (step limit) ends data assembled messages error) : ∀ m ∈ messages, m.size ≤ limit.bytes := by
  induction reads with
  | wait _ => nofun
  | fail _ => nofun
  | took is _ ih =>
      obtain ⟨small', own⟩ := step_small small is
      intro m held
      rcases List.mem_append.mp held with first | others
      · exact own m (Option.mem_toList.mp first)
      · exact ih small' m others

end Sizes

/-! ### What a client sends -/

/-- The field that tells a payload's length: of 7, 16 or 64 bits. -/
inductive LengthField where
  | seven
  | sixteen
  | sixtyFour
deriving DecidableEq

namespace LengthField

def Fits : LengthField → Nat → Prop
  | seven, n => n < 126
  | sixteen, n => n < 2 ^ 16
  | sixtyFour, n => n < 2 ^ 64

instance (field : LengthField) (n : Nat) : Decidable (field.Fits n) :=
  match field with
  | seven => inferInstanceAs (Decidable (n < 126))
  | sixteen => inferInstanceAs (Decidable (n < 2 ^ 16))
  | sixtyFour => inferInstanceAs (Decidable (n < 2 ^ 64))

/-- The second byte, with the bit of a mask. -/
def second : LengthField → Nat → UInt8
  | seven, n => UInt8.ofNat (128 + n)
  | sixteen, _ => 128 + 126
  | sixtyFour, _ => 128 + 127

def extended : LengthField → Nat → List UInt8
  | seven, _ => []
  | sixteen, n => toBe 2 n
  | sixtyFour, n => toBe 8 n

end LengthField

/-- A frame of a client. -/
def wire (fin : Bool) (opcode : UInt8) (mask : Fin 4 → UInt8) (field : LengthField) (payload : List UInt8) : List UInt8 :=
  ((if fin then 0x80 else 0) ||| opcode) :: field.second payload.length ::
    (field.extended payload.length ++ ([mask 0, mask 1, mask 2, mask 3] ++ masked mask payload))

section Wire

variable {limit : Limit}

theorem first_byte (fin : Bool) {opcode : UInt8} (small : opcode.toNat < 16) :
    ((if fin then 0x80 else 0) ||| opcode) &&& 0x70 = 0 ∧
      (((if fin then 0x80 else 0) ||| opcode) &&& 0x80 != 0) = fin ∧ ((if fin then 0x80 else 0) ||| opcode) &&& 0x0f = opcode := by
  have each : ∀ n < 16, ∀ fin : Bool, ((if fin then 0x80 else 0) ||| UInt8.ofNat n) &&& 0x70 = 0 ∧
      (((if fin then 0x80 else 0) ||| UInt8.ofNat n) &&& 0x80 != 0) = fin ∧
        ((if fin then 0x80 else 0) ||| UInt8.ofNat n) &&& 0x0f = UInt8.ofNat n := by
    decide
  have found := each opcode.toNat small fin
  rwa [UInt8.ofNat_toNat] at found

theorem second_byte (field : LengthField) {n : Nat} (fits : field.Fits n) : field.second n &&& 0x80 ≠ 0 := by
  cases field with
  | seven =>
      have each : ∀ n < 126, UInt8.ofNat (128 + n) &&& 0x80 ≠ 0 := by decide
      exact each n fits
  | sixteen => exact (by decide : (128 + 126 : UInt8) &&& 0x80 ≠ 0)
  | sixtyFour => exact (by decide : (128 + 127 : UInt8) &&& 0x80 ≠ 0)

/-- A length is read back from each of its forms. -/
theorem payloadLength_field (field : LengthField) {n : Nat} (fits : field.Fits n) (first : UInt8) (rest : List UInt8) :
    payloadLength (first :: field.second n :: (field.extended n ++ rest)) (field.second n &&& 0x7f) =
      some (n, 2 + (field.extended n).length) := by
  cases field with
  | seven =>
      have each : ∀ n < 126, UInt8.ofNat (128 + n) &&& 0x7f ≠ 126 ∧ UInt8.ofNat (128 + n) &&& 0x7f ≠ 127 ∧
          (UInt8.ofNat (128 + n) &&& 0x7f).toNat = n := by
        decide
      obtain ⟨notTwo, notEight, is⟩ := each n fits
      unfold payloadLength LengthField.second
      rw [if_neg notTwo, if_neg notEight, is]
      rfl
  | sixteen =>
      have two : LengthField.sixteen.second n &&& 0x7f = 126 := (by decide : (128 + 126 : UInt8) &&& 0x7f = 126)
      have bytes : fromBe (toBe 2 n) = n := fromBe_toBe fits
      rw [payloadLength, if_pos two, if_neg (by simp [LengthField.extended])]
      simp [LengthField.extended, bytes]
  | sixtyFour =>
      have eight : LengthField.sixtyFour.second n &&& 0x7f = 127 := (by decide : (128 + 127 : UInt8) &&& 0x7f = 127)
      have bytes : fromBe (toBe 8 n) = n := fromBe_toBe fits
      rw [payloadLength, eight, if_neg (by decide), if_pos rfl, if_neg (by simp [LengthField.extended])]
      simp [LengthField.extended, bytes]

/-- A frame is read back from its bytes. -/
theorem frameAt_wire (first : UInt8) (mask : Fin 4 → UInt8) {front payload : List UInt8} {offset : Nat}
    (size : offset = front.length) (within : payload.length ≤ limit.bytes) (rest : List UInt8) :
    frameAt limit (front ++ ([mask 0, mask 1, mask 2, mask 3] ++ (masked mask payload ++ rest))) first payload.length offset =
      .ok (some (⟨first &&& 0x80 != 0, first &&& 0x0f, payload⟩, rest)) := by
  subst size
  have key : (fun index : Fin 4 =>
      (front ++ ([mask 0, mask 1, mask 2, mask 3] ++ (masked mask payload ++ rest))).getD (front.length + index) 0) = mask := by
    funext index
    rw [List.getD_eq_getElem?_getD, List.getElem?_append_right (Nat.le_add_right _ _), Nat.add_sub_cancel_left]
    match index with
    | 0 => rfl
    | 1 => rfl
    | 2 => rfl
    | 3 => rfl
  have behind : (front ++ ([mask 0, mask 1, mask 2, mask 3] ++ (masked mask payload ++ rest))).drop (front.length + 4) =
      masked mask payload ++ rest := by
    rw [← List.drop_drop, List.drop_left]
    rfl
  have taken : (masked mask payload ++ rest).take payload.length = masked mask payload :=
    List.take_left' (masked_length mask payload)
  have left : (masked mask payload ++ rest).drop payload.length = rest := List.drop_left' (masked_length mask payload)
  unfold frameAt
  rw [if_neg (by omega), if_neg (by simp; omega), key, behind, taken, masked_masked, ← List.drop_drop, behind, left]

/-- The frames of a client are read. -/
theorem frame_wire (fin : Bool) {opcode : UInt8} (small : opcode.toNat < 16) (mask : Fin 4 → UInt8) {field : LengthField}
    {payload : List UInt8} (fits : field.Fits payload.length) (within : payload.length ≤ limit.bytes) (rest : List UInt8) :
    frame limit (wire fin opcode mask field payload ++ rest) = .ok (some (⟨fin, opcode, payload⟩, rest)) := by
  obtain ⟨plain, isFin, isOpcode⟩ := first_byte fin small
  have known := payloadLength_field field fits ((if fin then 0x80 else 0) ||| opcode)
    ([mask 0, mask 1, mask 2, mask 3] ++ (masked mask payload ++ rest))
  have header : 2 + (field.extended payload.length).length =
      (((if fin then 0x80 else 0) ||| opcode) :: field.second payload.length :: field.extended payload.length).length :=
    Nat.add_comm 2 _
  have found := frameAt_wire ((if fin then 0x80 else 0) ||| opcode) mask header within rest
  rw [isFin, isOpcode] at found
  have spelled : wire fin opcode mask field payload ++ rest =
      ((if fin then 0x80 else 0) ||| opcode) :: field.second payload.length ::
        (field.extended payload.length ++ ([mask 0, mask 1, mask 2, mask 3] ++ (masked mask payload ++ rest))) := by
    simp [wire]
  rw [spelled, frame_two, if_neg (fun wrong => wrong plain), if_neg (second_byte field fits), known]
  exact found

end Wire

/-- What a control frame tells. -/
inductive Signal where
  | ping (data : List UInt8)
  | pong (data : List UInt8)
  | close (given : Option (Fin (2 ^ 16) × List Char))

namespace Signal

def opcode : Signal → UInt8
  | .ping _ => WebSocket.ping
  | .pong _ => WebSocket.pong
  | .close _ => WebSocket.close

def payload : Signal → List UInt8
  | .ping data => data
  | .pong data => data
  | .close none => []
  | .close (some (code, reason)) => toBe 2 code ++ utf8 reason

def message : Signal → Message
  | .ping data => .ping data
  | .pong data => .pong data
  | .close none => .close 1005
  | .close (some (code, _)) => .close code

theorem control_payload (signal : Signal) : control signal.opcode signal.payload = .ok signal.message := by
  cases signal with
  | ping data => rfl
  | pong data => rfl
  | close given =>
      cases given with
      | none => rfl
      | some pair =>
          obtain ⟨code, reason⟩ := pair
          have number : fromBe (toBe 2 code) = code := fromBe_toBe code.isLt
          have valid : ¬ ((fromUtf8 (utf8 reason)).isNone = true) := by
            rw [fromUtf8_utf8]
            nofun
          have spelled : (UInt8.ofNat (code / 256 ^ 1 % 256)).toNat * 256 + (UInt8.ofNat (code / 256 ^ 0 % 256)).toNat = code := by
            simpa only [fromBe, toBe, List.foldl_cons, List.foldl_nil, Nat.zero_mul, Nat.zero_add] using number
          have found : control (Signal.close (some (code, reason))).opcode (Signal.close (some (code, reason))).payload =
              .ok (.close ((UInt8.ofNat (code / 256 ^ 1 % 256)).toNat * 256 + (UInt8.ofNat (code / 256 ^ 0 % 256)).toNat)) :=
            if_neg valid
          rw [found, spelled]
          rfl

theorem opcode_small (signal : Signal) : signal.opcode.toNat < 16 ∧ signal.opcode ≥ WebSocket.close := by
  cases signal with
  | ping _ => exact (by decide : WebSocket.ping.toNat < 16 ∧ WebSocket.ping ≥ WebSocket.close)
  | pong _ => exact (by decide : WebSocket.pong.toNat < 16 ∧ WebSocket.pong ≥ WebSocket.close)
  | close _ => exact (by decide : WebSocket.close.toNat < 16 ∧ WebSocket.close ≥ WebSocket.close)

end Signal

/-- A control frame, within what a control frame may hold and within the limit. -/
structure Control (limit : Limit) where
  signal : Signal
  mask : Fin 4 → UInt8
  field : LengthField
  fits : field.Fits signal.payload.length
  short : signal.payload.length ≤ 125
  within : signal.payload.length ≤ limit.bytes

def Control.bytes {limit : Limit} (sent : Control limit) : List UInt8 :=
  wire true sent.signal.opcode sent.mask sent.field sent.signal.payload

/-- A fragment of a message, behind control frames. -/
structure Part (limit : Limit) where
  before : List (Control limit)
  mask : Fin 4 → UInt8
  field : LengthField
  data : List UInt8
  fits : field.Fits data.length

/-- The frames of a message's fragments, the first with this opcode. -/
def fragments {limit : Limit} (opcode : UInt8) : List (Part limit) → List UInt8
  | [] => []
  | part :: parts => part.before.flatMap Control.bytes ++ (wire parts.isEmpty opcode part.mask part.field part.data ++
      fragments continuation parts)

/-- What a message tells. -/
inductive Content where
  | text (chars : List Char)
  | binary (data : List UInt8)

namespace Content

def opcode : Content → UInt8
  | .text _ => WebSocket.text
  | .binary _ => WebSocket.binary

def bytes : Content → List UInt8
  | .text chars => utf8 chars
  | .binary data => data

def message : Content → Message
  | .text chars => .text chars
  | .binary data => .binary data

end Content

/-- A message within the limit, cut into fragments. -/
structure Sending (limit : Limit) where
  content : Content
  parts : List (Part limit)
  some_ : parts ≠ []
  whole : parts.flatMap Part.data = content.bytes
  within : content.bytes.length ≤ limit.bytes

namespace Sending

variable {limit : Limit}

def bytes (sending : Sending limit) : List UInt8 := fragments sending.content.opcode sending.parts

/-- What completes until the message does: the control frames between its fragments, then the message. -/
def messages (sending : Sending limit) : List Message :=
  (sending.parts.flatMap Part.before).map (fun sent => sent.signal.message) ++ [sending.content.message]

end Sending

/-! ### What is read of it -/

section Conversation

variable {limit : Limit} {ends error : Option Error} {rest : List UInt8} {assembled : Assembled} {messages : List Message}

/-- A step reads a frame in front of the buffer. -/
theorem step_wire (fin : Bool) {opcode : UInt8} (small : opcode.toNat < 16) (mask : Fin 4 → UInt8) {field : LengthField}
    {payload : List UInt8} (fits : field.Fits payload.length) (within : payload.length ≤ limit.bytes)
    {message : Option Message} {assembled' : Assembled}
    (is : received limit ⟨fin, opcode, payload⟩ assembled = .ok (message, assembled')) (rest : List UInt8) :
    step limit (wire fin opcode mask field payload ++ rest) assembled = .took message rest assembled' := by
  rw [step, frame_wire fin small mask fits within rest]
  dsimp only
  rw [is]

/-- A control frame is read in between. -/
theorem reads_control (sent : Control limit) (reads : Reads (step limit) ends rest assembled messages error) :
    Reads (step limit) ends (sent.bytes ++ rest) assembled (sent.signal.message :: messages) error := by
  have is : received limit ⟨true, sent.signal.opcode, sent.signal.payload⟩ assembled =
      .ok (some sent.signal.message, assembled) := by
    have short := sent.short
    rw [received, if_pos sent.signal.opcode_small.2, if_neg (by simpa using short), sent.signal.control_payload]
    rfl
  exact Reads.took (step_wire true sent.signal.opcode_small.1 sent.mask sent.fits sent.within is rest) reads

theorem reads_controls (sent : List (Control limit)) (reads : Reads (step limit) ends rest assembled messages error) :
    Reads (step limit) ends (sent.flatMap Control.bytes ++ rest) assembled
      (sent.map (fun sent => sent.signal.message) ++ messages) error := by
  induction sent with
  | nil => exact reads
  | cons first sent ih =>
      rw [List.flatMap_cons, List.append_assoc]
      exact reads_control first ih

/-- The opcode that goes on with what is assembled. -/
inductive Ready : UInt8 → Assembled → Bool → List UInt8 → Prop where
  | text : Ready text none true []
  | binary : Ready binary none false []
  | going {isText data} : Ready continuation (some (isText, data)) isText data

variable {opcode : UInt8} {isText : Bool} {data : List UInt8}

theorem Ready.opcode_small (ready : Ready opcode assembled isText data) : opcode.toNat < 16 ∧ ¬ opcode ≥ close := by
  cases ready with
  | text => decide
  | binary => decide
  | going => decide

theorem Ready.assemble (ready : Ready opcode assembled isText data) {payload : List UInt8}
    (within : (data ++ payload).length ≤ limit.bytes) (fin : Bool) :
    assemble limit ⟨fin, opcode, payload⟩ assembled = .ok (isText, data ++ payload) := by
  cases ready with
  | text => rfl
  | binary => rfl
  | going =>
      rw [List.length_append] at within
      rw [WebSocket.assemble, if_neg (by dsimp only; decide), if_pos rfl]
      exact if_neg (Nat.not_lt.mpr within)

/-- A fragment that is not the last is kept. -/
theorem received_part (ready : Ready opcode assembled isText data) {payload : List UInt8}
    (within : (data ++ payload).length ≤ limit.bytes) :
    received limit ⟨false, opcode, payload⟩ assembled = .ok (none, some (isText, data ++ payload)) := by
  rw [received, if_neg ready.opcode_small.2, ready.assemble within]
  rfl

/-- What a message's bytes become, when the last of them is there. -/
def Completes (isText : Bool) (bytes : List UInt8) (message : Message) : Prop :=
  match isText with
  | true => ∃ chars, fromUtf8 bytes = some chars ∧ message = .text chars
  | false => message = .binary bytes

/-- The last fragment completes the message. -/
theorem received_last (ready : Ready opcode assembled isText data) {payload : List UInt8}
    (within : (data ++ payload).length ≤ limit.bytes) {message : Message} (completes : Completes isText (data ++ payload) message) :
    received limit ⟨true, opcode, payload⟩ assembled = .ok (some message, none) := by
  rw [received, if_neg ready.opcode_small.2, ready.assemble within]
  cases isText with
  | true =>
      obtain ⟨chars, decoded, rfl⟩ := completes
      simp [decoded, bind, Except.bind]
  | false =>
      cases completes
      rfl

/-- The fragments of a message are read as the message. -/
theorem reads_fragments {parts : List (Part limit)} (some_ : parts ≠ []) (ready : Ready opcode assembled isText data)
    (within : (data ++ parts.flatMap Part.data).length ≤ limit.bytes) {message : Message}
    (completes : Completes isText (data ++ parts.flatMap Part.data) message)
    (reads : Reads (step limit) ends rest none messages error) :
    Reads (step limit) ends (fragments opcode parts ++ rest) assembled
      ((parts.flatMap Part.before).map (fun sent => sent.signal.message) ++ message :: messages) error := by
  induction parts generalizing opcode assembled data with
  | nil => exact absurd rfl some_
  | cons part parts ih =>
      rw [List.flatMap_cons, ← List.append_assoc] at within completes
      have own : (data ++ part.data).length ≤ limit.bytes := by
        rw [List.length_append] at within
        omega
      have small : part.data.length ≤ limit.bytes := by
        rw [List.length_append] at own
        omega
      have spelled : fragments opcode (part :: parts) ++ rest = part.before.flatMap Control.bytes ++
          (wire parts.isEmpty opcode part.mask part.field part.data ++ (fragments continuation parts ++ rest)) := by
        rw [fragments, List.append_assoc, List.append_assoc]
      rw [spelled, List.flatMap_cons, List.map_append, List.append_assoc]
      apply reads_controls
      cases parts with
      | nil =>
          rw [List.flatMap_nil, List.append_nil] at completes
          have done := step_wire true ready.opcode_small.1 part.mask part.fits small (received_last ready own completes) rest
          exact Reads.took done reads
      | cons next parts =>
          have taken := step_wire false ready.opcode_small.1 part.mask part.fits small (received_part ready own)
            (fragments continuation (next :: parts) ++ rest)
          exact Reads.took taken (ih (List.cons_ne_nil _ _) .going within completes)

/-- A message is read with the control frames in it. -/
theorem reads_sending (sending : Sending limit) (reads : Reads (step limit) ends rest none messages error) :
    Reads (step limit) ends (sending.bytes ++ rest) none (sending.messages ++ messages) error := by
  have within := sending.within
  rw [← sending.whole] at within
  rw [Sending.messages, List.append_assoc]
  cases content : sending.content with
  | text chars =>
      have completes : Completes true (sending.parts.flatMap Part.data) (.text chars) := by
        rw [sending.whole, content]
        exact ⟨chars, fromUtf8_utf8 chars, rfl⟩
      rw [Sending.bytes, content]
      exact reads_fragments sending.some_ .text within completes reads
  | binary data =>
      have completes : Completes false (sending.parts.flatMap Part.data) (.binary data) := by
        rw [sending.whole, content]
        rfl
      rw [Sending.bytes, content]
      exact reads_fragments sending.some_ .binary within completes reads

/-- All that was sent is read, in its order. -/
theorem reads_conversation (sendings : List (Sending limit)) (last : List (Control limit)) :
    Reads (step limit) ends (sendings.flatMap Sending.bytes ++ last.flatMap Control.bytes) none
      (sendings.flatMap Sending.messages ++ last.map fun sent => sent.signal.message) ends := by
  induction sendings with
  | nil =>
      have nothing : Reads (step limit) ends [] none [] ends := .wait rfl
      have reads := reads_controls last nothing
      rwa [List.append_nil, List.append_nil] at reads
  | cons sending sendings ih =>
      rw [List.flatMap_cons, List.flatMap_cons, List.append_assoc, List.append_assoc]
      exact reads_sending sending ih

end Conversation

/-- The reads of a connection are read as its bytes. -/
theorem readAll_reads (limit : Limit) (ends : Option Error) {reads : List (List UInt8)} (some_ : ∀ read ∈ reads, read ≠ []) :
    ∃ messages error, readAll limit ends reads = some (messages, error) ∧
      Reads (step limit) ends reads.flatten none messages error :=
  all_reads ends (local_step limit) some_ none (Nat.lt_succ_self reads.flatten.length)

theorem readAll_of_reads {limit : Limit} {ends error : Option Error} {reads : List (List UInt8)} {messages : List Message}
    (some_ : ∀ read ∈ reads, read ≠ []) (is : Reads (step limit) ends reads.flatten none messages error) :
    readAll limit ends reads = some (messages, error) := by
  obtain ⟨messages', error', found, reads'⟩ := readAll_reads limit ends some_
  obtain ⟨rfl, rfl⟩ := is.unique reads'
  exact found

/-- The reader gives the messages and control frames of a client as they complete, however they are framed and whatever the
    reads take; what it gives of any bytes depends on the bytes alone; and nothing that it gives or assembles is larger
    than the limit, nor does it read on while it holds a whole frame within the limit. -/
theorem reader_reads (limit : Limit) :
    (∀ (sendings : List (Sending limit)) (last : List (Control limit)) (reads : List (List UInt8)) (ends : Option Error),
      (∀ read ∈ reads, read ≠ []) → reads.flatten = sendings.flatMap Sending.bytes ++ last.flatMap Control.bytes →
        readAll limit ends reads = some (sendings.flatMap Sending.messages ++ last.map (fun sent => sent.signal.message), ends)) ∧
    (∀ (reads reads' : List (List UInt8)) (ends : Option Error), (∀ read ∈ reads, read ≠ []) → (∀ read ∈ reads', read ≠ []) →
      reads.flatten = reads'.flatten →
        ∃ found, readAll limit ends reads = some found ∧ readAll limit ends reads' = some found) ∧
    (∀ (reads : List (List UInt8)) (ends error : Option Error) (messages : List Message), (∀ read ∈ reads, read ≠ []) →
      readAll limit ends reads = some (messages, error) → ∀ message ∈ messages, message.size ≤ limit.bytes) ∧
    ∀ (given reads : List (List UInt8)) (buffer : List UInt8) (assembled : Assembled),
      Reached (step limit) none given reads buffer assembled →
        Small limit assembled ∧ (step limit buffer assembled = .wait → buffer.length < limit.bytes + 14) ∧
        ∀ ends message reads' buffer' assembled',
          next limit ends reads buffer assembled = some (.message message reads' buffer' assembled') →
            Reached (step limit) none given reads' buffer' assembled' := by
  refine ⟨?_, ?_, ?_, ?_⟩
  · intro sendings last reads ends some_ spelled
    apply readAll_of_reads some_
    rw [spelled]
    exact reads_conversation sendings last
  · intro reads reads' ends some_ some_' same
    obtain ⟨messages, error, found, is⟩ := readAll_reads limit ends some_
    rw [same] at is
    exact ⟨(messages, error), found, readAll_of_reads some_' is⟩
  · intro reads ends error messages some_ found
    obtain ⟨messages', error', found', is⟩ := readAll_reads limit ends some_
    cases found.symm.trans found'
    exact reads_small (small_none limit) is
  · intro given reads buffer assembled reached
    have small : Small limit assembled := reached.invariant (small_none limit) fun small is => (step_small small is).1
    exact ⟨small, step_waits, fun _ _ _ _ _ done => next_reached done reached⟩

namespace Sample

def limit : Limit := ⟨3, by decide⟩

/-- The text `é` with its two bytes apart, and a ping between them. -/
def sending : Sending limit where
  content := .text ['é']
  parts := [⟨[], fun _ => 1, .seven, [0xc3], by decide⟩,
    ⟨[⟨.ping [7], fun _ => 0, .sixteen, by decide, by decide, by decide⟩], fun _ => 2, .sixtyFour, [0xa9], by decide⟩]
  some_ := by decide
  whole := by decide +kernel
  within := by decide +kernel

def closing : Control limit := ⟨.close (some (1000, ['k'])), fun _ => 9, .seven, by decide, by decide +kernel, by decide +kernel⟩

end Sample

theorem reader_reads_sample :
    readAll Sample.limit none (Sample.sending.bytes.map (fun byte => [byte]) ++ [Sample.closing.bytes]) =
      some ([.ping [7], .text ['é'], .close 1000], none) := by
  refine (reader_reads Sample.limit).1 [Sample.sending] [Sample.closing] _ none ?_ ?_
  · decide +kernel
  · decide +kernel

/-- A ping of one byte is refused by a reader that takes no bytes. -/
theorem ping_over_limit : wire true ping (fun _ => 0) .seven [7] = [0x89, 0x81, 0, 0, 0, 0, 7] ∧
    readAll ⟨0, by decide⟩ none [[0x89, 0x81, 0, 0, 0, 0, 7]] = some ([], some (.tooLarge "frame too large")) := by
  decide +kernel

end OpenTunnel.WebSocket
