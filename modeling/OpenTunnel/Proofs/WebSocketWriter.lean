/-
Module: OpenTunnel.Proofs.WebSocketWriter
Layer: Proofs
Purpose: The WebSocket writer. Whatever a socket takes of the slices at a time, all of them are written once and in order;
  they are one frame, which the decoder of RFC 6455 reads as what was given, with its length in the shortest form. The
  reason of a close frame is cut between two characters.
Imports: OpenTunnel.Model.WebSocket
Trusted boundary: none (fully proved)
Main exports: decode, advanceSlices_spec, writeSlices_all, decode_header, writer_writes
Open obligations: none
-/
import OpenTunnel.Model.WebSocket

namespace OpenTunnel.WebSocket

open Formats

/-! ### One frame -/

/-- An unmasked frame of RFC 6455 and nothing behind it, with its length in the shortest form. -/
def decode (bytes : List UInt8) : Option Frame :=
  match bytes with
  | first :: second :: rest =>
      if first &&& 0x70 ≠ 0 ∨ second &&& 0x80 ≠ 0 then none
      else
        let frame := fun payload => (⟨first &&& 0x80 != 0, first &&& 0x0f, payload⟩ : Frame)
        if second = 126 then
          let length := fromBe (rest.take 2)
          if 126 ≤ length ∧ rest.length = 2 + length then some (frame (rest.drop 2)) else none
        else if second = 127 then
          let length := fromBe (rest.take 8)
          if 2 ^ 16 ≤ length ∧ length < 2 ^ 63 ∧ rest.length = 8 + length then some (frame (rest.drop 8)) else none
        else if rest.length = second.toNat then some (frame rest)
        else none
  | _ => none

theorem final_byte {opcode : UInt8} (small : opcode.toNat < 16) :
    (0x80 ||| opcode) &&& 0x70 = 0 ∧ ((0x80 ||| opcode) &&& 0x80 != 0) = true ∧ (0x80 ||| opcode) &&& 0x0f = opcode := by
  have each : ∀ n < 16, (0x80 ||| UInt8.ofNat n) &&& 0x70 = 0 ∧ ((0x80 ||| UInt8.ofNat n) &&& 0x80 != 0) = true ∧
      (0x80 ||| UInt8.ofNat n) &&& 0x0f = UInt8.ofNat n := by
    decide
  have found := each opcode.toNat small
  rwa [UInt8.ofNat_toNat] at found

/-- A frame is read back from its header and payload. -/
theorem decode_header {opcode : UInt8} (small : opcode.toNat < 16) {payload : List UInt8} (fits : payload.length < 2 ^ 63) :
    decode (header opcode payload.length ++ payload) = some ⟨true, opcode, payload⟩ := by
  obtain ⟨plain, isFinal, isOpcode⟩ := final_byte small
  unfold header
  split
  · rename_i short
    have each : ∀ n < 126, UInt8.ofNat n &&& 0x80 = 0 ∧ UInt8.ofNat n ≠ 126 ∧ UInt8.ofNat n ≠ 127 ∧ (UInt8.ofNat n).toNat = n := by
      decide
    obtain ⟨unmasked, notTwo, notEight, is⟩ := each payload.length short
    simp only [decode, List.cons_append, List.nil_append]
    rw [if_neg (by simp [plain, unmasked]), if_neg notTwo, if_neg notEight, if_pos is.symm, isFinal, isOpcode]
  · split
    · rename_i long medium
      have taken : (toBe 2 payload.length ++ payload).take 2 = toBe 2 payload.length := List.take_left' (toBe_length _ _)
      have left : (toBe 2 payload.length ++ payload).drop 2 = payload := List.drop_left' (toBe_length _ _)
      have number : fromBe (toBe 2 payload.length) = payload.length := fromBe_toBe medium
      simp only [decode, List.cons_append]
      rw [if_neg (by simp [plain]; decide), if_pos trivial, taken, number, if_pos (by simp; omega), left, isFinal, isOpcode]
    · rename_i long longer
      have taken : (toBe 8 payload.length ++ payload).take 8 = toBe 8 payload.length := List.take_left' (toBe_length _ _)
      have left : (toBe 8 payload.length ++ payload).drop 8 = payload := List.drop_left' (toBe_length _ _)
      have number : fromBe (toBe 8 payload.length) = payload.length := fromBe_toBe (by omega)
      simp only [decode, List.cons_append]
      rw [if_neg (by simp [plain]; decide), if_neg (by decide), if_pos trivial, taken, number, if_pos (by simp; omega), left,
        isFinal, isOpcode]

/-! ### Slices -/

/-- Slices without an empty one at their front. -/
def Trimmed (slices : List (List UInt8)) : Prop := ∀ slice ∈ slices.head?, slice ≠ []

theorem Trimmed.some {slices : List (List UInt8)} (trimmed : Trimmed slices) (some_ : slices ≠ []) : 0 < slices.flatten.length := by
  cases slices with
  | nil => exact absurd rfl some_
  | cons slice slices =>
      have bytes := List.length_pos_iff.mpr (trimmed slice rfl)
      rw [List.flatten_cons, List.length_append]
      omega

/-- What was written is taken off the front. -/
theorem advanceSlices_spec {slices : List (List UInt8)} {written : Nat} (within : written ≤ slices.flatten.length) :
    ∃ rest, advanceSlices slices written = some rest ∧ rest.flatten = slices.flatten.drop written ∧ Trimmed rest := by
  induction slices generalizing written with
  | nil =>
      cases Nat.le_zero.mp within
      exact ⟨[], rfl, rfl, nofun⟩
  | cons slice slices ih =>
      rw [List.flatten_cons, List.length_append] at within
      rw [advanceSlices]
      split
      · rename_i whole
        obtain ⟨rest, advanced, left, trimmed⟩ := ih (by omega : written - slice.length ≤ slices.flatten.length)
        refine ⟨rest, advanced, ?_, trimmed⟩
        rw [left, List.flatten_cons, List.drop_append, List.drop_of_length_le whole, List.nil_append]
      · rename_i cut
        refine ⟨_, rfl, ?_, ?_⟩
        · rw [List.flatten_cons, List.flatten_cons, List.drop_append_of_le_length (by omega)]
        · intro first is
          cases is
          intro none_
          rw [List.drop_eq_nil_iff] at none_
          omega

/-- A socket that takes at least a byte at each call. -/
def Socket.Takes (socket : Socket) : Prop :=
  ∀ call offered, 0 < offered → ∃ written, 0 < written ∧ socket.write call offered = .ok written

/-- Slices are written to their end, however little is taken at once. -/
theorem writeSlices_all {socket : Socket} (takes : socket.Takes) {fuel : Nat} (call : Nat) {slices : List (List UInt8)}
    (trimmed : Trimmed slices) (enough : slices.flatten.length < fuel) (wire : List UInt8) :
    writeSlices socket fuel call slices wire = some (socket.flush, wire ++ slices.flatten) := by
  induction fuel generalizing call slices wire with
  | zero => exact absurd enough (Nat.not_lt_zero _)
  | succ fuel ih =>
      rw [writeSlices]
      by_cases none_ : slices = []
      · rw [none_, if_pos List.isEmpty_nil, List.flatten_nil, List.append_nil]
      · obtain ⟨written, some_, took⟩ := takes call slices.flatten.length (trimmed.some none_)
        have within := socket.within took
        obtain ⟨rest, advanced, left, trimmed'⟩ := advanceSlices_spec within
        have fewer : rest.flatten.length < fuel := by
          rw [left, List.length_drop]
          omega
        rw [if_neg (by simpa using none_), took]
        simp only [if_neg (Nat.pos_iff_ne_zero.mp some_), advanced, Option.bind_eq_bind, Option.bind_some]
        rw [ih (call + 1) trimmed' fewer, left, List.append_assoc, List.take_append_drop]

/-- A frame is written whole, and flushed. -/
theorem writeFrame_wire {socket : Socket} (takes : socket.Takes) (opcode : UInt8) (front payload : List UInt8) :
    writeFrame socket opcode front payload =
      some (socket.flush, header opcode (front.length + payload.length) ++ (front ++ payload)) := by
  obtain ⟨slices, advanced, left, trimmed⟩ :=
    advanceSlices_spec (Nat.zero_le [header opcode (front.length + payload.length), front, payload].flatten.length)
  rw [writeFrame, advanced]
  simp only [Option.bind_eq_bind, Option.bind_some]
  rw [writeSlices_all takes 0 trimmed (Nat.lt_succ_self _), left]
  simp

/-! ### Close frames -/

/-- A boundary of characters is found at or before the place. -/
theorem charBoundary_spec (bytes : List UInt8) (stop : Nat) :
    isCharBoundary bytes (charBoundary bytes stop) = true ∧ charBoundary bytes stop ≤ stop := by
  induction stop with
  | zero => exact ⟨rfl, Nat.le_refl _⟩
  | succ stop ih =>
      rw [charBoundary]
      split
      · rename_i boundary
        exact ⟨boundary, Nat.le_refl _⟩
      · exact ⟨ih.1, Nat.le_succ_of_le ih.2⟩

/-- A reason is cut between characters. -/
theorem reason_cut (reason : List Char) : ∃ kept, kept <+: reason ∧ (utf8 kept).length ≤ 123 ∧
    (utf8 reason).take (charBoundary (utf8 reason) (min (utf8 reason).length 123)) = utf8 kept := by
  obtain ⟨boundary, least⟩ := charBoundary_spec (utf8 reason) (min (utf8 reason).length 123)
  obtain ⟨count, is⟩ := utf8_take_boundary reason boundary
  refine ⟨reason.take count, List.take_prefix _ _, ?_, is⟩
  rw [← is, List.length_take]
  omega

/-- A frame is put on the wire once and whole, and decodes to what was given; a close frame keeps a part of its reason that
    fits. -/
theorem writer_writes {socket : Socket} (takes : socket.Takes) :
    (∀ (opcode : UInt8) (front payload : List UInt8), opcode.toNat < 16 → front.length + payload.length < 2 ^ 63 →
      ∃ wire, writeFrame socket opcode front payload = some (socket.flush, wire) ∧
        decode wire = some ⟨true, opcode, front ++ payload⟩) ∧
    ∀ (code : Nat) (reason : List Char), ∃ wire kept, writeClose socket (some (code, reason)) = some (socket.flush, wire) ∧
      decode wire = some ⟨true, close, toBe 2 code ++ utf8 kept⟩ ∧ (toBe 2 code ++ utf8 kept).length ≤ 125 ∧ kept <+: reason := by
  have framed (opcode : UInt8) (front payload : List UInt8) (small : opcode.toNat < 16) (fits : front.length + payload.length < 2 ^ 63) :
      decode (header opcode (front.length + payload.length) ++ (front ++ payload)) = some ⟨true, opcode, front ++ payload⟩ := by
    rw [← List.length_append] at fits ⊢
    exact decode_header small fits
  constructor
  · intro opcode front payload small fits
    exact ⟨_, writeFrame_wire takes opcode front payload, framed opcode front payload small fits⟩
  · intro code reason
    obtain ⟨kept, front, short, is⟩ := reason_cut reason
    have written := writeFrame_wire takes close (toBe 2 code) (utf8 kept)
    have size : (toBe 2 code ++ utf8 kept).length ≤ 125 := by
      rw [List.length_append, toBe_length]
      omega
    refine ⟨_, kept, ?_, framed close (toBe 2 code) (utf8 kept) (by decide) ?_, size, front⟩
    · rw [← is] at written ⊢
      exact written
    · rw [← List.length_append]
      omega

/-- A socket that takes three bytes at a time, or what there is. -/
def threes : Socket where
  write _ offered := .ok (min 3 offered)
  flush := .ok ()
  within := by
    intro call offered written is
    cases is
    exact Nat.min_le_right 3 offered

theorem threes_takes : threes.Takes := by
  intro call offered some_
  exact ⟨min 3 offered, by omega, rfl⟩

theorem writer_writes_threes :
    writeFrame threes binary [1] [2, 3, 4, 5] = some (.ok (), [0x82, 5, 1, 2, 3, 4, 5]) ∧
      decode [0x82, 5, 1, 2, 3, 4, 5] = some ⟨true, binary, [1, 2, 3, 4, 5]⟩ := by
  obtain ⟨wire, written, decoded⟩ := (writer_writes threes_takes).1 binary [1] [2, 3, 4, 5] (by decide) (by decide)
  have is : writeFrame threes binary [1] [2, 3, 4, 5] = some (.ok (), [0x82, 5, 1, 2, 3, 4, 5]) := rfl
  cases is.symm.trans written
  exact ⟨is, decoded⟩

end OpenTunnel.WebSocket
