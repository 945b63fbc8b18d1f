/-
Module: OpenTunnel.Formats.Utf8
Layer: Formats
Purpose: Texts as UTF-8. The decoder takes one character at a time; where the bytes spell none, it passes over the longest
  part of them that could begin one, as Unicode recommends. A strict reader refuses such bytes, a lossy one puts the
  replacement character in their place; both read back what the encoder writes.
Imports: none (Mathlib-free)
Trusted boundary: none (fully proved)
Main exports: utf8, decodeChar, decoded, fromUtf8, fromUtf8Lossy, fromUtf8_utf8, fromUtf8Lossy_utf8, utf8_of_fromUtf8,
  isCharBoundary, utf8_take_boundary
Open obligations: none
-/

namespace OpenTunnel.Formats

/-- The bytes of a text. -/
def utf8 (text : List Char) : List UInt8 := text.flatMap String.utf8EncodeChar

/-- The bytes that follow the first byte of a character: how many, and its own bits. -/
def leadByte (n : Nat) : Option (Nat × Nat) :=
  if n < 0x80 then some (0, n)
  else if 0xC2 ≤ n ∧ n ≤ 0xDF then some (1, n % 0x20)
  else if 0xE0 ≤ n ∧ n ≤ 0xEF then some (2, n % 0x10)
  else if 0xF0 ≤ n ∧ n ≤ 0xF4 then some (3, n % 8)
  else none

/-- The range of the second byte: no overlong spelling, no surrogate, nothing above the last character. -/
def secondByte (n : Nat) : Nat × Nat :=
  if n = 0xE0 then (0xA0, 0xBF)
  else if n = 0xED then (0x80, 0x9F)
  else if n = 0xF0 then (0x90, 0xBF)
  else if n = 0xF4 then (0x80, 0x8F)
  else (0x80, 0xBF)

/-- Takes `more` bytes, the first of them from a range of its own. -/
def tailBytes : Nat × Nat → Nat → Nat → List UInt8 → Option Nat × List UInt8
  | _, 0, bits, rest => (some bits, rest)
  | _, _ + 1, _, [] => (none, [])
  | range, more + 1, bits, b :: rest =>
      if range.1 ≤ b.toNat ∧ b.toNat ≤ range.2 then tailBytes (0x80, 0xBF) more (bits * 64 + b.toNat % 64) rest
      else (none, b :: rest)

/-- The character at the front, and what is behind it. -/
def decodeChar (a : UInt8) (rest : List UInt8) : Option Char × List UInt8 :=
  match leadByte a.toNat with
  | none => (none, rest)
  | some (more, bits) =>
      let (found, rest) := tailBytes (secondByte a.toNat) more bits rest
      (found.map Char.ofNat, rest)

/-- The characters of the bytes, with a gap for each part that spells none. -/
def decodeAll : Nat → List UInt8 → List (Option Char)
  | fuel + 1, a :: rest => (decodeChar a rest).1 :: decodeAll fuel (decodeChar a rest).2
  | _, _ => []

def decoded (bytes : List UInt8) : List (Option Char) := decodeAll bytes.length bytes

/-- Nothing where the bytes are not UTF-8. -/
def fromUtf8 (bytes : List UInt8) : Option (List Char) := (decoded bytes).mapM id

def replacement : Char := Char.ofNat 0xFFFD

def fromUtf8Lossy (bytes : List UInt8) : List Char := (decoded bytes).map (·.getD replacement)

theorem utf8_cons (c : Char) (text : List Char) : utf8 (c :: text) = String.utf8EncodeChar c ++ utf8 text :=
  List.flatMap_cons

theorem utf8_append (front back : List Char) : utf8 (front ++ back) = utf8 front ++ utf8 back := List.flatMap_append

/-- Some bytes make some text. -/
theorem fromUtf8Lossy_ne_nil {bytes : List UInt8} (some_ : bytes ≠ []) : fromUtf8Lossy bytes ≠ [] := by
  cases bytes with
  | nil => exact absurd rfl some_
  | cons a rest => simp [fromUtf8Lossy, decoded, decodeAll]

/-! ### What the encoder writes -/

/-- A character is not a surrogate, and not above the last one. -/
theorem char_range (c : Char) : c.toNat < 0xD800 ∨ 0xDFFF < c.toNat ∧ c.toNat < 0x110000 := by
  have valid := c.valid
  simpa [UInt32.isValidChar, Nat.isValidChar] using valid

theorem byte_toNat {n : Nat} (small : n < 256) : (UInt8.ofNat n).toNat = n := by
  rw [UInt8.toNat_ofNat']
  exact Nat.mod_eq_of_lt small

/-- A continuation byte adds its six bits. -/
theorem tailBytes_step {range : Nat × Nat} {k : Nat} (six : k < 64) (low : range.1 ≤ k + 0x80) (high : k + 0x80 ≤ range.2)
    (more bits : Nat) (rest : List UInt8) :
    tailBytes range (more + 1) bits (UInt8.ofNat (k + 0x80) :: rest) =
      tailBytes (0x80, 0xBF) more (bits * 64 + k) rest := by
  have is : (UInt8.ofNat (k + 0x80)).toNat = k + 0x80 := byte_toNat (by omega)
  have own : (k + 0x80) % 64 = k := by omega
  rw [tailBytes, is, if_pos ⟨low, high⟩, own]

/-- A character of two bytes is read back. -/
theorem decodeChar_two {n : Nat} (low : 0x80 ≤ n) (high : n ≤ 0x7ff) (rest : List UInt8) :
    decodeChar (UInt8.ofNat (n / 64 % 0x20 + 0xc0)) (UInt8.ofNat (n % 0x40 + 0x80) :: rest) =
      (some (Char.ofNat n), rest) := by
  have first : (UInt8.ofNat (n / 64 % 0x20 + 0xc0)).toNat = n / 64 + 0xc0 := by
    rw [byte_toNat (by omega)]
    omega
  have lead : leadByte (n / 64 + 0xc0) = some (1, n / 64) := by
    rw [leadByte, if_neg (by omega), if_pos (by omega)]
    congr 2
    omega
  have second : secondByte (n / 64 + 0xc0) = (0x80, 0xBF) := by
    rw [secondByte, if_neg (by omega), if_neg (by omega), if_neg (by omega), if_neg (by omega)]
  have whole : n / 64 * 64 + n % 0x40 = n := by omega
  simp only [decodeChar, first, lead, second]
  rw [tailBytes_step (by omega) (by simp) (by simp only; omega), whole]
  rfl

/-- A character of three bytes is read back. -/
theorem decodeChar_three {n : Nat} (low : 0x800 ≤ n) (high : n ≤ 0xffff) (valid : n < 0xD800 ∨ 0xDFFF < n)
    (rest : List UInt8) :
    decodeChar (UInt8.ofNat (n / 4096 % 0x10 + 0xe0))
        (UInt8.ofNat (n / 64 % 0x40 + 0x80) :: UInt8.ofNat (n % 0x40 + 0x80) :: rest) = (some (Char.ofNat n), rest) := by
  have first : (UInt8.ofNat (n / 4096 % 0x10 + 0xe0)).toNat = n / 4096 + 0xe0 := by
    rw [byte_toNat (by omega)]
    omega
  have lead : leadByte (n / 4096 + 0xe0) = some (2, n / 4096) := by
    rw [leadByte, if_neg (by omega), if_neg (by omega), if_pos (by omega)]
    congr 2
    omega
  have second : (secondByte (n / 4096 + 0xe0)).1 ≤ n / 64 % 0x40 + 0x80 ∧
      n / 64 % 0x40 + 0x80 ≤ (secondByte (n / 4096 + 0xe0)).2 := by
    unfold secondByte
    split
    · simp only; omega
    · split
      · simp only; omega
      · rw [if_neg (by omega), if_neg (by omega)]
        simp only; omega
  have whole : (n / 4096 * 64 + n / 64 % 0x40) * 64 + n % 0x40 = n := by omega
  simp only [decodeChar, first, lead]
  rw [tailBytes_step (by omega) second.1 second.2, tailBytes_step (by omega) (by simp) (by simp only; omega), whole]
  rfl

/-- A character of four bytes is read back. -/
theorem decodeChar_four {n : Nat} (low : 0x10000 ≤ n) (high : n < 0x110000) (rest : List UInt8) :
    decodeChar (UInt8.ofNat (n / 262144 % 0x08 + 0xf0))
        (UInt8.ofNat (n / 4096 % 0x40 + 0x80) :: UInt8.ofNat (n / 64 % 0x40 + 0x80) ::
          UInt8.ofNat (n % 0x40 + 0x80) :: rest) = (some (Char.ofNat n), rest) := by
  have first : (UInt8.ofNat (n / 262144 % 0x08 + 0xf0)).toNat = n / 262144 + 0xf0 := by
    rw [byte_toNat (by omega)]
    omega
  have lead : leadByte (n / 262144 + 0xf0) = some (3, n / 262144) := by
    rw [leadByte, if_neg (by omega), if_neg (by omega), if_neg (by omega), if_pos (by omega)]
    congr 2
    omega
  have second : (secondByte (n / 262144 + 0xf0)).1 ≤ n / 4096 % 0x40 + 0x80 ∧
      n / 4096 % 0x40 + 0x80 ≤ (secondByte (n / 262144 + 0xf0)).2 := by
    unfold secondByte
    rw [if_neg (by omega), if_neg (by omega)]
    split
    · simp only; omega
    · split
      · simp only; omega
      · simp only; omega
  have whole : ((n / 262144 * 64 + n / 4096 % 0x40) * 64 + n / 64 % 0x40) * 64 + n % 0x40 = n := by omega
  simp only [decodeChar, first, lead]
  rw [tailBytes_step (by omega) second.1 second.2, tailBytes_step (by omega) (by simp) (by simp only; omega),
    tailBytes_step (by omega) (by simp) (by simp only; omega), whole]
  rfl

/-- Every character is read back from its bytes. -/
theorem decodeChar_encode (c : Char) (rest : List UInt8) :
    ∃ a tail, String.utf8EncodeChar c ++ rest = a :: tail ∧ decodeChar a tail = (some c, rest) := by
  have range := char_range c
  have same : Char.ofNat c.val.toNat = c := Char.ofNat_toNat c
  have is : c.toNat = c.val.toNat := rfl
  unfold String.utf8EncodeChar
  dsimp only
  split
  · refine ⟨_, _, rfl, ?_⟩
    have first : (UInt8.ofNat c.val.toNat).toNat = c.val.toNat := byte_toNat (by omega)
    have lead : leadByte c.val.toNat = some (0, c.val.toNat) := by
      rw [leadByte, if_pos (by omega)]
    simp only [decodeChar, first, lead]
    rw [tailBytes, Option.map_some, same]
    rfl
  · split
    · exact ⟨_, _, rfl, (decodeChar_two (by omega) (by omega) rest).trans (by rw [same])⟩
    · split
      · exact ⟨_, _, rfl, (decodeChar_three (by omega) (by omega) (by omega) rest).trans (by rw [same])⟩
      · exact ⟨_, _, rfl, (decodeChar_four (by omega) (by omega) rest).trans (by rw [same])⟩

/-- So is every text, given enough rounds. -/
theorem decodeAll_utf8 (text : List Char) : ∀ fuel, text.length ≤ fuel → decodeAll fuel (utf8 text) = text.map some := by
  induction text with
  | nil =>
      intro fuel _
      cases fuel <;> rfl
  | cons c text ih =>
      intro fuel enough
      cases fuel with
      | zero => simp at enough
      | succ fuel =>
          obtain ⟨a, tail, is, decodes⟩ := decodeChar_encode c (utf8 text)
          rw [utf8_cons, is, decodeAll, decodes, ih fuel (by simpa using enough)]
          rfl

theorem length_le_utf8 (text : List Char) : text.length ≤ (utf8 text).length := by
  induction text with
  | nil => exact Nat.le_refl _
  | cons c text ih =>
      have size : 0 < c.utf8Size := Char.utf8Size_pos c
      rw [utf8_cons, List.length_append, String.length_utf8EncodeChar, List.length_cons]
      omega

theorem decoded_utf8 (text : List Char) : decoded (utf8 text) = text.map some :=
  decodeAll_utf8 text _ (length_le_utf8 text)

/-- A text is read back from its bytes. -/
theorem fromUtf8_utf8 (text : List Char) : fromUtf8 (utf8 text) = some text := by
  rw [fromUtf8, decoded_utf8]
  induction text with
  | nil => rfl
  | cons c text ih =>
      rw [List.map_cons, List.mapM_cons, ih]
      rfl

/-- And by the reading that replaces what is not UTF-8. -/
theorem fromUtf8Lossy_utf8 (text : List Char) : fromUtf8Lossy (utf8 text) = text := by
  rw [fromUtf8Lossy, decoded_utf8, List.map_map]
  exact List.map_id text

/-! ### What the decoder reads -/

theorem byte_ofNat (a : UInt8) {n : Nat} (is : n = a.toNat) : UInt8.ofNat n = a := by
  rw [is, UInt8.ofNat_toNat]

theorem char_toNat {n : Nat} (valid : n < 0xD800 ∨ 0xDFFF < n ∧ n < 0x110000) : (Char.ofNat n).val.toNat = n := by
  have valid' : n.isValidChar := valid
  rw [Char.ofNat, dif_pos valid']
  rfl

/-- A continuation byte that was taken is one. -/
theorem tailBytes_taken {range : Nat × Nat} {more bits n : Nat} {data rest : List UInt8}
    (taken : tailBytes range (more + 1) bits data = (some n, rest)) :
    ∃ b tail, data = b :: tail ∧ range.1 ≤ b.toNat ∧ b.toNat ≤ range.2 ∧
      tailBytes (0x80, 0xBF) more (bits * 64 + b.toNat % 64) tail = (some n, rest) := by
  cases data with
  | nil => cases taken
  | cons b tail =>
      rw [tailBytes] at taken
      split at taken
      · rename_i inside
        exact ⟨b, tail, rfl, inside.1, inside.2, taken⟩
      · cases taken

theorem secondByte_least (n : Nat) : 0x80 ≤ (secondByte n).1 ∧ (secondByte n).2 ≤ 0xBF ∧
    (n = 0xE0 → 0xA0 ≤ (secondByte n).1) ∧ (n = 0xED → (secondByte n).2 ≤ 0x9F) ∧ (n = 0xF0 → 0x90 ≤ (secondByte n).1) ∧
      (n = 0xF4 → (secondByte n).2 ≤ 0x8F) := by
  unfold secondByte
  split
  · simp_all
  · split
    · simp_all
    · split
      · simp_all
      · split
        · simp_all
        · simp_all

/-- Two bytes that make a character are its bytes. -/
theorem encode_two {a b : UInt8} (low : 0xC2 ≤ a.toNat) (high : a.toNat ≤ 0xDF) (second : 0x80 ≤ b.toNat)
    (second' : b.toNat ≤ 0xBF) : String.utf8EncodeChar (Char.ofNat (a.toNat % 0x20 * 64 + b.toNat % 64)) = [a, b] := by
  unfold String.utf8EncodeChar
  rw [char_toNat (by omega)]
  dsimp only
  rw [if_neg (by omega), if_pos (by omega), byte_ofNat a (by omega), byte_ofNat b (by omega)]

/-- So are three. -/
theorem encode_three {a b c : UInt8} (low : 0xE0 ≤ a.toNat) (high : a.toNat ≤ 0xEF) (second : 0x80 ≤ b.toNat)
    (second' : b.toNat ≤ 0xBF) (least : a.toNat = 0xE0 → 0xA0 ≤ b.toNat) (noSurrogate : a.toNat = 0xED → b.toNat ≤ 0x9F)
    (third : 0x80 ≤ c.toNat) (third' : c.toNat ≤ 0xBF) :
    String.utf8EncodeChar (Char.ofNat ((a.toNat % 0x10 * 64 + b.toNat % 64) * 64 + c.toNat % 64)) = [a, b, c] := by
  unfold String.utf8EncodeChar
  rw [char_toNat (by omega)]
  dsimp only
  rw [if_neg (by omega), if_neg (by omega), if_pos (by omega), byte_ofNat a (by omega), byte_ofNat b (by omega),
    byte_ofNat c (by omega)]

/-- So are four. -/
theorem encode_four {a b c d : UInt8} (low : 0xF0 ≤ a.toNat) (high : a.toNat ≤ 0xF4) (second : 0x80 ≤ b.toNat)
    (second' : b.toNat ≤ 0xBF) (least : a.toNat = 0xF0 → 0x90 ≤ b.toNat) (most : a.toNat = 0xF4 → b.toNat ≤ 0x8F)
    (third : 0x80 ≤ c.toNat) (third' : c.toNat ≤ 0xBF) (fourth : 0x80 ≤ d.toNat) (fourth' : d.toNat ≤ 0xBF) :
    String.utf8EncodeChar (Char.ofNat (((a.toNat % 8 * 64 + b.toNat % 64) * 64 + c.toNat % 64) * 64 + d.toNat % 64)) =
      [a, b, c, d] := by
  unfold String.utf8EncodeChar
  rw [char_toNat (by omega)]
  dsimp only
  rw [if_neg (by omega), if_neg (by omega), if_neg (by omega), byte_ofNat a (by omega), byte_ofNat b (by omega),
    byte_ofNat c (by omega), byte_ofNat d (by omega)]

/-- A character that was read has the bytes it was read from. -/
theorem encode_decodeChar {a : UInt8} {rest rest' : List UInt8} {c : Char} (decodes : decodeChar a rest = (some c, rest')) :
    String.utf8EncodeChar c ++ rest' = a :: rest := by
  unfold decodeChar at decodes
  have ranges := secondByte_least a.toNat
  split at decodes
  · cases decodes
  · rename_i more bits lead
    dsimp only at decodes
    cases taken : tailBytes (secondByte a.toNat) more bits rest with
    | mk found rest₁ =>
        rw [taken] at decodes
        cases found with
        | none => cases decodes
        | some n =>
            simp only [Option.map_some, Prod.mk.injEq, Option.some.injEq] at decodes
            obtain ⟨rfl, rfl⟩ := decodes
            unfold leadByte at lead
            split at lead
            · rename_i ascii
              cases lead
              cases taken
              unfold String.utf8EncodeChar
              rw [char_toNat (by omega)]
              dsimp only
              rw [if_pos (by omega), byte_ofNat a rfl]
              rfl
            · split at lead
              · rename_i two
                cases lead
                obtain ⟨b, tail, rfl, low, high, taken⟩ := tailBytes_taken taken
                cases taken
                rw [encode_two two.1 two.2 (by omega) (by omega)]
                rfl
              · split at lead
                · rename_i three
                  cases lead
                  obtain ⟨b, tail, rfl, low, high, taken⟩ := tailBytes_taken taken
                  obtain ⟨c, tail, rfl, low', high', taken⟩ := tailBytes_taken taken
                  cases taken
                  rw [encode_three three.1 three.2 (by omega) (by omega) (by omega) (by omega) low' high']
                  rfl
                · split at lead
                  · rename_i four
                    cases lead
                    obtain ⟨b, tail, rfl, low, high, taken⟩ := tailBytes_taken taken
                    obtain ⟨c, tail, rfl, low', high', taken⟩ := tailBytes_taken taken
                    obtain ⟨d, tail, rfl, low'', high'', taken⟩ := tailBytes_taken taken
                    cases taken
                    rw [encode_four four.1 four.2 (by omega) (by omega) (by omega) (by omega) low' high' low'' high'']
                    rfl
                  · cases lead

theorem tailBytes_length (range : Nat × Nat) (more bits : Nat) (data : List UInt8) :
    (tailBytes range more bits data).2.length ≤ data.length := by
  induction more generalizing range bits data with
  | zero => exact Nat.le_refl _
  | succ more ih =>
      cases data with
      | nil => exact Nat.le_refl _
      | cons b rest =>
          rw [tailBytes]
          split
          · exact Nat.le_trans (ih _ _ rest) (Nat.le_succ _)
          · exact Nat.le_refl _

theorem decodeChar_length (a : UInt8) (rest : List UInt8) : (decodeChar a rest).2.length ≤ rest.length := by
  unfold decodeChar
  split
  · exact Nat.le_refl _
  · exact tailBytes_length _ _ _ rest

/-- So does a text that was read whole. -/
theorem utf8_decodeAll {fuel : Nat} {bytes : List UInt8} (enough : bytes.length ≤ fuel) {text : List Char}
    (decodes : (decodeAll fuel bytes).mapM id = some text) : utf8 text = bytes := by
  induction fuel generalizing bytes text with
  | zero =>
      cases List.eq_nil_of_length_eq_zero (Nat.le_zero.mp enough)
      cases decodes
      rfl
  | succ fuel ih =>
      cases bytes with
      | nil =>
          cases decodes
          rfl
      | cons a rest =>
          rw [decodeAll, List.mapM_cons] at decodes
          obtain ⟨c, first, decodes⟩ := Option.bind_eq_some_iff.mp decodes
          obtain ⟨text', others, is⟩ := Option.bind_eq_some_iff.mp decodes
          cases is
          have less := decodeChar_length a rest
          rw [utf8_cons, ih (by rw [List.length_cons] at enough; omega) others]
          exact encode_decodeChar (Prod.ext first rfl)

/-- The bytes that are decoded are those of the text. -/
theorem utf8_of_fromUtf8 {bytes : List UInt8} {text : List Char} (decodes : fromUtf8 bytes = some text) : utf8 text = bytes :=
  utf8_decodeAll (Nat.le_refl _) decodes

/-! ### Between characters -/

/-- `is_char_boundary`: at the ends, or before a byte that is not inside a character. -/
def isCharBoundary (bytes : List UInt8) (index : Nat) : Bool :=
  if index = 0 then true
  else
    match bytes[index]? with
    | none => index = bytes.length
    | some byte => byte.toNat < 0x80 || 0xC0 ≤ byte.toNat

/-- Inside a character there are continuation bytes only. -/
theorem encode_inside (c : Char) {index : Nat} (inside : 0 < index) {byte : UInt8}
    (is : (String.utf8EncodeChar c)[index]? = some byte) : 0x80 ≤ byte.toNat ∧ byte.toNat < 0xC0 := by
  have continues (n : Nat) : 0x80 ≤ (UInt8.ofNat (n % 0x40 + 0x80)).toNat ∧ (UInt8.ofNat (n % 0x40 + 0x80)).toNat < 0xC0 := by
    rw [byte_toNat (by omega)]
    omega
  obtain ⟨index, rfl⟩ : ∃ n, index = n + 1 := ⟨index - 1, by omega⟩
  unfold String.utf8EncodeChar at is
  dsimp only at is
  split at is
  · cases is
  · split at is
    · match index, is with
      | 0, is =>
          cases is
          exact continues _
    · split at is
      · match index, is with
        | 0, is =>
            cases is
            exact continues _
        | 1, is =>
            cases is
            exact continues _
      · match index, is with
        | 0, is =>
            cases is
            exact continues _
        | 1, is =>
            cases is
            exact continues _
        | 2, is =>
            cases is
            exact continues _

/-- What is before a boundary is a text. -/
theorem utf8_take_boundary (text : List Char) {index : Nat} (boundary : isCharBoundary (utf8 text) index = true) :
    ∃ count, (utf8 text).take index = utf8 (text.take count) := by
  induction text generalizing index with
  | nil => exact ⟨0, by simp [utf8]⟩
  | cons c text ih =>
      by_cases none_ : index = 0
      · exact ⟨0, by simp [none_, utf8]⟩
      · rw [isCharBoundary, if_neg none_, utf8_cons] at boundary
        rw [utf8_cons]
        by_cases inside : index < (String.utf8EncodeChar c).length
        · have there : (String.utf8EncodeChar c)[index]? = some (String.utf8EncodeChar c)[index] := List.getElem?_eq_getElem inside
          have bounds := encode_inside c (by omega) there
          rw [List.getElem?_append_left inside, there] at boundary
          simp only [Bool.or_eq_true, decide_eq_true_eq] at boundary
          omega
        · have later : isCharBoundary (utf8 text) (index - (String.utf8EncodeChar c).length) = true := by
            rw [List.getElem?_append_right (by omega)] at boundary
            unfold isCharBoundary
            split
            · rfl
            · split at boundary
              · simp only [List.length_append, decide_eq_true_eq] at boundary ⊢
                omega
              · exact boundary
          obtain ⟨count, is⟩ := ih later
          refine ⟨count + 1, ?_⟩
          rw [List.take_append, List.take_of_length_le (by omega), is, List.take_succ_cons, utf8_cons]

end OpenTunnel.Formats
