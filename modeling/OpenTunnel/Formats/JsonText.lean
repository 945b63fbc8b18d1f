/-
Module: OpenTunnel.Formats.JsonText
Layer: Formats
Purpose: A JSON writer and reader that are lawful, for floats that are whole numbers. The reader is a descent over the
  text, with fuel by its length.
Imports: OpenTunnel.Formats.Json
Trusted boundary: none (fully proved)
Main exports: textCodec, textCodec_lawful
Open obligations: none
-/
import OpenTunnel.Formats.Json

namespace OpenTunnel.Formats

/-! ### Writing -/

def hexChar (n : Nat) : Char := if n < 10 then Char.ofNat (48 + n) else Char.ofNat (87 + n)

/-- A character of a string, escaped where it must be. -/
def escape (c : Char) : Text :=
  if c = '"' then ['\\', '"']
  else if c = '\\' then ['\\', '\\']
  else if c = '\n' then ['\\', 'n']
  else if c = '\r' then ['\\', 'r']
  else if c = '\t' then ['\\', 't']
  else if c.toNat < 32 then ['\\', 'u', '0', '0', hexChar (c.toNat / 16), hexChar (c.toNat % 16)]
  else [c]

def writeString (s : String) : Text := '"' :: s.toList.flatMap escape ++ ['"']

mutual

def writeJson : Json Nat → Text
  | .null => ['n', 'u', 'l', 'l']
  | .bool true => ['t', 'r', 'u', 'e']
  | .bool false => ['f', 'a', 'l', 's', 'e']
  | .nat n => Nat.toDigits 10 n
  | .float f => Nat.toDigits 10 f ++ ['.', '0']
  | .str s => writeString s
  | .arr items => '[' :: commas (writeItems items) ++ [']']
  | .obj members => '{' :: commas (writeMembers members) ++ ['}']

def writeItems : List (Json Nat) → List Text
  | [] => []
  | item :: rest => writeJson item :: writeItems rest

def writeMembers : List (String × Json Nat) → List Text
  | [] => []
  | (name, value) :: rest => (writeString name ++ ':' :: writeJson value) :: writeMembers rest

end

/-! ### Reading -/

def skipBlank (text : Text) : Text := text.dropWhile isBlank

def hexValue (c : Char) : Option Nat :=
  let n := c.toNat
  if 48 ≤ n ∧ n ≤ 57 then some (n - 48)
  else if 97 ≤ n ∧ n ≤ 102 then some (n - 87)
  else none

/-- The rest of a string, and what is behind it. -/
def readString : Text → Option (Text × Text)
  | [] => none
  | '"' :: rest => some ([], rest)
  | '\\' :: 'u' :: '0' :: '0' :: high :: low :: rest => do
      let c := Char.ofNat (16 * (← hexValue high) + (← hexValue low))
      (readString rest).map fun read => (c :: read.1, read.2)
  | '\\' :: 'n' :: rest => (readString rest).map fun read => ('\n' :: read.1, read.2)
  | '\\' :: 'r' :: rest => (readString rest).map fun read => ('\r' :: read.1, read.2)
  | '\\' :: 't' :: rest => (readString rest).map fun read => ('\t' :: read.1, read.2)
  | '\\' :: c :: rest => if c = '"' ∨ c = '\\' then (readString rest).map fun read => (c :: read.1, read.2) else none
  | c :: rest => (readString rest).map fun read => (c :: read.1, read.2)

/-- A number; a float's fraction is zero. -/
def readNumber (text : Text) : Option (Json Nat × Text) :=
  let digits := text.takeWhile Char.isDigit
  if digits.isEmpty then none
  else
    match text.dropWhile Char.isDigit with
    | '.' :: '0' :: rest => some (.float (Nat.ofDigitChars 10 digits 0), rest)
    | rest => some (.nat (Nat.ofDigitChars 10 digits 0), rest)

mutual

def readValue : Nat → Text → Option (Json Nat × Text)
  | 0, _ => none
  | fuel + 1, text =>
      match skipBlank text with
      | 'n' :: 'u' :: 'l' :: 'l' :: rest => some (.null, rest)
      | 't' :: 'r' :: 'u' :: 'e' :: rest => some (.bool true, rest)
      | 'f' :: 'a' :: 'l' :: 's' :: 'e' :: rest => some (.bool false, rest)
      | '"' :: rest => (readString rest).map fun read => (.str (String.ofList read.1), read.2)
      | '[' :: rest =>
          match skipBlank rest with
          | ']' :: rest => some (.arr [], rest)
          | rest => (readItems fuel rest).map fun read => (.arr read.1, read.2)
      | '{' :: rest =>
          match skipBlank rest with
          | '}' :: rest => some (.obj [], rest)
          | rest => (readMembers fuel rest).map fun read => (.obj read.1, read.2)
      | rest => readNumber rest

/-- The items of an array up to its end. -/
def readItems : Nat → Text → Option (List (Json Nat) × Text)
  | 0, _ => none
  | fuel + 1, text =>
      (readValue fuel text).bind fun item =>
        match skipBlank item.2 with
        | ']' :: rest => some ([item.1], rest)
        | ',' :: rest => (readItems fuel rest).map fun read => (item.1 :: read.1, read.2)
        | _ => none

def readMembers : Nat → Text → Option (List (String × Json Nat) × Text)
  | 0, _ => none
  | fuel + 1, text =>
      match skipBlank text with
      | '"' :: rest =>
          (readString rest).bind fun name =>
            match skipBlank name.2 with
            | ':' :: rest =>
                (readValue fuel rest).bind fun value =>
                  match skipBlank value.2 with
                  | '}' :: rest => some ([(String.ofList name.1, value.1)], rest)
                  | ',' :: rest =>
                      (readMembers fuel rest).map fun read => ((String.ofList name.1, value.1) :: read.1, read.2)
                  | _ => none
            | _ => none
      | _ => none

end

def readJson (text : Text) : Option (Json Nat) :=
  (readValue (2 * text.length + 1) text).bind fun read => if skipBlank read.2 = [] then some read.1 else none

def textCodec : Codec Nat where
  write := writeJson
  read := readJson

/-! ### Strings and numbers -/

theorem hexValue_hexChar : ∀ n < 16, hexValue (hexChar n) = some n := by decide

/-- An escaped character is read back. -/
theorem readString_escape (c : Char) (rest : Text) :
    readString (escape c ++ rest) = (readString rest).map fun read => (c :: read.1, read.2) := by
  unfold escape
  split
  · rename_i is
    simp [is, readString]
  · split
    · rename_i is
      simp [is, readString]
    · split
      · rename_i is
        simp [is, readString]
      · split
        · rename_i is
          simp [is, readString]
        · split
          · rename_i is
            simp [is, readString]
          · split
            · rename_i control
              have high := hexValue_hexChar (c.toNat / 16) (by omega)
              have low := hexValue_hexChar (c.toNat % 16) (by omega)
              have same : 16 * (c.toNat / 16) + c.toNat % 16 = c.toNat := by omega
              simp [readString, high, low, same, Char.ofNat_toNat]
            · rename_i quote backslash _ _ _ _
              rw [List.cons_append, List.nil_append, readString.eq_def]
              split <;> simp_all

/-- An escaped text is read back up to the closing quote. -/
theorem readString_escaped (s rest : Text) : readString (s.flatMap escape ++ '"' :: rest) = some (s, rest) := by
  induction s with
  | nil => simp [readString]
  | cons c s ih => rw [List.flatMap_cons, List.append_assoc, readString_escape, ih, Option.map_some]

/-- Blanks in front are skipped. -/
theorem skipBlank_blank {space rest : Text} (blank : Blank space) : skipBlank (space ++ rest) = skipBlank rest := by
  unfold skipBlank
  induction space with
  | nil => rfl
  | cons c space ih =>
      rw [List.cons_append, List.dropWhile_cons_of_pos (blank c List.mem_cons_self)]
      exact ih fun c' held => blank c' (List.mem_cons_of_mem _ held)

/-- Values are read behind the blanks. -/
theorem readValue_skip {fuel : Nat} {text text' : Text} (same : skipBlank text = skipBlank text') :
    readValue fuel text = readValue fuel text' := by
  cases fuel with
  | zero => rfl
  | succ fuel => rw [readValue, readValue, same]

/-- No more of a number follows. -/
def Stops (rest : Text) : Prop := ∀ c tail, rest = c :: tail → c.isDigit = false ∧ c ≠ '.'

theorem digits_head (n : Nat) : ∃ c tail, Nat.toDigits 10 n = c :: tail ∧ c.isDigit = true := by
  cases is : Nat.toDigits 10 n with
  | nil => exact absurd is Nat.toDigits_ne_nil
  | cons c tail => exact ⟨c, tail, rfl, Nat.isDigit_of_mem_toDigits (by omega) (Nat.le_refl _) (is ▸ List.mem_cons_self)⟩

/-- The digits of a number in front of anything else. -/
theorem digits_split (n : Nat) {rest : Text} (stops : ∀ c tail, rest = c :: tail → c.isDigit = false) :
    (Nat.toDigits 10 n ++ rest).takeWhile Char.isDigit = Nat.toDigits 10 n ∧
      (Nat.toDigits 10 n ++ rest).dropWhile Char.isDigit = rest := by
  have digits : ∀ c ∈ Nat.toDigits 10 n, c.isDigit = true :=
    fun c held => Nat.isDigit_of_mem_toDigits (by omega) (Nat.le_refl _) held
  rw [List.takeWhile_append_of_pos digits, List.dropWhile_append_of_pos digits]
  cases rest with
  | nil => simp
  | cons c tail => simp [stops c tail rfl]

theorem skipBlank_of_not {c : Char} {rest : Text} (shown : isBlank c = false) :
    skipBlank (c :: rest) = c :: rest := by
  simp [skipBlank, shown]

theorem not_blank_of_digit {c : Char} (digit : c.isDigit = true) : isBlank c = false := by
  cases blank : isBlank c with
  | false => rfl
  | true =>
      simp only [isBlank, Bool.or_eq_true, decide_eq_true_eq] at blank
      rcases blank with ((rfl | rfl) | rfl) | rfl <;> cases digit

theorem readValue_digit {fuel : Nat} {c : Char} {tail : Text} (digit : c.isDigit = true) :
    readValue (fuel + 1) (c :: tail) = readNumber (c :: tail) := by
  rw [readValue, skipBlank_of_not (not_blank_of_digit digit)]
  split <;> simp_all

/-- A number is read up to where its digits stop. -/
theorem readValue_nat (fuel : Nat) (n : Nat) {rest : Text} (stops : Stops rest) :
    readValue (fuel + 1) (Nat.toDigits 10 n ++ rest) = some (.nat n, rest) := by
  obtain ⟨before, after⟩ := digits_split n fun c tail is => (stops c tail is).1
  obtain ⟨c, tail, is, digit⟩ := digits_head n
  have shape : Nat.toDigits 10 n ++ rest = c :: (tail ++ rest) := by rw [is, List.cons_append]
  rw [shape, readValue_digit digit, ← shape, readNumber]
  simp only [before, after]
  rw [if_neg (by simp [is])]
  split
  · exact absurd rfl (stops '.' _ rfl).2
  · rw [Nat.ofDigitChars_ten_toDigits]

/-- A number with a fraction is read as one. -/
theorem readValue_float (fuel : Nat) (n : Nat) (rest : Text) :
    readValue (fuel + 1) (Nat.toDigits 10 n ++ ['.', '0'] ++ rest) = some (.float n, rest) := by
  have fraction : ∀ c tail, ['.', '0'] ++ rest = c :: tail → c.isDigit = false := by
    intro c tail is
    cases is
    rfl
  obtain ⟨before, after⟩ := digits_split n fraction
  obtain ⟨c, tail, is, digit⟩ := digits_head n
  have shape : Nat.toDigits 10 n ++ (['.', '0'] ++ rest) = c :: (tail ++ (['.', '0'] ++ rest)) := by
    rw [is, List.cons_append]
  rw [List.append_assoc, shape, readValue_digit digit, ← shape, readNumber]
  simp only [before, after]
  rw [if_neg (by simp [is])]
  simp [Nat.ofDigitChars_ten_toDigits]

/-- A text is read back from its quoted form. -/
theorem readValue_string (fuel : Nat) (s : String) (rest : Text) :
    readValue (fuel + 1) (writeString s ++ rest) = some (.str s, rest) := by
  simp [readValue, writeString, skipBlank, isBlank, readString_escaped]

/-! ### Every spelling is read -/

/-- The value is read from the text, whatever stands behind that is not more of it. -/
def ReadsAs (v : Json Nat) (text : Text) : Prop :=
  ∀ fuel rest, 2 * text.length + 1 ≤ fuel → Stops rest →
    ∃ rest', readValue fuel (text ++ rest) = some (v, rest') ∧ skipBlank rest' = skipBlank rest

theorem stops_cons {c : Char} {rest : Text} (digit : c.isDigit = false) (point : c ≠ '.') : Stops (c :: rest) := by
  intro c' tail is
  cases is
  exact ⟨digit, point⟩

/-- The items of an array are read back one after the other. -/
theorem readItems_commas {item : Json Nat × Text} {items : List (Json Nat × Text)}
    (each : ∀ one ∈ item :: items, ReadsAs one.1 one.2) (fuel : Nat) (rest : Text)
    (enough : 2 * (commas ((item :: items).map (·.2))).length + 2 ≤ fuel) :
    readItems fuel (commas ((item :: items).map (·.2)) ++ ']' :: rest) = some ((item :: items).map (·.1), rest) := by
  induction items generalizing item fuel with
  | nil =>
      obtain ⟨fuel, rfl⟩ : ∃ f, fuel = f + 1 := ⟨fuel - 1, by omega⟩
      simp only [List.map_cons, List.map_nil, commas] at enough ⊢
      obtain ⟨rest', read, skipped⟩ := each item List.mem_cons_self fuel (']' :: rest) (by omega)
        (stops_cons (by decide) (by decide))
      rw [readItems, read]
      simp only [Option.bind_some, skipped]
      rw [skipBlank_of_not (by decide)]
      rfl
  | cons next items ih =>
      obtain ⟨fuel, rfl⟩ : ∃ f, fuel = f + 1 := ⟨fuel - 1, by omega⟩
      have later := ih (fun one held => each one (List.mem_cons_of_mem _ held)) fuel
      simp only [List.map_cons, commas, List.length_append, List.length_cons, List.append_assoc,
        List.cons_append] at enough later ⊢
      obtain ⟨rest', read, skipped⟩ := each item List.mem_cons_self fuel
        (',' :: (commas (next.2 :: items.map (·.2)) ++ ']' :: rest)) (by omega) (stops_cons (by decide) (by decide))
      rw [readItems, read]
      simp only [Option.bind_some, skipped]
      rw [skipBlank_of_not (by decide)]
      simp only [later (by omega), Option.map_some]

/-- What a member is written as. -/
def memberText (member : String × Json Nat × Text) : Text := writeString member.1 ++ ':' :: member.2.2

/-- The members of an object are read back one after the other. -/
theorem readMembers_commas {member : String × Json Nat × Text} {members : List (String × Json Nat × Text)}
    (each : ∀ one ∈ member :: members, ReadsAs one.2.1 one.2.2) (fuel : Nat) (rest : Text)
    (enough : 2 * (commas ((member :: members).map memberText)).length + 2 ≤ fuel) :
    readMembers fuel (commas ((member :: members).map memberText) ++ '}' :: rest) =
      some ((member :: members).map fun one => (one.1, one.2.1), rest) := by
  induction members generalizing member fuel with
  | nil =>
      obtain ⟨fuel, rfl⟩ : ∃ f, fuel = f + 1 := ⟨fuel - 1, by omega⟩
      simp only [List.map_cons, List.map_nil, commas, memberText, writeString, List.length_append, List.length_cons,
        List.append_assoc, List.cons_append, List.nil_append] at enough ⊢
      obtain ⟨rest', read, skipped⟩ := each member List.mem_cons_self fuel ('}' :: rest) (by omega)
        (stops_cons (by decide) (by decide))
      rw [readMembers, skipBlank_of_not (by decide)]
      simp only [readString_escaped, Option.bind_some]
      rw [skipBlank_of_not (by decide)]
      simp only [read, Option.bind_some, skipped, String.ofList_toList]
      rw [skipBlank_of_not (by decide)]
      rfl
  | cons next members ih =>
      obtain ⟨fuel, rfl⟩ : ∃ f, fuel = f + 1 := ⟨fuel - 1, by omega⟩
      have later := ih (fun one held => each one (List.mem_cons_of_mem _ held)) fuel
      simp only [List.map_cons, commas, List.length_append, List.length_cons, List.append_assoc,
        List.cons_append] at enough later ⊢
      obtain ⟨rest', read, skipped⟩ := each member List.mem_cons_self fuel
        (',' :: (commas (memberText next :: members.map memberText) ++ '}' :: rest))
        (by simp only [memberText, List.length_append, List.length_cons] at enough; omega)
        (stops_cons (by decide) (by decide))
      have shape : memberText member ++ ',' :: (commas (memberText next :: members.map memberText) ++ '}' :: rest) =
          '"' :: (member.1.toList.flatMap escape ++ '"' :: ':' ::
            (member.2.2 ++ ',' :: (commas (memberText next :: members.map memberText) ++ '}' :: rest))) := by
        simp [memberText, writeString]
      rw [shape, readMembers, skipBlank_of_not (by decide)]
      simp only [readString_escaped, Option.bind_some]
      rw [skipBlank_of_not (by decide)]
      simp only [read, Option.bind_some, skipped, String.ofList_toList]
      rw [skipBlank_of_not (by decide)]
      simp only [later (by omega), Option.map_some]

theorem skipBlank_idem (text : Text) : skipBlank (skipBlank text) = skipBlank text := by
  induction text with
  | nil => rfl
  | cons c text ih =>
      cases blank : isBlank c with
      | false => simp [skipBlank, blank]
      | true =>
          have skipped : skipBlank (c :: text) = skipBlank text := by simp [skipBlank, blank]
          rw [skipped, ih]

theorem readItems_skip (fuel : Nat) (text : Text) : readItems fuel (skipBlank text) = readItems fuel text := by
  cases fuel with
  | zero => rfl
  | succ fuel => rw [readItems, readItems, readValue_skip (skipBlank_idem text)]

theorem readMembers_skip (fuel : Nat) (text : Text) :
    readMembers fuel (skipBlank text) = readMembers fuel text := by
  cases fuel with
  | zero => rfl
  | succ fuel => rw [readMembers, readMembers, skipBlank_idem text]

/-- An array with items is read item by item: a text that starts with the end of the array has none. -/
theorem readValue_items {fuel : Nat} {text rest : Text} {items : List (Json Nat)}
    (read : readItems fuel text = some (items, rest)) :
    readValue (fuel + 1) ('[' :: text) = some (.arr items, rest) := by
  rw [← readItems_skip] at read
  rw [readValue, skipBlank_of_not (by decide)]
  show (match skipBlank text with
    | ']' :: rest => some (Json.arr [], rest)
    | rest => (readItems fuel rest).map fun read : List (Json Nat) × Text => (Json.arr read.1, read.2)) = _
  split
  · rename_i behind is
    rw [is] at read
    cases fuel with
    | zero => cases read
    | succ fuel =>
        cases fuel with
        | zero => simp [readItems, readValue] at read
        | succ fuel => simp [readItems, readValue, skipBlank, isBlank, readNumber] at read
  · rw [read, Option.map_some]

/-- An object is read from its members. -/
theorem readValue_members {fuel : Nat} {text rest : Text} {members : List (String × Json Nat)}
    (read : readMembers fuel text = some (members, rest)) :
    readValue (fuel + 1) ('{' :: text) = some (.obj members, rest) := by
  rw [← readMembers_skip] at read
  rw [readValue, skipBlank_of_not (by decide)]
  show (match skipBlank text with
    | '}' :: rest => some (Json.obj [], rest)
    | rest => (readMembers fuel rest).map fun read : List (String × Json Nat) × Text => (Json.obj read.1, read.2)) = _
  split
  · rename_i behind is
    rw [is] at read
    cases fuel with
    | zero => cases read
    | succ fuel => simp [readMembers, skipBlank, isBlank] at read
  · rw [read, Option.map_some]

/-- Every spelling of a value is read as that value. -/
theorem readsAs_of_spells {v : Json Nat} {text : Text} (spells : textCodec.Spells v text) : ReadsAs v text := by
  induction spells with
  | null =>
      intro fuel rest enough stops
      obtain ⟨fuel, rfl⟩ : ∃ f, fuel = f + 1 := ⟨fuel - 1, by omega⟩
      exact ⟨rest, by simp [readValue, skipBlank, isBlank], rfl⟩
  | true_ =>
      intro fuel rest enough stops
      obtain ⟨fuel, rfl⟩ : ∃ f, fuel = f + 1 := ⟨fuel - 1, by omega⟩
      exact ⟨rest, by simp [readValue, skipBlank, isBlank], rfl⟩
  | false_ =>
      intro fuel rest enough stops
      obtain ⟨fuel, rfl⟩ : ∃ f, fuel = f + 1 := ⟨fuel - 1, by omega⟩
      exact ⟨rest, by simp [readValue, skipBlank, isBlank], rfl⟩
  | nat n =>
      intro fuel rest enough stops
      obtain ⟨fuel, rfl⟩ : ∃ f, fuel = f + 1 := ⟨fuel - 1, by omega⟩
      exact ⟨rest, readValue_nat fuel n stops, rfl⟩
  | @float n _ =>
      intro fuel rest enough stops
      obtain ⟨fuel, rfl⟩ : ∃ f, fuel = f + 1 := ⟨fuel - 1, by omega⟩
      exact ⟨rest, readValue_float fuel n rest, rfl⟩
  | str s =>
      intro fuel rest enough stops
      obtain ⟨fuel, rfl⟩ : ∃ f, fuel = f + 1 := ⟨fuel - 1, by omega⟩
      exact ⟨rest, readValue_string fuel s rest, rfl⟩
  | @none_ space blank =>
      intro fuel rest enough stops
      obtain ⟨fuel, rfl⟩ : ∃ f, fuel = f + 1 := ⟨fuel - 1, by omega⟩
      refine ⟨rest, ?_, rfl⟩
      rw [List.cons_append, List.cons_append, List.append_assoc, readValue, skipBlank_of_not (by decide)]
      simp only [skipBlank_blank blank]
      simp [skipBlank, isBlank]
  | @arr items _ ih =>
      intro fuel rest enough stops
      obtain ⟨fuel, rfl⟩ : ∃ f, fuel = f + 1 := ⟨fuel - 1, by omega⟩
      refine ⟨rest, ?_, rfl⟩
      cases items with
      | nil => simp [readValue, commas, skipBlank, isBlank]
      | cons item items =>
          simp only [List.length_append, List.length_cons, List.cons_append, List.length_nil] at enough
          have read := readValue_items (readItems_commas ih fuel rest (by omega))
          simpa using read
  | @obj members _ ih =>
      intro fuel rest enough stops
      obtain ⟨fuel, rfl⟩ : ∃ f, fuel = f + 1 := ⟨fuel - 1, by omega⟩
      refine ⟨rest, ?_, rfl⟩
      cases members with
      | nil => simp [readValue, commas, skipBlank, isBlank]
      | cons member members =>
          have enough : 2 * ('{' :: commas ((member :: members).map memberText) ++ ['}']).length + 1 ≤ fuel + 1 := enough
          simp only [List.length_append, List.length_cons, List.cons_append, List.length_nil] at enough
          have read := readValue_members (readMembers_commas ih fuel rest (by omega))
          show readValue (fuel + 1) ('{' :: commas ((member :: members).map memberText) ++ ['}'] ++ rest) = _
          simpa using read
  | @blank v before text after first last _ ih =>
      intro fuel rest enough stops
      simp only [List.length_append] at enough
      have open_ : Stops (after ++ rest) := by
        cases after with
        | nil => exact stops
        | cons c after =>
            have blank := last c List.mem_cons_self
            exact stops_cons (by
              cases digit : c.isDigit with
              | false => rfl
              | true => rw [not_blank_of_digit digit] at blank; cases blank) (by
              rintro rfl
              cases blank)
      obtain ⟨rest', read, skipped⟩ := ih fuel (after ++ rest) (by omega) open_
      refine ⟨rest', ?_, ?_⟩
      · rw [List.append_assoc, List.append_assoc, readValue_skip (skipBlank_blank first)]
        exact read
      · rw [skipped, skipBlank_blank last]

/-! ### The codec -/

theorem writeItems_eq (items : List (Json Nat)) : writeItems items = items.map writeJson := by
  induction items with
  | nil => rfl
  | cons item items ih => rw [writeItems, ih, List.map_cons]

theorem writeMembers_eq (members : List (String × Json Nat)) :
    writeMembers members = members.map fun member => writeString member.1 ++ ':' :: writeJson member.2 := by
  induction members with
  | nil => rfl
  | cons member members ih => rw [writeMembers, ih, List.map_cons]

theorem textCodec_exact (f : Nat) : textCodec.read (textCodec.write (.float f)) = some (.float f) := by
  have read := readValue_float (2 * (writeJson (.float f)).length) f []
  have written : writeJson (.float f) = Nat.toDigits 10 f ++ ['.', '0'] := by rw [writeJson]
  rw [List.append_nil, ← written] at read
  show readJson (writeJson (.float f)) = _
  rw [readJson, read]
  rfl

/-- A name without special characters is only quoted. -/
theorem writeString_plain {name : String} (plain : Plain name) : writeString name = quoted name := by
  have raw : name.toList.flatMap escape = name.toList := by
    have each : ∀ c ∈ name.toList, escape c = [c] := by
      intro c held
      obtain ⟨quote, backslash, shown⟩ := plain c held
      have control (c' : Char) (small : c'.toNat < 32) : c ≠ c' := by
        rintro rfl
        omega
      simp [escape, quote, backslash, control '\n' (by decide), control '\r' (by decide), control '\t' (by decide),
        Nat.not_lt.mpr shown]
    rw [List.flatMap_def, List.map_congr_left each, ← List.flatMap_def, List.flatMap_singleton']
  rw [writeString, raw, quoted]

/-- The writer and the reader agree. -/
theorem textCodec_lawful : textCodec.Lawful where
  writes := by
    intro v exact_
    induction exact_ with
    | null => exact .null
    | bool b =>
        cases b with
        | true => exact .true_
        | false => exact .false_
    | nat n => exact .nat n
    | float read => exact .float read
    | str s => exact .str s
    | @arr items _ ih =>
        have spelled := @Codec.Spells.arr _ textCodec (items.map fun item => (item, writeJson item)) (by
          intro item held
          obtain ⟨v, listed, rfl⟩ := List.mem_map.mp held
          exact ih v listed)
        simp only [List.map_map, Function.comp_def, List.map_id'] at spelled
        show textCodec.Spells _ (writeJson _)
        rwa [writeJson, writeItems_eq]
    | @obj members _ ih =>
        have spelled := @Codec.Spells.obj _ textCodec
          (members.map fun member => (member.1, member.2, writeJson member.2)) (by
            intro member held
            obtain ⟨m, listed, rfl⟩ := List.mem_map.mp held
            exact ih m listed)
        simp only [List.map_map, Function.comp_def, List.map_id'] at spelled
        show textCodec.Spells _ (writeJson _)
        rw [writeJson, writeMembers_eq]
        have names (name : String) : textCodec.write (.str name) = writeString name := by
          show writeJson _ = _
          rw [writeJson]
        simpa only [names] using spelled
  reads := by
    intro v text spells
    obtain ⟨rest, read, skipped⟩ := readsAs_of_spells spells (2 * text.length + 1) [] (Nat.le_refl _)
      (by intro c tail is; cases is)
    rw [List.append_nil] at read
    show readJson text = _
    rw [readJson, read, Option.bind_some, skipped]
    rfl
  plain := by
    intro name plain
    show writeJson _ = _
    rw [writeJson]
    exact writeString_plain plain

end OpenTunnel.Formats
