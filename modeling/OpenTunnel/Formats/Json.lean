/-
Module: OpenTunnel.Formats.Json
Layer: Formats
Purpose: JSON documents. `Spells` says which texts stand for a value, `Codec` is a writer and a reader, and `Codec.Lawful`
  is what one may rely on: the writer writes a spelling, and the reader reads every spelling. How floats are written is
  the codec's own; those that it reads back are exact.
Imports: none (Mathlib-free)
Trusted boundary: none (fully proved)
Main exports: Json, Codec, Codec.Exact, Codec.Spells, Codec.Lawful, Codec.Lawful.round_trip, member, given,
  member_given
Open obligations: none
-/

namespace OpenTunnel.Formats

abbrev Text := List Char

inductive Json (F : Type) where
  | null
  | bool (b : Bool)
  | nat (n : Nat)
  | float (f : F)
  | str (s : String)
  | arr (items : List (Json F))
  | obj (members : List (String × Json F))

/-- A writer of compact documents, and a reader. -/
structure Codec (F : Type) where
  write : Json F → Text
  read : Text → Option (Json F)

/-! ### Documents -/

def isBlank (c : Char) : Bool := c = ' ' || c = '\n' || c = '\t' || c = '\r'

def Blank (text : Text) : Prop := ∀ c ∈ text, isBlank c = true

/-- The texts, with commas between. -/
def commas : List Text → Text
  | [] => []
  | [text] => text
  | text :: rest => text ++ ',' :: commas rest

/-- A name that needs no escapes. -/
def Plain (name : String) : Prop := ∀ c ∈ name.toList, c ≠ '"' ∧ c ≠ '\\' ∧ 32 ≤ c.toNat

instance (name : String) : Decidable (Plain name) := List.decidableBAll _ name.toList

def quoted (name : String) : Text := '"' :: name.toList ++ ['"']

namespace Codec

variable {F : Type} (codec : Codec F)

/-- Every float of the value is read back as it is written. -/
inductive Exact : Json F → Prop where
  | null : Exact .null
  | bool (b : Bool) : Exact (.bool b)
  | nat (n : Nat) : Exact (.nat n)
  | float {f : F} : codec.read (codec.write (.float f)) = some (.float f) → Exact (.float f)
  | str (s : String) : Exact (.str s)
  | arr {items : List (Json F)} : (∀ item ∈ items, Exact item) → Exact (.arr items)
  | obj {members : List (String × Json F)} : (∀ member ∈ members, Exact member.2) → Exact (.obj members)

/-- The text stands for the value, with white space around it and around the values in it. -/
inductive Spells : Json F → Text → Prop where
  | null : Spells .null ['n', 'u', 'l', 'l']
  | true_ : Spells (.bool true) ['t', 'r', 'u', 'e']
  | false_ : Spells (.bool false) ['f', 'a', 'l', 's', 'e']
  | nat (n : Nat) : Spells (.nat n) (Nat.toDigits 10 n)
  | float {f : F} : codec.read (codec.write (.float f)) = some (.float f) →
      Spells (.float f) (codec.write (.float f))
  | str (s : String) : Spells (.str s) (codec.write (.str s))
  | none_ {space : Text} : Blank space → Spells (.arr []) ('[' :: space ++ [']'])
  | arr {items : List (Json F × Text)} : (∀ item ∈ items, Spells item.1 item.2) →
      Spells (.arr (items.map (·.1))) ('[' :: commas (items.map (·.2)) ++ [']'])
  | obj {members : List (String × Json F × Text)} : (∀ member ∈ members, Spells member.2.1 member.2.2) →
      Spells (.obj (members.map fun member => (member.1, member.2.1)))
        ('{' :: commas (members.map fun member => codec.write (.str member.1) ++ ':' :: member.2.2) ++ ['}'])
  | blank {v : Json F} {before text after : Text} : Blank before → Blank after → Spells v text →
      Spells v (before ++ text ++ after)

structure Lawful : Prop where
  writes : ∀ {v}, codec.Exact v → codec.Spells v (codec.write v)
  reads : ∀ {v text}, codec.Spells v text → codec.read text = some v
  plain : ∀ {name}, Plain name → codec.write (.str name) = quoted name

variable {codec}

theorem Lawful.round_trip (lawful : codec.Lawful) {v : Json F} (exact_ : codec.Exact v) :
    codec.read (codec.write v) = some v :=
  lawful.reads (lawful.writes exact_)

end Codec

/-! ### Members of an object -/

/-- The member of that name; a name given twice is refused. -/
def member {F : Type} (members : List (String × Json F)) (name : String) : Option (Option (Json F)) :=
  match members.filter fun member => member.1 = name with
  | [] => some none
  | [member] => some (some member.2)
  | _ => none

/-- The members of an object whose fields may be left out. -/
def given {F : Type} (fields : List (String × Option (Json F))) : List (String × Json F) :=
  fields.filterMap fun field => field.2.map fun value => (field.1, value)

theorem given_filter_other {F : Type} {fields : List (String × Option (Json F))} {name : String}
    (other : name ∉ fields.map (·.1)) : ((given fields).filter fun member => member.1 = name) = [] := by
  apply List.filter_eq_nil_iff.mpr
  intro member held same
  obtain ⟨field, listed, is⟩ := List.mem_filterMap.mp held
  obtain ⟨value, _, rfl⟩ := Option.map_eq_some_iff.mp is
  exact other (List.mem_map.mpr ⟨field, listed, of_decide_eq_true same⟩)

/-- Every field is found as it was given, or left out. -/
theorem member_given {F : Type} {fields : List (String × Option (Json F))} (distinct : (fields.map (·.1)).Nodup)
    {name : String} {value : Option (Json F)} (listed : (name, value) ∈ fields) :
    member (given fields) name = some value := by
  have found : ((given fields).filter fun member => member.1 = name) =
      (value.map fun v => (name, v)).toList := by
    induction fields with
    | nil => cases listed
    | cons field fields ih =>
        obtain ⟨fresh, distinct⟩ := List.nodup_cons.mp distinct
        rcases List.mem_cons.mp listed with rfl | later
        · have others := given_filter_other fresh
          cases value with
          | none => simpa [given] using others
          | some v => simpa [given] using others
        · have apart : field.1 ≠ name := by
            rintro rfl
            exact fresh (List.mem_map.mpr ⟨_, later, rfl⟩)
          have same := ih distinct later
          cases is : field.2 with
          | none => simpa [given, is] using same
          | some v => simpa [given, is, apart] using same
  unfold member
  cases value <;> rw [found] <;> rfl

end OpenTunnel.Formats
