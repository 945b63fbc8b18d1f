/-
Module: OpenTunnel.Formats.Fields
Layer: Formats
Purpose: Reading the fields of a JSON object: numbers within a bound, texts, flags and lists. An object is read by the names
  of its members alone: their order does not matter, and neither do members that nobody asks for.
Imports: OpenTunnel.Formats.Json
Trusted boundary: none (fully proved)
Main exports: below, asText, asFlag, asList, latest, field, fieldOr, Extends, Extends.uncons
Open obligations: none
-/
import OpenTunnel.Formats.Json

namespace OpenTunnel.Formats

variable {F α : Type}

/-! ### Values -/

/-- A whole number below the bound. -/
def below (bound : Nat) : Json F → Option Nat
  | .nat n => if n < bound then some n else none
  | _ => none

def asText : Json F → Option String
  | .str s => some s
  | _ => none

def asFlag : Json F → Option Bool
  | .bool b => some b
  | _ => none

/-- A list whose items all read. -/
def asList (read : Json F → Option α) : Json F → Option (List α)
  | .arr items => items.mapM read
  | _ => none

/-- A number below the bound is read. -/
theorem below_nat {bound n : Nat} (small : n < bound) : below bound (.nat n : Json F) = some n := if_pos small

theorem mapM_written {write : α → Json F} {read : Json F → Option α} {items : List α} (reads : ∀ a ∈ items, read (write a) = some a) :
    (items.map write).mapM read = some items := by
  induction items with
  | nil => rfl
  | cons a items ih =>
      have rest := ih fun b held => reads b (List.mem_cons_of_mem _ held)
      rw [List.map_cons, List.mapM_cons, reads a List.mem_cons_self, Option.bind_eq_bind, Option.bind_some, rest]
      rfl

/-- A list is read back if each of its items is. -/
theorem asList_map {write : α → Json F} {read : Json F → Option α} {items : List α} (reads : ∀ a ∈ items, read (write a) = some a) :
    asList read (.arr (items.map write)) = some items :=
  mapM_written reads

/-! ### Members -/

/-- The members of a document that was read into a map: of members with one name, the last. -/
def latest : List (String × Json F) → List (String × Json F)
  | [] => []
  | entry :: rest => if rest.any fun other => other.1 = entry.1 then latest rest else entry :: latest rest

/-- A member that must be there. -/
def field (members : List (String × Json F)) (name : String) (read : Json F → Option α) : Option α :=
  match member members name with
  | some (some value) => read value
  | _ => none

/-- A member that may be left out. -/
def fieldOr (members : List (String × Json F)) (name : String) (default : α) (read : Json F → Option α) : Option α :=
  match member members name with
  | some (some value) => read value
  | some none => some default
  | none => none

/-- The value of a name that occurs once is found. -/
theorem member_listed {members : List (String × Json F)} (distinct : (members.map (·.1)).Nodup) {name : String} {value : Json F}
    (listed : (name, value) ∈ members) : member members name = some (some value) := by
  have found : (members.filter fun entry => entry.1 = name) = [(name, value)] := by
    induction members with
    | nil => cases listed
    | cons entry members ih =>
        obtain ⟨fresh, distinct⟩ := List.nodup_cons.mp distinct
        rcases List.mem_cons.mp listed with rfl | later
        · have others : (members.filter fun entry => entry.1 = name) = [] := by
            apply List.filter_eq_nil_iff.mpr
            intro other held same
            exact fresh (List.mem_map.mpr ⟨other, held, of_decide_eq_true same⟩)
          simp [others]
        · have apart : entry.1 ≠ name := by
            intro same
            exact fresh (List.mem_map.mpr ⟨_, later, same.symm⟩)
          simpa [apart] using ih distinct later
  rw [member, found]

/-- A name that does not occur is found missing. -/
theorem member_missing {members : List (String × Json F)} {name : String} (missing : name ∉ members.map (·.1)) :
    member members name = some none := by
  have none_ : (members.filter fun entry => entry.1 = name) = [] := by
    apply List.filter_eq_nil_iff.mpr
    intro other held same
    exact missing (List.mem_map.mpr ⟨other, held, of_decide_eq_true same⟩)
  rw [member, none_]

/-- Of distinct names every member is the latest. -/
theorem latest_distinct {members : List (String × Json F)} (distinct : (members.map (·.1)).Nodup) : latest members = members := by
  induction members with
  | nil => rfl
  | cons entry members ih =>
      obtain ⟨fresh, distinct⟩ := List.nodup_cons.mp distinct
      have alone : ¬ (members.any fun other => decide (other.1 = entry.1)) = true := by
        rw [List.any_eq_true]
        rintro ⟨other, held, same⟩
        exact fresh (List.mem_map.mpr ⟨other, held, of_decide_eq_true same⟩)
      rw [latest, if_neg alone, ih distinct]

/-- An object that has these fields, in any order, with any others beside them. -/
structure Extends (members fields : List (String × Json F)) : Prop where
  distinct : (members.map (·.1)).Nodup
  has : ∀ entry ∈ fields, entry ∈ members

/-- The first field is read as it was written, and the others are there. -/
theorem Extends.uncons {members fields : List (String × Json F)} {name : String} {value : Json F}
    (whole : Extends members ((name, value) :: fields)) :
    (∀ {α : Type} (read : Json F → Option α), field members name read = read value) ∧ Extends members fields := by
  constructor
  · intro α read
    rw [field, member_listed whole.distinct (whole.has _ List.mem_cons_self)]
  · exact ⟨whole.distinct, fun entry held => whole.has entry (List.mem_cons_of_mem _ held)⟩

/-- Fields with distinct names extend themselves. -/
theorem Extends.self {fields : List (String × Json F)} (distinct : (fields.map (·.1)).Nodup) : Extends fields fields :=
  ⟨distinct, fun _ held => held⟩

theorem Extends.latest {members fields : List (String × Json F)} (whole : Extends members fields) :
    latest members = members := latest_distinct whole.distinct

end OpenTunnel.Formats
