/-
Module: OpenTunnel.Tasks.Table
Layer: Tasks
Purpose: Finite tables for the state that tasks share: a lookup function with the list of the keys it may be
  defined at, so that a whole table can be both read at a key and enumerated, and an update of every row is
  given row by row.
Imports: none (Mathlib-free)
Trusted boundary: none (fully proved)
Main exports: Table, Table.put, Table.update, Table.present
Open obligations: none
-/

namespace OpenTunnel.Tasks

/-- A finite table. The key list covers every row and repeats none. -/
structure Table (κ ν : Type) where
  get : κ → Option ν
  keys : List κ
  nodup : keys.Nodup
  complete : ∀ k, (get k).isSome = true → k ∈ keys

namespace Table

variable {κ ν : Type}

def empty : Table κ ν where
  get := fun _ => none
  keys := []
  nodup := List.nodup_nil
  complete := by simp

/-- Replaces or removes every row by a function of its key and value. -/
def update (t : Table κ ν) (f : κ → ν → Option ν) : Table κ ν where
  get := fun k => (t.get k).bind (f k)
  keys := t.keys
  nodup := t.nodup
  complete := by
    intro k found
    apply t.complete
    cases held : t.get k with
    | none => simp [held] at found
    | some v => rfl

/-- The keys that have a row. -/
def present (t : Table κ ν) : List κ := t.keys.filter fun k => (t.get k).isSome

theorem mem_present {t : Table κ ν} {k : κ} : k ∈ t.present ↔ (t.get k).isSome = true := by
  constructor
  · intro listed
    exact (List.mem_filter.mp listed).2
  · intro found
    exact List.mem_filter.mpr ⟨t.complete k found, found⟩

@[simp] theorem get_empty (k : κ) : (empty : Table κ ν).get k = none := rfl

@[simp] theorem get_update (t : Table κ ν) (f : κ → ν → Option ν) (k : κ) :
    (t.update f).get k = (t.get k).bind (f k) := rfl

variable [DecidableEq κ]

def put (t : Table κ ν) (k : κ) (v : ν) : Table κ ν where
  get := fun k' => if k' = k then some v else t.get k'
  keys := if k ∈ t.keys then t.keys else k :: t.keys
  nodup := by
    split
    · exact t.nodup
    · rename_i fresh
      exact List.nodup_cons.mpr ⟨fresh, t.nodup⟩
  complete := by
    intro k' found
    by_cases same : k' = k
    · subst same
      split
      · assumption
      · exact List.mem_cons_self
    · simp only [same, if_false] at found
      have listed := t.complete k' found
      split
      · exact listed
      · exact List.mem_cons_of_mem _ listed

@[simp] theorem get_put (t : Table κ ν) (k k' : κ) (v : ν) :
    (t.put k v).get k' = if k' = k then some v else t.get k' := rfl

end Table

end OpenTunnel.Tasks
