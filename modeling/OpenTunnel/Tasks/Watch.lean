/-
Module: OpenTunnel.Tasks.Watch
Layer: Tasks
Purpose: Watch channels: one value, of which every receiver knows the version it has seen. A receiver's wait is ready while
  there is a version it has not seen, or the sender is gone.
Imports: none (Mathlib-free)
Trusted boundary: none (fully proved)
Main exports: Watch, Watch.send, Watch.unseen, Watch.ready, Watch.unseen_send
Open obligations: none
-/

namespace OpenTunnel.Tasks

structure Watch (α : Type) where
  value : α
  version : Nat := 0
  closed : Bool := false
deriving DecidableEq

namespace Watch

variable {α : Type}

/-- A new value, which no receiver has seen. -/
def send (w : Watch α) (value : α) : Watch α := { w with value := value, version := w.version + 1 }

/-- The sender is dropped. -/
def close (w : Watch α) : Watch α := { w with closed := true }

/-- A receiver that has seen that version has not seen the value. -/
def unseen (w : Watch α) (seen : Nat) : Bool := w.version != seen

/-- The receiver's wait for a change ends. -/
def ready (w : Watch α) (seen : Nat) : Bool := w.unseen seen || w.closed

@[simp] theorem unseen_version (w : Watch α) : w.unseen w.version = false := by
  simp [unseen]

@[simp] theorem unseen_close (w : Watch α) (seen : Nat) : w.close.unseen seen = w.unseen seen := rfl

@[simp] theorem value_close (w : Watch α) : w.close.value = w.value := rfl

@[simp] theorem value_send (w : Watch α) (value : α) : (w.send value).value = value := rfl

/-- A value that is sent is not seen yet. -/
theorem unseen_send {w : Watch α} {seen : Nat} (known : seen ≤ w.version) (value : α) :
    (w.send value).unseen seen = true := by
  simp only [unseen, send, bne_iff_ne]
  omega

theorem ready_of_unseen {w : Watch α} {seen : Nat} (pending : w.unseen seen = true) : w.ready seen = true := by
  simp [ready, pending]

end Watch

end OpenTunnel.Tasks
