/-
Module: OpenTunnel.Model.Routines
Layer: Model
Purpose: Tasks that use the cached records of a machine. An inquiry is an operation that answers by the record
  `lock_routable` leaves it. A routine is any program put together from the other functions that lock an entry
  (`lock`, `lock_fresh`, `lock_for_attach`) and from acts that are not their own, so a run of inquiries and routines
  has every interleaving of these functions, of `forget_cached_answers` and of writes. The jobs of `bridging` are the
  operations and bridges that attach more than once.
Imports: OpenTunnel.Model.Bridges, OpenTunnel.Model.Jobs
Trusted boundary: none (fully proved)
Main exports: Act.plain, Composed, Routine, Inquiry, CacheJob, caches, BridgeJob, bridging
Open obligations: none
-/
import OpenTunnel.Model.Bridges
import OpenTunnel.Model.Jobs

namespace OpenTunnel

open Tasks

/-- The acts that are not only made while an entry is being locked. -/
def Act.plain : Act → Bool
  | .read _ => false
  | .stamp .. => false
  | .generation => false
  | .complete => false
  | _ => true

/-- Put together from the functions that lock an entry and from plain acts. -/
inductive Composed (setup : Setup) (m : MachineId) : {α : Type} → Call α → Prop where
  | pure {α : Type} (a : α) : Composed setup m (pure a : Call α)
  | bind {α β : Type} {p : Call α} {f : α → Call β} : Composed setup m p → (∀ a, Composed setup m (f a)) →
      Composed setup m (p >>= f)
  | act (op : Act) (plain : op.plain = true) : Composed setup m (act op)
  | lock (id : TunnelId) : Composed setup m (lock id).run
  | lockFresh (id : TunnelId) : Composed setup m (lockFresh setup m id).run
  | lockForAttach (id : TunnelId) : Composed setup m (lockForAttach setup m id).run

namespace Composed

variable {setup : Setup} {m : MachineId} {α β : Type}

theorem forM {f : β → Call Unit} {items : List β} (each : ∀ b, Composed setup m (f b)) :
    Composed setup m (items.forM f) := by
  induction items with
  | nil => exact .pure ()
  | cons b rest ih => exact .bind (each b) fun _ => ih

theorem closeDeleted (id : TunnelId) : Composed setup m (closeDeleted id) := by
  refine .bind (.act _ rfl) fun known => ?_
  split
  · exact .bind (.act _ rfl) fun _ => .bind (.act _ rfl) fun _ => .bind (.act _ rfl) fun _ => .act _ rfl
  · exact .pure _

theorem attachedTunnels (ids : List TunnelId) : Composed setup m (attachedTunnels ids) := by
  induction ids with
  | nil => exact .pure _
  | cons id rest ih =>
      exact .bind (.act _ rfl) fun _ => .bind (.act _ rfl) fun _ => .bind (.act _ rfl) fun _ =>
        .bind ih fun _ => .pure _

theorem closeDeletedTunnels : Composed setup m closeDeletedTunnels := by
  refine .bind (.act _ rfl) fun ids => .bind (attachedTunnels ids) fun live => ?_
  split
  · refine .bind (.act _ rfl) fun answer => ?_
    split
    · exact forM closeDeleted
    · exact .pure _
  · exact .pure _

theorem expire (id : TunnelId) : Composed setup m (expire id) := by
  refine .bind (.act _ rfl) fun known => ?_
  split
  · exact .bind (.act _ rfl) fun _ => .bind (.act _ rfl) fun _ => .act _ rfl
  · exact .pure _

/-- `forget_cached_answers` is the first act after a link came up. -/
theorem handleNotice : Composed setup m handleNotice := by
  have handled : Composed setup m (OpenTunnel.act .handled) := .act _ rfl
  refine .bind (.act _ rfl) fun notice => ?_
  dsimp only
  split
  · exact .bind (expire _) fun _ => handled
  · exact .bind (expire _) fun _ => handled
  · refine .bind (.act _ rfl) fun answer => ?_
    split
    · split
      · exact .bind (closeDeleted _) fun _ => handled
      · exact handled
    · exact handled
  · exact handled
  · refine .bind (.act _ rfl) fun _ => .bind (.act _ rfl) fun queued => ?_
    split
    · exact .bind (.act _ rfl) fun _ => .bind closeDeletedTunnels fun _ => handled
    · exact handled

end Composed

/-- What a task of a machine does, whichever machine it is. -/
structure Routine (setup : Setup) where
  program : MachineId → Call Unit
  composed : ∀ m, Composed setup m (program m)

/-- The operations that `lock_routable` serves. -/
inductive Inquiry where
  | tunnelExists (id : TunnelId)
  | registerBridge (id : TunnelId)
  | route (id : TunnelId) (sni : String)
deriving DecidableEq, Repr

def Inquiry.program (setup : Setup) (m : MachineId) : Inquiry → Call Unit
  | .tunnelExists id => ignore (OpenTunnel.tunnelExists setup m id)
  | .registerBridge id => ignore (OpenTunnel.registerBridge setup m id)
  | .route id sni => ignore (OpenTunnel.route setup m id sni)

inductive CacheJob (setup : Setup) where
  | inquiry (asked : Inquiry)
  | routine (made : Routine setup)

namespace CacheJob

variable {setup : Setup}

def program (m : MachineId) : CacheJob setup → Call Unit
  | .inquiry asked => asked.program setup m
  | .routine made => made.program m

def handleNotice : CacheJob setup := .routine
  { program := fun _ => OpenTunnel.handleNotice
    composed := fun _ => .handleNotice }

end CacheJob

/-- The deployment with an inquiry or any routine for each of its tasks. -/
def caches (setup : Setup) (jobs : Task → CacheJob setup) : Tasks.Semantics Task Act Act.Ans World Unit where
  Choice := Choice
  Move := Move
  exec := exec setup
  move := move
  program := fun t _ => (jobs t).program t.machine

/-! ### Bridges -/

/-- What the tasks of a machine do where a bridge may also be attached again after it is. -/
inductive BridgeJob where
  | operation (op : Operation)
  | attaches (id : TunnelId) (requests : List AttachRequest)
deriving DecidableEq, Repr

/-- Attaches on one bridge, whatever each one answers. -/
def attachAll (setup : Setup) (m : MachineId) (id : TunnelId) (b : BridgeId) : List AttachRequest → Call Unit
  | [] => pure ()
  | request :: rest => do
      let _ ← (attach setup m id b request.token request.routes request.maxConns).run
      attachAll setup m id b rest

/-- A bridge is registered, attached any number of times and cleaned up. -/
def attaches (setup : Setup) (m : MachineId) (id : TunnelId) (requests : List AttachRequest) : Call Unit := do
  match ← (registerBridge setup m id).run with
  | .ok (some b) =>
      attachAll setup m id b requests
      bridgeClosed id b
  | _ => pure ()

/-- The deployment with these jobs. -/
def bridging (setup : Setup) : Tasks.Semantics Task Act Act.Ans World BridgeJob where
  Choice := Choice
  Move := Move
  exec := exec setup
  move := move
  program := fun t job =>
    match job with
    | .operation op => program setup t op
    | .attaches id requests => attaches setup t.machine id requests

end OpenTunnel
