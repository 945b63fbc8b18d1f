/-
Module: OpenTunnel.Model.MeshPair
Layer: Model
Purpose: Two machines that dial each other (`run_link` of `mesh.rs`). Both links say hello, and each side registers
  each link once and ends it when it is refused, cancelled, or closed by the other side; what one side does
  reaches the other at any later time.
Imports: OpenTunnel.Model.Mesh
Trusted boundary: none (fully proved)
Main exports: Mesh.Pairing, Mesh.Pair, Mesh.Pair.step, Mesh.Pair.run
Open obligations: none
-/
import OpenTunnel.Model.Mesh

namespace OpenTunnel.Mesh

open Tasks (Table)

/-- The two machines. A link is named by the one that dialed it. -/
inductive Side where
  | first
  | second
deriving DecidableEq, Repr

def Side.other : Side → Side
  | .first => .second
  | .second => .first

/-- Two lives of machines at distinct addresses. Each side gives the two links numbers of its own; a machine may be
draining by the time it says hello on a link. -/
structure Pairing where
  machine : Side → Machine
  number : Side → Side → LinkId
  draining : Side → Side → Bool
  apart : (machine .first).address ≠ (machine .second).address
  numbered : ∀ side, number side .first ≠ number side .second

/-- What `side` says on the link that `dialer` dialed. -/
def Pairing.hello (setup : Pairing) (side dialer : Side) : Hello :=
  (setup.machine side).hello (setup.draining side dialer)

/-- The dialer's address as `run_link` has it: its own, or that of the peer's hello. -/
def Pairing.dialerAddress (setup : Pairing) (side dialer : Side) : String :=
  if dialer = side then (setup.machine side).address else (setup.hello side.other dialer).address

/-- How far a side is with a link. -/
inductive LinkStage where
  /-- The hello has not been taken yet. -/
  | waiting
  | up
  /-- Another link took its place; its loop is still to end. -/
  | cancelled
  /-- The side has closed it. -/
  | ended
deriving DecidableEq, Repr

/-- What each side knows of its peers, and how far it is with each link. -/
structure Pair where
  remote : Side → Remote
  stage : Side → Side → LinkStage

inductive PairMove where
  | register (side dialer : Side)
  /-- The other side closed the link before its hello was taken. -/
  | fail (side dialer : Side)
  | linkDown (side dialer : Side)
deriving DecidableEq, Repr

namespace Pair

def setRemote (p : Pair) (side : Side) (r : Remote) : Pair :=
  { p with remote := fun side' => if side' = side then r else p.remote side' }

def setStage (p : Pair) (side dialer : Side) (stage : LinkStage) : Pair :=
  { p with stage := fun side' dialer' => if side' = side ∧ dialer' = dialer then stage else p.stage side' dialer' }

/-- The token of the link with that number is cancelled. -/
def cancel (p : Pair) (setup : Pairing) (side : Side) (number : Option LinkId) : Pair :=
  { p with stage := fun side' dialer' =>
      if side' = side ∧ number = some (setup.number side dialer') ∧ p.stage side dialer' = .up then .cancelled
      else p.stage side' dialer' }

/-- One step of one side with one link, where it can be made. -/
def step (setup : Pairing) : PairMove → Pair → Option Pair
  | .register side dialer, p =>
      if p.stage side dialer = .waiting then
        let registered := (p.remote side).register (setup.hello side.other dialer) (setup.number side dialer)
          (setup.dialerAddress side dialer)
        let after := (p.setRemote side registered.remote).cancel setup side registered.cancelled
        some (after.setStage side dialer (if registered.accepted then .up else .ended))
      else none
  | .fail side dialer, p =>
      if p.stage side dialer = .waiting ∧ p.stage side.other dialer = .ended then
        some (p.setStage side dialer .ended)
      else none
  | .linkDown side dialer, p =>
      if p.stage side dialer = .cancelled ∨ (p.stage side dialer = .up ∧ p.stage side.other dialer = .ended) then
        let down := (p.remote side).linkDown (setup.machine side.other).machineId (setup.number side dialer)
        some ((p.setRemote side down).setStage side dialer .ended)
      else none

def run (setup : Pairing) : List PairMove → Pair → Option Pair
  | [], p => some p
  | move :: rest, p => (p.step setup move).bind (run setup rest)

/-- Both links have said hello. -/
def start (remote : Side → Remote) : Pair := { remote := remote, stage := fun _ _ => .waiting }

end Pair

end OpenTunnel.Mesh
