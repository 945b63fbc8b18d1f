/-
Module: OpenTunnel.Proofs.MeshPair
Layer: Proofs
Purpose: Two machines that dial each other end on one link, the one dialed by the lower address. That link wins against
  the other on both sides, so nothing ever takes its place, and the other is refused or cancelled wherever both are
  known.
Imports: OpenTunnel.Model.MeshPair
Trusted boundary: none (fully proved)
Main exports: Mesh.Pairing.lower, Mesh.Pair.Settled, Mesh.duplicate_links_resolve
Open obligations: none
-/
import OpenTunnel.Model.MeshPair

namespace OpenTunnel.Mesh

open Tasks (Table)

/-- The side with the lower address. -/
def Pairing.lower (setup : Pairing) : Side :=
  if (setup.machine .first).address < (setup.machine .second).address then .first else .second

def Pairing.higher (setup : Pairing) : Side := setup.lower.other

def PairMove.side : PairMove → Side
  | .register side _ | .fail side _ | .linkDown side _ => side

def PairMove.dialer : PairMove → Side
  | .register _ dialer | .fail _ dialer | .linkDown _ dialer => dialer

/-- What a link still has to go through. -/
def LinkStage.left : LinkStage → Nat
  | .waiting => 3
  | .up => 2
  | .cancelled => 1
  | .ended => 0

section Sides

variable (setup : Pairing)

@[simp] theorem Side.other_other (side : Side) : side.other.other = side := by cases side <;> rfl

theorem Side.other_ne (side : Side) : side.other ≠ side := by cases side <;> simp [Side.other]

theorem Side.eq_or_other (side dialer : Side) : dialer = side ∨ dialer = side.other := by
  cases side <;> cases dialer <;> simp [Side.other]

@[simp] theorem Pairing.higher_other : setup.higher.other = setup.lower := Side.other_other _

theorem Pairing.lower_or_higher (dialer : Side) : dialer = setup.lower ∨ dialer = setup.higher :=
  Side.eq_or_other setup.lower dialer

theorem Pairing.higher_ne_lower : setup.higher ≠ setup.lower := Side.other_ne _

theorem Pairing.lower_address_lt :
    (setup.machine setup.lower).address < (setup.machine setup.higher).address := by
  unfold higher lower
  split
  · assumption
  · rename_i above
    apply String.not_le.mp
    intro below
    exact setup.apart (String.le_antisymm below (String.not_lt.mp above))

theorem Pairing.dialerAddress_eq (side dialer : Side) :
    setup.dialerAddress side dialer = (setup.machine dialer).address := by
  unfold dialerAddress
  rcases Side.eq_or_other side dialer with rfl | rfl
  · simp
  · simp [Side.other_ne, hello, Machine.hello]

theorem Pairing.number_ne (side : Side) : setup.number side setup.lower ≠ setup.number side setup.higher := by
  have numbered := setup.numbered side
  unfold higher
  cases setup.lower with
  | first => exact numbered
  | second => exact Ne.symm numbered

end Sides

namespace Pair

/-- The peer as the side knows it through the link that `dialer` dialed. -/
def Known (setup : Pairing) (p : Pair) (side dialer : Side) : Prop :=
  ∃ peer, (p.remote side).peers.get (setup.machine side.other).machineId = some peer ∧
    peer.link = setup.number side dialer ∧ peer.dialer = (setup.machine dialer).address ∧
    peer.hello.address = (setup.machine side.other).address ∧
    peer.hello.life = ((setup.machine side.other).startedAt, (setup.machine side.other).epoch)

/-- How far a side may be with the two links. -/
structure Resolving (setup : Pairing) (p : Pair) (side : Side) : Prop where
  kept : p.stage side setup.lower = .waiting ∨ p.stage side setup.lower = .up
  up : p.stage side setup.lower = .up → p.Known setup side setup.lower ∧ p.stage side setup.higher ≠ .up
  other : p.stage side setup.higher = .up → p.Known setup side setup.higher
  cancelled : p.stage side setup.higher = .cancelled → p.stage side setup.lower = .up
  neither : p.stage side setup.lower = .waiting → p.stage side setup.higher ≠ .up →
    (p.remote side).peers.get (setup.machine side.other).machineId = none

/-- A side has closed the link or is about to. -/
def TornDown (p : Pair) (dialer : Side) : Prop :=
  ∃ side, p.stage side dialer = .cancelled ∨ p.stage side dialer = .ended

/-- Both sides know the other through the link that `dialer` dialed, and nothing else is left of the links. -/
def Settled (setup : Pairing) (p : Pair) (dialer : Side) : Prop :=
  ∀ side, p.stage side dialer = .up ∧ p.Known setup side dialer ∧ p.stage side dialer.other = .ended

section Steps

variable {setup : Pairing} {p q : Pair} {side : Side}

/-- Only what the side itself knows and does matters to it. -/
theorem Resolving.congr (resolving : p.Resolving setup side) (remote : q.remote side = p.remote side)
    (stage : q.stage side = p.stage side) : q.Resolving setup side := by
  have known : ∀ dialer, p.Known setup side dialer → q.Known setup side dialer := by
    intro dialer
    rw [Known, Known, remote]
    exact id
  constructor
  · rw [stage]
    exact resolving.kept
  · rw [stage]
    exact fun up => ⟨known _ (resolving.up up).1, (resolving.up up).2⟩
  · rw [stage]
    exact fun up => known _ (resolving.other up)
  · rw [stage]
    exact resolving.cancelled
  · rw [stage, remote]
    exact resolving.neither

/-- A link to a machine that is not known. -/
theorem register_unknown {r : Remote} (hello : Hello) (link : LinkId) (dialer : String)
    (unknown : r.peers.get hello.machineId = none) :
    r.register hello link dialer =
      { accepted := true, cancelled := none,
        remote := r.setPeer hello.machineId { hello := hello, link := link, dialer := dialer, seq := 0,
                                              entries := Table.empty, snapshotOpen := false } } := by
  simp [Remote.register, unknown]

/-- A second link to the same life of a machine at the same address: the lower dialer decides. -/
theorem register_known {r : Remote} (hello : Hello) {peer : Peer} (link : LinkId) {dialer : String}
    (known : r.peers.get hello.machineId = some peer) (address : peer.hello.address = hello.address)
    (life : peer.hello.life = hello.life) (other : peer.dialer ≠ dialer) :
    r.register hello link dialer =
      if dialer < peer.dialer then
        { accepted := true, cancelled := some peer.link,
          remote := r.setPeer hello.machineId { hello := hello, link := link, dialer := dialer, seq := 0,
                                                entries := peer.entries, snapshotOpen := false } }
      else { accepted := false, cancelled := none, remote := r } := by
  have yields : peer.yields hello dialer = decide (dialer < peer.dialer) := by
    simp [Peer.yields, address, life, other]
  simp only [Remote.register, known, yields, life]
  by_cases lower : dialer < peer.dialer <;> simp [lower]

/-- The peer that the side knows the other through once it has registered the link that `dialer` dialed. -/
def newPeer (setup : Pairing) (side dialer : Side) (entries : Table BridgeId Entry) : Peer :=
  { hello := setup.hello side.other dialer, link := setup.number side dialer,
    dialer := setup.dialerAddress side dialer, seq := 0, entries := entries, snapshotOpen := false }

theorem known_newPeer {dialer : Side} (entries : Table BridgeId Entry)
    (held : (q.remote side).peers.get (setup.machine side.other).machineId = some (newPeer setup side dialer entries)) :
    q.Known setup side dialer :=
  ⟨_, held, rfl, setup.dialerAddress_eq side dialer, rfl, rfl⟩

section Registering

variable {dialer : Side} (waiting : p.stage side dialer = .waiting)
  (stepped : p.step setup (.register side dialer) = some q)

include waiting stepped

/-- What registering does to the side itself, in terms of what `register` answers. -/
theorem register_stage :
    let registered := (p.remote side).register (setup.hello side.other dialer) (setup.number side dialer)
      (setup.dialerAddress side dialer)
    q.remote side = registered.remote ∧
      q.stage side dialer = (if registered.accepted then .up else .ended) ∧
      q.stage side dialer.other =
        (if registered.cancelled = some (setup.number side dialer.other) ∧ p.stage side dialer.other = .up then .cancelled
         else p.stage side dialer.other) := by
  intro registered
  simp only [step, waiting, if_true, Option.some.injEq] at stepped
  subst stepped
  refine ⟨by simp [setStage, cancel, setRemote, registered], by simp [setStage, registered], ?_⟩
  simp [setStage, cancel, setRemote, registered, Side.other_ne]

theorem resolving_unknown (resolving : p.Resolving setup side)
    (unknown : (p.remote side).peers.get (setup.machine side.other).machineId = none) : q.Resolving setup side := by
  have answer := register_unknown (setup.hello side.other dialer) (setup.number side dialer)
    (setup.dialerAddress side dialer) unknown
  obtain ⟨remote, own, other⟩ := register_stage waiting stepped
  rw [answer] at remote own other
  have known : q.Known setup side dialer := by
    apply known_newPeer Table.empty
    rw [remote]
    simp [Remote.setPeer, newPeer, Pairing.hello, Machine.hello]
  have unheld : ∀ d, ¬ p.Known setup side d := by
    rintro d ⟨peer, held, _⟩
    rw [unknown] at held
    cases held
  have notUp : p.stage side setup.higher ≠ .up := fun up => unheld _ (resolving.other up)
  have lower : p.stage side setup.lower = .waiting := by
    rcases resolving.kept with waits | up
    · exact waits
    · exact absurd (resolving.up up).1 (unheld _)
  simp only [if_true] at own
  simp only [reduceCtorEq, false_and, if_false] at other
  rcases setup.lower_or_higher dialer with rfl | rfl
  · constructor
    · exact .inr own
    · intro _
      exact ⟨known, by rw [Pairing.higher, other]; exact notUp⟩
    · intro up
      rw [Pairing.higher, other] at up
      exact absurd up notUp
    · exact fun _ => own
    · intro waits
      rw [own] at waits
      cases waits
  · rw [Pairing.higher_other] at other
    rw [lower] at other
    constructor
    · exact .inl other
    · intro up
      rw [other] at up
      cases up
    · exact fun _ => known
    · intro cancelled
      rw [own] at cancelled
      cases cancelled
    · intro _ notUp'
      exact absurd own notUp'

end Registering

theorem resolving_takeover (resolving : p.Resolving setup side) (waiting : p.stage side setup.lower = .waiting)
    (stepped : p.step setup (.register side setup.lower) = some q) (up : p.stage side setup.higher = .up) :
    q.Resolving setup side := by
  obtain ⟨peer, held, link, dialer, address, life⟩ := resolving.other up
  have below : setup.dialerAddress side setup.lower < peer.dialer := by
    rw [dialer, setup.dialerAddress_eq]
    exact setup.lower_address_lt
  have answer := register_known (setup.hello side.other setup.lower) (setup.number side setup.lower) held
    address life (fun same => String.lt_irrefl _ (same ▸ below))
  rw [if_pos below] at answer
  obtain ⟨remote, own, other⟩ := register_stage waiting stepped
  rw [answer] at remote own other
  have known : q.Known setup side setup.lower := by
    apply known_newPeer peer.entries
    rw [remote]
    simp [Remote.setPeer, newPeer, Pairing.hello, Machine.hello]
  simp only [if_true] at own
  have cancelled : q.stage side setup.higher = .cancelled := by
    rw [Pairing.higher] at up link ⊢
    rw [other, if_pos ⟨congrArg some link, up⟩]
  constructor
  · exact .inr own
  · exact fun _ => ⟨known, by rw [cancelled]; simp⟩
  · intro up'
    rw [cancelled] at up'
    cases up'
  · exact fun _ => own
  · intro waits
    rw [own] at waits
    cases waits

theorem resolving_refused (resolving : p.Resolving setup side) (waiting : p.stage side setup.higher = .waiting)
    (stepped : p.step setup (.register side setup.higher) = some q) (up : p.stage side setup.lower = .up) :
    q.Resolving setup side := by
  obtain ⟨peer, held, link, dialer, address, life⟩ := (resolving.up up).1
  have above : ¬ setup.dialerAddress side setup.higher < peer.dialer := by
    rw [dialer, setup.dialerAddress_eq]
    exact String.lt_asymm setup.lower_address_lt
  have other : peer.dialer ≠ setup.dialerAddress side setup.higher := by
    rw [dialer, setup.dialerAddress_eq]
    exact fun same => String.lt_irrefl _ (same ▸ setup.lower_address_lt)
  have answer := register_known (setup.hello side.other setup.higher) (setup.number side setup.higher) held
    address life other
  rw [if_neg above] at answer
  obtain ⟨remote, own, kept⟩ := register_stage waiting stepped
  rw [answer] at remote own kept
  simp only [Bool.false_eq_true, if_false] at own
  simp only [reduceCtorEq, false_and, if_false, Pairing.higher_other] at kept
  constructor
  · rw [kept]
    exact resolving.kept
  · intro _
    refine ⟨?_, by rw [own]; simp⟩
    have known := (resolving.up up).1
    rw [Known] at known ⊢
    rw [remote]
    exact known
  · intro up'
    rw [own] at up'
    cases up'
  · intro cancelled
    rw [own] at cancelled
    cases cancelled
  · intro waits
    rw [kept, up] at waits
    cases waits

theorem resolving_register (resolving : p.Resolving setup side) {dialer : Side}
    (stepped : p.step setup (.register side dialer) = some q) : q.Resolving setup side := by
  have waiting : p.stage side dialer = .waiting := by
    rw [step] at stepped
    split at stepped
    · assumption
    · cases stepped
  rcases setup.lower_or_higher dialer with rfl | rfl
  · by_cases up : p.stage side setup.higher = .up
    · exact resolving_takeover resolving waiting stepped up
    · exact resolving_unknown waiting stepped resolving (resolving.neither waiting up)
  · rcases resolving.kept with lower | up
    · refine resolving_unknown waiting stepped resolving (resolving.neither lower ?_)
      rw [waiting]
      simp
    · exact resolving_refused resolving waiting stepped up

/-- The link that `dialer` dialed ends at the side, which knows the other as before. -/
theorem resolving_ended (resolving : p.Resolving setup side) (remote : q.remote side = p.remote side)
    (ended : q.stage side setup.higher = .ended) (kept : q.stage side setup.lower = p.stage side setup.lower)
    (notUp : p.stage side setup.higher ≠ .up) : q.Resolving setup side := by
  constructor
  · rw [kept]
    exact resolving.kept
  · intro up
    rw [kept] at up
    refine ⟨?_, by rw [ended]; simp⟩
    have known := (resolving.up up).1
    rw [Known] at known ⊢
    rw [remote]
    exact known
  · intro up
    rw [ended] at up
    cases up
  · intro cancelled
    rw [ended] at cancelled
    cases cancelled
  · intro waits _
    rw [kept] at waits
    rw [remote]
    exact resolving.neither waits notUp

theorem resolving_fail (each : ∀ side, p.Resolving setup side) {dialer : Side}
    (stepped : p.step setup (.fail side dialer) = some q) : q.Resolving setup side := by
  rw [step] at stepped
  split at stepped
  · rename_i closed
    cases stepped
    rcases setup.lower_or_higher dialer with rfl | rfl
    · -- the other side never closes the link of the lower address
      rcases (each side.other).kept with waits | up
      · rw [waits] at closed
        cases closed.2
      · rw [up] at closed
        cases closed.2
    · refine resolving_ended (each side) rfl (by simp [setStage]) ?_ (by rw [closed.1]; simp)
      simp [setStage, setup.higher_ne_lower.symm]
  · cases stepped

theorem linkDown_other {r : Remote} {machine : MachineId} {link : LinkId} {peer : Peer}
    (held : r.peers.get machine = some peer) (other : peer.link ≠ link) : r.linkDown machine link = r := by
  simp [Remote.linkDown, held, other]

theorem linkDown_current {r : Remote} {machine : MachineId} {peer : Peer} (held : r.peers.get machine = some peer) :
    (r.linkDown machine peer.link).peers.get machine = none := by
  simp [Remote.linkDown, held]

theorem resolving_linkDown (each : ∀ side, p.Resolving setup side) {dialer : Side}
    (stepped : p.step setup (.linkDown side dialer) = some q) : q.Resolving setup side := by
  rw [step] at stepped
  split at stepped
  · rename_i closing
    cases stepped
    rcases setup.lower_or_higher dialer with rfl | rfl
    · -- neither side ever cancels or closes the link of the lower address
      exfalso
      rcases closing with cancelled | ⟨_, ended⟩
      · rcases (each side).kept with waits | up
        · rw [waits] at cancelled
          cases cancelled
        · rw [up] at cancelled
          cases cancelled
      · rcases (each side.other).kept with waits | up
        · rw [waits] at ended
          cases ended
        · rw [up] at ended
          cases ended
    · have resolving := each side
      rcases closing with cancelled | ⟨up, _⟩
      · obtain ⟨peer, held, link, _⟩ := (resolving.up (resolving.cancelled cancelled)).1
        have same := linkDown_other held (link ▸ setup.number_ne side)
        refine resolving_ended resolving ?_ (by simp [setStage]) ?_ (by rw [cancelled]; simp)
        · simp [setStage, setRemote, same]
        · simp [setStage, setRemote, setup.higher_ne_lower.symm]
      · obtain ⟨peer, held, link, _⟩ := resolving.other up
        have lower : p.stage side setup.lower = .waiting := by
          rcases resolving.kept with waits | taken
          · exact waits
          · exact absurd up (resolving.up taken).2
        constructor
        · simp [setStage, setRemote, setup.higher_ne_lower.symm, lower]
        · simp [setStage, setRemote, setup.higher_ne_lower.symm, lower]
        · simp [setStage]
        · simp [setStage]
        · intro _ _
          have gone := linkDown_current held
          rw [link] at gone
          simpa [setStage, setRemote] using gone
  · cases stepped

/-- A step of one side leaves the other as it is. -/
theorem step_other {move : PairMove} (stepped : p.step setup move = some q) (other : move.side ≠ side) :
    q.remote side = p.remote side ∧ q.stage side = p.stage side := by
  have apart : ∀ s : Side, s ≠ side → ¬ side = s := fun s ne same => ne same.symm
  cases move with
  | register s dialer =>
      rw [step] at stepped
      split at stepped
      · cases stepped
        have ne : ¬ side = s := apart s other
        constructor
        · simp [setStage, cancel, setRemote, ne]
        · funext d
          simp [setStage, cancel, setRemote, ne]
      · cases stepped
  | fail s dialer =>
      rw [step] at stepped
      split at stepped
      · cases stepped
        have ne : ¬ side = s := apart s other
        refine ⟨rfl, ?_⟩
        funext d
        simp [setStage, ne]
      · cases stepped
  | linkDown s dialer =>
      rw [step] at stepped
      split at stepped
      · cases stepped
        have ne : ¬ side = s := apart s other
        constructor
        · simp [setStage, setRemote, ne]
        · funext d
          simp [setStage, setRemote, ne]
      · cases stepped

theorem resolving_step {move : PairMove} (each : ∀ side, p.Resolving setup side)
    (stepped : p.step setup move = some q) : ∀ side, q.Resolving setup side := by
  intro side
  by_cases own : move.side = side
  · cases move with
    | register s dialer =>
        subst own
        exact resolving_register (each _) stepped
    | fail s dialer =>
        subst own
        exact resolving_fail each stepped
    | linkDown s dialer =>
        subst own
        exact resolving_linkDown each stepped
  · obtain ⟨remote, stage⟩ := step_other stepped own
    exact (each side).congr remote stage

/-! ### Runs -/

theorem left_cancel {s : Side} {number : Option LinkId} (side dialer : Side) :
    ((p.cancel setup s number).stage side dialer).left ≤ (p.stage side dialer).left := by
  unfold cancel
  dsimp only
  split
  · rename_i cancelled
    rw [cancelled.1, cancelled.2.2]
    simp [LinkStage.left]
  · exact Nat.le_refl _

/-- A step takes one link of one side further, and no link back. -/
theorem step_left {move : PairMove} (stepped : p.step setup move = some q) :
    (∀ side dialer, (q.stage side dialer).left ≤ (p.stage side dialer).left) ∧
      (q.stage move.side move.dialer).left < (p.stage move.side move.dialer).left := by
  cases move with
  | register s d =>
      rw [step] at stepped
      split at stepped
      · rename_i waiting
        cases stepped
        constructor
        · intro side dialer
          simp only [setStage]
          split
          · rename_i own
            rw [own.1, own.2, waiting]
            split <;> simp [LinkStage.left]
          · exact left_cancel side dialer
        · simp only [PairMove.side, PairMove.dialer, setStage, and_self, if_true, waiting]
          split <;> simp [LinkStage.left]
      · cases stepped
  | fail s d =>
      rw [step] at stepped
      split at stepped
      · rename_i closed
        cases stepped
        constructor
        · intro side dialer
          simp only [setStage]
          split
          · exact Nat.zero_le _
          · exact Nat.le_refl _
        · simp [PairMove.side, PairMove.dialer, setStage, closed.1, LinkStage.left]
      · cases stepped
  | linkDown s d =>
      rw [step] at stepped
      split at stepped
      · rename_i closing
        cases stepped
        constructor
        · intro side dialer
          simp only [setStage, setRemote]
          split
          · exact Nat.zero_le _
          · exact Nat.le_refl _
        · rcases closing with cancelled | ⟨up, _⟩
          · simp [PairMove.side, PairMove.dialer, setStage, cancelled, LinkStage.left]
          · simp [PairMove.side, PairMove.dialer, setStage, up, LinkStage.left]
      · cases stepped

/-- What both sides still have to go through with both links. -/
def left (p : Pair) : Nat :=
  (p.stage .first .first).left + (p.stage .first .second).left + (p.stage .second .first).left +
    (p.stage .second .second).left

theorem left_step {move : PairMove} (stepped : p.step setup move = some q) : q.left < p.left := by
  obtain ⟨each, own⟩ := step_left stepped
  have one := each .first .first
  have two := each .first .second
  have three := each .second .first
  have four := each .second .second
  unfold left
  cases onSide : move.side <;> cases onLink : move.dialer <;> rw [onSide, onLink] at own <;> omega

theorem resolving_start {remote : Side → Remote}
    (unlinked : ∀ side, (remote side).peers.get (setup.machine side.other).machineId = none) :
    ∀ side, (start remote).Resolving setup side := by
  intro side
  constructor
  · exact .inl rfl
  · simp [start]
  · simp [start]
  · simp [start]
  · exact fun _ _ => unlinked side

theorem run_resolving {moves : List PairMove} (each : ∀ side, p.Resolving setup side)
    (ran : p.run setup moves = some q) : (∀ side, q.Resolving setup side) ∧ moves.length + q.left ≤ p.left := by
  induction moves generalizing p with
  | nil =>
      cases ran
      exact ⟨each, by simp⟩
  | cons move rest ih =>
      obtain ⟨mid, stepped, later⟩ := Option.bind_eq_some_iff.mp ran
      obtain ⟨resolving, shorter⟩ := ih (resolving_step each stepped) later
      have less := left_step stepped
      refine ⟨resolving, ?_⟩
      rw [List.length_cons]
      omega

/-- Where nothing is left to do, both sides are on the link of the lower address. -/
theorem settled_of_final (each : ∀ side, p.Resolving setup side) (final : ∀ move, p.step setup move = none) :
    p.Settled setup setup.lower := by
  intro side
  have resolving := each side
  have registered : ∀ dialer, p.stage side dialer ≠ .waiting := by
    intro dialer waits
    have enabled := final (.register side dialer)
    simp [step, waits] at enabled
  have ended : p.stage side setup.higher ≠ .cancelled := by
    intro cancelled
    have enabled := final (.linkDown side setup.higher)
    simp [step, cancelled] at enabled
  rcases resolving.kept with waits | up
  · exact absurd waits (registered _)
  · refine ⟨up, (resolving.up up).1, ?_⟩
    have notUp := (resolving.up up).2
    have waited := registered setup.higher
    change p.stage side setup.higher = .ended
    cases stage : p.stage side setup.higher with
    | waiting => exact absurd stage waited
    | up => exact absurd stage notUp
    | cancelled => exact absurd stage ended
    | ended => rfl

/-- However the two sides' steps with the two links interleave, the link dialed by the lower address is never torn
down, and after at most twelve steps nothing is left to do and both sides are on it. -/
theorem duplicate_links_resolve (setup : Pairing) (remote : Side → Remote)
    (unlinked : ∀ side, (remote side).peers.get (setup.machine side.other).machineId = none)
    {moves : List PairMove} {p : Pair} (ran : (start remote).run setup moves = some p) :
    moves.length ≤ 12 ∧ ¬ p.TornDown setup.lower ∧
      ((∀ move, p.step setup move = none) → p.Settled setup setup.lower) := by
  obtain ⟨each, shorter⟩ := run_resolving (resolving_start unlinked) ran
  refine ⟨?_, ?_, settled_of_final each⟩
  · have twelve : (start remote).left = 12 := rfl
    omega
  · rintro ⟨side, torn⟩
    rcases (each side).kept with waits | up
    · rw [waits] at torn
      rcases torn with cancelled | ended
      · cases cancelled
      · cases ended
    · rw [up] at torn
      rcases torn with cancelled | ended
      · cases cancelled
      · cases ended

end Steps

/-! ### A run -/

def samplePairing : Pairing where
  machine := fun side => match side with
    | .first => { machineId := "a", region := "", address := "10.0.0.1:7000", epoch := 1, startedAt := 0 }
    | .second => { machineId := "b", region := "", address := "10.0.0.2:7000", epoch := 2, startedAt := 0 }
  number := fun _ dialer => match dialer with
    | .first => 1
    | .second => 2
  draining := fun _ _ => false
  apart := by decide
  numbered := by
    intro side
    decide

/-- Each side registers the other's link first, and both have the link of the lower address in the end. -/
def crossed : List PairMove :=
  [.register .first .second, .register .second .first, .register .first .first, .linkDown .first .second,
   .register .second .second]

theorem duplicate_links_resolve_crossed :
    ∃ p, (start fun _ => { peers := Table.empty, index := Table.empty }).run samplePairing crossed = some p ∧
      (∀ move, p.step samplePairing move = none) ∧ p.Settled samplePairing .first := by
  have seen : ((start fun _ => { peers := Table.empty, index := Table.empty }).run samplePairing crossed).map
      (fun p => [p.stage .first .first, p.stage .first .second, p.stage .second .first, p.stage .second .second]) =
        some [.up, .ended, .up, .ended] := by decide +kernel
  obtain ⟨p, ran, seen⟩ := Option.map_eq_some_iff.mp seen
  simp only [List.cons.injEq, and_true] at seen
  obtain ⟨one, two, three, four⟩ := seen
  have final : ∀ move, p.step samplePairing move = none := by
    intro move
    cases move with
    | register side dialer => cases side <;> cases dialer <;> simp [step, one, two, three, four]
    | fail side dialer => cases side <;> cases dialer <;> simp [step, one, two, three, four]
    | linkDown side dialer => cases side <;> cases dialer <;> simp [step, Side.other, one, two, three, four]
  obtain ⟨_, _, settled⟩ := duplicate_links_resolve samplePairing _ (fun _ => rfl) ran
  exact ⟨p, ran, final, settled final⟩

end Pair

end OpenTunnel.Mesh
