/-
Module: OpenTunnel.Proofs.Announcements
Layer: Proofs
Purpose: The mesh's table of a machine mirrors its bridges. A bridge is announced when its session attaches it, and
  taken out when it closes or is retired. Retiring names the tunnel by the entry's cached record, so a bridge that
  is retired while the entry has forgotten its record stays announced, and its session, which finds it detached,
  does not make up for it. In every run in which each retired bridge finds the record cached, the table holds
  exactly the attached bridges.
Imports: OpenTunnel.Proofs.Revisions
Trusted boundary: none (fully proved)
Main exports: Mirrored, bridgeRules, RetiresUnnamed, announcements_mirror_bridges
Open obligations: none
-/
import OpenTunnel.Proofs.Revisions

namespace OpenTunnel

open Tasks Semantics

/-! ### The invariant -/

/-- The mesh's table has the bridge, with this tunnel and these routes. -/
def World.Announces (w : World) (m : MachineId) (b : BridgeId) (id : TunnelId) (routes : List String) : Prop :=
  ∃ at_, w.announced m b = some ⟨id, routes, at_⟩

/-- The bridge is one of the tunnel's, attached and not detached, with these routes. -/
def World.Serves (w : World) (m : MachineId) (b : BridgeId) (id : TunnelId) (routes : List String) : Prop :=
  b ∈ (w.entry m id).bridges ∧
    ∃ bridge, w.bridge m b = some bridge ∧ bridge.isAttached = true ∧ bridge.routes = routes

structure Mirrored (setup : Setup) (w : World) : Prop where
  mirror : ∀ m, setup.clustered m = true → ∀ b id routes, w.Announces m b id routes ↔ w.Serves m b id routes
  home : ∀ m b id id', b ∈ (w.entry m id).bridges → b ∈ (w.entry m id').bridges → id = id'
  fresh : ∀ m b, (w.machine m).nextBridge ≤ b → w.bridge m b = none ∧ ∀ id, b ∉ (w.entry m id).bridges

theorem World.Started.mirrored {w : World} (started : w.Started) (setup : Setup) : Mirrored setup w where
  mirror := by
    intro m _ b id routes
    simp [World.Announces, World.Serves, World.announced, started.cold m id, started.machines m]
  home := by
    intro m b id id' listed
    simp [started.cold m id] at listed
  fresh := by
    intro m b _
    refine ⟨by simp [World.bridge, started.machines m], fun id => ?_⟩
    simp [started.cold m id]

/-! ### What sessions rely on -/

/-- The session's bridge is registered and not attached yet. -/
def World.Waiting (w : World) (t : Task) (id : TunnelId) (b : BridgeId) : Prop :=
  b ∈ (w.entry t.machine id).bridges ∧
    ∃ bridge, w.bridge t.machine b = some bridge ∧ bridge.owner = t ∧ bridge.attached = false ∧
      bridge.detached = false

def World.Owned (w : World) (t : Task) (b : BridgeId) : Prop :=
  ∃ bridge, w.bridge t.machine b = some bridge ∧ bridge.owner = t

/-- A session's bridge stays its own, and waits until the session attaches it. -/
def World.Leaves (w w' : World) (t : Task) : Prop :=
  (∀ id b, w.Waiting t id b → w'.Waiting t id b) ∧ ∀ b, w.Owned t b → w'.Owned t b

def bridgeRules (setup : Setup) : Rules Task World where
  inv := Mirrored setup
  rely := fun t w w' => w.Leaves w' t

/-- Silent bridges are retired while the entry caches no record to name their tunnel by. -/
def RetiresUnnamed (setup : Setup) (t : Task) (op : Act) (w : World) : Prop :=
  match op with
  | .retireStale id => setup.clustered t.machine = true ∧ (w.entry t.machine id).record = none ∧
      w.staleBridges t.machine id ≠ []
  | _ => False

/-- The runs in which that does not happen. -/
def retiringNamed (setup : Setup) (job : Task → Operation) : Assumptions (system setup) where
  start := fun t op _ => op = job t
  call := fun t op _ w => ¬ RetiresUnnamed setup t op w

instance (setup : Setup) (t : Task) (op : Act) (w : World) : Decidable (RetiresUnnamed setup t op w) := by
  unfold RetiresUnnamed
  split <;> infer_instance

instance (setup : Setup) (job : Task → Operation) : (retiringNamed setup job).Checkable where
  start := fun t op _ => inferInstanceAs (Decidable (op = job t))
  call := fun t op _ w => inferInstanceAs (Decidable (¬ RetiresUnnamed setup t op w))
  move := fun _ _ => inferInstanceAs (Decidable True)

/-! ### One act -/

section Steps

variable {setup : Setup} {t t' : Task} {op : Act} {c : Choice} {w w' : World} {ans : op.Ans} {id : TunnelId}
  {b : BridgeId}

theorem SameBridges.leaves (same : SameBridges w w') (t : Task) : w.Leaves w' t := by
  constructor
  · rintro id b ⟨listed, bridge, found, owner, attached, detached⟩
    rcases same.kept t.machine b with ⟨missing, -⟩ | ⟨old, new, before, after, kept⟩
    · rw [missing] at found
      cases found
    · rw [before] at found
      cases found
      refine ⟨by rwa [same.listed], new, after, ?_⟩
      exact ⟨kept.owner.trans owner, kept.attached.trans attached, kept.detached.trans detached⟩
  · rintro b ⟨bridge, found, owner⟩
    rcases same.kept t.machine b with ⟨missing, -⟩ | ⟨old, new, before, after, kept⟩
    · rw [missing] at found
      cases found
    · rw [before] at found
      cases found
      exact ⟨new, after, kept.owner.trans owner⟩

theorem SameBridges.serves (same : SameBridges w w') {m : MachineId} {routes : List String} :
    w'.Serves m b id routes ↔ w.Serves m b id routes := by
  unfold World.Serves
  rw [same.listed]
  rcases same.kept m b with ⟨before, after⟩ | ⟨old, new, before, after, kept⟩
  · simp [before, after]
  · simp [before, after, kept.isAttached, kept.routes]

theorem Mirrored.same (inv : Mirrored setup w) (same : SameBridges w w') : Mirrored setup w' where
  mirror := by
    intro m clustered b id routes
    rw [same.serves, ← inv.mirror m clustered]
    unfold World.Announces
    rw [same.announced]
  home := by
    intro m b id id'
    rw [same.listed, same.listed]
    exact inv.home m b id id'
  fresh := by
    intro m b unused
    rw [same.next] at unused
    obtain ⟨missing, unlisted⟩ := inv.fresh m b unused
    refine ⟨?_, fun id => by rw [same.listed]; exact unlisted id⟩
    rcases same.kept m b with ⟨-, after⟩ | ⟨old, new, before, -, -⟩
    · exact after
    · rw [missing] at before
      cases before

/-- A registered bridge is not the next one. -/
theorem Mirrored.used (inv : Mirrored setup w) {m : MachineId} {bridge : Bridge}
    (found : w.bridge m b = some bridge) : b ≠ (w.machine m).nextBridge := by
  rintro rfl
  rw [(inv.fresh m _ (Nat.le_refl _)).1] at found
  cases found

theorem Mirrored.register (inv : Mirrored setup w) : Mirrored setup (w.registerBridge t id) where
  mirror := by
    intro m clustered b id' routes
    have before := inv.mirror m clustered b id' routes
    unfold World.Announces World.Serves at before ⊢
    simp only [World.announced_registerBridge, World.entry_registerBridge, World.bridge_registerBridge]
    rw [before]
    by_cases new : m = t.machine ∧ b = (w.machine t.machine).nextBridge
    · -- the new bridge is neither announced nor attached
      obtain ⟨rfl, rfl⟩ := new
      have unlisted := (inv.fresh t.machine _ (Nat.le_refl _)).2 id'
      constructor
      · rintro ⟨listed, -⟩
        exact absurd listed unlisted
      · rintro ⟨-, bridge, found, attached, -⟩
        simp only [and_self, if_true, Option.some.injEq] at found
        rw [← found] at attached
        split at attached <;> simp [Bridge.isAttached, Bridge.close] at attached
    · rw [if_neg new]
      by_cases here : m = t.machine ∧ id' = id
      · obtain ⟨rfl, rfl⟩ := here
        have other : b ≠ (w.machine t.machine).nextBridge := fun same => new ⟨rfl, same⟩
        simp [other]
      · rw [if_neg here]
  home := by
    intro m b id₁ id₂
    simp only [World.entry_registerBridge]
    -- the new bridge is listed only where it was added
    have apart {id' : TunnelId} : (w.machine t.machine).nextBridge ∉ (w.entry t.machine id').bridges :=
      (inv.fresh t.machine _ (Nat.le_refl _)).2 id'
    split
    · rename_i first
      split
      · rename_i second
        intro _ _
        rw [first.2, second.2]
      · intro listed listed'
        obtain ⟨rfl, rfl⟩ := first
        rcases List.mem_append.mp listed with old | new
        · exact inv.home _ b _ _ old listed'
        · rw [List.mem_singleton.mp new] at listed'
          exact absurd listed' apart
    · split
      · rename_i second
        intro listed listed'
        obtain ⟨rfl, rfl⟩ := second
        rcases List.mem_append.mp listed' with old | new
        · exact inv.home _ b _ _ listed old
        · rw [List.mem_singleton.mp new] at listed
          exact absurd listed apart
      · exact inv.home m b id₁ id₂
  fresh := by
    intro m b unused
    rw [World.nextBridge_registerBridge] at unused
    by_cases here : m = t.machine
    · subst here
      simp only [if_true] at unused
      obtain ⟨missing, unlisted⟩ := inv.fresh t.machine b (Nat.le_of_succ_le unused)
      have other : b ≠ (w.machine t.machine).nextBridge := Nat.ne_of_gt unused
      refine ⟨by simp [other, missing], fun id' => ?_⟩
      rw [World.entry_registerBridge]
      split
      · simp [unlisted id, other]
      · exact unlisted id'
    · simp only [here, if_false] at unused
      obtain ⟨missing, unlisted⟩ := inv.fresh m b unused
      refine ⟨by simp [here, missing], fun id' => ?_⟩
      rw [World.entry_registerBridge, if_neg (fun same => here same.1)]
      exact unlisted id'

theorem Mirrored.leaves_register (inv : Mirrored setup w) (t' : Task) : w.Leaves (w.registerBridge t id) t' := by
  constructor
  · rintro id' b ⟨listed, bridge, found, owner, attached, detached⟩
    have old : ¬ (t'.machine = t.machine ∧ b = (w.machine t.machine).nextBridge) := by
      rintro ⟨here, rfl⟩
      exact inv.used found (by rw [here])
    refine ⟨?_, bridge, by rw [World.bridge_registerBridge, if_neg old]; exact found, owner, attached, detached⟩
    rw [World.entry_registerBridge]
    split
    · rename_i here
      rw [here.1, here.2] at listed
      exact List.mem_append_left _ listed
    · exact listed
  · rintro b ⟨bridge, found, owner⟩
    have old : ¬ (t'.machine = t.machine ∧ b = (w.machine t.machine).nextBridge) := by
      rintro ⟨here, rfl⟩
      exact inv.used found (by rw [here])
    exact ⟨bridge, by rw [World.bridge_registerBridge, if_neg old]; exact found, owner⟩

theorem waiting_register (w : World) (t : Task) (id : TunnelId) :
    (w.registerBridge t id).Waiting t id (w.machine t.machine).nextBridge := by
  refine ⟨by simp, ?_⟩
  simp only [World.bridge_registerBridge, and_self, if_true]
  split <;> exact ⟨_, rfl, rfl, rfl, rfl⟩

/-- A bridge that is retired was attached. -/
theorem stale_attached {m : MachineId} (stale : b ∈ w.staleBridges m id) :
    b ∈ (w.entry m id).bridges ∧ ∃ bridge, w.bridge m b = some bridge ∧ bridge.isAttached = true := by
  unfold World.staleBridges at stale
  obtain ⟨listed, silent⟩ := List.mem_filter.mp stale
  refine ⟨listed, ?_⟩
  unfold World.isStale at silent
  cases found : (w.machine m).bridges b with
  | none => simp [found] at silent
  | some bridge =>
      simp only [found, Option.any_some, Bool.and_eq_true] at silent
      exact ⟨bridge, found, silent.1⟩

theorem Mirrored.retire (inv : Mirrored setup w)
    (named : ¬ RetiresUnnamed setup t (.retireStale id) w) : Mirrored setup (w.retireStale setup t.machine id) where
  mirror := by
    intro m clustered b id' routes
    have before := inv.mirror m clustered b id' routes
    unfold World.Announces World.Serves at before ⊢
    rw [World.announced_retireStale, World.bridge_retireStale, World.entry_retireStale]
    by_cases gone : m = t.machine ∧ b ∈ w.staleBridges t.machine id
    · -- a retired bridge is taken out of the table, since the entry names its tunnel
      obtain ⟨rfl, stale⟩ := gone
      have cached : (w.entry t.machine id).record.isSome = true := by
        cases found : (w.entry t.machine id).record with
        | none => exact absurd ⟨clustered, found, List.ne_nil_of_mem stale⟩ named
        | some record => rfl
      rw [if_pos ⟨rfl, stale, cached, clustered⟩, if_pos ⟨rfl, stale⟩]
      constructor
      · rintro ⟨at_, found⟩
        cases found
      · rintro ⟨-, bridge, found, attached, -⟩
        obtain ⟨old, -, rfl⟩ := Option.map_eq_some_iff.mp found
        simp [Bridge.isAttached, Bridge.close, Bridge.finishChannels] at attached
    · rw [if_neg fun found => gone ⟨found.1, found.2.1⟩, if_neg gone]
      exact before
  home := by
    intro m b id₁ id₂
    rw [World.entry_retireStale, World.entry_retireStale]
    exact inv.home m b id₁ id₂
  fresh := by
    intro m b unused
    rw [World.nextBridge_retireStale] at unused
    obtain ⟨missing, unlisted⟩ := inv.fresh m b unused
    refine ⟨?_, fun id' => by rw [World.entry_retireStale]; exact unlisted id'⟩
    rw [World.bridge_retireStale, missing]
    split <;> rfl

theorem leaves_retire (w : World) (t t' : Task) (id : TunnelId) :
    w.Leaves (w.retireStale setup t.machine id) t' := by
  constructor
  · rintro id' b ⟨listed, bridge, found, owner, attached, detached⟩
    have kept : ¬ (t'.machine = t.machine ∧ b ∈ w.staleBridges t.machine id) := by
      rintro ⟨here, stale⟩
      obtain ⟨-, bridge', found', attached'⟩ := stale_attached stale
      rw [here, found'] at found
      cases found
      simp [Bridge.isAttached, attached] at attached'
    refine ⟨by rw [World.entry_retireStale]; exact listed, bridge, ?_, owner, attached, detached⟩
    rw [World.bridge_retireStale, if_neg kept]
    exact found
  · rintro b ⟨bridge, found, owner⟩
    unfold World.Owned
    rw [World.bridge_retireStale]
    split
    · exact ⟨_, congrArg _ found, owner⟩
    · exact ⟨bridge, found, owner⟩

section Attach

variable {session : String} {routes : List String} {maxConns : Option Nat} {now : Nat}

theorem Mirrored.attach (inv : Mirrored setup w) (waiting : w.Waiting t id b) :
    Mirrored setup (w.attachBridge setup t.machine id b session routes maxConns now) where
  mirror := by
    intro m clustered b' id' routes'
    have before := inv.mirror m clustered b' id' routes'
    unfold World.Announces World.Serves at before ⊢
    rw [World.announced_attachBridge, World.bridge_attachBridge, World.entry_attachBridge]
    obtain ⟨listed, bridge, found, -, -, detached⟩ := waiting
    by_cases new : m = t.machine ∧ b' = b
    · obtain ⟨rfl, rfl⟩ := new
      rw [if_pos ⟨rfl, rfl, clustered⟩, if_pos ⟨rfl, rfl⟩, found]
      constructor
      · rintro ⟨at_, shown⟩
        cases shown
        exact ⟨listed, _, rfl, by simp [Bridge.isAttached, detached], rfl⟩
      · rintro ⟨listed', bridge', same, -, routed⟩
        cases same
        rw [inv.home _ _ _ _ listed' listed, ← routed]
        exact ⟨now, rfl⟩
    · rw [if_neg fun same => new ⟨same.1, same.2.1⟩, if_neg new]
      exact before
  home := by
    intro m b id₁ id₂
    rw [World.entry_attachBridge, World.entry_attachBridge]
    exact inv.home m b id₁ id₂
  fresh := by
    intro m b' unused
    rw [World.nextBridge_attachBridge] at unused
    obtain ⟨missing, unlisted⟩ := inv.fresh m b' unused
    refine ⟨?_, fun id' => by rw [World.entry_attachBridge]; exact unlisted id'⟩
    rw [World.bridge_attachBridge, missing]
    split <;> rfl

/-- Attaching its own bridge, a session leaves those of others alone. -/
theorem leaves_attach (waiting : w.Waiting t id b) (other : t' ≠ t) :
    w.Leaves (w.attachBridge setup t.machine id b session routes maxConns now) t' := by
  obtain ⟨-, mine, mineFound, mineOwner, -, -⟩ := waiting
  have apart {b' : BridgeId} {bridge : Bridge} (found : w.bridge t'.machine b' = some bridge)
      (owner : bridge.owner = t') : ¬ (t'.machine = t.machine ∧ b' = b) := by
    rintro ⟨here, rfl⟩
    rw [here, mineFound] at found
    cases found
    exact other (owner.symm.trans mineOwner)
  constructor
  · rintro id' b' ⟨listed, bridge, found, owner, attached, detached⟩
    refine ⟨by rw [World.entry_attachBridge]; exact listed, bridge, ?_, owner, attached, detached⟩
    rw [World.bridge_attachBridge, if_neg (apart found owner)]
    exact found
  · rintro b' ⟨bridge, found, owner⟩
    refine ⟨bridge, ?_, owner⟩
    rw [World.bridge_attachBridge, if_neg (apart found owner)]
    exact found

theorem owned_attach (owned : w.Owned t b) :
    (w.attachBridge setup t.machine id b session routes maxConns now).Owned t b := by
  obtain ⟨bridge, found, owner⟩ := owned
  unfold World.Owned
  rw [World.bridge_attachBridge, if_pos ⟨rfl, rfl⟩, found]
  exact ⟨_, rfl, owner⟩

end Attach

theorem Mirrored.close (inv : Mirrored setup w) : Mirrored setup (w.closedBridge setup t.machine id b) where
  mirror := by
    intro m clustered b' id' routes'
    have before := inv.mirror m clustered b' id' routes'
    unfold World.Announces World.Serves at before ⊢
    rw [World.announced_closedBridge, World.bridge_closedBridge, World.entry_closedBridge]
    by_cases gone : m = t.machine ∧ b' = b ∧ (w.bridge t.machine b).any (·.isAttached) = true
    · obtain ⟨rfl, rfl, attached⟩ := gone
      simp only [attached, clustered, and_self, if_true]
      constructor
      · rintro ⟨at_, shown⟩
        cases shown
      · rintro ⟨-, bridge, found, attached', -⟩
        obtain ⟨old, -, rfl⟩ := Option.map_eq_some_iff.mp found
        simp [Bridge.isAttached, Bridge.finishChannels] at attached'
    · rw [if_neg fun found => gone ⟨found.1, found.2.1, found.2.2.1⟩, if_neg gone, before]
      by_cases here : m = t.machine ∧ id' = id
      · obtain ⟨rfl, rfl⟩ := here
        rw [if_pos ⟨rfl, rfl⟩]
        constructor
        · rintro ⟨listed, bridge, found, attached, routed⟩
          have other : b' ≠ b := by
            rintro rfl
            exact gone ⟨rfl, rfl, by simp [found, attached]⟩
          exact ⟨List.mem_filter.mpr ⟨listed, by simpa using other⟩, bridge, found, attached, routed⟩
        · rintro ⟨listed, rest⟩
          exact ⟨(List.mem_filter.mp listed).1, rest⟩
      · rw [if_neg here]
  home := by
    intro m b' id₁ id₂ listed listed'
    have old {id' : TunnelId} (listed : b' ∈ ((w.closedBridge setup t.machine id b).entry m id').bridges) :
        b' ∈ (w.entry m id').bridges := by
      rw [World.entry_closedBridge] at listed
      split at listed
      · rename_i here
        rw [here.1, here.2]
        exact (List.mem_filter.mp listed).1
      · exact listed
    exact inv.home m b' id₁ id₂ (old listed) (old listed')
  fresh := by
    intro m b' unused
    rw [World.nextBridge_closedBridge] at unused
    obtain ⟨missing, unlisted⟩ := inv.fresh m b' unused
    constructor
    · rw [World.bridge_closedBridge, missing]
      split <;> rfl
    · intro id'
      rw [World.entry_closedBridge]
      split
      · rename_i here
        rw [here.1] at unlisted
        exact fun listed => unlisted id (List.mem_filter.mp listed).1
      · exact unlisted id'

theorem leaves_close (owned : w.Owned t b) (other : t' ≠ t) :
    w.Leaves (w.closedBridge setup t.machine id b) t' := by
  obtain ⟨mine, mineFound, mineOwner⟩ := owned
  have apart {b' : BridgeId} {bridge : Bridge} (found : w.bridge t'.machine b' = some bridge)
      (owner : bridge.owner = t') : ¬ (t'.machine = t.machine ∧ b' = b) := by
    rintro ⟨here, rfl⟩
    rw [here, mineFound] at found
    cases found
    exact other (owner.symm.trans mineOwner)
  have kept {b' : BridgeId} {bridge : Bridge} (found : w.bridge t'.machine b' = some bridge)
      (owner : bridge.owner = t') : (w.closedBridge setup t.machine id b).bridge t'.machine b' = some bridge := by
    rw [World.bridge_closedBridge, if_neg fun same => apart found owner ⟨same.1, same.2.1⟩]
    exact found
  constructor
  · rintro id' b' ⟨listed, bridge, found, owner, attached, detached⟩
    refine ⟨?_, bridge, kept found owner, owner, attached, detached⟩
    rw [World.entry_closedBridge]
    split
    · rename_i here
      rw [here.1, here.2] at listed
      have different : b' ≠ b := fun same => apart found owner ⟨here.1, same⟩
      exact List.mem_filter.mpr ⟨listed, by simpa using different⟩
    · exact listed
  · rintro b' ⟨bridge, found, owner⟩
    exact ⟨bridge, kept found owner, owner⟩

end Steps

/-! ### Programs -/

section Programs

variable {setup : Setup} {job : Task → Operation} {t : Task} {w w' : World} {id : TunnelId} {b : BridgeId}

/-- Any act but a session's own attach and close leaves every session's bridge alone. -/
theorem Mirrored.step {op : Act} {c : Choice} {ans : op.Ans} (inv : Mirrored setup w)
    (named : ¬ RetiresUnnamed setup t op w) (h : (system setup).exec t op c w = some (ans, w'))
    (attaches : op.tag ≠ .attach) (closes : op.tag ≠ .closed) :
    Mirrored setup w' ∧ ∀ t', w.Leaves w' t' := by
  cases exec_bridges h with
  | same same => exact ⟨inv.same same, same.leaves⟩
  | registered id is held after =>
      subst after
      exact ⟨inv.register, inv.leaves_register⟩
  | retired id is held after =>
      subst is after
      exact ⟨inv.retire named, fun t' => leaves_retire w t t' id⟩
  | attached id b session routes maxConns now is held after =>
      subst is
      exact absurd rfl attaches
  | closed id b is held after =>
      subst is
      exact absurd rfl closes

/-- What a session knows of its own bridge, as long as it neither attaches nor closes it. -/
def Kept (t : Task) (P : World → Prop) : Prop := ∀ w w', w.Leaves w' t → P w → P w'

theorem Kept.stable {P : World → Prop} (kept : Kept t P) : (bridgeRules setup).Stable t P :=
  fun w w' _ leaves holds => kept w w' leaves holds

theorem kept_waiting (t : Task) (id : TunnelId) (b : BridgeId) : Kept t fun w => w.Waiting t id b :=
  fun _ _ leaves waiting => leaves.1 id b waiting

theorem kept_owned (t : Task) (b : BridgeId) : Kept t fun w => w.Owned t b :=
  fun _ _ leaves owned => leaves.2 b owned

theorem safe_of_kept {α : Type} {p : Call α} {tags : List Tag} {P : World → Prop} (uses : Uses tags p)
    (attaches : Tag.attach ∉ tags) (closes : Tag.closed ∉ tags) (kept : Kept t P) (holds : P w) :
    (bridgeRules setup).Safe (retiringNamed setup job) t p (fun _ w' => P w') w := by
  refine Rules.safe_of_all kept.stable ?_ uses.all holds
  intro op c w ans w' tagged inv before named executed
  obtain ⟨after, leaves⟩ := inv.step named executed (fun same => attaches (same ▸ tagged))
    (fun same => closes (same ▸ tagged))
  exact ⟨⟨after, fun t' _ => leaves t'⟩, kept w w' (leaves t) before⟩

theorem safe_act_of_kept {op : Act} {P : World → Prop} (attaches : op.tag ≠ .attach) (closes : op.tag ≠ .closed)
    (kept : Kept t P) (holds : P w) :
    (bridgeRules setup).Safe (retiringNamed setup job) t (act op) (fun _ w' => P w') w := by
  have uses : Uses [op.tag] (act op) := uses_act HasTag.head
  exact safe_of_kept uses (by simpa using attaches.symm) (by simpa using closes.symm) kept holds

/-- A call in a fallible program that keeps what the session knows. -/
theorem safe_step {op : Act} {α : Type} {f : op.Ans → Fallible α} {Q : Except Err α → World → Prop}
    {P : World → Prop} (attaches : op.tag ≠ .attach) (closes : op.tag ≠ .closed) (kept : Kept t P) (holds : P w)
    (rest : ∀ ans w', P w' → (bridgeRules setup).Safe (retiringNamed setup job) t (f ans).run Q w') :
    (bridgeRules setup).Safe (retiringNamed setup job) t ((liftM (act op) : Fallible op.Ans) >>= f).run Q w :=
  Rules.safe_liftBind (Rules.safe_mono (safe_act_of_kept attaches closes kept holds) rest)

/-- Dropping the guard at the end changes nothing a session relies on. -/
theorem safe_holding {α : Type} {body : Fallible α} {Q : Except Err α → World → Prop}
    (kept : ∀ result, Kept t (Q result)) (safe : (bridgeRules setup).Safe (retiringNamed setup job) t body.run Q w) :
    (bridgeRules setup).Safe (retiringNamed setup job) t (holding id body).run Q w := by
  refine Rules.safe_bind (Rules.safe_mono safe ?_)
  intro result w' ends
  refine Rules.safe_bind (Rules.safe_mono
    (safe_act_of_kept (by simp [Act.tag]) (by simp [Act.tag]) (kept result) ends) ?_)
  intro _ _ ends
  exact ends

/-- A bridge that was registered waits for its session. -/
theorem registerBridge_safe (w : World) :
    (bridgeRules setup).Safe (retiringNamed setup job) t (registerBridge setup t.machine id).run
      (fun result w' => ∀ b, result = .ok (some b) → w'.Waiting t id b) w := by
  unfold registerBridge
  have always : Kept t fun _ => True := fun _ _ _ _ => trivial
  have locks : Uses [.look, .read] (lockRoutable setup t.machine id).run := obeys_run inferInstance
  refine Rules.safe_exceptBind (Rules.safe_mono
    (safe_of_kept locks (by decide) (by decide) always trivial) ?_)
  intro result w₁ _
  cases result with
  | error err => simp
  | ok _ =>
  refine safe_holding ?_ ?_
  · intro result w w' leaves waiting b is
    exact leaves.1 id b (waiting b is)
  · refine safe_step (by simp [Act.tag]) (by simp [Act.tag]) always trivial fun e w₂ _ => ?_
    split
    · intro b is
      cases is
    · refine Rules.safe_liftBind (Rules.safe_act fun w₃ _ inv₃ c b w₄ named executed => ?_)
      obtain ⟨inv₄, leaves⟩ := inv₃.step named executed (by simp [Act.tag]) (by simp [Act.tag])
      refine ⟨⟨inv₄, fun t' _ => leaves t'⟩, ?_⟩
      simp only [system, exec] at executed
      obtain ⟨-, run⟩ := World.onEntry_spec executed
      cases run
      intro b is
      cases is
      exact waiting_register w₃ t id

/-- An attach leaves the bridge waiting unless it answers that it attached it. -/
theorem attach_safe {token : String} {routes : List String} {maxConns : Option Nat} (waiting : w.Waiting t id b) :
    (bridgeRules setup).Safe (retiringNamed setup job) t (attach setup t.machine id b token routes maxConns).run
      (fun result w' => w'.Owned t b ∧
        ((∀ session routes alarm, result ≠ .ok (.attached session routes alarm)) → w'.Waiting t id b)) w := by
  have owns {w : World} (waiting : w.Waiting t id b) : w.Owned t b := by
    obtain ⟨-, bridge, found, owner, -⟩ := waiting
    exact ⟨bridge, found, owner⟩
  have waits (w : World) (waiting : w.Waiting t id b) (result : Except Err Attach) : w.Owned t b ∧
      ((∀ session routes alarm, result ≠ .ok (.attached session routes alarm)) → w.Waiting t id b) :=
    ⟨owns waiting, fun _ => waiting⟩
  unfold attach
  have locks : Uses [.look, .read] (lockForAttach setup t.machine id).run := obeys_run inferInstance
  refine Rules.safe_exceptBind (Rules.safe_mono
    (safe_of_kept locks (by decide) (by decide) (kept_waiting t id b) waiting) ?_)
  intro result w₁ waiting₁
  cases result with
  | error err => exact waits w₁ waiting₁ _
  | ok alarm =>
  refine safe_holding ?_ ?_
  · intro result w w' leaves holds
    exact ⟨leaves.2 b holds.1, fun refused => leaves.1 id b (holds.2 refused)⟩
  have attaches (w : World) (waiting : w.Waiting t id b) :
      (bridgeRules setup).Safe (retiringNamed setup job) t (do
        let now ← act .now
        let session := "sess_" ++ (← act .uuid)
        act (.attachBridge id b session routes maxConns now)
        return .attached session routes alarm : Fallible Attach).run
        (fun result w' => w'.Owned t b ∧
          ((∀ session routes alarm, result ≠ .ok (.attached session routes alarm)) → w'.Waiting t id b)) w := by
    refine safe_step (by simp [Act.tag]) (by simp [Act.tag]) (kept_waiting t id b) waiting fun now w₂ waiting₂ => ?_
    refine safe_step (by simp [Act.tag]) (by simp [Act.tag]) (kept_waiting t id b) waiting₂ fun name w₃ waiting₃ => ?_
    refine Rules.safe_liftBind (Rules.safe_act fun w₄ drift inv₄ c _ w₅ _ executed => ?_)
    have waiting₄ := (kept_waiting t id b).stable.drift drift waiting₃
    simp only [system, exec] at executed
    obtain ⟨-, run⟩ := World.onEntry_spec executed
    cases run
    refine ⟨⟨inv₄.attach waiting₄, fun t' other => leaves_attach waiting₄ other⟩, ?_⟩
    exact ⟨owned_attach (owns waiting₄), fun refused => absurd rfl (refused _ _ _)⟩
  unfold attachLocked
  refine safe_step (by simp [Act.tag]) (by simp [Act.tag]) (kept_waiting t id b) waiting₁ fun e w₂ waiting₂ => ?_
  split
  · exact waits w₂ waiting₂ _
  split
  · exact waits w₂ waiting₂ _
  refine safe_step (by simp [Act.tag]) (by simp [Act.tag]) (kept_waiting t id b) waiting₂ fun _ w₃ waiting₃ => ?_
  refine safe_step (by simp [Act.tag]) (by simp [Act.tag]) (kept_waiting t id b) waiting₃ fun bridges w₄ waiting₄ => ?_
  dsimp only
  split
  · exact waits w₄ waiting₄ _
  split
  · exact waits w₄ waiting₄ _
  split
  · refine safe_step (by simp [Act.tag]) (by simp [Act.tag]) (kept_waiting t id b) waiting₄ fun held w₅ waiting₅ => ?_
    split
    · exact waits w₅ waiting₅ _
    · exact attaches w₅ waiting₅
  · exact attaches w₄ waiting₄

theorem attachUntil_safe (requests : List AttachRequest) (w : World) (waiting : w.Waiting t id b) :
    (bridgeRules setup).Safe (retiringNamed setup job) t (attachUntil setup t.machine id b requests)
      (fun _ w' => w'.Owned t b) w := by
  induction requests generalizing w with
  | nil =>
      obtain ⟨-, bridge, found, owner, -⟩ := waiting
      exact ⟨bridge, found, owner⟩
  | cons request rest ih =>
      unfold attachUntil
      refine Rules.safe_bind (Rules.safe_mono (attach_safe waiting) ?_)
      intro result w' ends
      split
      · exact ends.1
      · rename_i refused
        exact ih w' (ends.2 fun session routes alarm is => refused session routes alarm is)

theorem session_safe (requests : List AttachRequest) (w : World) :
    (bridgeRules setup).Safe (retiringNamed setup job) t (session setup t.machine id requests)
      (fun _ _ => True) w := by
  unfold session
  refine Rules.safe_bind (Rules.safe_mono (registerBridge_safe w) ?_)
  intro result w' registered
  split
  · rename_i b
    refine Rules.safe_bind (Rules.safe_mono (attachUntil_safe requests w' (registered b rfl)) ?_)
    intro _ w₁ owned
    unfold bridgeClosed
    refine Rules.safe_bind (Rules.safe_mono
      (safe_act_of_kept (by simp [Act.tag]) (by simp [Act.tag]) (kept_owned t b) owned) ?_)
    intro _ w₂ owned₂
    refine Rules.safe_bind (Rules.safe_act fun w₃ drift inv₃ c _ w₄ _ executed => ?_)
    have owned₃ := (kept_owned t b).stable.drift drift owned₂
    simp only [system, exec] at executed
    obtain ⟨-, run⟩ := World.onEntry_spec executed
    cases run
    refine ⟨⟨inv₃.close, fun t' other => leaves_close owned₃ other⟩, ?_⟩
    exact safe_act_of_kept (by simp [Act.tag]) (by simp [Act.tag]) (fun _ _ _ _ => trivial) trivial
  · trivial

/-- Every operation keeps the table a mirror of the bridges. -/
theorem program_mirrors (w : World) :
    (bridgeRules setup).Safe (retiringNamed setup job) t (program setup t (job t)) (fun _ _ => True) w := by
  by_cases attaches : Tag.attach ∈ footprint (job t)
  · cases is : job t with
    | session id requests => exact session_safe requests w
    | _ => simp [is, footprint] at attaches
  · have closes : Tag.closed ∉ footprint (job t) := by
      cases is : job t with
      | session id requests => simp [is, footprint] at attaches
      | _ => simp [footprint]
    exact safe_of_kept (program_uses setup t (job t)) attaches closes (fun _ _ _ _ => trivial) trivial

end Programs

/-! ### Runs -/

/-- In every run in which each retired bridge finds its tunnel's record cached, the mesh's table of a machine holds
    exactly the bridges that are attached there and not detached, with their tunnels and routes. -/
theorem announcements_mirror_bridges (setup : Setup) (job : Task → Operation) {w₀ : World} (started : w₀.Started)
    {cfg : Config Task Act Act.Ans World}
    (reach : (system setup).Reach (retiringNamed setup job) (idle w₀) cfg) {m : MachineId}
    (clustered : setup.clustered m = true) (b : BridgeId) (id : TunnelId) (routes : List String) :
    cfg.shared.Announces m b id routes ↔ cfg.shared.Serves m b id routes := by
  have inv : Mirrored setup cfg.shared := by
    refine (Reach.safe (R := bridgeRules setup) reach (started.mirrored setup) ?_ ?_).1
    · rintro t _ w rfl _
      exact program_mirrors w
    · intro mv w w' _ inv moved
      have same := move_bridges moved
      exact ⟨inv.same same, same.leaves⟩
  exact inv.mirror m clustered b id routes

/-- A session that attaches its bridge: the bridge is announced and serves. -/
theorem announcements_mirror_attach :
    ∃ cfg, (system (Sample.setup true)).Reach
        (retiringNamed (Sample.setup true) fun _ => .session "a" [⟨"secret", ["@"], none⟩])
        (idle (Sample.world (Sample.db [Sample.tunnel "2027-04-15T08:00:00.000Z"]))) cfg ∧
      cfg.shared.Announces "m1" 1 "a" ["@"] ∧
      (cfg.shared.Announces "m1" 1 "a" ["@"] ↔ cfg.shared.Serves "m1" 1 "a" ["@"]) := by
  let t : Task := ⟨"m1", 1⟩
  have played : (play (retiringNamed (Sample.setup true) fun _ => .session "a" [⟨"secret", ["@"], none⟩])
      (.start t (.session "a" [⟨"secret", ["@"], none⟩]) :: Sample.calls _ t (List.replicate 25 Sample.plain))
      (idle (Sample.world (Sample.db [Sample.tunnel "2027-04-15T08:00:00.000Z"])))).map
      (fun cfg => cfg.shared.announced "m1" 1) = some (some ⟨"a", ["@"], Sample.start⟩) := by decide
  obtain ⟨cfg, ran, shown⟩ := Option.map_eq_some_iff.mp played
  have reach := reach_of_play ran
  exact ⟨cfg, reach, ⟨_, shown⟩,
    announcements_mirror_bridges _ _ (Sample.started _) reach (m := "m1") rfl 1 "a" ["@"]⟩

/-- The operations of `retired_stays_announced`. -/
def Sample.retiring (t : Task) : Operation :=
  if t.number = 1 then .session "a" [⟨"secret", ["@"], none⟩]
  else if t.number = 2 then .invalidate "a"
  else .sweep

/-- A bridge that falls silent after its tunnel's cached record was dropped: the sweep detaches it without telling the
    mesh, its session closes it without telling the mesh, and it stays announced with no lock held. -/
theorem retired_stays_announced :
    ∃ cfg, (system (Sample.setup true)).Reach (running (Sample.setup true) Sample.retiring)
        (idle (Sample.world (Sample.db [Sample.tunnel "2027-04-15T08:00:00.000Z"]))) cfg ∧
      (cfg.shared.entry "m1" "a").holder = none ∧ (cfg.shared.entry "m1" "a").bridges = [] ∧
      cfg.shared.Announces "m1" 1 "a" ["@"] ∧ ¬ cfg.shared.Serves "m1" 1 "a" ["@"] := by
  let client : Task := ⟨"m1", 1⟩
  let dropper : Task := ⟨"m1", 2⟩
  let sweeper : Task := ⟨"m1", 3⟩
  have played : (play (running (Sample.setup true) Sample.retiring)
      (.start client (.session "a" [⟨"secret", ["@"], none⟩]) ::
        Sample.calls _ client (List.replicate 25 Sample.plain) ++
        .start dropper (.invalidate "a") :: Sample.calls _ dropper (List.replicate 3 Sample.plain) ++
        .move (.clocks fun _ => 1800000060001) ::
        .start sweeper .sweep :: Sample.calls _ sweeper (List.replicate 6 Sample.plain) ++
        Sample.calls _ client (List.replicate 3 Sample.plain))
      (idle (Sample.world (Sample.db [Sample.tunnel "2027-04-15T08:00:00.000Z"])))).map
      (fun cfg => ((cfg.shared.entry "m1" "a").holder, (cfg.shared.entry "m1" "a").bridges,
        cfg.shared.announced "m1" 1)) = some (none, [], some ⟨"a", ["@"], Sample.start⟩) := by decide
  obtain ⟨cfg, ran, seen⟩ := Option.map_eq_some_iff.mp played
  simp only [Prod.mk.injEq] at seen
  obtain ⟨free, bare, shown⟩ := seen
  refine ⟨cfg, reach_of_play ran, free, bare, ⟨_, shown⟩, ?_⟩
  rintro ⟨listed, -⟩
  rw [bare] at listed
  cases listed

end OpenTunnel
