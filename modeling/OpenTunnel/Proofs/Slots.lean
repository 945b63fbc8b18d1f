/-
Module: OpenTunnel.Proofs.Slots
Layer: Proofs
Purpose: The limits on the public connections a tunnel carries. A connection keeps its visitor slot until both its
  directions ended, and so may outlive its bridge's place in the entry's list, while `route` counts the slots of the
  listed bridges only. A bridge stays within its own limit in every run; a tunnel stays within its limit where a
  connection is routed only once the bridges that left the list have given their slots back.
Imports: OpenTunnel.Tasks.Allotment, OpenTunnel.Proofs.Claims
Trusted boundary: none (fully proved)
Main exports: World.visitors, BridgesWithin, TunnelsWithin, GivenBack, connection_limits_hold, closed_bridge_keeps_slots
Open obligations: none
-/
import OpenTunnel.Tasks.Allotment
import OpenTunnel.Proofs.Claims

namespace OpenTunnel

open Tasks Semantics

/-- The visitor slots of a bridge that are out. -/
def World.visitors (w : World) (m : MachineId) (b : BridgeId) : Nat := (w.bridge m b).elim 0 Bridge.visitors

theorem World.visitors_some {w : World} {m : MachineId} {b : BridgeId} {bridge : Bridge}
    (found : w.bridge m b = some bridge) : w.visitors m b = bridge.visitors := by
  rw [World.visitors, found]
  rfl

/-! ### What acts do to slots -/

/-- A bridge that carries no more than before and may carry as much. -/
structure Bridge.Eased (old new : Bridge) : Prop where
  visitors : new.visitors ≤ old.visitors
  maxConns : new.maxConns = old.maxConns
  attached : new.attached = old.attached

theorem Bridge.Eased.refl (bridge : Bridge) : bridge.Eased bridge := ⟨Nat.le_refl _, rfl, rfl⟩

/-- No bridge is new, and none carries more. -/
def World.Eased (w w' : World) : Prop :=
  ∀ m b new, w'.bridge m b = some new → ∃ old, w.bridge m b = some old ∧ old.Eased new

namespace World.Eased

variable {w w' : World}

theorem of_bridges (same : ∀ m b, w'.bridge m b = w.bridge m b) : w.Eased w' := by
  intro m b new found
  exact ⟨new, (same m b).symm.trans found, .refl new⟩

theorem of_mapBridges (m : MachineId) (ids : List BridgeId) {f : Bridge → Bridge}
    (eases : ∀ bridge : Bridge, bridge.Eased (f bridge)) : w.Eased (w.mapBridges m ids f) := by
  intro m' b new found
  rw [World.bridge_mapBridges] at found
  split at found
  · obtain ⟨old, before, rfl⟩ := Option.map_eq_some_iff.mp found
    exact ⟨old, before, eases old⟩
  · exact ⟨new, found, .refl new⟩

theorem of_machine (m : MachineId) {machine : Machine} (bridges : machine.bridges = (w.machine m).bridges) :
    w.Eased (w.setMachine m machine) :=
  of_bridges fun _ _ => World.bridge_setMachine _ _ _ _ bridges

theorem of_setEntry (m : MachineId) (id : TunnelId) (e : Entry) : w.Eased (w.setEntry m id e) :=
  of_bridges fun _ _ => World.bridge_setEntry ..

theorem of_setDb (db : Db) : w.Eased (w.setDb db) := of_bridges fun _ _ => rfl

theorem of_write {α : Type} {c : Choice} {run : Except Err α × Db} {ans : Except Err α}
    (sent : w.write c run = (ans, w')) : w.Eased w' := by
  rcases World.write_spec sent with ⟨-, -, rfl⟩ | ⟨-, -, rfl⟩ | ⟨-, -, rfl⟩
  · exact of_setDb _
  · exact of_bridges fun _ _ => rfl
  · exact of_setDb _

theorem visitors_le (eased : w.Eased w') (m : MachineId) (b : BridgeId) : w'.visitors m b ≤ w.visitors m b := by
  cases found : w'.bridge m b with
  | none =>
      rw [World.visitors, found]
      exact Nat.zero_le _
  | some new =>
      obtain ⟨old, before, kept⟩ := eased m b new found
      rw [World.visitors_some found, World.visitors_some before]
      exact kept.visitors

end World.Eased

/-- The acts that add a bridge, attach one or route a connection. -/
def Act.loads : Act → Bool
  | .registerBridge _ => true
  | .attachBridge .. => true
  | .pick .. => true
  | _ => false

section Acts

variable {setup : Setup} {t : Task} {op : Act} {c : Choice} {w w' : World} {ans : op.Ans} {m : MachineId}
  {id : TunnelId} {b : BridgeId}

theorem exec_eased (h : exec setup t op c w = some (ans, w')) (light : op.loads = false) : w.Eased w' := by
  cases op
  case registerBridge => cases light
  case attachBridge => cases light
  case pick => cases light
  case retireStale id =>
      simp only [exec] at h
      obtain ⟨-, run⟩ := World.onEntry_spec h
      cases run
      intro m b new found
      rw [World.bridge_retireStale] at found
      split at found
      · obtain ⟨old, before, rfl⟩ := Option.map_eq_some_iff.mp found
        exact ⟨old, before, Nat.le_refl _, rfl, rfl⟩
      · exact ⟨new, found, .refl new⟩
  case closedBridge id b =>
      simp only [exec] at h
      obtain ⟨-, run⟩ := World.onEntry_spec h
      cases run
      intro m b new found
      rw [World.bridge_closedBridge] at found
      split at found
      · obtain ⟨old, before, rfl⟩ := Option.map_eq_some_iff.mp found
        exact ⟨old, before, Nat.le_refl _, rfl, rfl⟩
      · exact ⟨new, found, .refl new⟩
  case closeBridges id =>
      simp only [exec] at h
      obtain ⟨-, run⟩ := World.onEntry_spec h
      cases run
      exact .of_mapBridges _ _ fun _ => ⟨Nat.le_refl _, rfl, rfl⟩
  case drainBridge b =>
      cases h
      exact .of_mapBridges _ _ fun _ => ⟨Nat.le_refl _, rfl, rfl⟩
  case save id change =>
      obtain ⟨record, -, -, -, ⟨-, -, rfl⟩ | ⟨-, -, rfl⟩ | ⟨-, -, -, rfl⟩ | ⟨revision, db, -, -, -, rfl⟩⟩ := exec_save h
      · exact .of_bridges fun _ _ => rfl
      · exact .of_setDb _
      · exact .of_setEntry _ _ _
      · exact .of_bridges fun _ _ => World.bridge_setEntry ..
  case collectIdle =>
      cases h
      exact .of_machine _ rfl
  all_goals
    simp only [exec, World.onEntry, World.receive] at h
    repeat' split at h
    all_goals first
      | cases h
      | exact .of_write (Option.some.inj h)
      | exact .of_write (World.onRow_spec h).2
    all_goals first
      | exact .of_setDb _
      | exact .of_setEntry _ _ _
      | exact .of_machine _ rfl
      | exact .of_bridges fun _ _ => rfl

theorem move_eased {mv : Move} (h : move mv w = some w') : w.Eased w' := by
  cases mv with
  | clocks times =>
      cases h
      exact .of_bridges fun _ _ => rfl
  | touch m b =>
      cases h
      exact .of_mapBridges _ _ fun _ => ⟨Nat.le_refl _, rfl, rfl⟩
  | close m b code =>
      cases h
      exact .of_mapBridges _ _ fun _ => ⟨Nat.le_refl _, rfl, rfl⟩
  | channelEnds m b conn =>
      cases h
      exact .of_mapBridges _ _ fun _ => ⟨Nat.le_refl _, rfl, rfl⟩
  | visitorEnds m b =>
      cases h
      exact .of_mapBridges _ _ fun _ => ⟨Nat.sub_le _ _, rfl, rfl⟩
  | meshComplete m complete =>
      cases h
      exact .of_machine _ rfl
  | deliver source target =>
      simp only [move] at h
      split at h
      · cases h
        exact .of_machine _ rfl
      · cases h
  | linkDown source target =>
      cases h
      exact .of_bridges fun _ _ => rfl
  | linkUp source target =>
      cases h
      exact .of_machine _ rfl

/-- A connection is routed to a listed bridge that is attached and has room, where the listed bridges of the tunnel
    have room too. -/
theorem pick_routes (hostname : String) (ready : Bool) (sni : String) :
    (w.pick setup m id hostname ready sni).2 = w ∨
      ∃ b bridge, b ∈ (w.entry m id).bridges ∧ w.bridge m b = some bridge ∧ bridge.attached = true ∧
        bridge.visitors < bridge.connLimit setup.connsPerBridge ∧
        ((w.bridgesOf m id).map fun x => x.2.visitors).sum < setup.connsPerTunnel ∧
        (w.pick setup m id hostname ready sni).2 = (w.connect m id b).2 := by
  unfold World.pick
  dsimp only
  split
  · rename_i b bridge chosen
    split
    · split
      · exact .inl rfl
      · rename_i room
        obtain ⟨route, _, first⟩ := Option.bind_eq_some_iff.mp chosen
        have claims : bridge.claims route = true := by simpa using List.find?_some first
        obtain ⟨b', listed, is⟩ := List.mem_filterMap.mp (List.mem_of_find?_eq_some first)
        obtain ⟨bridge', found, same⟩ := Option.map_eq_some_iff.mp is
        cases same
        have attached : bridge.attached = true := by
          unfold Bridge.claims Bridge.isAttached at claims
          simp only [Bool.and_eq_true] at claims
          exact claims.1.1
        have under := not_or.mp room
        exact .inr ⟨b, bridge, listed, found, attached, Nat.not_le.mp under.1, Nat.not_le.mp under.2, rfl⟩
    · exact .inl rfl
  · exact .inl rfl

theorem bridge_connect (b' : BridgeId) (m' : MachineId) :
    ((w.connect m id b).2.bridge m' b') =
      if m' = m ∧ b' = b then (w.bridge m' b').map fun bridge =>
        { bridge with visitors := bridge.visitors + 1, channels := (w.connect m id b).1 :: bridge.channels }
      else w.bridge m' b' := by
  unfold World.connect
  simp only [World.bridge_mapBridges, World.bridge_setEntry, List.mem_singleton]

/-- What the listed bridges carry is what `route` counts. -/
theorem sum_bridgesOf : ((w.bridgesOf m id).map fun x => x.2.visitors).sum =
    ((w.entry m id).bridges.map (w.visitors m)).sum := by
  unfold World.bridgesOf World.visitors
  induction (w.entry m id).bridges with
  | nil => rfl
  | cons first rest ih =>
      cases found : w.bridge m first with
      | none => simpa [found] using ih
      | some bridge => simpa [found] using ih

end Acts

/-! ### The limits -/

/-- Every bridge carries at most its limit, and nothing before it is attached. -/
def BridgesWithin (setup : Setup) (w : World) : Prop :=
  ∀ m b bridge, w.bridge m b = some bridge →
    bridge.visitors ≤ bridge.connLimit setup.connsPerBridge ∧ (bridge.attached = false → bridge.visitors = 0)

/-- The bridges that were registered for a tunnel on a machine carry together at most the tunnel's limit, listed or
    not. -/
def TunnelsWithin (setup : Setup) (w : World) (home : MachineId → BridgeId → Option TunnelId) : Prop :=
  ∀ m id (bridges : List BridgeId), bridges.Nodup → (∀ b ∈ bridges, home m b = some id) →
    (bridges.map (w.visitors m)).sum ≤ setup.connsPerTunnel

/-- The bridges of a tunnel that left its entry's list carry nothing. -/
def GivenBack (s : World × Registry) (m : MachineId) (id : TunnelId) : Prop :=
  ∀ b < (s.1.machine m).nextBridge, s.2.home m b = some id → b ∉ (s.1.entry m id).bridges → s.1.visitors m b = 0

section Steps

variable {setup : Setup} {t : Task} {op : Act} {c : Choice} {w w' : World} {ans : op.Ans} {m : MachineId}
  {id : TunnelId} {b : BridgeId} {home : MachineId → BridgeId → Option TunnelId}

theorem World.Eased.bridgesWithin (eased : w.Eased w') (within : BridgesWithin setup w) : BridgesWithin setup w' := by
  intro m b new found
  obtain ⟨old, before, kept⟩ := eased m b new found
  obtain ⟨limited, idle⟩ := within m b old before
  constructor
  · calc new.visitors ≤ old.visitors := kept.visitors
      _ ≤ old.connLimit setup.connsPerBridge := limited
      _ = new.connLimit setup.connsPerBridge := by rw [Bridge.connLimit, Bridge.connLimit, kept.maxConns]
  · intro waits
    have none := idle (kept.attached.symm.trans waits)
    exact Nat.le_zero.mp (none ▸ kept.visitors)

theorem World.Eased.tunnelsWithin (eased : w.Eased w') (within : TunnelsWithin setup w home) :
    TunnelsWithin setup w' home := by
  intro m id bridges distinct homed
  exact Nat.le_trans (sum_le (.refl _) fun b _ => eased.visitors_le m b) (within m id bridges distinct homed)

theorem visitors_register (listed : Listed w home) (m : MachineId) (b : BridgeId) :
    (w.registerBridge t id).visitors m b = w.visitors m b := by
  unfold World.visitors
  rw [World.bridge_registerBridge]
  split
  · rename_i new
    obtain ⟨rfl, rfl⟩ := new
    rw [(listed.fresh t.machine _ (Nat.le_refl _)).1]
    split <;> rfl
  · rfl

theorem BridgesWithin.register (within : BridgesWithin setup w) : BridgesWithin setup (w.registerBridge t id) := by
  intro m b bridge found
  rw [World.bridge_registerBridge] at found
  split at found
  · rw [← Option.some.inj found]
    split
    · exact ⟨Nat.zero_le _, fun _ => rfl⟩
    · exact ⟨Nat.zero_le _, fun _ => rfl⟩
  · exact within m b bridge found

theorem TunnelsWithin.register (within : TunnelsWithin setup w home) (listed : Listed w home) :
    TunnelsWithin setup (w.registerBridge t id) fun m b =>
      if m = t.machine ∧ b = (w.machine t.machine).nextBridge then some id else home m b := by
  intro m id' bridges distinct homed
  -- the new bridge carries nothing, and the others were registered before
  have old : ∀ b ∈ bridges.filter (fun b => home m b = some id'), home m b = some id' := by
    intro b member
    simpa using (List.mem_filter.mp member).2
  have same : (w.registerBridge t id).visitors m = w.visitors m := funext fun b => visitors_register listed m b
  have before : ∀ b ∈ bridges, w.visitors m b ≠ 0 → b ∈ bridges.filter fun b => home m b = some id' := by
    intro b member carries
    refine List.mem_filter.mpr ⟨member, ?_⟩
    have is := homed b member
    dsimp only at is
    split at is
    · rename_i new
      rw [World.visitors, new.1, new.2, (listed.fresh _ _ (Nat.le_refl _)).1] at carries
      exact absurd rfl carries
    · simpa using is
  rw [same]
  calc (bridges.map (w.visitors m)).sum
      ≤ ((bridges.filter fun b => home m b = some id').map (w.visitors m)).sum := sum_among distinct before
    _ ≤ setup.connsPerTunnel := within m id' _ (distinct.filter _) old

section Attach

variable {session : String} {routes : List String} {maxConns : Option Nat} {now : Nat}

theorem visitors_attach (m : MachineId) (b' : BridgeId) :
    (w.attachBridge setup t.machine id b session routes maxConns now).visitors m b' = w.visitors m b' := by
  unfold World.visitors
  rw [World.bridge_attachBridge]
  split
  · cases w.bridge m b' with
    | none => rfl
    | some bridge => rfl
  · rfl

/-- A bridge that is attached for the first time carries nothing yet. -/
theorem BridgesWithin.attach (within : BridgesWithin setup w)
    (waits : ∀ bridge, w.bridge t.machine b = some bridge → bridge.attached = false) :
    BridgesWithin setup (w.attachBridge setup t.machine id b session routes maxConns now) := by
  intro m b' bridge found
  rw [World.bridge_attachBridge] at found
  split at found
  · rename_i own
    obtain ⟨rfl, rfl⟩ := own
    obtain ⟨old, before, rfl⟩ := Option.map_eq_some_iff.mp found
    have none := (within _ _ old before).2 (waits old before)
    refine ⟨?_, fun unattached => absurd unattached (by simp)⟩
    change old.visitors ≤ _
    rw [none]
    exact Nat.zero_le _
  · exact within m b' bridge found

theorem TunnelsWithin.attach (within : TunnelsWithin setup w home) :
    TunnelsWithin setup (w.attachBridge setup t.machine id b session routes maxConns now) home := by
  intro m id' bridges distinct homed
  have same : (w.attachBridge setup t.machine id b session routes maxConns now).visitors m = w.visitors m :=
    funext fun b' => visitors_attach m b'
  rw [same]
  exact within m id' bridges distinct homed

end Attach

theorem BridgesWithin.connect (within : BridgesWithin setup w) {bridge : Bridge} (found : w.bridge m b = some bridge)
    (attached : bridge.attached = true) (room : bridge.visitors < bridge.connLimit setup.connsPerBridge) :
    BridgesWithin setup (w.connect m id b).2 := by
  intro m' b' bridge' found'
  rw [bridge_connect] at found'
  split at found'
  · rename_i here
    obtain ⟨rfl, rfl⟩ := here
    rw [found] at found'
    cases found'
    refine ⟨room, fun unattached => ?_⟩
    change bridge.attached = false at unattached
    exact absurd (unattached.symm.trans attached) (by simp)
  · exact within m' b' bridge' found'

/-- What the tunnel carries is what its listed bridges do, so there is room for one more. -/
theorem TunnelsWithin.connect {past : Registry} (within : TunnelsWithin setup w past.home) (listed : Listed w past.home)
    (back : GivenBack (w, past) m id) (member : b ∈ (w.entry m id).bridges) {bridge : Bridge}
    (found : w.bridge m b = some bridge)
    (room : ((w.bridgesOf m id).map fun x => x.2.visitors).sum < setup.connsPerTunnel) :
    TunnelsWithin setup (w.connect m id b).2 past.home := by
  have one : (w.connect m id b).2.visitors m b = w.visitors m b + 1 := by
    rw [World.visitors, bridge_connect, if_pos ⟨rfl, rfl⟩, World.visitors_some found, found]
    rfl
  have others {m' : MachineId} {b' : BridgeId} (other : ¬ (m' = m ∧ b' = b)) :
      (w.connect m id b).2.visitors m' b' = w.visitors m' b' := by
    rw [World.visitors, bridge_connect, if_neg other]
    rfl
  intro m' id' bridges distinct homed
  by_cases here : m' = m ∧ id' = id
  · obtain ⟨rfl, rfl⟩ := here
    have counted : (bridges.map (w.visitors m')).sum ≤ ((w.entry m' id').bridges.map (w.visitors m')).sum := by
      refine sum_among distinct fun b' among carries => ?_
      by_cases listed' : b' ∈ (w.entry m' id').bridges
      · exact listed'
      · refine absurd (back b' ?_ (homed b' among) listed') carries
        refine Nat.not_le.mp fun unused => ?_
        exact absurd (homed b' among) (by simp [(listed.fresh m' b' unused).2])
    rw [sum_bridgesOf] at room
    calc (bridges.map ((w.connect m' id' b).2.visitors m')).sum
        ≤ (bridges.map (w.visitors m')).sum + 1 :=
          sum_one_more distinct (fun b' _ other => others fun is => other is.2) one
      _ ≤ ((w.entry m' id').bridges.map (w.visitors m')).sum + 1 := Nat.add_le_add_right counted 1
      _ ≤ setup.connsPerTunnel := room
  · have same : bridges.map ((w.connect m id b).2.visitors m') = bridges.map (w.visitors m') := by
      refine List.map_congr_left fun b' among => others ?_
      rintro ⟨rfl, rfl⟩
      refine here ⟨rfl, Option.some.inj ?_⟩
      rw [← homed b' among, listed.homed _ _ _ member]
    rw [same]
    exact within m' id' bridges distinct homed

end Steps

/-! ### Runs -/

def BridgeJob.isOperation : BridgeJob → Bool
  | .operation _ => true
  | .attaches .. => false

/-- The server's operations, in which a bridge attaches once. -/
def anyRouting (setup : Setup) : Assumptions ((bridging setup).withGhost (Registry.ghost setup)) where
  start := fun _ job _ => job.isOperation = true

/-- The tunnel that a connection is routed for. -/
def Act.routes : Act → Option TunnelId
  | .pick id _ _ _ => some id
  | _ => none

/-- A connection is routed only while the tunnel's bridges that left the list carry nothing. -/
def routingGivenBack (setup : Setup) : Assumptions ((bridging setup).withGhost (Registry.ghost setup)) where
  start := fun _ job _ => job.isOperation = true
  call := fun t op _ s => ∀ id ∈ op.routes, GivenBack s t.machine id

theorem operation_starts {setup : Setup} {once : Bool} (t : Task) (job : BridgeJob) (is : job.isOperation = true) :
    Prog.Follows (ClaimNotes.discipline once) (fun _ _ => True) {} ((bridging setup).program t job) := by
  cases job with
  | operation op => exact ClaimNotes.operation_follows t op
  | attaches id requests => cases is

section Runs

variable {setup : Setup} {t : Task} {op : Act} {c : Choice} {w w' : World} {ans : op.Ans} {past : Registry}

theorem Claimed.unattached (claimed : Claimed (w, past)) {id : TunnelId} {b : BridgeId}
    (own : (past.notes t).own = some (id, b)) (waits : (past.notes t).done = false) (bridge : Bridge)
    (found : w.bridge t.machine b = some bridge) : bridge.attached = false := by
  obtain ⟨_, mine, found', _, unattached⟩ := (claimed.tasks t).own id b own
  cases found'.symm.trans found
  exact unattached waits

/-- The limit of each bridge is kept by every act. -/
theorem BridgesWithin.acts (within : BridgesWithin setup w) (claimed : Claimed (w, past))
    (allowed : ClaimNotes.allows true (past.notes t) op) (h : exec setup t op c w = some (ans, w')) :
    BridgesWithin setup w' := by
  cases op
  case registerBridge id =>
      simp only [exec] at h
      obtain ⟨-, run⟩ := World.onEntry_spec h
      cases run
      exact within.register
  case attachBridge id b session routes maxConns now =>
      simp only [exec] at h
      obtain ⟨-, run⟩ := World.onEntry_spec h
      cases run
      obtain ⟨own, _, waits, _⟩ := allowed
      exact within.attach (claimed.unattached own (waits rfl))
  case pick id hostname ready sni =>
      simp only [exec] at h
      obtain ⟨-, picked⟩ := World.onEntry_spec h
      have after : w' = (w.pick setup t.machine id hostname ready sni).2 := by rw [picked]
      rcases pick_routes hostname ready sni with same | ⟨b, bridge, _, found, attached, room, _, same⟩
      · rw [after, same]
        exact within
      · rw [after, same]
        exact within.connect found attached room
  all_goals exact (exec_eased h rfl).bridgesWithin within

/-- The limit of each tunnel is kept by every act that routes no connection too many. -/
theorem TunnelsWithin.acts (within : TunnelsWithin setup w past.home) (claimed : Claimed (w, past))
    (back : ∀ id ∈ op.routes, GivenBack (w, past) t.machine id) (h : exec setup t op c w = some (ans, w')) :
    TunnelsWithin setup w' (Registry.homes t op ans past.home) := by
  cases op
  case registerBridge id =>
      simp only [exec] at h
      obtain ⟨-, run⟩ := World.onEntry_spec h
      cases run
      exact within.register claimed.listed
  case attachBridge id b session routes maxConns now =>
      simp only [exec] at h
      obtain ⟨-, run⟩ := World.onEntry_spec h
      cases run
      exact within.attach
  case pick id hostname ready sni =>
      simp only [exec] at h
      obtain ⟨-, picked⟩ := World.onEntry_spec h
      have after : w' = (w.pick setup t.machine id hostname ready sni).2 := by rw [picked]
      rcases pick_routes hostname ready sni with same | ⟨b, bridge, member, found, _, _, room, same⟩
      · rw [after, same]
        exact within
      · rw [after, same]
        exact within.connect claimed.listed (back id rfl) member found room
  all_goals exact (exec_eased h rfl).tunnelsWithin within

end Runs

/-- In every run of the server's operations a bridge carries at most its limit; where a connection is routed only
    while the tunnel's bridges that left the list carry nothing, a tunnel does too, over all its bridges. -/
theorem connection_limits_hold {setup : Setup} {w₀ : World} (started : w₀.Started)
    {cfg : Config Task Act Act.Ans (World × Registry)}
    (reach : ((bridging setup).withGhost (Registry.ghost setup)).Reach (routingGivenBack setup) (idle (w₀, .empty)) cfg) :
    (∀ m b bridge, cfg.shared.1.bridge m b = some bridge →
      bridge.visitors ≤ bridge.connLimit setup.connsPerBridge) ∧
    TunnelsWithin setup cfg.shared.1 cfg.shared.2.home := by
  have bare (m : MachineId) (b : BridgeId) : w₀.bridge m b = none := by
    unfold World.bridge
    rw [started.machines m]
  have holds : Claimed cfg.shared ∧ BridgesWithin setup cfg.shared.1 ∧
      TunnelsWithin setup cfg.shared.1 cfg.shared.2.home := by
    refine claimed_of_reach started reach true (fun t job _ is => operation_starts t job is)
      (J := fun s => BridgesWithin setup s.1 ∧ TunnelsWithin setup s.1 s.2.home) ⟨?_, ?_⟩ ?_ ?_
    · intro m b bridge found
      rw [bare] at found
      cases found
    · intro m id bridges _ homed
      cases bridges with
      | nil => exact Nat.zero_le _
      | cons b _ => cases homed b List.mem_cons_self
    · intro t op c s w' ans back allowed claimed within ran
      exact ⟨within.1.acts claimed allowed ran, within.2.acts claimed back ran⟩
    · intro mv s w' _ _ within moved
      exact ⟨(move_eased moved).bridgesWithin within.1, (move_eased moved).tunnelsWithin within.2⟩
  exact ⟨fun m b bridge found => (holds.2.1 m b bridge found).1, holds.2.2⟩

instance (s : World × Registry) (m : MachineId) (id : TunnelId) : Decidable (GivenBack s m id) :=
  inferInstanceAs (Decidable (∀ b < (s.1.machine m).nextBridge, s.2.home m b = some id →
    b ∉ (s.1.entry m id).bridges → s.1.visitors m b = 0))

instance (setup : Setup) : (routingGivenBack setup).Checkable where
  start := fun _ job _ => inferInstanceAs (Decidable (job.isOperation = true))
  call := fun t op _ s => inferInstanceAs (Decidable (∀ id ∈ op.routes, GivenBack s t.machine id))
  move := fun _ _ => isTrue trivial

instance (setup : Setup) : (anyRouting setup).Checkable where
  start := fun _ job _ => inferInstanceAs (Decidable (job.isOperation = true))
  call := fun _ _ _ _ => isTrue trivial
  move := fun _ _ => isTrue trivial

/-- A tunnel may carry one connection. -/
def Sample.oneConnection : Setup := { Sample.setup false with connsPerTunnel := 1 }

/-- A task's operation, with one random name for its first calls. -/
def operates (t : Task) (op : Operation) (name : String) (calls : Nat) :
    List ((bridging Sample.oneConnection).withGhost (Registry.ghost _)).Turn :=
  .start t (.operation op) :: List.replicate calls (.call t { text := name })

/-- A visitor comes on the first bridge and the client ends its half; the bridge closes, another one attaches, and a
    second visitor comes. -/
def reconnects (between : List Move) : List ((bridging Sample.oneConnection).withGhost (Registry.ghost _)).Turn :=
  operates ⟨"m1", 1⟩ (.session "a" [⟨"secret", ["@"], none⟩]) "first" 18 ++
    operates ⟨"m1", 2⟩ (.route "a" "a.opentunnel.test") "" 6 ++ [.move (.channelEnds "m1" 1 1)] ++
    List.replicate 3 (.call ⟨"m1", 1⟩ Sample.plain) ++ between.map (fun mv => .move mv) ++
    operates ⟨"m1", 3⟩ (.session "a" [⟨"secret", ["@"], none⟩]) "second" 14 ++
    operates ⟨"m1", 4⟩ (.route "a" "a.opentunnel.test") "" 6

/-- What the first two bridges carry, and the tunnel each is for. -/
def carried (cfg : Config Task Act Act.Ans (World × Registry)) : List (Nat × Option TunnelId) :=
  [1, 2].map fun b => (cfg.shared.1.visitors "m1" b, cfg.shared.2.home "m1" b)

/-- The first visitor has gone when the second one comes. -/
theorem connection_limits_hold_reconnected :
    ∃ cfg, ((bridging Sample.oneConnection).withGhost (Registry.ghost _)).Reach (routingGivenBack _)
        (idle (Sample.world (Sample.db [Sample.tunnel "2027-04-15T08:00:00.000Z"]), .empty)) cfg ∧
      carried cfg = [(0, some "a"), (1, some "a")] ∧
      TunnelsWithin Sample.oneConnection cfg.shared.1 cfg.shared.2.home := by
  have played : (play (routingGivenBack Sample.oneConnection) (reconnects [.visitorEnds "m1" 1])
      (idle (Sample.world (Sample.db [Sample.tunnel "2027-04-15T08:00:00.000Z"]), .empty))).map carried =
        some [(0, some "a"), (1, some "a")] := by
    decide +kernel
  obtain ⟨cfg, ran, seen⟩ := Option.map_eq_some_iff.mp played
  have reach := reach_of_play ran
  exact ⟨cfg, reach, seen, (connection_limits_hold (Sample.started _) reach).2⟩

/-- The first visitor still sends when the second one comes: the closed bridge's slot is not counted. -/
theorem closed_bridge_keeps_slots :
    ∃ cfg, ((bridging Sample.oneConnection).withGhost (Registry.ghost _)).Reach (anyRouting _)
        (idle (Sample.world (Sample.db [Sample.tunnel "2027-04-15T08:00:00.000Z"]), .empty)) cfg ∧
      ¬ TunnelsWithin Sample.oneConnection cfg.shared.1 cfg.shared.2.home := by
  have played : (play (anyRouting Sample.oneConnection) (reconnects [])
      (idle (Sample.world (Sample.db [Sample.tunnel "2027-04-15T08:00:00.000Z"]), .empty))).map carried =
        some [(1, some "a"), (1, some "a")] := by
    decide +kernel
  obtain ⟨cfg, ran, seen⟩ := Option.map_eq_some_iff.mp played
  refine ⟨cfg, reach_of_play ran, fun within => ?_⟩
  simp only [carried, List.map_cons, List.map_nil, List.cons.injEq, Prod.mk.injEq] at seen
  obtain ⟨⟨first, home⟩, ⟨second, home'⟩, -⟩ := seen
  have total := within "m1" "a" [1, 2] (by decide) (by simp [home, home'])
  simp only [List.map_cons, List.map_nil, List.sum_cons, List.sum_nil, first, second] at total
  exact absurd total (by decide)

end OpenTunnel
