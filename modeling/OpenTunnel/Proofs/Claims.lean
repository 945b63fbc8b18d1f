/-
Module: OpenTunnel.Proofs.Claims
Layer: Proofs
Purpose: The routes that a tunnel's bridges claim on a machine are an allotment: exclusive, bounded and valid. An attach
  looks at the entry's bridges, asks other machines and then claims, all under the entry's lock, and every other change
  of what a bridge claims needs the lock too; a bridge is changed only by the task that registered it or by retiring
  it. So what the attach looked at is still so when it claims.
Imports: OpenTunnel.Tasks.Discipline, OpenTunnel.Tasks.Ghost, OpenTunnel.Tasks.Allotment, OpenTunnel.Proofs.Executions,
  OpenTunnel.Proofs.Footprint, OpenTunnel.Model.Routines, OpenTunnel.Model.Sample, OpenTunnel.Proofs.Revisions
Trusted boundary: none (fully proved)
Main exports: Bridge.held, ClaimNotes, Registry, Exclusive, routes_exclusive
Open obligations: none
-/
import OpenTunnel.Tasks.Discipline
import OpenTunnel.Tasks.Ghost
import OpenTunnel.Tasks.Allotment
import OpenTunnel.Proofs.Executions
import OpenTunnel.Proofs.Footprint
import OpenTunnel.Model.Routines
import OpenTunnel.Model.Sample
import OpenTunnel.Proofs.Revisions

namespace OpenTunnel

open Tasks Semantics

/-! ### What bridges claim -/

/-- The routes a bridge claims. -/
def Bridge.held (bridge : Bridge) : List String := if bridge.isAttached then bridge.routes else []

theorem Bridge.claims_iff {bridge : Bridge} {route : String} : bridge.claims route = true ↔ route ∈ bridge.held := by
  unfold Bridge.claims Bridge.held
  cases bridge.isAttached <;> simp

def World.held (w : World) (m : MachineId) (b : BridgeId) : List String := (w.bridge m b).elim [] Bridge.held

theorem World.held_some {w : World} {m : MachineId} {b : BridgeId} {bridge : Bridge} (found : w.bridge m b = some bridge) :
    w.held m b = bridge.held := by
  rw [World.held, found]
  rfl

/-- The bridges of an entry as a task saw them: which there are, and what each claims. -/
def World.Shows (w : World) (m : MachineId) (id : TunnelId) (bridges : List (BridgeId × Bridge)) : Prop :=
  (bridges.map fun b => (b.1, b.2.held)) = (w.entry m id).bridges.map fun b => (b, w.held m b)

section Shown

variable {w : World} {m : MachineId} {id : TunnelId} {b : BridgeId}

theorem bridgesOf_shows (known : ∀ b ∈ (w.entry m id).bridges, (w.bridge m b).isSome = true) :
    w.Shows m id (w.bridgesOf m id) := by
  unfold World.Shows World.bridgesOf
  generalize (w.entry m id).bridges = ids at known
  induction ids with
  | nil => rfl
  | cons first rest ih =>
      obtain ⟨bridge, found⟩ := Option.isSome_iff_exists.mp (known first List.mem_cons_self)
      have later := ih fun b listed => known b (List.mem_cons_of_mem first listed)
      simp only [List.filterMap_cons, found, Option.map_some, List.map_cons, World.held_some found]
      rw [later]

theorem heldRouteCount_eq (bridges : List (BridgeId × Bridge)) (b : BridgeId) :
    heldRouteCount bridges b =
      (((bridges.map fun x => (x.1, x.2.held)).filter fun x => x.1 ≠ b).map fun x => x.2.length).sum := by
  unfold heldRouteCount
  induction bridges with
  | nil => rfl
  | cons first rest ih =>
      by_cases own : first.1 = b
      · simpa [own] using ih
      · by_cases live : first.2.isAttached = true
        · simpa [own, live, Bridge.held] using ih
        · simpa [own, live, Bridge.held] using ih

theorem routeConflict_iff (bridges : List (BridgeId × Bridge)) (b : BridgeId) (routes : List String) :
    routeConflict bridges b routes = true ↔
      ∃ x ∈ bridges.map fun x => (x.1, x.2.held), x.1 ≠ b ∧ ∃ route ∈ routes, route ∈ x.2 := by
  unfold routeConflict
  simp only [List.any_eq_true, Bool.and_eq_true, bne_iff_ne, ne_eq, List.mem_map, exists_exists_and_eq_and,
    Bridge.claims_iff]

/-- What an attach found of its checks, of the bridges as they are. -/
theorem World.Shows.room {bridges : List (BridgeId × Bridge)} (shows_ : w.Shows m id bridges) :
    heldRouteCount bridges b = heldCount ((w.entry m id).bridges.filter (· ≠ b)) (w.held m) := by
  rw [heldRouteCount_eq, shows_, heldCount]
  rw [List.filter_map, List.map_map]
  rfl

theorem World.Shows.free {bridges : List (BridgeId × Bridge)} (shows_ : w.Shows m id bridges) {routes : List String}
    (fine : routeConflict bridges b routes = false) :
    ∀ b' ∈ (w.entry m id).bridges, b' ≠ b → ∀ route ∈ routes, route ∉ w.held m b' := by
  intro b' listed other route asked has
  have conflict : routeConflict bridges b routes = true := by
    rw [routeConflict_iff, shows_]
    exact ⟨(b', w.held m b'), List.mem_map.mpr ⟨b', listed, rfl⟩, other, route, asked, has⟩
  exact absurd (fine.symm.trans conflict) (by simp)

end Shown

/-! ### What a task knows of its bridge -/

/-- What a task did with bridges. -/
structure ClaimNotes where
  /-- the bridge it registered, until it cleans up after it -/
  own : Option (TunnelId × BridgeId) := none
  /-- it attached its bridge -/
  done : Bool := false
  entry : Option TunnelId := none
  /-- the bridges of the entry it holds, as it looked at them -/
  seen : Option (List (BridgeId × Bridge)) := none

namespace ClaimNotes

def next (q : ClaimNotes) : (op : Act) → op.Ans → ClaimNotes
  | .lock id, _ => { q with entry := some id, seen := none }
  | .unlock _, _ => { q with entry := none, seen := none }
  | .registerBridge id, b => { q with own := some (id, b), done := false, seen := none }
  | .bridgesOf id, bridges => if q.entry = some id then { q with seen := some bridges } else q
  | .retireStale _, _ => { q with seen := none }
  | .attachBridge .., _ => { q with done := true, seen := none }
  | .closedBridge .., _ => { q with own := none, seen := none }
  | _, _ => q

/-- A bridge is attached and cleaned up by the task that registered it. It is attached once the checks passed on the
    entry's bridges, which are still as the task saw them; `once`, only while it is not. -/
def allows (once : Bool) (q : ClaimNotes) : Act → Prop
  | .attachBridge id b _ routes _ _ => q.own = some (id, b) ∧ q.entry = some id ∧ (once = true → q.done = false) ∧
      (∀ route ∈ routes, isValidRoute route = true) ∧ ∃ bridges, q.seen = some bridges ∧
        heldRouteCount bridges b + routes.length ≤ maxTunnelRoutes ∧ routeConflict bridges b routes = false
  | .closedBridge id b => q.own = some (id, b)
  | _ => True

def discipline (once : Bool) : Discipline Act Act.Ans ClaimNotes where
  start := {}
  next := next
  allows := allows once

section Follows

variable {setup : Setup} {m : MachineId} {once : Bool} {q : ClaimNotes} {id : TunnelId} {b : BridgeId} {α β : Type}

/-- The acts that leave a task's bridge alone. -/
def Calm (op : Act) : Prop := op.tag ≠ .attach ∧ op.tag ≠ .closed ∧ op.tag ≠ .register

theorem allows_calm {op : Act} (calm : Calm op) : allows once q op := by
  cases op
  case attachBridge => exact absurd rfl calm.1
  case closedBridge => exact absurd rfl calm.2.1
  all_goals trivial

theorem next_calm {op : Act} (ans : op.Ans) (calm : Calm op) :
    (q.next op ans).own = q.own ∧ (q.next op ans).done = q.done := by
  cases op
  case attachBridge => exact absurd rfl calm.1
  case closedBridge => exact absurd rfl calm.2.1
  case registerBridge => exact absurd rfl calm.2.2
  case bridgesOf id' =>
      have looks : q.next (.bridgesOf id') ans = if q.entry = some id' then { q with seen := some ans } else q := rfl
      rw [looks]
      split
      · exact ⟨rfl, rfl⟩
      · exact ⟨rfl, rfl⟩
  all_goals exact ⟨rfl, rfl⟩

/-- A program of calm acts keeps what the task notes of its bridge. -/
theorem follows_calm {p : Call α} {tags : List Tag} (uses : Uses tags p) (attaches : Tag.attach ∉ tags)
    (closes : Tag.closed ∉ tags) (registers : Tag.register ∉ tags) {I : Option (TunnelId × BridgeId) → Bool → Prop}
    (holds : I q.own q.done) :
    Prog.Follows (discipline once) (fun _ q' => I q'.own q'.done) q p := by
  refine Prog.follows_of_all uses.all (I := fun q : ClaimNotes => I q.own q.done) ?_ ?_ holds
  · intro q op tagged _
    refine allows_calm ⟨?_, ?_, ?_⟩
    · exact fun same => attaches (same ▸ tagged)
    · exact fun same => closes (same ▸ tagged)
    · exact fun same => registers (same ▸ tagged)
  · intro q op ans tagged known
    have calm : Calm op := by
      refine ⟨?_, ?_, ?_⟩
      · exact fun same => attaches (same ▸ tagged)
      · exact fun same => closes (same ▸ tagged)
      · exact fun same => registers (same ▸ tagged)
    obtain ⟨own, done⟩ := next_calm (q := q) ans calm
    change I (q.next op ans).own (q.next op ans).done
    rw [own, done]
    exact known

theorem follows_act {op : Act} {f : op.Ans → Fallible α} {post : Except Err α → ClaimNotes → Prop}
    (allowed : allows once q op)
    (rest : ∀ ans, Prog.Follows (discipline once) post (q.next op ans) (f ans).run) :
    Prog.Follows (discipline once) post q ((liftM (act op) : Fallible op.Ans) >>= f).run := ⟨allowed, rest⟩

/-- The end of a function that holds an entry: what the task notes of its bridge stays. -/
theorem follows_holding {body : Fallible α} {I : Except Err α → Option (TunnelId × BridgeId) → Bool → Prop}
    (first : Prog.Follows (discipline once) (fun result q' => I result q'.own q'.done) q body.run) :
    Prog.Follows (discipline once) (fun result q' => I result q'.own q'.done) q (holding id body).run :=
  Prog.follows_bind (Prog.follows_mono first fun _ _ ends => ⟨trivial, fun _ => ends⟩)

/-- A task registers its bridge, or has none. -/
theorem registerBridge_follows :
    Prog.Follows (discipline once) (fun result q' => ∀ b, result = .ok (some b) →
      q'.own = some (id, b) ∧ q'.done = false) q (registerBridge setup m id).run := by
  have locks : Uses [.look, .read] (lockRoutable setup m id).run := obeys_run inferInstance
  refine Prog.follows_exceptBind (Prog.follows_mono
    (follows_calm locks (by decide) (by decide) (by decide) (I := fun _ _ => True) trivial) ?_)
  intro result q' _
  cases result with
  | error err =>
      intro b is
      cases is
  | ok _ =>
      refine follows_holding (I := fun result own done => ∀ b, result = .ok (some b) →
        own = some (id, b) ∧ done = false) ?_
      refine follows_act trivial fun e => ?_
      split
      · intro b is
        cases is
      · refine follows_act trivial fun b' => ?_
        intro b is
        cases is
        exact ⟨rfl, rfl⟩

theorem follows_read {f : Except Err (Option (Option Nat)) → Fallible α} {post : Except Err α → ClaimNotes → Prop}
    (found : ∀ alarm, Prog.Follows (discipline once) post q (f (.ok alarm)).run)
    (failed : ∀ err, Prog.Follows (discipline once) post q (f (.error err)).run) :
    Prog.Follows (discipline once) post q (attempt (act (.read id)) >>= f).run := by
  refine ⟨trivial, fun result => ?_⟩
  cases result with
  | ok alarm => exact found alarm
  | error err => exact failed err

/-- An entry was locked, and the task notes the same of its bridge as before. -/
def Locked (q : ClaimNotes) (id : TunnelId) (result : Except Err α) (q' : ClaimNotes) : Prop :=
  q'.own = q.own ∧ q'.done = q.done ∧ ∀ a, result = .ok a → q'.entry = some id

theorem lock_follows : Prog.Follows (discipline once) (Locked q id) q (lock id).run := by
  refine follows_act trivial fun _ => follows_act trivial fun e => ?_
  split
  · refine follows_read (fun found => ?_) fun err => ?_
    · refine follows_act trivial fun now => follows_act trivial fun generation => ?_
      exact ⟨trivial, fun _ => ⟨rfl, rfl, fun _ _ => rfl⟩⟩
    · exact follows_act trivial fun _ => ⟨rfl, rfl, fun _ is => by cases is⟩
  · exact ⟨rfl, rfl, fun _ _ => rfl⟩

theorem lockForAttach_follows :
    Prog.Follows (discipline once) (Locked q id) q (lockForAttach setup m id).run := by
  have held (result : Except Err (Option (Option Nat))) :
      Locked q id result { q with entry := some id, seen := none } := ⟨rfl, rfl, fun _ _ => rfl⟩
  unfold lockForAttach
  split
  · refine Prog.follows_exceptBind (Prog.follows_mono lock_follows ?_)
    intro result q' ends
    cases result with
    | ok a => exact ⟨ends.1, ends.2.1, fun _ _ => ends.2.2 a rfl⟩
    | error err => exact ⟨ends.1, ends.2.1, fun _ is => by cases is⟩
  · refine follows_act trivial fun _ => follows_act trivial fun e => follows_act trivial fun now =>
      follows_act trivial fun failedAt => ?_
    split
    · exact held _
    · refine follows_act trivial fun generation => ?_
      split
      · exact held _
      · refine follows_read (fun found => ?_) fun err => ?_
        · cases found with
          | some alarm => exact ⟨trivial, fun _ => held _⟩
          | none => exact ⟨trivial, fun _ => held _⟩
        · dsimp only
          split
          · exact follows_act trivial fun _ => held _
          · exact follows_act trivial fun _ => ⟨rfl, rfl, fun _ is => by cases is⟩

/-- What an attach leaves of a task's bridge: it is still its own, and not attached unless the attach says so. -/
def Attempted (once : Bool) (id : TunnelId) (b : BridgeId) (result : Except Err Attach)
    (own : Option (TunnelId × BridgeId)) (done : Bool) : Prop :=
  own = some (id, b) ∧
    (once = true → (∀ session routes alarm, result ≠ .ok (.attached session routes alarm)) → done = false)

theorem attachLocked_follows {token : String} {routes : List String} {maxConns : Option Nat}
    {alarm : Option (Option Nat)} (own : q.own = some (id, b)) (locked : q.entry = some id)
    (waits : once = true → q.done = false) :
    Prog.Follows (discipline once) (fun result q' => Attempted once id b result q'.own q'.done) q
      (attachLocked setup m id b token routes maxConns alarm).run := by
  have refused {q' : ClaimNotes} (same : q'.own = q.own) (still : q'.done = q.done) (result : Except Err Attach) :
      Attempted once id b result q'.own q'.done := ⟨same.trans own, fun yes _ => still.trans (waits yes)⟩
  unfold attachLocked
  refine follows_act trivial fun e => ?_
  split
  · exact refused rfl rfl _
  · split
    · exact refused rfl rfl _
    · rename_i asked
      refine follows_act trivial fun _ => follows_act trivial fun bridges => ?_
      have looked : ClaimNotes.next { q with seen := none } (.bridgesOf id) bridges =
          { q with seen := some bridges } := if_pos locked
      rw [show (q.next (.peek id) e).next (.retireStale id) () = { q with seen := none } from rfl, looked]
      dsimp only
      split
      · exact refused rfl rfl _
      · rename_i room
        split
        · exact refused rfl rfl _
        · rename_i free
          have valid : ∀ route ∈ routes, isValidRoute route = true := by
            intro route listed
            simp only [Bool.or_eq_true, List.any_eq_true, not_or, not_exists, not_and, Bool.not_eq_true',
              Bool.not_eq_false] at asked
            exact asked.2 route listed
          have claims (session : String) (now : Nat) : allows once { q with seen := some bridges }
              (.attachBridge id b session routes maxConns now) :=
            ⟨own, locked, waits, valid, bridges, rfl, Nat.not_lt.mp room, by simpa using free⟩
          have attaches : Prog.Follows (discipline once) (fun result q' => Attempted once id b result q'.own q'.done) { q with seen := some bridges } (do
              let now ← act .now
              let session := "sess_" ++ (← act .uuid)
              act (.attachBridge id b session routes maxConns now)
              return .attached session routes alarm : Fallible Attach).run := by
            refine follows_act trivial fun now => follows_act trivial fun name => follows_act (claims _ _) fun _ => ?_
            exact ⟨own, fun _ refused => absurd rfl (refused _ _ _)⟩
          split
          · refine follows_act trivial fun held => ?_
            split
            · exact refused rfl rfl _
            · exact attaches
          · exact attaches

theorem attach_follows {token : String} {routes : List String} {maxConns : Option Nat}
    (own : q.own = some (id, b)) (waits : once = true → q.done = false) :
    Prog.Follows (discipline once) (fun result q' => Attempted once id b result q'.own q'.done) q (attach setup m id b token routes maxConns).run := by
  refine Prog.follows_exceptBind (Prog.follows_mono lockForAttach_follows ?_)
  intro result q' locked
  obtain ⟨same, still, entry⟩ := locked
  cases result with
  | error err => exact ⟨same.trans own, fun yes _ => still.trans (waits yes)⟩
  | ok alarm =>
      refine follows_holding ?_
      exact attachLocked_follows (same.trans own) (entry alarm rfl) fun yes => still.trans (waits yes)

theorem closed_follows (own : q.own = some (id, b)) :
    Prog.Follows (discipline once) (fun _ _ => True) q (bridgeClosed id b) :=
  ⟨trivial, fun _ => ⟨own, fun _ => ⟨trivial, fun _ => trivial⟩⟩⟩

theorem attachUntil_follows (requests : List AttachRequest) (own : q.own = some (id, b))
    (waits : once = true → q.done = false) :
    Prog.Follows (discipline once) (fun _ q' => q'.own = some (id, b)) q (attachUntil setup m id b requests) := by
  induction requests generalizing q with
  | nil => exact own
  | cons request rest ih =>
      refine Prog.follows_bind (Prog.follows_mono (attach_follows own waits) ?_)
      intro result q' attempted
      split
      · exact attempted.1
      · rename_i refused
        exact ih attempted.1 fun yes => attempted.2 yes fun session routes alarm is => refused session routes alarm is

theorem attachAll_follows (requests : List AttachRequest) (own : q.own = some (id, b)) :
    Prog.Follows (discipline false) (fun _ q' => q'.own = some (id, b)) q (attachAll setup m id b requests) := by
  induction requests generalizing q with
  | nil => exact own
  | cons request rest ih =>
      refine Prog.follows_bind (Prog.follows_mono (attach_follows own (by simp)) ?_)
      intro result q' attempted
      exact ih attempted.1

/-- A task that registers a bridge, attaches it in some way and cleans up after it. -/
theorem bridge_follows {attaching : BridgeId → Call Unit}
    (follows : ∀ b q', q'.own = some (id, b) → q'.done = false →
      Prog.Follows (discipline once) (fun _ q'' => q''.own = some (id, b)) q' (attaching b)) :
    Prog.Follows (discipline once) (fun _ _ => True) q (do
      match ← (registerBridge setup m id).run with
      | .ok (some b) =>
          attaching b
          bridgeClosed id b
      | _ => pure ()) := by
  refine Prog.follows_bind (Prog.follows_mono registerBridge_follows ?_)
  intro result q' registered
  split
  · rename_i b
    obtain ⟨own, waits⟩ := registered b rfl
    exact Prog.follows_bind (Prog.follows_mono (follows b q' own waits) fun _ _ own => closed_follows own)
  · trivial

theorem session_follows (requests : List AttachRequest) :
    Prog.Follows (discipline once) (fun _ _ => True) q (session setup m id requests) :=
  bridge_follows fun _ _ own waits => attachUntil_follows requests own fun _ => waits

theorem attaches_follows (requests : List AttachRequest) :
    Prog.Follows (discipline false) (fun _ _ => True) q (attaches setup m id requests) :=
  bridge_follows fun _ _ own _ => attachAll_follows requests own

/-- Only a bridge's session attaches and cleans up. -/
theorem operation_follows (t : Task) (op : Operation) :
    Prog.Follows (discipline once) (fun _ _ => True) q (program setup t op) := by
  by_cases bridge : ∃ id requests, op = .session id requests
  · obtain ⟨id, requests, rfl⟩ := bridge
    exact session_follows requests
  · have tags : Tag.attach ∉ footprint op ∧ Tag.closed ∉ footprint op ∧ Tag.register ∉ footprint op := by
      cases op
      case session id requests => exact absurd ⟨id, requests, rfl⟩ bridge
      all_goals simp [footprint]
    exact follows_calm (program_uses setup t op) tags.1 tags.2.1 tags.2.2 (I := fun _ _ => True) trivial

end Follows

end ClaimNotes

/-! ### The registry -/

/-- What every task did with bridges, and the tunnel each bridge was registered for. -/
structure Registry where
  notes : Task → ClaimNotes
  home : MachineId → BridgeId → Option TunnelId

namespace Registry

def empty : Registry where
  notes := fun _ => {}
  home := fun _ _ => none

/-- The home of a bridge is known from when it is registered. -/
def homes (t : Task) : (op : Act) → op.Ans → (MachineId → BridgeId → Option TunnelId) →
    MachineId → BridgeId → Option TunnelId
  | .registerBridge id, b, home => fun m b' => if m = t.machine ∧ b' = b then some id else home m b'
  | _, _, home => home

def ghost (setup : Setup) : Ghost (bridging setup) Registry where
  call := fun t op ans _ _ past =>
    { notes := fun t' => if t' = t then (past.notes t).next op ans else past.notes t'
      home := homes t op ans past.home }

end Registry

/-- The entries list the bridges of their tunnels, and every bridge that claims a route is listed. -/
structure Listed (w : World) (home : MachineId → BridgeId → Option TunnelId) : Prop where
  fresh : ∀ m b, (w.machine m).nextBridge ≤ b → w.bridge m b = none ∧ home m b = none
  homed : ∀ m id b, b ∈ (w.entry m id).bridges → home m b = some id
  known : ∀ m id b, b ∈ (w.entry m id).bridges → (w.bridge m b).isSome = true
  distinct : ∀ m id, (w.entry m id).bridges.Nodup
  live : ∀ m b bridge, w.bridge m b = some bridge → bridge.isAttached = true →
    ∃ id, home m b = some id ∧ b ∈ (w.entry m id).bridges

/-- What is true of the bridge a task registered, and of the entry it holds. -/
structure ClaimTask (w : World) (q : ClaimNotes) (t : Task) : Prop where
  own : ∀ id b, q.own = some (id, b) → b ∈ (w.entry t.machine id).bridges ∧
    ∃ bridge, w.bridge t.machine b = some bridge ∧ bridge.owner = t ∧ (q.done = false → bridge.attached = false)
  entry : ∀ id, q.entry = some id → w.holds t id = true
  seen : ∀ id bridges, q.entry = some id → q.seen = some bridges → w.Shows t.machine id bridges

structure Claimed (s : World × Registry) : Prop where
  listed : Listed s.1 s.2.home
  tasks : ∀ t, ClaimTask s.1 (s.2.notes t) t

/-- The bridges of every tunnel on every machine have their routes for themselves, within the limit. -/
def Shared (w : World) : Prop :=
  ∀ m id, Allotted (fun route => isValidRoute route = true) maxTunnelRoutes (w.entry m id).bridges (w.held m)

/-! ### One act -/

section Steps

variable {setup : Setup} {t t' : Task} {op : Act} {c : Choice} {w w' : World} {ans : op.Ans} {id : TunnelId}
  {b : BridgeId} {m : MachineId} {home : MachineId → BridgeId → Option TunnelId}

theorem SameBridges.held (same : SameBridges w w') (m : MachineId) (b : BridgeId) : w'.held m b = w.held m b := by
  rcases same.kept m b with ⟨before, after⟩ | ⟨old, new, before, after, kept⟩
  · rw [World.held, World.held, before, after]
  · rw [World.held_some before, World.held_some after, Bridge.held, Bridge.held, kept.isAttached, kept.routes]

theorem SameBridges.listed_same (same : SameBridges w w') (listed : Listed w home) : Listed w' home := by
  constructor
  · intro m b unused
    rw [same.next] at unused
    obtain ⟨missing, homeless⟩ := listed.fresh m b unused
    refine ⟨?_, homeless⟩
    rcases same.kept m b with ⟨_, after⟩ | ⟨old, new, before, _, _⟩
    · exact after
    · exact absurd (missing.symm.trans before) (by simp)
  · intro m id b member
    rw [same.listed] at member
    exact listed.homed m id b member
  · intro m id b member
    rw [same.listed] at member
    have known := listed.known m id b member
    rcases same.kept m b with ⟨before, _⟩ | ⟨old, new, _, after, _⟩
    · rw [before] at known
      cases known
    · rw [after]
      rfl
  · intro m id
    rw [same.listed]
    exact listed.distinct m id
  · intro m b bridge found attached
    rcases same.kept m b with ⟨_, after⟩ | ⟨old, new, before, after, kept⟩
    · exact absurd (after.symm.trans found) (by simp)
    · cases after.symm.trans found
      rw [kept.isAttached] at attached
      obtain ⟨id, is, member⟩ := listed.live m b old before attached
      exact ⟨id, is, by rwa [same.listed]⟩

theorem SameBridges.shared (same : SameBridges w w') (shared : Shared w) : Shared w' := by
  intro m id
  have held : w'.held m = w.held m := funext fun b => same.held m b
  rw [same.listed, held]
  exact shared m id

/-- A bridge that is registered is not the next one. -/
theorem Listed.used (listed : Listed w home) (member : b ∈ (w.entry m id).bridges) :
    b ≠ (w.machine m).nextBridge := by
  rintro rfl
  have known := listed.known m id _ member
  rw [(listed.fresh m _ (Nat.le_refl _)).1] at known
  cases known

theorem held_register (listed : Listed w home) (m : MachineId) (b : BridgeId) :
    (w.registerBridge t id).held m b = w.held m b := by
  unfold World.held
  rw [World.bridge_registerBridge]
  split
  · rename_i new
    obtain ⟨rfl, rfl⟩ := new
    rw [(listed.fresh t.machine _ (Nat.le_refl _)).1]
    split <;> rfl
  · rfl

theorem Listed.register (listed : Listed w home) :
    Listed (w.registerBridge t id) fun m b =>
      if m = t.machine ∧ b = (w.machine t.machine).nextBridge then some id else home m b := by
  have member {m : MachineId} {id' : TunnelId} {b : BridgeId} (now : b ∈ ((w.registerBridge t id).entry m id').bridges) :
      b ∈ (w.entry m id').bridges ∨ (m = t.machine ∧ id' = id ∧ b = (w.machine t.machine).nextBridge) := by
    rw [World.entry_registerBridge] at now
    split at now
    · rename_i here
      obtain ⟨rfl, rfl⟩ := here
      rcases List.mem_append.mp now with before | new
      · exact .inl before
      · exact .inr ⟨rfl, rfl, List.mem_singleton.mp new⟩
    · exact .inl now
  constructor
  · intro m b unused
    rw [World.nextBridge_registerBridge] at unused
    have other : ¬ (m = t.machine ∧ b = (w.machine t.machine).nextBridge) := by
      rintro ⟨rfl, rfl⟩
      rw [if_pos rfl] at unused
      exact Nat.not_succ_le_self _ unused
    have before : (w.machine m).nextBridge ≤ b := by
      split at unused
      · rename_i here
        rw [here]
        exact Nat.le_of_succ_le unused
      · exact unused
    rw [World.bridge_registerBridge, if_neg other, if_neg other]
    exact listed.fresh m b before
  · intro m id' b now
    rcases member now with before | ⟨rfl, rfl, rfl⟩
    · rw [if_neg]
      · exact listed.homed m id' b before
      · rintro ⟨rfl, rfl⟩
        exact listed.used before rfl
    · exact if_pos ⟨rfl, rfl⟩
  · intro m id' b now
    rw [World.bridge_registerBridge]
    split
    · rfl
    · rename_i other
      rcases member now with before | ⟨here, _, is⟩
      · exact listed.known m id' b before
      · exact absurd ⟨here, is⟩ other
  · intro m id'
    rw [World.entry_registerBridge]
    split
    · refine List.nodup_append.mpr ⟨listed.distinct _ _, by simp, ?_⟩
      intro b before b' new
      rw [List.mem_singleton.mp new]
      exact listed.used before
    · exact listed.distinct m id'
  · intro m b bridge found attached
    rw [World.bridge_registerBridge] at found
    split at found
    · rw [← Option.some.inj found] at attached
      split at attached <;> cases attached
    · rename_i other
      obtain ⟨id', is, before⟩ := listed.live m b bridge found attached
      refine ⟨id', by rw [if_neg other]; exact is, ?_⟩
      rw [World.entry_registerBridge]
      split
      · rename_i here
        rw [here.1, here.2] at before
        exact List.mem_append_left _ before
      · exact before

theorem Shared.register (shared : Shared w) (listed : Listed w home) : Shared (w.registerBridge t id) := by
  intro m id'
  rw [World.entry_registerBridge]
  split
  · rename_i here
    obtain ⟨rfl, rfl⟩ := here
    refine (shared t.machine id').join (fun b _ => held_register listed t.machine b) ?_
    rw [held_register listed, World.held, (listed.fresh _ _ (Nat.le_refl _)).1]
    rfl
  · have held : (w.registerBridge t id).held m = w.held m := funext fun b => held_register listed m b
    rw [held]
    exact shared m id'

/-- A bridge's retirement takes its routes. -/
theorem held_retire (m : MachineId) (b : BridgeId) :
    (w.retireStale setup t.machine id).held m b = w.held m b ∨ (w.retireStale setup t.machine id).held m b = [] := by
  unfold World.held
  rw [World.bridge_retireStale]
  split
  · right
    cases w.bridge m b with
    | none => rfl
    | some bridge => simp [Bridge.held, Bridge.isAttached, Bridge.close, Bridge.finishChannels]
  · exact .inl rfl

theorem Listed.retire (listed : Listed w home) : Listed (w.retireStale setup t.machine id) home := by
  constructor
  · intro m b unused
    rw [World.nextBridge_retireStale] at unused
    obtain ⟨missing, homeless⟩ := listed.fresh m b unused
    refine ⟨?_, homeless⟩
    rw [World.bridge_retireStale, missing]
    split <;> rfl
  · intro m id' b member
    rw [World.entry_retireStale] at member
    exact listed.homed m id' b member
  · intro m id' b member
    rw [World.entry_retireStale] at member
    rw [World.bridge_retireStale]
    split
    · rw [Option.isSome_map]
      exact listed.known m id' b member
    · exact listed.known m id' b member
  · intro m id'
    rw [World.entry_retireStale]
    exact listed.distinct m id'
  · intro m b bridge found attached
    rw [World.bridge_retireStale] at found
    split at found
    · obtain ⟨old, _, rfl⟩ := Option.map_eq_some_iff.mp found
      simp [Bridge.isAttached, Bridge.close, Bridge.finishChannels] at attached
    · obtain ⟨id', is, member⟩ := listed.live m b bridge found attached
      exact ⟨id', is, by rwa [World.entry_retireStale]⟩

theorem Shared.retire (shared : Shared w) : Shared (w.retireStale setup t.machine id) := by
  intro m id'
  rw [World.entry_retireStale]
  exact (shared m id').release (.refl _) fun b _ => held_retire m b

section Attach

variable {session : String} {routes : List String} {maxConns : Option Nat} {now : Nat}

/-- The bridge of an attach claims what was asked, unless it was retired before. -/
theorem held_attach (known : (w.bridge t.machine b).isSome = true) :
    (w.attachBridge setup t.machine id b session routes maxConns now).held t.machine b = routes ∨
      (w.attachBridge setup t.machine id b session routes maxConns now).held t.machine b = [] := by
  obtain ⟨bridge, found⟩ := Option.isSome_iff_exists.mp known
  unfold World.held
  rw [World.bridge_attachBridge, if_pos ⟨rfl, rfl⟩, found]
  cases gone : bridge.detached with
  | false => exact .inl (by simp [Bridge.held, Bridge.isAttached, gone])
  | true => exact .inr (by simp [Bridge.held, Bridge.isAttached, gone])

theorem held_attach_other {m : MachineId} {b' : BridgeId} (other : ¬ (m = t.machine ∧ b' = b)) :
    (w.attachBridge setup t.machine id b session routes maxConns now).held m b' = w.held m b' := by
  unfold World.held
  rw [World.bridge_attachBridge, if_neg other]

theorem Listed.attach (listed : Listed w home) (member : b ∈ (w.entry t.machine id).bridges) :
    Listed (w.attachBridge setup t.machine id b session routes maxConns now) home := by
  constructor
  · intro m b' unused
    rw [World.nextBridge_attachBridge] at unused
    obtain ⟨missing, homeless⟩ := listed.fresh m b' unused
    refine ⟨?_, homeless⟩
    rw [World.bridge_attachBridge, missing]
    split <;> rfl
  · intro m id' b' member'
    rw [World.entry_attachBridge] at member'
    exact listed.homed m id' b' member'
  · intro m id' b' member'
    rw [World.entry_attachBridge] at member'
    rw [World.bridge_attachBridge]
    split
    · rw [Option.isSome_map]
      exact listed.known m id' b' member'
    · exact listed.known m id' b' member'
  · intro m id'
    rw [World.entry_attachBridge]
    exact listed.distinct m id'
  · intro m b' bridge found attached
    rw [World.bridge_attachBridge] at found
    split at found
    · rename_i own
      obtain ⟨rfl, rfl⟩ := own
      exact ⟨id, listed.homed _ _ _ member, by rwa [World.entry_attachBridge]⟩
    · obtain ⟨id', is, member'⟩ := listed.live m b' bridge found attached
      exact ⟨id', is, by rwa [World.entry_attachBridge]⟩

theorem Shared.attach (shared : Shared w) (listed : Listed w home) (member : b ∈ (w.entry t.machine id).bridges)
    {bridges : List (BridgeId × Bridge)} (seen : w.Shows t.machine id bridges)
    (valid : ∀ route ∈ routes, isValidRoute route = true)
    (room : heldRouteCount bridges b + routes.length ≤ maxTunnelRoutes)
    (free : routeConflict bridges b routes = false) :
    Shared (w.attachBridge setup t.machine id b session routes maxConns now) := by
  intro m id'
  rw [World.entry_attachBridge]
  by_cases here : m = t.machine ∧ id' = id
  · obtain ⟨rfl, rfl⟩ := here
    refine (shared t.machine id').claim (listed.distinct _ _) (by rwa [← seen.room]) (seen.free free) valid ?_
      (held_attach (listed.known _ _ _ member))
    intro b' _ other
    exact held_attach_other fun same => other same.2
  · -- the bridge is listed in no other entry
    refine (shared m id').release (.refl _) fun b' member' => .inl (held_attach_other ?_)
    rintro ⟨rfl, rfl⟩
    refine here ⟨rfl, Option.some.inj ?_⟩
    rw [← listed.homed _ _ _ member', listed.homed _ _ _ member]

end Attach

theorem held_close (m : MachineId) (b' : BridgeId) :
    (w.closedBridge setup t.machine id b).held m b' = w.held m b' ∨
      (w.closedBridge setup t.machine id b).held m b' = [] := by
  unfold World.held
  rw [World.bridge_closedBridge]
  split
  · right
    cases w.bridge m b' with
    | none => rfl
    | some bridge => simp [Bridge.held, Bridge.isAttached, Bridge.finishChannels]
  · exact .inl rfl

theorem Listed.close (listed : Listed w home) (member : b ∈ (w.entry t.machine id).bridges) :
    Listed (w.closedBridge setup t.machine id b) home := by
  have before {m : MachineId} {id' : TunnelId} {b' : BridgeId}
      (now : b' ∈ ((w.closedBridge setup t.machine id b).entry m id').bridges) : b' ∈ (w.entry m id').bridges := by
    rw [World.entry_closedBridge] at now
    split at now
    · rename_i here
      rw [here.1, here.2]
      exact (List.mem_filter.mp now).1
    · exact now
  constructor
  · intro m b' unused
    rw [World.nextBridge_closedBridge] at unused
    obtain ⟨missing, homeless⟩ := listed.fresh m b' unused
    refine ⟨?_, homeless⟩
    rw [World.bridge_closedBridge, missing]
    split <;> rfl
  · intro m id' b' now
    exact listed.homed m id' b' (before now)
  · intro m id' b' now
    rw [World.bridge_closedBridge]
    split
    · rw [Option.isSome_map]
      exact listed.known m id' b' (before now)
    · exact listed.known m id' b' (before now)
  · intro m id'
    rw [World.entry_closedBridge]
    split
    · exact (listed.distinct _ _).filter _
    · exact listed.distinct m id'
  · intro m b' bridge found attached
    rw [World.bridge_closedBridge] at found
    split at found
    · obtain ⟨old, _, rfl⟩ := Option.map_eq_some_iff.mp found
      simp [Bridge.isAttached, Bridge.finishChannels] at attached
    · rename_i kept
      obtain ⟨id', is, listed'⟩ := listed.live m b' bridge found attached
      refine ⟨id', is, ?_⟩
      rw [World.entry_closedBridge]
      split
      · rename_i here
        obtain ⟨rfl, rfl⟩ := here
        refine List.mem_filter.mpr ⟨listed', ?_⟩
        have other : b' ≠ b := by
          rintro rfl
          exact kept ⟨rfl, rfl, by rw [found]; exact attached⟩
        simpa using other
      · exact listed'

theorem Shared.close (shared : Shared w) : Shared (w.closedBridge setup t.machine id b) := by
  intro m id'
  rw [World.entry_closedBridge]
  split
  · rename_i here
    obtain ⟨rfl, rfl⟩ := here
    exact (shared t.machine id').release List.filter_sublist fun b' _ => held_close t.machine b'
  · exact (shared m id').release (.refl _) fun b' _ => held_close m b'

/-- A bridge that stays with the task that registered it. -/
def Stays (w w' : World) (t : Task) (id : TunnelId) (b : BridgeId) : Prop :=
  b ∈ (w.entry t.machine id).bridges → b ∈ (w'.entry t.machine id).bridges ∧
    ∀ bridge, w.bridge t.machine b = some bridge → bridge.owner = t →
      ∃ bridge', w'.bridge t.machine b = some bridge' ∧ bridge'.owner = t ∧ bridge'.attached = bridge.attached

theorem SameBridges.stays (same : SameBridges w w') (t : Task) (id : TunnelId) (b : BridgeId) : Stays w w' t id b := by
  intro member
  refine ⟨by rwa [same.listed], ?_⟩
  intro bridge found owner
  rcases same.kept t.machine b with ⟨before, _⟩ | ⟨old, new, before, after, kept⟩
  · exact absurd (before.symm.trans found) (by simp)
  · cases before.symm.trans found
    exact ⟨new, after, kept.owner.trans owner, kept.attached⟩

theorem stays_register (listed : Listed w home) (t' : Task) (id' : TunnelId) (b : BridgeId) :
    Stays w (w.registerBridge t id) t' id' b := by
  intro member
  constructor
  · rw [World.entry_registerBridge]
    split
    · rename_i here
      rw [here.1, here.2] at member
      exact List.mem_append_left _ member
    · exact member
  · intro bridge found owner
    refine ⟨bridge, ?_, owner, rfl⟩
    rw [World.bridge_registerBridge, if_neg]
    · exact found
    · rintro ⟨here, is⟩
      exact listed.used member (by rw [is, here])

theorem stays_retire (t' : Task) (id' : TunnelId) (b : BridgeId) :
    Stays w (w.retireStale setup t.machine id) t' id' b := by
  intro member
  refine ⟨by rwa [World.entry_retireStale], ?_⟩
  intro bridge found owner
  rw [World.bridge_retireStale, found]
  split
  · exact ⟨_, rfl, owner, rfl⟩
  · exact ⟨bridge, rfl, owner, rfl⟩

/-- Another task's bridge is not the one that is attached or cleaned up. -/
theorem stays_attach {session : String} {routes : List String} {maxConns : Option Nat} {now : Nat}
    (other : t' ≠ t) {mine : Bridge} (found : w.bridge t.machine b = some mine) (owner : mine.owner = t) (id' : TunnelId)
    (b' : BridgeId) :
    Stays w (w.attachBridge setup t.machine id b session routes maxConns now) t' id' b' := by
  intro member
  refine ⟨by rwa [World.entry_attachBridge], ?_⟩
  intro bridge found' owner'
  refine ⟨bridge, ?_, owner', rfl⟩
  rw [World.bridge_attachBridge, if_neg]
  · exact found'
  · rintro ⟨here, rfl⟩
    rw [here, found] at found'
    cases found'
    exact other (owner'.symm.trans owner)

theorem stays_close (other : t' ≠ t) {mine : Bridge} (found : w.bridge t.machine b = some mine)
    (owner : mine.owner = t) (id' : TunnelId) (b' : BridgeId)
    {bridge' : Bridge} (found' : w.bridge t'.machine b' = some bridge') (owner' : bridge'.owner = t') :
    Stays w (w.closedBridge setup t.machine id b) t' id' b' := by
  have apart : ¬ (t'.machine = t.machine ∧ b' = b) := by
    rintro ⟨here, rfl⟩
    rw [here, found] at found'
    cases found'
    exact other (owner'.symm.trans owner)
  intro member
  constructor
  · rw [World.entry_closedBridge]
    split
    · rename_i here
      rw [here.1, here.2] at member
      refine List.mem_filter.mpr ⟨member, ?_⟩
      have different : b' ≠ b := fun is => apart ⟨here.1, is⟩
      simpa using different
    · exact member
  · intro bridge taken owns
    refine ⟨bridge, ?_, owns, rfl⟩
    rw [World.bridge_closedBridge, if_neg fun gone => apart ⟨gone.1, gone.2.1⟩]
    exact taken

theorem ClaimTask.owns {q : ClaimNotes} (task : ClaimTask w q t) (stays : ∀ id b, q.own = some (id, b) → Stays w w' t id b)
    {q' : ClaimNotes} (same : q'.own = q.own) (done : q'.done = q.done) :
    ∀ id b, q'.own = some (id, b) → b ∈ (w'.entry t.machine id).bridges ∧
      ∃ bridge, w'.bridge t.machine b = some bridge ∧ bridge.owner = t ∧ (q'.done = false → bridge.attached = false) := by
  intro id b own
  rw [same] at own
  obtain ⟨member, bridge, found, owner, waits⟩ := task.own id b own
  obtain ⟨member', kept⟩ := stays id b own member
  obtain ⟨bridge', found', owner', attached⟩ := kept bridge found owner
  refine ⟨member', bridge', found', owner', fun yes => ?_⟩
  rw [attached]
  exact waits (done ▸ yes)

/-- What is listed in an entry that a task holds is not what another task works on. -/
theorem Listed.foreign (listed : Listed w home) (other : t' ≠ t) {id' : TunnelId} (held : w.holds t id = true)
    (held' : w.holds t' id' = true) {b' : BridgeId} (member : b ∈ (w.entry t.machine id).bridges)
    (member' : b' ∈ (w.entry t'.machine id').bridges) : ¬ (t'.machine = t.machine ∧ b' = b) := by
  rintro ⟨here, rfl⟩
  have home' := listed.homed _ _ _ member'
  rw [here, listed.homed _ _ _ member] at home'
  cases home'
  have holder := World.holds_iff.mp held
  have holder' := World.holds_iff.mp held'
  rw [here, holder] at holder'
  cases holder'
  exact other rfl

/-- Another task's bridge stays with it. -/
theorem ClaimTask.others_stay {once : Bool} {q q' : ClaimNotes} (task : ClaimTask w q' t') (mine : ClaimTask w q t)
    (listed : Listed w home) (other : t' ≠ t) (allowed : ClaimNotes.allows once q op)
    (h : exec setup t op c w = some (ans, w')) {id : TunnelId} {b : BridgeId} (own : q'.own = some (id, b)) :
    Stays w w' t' id b := by
  cases exec_bridges h with
  | same same => exact same.stays t' id b
  | registered id' act held after =>
      rw [after]
      exact stays_register listed t' id b
  | retired id' act held after =>
      rw [after]
      exact stays_retire t' id b
  | attached id' b' session routes maxConns now act held after =>
      subst act
      obtain ⟨_, bridge, found, owner, _⟩ := mine.own id' b' allowed.1
      rw [after]
      exact stays_attach other found owner id b
  | closed id' b' act held after =>
      subst act
      obtain ⟨_, bridge, found, owner, _⟩ := mine.own id' b' allowed
      obtain ⟨_, bridge', found', owner', _⟩ := task.own id b own
      rw [after]
      exact stays_close other found owner id b found' owner'

/-- What the bridges of an entry claim stays while another task acts. -/
theorem ClaimTask.others_held {once : Bool} {q : ClaimNotes} (mine : ClaimTask w q t) (listed : Listed w home)
    (other : t' ≠ t) (allowed : ClaimNotes.allows once q op) (h : exec setup t op c w = some (ans, w'))
    {id : TunnelId} (held' : w.holds t' id = true) {b : BridgeId} (member : b ∈ (w.entry t'.machine id).bridges) :
    w'.held t'.machine b = w.held t'.machine b := by
  cases exec_bridges h with
  | same same => exact same.held t'.machine b
  | registered id' act held after =>
      rw [after]
      exact held_register listed t'.machine b
  | retired id' act held after =>
      rw [after, World.held, World.held, World.bridge_retireStale, if_neg]
      rintro ⟨here, stale⟩
      exact listed.foreign other held held' (List.mem_filter.mp stale).1 member ⟨here, rfl⟩
  | attached id' b' session routes maxConns now act held after =>
      subst act
      rw [after]
      exact held_attach_other (listed.foreign other held held' (mine.own id' b' allowed.1).1 member)
  | closed id' b' act held after =>
      subst act
      rw [after, World.held, World.held, World.bridge_closedBridge, if_neg]
      rintro ⟨here, is, _⟩
      exact listed.foreign other held held' (mine.own id' b' allowed).1 member ⟨here, is⟩

theorem World.Shows.of_same {bridges : List (BridgeId × Bridge)} (shows_ : w.Shows m id bridges)
    (same : (w'.entry m id).bridges = (w.entry m id).bridges)
    (held : ∀ b ∈ (w.entry m id).bridges, w'.held m b = w.held m b) : w'.Shows m id bridges := by
  refine Eq.trans shows_ ?_
  rw [same]
  exact List.map_congr_left fun b member => by rw [held b member]

theorem ClaimTask.others {once : Bool} {q q' : ClaimNotes} (task : ClaimTask w q' t') (mine : ClaimTask w q t)
    (listed : Listed w home) (other : t' ≠ t) (allowed : ClaimNotes.allows once q op)
    (h : exec setup t op c w = some (ans, w')) : ClaimTask w' q' t' := by
  have entry {id : TunnelId} (held : w.holds t' id = true) : w'.entry t'.machine id = w.entry t'.machine id :=
    others_entry (.inl ⟨t, op, c, ans, fun is => other is.symm, h⟩) held
  constructor
  · exact task.owns (fun id b own => task.others_stay mine listed other allowed h own) rfl rfl
  · intro id locked
    have held := task.entry id locked
    rw [World.holds_iff, entry held]
    exact World.holds_iff.mp held
  · intro id bridges locked seen
    have held := task.entry id locked
    refine (task.seen id bridges locked seen).of_same (by rw [entry held]) ?_
    exact fun b member => mine.others_held listed other allowed h held member

/-! #### The acts of the task itself -/

/-- The acts that register, attach or detach bridges. -/
def Act.rearranges : Act → Bool
  | .registerBridge _ => true
  | .retireStale _ => true
  | .attachBridge .. => true
  | .closedBridge .. => true
  | _ => false

theorem exec_sameBridges (h : exec setup t op c w = some (ans, w')) (still : op.rearranges = false) :
    SameBridges w w' := by
  cases exec_bridges h with
  | same same => exact same
  | registered _ act =>
      subst act
      cases still
  | retired _ act =>
      subst act
      cases still
  | attached _ _ _ _ _ _ act =>
      subst act
      cases still
  | closed _ _ act =>
      subst act
      cases still

/-- An act that a task notes nothing of. -/
theorem ClaimTask.unnoted {q : ClaimNotes} (task : ClaimTask w q t) (h : exec setup t op c w = some (ans, w'))
    (same : SameBridges w w') (keeps : ∀ id, op ≠ .unlock id) : ClaimTask w' q t := by
  constructor
  · exact task.owns (fun id b _ => same.stays t id b) rfl rfl
  · exact fun id locked => holds_kept h (task.entry id locked) (keeps id)
  · intro id bridges locked seen
    exact (task.seen id bridges locked seen).of_same (same.listed _ _) fun b _ => same.held _ b

/-- A task forgets what it saw. -/
theorem ClaimTask.unseen {q q' : ClaimNotes} (task : ClaimTask w q t) (h : exec setup t op c w = some (ans, w'))
    (stays : ∀ id b, q.own = some (id, b) → Stays w w' t id b) (keeps : ∀ id, op ≠ .unlock id)
    (same : q'.own = q.own) (done : q'.done = q.done) (locked : q'.entry = q.entry) (forgot : q'.seen = none) :
    ClaimTask w' q' t := by
  constructor
  · exact task.owns stays same done
  · intro id is
    exact holds_kept h (task.entry id (locked ▸ is)) (keeps id)
  · intro id bridges _ seen
    rw [forgot] at seen
    cases seen

theorem ClaimTask.locks {q : ClaimNotes} (task : ClaimTask w q t) {ans : Unit}
    (h : exec setup t (.lock id) c w = some (ans, w')) : ClaimTask w' (q.next (.lock id) ans) t := by
  have same := exec_sameBridges h rfl
  constructor
  · exact task.owns (fun id b _ => same.stays t id b) rfl rfl
  · intro id' locked
    cases locked
    rw [World.holds_iff, (exec_lock h).2]
    simp
  · intro id' bridges _ seen
    cases seen

theorem ClaimTask.unlocks {q : ClaimNotes} (task : ClaimTask w q t) {ans : Unit}
    (h : exec setup t (.unlock id) c w = some (ans, w')) : ClaimTask w' (q.next (.unlock id) ans) t := by
  have same := exec_sameBridges h rfl
  constructor
  · exact task.owns (fun id b _ => same.stays t id b) rfl rfl
  · intro id' locked
    cases locked
  · intro id' bridges _ seen
    cases seen

theorem ClaimTask.registers {q : ClaimNotes} (task : ClaimTask w q t) {ans : BridgeId}
    (h : exec setup t (.registerBridge id) c w = some (ans, w')) :
    ClaimTask w' (q.next (.registerBridge id) ans) t ∧ ans = (w.machine t.machine).nextBridge ∧
      w' = w.registerBridge t id := by
  have done := h
  simp only [exec] at done
  obtain ⟨held, run⟩ := World.onEntry_spec done
  cases run
  refine ⟨?_, rfl, rfl⟩
  constructor
  · intro id' b own
    cases own
    refine ⟨?_, _, by rw [World.bridge_registerBridge, if_pos ⟨rfl, rfl⟩], ?_, ?_⟩
    · rw [World.entry_registerBridge, if_pos ⟨rfl, rfl⟩]
      exact List.mem_append_right _ List.mem_cons_self
    · split <;> rfl
    · intro _
      split <;> rfl
  · exact fun id' locked => holds_kept h (task.entry id' locked) (by simp)
  · intro id' bridges _ seen
    cases seen

theorem ClaimTask.looks {q : ClaimNotes} (task : ClaimTask w q t) (listed : Listed w home)
    {ans : List (BridgeId × Bridge)} (h : exec setup t (.bridgesOf id) c w = some (ans, w')) :
    ClaimTask w' (q.next (.bridgesOf id) ans) t ∧ w' = w := by
  have done := h
  simp only [exec] at done
  obtain ⟨held, run⟩ := World.onEntry_spec done
  cases run
  refine ⟨?_, rfl⟩
  have looked : q.next (.bridgesOf id) (w.bridgesOf t.machine id) =
      if q.entry = some id then { q with seen := some (w.bridgesOf t.machine id) } else q := rfl
  rw [looked]
  split
  · rename_i locked
    refine ⟨task.own, task.entry, ?_⟩
    intro id' bridges locked' seen
    cases seen
    cases locked.symm.trans locked'
    exact bridgesOf_shows (listed.known _ _)
  · exact task

theorem ClaimTask.attaches {once : Bool} {q : ClaimNotes} (task : ClaimTask w q t) {session : String}
    {routes : List String} {maxConns : Option Nat} {now : Nat} {ans : Unit}
    (allowed : ClaimNotes.allows once q (.attachBridge id b session routes maxConns now))
    (h : exec setup t (.attachBridge id b session routes maxConns now) c w = some (ans, w')) :
    ClaimTask w' (q.next (.attachBridge id b session routes maxConns now) ans) t := by
  constructor
  · intro id' b' own
    cases allowed.1.symm.trans own
    obtain ⟨member, bridge, found, owner, _⟩ := task.own id b allowed.1
    cases exec_bridges h with
    | same same =>
        obtain ⟨member', kept⟩ := same.stays t id b member
        obtain ⟨bridge', found', owner', _⟩ := kept bridge found owner
        exact ⟨member', bridge', found', owner', by simp [ClaimNotes.next]⟩
    | registered _ act => cases act
    | retired _ act => cases act
    | attached _ _ _ _ _ _ act held after =>
        cases act
        rw [after, World.entry_attachBridge, World.bridge_attachBridge, if_pos ⟨rfl, rfl⟩, found]
        exact ⟨member, _, rfl, owner, by simp [ClaimNotes.next]⟩
    | closed _ _ act => cases act
  · exact fun id' locked => holds_kept h (task.entry id' locked) (by simp)
  · intro id' bridges _ seen
    cases seen

theorem ClaimTask.closes {q : ClaimNotes} (task : ClaimTask w q t) {ans : Unit}
    (h : exec setup t (.closedBridge id b) c w = some (ans, w')) :
    ClaimTask w' (q.next (.closedBridge id b) ans) t := by
  constructor
  · intro id' b' own
    cases own
  · exact fun id' locked => holds_kept h (task.entry id' locked) (by simp)
  · intro id' bridges _ seen
    cases seen

/-- What a task did to bridges, of the whole state. -/
theorem Claimed.acts {once : Bool} {past : Registry} (claimed : Claimed (w, past))
    (allowed : ClaimNotes.allows once (past.notes t) op) (h : exec setup t op c w = some (ans, w')) :
    ClaimTask w' ((past.notes t).next op ans) t ∧ Listed w' (Registry.homes t op ans past.home) := by
  have task : ClaimTask w (past.notes t) t := claimed.tasks t
  have listed : Listed w past.home := claimed.listed
  cases op
  case lock id => exact ⟨task.locks h, (exec_sameBridges h rfl).listed_same listed⟩
  case unlock id => exact ⟨task.unlocks h, (exec_sameBridges h rfl).listed_same listed⟩
  case registerBridge id =>
      obtain ⟨after, is, done⟩ := task.registers h
      refine ⟨after, ?_⟩
      subst is done
      exact listed.register
  case bridgesOf id =>
      obtain ⟨after, done⟩ := task.looks listed h
      exact ⟨after, done ▸ listed⟩
  case retireStale id =>
      have done := h
      simp only [exec] at done
      obtain ⟨held, run⟩ := World.onEntry_spec done
      cases run
      exact ⟨task.unseen h (fun id' b _ => stays_retire t id' b) (by simp) rfl rfl rfl rfl, listed.retire⟩
  case attachBridge id b session routes maxConns now =>
      have member := (task.own id b allowed.1).1
      refine ⟨task.attaches allowed h, ?_⟩
      cases exec_bridges h with
      | same same => exact same.listed_same listed
      | registered _ act => cases act
      | retired _ act => cases act
      | attached _ _ _ _ _ _ act _ after =>
          cases act
          exact after ▸ listed.attach member
      | closed _ _ act => cases act
  case closedBridge id b =>
      refine ⟨task.closes h, ?_⟩
      have done := h
      simp only [exec] at done
      obtain ⟨held, run⟩ := World.onEntry_spec done
      cases run
      exact listed.close (task.own id b allowed).1
  all_goals
    have same := exec_sameBridges h rfl
    exact ⟨task.unnoted h same (by simp), same.listed_same listed⟩

/-- The routes stay an allotment. -/
theorem Shared.acts {once : Bool} {past : Registry} (shared : Shared w) (claimed : Claimed (w, past))
    (allowed : ClaimNotes.allows once (past.notes t) op) (h : exec setup t op c w = some (ans, w')) : Shared w' := by
  have listed : Listed w past.home := claimed.listed
  cases exec_bridges h with
  | same same => exact same.shared shared
  | registered id act held after => exact after ▸ shared.register listed
  | retired id act held after => exact after ▸ shared.retire
  | attached id b session routes maxConns now act held after =>
      subst act
      obtain ⟨own, locked, _, valid, bridges, seen, room, free⟩ := allowed
      have task : ClaimTask w (past.notes t) t := claimed.tasks t
      exact after ▸ shared.attach listed (task.own id b own).1 (task.seen id bridges locked seen) valid room free
  | closed id b act held after => exact after ▸ shared.close

theorem Claimed.step {once : Bool} {past : Registry} (claimed : Claimed (w, past))
    (allowed : ClaimNotes.allows once (past.notes t) op) (h : exec setup t op c w = some (ans, w')) :
    Claimed (w', (Registry.ghost setup).call t op ans w w' past) := by
  obtain ⟨own, listed⟩ := claimed.acts allowed h
  refine ⟨listed, ?_⟩
  intro t'
  by_cases other : t' = t
  · subst other
    have notes : ((Registry.ghost setup).call t' op ans w w' past).notes t' = (past.notes t').next op ans := if_pos rfl
    rw [notes]
    exact own
  · have notes : ((Registry.ghost setup).call t op ans w w' past).notes t' = past.notes t' := if_neg other
    rw [notes]
    exact (claimed.tasks t').others (claimed.tasks t) claimed.listed other allowed h

theorem Claimed.move {past : Registry} {mv : Move} (claimed : Claimed (w, past)) (h : move mv w = some w') :
    Claimed (w', past) := by
  have same := move_bridges h
  refine ⟨same.listed_same claimed.listed, ?_⟩
  intro t
  have task : ClaimTask w (past.notes t) t := claimed.tasks t
  constructor
  · exact task.owns (fun id b _ => same.stays t id b) rfl rfl
  · intro id locked
    rw [World.holds_iff, (move_frame h).2]
    exact World.holds_iff.mp (task.entry id locked)
  · intro id bridges locked seen
    exact (task.seen id bridges locked seen).of_same (same.listed _ _) fun b _ => same.held _ b

end Steps

/-! ### Runs -/

theorem World.Started.claimed {w : World} (started : w.Started) : Claimed (w, .empty) := by
  have bare (m : MachineId) (b : BridgeId) : w.bridge m b = none := by
    unfold World.bridge
    rw [started.machines m]
  have unlisted {m : MachineId} {id : TunnelId} {b : BridgeId} (member : b ∈ (w.entry m id).bridges) : False := by
    rw [started.cold] at member
    cases member
  refine ⟨⟨?_, ?_, ?_, ?_, ?_⟩, ?_⟩
  · exact fun m b _ => ⟨bare m b, rfl⟩
  · exact fun m id b member => (unlisted member).elim
  · exact fun m id b member => (unlisted member).elim
  · intro m id
    rw [started.cold]
    exact List.nodup_nil
  · intro m b bridge found
    rw [bare] at found
    cases found
  · intro t
    constructor
    · intro id b own
      cases own
    · intro id locked
      cases locked
    · intro id bridges locked
      cases locked

theorem World.Started.shared {w : World} (started : w.Started) : Shared w := by
  intro m id
  rw [started.cold]
  constructor
  · intro b member
    cases member
  · exact Nat.zero_le _
  · intro b member
    cases member

section Runs

variable {setup : Setup} {A : Assumptions ((bridging setup).withGhost (Registry.ghost setup))} {w₀ : World}
  {cfg : Config Task Act Act.Ans (World × Registry)}

/-- The registry is right in every run, and so is what allowed acts and the surroundings keep where it is. -/
theorem claimed_of_reach (started : w₀.Started)
    (reach : ((bridging setup).withGhost (Registry.ghost setup)).Reach A (idle (w₀, .empty)) cfg) (once : Bool)
    (programs : ∀ t job s, A.start t job s →
      Prog.Follows (ClaimNotes.discipline once) (fun _ _ => True) {} ((bridging setup).program t job))
    {J : World × Registry → Prop} (init : J (w₀, .empty))
    (keeps : ∀ t op c s w' (ans : op.Ans), A.call t op c s → ClaimNotes.allows once (s.2.notes t) op → Claimed s → J s →
      exec setup t op c s.1 = some (ans, w') → J (w', (Registry.ghost setup).call t op ans s.1 w' s.2))
    (moves : ∀ mv s w', A.move mv s → Claimed s → J s → move mv s.1 = some w' → J (w', s.2)) :
    Claimed cfg.shared ∧ J cfg.shared := by
  refine reach.disciplined (ClaimNotes.discipline once) (fun _ => {}) (fun s t => s.2.notes t)
    (J := fun s => Claimed s ∧ J s) ?_ ?_ ?_ ?_ ?_ ?_ ?_
  · intro t op c s ans s' executed t'
    rw [(withGhost_exec.mp executed).2]
    rfl
  · intro mv s s' moved
    rw [(withGhost_move.mp moved).2]
    rfl
  · exact programs
  · exact ⟨started.claimed, init⟩
  · intro t
    rfl
  · intro t op c s ans s' meets allowed holds executed
    obtain ⟨ran, history⟩ := withGhost_exec.mp executed
    have after : s' = (s'.1, (Registry.ghost setup).call t op ans s.1 s'.1 s.2) := Prod.ext rfl history
    rw [after]
    exact ⟨holds.1.step allowed ran, keeps t op c s s'.1 ans meets allowed holds.1 holds.2 ran⟩
  · intro mv s s' meets holds moved
    obtain ⟨ran, history⟩ := withGhost_move.mp moved
    have after : s' = (s'.1, s.2) := Prod.ext rfl history
    rw [after]
    exact ⟨holds.1.move ran, moves mv s s'.1 meets holds.1 holds.2 ran⟩

end Runs

/-- The bridges of a tunnel on a machine, by the tunnel each was registered for: no two that are attached and not
    detached claim one route, any of them claim together at most `MAX_TUNNEL_ROUTES`, and every route they claim is
    valid. -/
structure Exclusive (w : World) (home : MachineId → BridgeId → Option TunnelId) (m : MachineId) (id : TunnelId) :
    Prop where
  apart : ∀ b b' bridge bridge', b ≠ b' → home m b = some id → home m b' = some id → w.bridge m b = some bridge →
    w.bridge m b' = some bridge' → ∀ route, bridge.claims route = true → bridge'.claims route = false
  count : ∀ bridges : List BridgeId, bridges.Nodup → (∀ b ∈ bridges, home m b = some id) →
    (bridges.map fun b => ((w.bridge m b).elim [] Bridge.held).length).sum ≤ maxTunnelRoutes
  valid : ∀ b bridge, home m b = some id → w.bridge m b = some bridge → ∀ route, bridge.claims route = true →
    isValidRoute route = true

/-- A bridge that claims a route is listed in its tunnel's entry. -/
theorem Listed.member {w : World} {home : MachineId → BridgeId → Option TunnelId} (listed : Listed w home)
    {m : MachineId} {id : TunnelId} {b : BridgeId} (homed : home m b = some id) (has : w.held m b ≠ []) :
    b ∈ (w.entry m id).bridges := by
  cases found : w.bridge m b with
  | none =>
      rw [World.held, found] at has
      exact absurd rfl has
  | some bridge =>
      rw [World.held_some found, Bridge.held] at has
      cases attached : bridge.isAttached with
      | false =>
          rw [attached] at has
          exact absurd rfl has
      | true =>
          obtain ⟨id', is, member⟩ := listed.live m b bridge found attached
          cases homed.symm.trans is
          exact member

theorem Shared.exclusive {w : World} {home : MachineId → BridgeId → Option TunnelId} (shared : Shared w)
    (listed : Listed w home) (m : MachineId) (id : TunnelId) : Exclusive w home m id := by
  have member {b : BridgeId} {bridge : Bridge} {route : String} (homed : home m b = some id)
      (found : w.bridge m b = some bridge) (claims : bridge.claims route = true) :
      b ∈ (w.entry m id).bridges ∧ route ∈ w.held m b := by
    have has : route ∈ w.held m b := by
      rw [World.held_some found]
      exact Bridge.claims_iff.mp claims
    exact ⟨listed.member homed (List.ne_nil_of_mem has), has⟩
  constructor
  · intro b b' bridge bridge' other homed homed' found found' route claims
    obtain ⟨listed, has⟩ := member homed found claims
    cases claims' : bridge'.claims route with
    | false => rfl
    | true =>
        obtain ⟨listed', has'⟩ := member homed' found' claims'
        exact absurd has' ((shared m id).apart b listed b' listed' other route has)
  · intro bridges distinct homed
    exact (shared m id).among distinct fun b is has => listed.member (homed b is) has
  · intro b bridge homed found route claims
    obtain ⟨listed, has⟩ := member homed found claims
    exact (shared m id).valid b listed route has

/-- Runs without any condition. -/
def anyClaims (setup : Setup) : Assumptions ((bridging setup).withGhost (Registry.ghost setup)) := {}

/-- In every run of operations and of bridges that attach any number of times, the routes of every tunnel on every
    machine are exclusive, within the limit and valid. -/
theorem routes_exclusive {setup : Setup} {w₀ : World} (started : w₀.Started)
    {cfg : Config Task Act Act.Ans (World × Registry)}
    (reach : ((bridging setup).withGhost (Registry.ghost setup)).Reach (anyClaims setup) (idle (w₀, .empty)) cfg)
    (m : MachineId) (id : TunnelId) : Exclusive cfg.shared.1 cfg.shared.2.home m id := by
  have holds : Claimed cfg.shared ∧ Shared cfg.shared.1 := by
    refine claimed_of_reach started reach false ?_ (J := fun s => Shared s.1) started.shared ?_ ?_
    · intro t job _ _
      cases job with
      | operation op => exact ClaimNotes.operation_follows t op
      | attaches id requests => exact ClaimNotes.attaches_follows requests
    · intro t op c s w' ans _ allowed claimed shared ran
      exact shared.acts claimed allowed ran
    · intro mv s w' _ _ shared moved
      exact (move_bridges moved).shared shared
  exact holds.2.exclusive holds.1.listed m id

instance (setup : Setup) : (anyClaims setup).Checkable where
  start := fun _ _ _ => isTrue trivial
  call := fun _ _ _ _ => isTrue trivial
  move := fun _ _ => isTrue trivial

/-- A bridge of tunnel `a`, and the random names that its acts take. -/
def claiming (t : Task) (requests : List AttachRequest) (names : List String) :
    List ((bridging (Sample.setup false)).withGhost (Registry.ghost _)).Turn :=
  .start t (.attaches "a" requests) :: names.map fun name => .call t { text := name }

/-- The routes that the first two bridges claim. -/
def firstClaims (cfg : Config Task Act Act.Ans (World × Registry)) : List (List String) :=
  [1, 2].map fun b => cfg.shared.1.held "m1" b

/-- The second bridge asks for the first one's route, is refused and takes another. -/
theorem routes_exclusive_two :
    ∃ cfg, ((bridging (Sample.setup false)).withGhost (Registry.ghost _)).Reach (anyClaims _)
        (idle (Sample.world (Sample.db [Sample.tunnel "2027-04-15T08:00:00.000Z"]), .empty)) cfg ∧
      firstClaims cfg = [["@"], ["www"]] ∧ Exclusive cfg.shared.1 cfg.shared.2.home "m1" "a" := by
  have played : (play (anyClaims (Sample.setup false))
      (claiming ⟨"m1", 1⟩ [⟨"secret", ["@"], none⟩] (List.replicate 18 "first") ++
        claiming ⟨"m1", 2⟩ [⟨"secret", ["@"], none⟩, ⟨"secret", ["www"], none⟩] (List.replicate 20 "second"))
      (idle (Sample.world (Sample.db [Sample.tunnel "2027-04-15T08:00:00.000Z"]), .empty))).map firstClaims =
        some [["@"], ["www"]] := by
    decide +kernel
  obtain ⟨cfg, ran, seen⟩ := Option.map_eq_some_iff.mp played
  have reach := reach_of_play ran
  exact ⟨cfg, reach, seen, routes_exclusive (Sample.started _) reach "m1" "a"⟩

end OpenTunnel
