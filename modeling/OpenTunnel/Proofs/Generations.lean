/-
Module: OpenTunnel.Proofs.Generations
Layer: Proofs
Purpose: Cached records and the generations their entries carry. A read is stamped with a generation the task was told
  since it locked the entry; `refresh` and `lock_for_attach` ask before they read, `lock` asks after. So an entry's
  generation is at most the one its record was read under, unless a link came up between a first load's read and its
  question.
Imports: OpenTunnel.Tasks.Discipline, OpenTunnel.Tasks.Ghost, OpenTunnel.Proofs.Executions,
  OpenTunnel.Model.Routines, OpenTunnel.Model.Sample
Trusted boundary: none (fully proved)
Main exports: Notes, Readings, Readings.UpToDate, LinksHeeded, generations_behind_reads
Open obligations: none
-/
import OpenTunnel.Tasks.Discipline
import OpenTunnel.Tasks.Ghost
import OpenTunnel.Proofs.Executions
import OpenTunnel.Model.Routines
import OpenTunnel.Model.Sample

namespace OpenTunnel

open Tasks Semantics

/-! ### Generations and acts -/

section Frame

variable {setup : Setup} {t : Task} {op : Act} {c : Choice} {w w' : World} {ans : op.Ans}

theorem generation_setMachine {m m' : MachineId} {machine : Machine}
    (same : machine.generation = (w.machine m).generation) :
    ((w.setMachine m machine).machine m').generation = (w.machine m').generation := by
  rw [World.machine_setMachine]
  split
  · rename_i here
    rw [here, same]
  · rfl

theorem generation_mapBridges (m m' : MachineId) (ids : List BridgeId) (f : Bridge → Bridge) :
    ((w.mapBridges m ids f).machine m').generation = (w.machine m').generation := generation_setMachine rfl

theorem generation_setEntry (m m' : MachineId) (id : TunnelId) (e : Entry) :
    ((w.setEntry m id e).machine m').generation = (w.machine m').generation := generation_setMachine rfl

theorem generation_detachAll (m m' : MachineId) (gone : BridgeId → Bool) :
    ((w.detachAll m gone).machine m').generation = (w.machine m').generation := generation_setMachine rfl

theorem generation_announce (m m' : MachineId) (b : BridgeId) (announcement : Announcement) :
    ((w.announce m b announcement).machine m').generation = (w.machine m').generation := generation_setMachine rfl

theorem generation_retireStale (m m' : MachineId) (id : TunnelId) :
    ((w.retireStale setup m id).machine m').generation = (w.machine m').generation := by
  unfold World.retireStale
  dsimp only
  split
  · exact (generation_detachAll ..).trans (generation_mapBridges ..)
  · exact generation_mapBridges ..

theorem generation_attachBridge (m m' : MachineId) (id : TunnelId) (b : BridgeId) (session : String)
    (routes : List String) (maxConns : Option Nat) (now : Nat) :
    ((w.attachBridge setup m id b session routes maxConns now).machine m').generation =
      (w.machine m').generation := by
  unfold World.attachBridge
  dsimp only
  split
  · exact (generation_announce ..).trans (generation_mapBridges ..)
  · exact generation_mapBridges ..

theorem generation_closedBridge (m m' : MachineId) (id : TunnelId) (b : BridgeId) :
    ((w.closedBridge setup m id b).machine m').generation = (w.machine m').generation := by
  unfold World.closedBridge
  dsimp only
  split
  · split
    · exact ((generation_detachAll ..).trans (generation_mapBridges ..)).trans (generation_setEntry ..)
    · exact (generation_mapBridges ..).trans (generation_setEntry ..)
  · exact generation_setEntry ..

/-- A machine's generation changes only where it is counted up. -/
theorem exec_machineGeneration (h : exec setup t op c w = some (ans, w')) (other : op ≠ .bumpGeneration)
    (m : MachineId) : (w'.machine m).generation = (w.machine m).generation := by
  cases op
  case bumpGeneration => exact absurd rfl other
  case save id change =>
      obtain ⟨record, held, made, -, ⟨-, -, rfl⟩ | ⟨-, -, rfl⟩ | ⟨-, -, -, rfl⟩ |
        ⟨revision, db, -, -, wrote, rfl⟩⟩ := exec_save h
      · rfl
      · rfl
      · exact generation_setEntry ..
      · exact generation_setEntry ..
  case pick id hostname ready sni =>
      simp only [exec] at h
      obtain ⟨-, picked⟩ := World.onEntry_spec h
      have after : w' = (w.pick setup t.machine id hostname ready sni).2 := by rw [picked]
      rcases World.pick_cases setup w t.machine id hostname ready sni with same | ⟨b, same⟩
      · rw [after, same]
      · rw [after, same]
        exact (generation_mapBridges ..).trans (generation_setEntry ..)
  case registerBridge id =>
      simp only [exec] at h
      obtain ⟨-, run⟩ := World.onEntry_spec h
      cases run
      exact (generation_setEntry ..).trans (generation_setMachine rfl)
  all_goals
    simp only [exec, World.onEntry, World.receive] at h
    repeat' split at h
    all_goals first
      | cases h
      | exact congrArg Machine.generation ((congrArg (fun s => s.machine m) (congrArg Prod.snd (Option.some.inj h)).symm).trans
          (World.machine_write ..))
      | exact congrArg Machine.generation ((congrArg (fun s => s.machine m)
          (congrArg Prod.snd (World.onRow_spec h).2).symm).trans (World.machine_write ..))
    all_goals first
      | rfl
      | exact generation_setEntry ..
      | exact generation_mapBridges ..
      | exact generation_retireStale ..
      | exact generation_attachBridge ..
      | exact generation_closedBridge ..
      | exact generation_setMachine rfl

/-- What an act that neither reads a record nor stamps it does to an entry's generation. -/
def SameStamp (e e' : Entry) : Prop := e' = {} ∨ (e'.generation = e.generation ∧ (e'.loaded = true → e.loaded = true))

theorem SameStamp.of_eq {e e' : Entry} (same : e' = e) : SameStamp e e' := same ▸ .inr ⟨rfl, id⟩

theorem SameStamp.noted {e e' : Entry} (generation : e'.generation = e.generation) (loaded : e'.loaded = e.loaded) :
    SameStamp e e' := .inr ⟨generation, fun yes => loaded ▸ yes⟩

theorem SameStamp.of_setEntry {m' : MachineId} {id' : TunnelId} {e : Entry} {s : World}
    (same : ∀ m id, s.entry m id = if m = m' ∧ id = id' then e else w.entry m id)
    (changed : SameStamp (w.entry m' id') e) (m : MachineId) (id : TunnelId) :
    SameStamp (w.entry m id) (s.entry m id) := by
  rw [same]
  split
  · rename_i here
    rw [here.1, here.2]
    exact changed
  · exact .of_eq rfl

theorem exec_stamps (h : exec setup t op c w = some (ans, w')) (reads : ∀ id, op ≠ .read id)
    (stamps : ∀ id stamp, op ≠ .stamp id stamp) (m : MachineId) (id : TunnelId) :
    SameStamp (w.entry m id) (w'.entry m id) := by
  cases op
  case read id' => exact absurd rfl (reads id')
  case stamp id' stamp => exact absurd rfl (stamps id' stamp)
  case lock id' =>
      obtain ⟨_, rfl⟩ := exec_lock h
      refine .of_setEntry (fun _ _ => World.entry_setEntry ..) ?_ m id
      exact .noted rfl rfl
  case unlock id' =>
      obtain ⟨_, rfl⟩ := exec_unlock h
      refine .of_setEntry (fun _ _ => World.entry_setEntry ..) ?_ m id
      exact .noted rfl rfl
  case collectIdle =>
      cases h
      rcases World.entry_collectIdle w t.machine m c.inUse id with same | ⟨after, _, _⟩
      · exact .of_eq same
      · exact .inl after
  case unload id' =>
      simp only [exec] at h
      obtain ⟨_, run⟩ := World.onEntry_spec h
      cases run
      refine .of_setEntry (fun _ _ => World.entry_setEntry ..) ?_ m id
      exact .inr ⟨rfl, fun no => by cases no⟩
  case markStale id' =>
      simp only [exec] at h
      obtain ⟨_, run⟩ := World.onEntry_spec h
      cases run
      refine .of_setEntry (fun _ _ => World.entry_setEntry ..) ?_ m id
      exact .noted rfl rfl
  case save id' change =>
      obtain ⟨record, held, made, -, ⟨-, -, rfl⟩ | ⟨-, -, rfl⟩ | ⟨-, -, -, rfl⟩ |
        ⟨revision, db, -, -, wrote, rfl⟩⟩ := exec_save h
      · exact .of_eq rfl
      · exact .of_eq rfl
      · refine .of_setEntry (fun _ _ => World.entry_setEntry ..) ?_ m id
        exact .inr ⟨rfl, fun no => by cases no⟩
      · refine .of_setEntry (fun _ _ => by rw [World.entry_setEntry, World.entry_setDb]) ?_ m id
        exact .noted rfl rfl
  case registerBridge id' =>
      simp only [exec] at h
      obtain ⟨_, run⟩ := World.onEntry_spec h
      cases run
      refine .of_setEntry (fun _ _ => World.entry_registerBridge ..) ?_ m id
      exact .noted rfl rfl
  case closedBridge id' b =>
      simp only [exec] at h
      obtain ⟨_, run⟩ := World.onEntry_spec h
      cases run
      refine .of_setEntry (fun _ _ => World.entry_closedBridge ..) ?_ m id
      exact .noted rfl rfl
  case pick id' hostname ready sni =>
      simp only [exec] at h
      obtain ⟨_, picked⟩ := World.onEntry_spec h
      have after : w' = (w.pick setup t.machine id' hostname ready sni).2 := by rw [picked]
      rcases World.pick_cases setup w t.machine id' hostname ready sni with same | ⟨b, same⟩
      · exact .of_eq (by rw [after, same])
      · rw [after, same]
        refine .of_setEntry (fun _ _ => (World.entry_mapBridges ..).trans (World.entry_setEntry ..)) ?_ m id
        exact .noted rfl rfl
  all_goals
    refine .of_eq ?_
    simp only [exec, World.onEntry, World.receive] at h
    repeat' split at h
    all_goals first
      | cases h
      | (rcases World.write_spec (Option.some.inj h) with ⟨-, -, rfl⟩ | ⟨-, -, rfl⟩ | ⟨-, -, rfl⟩ <;> rfl)
      | (obtain ⟨-, sent⟩ := World.onRow_spec h
         rcases World.write_spec sent with ⟨-, -, rfl⟩ | ⟨-, -, rfl⟩ | ⟨-, -, rfl⟩ <;> rfl)
    all_goals first | rfl | simp | (exact World.entry_setMachine _ _ _ _ rfl)

/-- The acts an inquiry makes: it locks an entry, reads its record and answers. -/
def Act.inquires : Act → Bool
  | .lock _ => true
  | .unlock _ => true
  | .peek _ => true
  | .now => true
  | .refreshFailedAt => true
  | .setRefreshFailedAt _ => true
  | .generation => true
  | .complete => true
  | .read _ => true
  | .stamp .. => true
  | .registerBridge _ => true
  | .retireStale _ => true
  | .pick .. => true
  | _ => false

/-- What an inquiry does once it has locked the entry. -/
def Act.answers : Act → Bool
  | .peek _ => true
  | .registerBridge _ => true
  | .retireStale _ => true
  | .pick .. => true
  | _ => false

/-- An inquiry's acts leave the cached record as it is, but for the read. -/
theorem exec_inquires (h : exec setup t op c w = some (ans, w')) (inquires : op.inquires = true)
    (unread : ∀ id, op ≠ .read id) (m : MachineId) (id : TunnelId) :
    (w'.entry m id).loaded = (w.entry m id).loaded ∧ (w'.entry m id).record = (w.entry m id).record := by
  have set_ {m' : MachineId} {id' : TunnelId} {e : Entry} {s : World}
      (same : ∀ m id, s.entry m id = if m = m' ∧ id = id' then e else w.entry m id)
      (loaded : e.loaded = (w.entry m' id').loaded) (record : e.record = (w.entry m' id').record) :
      (s.entry m id).loaded = (w.entry m id).loaded ∧ (s.entry m id).record = (w.entry m id).record := by
    rw [same]
    split
    · rename_i here
      rw [here.1, here.2]
      exact ⟨loaded, record⟩
    · exact ⟨rfl, rfl⟩
  cases op
  case read id' => exact absurd rfl (unread id')
  case lock id' =>
      obtain ⟨_, rfl⟩ := exec_lock h
      exact set_ (fun _ _ => World.entry_setEntry ..) rfl rfl
  case unlock id' =>
      obtain ⟨_, rfl⟩ := exec_unlock h
      exact set_ (fun _ _ => World.entry_setEntry ..) rfl rfl
  case stamp id' stamp =>
      obtain ⟨_, rfl⟩ := exec_stamp h
      exact set_ (fun _ _ => World.entry_setEntry ..) rfl rfl
  case registerBridge id' =>
      simp only [exec] at h
      obtain ⟨_, run⟩ := World.onEntry_spec h
      cases run
      exact set_ (fun _ _ => World.entry_registerBridge ..) rfl rfl
  case retireStale id' =>
      simp only [exec] at h
      obtain ⟨_, run⟩ := World.onEntry_spec h
      cases run
      simp
  case pick id' hostname ready sni =>
      simp only [exec] at h
      obtain ⟨_, picked⟩ := World.onEntry_spec h
      have after : w' = (w.pick setup t.machine id' hostname ready sni).2 := by rw [picked]
      rcases World.pick_cases setup w t.machine id' hostname ready sni with same | ⟨b, same⟩
      · rw [after, same]
        exact ⟨rfl, rfl⟩
      · rw [after, same]
        exact set_ (fun _ _ => (World.entry_mapBridges ..).trans (World.entry_setEntry ..)) rfl rfl
  case peek id' =>
      obtain ⟨_, _, rfl⟩ := exec_peek h
      exact ⟨rfl, rfl⟩
  case setRefreshFailedAt at_ =>
      cases h
      have same : (w.setMachine t.machine { w.machine t.machine with refreshFailedAt := at_ }).entry m id = w.entry m id :=
        World.entry_setMachine _ _ _ _ rfl
      exact ⟨congrArg Entry.loaded same, congrArg Entry.record same⟩
  case now | refreshFailedAt | generation | complete =>
      cases h
      exact ⟨rfl, rfl⟩
  all_goals cases inquires

end Frame

/-- The cached record has a certificate to serve. -/
def Entry.ready (e : Entry) : Bool := e.live.any (·.certificateReady)

/-! ### What a task knows of the entry it locks -/

/-- What a task was told since it locked an entry and has not stamped it. -/
structure Notes where
  /-- it is an inquiry on a machine that is one of many -/
  inquires : Bool := false
  entry : Option TunnelId := none
  /-- the entry as it still is -/
  seen : Option Entry := none
  asked : Option Nat := none
  /-- it read the record -/
  read : Bool := false
  /-- it last found the entry without a record -/
  vacant : Bool := false
  clock : Nat := 0
  /-- it goes on with the record it has: there is none or a ready one, it is a current one, it was read, or what would
      read it did not -/
  settled : Bool := false

namespace Notes

def next (q : Notes) : (op : Act) → op.Ans → Notes
  | .lock id, _ => { inquires := q.inquires, entry := some id, settled := q.vacant }
  | .unlock _, _ => { inquires := q.inquires, vacant := q.vacant }
  | .peek id, e =>
      if q.entry = some id then
        { q with seen := some e, vacant := !e.loaded, settled := q.settled || !e.loaded || e.ready }
      else q
  | .generation, g => { q with asked := some g }
  | .now, now => { q with clock := now }
  | .refreshFailedAt, failedAt =>
      { q with settled := q.settled || decide (q.clock - failedAt < refreshBackoffMs) }
  | .complete, _ => { q with settled := true }
  | .read _, .ok _ => { q with seen := none, read := true, settled := true }
  | .read _, .error _ => { q with seen := none, settled := true }
  | .stamp .., _ => { q with seen := none, asked := none, read := false }
  | _, _ => { q with seen := none }

/-- A record is read under the entry's lock, stamped with a generation that was asked for there, and trusted unread
    only where the generation it carries is not older than the machine's. An inquiry answers once it is settled. -/
def permits (q : Notes) : Act → Prop
  | .read id => q.entry = some id
  | .stamp id stamp => q.entry = some id ∧ q.read = true ∧ q.asked = some stamp.generation
  | .generation => q.entry.isSome = true ∧ (q.read = true → q.asked = none)
  | .complete => ∃ id e g, q.entry = some id ∧ q.seen = some e ∧ q.asked = some g ∧ e.loaded = true ∧ g ≤ e.generation
  | .unlock id => q.inquires = true → q.entry = some id ∧ q.settled = true
  | _ => True

def allows (q : Notes) (op : Act) : Prop := (q.inquires = true → op.inquires = true) ∧ q.permits op

def discipline : Discipline Act Act.Ans Notes where
  start := {}
  next := next
  allows := allows

@[simp] theorem next_inquires (q : Notes) (op : Act) (ans : op.Ans) : (q.next op ans).inquires = q.inquires := by
  unfold next
  split
  case h_3 => split <;> rfl
  all_goals rfl

section Follows

variable {setup : Setup} {m : MachineId} {q : Notes} {id : TunnelId} {α β : Type}

/-- The program keeps to the discipline, and ends as `post` says; it stays an inquiry or none. -/
abbrev Obedient (post : α → Notes → Prop) (q : Notes) (p : Call α) : Prop :=
  Prog.Follows discipline (fun a q' => q'.inquires = q.inquires ∧ post a q') q p

/-- An inquiry has locked the entry and is settled. -/
def Answering (id : TunnelId) (q : Notes) : Prop := q.inquires = true → q.entry = some id ∧ q.settled = true

/-- The same of one that was not refused. -/
def Settles (id : TunnelId) (result : Except Err α) (q : Notes) : Prop := ∀ a, result = .ok a → Answering id q

theorem obedient_mono {p : Call α} {post post' : α → Notes → Prop} (obedient : Obedient post q p)
    (weaker : ∀ a q', q'.inquires = q.inquires → post a q' → post' a q') : Obedient post' q p :=
  Prog.follows_mono obedient fun a q' ends => ⟨ends.1, weaker a q' ends.1 ends.2⟩

theorem obedient_pure {a : α} {post : α → Notes → Prop} (holds : post a q) : Obedient post q (pure a) := ⟨rfl, holds⟩

theorem obedient_bind {p : Call α} {f : α → Call β} {post : β → Notes → Prop}
    (first : Obedient (fun a q' => Obedient post q' (f a)) q p) : Obedient post q (p >>= f) := by
  refine Prog.follows_bind (Prog.follows_mono first ?_)
  rintro a q' ⟨same, rest⟩
  exact Prog.follows_mono rest fun b q'' ends => ⟨ends.1.trans same, ends.2⟩

theorem obedient_exceptBind {p : Fallible α} {f : α → Fallible β} {post : Except Err β → Notes → Prop}
    (ok : ∀ a q', q'.inquires = q.inquires → Settles id (.ok a) q' → Obedient post q' (f a).run)
    (failed : ∀ err q', post (.error err) q') (first : Obedient (Settles id) q p.run) :
    Obedient post q (p >>= f).run := by
  refine obedient_bind (obedient_mono first ?_)
  intro result q' same settles
  cases result with
  | ok a => exact ok a q' same settles
  | error err => exact ⟨rfl, failed err q'⟩

theorem obedient_act {op : Act} {f : op.Ans → Call α} {post : α → Notes → Prop} (allowed : q.allows op)
    (rest : ∀ ans, Obedient post (q.next op ans) (f ans)) : Obedient post q (act op >>= f) := by
  refine ⟨allowed, fun ans => Prog.follows_mono (rest ans) ?_⟩
  rintro a q' ⟨same, ends⟩
  exact ⟨same.trans (next_inquires ..), ends⟩

theorem obedient_lift {op : Act} {f : op.Ans → Fallible α} {post : Except Err α → Notes → Prop} (allowed : q.allows op)
    (rest : ∀ ans, Obedient post (q.next op ans) (f ans).run) :
    Obedient post q ((liftM (act op) : Fallible op.Ans) >>= f).run := by
  refine ⟨allowed, fun ans => Prog.follows_mono (rest ans) ?_⟩
  rintro a q' ⟨same, ends⟩
  exact ⟨same.trans (next_inquires ..), ends⟩

theorem obedient_ite {condition : Prop} [Decidable condition] {yes no : Fallible α} {post : Except Err α → Notes → Prop}
    (first : Obedient post q yes.run) (second : Obedient post q no.run) :
    Obedient post q (if condition then yes else no).run := by
  split
  · exact first
  · exact second

theorem obedient_read {f : Except Err (Option (Option Nat)) → Fallible α} {post : Except Err α → Notes → Prop}
    (locked : q.entry = some id)
    (found : ∀ alarm, Obedient post { q with seen := none, read := true, settled := true } (f (.ok alarm)).run)
    (failed : ∀ err, Obedient post { q with seen := none, settled := true } (f (.error err)).run) :
    Obedient post q (attempt (act (.read id)) >>= f).run := by
  refine ⟨⟨fun _ => rfl, locked⟩, fun result => ?_⟩
  cases result with
  | ok alarm => exact found alarm
  | error err => exact failed err

theorem allows_generation (locked : q.entry = some id) (first : q.read = true → q.asked = none) :
    q.allows .generation :=
  ⟨fun _ => rfl, Option.isSome_iff_exists.mpr ⟨id, locked⟩, first⟩

theorem allows_stamp {stamp : Stamp} (locked : q.entry = some id) (read : q.read = true)
    (asked : q.asked = some stamp.generation) : q.allows (.stamp id stamp) := ⟨fun _ => rfl, locked, read, asked⟩

theorem load_obedient (locked : q.entry = some id) (unasked : q.asked = none) :
    Obedient (Settles id) q (load id).run := by
  refine obedient_read locked (fun found => ?_) fun err => ?_
  · refine obedient_lift ⟨fun _ => rfl, trivial⟩ fun now => ?_
    refine obedient_lift (allows_generation locked fun _ => unasked) fun generation => ?_
    refine ⟨allows_stamp locked rfl rfl, fun _ => ⟨rfl, ?_⟩⟩
    exact fun _ _ _ => ⟨locked, rfl⟩
  · refine obedient_lift ⟨fun _ => rfl, fun _ => ⟨locked, rfl⟩⟩ fun _ => ⟨rfl, ?_⟩
    intro a same
    cases same

theorem refresh_obedient {e : Entry} (locked : q.entry = some id) (unread : q.read = false) :
    Obedient (fun _ => Answering id) q (refresh id e) := by
  have notYet : ¬ q.read = true := by simp [unread]
  refine obedient_act ⟨fun _ => rfl, trivial⟩ fun now => obedient_act ⟨fun _ => rfl, trivial⟩ fun failedAt => ?_
  split
  · rename_i early
    refine obedient_pure fun _ => ⟨locked, ?_⟩
    simp [next, early]
  · refine obedient_act (allows_generation locked fun read => absurd read notYet) fun generation => ?_
    refine ⟨⟨fun _ => rfl, locked⟩, fun result => ?_⟩
    cases result with
    | ok found => exact ⟨allows_stamp locked rfl rfl, fun _ => ⟨rfl, fun _ => ⟨locked, rfl⟩⟩⟩
    | error err => exact ⟨⟨fun _ => rfl, trivial⟩, fun _ => ⟨rfl, fun _ => ⟨locked, rfl⟩⟩⟩

theorem refreshed_obedient {e : Entry} (locked : q.entry = some id) (unread : q.read = false) :
    Obedient (Settles id) q (liftM (refresh id e) : Fallible Unit).run := by
  refine obedient_bind (obedient_mono (refresh_obedient locked unread) fun _ q' _ answering => ?_)
  exact obedient_pure fun _ _ => answering

/-- The entry is locked and looked at. -/
theorem obedient_locked {f : Entry → Fallible α} {post : Except Err α → Notes → Prop}
    (rest : ∀ e, Obedient post
      { inquires := q.inquires, entry := some id, seen := some e, vacant := !e.loaded,
        settled := q.vacant || !e.loaded || e.ready } (f e).run) :
    Obedient post q ((liftM (act (.lock id)) : Fallible Unit) >>= fun _ =>
      (liftM (act (.peek id)) : Fallible Entry) >>= f).run := by
  refine obedient_lift ⟨fun _ => rfl, trivial⟩ fun _ => obedient_lift ⟨fun _ => rfl, trivial⟩ fun e => ?_
  have seen : (q.next (.lock id) ()).next (.peek id) e =
      { inquires := q.inquires, entry := some id, seen := some e, vacant := !e.loaded,
        settled := q.vacant || !e.loaded || e.ready } := if_pos rfl
  rw [seen]
  exact rest e

/-- Locking again an entry that was found without a record, or by a task that is no inquiry. -/
theorem lock_obedient (fine : q.inquires = true → q.vacant = true) : Obedient (Settles id) q (lock id).run := by
  refine obedient_locked fun e => ?_
  split
  · exact load_obedient rfl rfl
  · refine obedient_pure fun _ _ inquires => ⟨rfl, ?_⟩
    simp [fine inquires]

/-- An entry that was found without a record is locked again. -/
theorem relock_obedient {e : Entry} (unloaded : (!e.loaded) = true) :
    Obedient (Settles id)
      { inquires := q.inquires, entry := some id, seen := some e, vacant := !e.loaded,
        settled := q.vacant || !e.loaded || e.ready }
      ((liftM (act (.unlock id)) : Fallible Unit) >>= fun _ => lock id).run := by
  refine obedient_lift ⟨fun _ => rfl, fun _ => ⟨rfl, ?_⟩⟩ fun _ => lock_obedient fun _ => unloaded
  simp [unloaded]

theorem lockFresh_obedient (free : q.inquires = false) : Obedient (Settles id) q (lockFresh setup m id).run := by
  have fine : q.inquires = true → q.vacant = true := fun inquires => by simp [free] at inquires
  unfold lockFresh
  split
  · exact lock_obedient fine
  · refine obedient_locked fun e => ?_
    split
    · rename_i unloaded
      exact relock_obedient unloaded
    · exact refreshed_obedient rfl rfl

theorem lockRoutable_obedient (one : q.inquires = true → setup.clustered m = true) :
    Obedient (Settles id) q (lockRoutable setup m id).run := by
  unfold lockRoutable
  split
  · rename_i lone
    refine lock_obedient fun inquires => ?_
    simp [one inquires] at lone
  · refine obedient_locked fun e => ?_
    split
    · rename_i unloaded
      exact relock_obedient unloaded
    · rename_i loaded
      split
      · exact refreshed_obedient rfl rfl
      · split
        · rename_i ready
          refine obedient_pure fun _ _ _ => ⟨rfl, ?_⟩
          simp [Entry.ready, ready]
        · refine obedient_lift (allows_generation rfl fun read => by cases read) fun generation => ?_
          split
          · exact refreshed_obedient rfl rfl
          · rename_i current
            refine obedient_lift ⟨fun _ => rfl, ?_⟩ fun complete => obedient_lift ⟨fun _ => rfl, trivial⟩ fun now => ?_
            · exact ⟨id, e, generation, rfl, rfl, rfl, by simpa using loaded, Nat.not_lt.mp current⟩
            · exact obedient_ite (obedient_pure fun _ _ _ => ⟨rfl, rfl⟩) (refreshed_obedient rfl rfl)

theorem lockForAttach_obedient (free : q.inquires = false) :
    Obedient (fun _ _ => True) q (lockForAttach setup m id).run := by
  unfold lockForAttach
  split
  · have fine : q.inquires = true → q.vacant = true := fun inquires => by simp [free] at inquires
    exact obedient_exceptBind (fun _ _ _ _ => obedient_pure trivial) (fun _ _ => trivial) (lock_obedient fine)
  · refine obedient_locked fun e => obedient_lift ⟨fun _ => rfl, trivial⟩ fun now => ?_
    refine obedient_lift ⟨fun _ => rfl, trivial⟩ fun failedAt => ?_
    split
    · exact obedient_pure trivial
    · refine obedient_lift (allows_generation rfl fun read => by cases read) fun generation => ?_
      split
      · exact obedient_pure trivial
      · refine obedient_read rfl (fun found => ?_) fun err => ?_
        · cases found with
          | some alarm => exact obedient_lift (allows_stamp rfl rfl rfl) fun _ => obedient_pure trivial
          | none => exact obedient_lift (allows_stamp rfl rfl rfl) fun _ => obedient_pure trivial
        · dsimp only
          split
          · exact obedient_lift ⟨fun _ => rfl, trivial⟩ fun _ => obedient_pure trivial
          · exact obedient_lift ⟨fun _ => rfl, fun _ => ⟨rfl, rfl⟩⟩ fun _ => obedient_pure trivial

theorem allows_plain {op : Act} (plain : op.plain = true) (free : q.inquires = false) : q.allows op := by
  refine ⟨fun inquires => ?_, ?_⟩
  · rw [free] at inquires
    cases inquires
  · cases op with
    | unlock id =>
        intro inquires
        rw [free] at inquires
        cases inquires
    | _ => trivial

/-- Everything that is put together from these functions and plain acts. -/
theorem composed_obedient {p : Call α} (composed : Composed setup m p) (free : q.inquires = false) :
    Obedient (fun _ _ => True) q p := by
  induction composed generalizing q with
  | pure a => exact obedient_pure trivial
  | bind _ _ first rest => exact obedient_bind (obedient_mono (first free) fun a q' same _ => rest a (same.trans free))
  | act op plain => exact ⟨allows_plain plain free, fun ans => ⟨next_inquires .., trivial⟩⟩
  | lock id =>
      have fine : q.inquires = true → q.vacant = true := fun inquires => by simp [free] at inquires
      exact obedient_mono (lock_obedient fine) fun _ _ _ _ => trivial
  | lockFresh id => exact obedient_mono (lockFresh_obedient free) fun _ _ _ _ => trivial
  | lockForAttach id => exact lockForAttach_obedient free

theorem answers_allowed {op : Act} (answers : op.answers = true) : q.allows op := by
  cases op <;> first | exact ⟨fun _ => rfl, trivial⟩ | cases answers

theorem Answering.next {op : Act} {ans : op.Ans} (answering : Answering id q) (answers : op.answers = true) :
    Answering id (q.next op ans) := by
  intro inquires
  obtain ⟨locked, settled⟩ := answering (by simpa using inquires)
  cases op with
  | peek id' =>
      by_cases own : q.entry = some id'
      · exact ⟨by simp [Notes.next, own, ← locked], by simp [Notes.next, own, settled]⟩
      · have same : q.next (.peek id') ans = q := if_neg own
        rw [same]
        exact ⟨locked, settled⟩
  | registerBridge => exact ⟨locked, settled⟩
  | retireStale => exact ⟨locked, settled⟩
  | pick => exact ⟨locked, settled⟩
  | _ => cases answers

theorem obedient_answer {op : Act} {f : op.Ans → Fallible α} (answers : op.answers = true) (answering : Answering id q)
    (rest : ∀ ans q', Answering id q' → Obedient (fun _ => Answering id) q' (f ans).run) :
    Obedient (fun _ => Answering id) q ((liftM (act op) : Fallible op.Ans) >>= f).run :=
  obedient_lift (answers_allowed answers) fun ans => rest ans _ (answering.next answers)

/-- An inquiry locks the entry, answers, and unlocks it. -/
theorem obedient_routable {body : Fallible α} (one : q.inquires = true → setup.clustered m = true)
    (answers : ∀ q', Answering id q' → Obedient (fun _ => Answering id) q' body.run) :
    Obedient (fun _ _ => True) q (ignore (lockRoutable setup m id >>= fun _ => holding id body)) := by
  refine obedient_bind (obedient_exceptBind (fun _ q' _ settles => ?_) (fun err q' => obedient_pure trivial)
    (lockRoutable_obedient one))
  refine obedient_bind (obedient_mono (answers q' (settles _ rfl)) fun result q'' _ answering => ?_)
  exact obedient_act ⟨fun _ => rfl, answering⟩ fun _ => obedient_pure (obedient_pure trivial)

theorem inquiry_obedient {asked : Inquiry} (one : q.inquires = true → setup.clustered m = true) :
    Obedient (fun _ _ => True) q (asked.program setup m) := by
  cases asked with
  | tunnelExists id =>
      refine obedient_routable one fun q' answering => obedient_answer rfl answering fun e q'' answering => ?_
      exact obedient_pure answering
  | registerBridge id =>
      refine obedient_routable one fun q' answering => obedient_answer rfl answering fun e q'' answering => ?_
      split
      · exact obedient_pure answering
      · exact obedient_answer rfl answering fun b q₃ answering => obedient_pure answering
  | route id sni =>
      refine obedient_routable one fun q' answering => obedient_answer rfl answering fun e q'' answering => ?_
      split
      · exact obedient_pure answering
      · refine obedient_answer rfl answering fun _ q₃ answering => ?_
        exact obedient_answer rfl answering fun answer q₄ answering => obedient_pure answering

end Follows

end Notes

/-! ### Readings -/

/-- The cached record is not a missing or not ready one from before a link came up: it is ready, or it was read under
    the generation that the task found when it locked the entry. -/
def Entry.Current (e : Entry) (since read : Nat) : Prop := e.loaded = true → e.ready = true ∨ since ≤ read

instance (e : Entry) (since read : Nat) : Decidable (e.Current since read) :=
  inferInstanceAs (Decidable (e.loaded = true → e.ready = true ∨ since ≤ read))

/-- An inquiry answered by a record that is missing or not ready: the generation when it locked the entry, and the one
    the record was read under. -/
structure Trust where
  task : Task
  entry : TunnelId
  since : Nat
  read : Nat
deriving DecidableEq, Repr

/-- What happened so far. -/
structure Readings where
  notes : Task → Notes
  /-- the machine's generation when a record was last read -/
  read : MachineId → TunnelId → Nat
  /-- the machine's generation when a task last locked an entry -/
  lockedAt : Task → Nat
  trusts : List Trust

def CacheJob.isInquiry {setup : Setup} : CacheJob setup → Bool
  | .inquiry _ => true
  | .routine _ => false

namespace Readings

def notesOf (setup : Setup) (jobs : Task → CacheJob setup) (t : Task) : Notes :=
  { inquires := (jobs t).isInquiry && setup.clustered t.machine }

/-- No act was made yet. -/
def none (setup : Setup) (jobs : Task → CacheJob setup) : Readings where
  notes := notesOf setup jobs
  read := fun _ _ => 0
  lockedAt := fun _ => 0
  trusts := []

/-- The history after an act. An inquiry unlocks the entry once it has answered, or where it found no record. -/
def after (t : Task) : (op : Act) → op.Ans → World → Readings → Readings
  | .read id, .ok _, w, past =>
      { past with read := fun m id' =>
          if m = t.machine ∧ id' = id then (w.machine t.machine).generation else past.read m id' }
  | .lock _, _, w, past =>
      { past with lockedAt := fun t' => if t' = t then (w.machine t.machine).generation else past.lockedAt t' }
  | .unlock id, _, w, past =>
      if (past.notes t).inquires && (w.entry t.machine id).loaded && !(w.entry t.machine id).ready then
        { past with trusts := ⟨t, id, past.lockedAt t, past.read t.machine id⟩ :: past.trusts }
      else past
  | _, _, _, past => past

def ghost (setup : Setup) (jobs : Task → CacheJob setup) : Ghost (caches setup jobs) Readings where
  call := fun t op ans w _ past =>
    { after t op ans w past with
      notes := fun t' => if t' = t then (past.notes t).next op ans else past.notes t' }

/-- Cached records were read no earlier than their entries' generations say, and what was trusted was read after the
    last link that had come up before its entry was locked. -/
structure UpToDate (w : World) (past : Readings) : Prop where
  read : ∀ m id, (w.entry m id).loaded = true → (w.entry m id).generation ≤ past.read m id
  trusts : ∀ trust ∈ past.trusts, trust.since ≤ trust.read

/-- What is true of the entry a task has locked under one generation, and whose record was read under another. -/
structure TaskNotes (w : World) (q : Notes) (lockedAt readAt : Nat) (t : Task) (id : TunnelId) : Prop where
  held : w.holds t id = true
  since : lockedAt ≤ (w.machine t.machine).generation
  asked : ∀ g, q.asked = some g → lockedAt ≤ g ∧ g ≤ (w.machine t.machine).generation
  read : ∀ g, q.asked = some g → q.read = true → g ≤ readAt
  seen : ∀ e, q.seen = some e → w.entry t.machine id = e
  settled : q.inquires = true → q.settled = true → (w.entry t.machine id).Current lockedAt readAt

structure Consistent (s : World × Readings) : Prop extends UpToDate s.1 s.2 where
  counted : ∀ m id, (s.1.entry m id).generation ≤ (s.1.machine m).generation
  tasks : ∀ t id, (s.2.notes t).entry = some id →
    TaskNotes s.1 (s.2.notes t) (s.2.lockedAt t) (s.2.read t.machine id) t id

end Readings

section Steps

variable {setup : Setup} {t : Task} {op : Act} {c : Choice} {w w' : World} {ans : op.Ans}

theorem generation_le (h : exec setup t op c w = some (ans, w')) (m : MachineId) :
    (w.machine m).generation ≤ (w'.machine m).generation := by
  by_cases bump : op = .bumpGeneration
  · subst bump
    cases h
    rw [World.machine_setMachine]
    split
    · rename_i here
      rw [here]
      exact Nat.le_succ _
    · exact Nat.le_refl _
  · exact Nat.le_of_eq (exec_machineGeneration h bump m).symm

/-- An inquiry's acts but the read leave its record as current as it is. -/
theorem Entry.Current.kept {since read : Nat} {m : MachineId} {id : TunnelId}
    (current : (w.entry m id).Current since read) (h : exec setup t op c w = some (ans, w'))
    (inquires : op.inquires = true) (unread : ∀ id, op ≠ .read id) : (w'.entry m id).Current since read := by
  obtain ⟨loaded, record⟩ := exec_inquires h inquires unread m id
  intro yes
  rcases current (loaded ▸ yes) with ready | recent
  · refine Or.inl ?_
    unfold Entry.ready Entry.live at ready ⊢
    rw [record]
    exact ready
  · exact Or.inr recent

namespace Readings

variable {past : Readings} {q : Notes} {since read : Nat} {id : TunnelId}

/-- What a task notes stays true while another one acts. -/
theorem TaskNotes.others {t' : Task} (notes : TaskNotes w q since read t' id) (other : t' ≠ t)
    (h : exec setup t op c w = some (ans, w')) : TaskNotes w' q since read t' id := by
  have entry : w'.entry t'.machine id = w.entry t'.machine id :=
    others_entry (.inl ⟨t, op, c, ans, fun is => other is.symm, h⟩) notes.held
  have later := generation_le h t'.machine
  constructor
  · rw [World.holds_iff, entry]
    exact World.holds_iff.mp notes.held
  · exact Nat.le_trans notes.since later
  · intro g asked
    obtain ⟨since, counted⟩ := notes.asked g asked
    exact ⟨since, Nat.le_trans counted later⟩
  · exact notes.read
  · rw [entry]
    exact notes.seen
  · rw [entry]
    exact notes.settled

/-- The task is told something, and the state stays as it is. -/
theorem TaskNotes.told {q' : Notes} (notes : TaskNotes w q since read t id) (asked : q'.asked = q.asked)
    (hasRead : q'.read = q.read) (seen : ∀ e, q'.seen = some e → w.entry t.machine id = e)
    (settled : q'.inquires = true → q'.settled = true → (w.entry t.machine id).Current since read) :
    TaskNotes w q' since read t id where
  held := notes.held
  since := notes.since
  asked := asked ▸ notes.asked
  read := by
    rw [asked, hasRead]
    exact notes.read
  seen := seen
  settled := settled

/-- An act that changes what the task noted at most by forgetting. -/
theorem TaskNotes.unseen {q' : Notes} (notes : TaskNotes w q since read t id)
    (h : exec setup t op c w = some (ans, w')) (keeps : op ≠ .unlock id) (unread : ∀ id, op ≠ .read id)
    (allowed : q.inquires = true → op.inquires = true) (seen : q'.seen = .none) (inquires : q'.inquires = q.inquires)
    (settled : q'.settled = q.settled) (asked : ∀ g, q'.asked = some g → q.asked = some g ∧ q'.read = q.read) :
    TaskNotes w' q' since read t id := by
  have later := generation_le h t.machine
  constructor
  · exact holds_kept h notes.held keeps
  · exact Nat.le_trans notes.since later
  · intro g is
    obtain ⟨since, counted⟩ := notes.asked g (asked g is).1
    exact ⟨since, Nat.le_trans counted later⟩
  · intro g is hasRead
    obtain ⟨before, same⟩ := asked g is
    exact notes.read g before (same ▸ hasRead)
  · intro e is
    rw [seen] at is
    cases is
  · rw [inquires, settled]
    intro asks fine
    exact (notes.settled asks fine).kept h (allowed asks) unread

theorem TaskNotes.lock (h : exec setup t (.lock id) c w = some ((), w'))
    (current : q.inquires = true → q.vacant = true →
      (w.entry t.machine id).Current (w.machine t.machine).generation read) :
    TaskNotes w' (q.next (.lock id) ()) (w.machine t.machine).generation read t id := by
  have kept := fun inquires vacant => (current inquires vacant).kept h rfl (by simp)
  obtain ⟨_, rfl⟩ := exec_lock h
  constructor
  · simp [World.holds_iff]
  · exact Nat.le_of_eq (generation_setEntry ..).symm
  · intro g asked
    cases asked
  · intro g asked
    cases asked
  · intro e seen
    cases seen
  · exact kept

theorem TaskNotes.peek {id' : TunnelId} {e : Entry} (notes : TaskNotes w q since read t id) (locked : q.entry = some id)
    (h : exec setup t (.peek id') c w = some (e, w')) : TaskNotes w' (q.next (.peek id') e) since read t id := by
  obtain ⟨_, rfl, rfl⟩ := exec_peek h
  by_cases own : q.entry = some id'
  · obtain rfl : id' = id := Option.some.inj (own.symm.trans locked)
    have same : q.next (.peek id') (w'.entry t.machine id') =
        { q with seen := some (w'.entry t.machine id'), vacant := !(w'.entry t.machine id').loaded,
                 settled := q.settled || !(w'.entry t.machine id').loaded || (w'.entry t.machine id').ready } := if_pos own
    rw [same]
    refine notes.told rfl rfl ?_ ?_
    · intro e seen
      cases seen
      rfl
    · intro inquires settled loaded
      simp only [Bool.or_eq_true, Bool.not_eq_true'] at settled
      rcases settled with (before | unloaded) | ready
      · exact notes.settled inquires before loaded
      · rw [unloaded] at loaded
        cases loaded
      · exact Or.inl ready
  · have same : q.next (.peek id') (w'.entry t.machine id') = q := if_neg own
    rw [same]
    exact notes

theorem TaskNotes.generation (notes : TaskNotes w q since read t id)
    (inTime : q.read = true → (w.machine t.machine).generation = read) :
    TaskNotes w (q.next .generation (w.machine t.machine).generation) since read t id where
  held := notes.held
  since := notes.since
  asked := by
    intro g asked
    cases asked
    exact ⟨notes.since, Nat.le_refl _⟩
  read := by
    intro g asked hasRead
    cases asked
    exact Nat.le_of_eq (inTime hasRead)
  seen := notes.seen
  settled := notes.settled

/-- A record that is read is read under the machine's generation. -/
theorem TaskNotes.read_ {found : Option (Option Nat)} (notes : TaskNotes w q since read t id)
    (h : exec setup t (.read id) c w = some (.ok found, w')) :
    TaskNotes w' (q.next (.read id) (.ok found)) since (w.machine t.machine).generation t id := by
  have generation : (w'.machine t.machine).generation = (w.machine t.machine).generation :=
    exec_machineGeneration h (by simp) t.machine
  constructor
  · exact holds_kept h notes.held (by simp)
  · rw [generation]
    exact notes.since
  · rw [generation]
    exact notes.asked
  · intro g asked _
    exact (notes.asked g asked).2
  · intro e seen
    cases seen
  · intro _ _ _
    exact Or.inr notes.since

/-- No act changes the history of a record but its read. -/
theorem after_read {m : MachineId} {id : TunnelId}
    (other : (∀ id', op ≠ .read id') ∨ m ≠ t.machine ∨ op ≠ .read id) :
    (after t op ans w past).read m id = past.read m id := by
  unfold after
  split
  · refine if_neg ?_
    rintro ⟨here, same⟩
    rcases other with never | elsewhere | another
    · exact never _ rfl
    · exact elsewhere here
    · exact another (by rw [same])
  · rfl
  · split <;> rfl
  · rfl

theorem after_lockedAt {t' : Task} (other : t' ≠ t ∨ ∀ id, op ≠ .lock id) :
    (after t op ans w past).lockedAt t' = past.lockedAt t' := by
  unfold after
  split
  · rfl
  · refine if_neg ?_
    intro same
    rcases other with another | never
    · exact another same
    · exact never _ rfl
  · split <;> rfl
  · rfl

theorem after_trusts (other : ∀ id, op ≠ .unlock id) : (after t op ans w past).trusts = past.trusts := by
  unfold after
  split
  · rfl
  · rfl
  · exact absurd rfl (other _)
  · rfl

end Readings

end Steps

/-- A task's program keeps to the discipline from where it starts. -/
theorem Notes.job_obedient {setup : Setup} {jobs : Task → CacheJob setup} {t : Task} :
    Notes.Obedient (fun _ _ => True) (Readings.notesOf setup jobs t) ((caches setup jobs).program t ()) := by
  change Notes.Obedient _ _ ((jobs t).program t.machine)
  have one : (Readings.notesOf setup jobs t).inquires = true → setup.clustered t.machine = true := by
    intro inquires
    exact ((Bool.and_eq_true _ _).mp inquires).2
  cases job : jobs t with
  | inquiry asked => exact inquiry_obedient one
  | routine made =>
      refine composed_obedient (made.composed t.machine) ?_
      simp [Readings.notesOf, job, CacheJob.isInquiry]

/-! ### The condition -/

namespace Readings

/-- The machine's generation is still the one the task read the record under, where it read it. -/
def InTime (t : Task) (s : World × Readings) : Prop :=
  (s.2.notes t).read = true → ∀ id ∈ (s.2.notes t).entry, (s.1.machine t.machine).generation = s.2.read t.machine id

/-- The act leaves an inquiry with the record it finds cached: it locks an entry again that it found without one, a
    failed refresh holds the next one back, or the read fails. -/
def keepsCached (t : Task) (s : World × Readings) (c : Choice) : Act → Bool
  | .lock _ => (s.2.notes t).vacant
  | .refreshFailedAt =>
      decide ((s.2.notes t).clock - (s.1.machine t.machine).refreshFailedAt < refreshBackoffMs)
  | .read _ => decide (c.fault ≠ .none)
  | _ => false

/-- The entry a task has locked once the act is made, and the machine's generation when it was. -/
def lockedBy (t : Task) (s : World × Readings) : Act → Option TunnelId × Nat
  | .lock id => (some id, (s.1.machine t.machine).generation)
  | _ => ((s.2.notes t).entry, s.2.lockedAt t)

/-- What an inquiry is left with is not a missing or not ready record from before a link came up. -/
def Retained (t : Task) (s : World × Readings) (c : Choice) (op : Act) : Prop :=
  keepsCached t s c op = true →
    ∀ id ∈ (lockedBy t s op).1, (s.1.entry t.machine id).Current (lockedBy t s op).2 (s.2.read t.machine id)

end Readings

def Act.asksGeneration : Act → Bool
  | .generation => true
  | _ => false

/-- A first load asks for the generation before another link comes up than when it read the record, and no inquiry
    goes on with a record from before a link came up. -/
def LinksHeeded (setup : Setup) (jobs : Task → CacheJob setup) :
    Assumptions ((caches setup jobs).withGhost (Readings.ghost setup jobs)) where
  call := fun t op c s => (op.asksGeneration = true → Readings.InTime t s) ∧
    ((s.2.notes t).inquires = true → Readings.Retained t s c op)

section Invariant

variable {setup : Setup} {jobs : Task → CacheJob setup} {t : Task} {op : Act} {c : Choice} {w w' : World}
  {ans : op.Ans} {past : Readings}

namespace Readings

/-- The entries after an act. -/
theorem Consistent.entries (consistent : Consistent (w, past)) (permitted : (past.notes t).permits op)
    (h : exec setup t op c w = some (ans, w')) (m : MachineId) (id : TunnelId) :
    (w'.entry m id).generation ≤ (w'.machine m).generation ∧
      ((w'.entry m id).loaded = true → (w'.entry m id).generation ≤ (after t op ans w past).read m id) := by
  have counted : (w.entry m id).generation ≤ (w.machine m).generation := consistent.counted m id
  have recent : (w.entry m id).loaded = true → (w.entry m id).generation ≤ past.read m id := consistent.read m id
  have later := generation_le h m
  by_cases reads : ∃ id', op = .read id'
  · obtain ⟨id', rfl⟩ := reads
    obtain ⟨held, ⟨rfl, -, rfl⟩ | ⟨rfl, -, rfl⟩⟩ := exec_read h
    · by_cases here : m = t.machine ∧ id = id'
      · obtain ⟨rfl, rfl⟩ := here
        rw [World.entry_setEntry, if_pos ⟨rfl, rfl⟩]
        refine ⟨Nat.le_trans counted later, fun _ => ?_⟩
        simpa [after] using counted
      · rw [World.entry_setEntry, if_neg here]
        refine ⟨Nat.le_trans counted later, fun loaded => ?_⟩
        rw [after_read (by grind)]
        exact recent loaded
    · exact ⟨counted, recent⟩
  · have unread : (after t op ans w past).read m id = past.read m id :=
      after_read (.inl fun id' is => reads ⟨id', is⟩)
    rw [unread]
    by_cases stamps : ∃ id' stamp, op = .stamp id' stamp
    · obtain ⟨id', stamp, rfl⟩ := stamps
      obtain ⟨held, rfl⟩ := exec_stamp h
      obtain ⟨locked, read, asked⟩ := permitted
      by_cases here : m = t.machine ∧ id = id'
      · obtain ⟨rfl, rfl⟩ := here
        rw [World.entry_setEntry, if_pos ⟨rfl, rfl⟩]
        have notes := consistent.tasks t id locked
        exact ⟨Nat.le_trans (notes.asked _ asked).2 later, fun _ => notes.read _ asked read⟩
      · rw [World.entry_setEntry, if_neg here]
        exact ⟨Nat.le_trans counted later, recent⟩
    · rcases exec_stamps h (fun id' is => reads ⟨id', is⟩) (fun id' stamp is => stamps ⟨id', stamp, is⟩) m id with
        new | ⟨generation, loaded⟩
      · rw [new]
        exact ⟨Nat.zero_le _, fun no => by cases no⟩
      · rw [generation]
        exact ⟨Nat.le_trans counted later, fun yes => recent (loaded yes)⟩

/-- What was trusted after an act: an inquiry that unlocks the entry is settled with its record. -/
theorem Consistent.trusted (consistent : Consistent (w, past)) (permitted : (past.notes t).permits op) :
    ∀ trust ∈ (after t op ans w past).trusts, trust.since ≤ trust.read := by
  by_cases unlocks : ∃ id, op = .unlock id
  · obtain ⟨id, rfl⟩ := unlocks
    intro trust listed
    simp only [after] at listed
    split at listed
    · rename_i answered
      simp only [Bool.and_eq_true, Bool.not_eq_true'] at answered
      obtain ⟨⟨inquires, loaded⟩, unready⟩ := answered
      obtain ⟨locked, settled⟩ := permitted inquires
      rcases List.mem_cons.mp listed with rfl | before
      · rcases (consistent.tasks t id locked).settled inquires settled loaded with ready | recent
        · exact absurd (unready.symm.trans ready) (by simp)
        · exact recent
      · exact consistent.trusts trust before
    · exact consistent.trusts trust listed
  · rw [after_trusts fun id is => unlocks ⟨id, is⟩]
    exact consistent.trusts

/-- The record an inquiry is about to trust unread: the entry is not older than the machine was when it was locked. -/
theorem Consistent.current (consistent : Consistent (w, past)) (permitted : (past.notes t).permits .complete)
    {id : TunnelId} (locked : (past.notes t).entry = some id) :
    (w.entry t.machine id).Current (past.lockedAt t) (past.read t.machine id) := by
  obtain ⟨id', e, g, locked', seen, asked, loaded, current⟩ := permitted
  obtain rfl : id' = id := Option.some.inj (locked'.symm.trans locked)
  have notes : TaskNotes w (past.notes t) (past.lockedAt t) (past.read t.machine id') t id' :=
    consistent.tasks t id' locked
  have entry := notes.seen e seen
  intro _
  refine Or.inr ?_
  calc past.lockedAt t ≤ g := (notes.asked g asked).1
    _ ≤ e.generation := current
    _ = (w.entry t.machine id').generation := by rw [entry]
    _ ≤ past.read t.machine id' := consistent.read t.machine id' (by rw [entry]; exact loaded)

/-- What the task itself notes of an act. -/
theorem Consistent.own (consistent : Consistent (w, past)) (allowed : (past.notes t).allows op)
    (inTime : op = .generation → InTime t (w, past))
    (retained : (past.notes t).inquires = true → Retained t (w, past) c op)
    (h : exec setup t op c w = some (ans, w')) {id : TunnelId} (entry : ((past.notes t).next op ans).entry = some id) :
    TaskNotes w' ((past.notes t).next op ans) ((after t op ans w past).lockedAt t)
      ((after t op ans w past).read t.machine id) t id := by
  obtain ⟨inquiring, permitted⟩ := allowed
  have before (locked : (past.notes t).entry = some id) := consistent.tasks t id locked
  have unseen (locked : (past.notes t).entry = some id) (keeps : op ≠ .unlock id) (unread : ∀ id, op ≠ .read id)
      (same : (past.notes t).next op ans = { past.notes t with seen := .none })
      (lockedAt : (after t op ans w past).lockedAt t = past.lockedAt t)
      (read : (after t op ans w past).read = past.read) :
      TaskNotes w' ((past.notes t).next op ans) ((after t op ans w past).lockedAt t)
        ((after t op ans w past).read t.machine id) t id := by
    rw [same, lockedAt, read]
    exact (before locked).unseen h keeps unread inquiring rfl rfl rfl fun g is => ⟨is, rfl⟩
  cases op
  case lock id' =>
      obtain rfl : id' = id := Option.some.inj entry
      have since : (after t (.lock id') () w past).lockedAt t = (w.machine t.machine).generation := if_pos rfl
      rw [since]
      exact .lock h fun inquires vacant => retained inquires vacant id' rfl
  case unlock => cases entry
  case peek id' =>
      have locked : (past.notes t).entry = some id := by
        unfold Notes.next at entry
        dsimp only at entry
        split at entry <;> exact entry
      exact (before locked).peek locked h
  case generation =>
      cases h
      exact (before entry).generation fun read => inTime rfl read id entry
  case now =>
      cases h
      exact (before entry).told rfl rfl (before entry).seen (before entry).settled
  case refreshFailedAt =>
      cases h
      refine (before entry).told rfl rfl (before entry).seen fun inquires settled => ?_
      rcases (Bool.or_eq_true _ _).mp settled with already | early
      · exact (before entry).settled inquires already
      · exact retained inquires early id entry
  case complete =>
      cases h
      exact (before entry).told rfl rfl (before entry).seen fun _ _ => consistent.current permitted entry
  case read id' =>
      have locked : (past.notes t).entry = some id := by
        cases ans with
        | ok _ => exact entry
        | error _ => exact entry
      obtain rfl : id' = id := Option.some.inj (Eq.trans (Eq.symm permitted) locked)
      have executed := h
      obtain ⟨_, ⟨rfl, -, after⟩ | ⟨rfl, fault, rfl⟩⟩ := exec_read h
      · have under : (Readings.after t (.read id') (.ok ((w.db.row id').map (·.alarmAt))) w past).read t.machine id' =
            (w.machine t.machine).generation := if_pos ⟨rfl, rfl⟩
        rw [under]
        exact (before locked).read_ executed
      · refine (before locked).told rfl rfl (fun e seen => by cases seen) fun inquires _ => ?_
        exact retained inquires (decide_eq_true fault) id' locked
  case stamp id' stamp =>
      refine (before entry).unseen h (by simp) (by simp) inquiring rfl rfl rfl fun g is => ?_
      cases is
  all_goals exact unseen entry (by simp) (by simp) rfl rfl rfl

theorem Consistent.exec (consistent : Consistent (w, past)) (allowed : (past.notes t).allows op)
    (inTime : op = .generation → InTime t (w, past))
    (retained : (past.notes t).inquires = true → Retained t (w, past) c op)
    (h : OpenTunnel.exec setup t op c w = some (ans, w')) :
    Consistent (w', (ghost setup jobs).call t op ans w w' past) := by
  refine ⟨⟨?_, ?_⟩, ?_, ?_⟩
  · intro m id
    exact (consistent.entries allowed.2 h m id).2
  · exact consistent.trusted allowed.2
  · intro m id
    exact (consistent.entries allowed.2 h m id).1
  · intro t' id entry
    by_cases own : t' = t
    · subst own
      have notes : ((ghost setup jobs).call t' op ans w w' past).notes t' = (past.notes t').next op ans := if_pos rfl
      rw [notes] at entry ⊢
      exact consistent.own allowed inTime retained h entry
    · have notes : ((ghost setup jobs).call t op ans w w' past).notes t' = past.notes t' := if_neg own
      have before : TaskNotes w (past.notes t') (past.lockedAt t') (past.read t'.machine id) t' id :=
        consistent.tasks t' id (notes ▸ entry)
      have locked : ((ghost setup jobs).call t op ans w w' past).lockedAt t' = past.lockedAt t' :=
        after_lockedAt (.inl own)
      have read : ((ghost setup jobs).call t op ans w w' past).read t'.machine id = past.read t'.machine id := by
        refine after_read ?_
        by_cases here : t'.machine = t.machine
        · refine .inr (.inr ?_)
          rintro rfl
          -- both would hold the entry
          have first := World.holds_iff.mp (exec_read h).1
          have second := World.holds_iff.mp before.held
          rw [here, first] at second
          exact own (Option.some.inj second).symm
        · exact .inr (.inl here)
      rw [notes, locked, read]
      exact before.others own h

end Readings

/-- Moves change neither entries nor generations. -/
theorem move_generation {mv : Move} (h : move mv w = some w') (m : MachineId) :
    (w'.machine m).generation = (w.machine m).generation := by
  cases mv with
  | clocks times =>
      cases h
      rfl
  | touch m' b =>
      cases h
      exact generation_mapBridges ..
  | close m' b code =>
      cases h
      exact generation_mapBridges ..
  | channelEnds m' b conn =>
      cases h
      exact generation_mapBridges ..
  | visitorEnds m' b =>
      cases h
      exact generation_mapBridges ..
  | meshComplete m' complete =>
      cases h
      exact generation_setMachine rfl
  | deliver source target =>
      simp only [move] at h
      split at h
      · cases h
        exact generation_setMachine rfl
      · cases h
  | linkDown source target =>
      cases h
      rfl
  | linkUp source target =>
      cases h
      exact generation_setMachine rfl

theorem Readings.Consistent.move {mv : Move} (consistent : Consistent (w, past)) (h : OpenTunnel.move mv w = some w') :
    Consistent (w', past) := by
  have entries := (move_frame h).2
  refine ⟨⟨?_, consistent.trusts⟩, ?_, ?_⟩
  · intro m id
    rw [entries]
    exact consistent.read m id
  · intro m id
    rw [entries, move_generation h]
    exact consistent.counted m id
  · intro t id entry
    have before := consistent.tasks t id entry
    constructor
    · rw [World.holds_iff, entries]
      exact World.holds_iff.mp before.held
    · rw [move_generation h]
      exact before.since
    · rw [move_generation h]
      exact before.asked
    · exact before.read
    · rw [entries]
      exact before.seen
    · rw [entries]
      exact before.settled

end Invariant

/-- A server that has started: nothing is cached. -/
def Uncached (w : World) : Prop := ∀ m id, w.entry m id = {}

/-- In every run of inquiries and routines that heeds the links which come up, every cached record was read under a
    generation no older than its entry's, and every missing or not ready answer of an inquiry was read after every link
    that had come up when the inquiry locked the entry. -/
theorem generations_behind_reads {setup : Setup} {jobs : Task → CacheJob setup} {w₀ : World} (uncached : Uncached w₀)
    {cfg : Config Task Act Act.Ans (World × Readings)}
    (reach : ((caches setup jobs).withGhost (Readings.ghost setup jobs)).Reach (LinksHeeded setup jobs)
      (idle (w₀, .none setup jobs)) cfg) :
    cfg.shared.2.UpToDate cfg.shared.1 := by
  have consistent : Readings.Consistent cfg.shared := by
    refine reach.disciplined Notes.discipline (Readings.notesOf setup jobs) (fun s t => s.2.notes t) ?_ ?_ ?_ ?_ ?_ ?_ ?_
    · intro t op c s ans s' executed t'
      rw [(withGhost_exec.mp executed).2]
      rfl
    · intro mv s s' moved
      rw [(withGhost_move.mp moved).2]
      rfl
    · intro t _ _ _
      exact Prog.follows_mono Notes.job_obedient fun _ _ _ => trivial
    · refine ⟨⟨?_, ?_⟩, ?_, ?_⟩
      · intro m id loaded
        rw [uncached] at loaded
        cases loaded
      · intro trust listed
        cases listed
      · intro m id
        rw [uncached]
        exact Nat.zero_le _
      · intro t id entry
        cases entry
    · intro t
      rfl
    · intro t op c s ans s' meets allowed consistent executed
      obtain ⟨ran, history⟩ := withGhost_exec.mp executed
      have after : s' = (s'.1, (Readings.ghost setup jobs).call t op ans s.1 s'.1 s.2) := Prod.ext rfl history
      rw [after]
      refine consistent.exec allowed ?_ meets.2 ran
      rintro rfl
      exact meets.1 rfl
    · intro mv s s' _ consistent moved
      obtain ⟨ran, history⟩ := withGhost_move.mp moved
      have after : s' = (s'.1, s.2) := Prod.ext rfl history
      rw [after]
      exact consistent.move ran
  exact consistent.toUpToDate

instance (t : Task) (s : World × Readings) : Decidable (Readings.InTime t s) :=
  inferInstanceAs (Decidable ((s.2.notes t).read = true → ∀ id ∈ (s.2.notes t).entry,
    (s.1.machine t.machine).generation = s.2.read t.machine id))

instance (t : Task) (s : World × Readings) (c : Choice) (op : Act) : Decidable (Readings.Retained t s c op) :=
  inferInstanceAs (Decidable (Readings.keepsCached t s c op = true → ∀ id ∈ (Readings.lockedBy t s op).1,
    (s.1.entry t.machine id).Current (Readings.lockedBy t s op).2 (s.2.read t.machine id)))

instance (setup : Setup) (jobs : Task → CacheJob setup) : (LinksHeeded setup jobs).Checkable where
  start := fun _ _ _ => isTrue trivial
  call := fun t op (c : Choice) s => inferInstanceAs (Decidable ((op.asksGeneration = true → Readings.InTime t s) ∧
    ((s.2.notes t).inquires = true → Readings.Retained t s c op)))
  move := fun _ _ => isTrue trivial

/-- Runs without any condition. -/
def anyReadings (setup : Setup) (jobs : Task → CacheJob setup) :
    Assumptions ((caches setup jobs).withGhost (Readings.ghost setup jobs)) := {}

instance (setup : Setup) (jobs : Task → CacheJob setup) : (anyReadings setup jobs).Checkable where
  start := fun _ _ _ => isTrue trivial
  call := fun _ _ _ _ => isTrue trivial
  move := fun _ _ => isTrue trivial

namespace Sample

/-- Another machine's write of a new tunnel. -/
def writes (record : StoredTunnel) : CacheJob (Sample.setup true) := .routine
  { program := fun _ => do let _ ← act (.importInsert record none)
    composed := fun _ => .bind (.act _ rfl) fun _ => .pure _ }

/-- One machine looks a tunnel up and handles its notices, another writes it. -/
def lookingUp (t : Task) : CacheJob (Sample.setup true) :=
  if t = ⟨"m2", 1⟩ then writes newTunnel
  else if t = ⟨"m1", 2⟩ then .handleNotice
  else .inquiry (.tunnelExists "a")

end Sample

/-- The next turns of a task. -/
def takes (t : Task) (calls : Nat) :
    List ((caches _ Sample.lookingUp).withGhost (Readings.ghost _ Sample.lookingUp)).Turn :=
  List.replicate calls (.call t Sample.plain)

/-- A first lookup gets this far before the other machine writes and the link comes up, and then it ends; a second one
    follows. -/
def lookups (before after : Nat) :
    List ((caches _ Sample.lookingUp).withGhost (Readings.ghost _ Sample.lookingUp)).Turn :=
  [.start ⟨"m1", 1⟩ ()] ++ takes ⟨"m1", 1⟩ before ++
    [.start ⟨"m2", 1⟩ ()] ++ takes ⟨"m2", 1⟩ 1 ++
    [.move (.linkUp "m2" "m1"), .start ⟨"m1", 2⟩ ()] ++ takes ⟨"m1", 2⟩ 2 ++ takes ⟨"m1", 1⟩ after ++
    [.start ⟨"m1", 3⟩ ()] ++ takes ⟨"m1", 3⟩ 7

/-- The entry's generation and the one its record was read under, what was trusted, and whether the tunnel is in the
    cache and in the database. -/
structure LookedUp where
  generation : Nat
  read : Nat
  trusts : List (Nat × Nat)
  loaded : Bool
  cached : Bool
  stored : Bool
deriving DecidableEq, Repr

def lookedUp (cfg : Config Task Act Act.Ans (World × Readings)) : LookedUp where
  generation := (cfg.shared.1.entry "m1" "a").generation
  read := cfg.shared.2.read "m1" "a"
  trusts := cfg.shared.2.trusts.map fun trust => (trust.since, trust.read)
  loaded := (cfg.shared.1.entry "m1" "a").loaded
  cached := (cfg.shared.1.entry "m1" "a").live.isSome
  stored := (cfg.shared.1.db.live "a").isSome

/-- The first lookup starts after the link came up; both answer by a record that is not ready. -/
theorem generations_behind_reads_lookups :
    ∃ cfg, ((caches _ Sample.lookingUp).withGhost (Readings.ghost _ _)).Reach (LinksHeeded (Sample.setup true) _)
        (idle (Sample.world (Sample.db []), .none _ Sample.lookingUp)) cfg ∧
      lookedUp cfg = ⟨1, 1, [(1, 1), (1, 1)], true, true, true⟩ ∧ cfg.shared.2.UpToDate cfg.shared.1 := by
  have played : (play (LinksHeeded (Sample.setup true) Sample.lookingUp) (lookups 0 11)
      (idle (Sample.world (Sample.db []), .none _ Sample.lookingUp))).map lookedUp =
      some ⟨1, 1, [(1, 1), (1, 1)], true, true, true⟩ := by
    decide +kernel
  obtain ⟨cfg, ran, seen⟩ := Option.map_eq_some_iff.mp played
  have reach := reach_of_play ran
  exact ⟨cfg, reach, seen, generations_behind_reads (fun _ _ => rfl) reach⟩

/-- The link comes up while the first lookup waits for its read: the entry carries the new generation with the answer
    from before, and the second lookup trusts that there is no tunnel. -/
theorem loaded_answer_outlives_link :
    ∃ cfg, ((caches _ Sample.lookingUp).withGhost (Readings.ghost _ _)).Reach (anyReadings (Sample.setup true) _)
        (idle (Sample.world (Sample.db []), .none _ Sample.lookingUp)) cfg ∧
      lookedUp cfg = ⟨1, 0, [(1, 0), (0, 0)], true, false, true⟩ ∧
      ¬ (∀ m id, (cfg.shared.1.entry m id).loaded = true →
        (cfg.shared.1.entry m id).generation ≤ cfg.shared.2.read m id) ∧
      ¬ ∀ trust ∈ cfg.shared.2.trusts, trust.since ≤ trust.read := by
  have played : (play (anyReadings (Sample.setup true) Sample.lookingUp) (lookups 6 5)
      (idle (Sample.world (Sample.db []), .none _ Sample.lookingUp))).map lookedUp =
      some ⟨1, 0, [(1, 0), (0, 0)], true, false, true⟩ := by
    decide +kernel
  obtain ⟨cfg, ran, seen⟩ := Option.map_eq_some_iff.mp played
  refine ⟨cfg, reach_of_play ran, seen, ?_, ?_⟩
  · intro all
    have behind := all "m1" "a" (congrArg LookedUp.loaded seen)
    rw [show (cfg.shared.1.entry "m1" "a").generation = 1 from congrArg LookedUp.generation seen,
      show cfg.shared.2.read "m1" "a" = 0 from congrArg LookedUp.read seen] at behind
    exact absurd behind (by decide)
  · intro all
    have trusts : (cfg.shared.2.trusts.map fun trust => (trust.since, trust.read)) = [(1, 0), (0, 0)] :=
      congrArg LookedUp.trusts seen
    have listed : (1, 0) ∈ cfg.shared.2.trusts.map fun trust => (trust.since, trust.read) := by
      rw [trusts]
      exact List.mem_cons_self
    obtain ⟨trust, member, is⟩ := List.mem_map.mp listed
    obtain ⟨since, read⟩ := Prod.mk.inj is
    have behind := all trust member
    rw [since, read] at behind
    exact absurd behind (by decide)

end OpenTunnel
