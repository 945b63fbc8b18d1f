/-
Module: OpenTunnel.Proofs.Replication
Layer: Proofs
Purpose: Replication over the mesh converges. A `View` is what a link's frames make of the sender's entries, whatever
  clock the receiver has and whatever it indexes; the receiver's peer is a copy of it. Applying what is still under
  way on a link that is up takes the view to the sender's own entries (`Delivers`), which every announcement keeps
  because it is queued behind all that was announced before.
Imports: OpenTunnel.Proofs.MeshIndex, OpenTunnel.Model.Replication
Trusted boundary: none (fully proved)
Main exports: Mesh.View, Mesh.Replication.Converges, Mesh.replication_converges
Open obligations: none
-/
import OpenTunnel.Proofs.MeshIndex
import OpenTunnel.Model.Replication

namespace OpenTunnel.Mesh

open Tasks (Table)

/-! ### Views -/

/-- What the frames of a link have said so far. -/
structure View where
  seq : Nat
  entries : BridgeId → Option Entry
  snapshotOpen : Bool
  draining : Bool

namespace View

/-- The entries after more of a snapshot. -/
def add : List Entry → (BridgeId → Option Entry) → BridgeId → Option Entry
  | [], entries => entries
  | entry :: rest, entries => add rest fun b => if b = entry.bridge then some entry else entries b

/-- What a frame says, where it may come. -/
def apply (epoch : Nat) (v : View) : Frame → Option View
  | .ping | .unknown => some v
  | .hello _ => none
  | .snapshot epoch' seq entries more =>
      if epoch' = epoch then
        some { v with seq := seq, snapshotOpen := more,
                      entries := if v.draining then fun _ => none else add entries fun _ => none }
      else none
  | .snapshotPart entries more =>
      if v.snapshotOpen then
        some { v with snapshotOpen := more, entries := if v.draining then v.entries else add entries v.entries }
      else none
  | .attached seq entry =>
      if v.snapshotOpen = false ∧ seq = v.seq + 1 then
        some { v with seq := seq
                      entries := if v.draining then v.entries else add [entry] v.entries }
      else none
  | .detached seq _ bridge =>
      if seq = v.seq + 1 then
        some { v with seq := seq, entries := fun b => if b = bridge then none else v.entries b }
      else none
  | .event .leaving => some { v with draining := true, entries := fun _ => none }
  | .event _ => some v

def applyAll (epoch : Nat) : List Frame → View → Option View
  | [], v => some v
  | frame :: rest, v => (v.apply epoch frame).bind (applyAll epoch rest)

theorem applyAll_append (epoch : Nat) (first rest : List Frame) (v : View) :
    applyAll epoch (first ++ rest) v = (applyAll epoch first v).bind (applyAll epoch rest) := by
  induction first generalizing v with
  | nil => rfl
  | cons frame first ih =>
      simp only [List.cons_append, applyAll]
      cases v.apply epoch frame with
      | none => rfl
      | some next => exact ih next

theorem add_append (first rest : List Entry) (entries : BridgeId → Option Entry) :
    add (first ++ rest) entries = add rest (add first entries) := by
  induction first generalizing entries with
  | nil => rfl
  | cons entry first ih => exact ih _

/-- An entry of a bridge is the last one added, or the one that was there. -/
theorem add_eq_some {list : List Entry} {entries : BridgeId → Option Entry} {b : BridgeId} {entry : Entry}
    (found : add list entries b = some entry) : (entry ∈ list ∧ entry.bridge = b) ∨ entries b = some entry := by
  induction list generalizing entries with
  | nil => exact .inr found
  | cons first rest ih =>
      rcases ih found with ⟨listed, own⟩ | earlier
      · exact .inl ⟨List.mem_cons_of_mem _ listed, own⟩
      · split at earlier
        · rename_i same
          cases earlier
          exact .inl ⟨List.mem_cons_self, same.symm⟩
        · exact .inr earlier

theorem add_eq_none {list : List Entry} {entries : BridgeId → Option Entry} {b : BridgeId}
    (missing : add list entries b = none) : (∀ entry ∈ list, entry.bridge ≠ b) ∧ entries b = none := by
  induction list generalizing entries with
  | nil => exact ⟨by simp, missing⟩
  | cons first rest ih =>
      obtain ⟨later, earlier⟩ := ih missing
      split at earlier
      · cases earlier
      · rename_i other
        refine ⟨?_, earlier⟩
        intro entry listed
        rcases List.mem_cons.mp listed with rfl | after
        · exact fun same => other same.symm
        · exact later entry after

/-- A frame's say on draining. -/
theorem apply_draining {epoch : Nat} {v v' : View} {frame : Frame} (said : v.apply epoch frame = some v') :
    v'.draining = (v.draining || decide (frame = .event .leaving)) := by
  cases frame with
  | ping =>
      cases said
      simp
  | unknown =>
      cases said
      simp
  | hello other => cases said
  | snapshot epoch' seq list more =>
      rw [apply] at said
      split at said
      · cases said
        simp
      · cases said
  | snapshotPart list more =>
      rw [apply] at said
      split at said
      · cases said
        simp
      · cases said
  | attached seq entry =>
      rw [apply] at said
      split at said
      · cases said
        simp
      · cases said
  | detached seq tunnel bridge =>
      rw [apply] at said
      split at said
      · cases said
        simp
      · cases said
  | event event =>
      cases event <;> cases said <;> simp

end View

/-! ### Snapshots -/

namespace Local

theorem chunks_flatten (length : Entry → Nat) (limit : Nat) (order chunk : List Entry) (size : Nat) :
    (chunks length limit order chunk size).flatten = chunk ++ order := by
  induction order generalizing chunk size with
  | nil => simp [chunks]
  | cons entry rest ih =>
      rw [chunks]
      split
      · rw [List.flatten_cons, ih]
        rfl
      · rw [ih]
        simp

theorem chunks_ne_nil (length : Entry → Nat) (limit : Nat) (order chunk : List Entry) (size : Nat) :
    chunks length limit order chunk size ≠ [] := by
  induction order generalizing chunk size with
  | nil => simp [chunks]
  | cons entry rest ih =>
      rw [chunks]
      split
      · simp
      · exact ih _ _

theorem length_parts (chunks : List (List Entry)) : (parts chunks).length = chunks.length := by
  induction chunks with
  | nil => rfl
  | cons chunk rest ih => simp [parts, ih]

theorem length_snapshot (epoch seq : Nat) (chunks : List (List Entry)) :
    (snapshot epoch seq chunks).length = chunks.length := by
  cases chunks with
  | nil => rfl
  | cons chunk rest => simp [snapshot, length_parts]

/-- The parts of a snapshot that is open exactly when some are left. -/
theorem applyAll_parts (epoch : Nat) (rest : List (List Entry)) (v : View) (opened : v.snapshotOpen = !rest.isEmpty) :
    View.applyAll epoch (parts rest) v =
      some { v with snapshotOpen := false,
                    entries := if v.draining then v.entries else View.add rest.flatten v.entries } := by
  induction rest generalizing v with
  | nil =>
      have closed : v.snapshotOpen = false := by simpa using opened
      cases v
      simp_all [parts, View.applyAll, View.add]
  | cons chunk rest ih =>
      have opened : v.snapshotOpen = true := by simpa using opened
      rw [parts, View.applyAll, View.apply, if_pos opened, Option.bind_some, ih _ rfl]
      cases draining : v.draining <;> simp [View.add_append]

/-- A whole snapshot: only its own entries are left, and a machine that drains has none. -/
theorem applyAll_snapshot (epoch seq : Nat) {chunks : List (List Entry)} (some_ : chunks ≠ []) (v : View) :
    View.applyAll epoch (snapshot epoch seq chunks) v =
      some { v with seq := seq, snapshotOpen := false,
                    entries := if v.draining then fun _ => none else View.add chunks.flatten fun _ => none } := by
  cases chunks with
  | nil => exact absurd rfl some_
  | cons chunk rest =>
      rw [snapshot, View.applyAll, View.apply, if_pos rfl, Option.bind_some, applyAll_parts _ _ _ rfl]
      cases draining : v.draining <;> simp [View.add_append]

end Local

/-! ### The receiver's copy -/

theorem get_put_self {κ ν : Type} [DecidableEq κ] (t : Table κ ν) (k : κ) (v : ν) : (t.put k v).get k = some v := by
  simp

/-- The receiver's entry for the sender's: the same but for a time that was too far ahead of the clock at which it was
stored. -/
def Copy (stored : Option Nat) : Option Entry → Option Entry → Prop
  | none, none => True
  | some entry, some held => ∃ now, stored = some now ∧ held = { entry with attachedAt := saneTime entry.attachedAt now }
  | _, _ => False

/-- Such a copy, or an entry that was kept from the link before. -/
def Kept (stored : Option Nat) (entry held : Option Entry) : Prop := Copy stored entry held ∨ (stored = none ∧ held = entry)

/-- The receiver's peer holds what the view says. -/
structure Peer.Copies (peer : Peer) (epoch : Nat) (stamps : Stamps) (v : View) : Prop where
  epoch_ : peer.hello.epoch = epoch
  seq : peer.seq = v.seq
  snapshotOpen : peer.snapshotOpen = v.snapshotOpen
  draining : peer.hello.draining = v.draining
  entries : ∀ b, Kept (stamps b) (v.entries b) (peer.entries.get b)

namespace Stamps

variable (stamps : Stamps) (now : Nat)

theorem put_nil : stamps.put [] now = stamps := rfl

theorem put_cons (b : BridgeId) (rest : List BridgeId) :
    (stamps.put [b] now).put rest now = stamps.put (b :: rest) now := by
  funext b'
  by_cases later : b' ∈ rest
  · simp [put, later]
  · simp [put, later]

/-- A frame that brings no entries is the first of none. -/
theorem after_quiet {frame : Frame} (quiet : frame.brings = []) (draining : Bool) :
    stamps.after frame draining now = stamps := by
  rw [after, quiet, put_nil, ite_self]

end Stamps

namespace View

/-- The view without what was kept from the link before. -/
def told (v : View) (stamps : Stamps) : View :=
  { v with entries := fun b => if (stamps b).isSome then v.entries b else none }

theorem told_add (list : List Entry) (entries : BridgeId → Option Entry) (stamps : Stamps) (now : Nat) :
    (fun b => if (stamps.put (list.map Entry.bridge) now b).isSome then add list entries b else none) =
      add list fun b => if (stamps b).isSome then entries b else none := by
  induction list generalizing entries stamps with
  | nil => rfl
  | cons entry rest ih =>
      have first : (fun b => if (stamps.put [entry.bridge] now b).isSome then
            if b = entry.bridge then some entry else entries b else none) =
          fun b => if b = entry.bridge then some entry else if (stamps b).isSome then entries b else none := by
        funext b
        by_cases own : b = entry.bridge
        · simp [Stamps.put, own]
        · simp [Stamps.put, own]
      have later := ih (fun b => if b = entry.bridge then some entry else entries b) (stamps.put [entry.bridge] now)
      rw [Stamps.put_cons, first] at later
      exact later

/-- A frame says the same of what came on this link. -/
theorem told_apply {epoch : Nat} {v v' : View} {frame : Frame} (said : v.apply epoch frame = some v') (stamps : Stamps)
    (now : Nat) : (v.told stamps).apply epoch frame = some (v'.told (stamps.after frame v.draining now)) := by
  cases frame with
  | ping =>
      cases said
      rw [Stamps.after_quiet stamps now rfl]
      rfl
  | unknown =>
      cases said
      rw [Stamps.after_quiet stamps now rfl]
      rfl
  | hello other => cases said
  | snapshot epoch' seq list more =>
      rw [apply] at said
      split at said
      · rename_i same
        cases said
        have added := told_add list (fun _ => none) stamps now
        simp only [ite_self] at added
        cases draining : v.draining with
        | true => simp [apply, told, same, draining]
        | false => simp [apply, told, same, draining, Stamps.after, Frame.brings, added]
      · cases said
  | snapshotPart list more =>
      rw [apply] at said
      split at said
      · rename_i opened
        cases said
        have added := told_add list v.entries stamps now
        cases draining : v.draining with
        | true => simp [apply, told, opened, draining, Stamps.after]
        | false => simp [apply, told, opened, draining, Stamps.after, Frame.brings, added]
      · cases said
  | attached seq entry =>
      rw [apply] at said
      split at said
      · rename_i next
        cases said
        have added := told_add [entry] v.entries stamps now
        cases draining : v.draining with
        | true => simp [apply, told, next, draining, Stamps.after]
        | false =>
            simp only [List.map_cons, List.map_nil] at added
            simp [apply, told, next, draining, Stamps.after, Frame.brings, added]
      · cases said
  | detached seq tunnel bridge =>
      rw [apply] at said
      split at said
      · rename_i next
        cases said
        have cleared : (fun b => if b = bridge then none else if (stamps b).isSome then v.entries b else none) =
            fun b => if (stamps b).isSome then if b = bridge then none else v.entries b else none := by
          funext b
          by_cases own : b = bridge
          · simp [own]
          · simp [own]
        rw [Stamps.after_quiet stamps now rfl]
        simp [apply, told, next, cleared]
      · cases said
  | event event =>
      rw [Stamps.after_quiet stamps now rfl]
      cases event with
      | leaving =>
          cases said
          simp [apply, told]
      | _ =>
          cases said
          rfl

end View

namespace Remote

variable {stamps : Stamps}

theorem kept_none (stored : Option Nat) : Kept stored none none := Or.inl trivial

theorem kept_put {entries : BridgeId → Option Entry} {held : Table BridgeId Entry} (entry : Entry) (now : Nat)
    (kept : ∀ b, Kept (stamps b) (entries b) (held.get b)) (b : BridgeId) :
    Kept (stamps.put [entry.bridge] now b) (if b = entry.bridge then some entry else entries b)
      ((held.put entry.bridge { entry with attachedAt := saneTime entry.attachedAt now }).get b) := by
  rw [Table.get_put]
  by_cases own : b = entry.bridge
  · rw [if_pos own, if_pos own]
    exact Or.inl ⟨now, by simp [Stamps.put, own], rfl⟩
  · rw [if_neg own, if_neg own]
    simpa [Stamps.put, own] using kept b

theorem kept_addAll {machine : MachineId} {now : Nat} (list : List Entry) {index : Index}
    {entries : BridgeId → Option Entry} {held : Table BridgeId Entry}
    (kept : ∀ b, Kept (stamps b) (entries b) (held.get b)) :
    ∀ b, Kept (stamps.put (list.map Entry.bridge) now b) (View.add list entries b)
      ((addAll machine now list (index, held)).2.get b) := by
  induction list generalizing entries index held stamps with
  | nil => exact kept
  | cons entry rest ih =>
      rw [List.map_cons, ← Stamps.put_cons]
      exact ih (kept_put entry now kept)

theorem kept_addSnapshot (machine : MachineId) (now : Nat) (peer : Peer) {frame : Frame} {list : List Entry}
    (brings : frame.brings = list.map Entry.bridge) (index : Index) {entries : BridgeId → Option Entry}
    {held : Table BridgeId Entry} (kept : ∀ b, Kept (stamps b) (entries b) (held.get b)) :
    ∀ b, Kept (stamps.after frame peer.hello.draining now b)
      ((if peer.hello.draining then entries else View.add list entries) b)
      ((addSnapshot machine now peer list (index, held)).2.get b) := by
  unfold addSnapshot Stamps.after
  rw [brings]
  split
  · exact kept
  · exact kept_addAll list kept

theorem kept_without {entries : BridgeId → Option Entry} {held : Table BridgeId Entry} (bridge : BridgeId)
    (kept : ∀ b, Kept (stamps b) (entries b) (held.get b)) (b : BridgeId) :
    Kept (stamps b) (if b = bridge then none else entries b) ((without held bridge).get b) := by
  rw [get_without]
  split
  · exact kept_none _
  · exact kept b

/-- The frame is applied, and the peer behind it holds what the view says. -/
def Takes (r : Remote) (machine : MachineId) (peer : Peer) (frame : Frame) (now : Nat) (epoch : Nat) (stamps : Stamps)
    (v : View) : Prop :=
  ∃ event applied peer', r.apply machine peer.link frame now = .ok (event, applied) ∧
    applied.peers.get machine = some peer' ∧ peer'.link = peer.link ∧ peer'.Copies epoch stamps v

section Taking

variable {r : Remote} {machine : MachineId} {peer : Peer} {epoch : Nat} {v v' : View}

/-- A frame that leaves the peer as it is. -/
theorem takes_quiet {frame : Frame} {event : Option Event} {now : Nat} (held : r.peers.get machine = some peer)
    (copies : peer.Copies epoch stamps v) (applied : r.apply machine peer.link frame now = .ok (event, r))
    (quiet : frame.brings = []) : r.Takes machine peer frame now epoch (stamps.after frame peer.hello.draining now) v := by
  rw [Stamps.after_quiet stamps now quiet]
  exact ⟨event, r, peer, applied, held, rfl, copies⟩

theorem takes_snapshot {seq : Nat} {list : List Entry} {more : Bool} (now : Nat)
    (held : r.peers.get machine = some peer) (copies : peer.Copies epoch stamps v) :
    r.Takes machine peer (.snapshot epoch seq list more) now epoch
      (stamps.after (.snapshot epoch seq list more) peer.hello.draining now)
      { v with seq := seq, snapshotOpen := more,
               entries := if v.draining then fun _ => none else View.add list fun _ => none } := by
  let next := addSnapshot machine now peer list (indexRemoveAll r.index machine peer.entries, Table.empty)
  have applied : r.apply machine peer.link (.snapshot epoch seq list more) now =
      .ok (none, { peers := r.peers.put machine
                      { peer with seq := seq, snapshotOpen := more, entries := next.2 }
                   index := next.1 }) := by
    simp [apply, held, copies.epoch_, next]
  have none_ : ∀ b : BridgeId, Kept (stamps b) none ((Table.empty : Table BridgeId Entry).get b) := fun _ => kept_none _
  have brings : (Frame.snapshot epoch seq list more).brings = list.map Entry.bridge := rfl
  have kept := kept_addSnapshot machine now peer brings (indexRemoveAll r.index machine peer.entries) none_
  refine ⟨none, _, _, applied, get_put_self _ _ _, rfl, copies.epoch_, rfl, rfl, copies.draining, ?_⟩
  rw [← copies.draining]
  exact kept

theorem takes_snapshotPart {list : List Entry} {more : Bool} (now : Nat) (held : r.peers.get machine = some peer)
    (copies : peer.Copies epoch stamps v) (opened : v.snapshotOpen = true) :
    r.Takes machine peer (.snapshotPart list more) now epoch
      (stamps.after (.snapshotPart list more) peer.hello.draining now)
      { v with snapshotOpen := more, entries := if v.draining then v.entries else View.add list v.entries } := by
  let next := addSnapshot machine now peer list (r.index, peer.entries)
  have applied : r.apply machine peer.link (.snapshotPart list more) now =
      .ok (none, { peers := r.peers.put machine { peer with snapshotOpen := more, entries := next.2 }
                   index := next.1 }) := by
    simp [apply, held, copies.snapshotOpen, opened, next]
  have brings : (Frame.snapshotPart list more).brings = list.map Entry.bridge := rfl
  have kept := kept_addSnapshot machine now peer brings r.index copies.entries
  refine ⟨none, _, _, applied, get_put_self _ _ _, rfl, copies.epoch_, copies.seq, rfl, copies.draining, ?_⟩
  rw [← copies.draining]
  exact kept

theorem takes_attached (entry : Entry) (now : Nat) (held : r.peers.get machine = some peer)
    (copies : peer.Copies epoch stamps v) (closed : v.snapshotOpen = false) :
    r.Takes machine peer (.attached (v.seq + 1) entry) now epoch
      (stamps.after (.attached (v.seq + 1) entry) peer.hello.draining now)
      { v with seq := v.seq + 1, entries := if v.draining then v.entries else View.add [entry] v.entries } := by
  obtain ⟨life, seq, opened, draining, entries⟩ := copies
  cases live : v.draining with
  | true =>
      have drains := draining.trans live
      have applied : r.apply machine peer.link (.attached (v.seq + 1) entry) now =
          .ok (none, r.setPeer machine { peer with seq := v.seq + 1 }) := by
        simp [apply, held, opened, closed, seq, drains]
      refine ⟨none, _, _, applied, get_put_self _ _ _, rfl, life, rfl, opened, drains, fun b => ?_⟩
      rw [Stamps.after, drains]
      exact entries b
  | false =>
      have stays := draining.trans live
      let sane : Entry := { entry with attachedAt := saneTime entry.attachedAt now }
      obtain ⟨index, applied⟩ : ∃ index, r.apply machine peer.link (.attached (v.seq + 1) entry) now =
          .ok (none, { peers := r.peers.put machine
                          { peer with seq := v.seq + 1, entries := peer.entries.put sane.bridge sane }
                       index := index }) := by
        cases found : peer.entries.get entry.bridge with
        | none =>
            exact ⟨indexAdd r.index machine sane, by simp [apply, held, opened, closed, seq, stays, found, sane]⟩
        | some previous =>
            exact ⟨indexAdd (indexRemove r.index machine previous) machine sane,
              by simp [apply, held, opened, closed, seq, stays, found, sane]⟩
      refine ⟨none, _, _, applied, get_put_self _ _ _, rfl, life, rfl, opened, stays, fun b => ?_⟩
      rw [Stamps.after, stays]
      exact kept_put entry now entries b

theorem takes_detached (tunnel : TunnelId) (bridge : BridgeId) (now : Nat) (held : r.peers.get machine = some peer)
    (copies : peer.Copies epoch stamps v) :
    r.Takes machine peer (.detached (v.seq + 1) tunnel bridge) now epoch
      (stamps.after (.detached (v.seq + 1) tunnel bridge) peer.hello.draining now)
      { v with seq := v.seq + 1, entries := fun b => if b = bridge then none else v.entries b } := by
  obtain ⟨life, seq, opened, draining, entries⟩ := copies
  rw [Stamps.after_quiet stamps now rfl]
  cases found : peer.entries.get bridge with
  | none =>
      have applied : r.apply machine peer.link (.detached (v.seq + 1) tunnel bridge) now =
          .ok (none, r.setPeer machine { peer with seq := v.seq + 1 }) := by
        simp [apply, held, seq, found]
      refine ⟨none, _, _, applied, get_put_self _ _ _, rfl, life, rfl, opened, draining, fun b => ?_⟩
      dsimp only
      split
      · rename_i same
        rw [same, found]
        exact kept_none _
      · exact entries b
  | some entry =>
      have applied : r.apply machine peer.link (.detached (v.seq + 1) tunnel bridge) now =
          .ok (none, { peers := r.peers.put machine
                          { peer with seq := v.seq + 1, entries := without peer.entries bridge }
                       index := indexRemove r.index machine entry }) := by
        simp [apply, held, seq, found]
      exact ⟨none, _, _, applied, get_put_self _ _ _, rfl, life, rfl, opened, draining, kept_without bridge entries⟩

theorem takes_leaving (now : Nat) (held : r.peers.get machine = some peer) (copies : peer.Copies epoch stamps v) :
    r.Takes machine peer (.event .leaving) now epoch (stamps.after (.event .leaving) peer.hello.draining now)
      { v with draining := true, entries := fun _ => none } := by
  have applied : r.apply machine peer.link (.event .leaving) now =
      .ok (none, { peers := r.peers.put machine
                      { peer with hello := { peer.hello with draining := true }, entries := Table.empty }
                   index := indexRemoveAll r.index machine peer.entries }) := by
    simp [apply, held]
  exact ⟨none, _, _, applied, get_put_self _ _ _, rfl, copies.epoch_, copies.seq, copies.snapshotOpen, rfl,
    fun _ => kept_none _⟩

/-- A frame that may come on the current link is applied, and the peer holds what it says. -/
theorem apply_copies {frame : Frame} (now : Nat) (held : r.peers.get machine = some peer)
    (copies : peer.Copies epoch stamps v) (said : v.apply epoch frame = some v') :
    r.Takes machine peer frame now epoch (stamps.after frame peer.hello.draining now) v' := by
  cases frame with
  | ping =>
      cases said
      exact takes_quiet held copies (by simp [apply, held]; rfl) rfl
  | unknown =>
      cases said
      exact takes_quiet held copies (by simp [apply, held]; rfl) rfl
  | hello other => cases said
  | snapshot epoch' seq list more =>
      rw [View.apply] at said
      split at said
      · rename_i same
        cases said
        rw [same]
        exact takes_snapshot now held copies
      · cases said
  | snapshotPart list more =>
      rw [View.apply] at said
      split at said
      · rename_i opened
        cases said
        exact takes_snapshotPart now held copies opened
      · cases said
  | attached seq entry =>
      rw [View.apply] at said
      split at said
      · rename_i next
        obtain ⟨closed, rfl⟩ := next
        cases said
        exact takes_attached entry now held copies closed
      · cases said
  | detached seq tunnel bridge =>
      rw [View.apply] at said
      split at said
      · rename_i next
        subst next
        cases said
        exact takes_detached tunnel bridge now held copies
      · cases said
  | event event =>
      cases event with
      | leaving =>
          cases said
          exact takes_leaving now held copies
      | _ =>
          cases said
          exact takes_quiet held copies (by simp [apply, held]; rfl) rfl

end Taking

end Remote

/-! ### What is under way -/

/-- Applying the frames takes the view to the announcer's entries, or to none once it drains. -/
def Delivers (epoch : Nat) (pending : List Frame) (v : View) (l : Local) : Prop :=
  ∃ v', View.applyAll epoch pending v = some v' ∧ v'.snapshotOpen = false ∧ v'.seq = l.seq ∧
    v'.draining = (v.draining || decide (.event .leaving ∈ pending)) ∧
    v'.entries = if v'.draining then fun _ => none else l.entries.get

section Delivering

variable {epoch : Nat} {pending : List Frame} {v : View} {l : Local}

theorem Delivers.isSome (delivers : Delivers epoch pending v l) : (View.applyAll epoch pending v).isSome = true := by
  obtain ⟨v', applied, _⟩ := delivers
  simp [applied]

/-- A frame is queued behind the others that takes the announcer's entries before it to those after it. -/
theorem Delivers.snoc (delivers : Delivers epoch pending v l) {frame : Frame} {l' : Local}
    (takes : ∀ v' : View, v'.snapshotOpen = false → v'.seq = l.seq →
      (v'.entries = if v'.draining then fun _ => none else l.entries.get) →
      ∃ v'' : View, v'.apply epoch frame = some v'' ∧ v''.snapshotOpen = false ∧ v''.seq = l'.seq ∧
        v''.draining = (v'.draining || decide (frame = .event .leaving)) ∧
        v''.entries = if v''.draining then fun _ => none else l'.entries.get) :
    Delivers epoch (pending ++ [frame]) v l' := by
  obtain ⟨v', applied, closed, seq, draining, entries⟩ := delivers
  obtain ⟨v'', said, closed', seq', draining', entries'⟩ := takes v' closed seq entries
  refine ⟨v'', ?_, closed', seq', ?_, entries'⟩
  · rw [View.applyAll_append, applied, Option.bind_some, View.applyAll, said]
    rfl
  · rw [draining', draining]
    simp only [List.mem_append, List.mem_singleton, Bool.decide_or, Bool.or_assoc]
    congr 2
    simp only [decide_eq_decide]
    exact eq_comm

theorem delivers_attached (delivers : Delivers epoch pending v l) (tunnel : TunnelId) (bridge : BridgeId)
    (routes : List String) (attachedAt : Nat) :
    Delivers epoch (pending ++ [.attached (l.seq + 1)
        { tunnel := tunnel, bridge := bridge, routes := routes, attachedAt := attachedAt }]) v
      (l.attached tunnel bridge routes attachedAt) := by
  apply delivers.snoc
  intro v' closed seq entries
  let entry : Entry := { tunnel := tunnel, bridge := bridge, routes := routes, attachedAt := attachedAt }
  have said : v'.apply epoch (.attached (l.seq + 1) entry) =
      some { v' with seq := l.seq + 1, entries := if v'.draining then v'.entries else View.add [entry] v'.entries } := by
    rw [View.apply, if_pos ⟨closed, by rw [seq]⟩]
  refine ⟨_, said, closed, rfl, by simp, ?_⟩
  cases live : v'.draining with
  | true =>
      rw [live] at entries
      simpa using entries
  | false =>
      rw [live] at entries
      funext b
      simp only [Bool.false_eq_true, if_false] at entries
      simp [View.add, entries, Local.attached, Local.broadcast, entry]

theorem delivers_detached (delivers : Delivers epoch pending v l) (tunnel : TunnelId) {bridge : BridgeId}
    {entry : Entry} (held : l.entries.get bridge = some entry) :
    Delivers epoch (pending ++ [.detached (l.seq + 1) tunnel bridge]) v (l.detached tunnel bridge) := by
  have after : l.detached tunnel bridge =
      ({ l with seq := l.seq + 1, entries := without l.entries bridge } : Local).broadcast
        (.detached (l.seq + 1) tunnel bridge) := by
    simp [Local.detached, held]
  rw [after]
  apply delivers.snoc
  intro v' closed seq entries
  have said : v'.apply epoch (.detached (l.seq + 1) tunnel bridge) =
      some { v' with seq := l.seq + 1, entries := fun b => if b = bridge then none else v'.entries b } := by
    rw [View.apply, if_pos (by rw [seq])]
  refine ⟨_, said, closed, rfl, by simp, ?_⟩
  funext b
  rw [entries]
  cases v'.draining <;> simp [Local.broadcast]

theorem delivers_publish (delivers : Delivers epoch pending v l) (event : Event) :
    Delivers epoch (pending ++ [.event event]) v (l.publish event) := by
  apply delivers.snoc
  intro v' closed seq entries
  cases event with
  | leaving => exact ⟨_, rfl, closed, seq, by simp, rfl⟩
  | unknown => exact ⟨v', rfl, closed, seq, by simp, entries⟩
  | tunnelCreated tunnel => exact ⟨v', rfl, closed, seq, by simp, entries⟩
  | certificateChanged tunnel => exact ⟨v', rfl, closed, seq, by simp, entries⟩
  | tunnelDeleted tunnel => exact ⟨v', rfl, closed, seq, by simp, entries⟩
  | jobEnqueued => exact ⟨v', rfl, closed, seq, by simp, entries⟩

theorem leaving_not_mem_snapshot (seq : Nat) (chunks : List (List Entry)) :
    Frame.event .leaving ∉ Local.snapshot epoch seq chunks := by
  have parts : ∀ chunks, Frame.event .leaving ∉ Local.parts chunks := by
    intro chunks
    induction chunks with
    | nil => simp [Local.parts]
    | cons chunk rest ih => simp [Local.parts, ih]
  cases chunks with
  | nil => simp [Local.snapshot]
  | cons chunk rest => simp [Local.snapshot, parts rest]

/-- The entries in any order make the same table. -/
theorem add_values {order : List Entry} (keyed : Remote.Keyed l.entries) (all : order.Perm (values l.entries)) :
    (View.add order fun _ => none) = l.entries.get := by
  funext b
  cases found : View.add order (fun _ => none) b with
  | none =>
      obtain ⟨other, _⟩ := View.add_eq_none found
      cases held : l.entries.get b with
      | none => rfl
      | some entry => exact absurd (keyed b entry held) (other entry (all.mem_iff.mpr (mem_values.mpr ⟨b, held⟩)))
  | some entry =>
      rcases View.add_eq_some found with ⟨listed, own⟩ | earlier
      · obtain ⟨b', held⟩ := mem_values.mp (all.mem_iff.mp listed)
        rw [← own, keyed b' entry held, held]
      · cases earlier

/-- A link starts with all the announcer's entries, whatever was known before. -/
theorem delivers_snapshot (keyed : Remote.Keyed l.entries) {order : List Entry} (all : order.Perm (values l.entries))
    (length : Entry → Nat) (limit : Nat) (v : View) :
    Delivers epoch (Local.snapshot epoch l.seq (Local.chunks length limit order [] 0)) v l := by
  refine ⟨_, Local.applyAll_snapshot epoch l.seq (Local.chunks_ne_nil _ _ _ _ _) v, rfl, rfl, ?_, ?_⟩
  · simp [leaving_not_mem_snapshot]
  · rw [Local.chunks_flatten, List.nil_append, add_values keyed all]

end Delivering

/-! ### The invariant of a link -/

namespace Replication

/-- What is queued on the link, or left with its writer. -/
def queued (s : Replication) (link : LinkId) : List Frame := (s.announcer.links.get link).getD (s.closed link)

/-- What the receiver has not applied yet. -/
def pending (s : Replication) (link : LinkId) : List Frame := s.wire link ++ s.queued link

/-- The sender announces on the link. -/
def Subscribed (s : Replication) (link : LinkId) : Prop := (s.announcer.links.get link).isSome = true

/-- What is under way may come after the view and, where the sender announces, makes it its entries. -/
def Feeds (setup : ReplicaSetup) (s : Replication) (link : LinkId) (v : View) : Prop :=
  (View.applyAll setup.sender.epoch (s.pending link) v).isSome = true ∧
    (s.Subscribed link → Delivers setup.sender.epoch (s.pending link) v s.announcer)

/-- The receiver hears that the sender leaves, from the hello or from an event, when it does and not before. -/
def Told (s : Replication) (link : LinkId) (draining : Bool) : Prop :=
  s.Subscribed link → (draining = true → s.leave ≠ .no) ∧
    (s.leave = .published → draining = true ∨ .event .leaving ∈ s.pending link) ∧
    (.event .leaving ∈ s.pending link → s.leave = .published)

/-- A link that was subscribed and that the receiver has not registered. -/
structure Fresh (setup : ReplicaSetup) (s : Replication) (link : LinkId) : Prop where
  feeds : ∀ entries draining,
    s.Feeds setup link { seq := 0, entries := entries, snapshotOpen := false, draining := draining }
  event : s.Subscribed link → .event .leaving ∈ s.pending link → s.leave = .published
  hello : ∀ hello, s.hello link = some hello → ∃ draining, hello = setup.sender.hello draining ∧ s.Told link draining

/-- The current link: the receiver holds a view of the sender, and what is under way takes it, also without what was kept
from the link before, to the sender's entries. -/
structure Current (setup : ReplicaSetup) (s : Replication) (stamps : Stamps) (link : LinkId) (peer : Peer) (v : View) :
    Prop where
  copies : peer.Copies setup.sender.epoch stamps v
  feeds : s.Feeds setup link v
  fresh : s.Feeds setup link (v.told stamps)
  told : s.Told link v.draining

structure LinkSound (setup : ReplicaSetup) (s : Replication) (stamps : Stamps) (link : LinkId) : Prop where
  unopened : s.opened link = false → s.queued link = [] ∧ ¬ s.Subscribed link ∧ s.hello link = none ∧
    s.wire link = [] ∧ s.reading link = .waiting
  waiting : s.reading link = .waiting → ∀ peer, s.peer setup = some peer → peer.link ≠ link
  fresh : s.opened link = true → s.reading link = .waiting → s.Fresh setup link
  current : ∀ peer, s.peer setup = some peer → peer.link = link → ∃ v, s.Current setup stamps link peer v

/-- What the receiver knows of the sender through links to it, and what is under way on them. -/
structure Sound (setup : ReplicaSetup) (s : Replication) (stamps : Stamps) : Prop where
  keyed : Remote.Keyed s.announcer.entries
  links : ∀ link, setup.own link = true → s.LinkSound setup stamps link

section Sender

variable {setup : ReplicaSetup} {s s' : Replication} {stamps : Stamps} {link : LinkId}

/-- What an announcement does to a link: it queues a frame behind the others, or the link is closed (or was before) and
what is under way on it stays. -/
def Queues (frame : Frame) (s s' : Replication) (link : LinkId) : Prop :=
  (s.Subscribed link ∧ s'.pending link = s.pending link ++ [frame]) ∨
    (¬ s'.Subscribed link ∧ s'.pending link = s.pending link)

/-- An announcement changes nothing else of the link. -/
structure Announces (frame : Frame) (s s' : Replication) : Prop where
  queues : ∀ link, Queues frame s s' link
  unqueued : ∀ link, ¬ s.Subscribed link → s'.queued link = s.queued link ∧ ¬ s'.Subscribed link
  opened : s'.opened = s.opened
  hello : s'.hello = s.hello
  wire : s'.wire = s.wire
  reading : s'.reading = s.reading
  remote : s'.remote = s.remote

theorem announces_broadcast {frame : Frame} {f : Local → Local} {entries : Table BridgeId Entry} {seq : Nat}
    (is : f s.announcer = ({ s.announcer with seq := seq, entries := entries } : Local).broadcast frame) :
    Announces frame s (s.announce f) := by
  have after : ∀ link, (f s.announcer).links.get link = (s.announcer.links.get link).bind fun queue =>
      if queue.length < linkQueue then some (queue ++ [frame]) else none := by
    intro link
    rw [is]
    rfl
  have unqueued : ∀ link, ¬ s.Subscribed link →
      (s.announce f).queued link = s.queued link ∧ ¬ (s.announce f).Subscribed link := by
    intro link unsubscribed
    have none_ : s.announcer.links.get link = none := by simpa [Subscribed] using unsubscribed
    simp [queued, Subscribed, announce, after, none_]
  refine ⟨?_, unqueued, rfl, rfl, rfl, rfl, rfl⟩
  intro link
  by_cases subscribed : s.Subscribed link
  · obtain ⟨queue, held⟩ := Option.isSome_iff_exists.mp subscribed
    by_cases room : queue.length < linkQueue
    · left
      refine ⟨subscribed, ?_⟩
      simp [pending, queued, announce, after, held, room]
    · right
      simp [pending, queued, Subscribed, announce, after, held, room]
  · right
    obtain ⟨same, unsubscribed⟩ := unqueued link subscribed
    refine ⟨unsubscribed, ?_⟩
    rw [pending, pending, same]
    rfl

/-- A link on which what is under way still does the same. -/
theorem Current.imp {known : Peer} {v : View} (current : s.Current setup stamps link known v)
    (feeds : ∀ v, s.Feeds setup link v → s'.Feeds setup link v) (told : ∀ draining, s.Told link draining →
      s'.Told link draining) : s'.Current setup stamps link known v :=
  ⟨current.copies, feeds v current.feeds, feeds _ current.fresh, told v.draining current.told⟩

section Announcing

variable {frame : Frame} (announces : Announces frame s s')

include announces

theorem Announces.feeds
    (delivers : ∀ pending v, Delivers setup.sender.epoch pending v s.announcer →
      Delivers setup.sender.epoch (pending ++ [frame]) v s'.announcer)
    {v : View} (feeds : s.Feeds setup link v) : s'.Feeds setup link v := by
  rcases announces.queues link with ⟨subscribed, more⟩ | ⟨unsubscribed, same⟩
  · have after := delivers _ v (feeds.2 subscribed)
    rw [Feeds, more]
    exact ⟨after.isSome, fun _ => after⟩
  · rw [Feeds, same]
    exact ⟨feeds.1, fun subscribed => absurd subscribed unsubscribed⟩

theorem Announces.event (leaves : frame = .event .leaving → s'.leave = .published)
    (stays : frame ≠ .event .leaving → s'.leave = s.leave)
    (event : s.Subscribed link → .event .leaving ∈ s.pending link → s.leave = .published) :
    s'.Subscribed link → .event .leaving ∈ s'.pending link → s'.leave = .published := by
  intro subscribed' listed
  by_cases leaving : frame = .event .leaving
  · exact leaves leaving
  · rcases announces.queues link with ⟨subscribed, more⟩ | ⟨unsubscribed, _⟩
    · rw [stays leaving]
      apply event subscribed
      rw [more] at listed
      rcases List.mem_append.mp listed with before | last
      · exact before
      · exact absurd (List.mem_singleton.mp last).symm leaving
    · exact absurd subscribed' unsubscribed

theorem Announces.told (leaves : frame = .event .leaving → s'.leave = .published)
    (stays : frame ≠ .event .leaving → s'.leave = s.leave) {draining : Bool} (told : s.Told link draining) :
    s'.Told link draining := by
  intro subscribed'
  rcases announces.queues link with ⟨subscribed, more⟩ | ⟨unsubscribed, _⟩
  · obtain ⟨drains, hears, listed⟩ := told subscribed
    refine ⟨?_, ?_, announces.event leaves stays (fun _ => listed) subscribed'⟩
    · by_cases leaving : frame = .event .leaving
      · rw [leaves leaving]
        simp
      · rw [stays leaving]
        exact drains
    · rw [more]
      by_cases leaving : frame = .event .leaving
      · exact fun _ => .inr (by simp [leaving])
      · rw [stays leaving]
        intro published
        rcases hears published with own | before
        · exact .inl own
        · exact .inr (List.mem_append_left _ before)
  · exact absurd subscribed' unsubscribed

theorem Announces.linkSound
    (delivers : ∀ pending v, Delivers setup.sender.epoch pending v s.announcer →
      Delivers setup.sender.epoch (pending ++ [frame]) v s'.announcer)
    (leaves : frame = .event .leaving → s'.leave = .published)
    (stays : frame ≠ .event .leaving → s'.leave = s.leave) (sound : s.LinkSound setup stamps link) :
    s'.LinkSound setup stamps link := by
  have peer : s'.peer setup = s.peer setup := by rw [Replication.peer, Replication.peer, announces.remote]
  constructor
  · rw [announces.opened, announces.hello, announces.wire, announces.reading]
    intro unopened
    obtain ⟨empty, unsubscribed, rest⟩ := sound.unopened unopened
    obtain ⟨same, unsubscribed'⟩ := announces.unqueued link unsubscribed
    exact ⟨same.trans empty, unsubscribed', rest⟩
  · rw [announces.reading, peer]
    exact sound.waiting
  · rw [announces.opened, announces.reading]
    intro opened waiting
    have fresh := sound.fresh opened waiting
    refine ⟨fun entries draining => announces.feeds delivers (fresh.feeds entries draining),
      announces.event leaves stays fresh.event, ?_⟩
    rw [announces.hello]
    intro hello said
    obtain ⟨draining, is, told⟩ := fresh.hello hello said
    exact ⟨draining, is, announces.told leaves stays told⟩
  · rw [peer]
    intro known held own
    obtain ⟨v, current⟩ := sound.current known held own
    exact ⟨v, current.imp (fun _ => announces.feeds delivers) fun _ => announces.told leaves stays⟩

end Announcing

/-- A link on which the same is under way, in effect. -/
theorem LinkSound.similar (sound : s.LinkSound setup stamps link) (seq : s'.announcer.seq = s.announcer.seq)
    (entries : s'.announcer.entries = s.announcer.entries)
    (applies : ∀ v, View.applyAll setup.sender.epoch (s'.pending link) v =
      View.applyAll setup.sender.epoch (s.pending link) v)
    (leaving : .event .leaving ∈ s'.pending link ↔ .event .leaving ∈ s.pending link)
    (subscribed : s'.Subscribed link ↔ s.Subscribed link)
    (leave : s'.leave = s.leave) (opened : s'.opened link = s.opened link) (hello : s'.hello link = s.hello link)
    (reading : s'.reading link = s.reading link) (remote : s'.peer setup = s.peer setup)
    (unopened : s.opened link = false → s'.queued link = [] ∧ s'.wire link = []) : s'.LinkSound setup stamps link := by
  have feeds : ∀ v, s'.Feeds setup link v ↔ s.Feeds setup link v := by
    intro v
    rw [Feeds, Feeds, Delivers, Delivers, applies, subscribed, seq, entries]
    simp only [leaving]
  have told : ∀ draining, s'.Told link draining ↔ s.Told link draining := by
    intro draining
    rw [Told, Told, subscribed, leave, leaving]
  constructor
  · rw [opened, subscribed, hello, reading]
    intro closed
    obtain ⟨_, unsubscribed, unsaid, _, waiting⟩ := sound.unopened closed
    obtain ⟨queued_, wire_⟩ := unopened closed
    exact ⟨queued_, unsubscribed, unsaid, wire_, waiting⟩
  · rw [reading, remote]
    exact sound.waiting
  · rw [opened, reading]
    intro isOpen waiting
    have fresh := sound.fresh isOpen waiting
    constructor
    · intro entries draining
      exact (feeds _).mpr (fresh.feeds entries draining)
    · rw [subscribed, leaving, leave]
      exact fresh.event
    · rw [hello]
      intro said is
      obtain ⟨draining, same, heard⟩ := fresh.hello said is
      exact ⟨draining, same, (told draining).mpr heard⟩
  · rw [remote]
    intro known held own
    obtain ⟨v, current⟩ := sound.current known held own
    exact ⟨v, current.imp (fun v => (feeds v).mpr) fun draining => (told draining).mpr⟩

/-- A link of which nothing changed. -/
theorem LinkSound.congr (sound : s.LinkSound setup stamps link) (seq : s'.announcer.seq = s.announcer.seq)
    (entries : s'.announcer.entries = s.announcer.entries)
    (queue : s'.announcer.links.get link = s.announcer.links.get link) (closed : s'.closed link = s.closed link)
    (leave : s'.leave = s.leave) (opened : s'.opened link = s.opened link) (hello : s'.hello link = s.hello link)
    (wire : s'.wire link = s.wire link) (reading : s'.reading link = s.reading link)
    (remote : s'.peer setup = s.peer setup) : s'.LinkSound setup stamps link := by
  have queued_ : s'.queued link = s.queued link := by rw [queued, queued, queue, closed]
  have pending_ : s'.pending link = s.pending link := by rw [pending, pending, wire, queued_]
  refine sound.similar seq entries (fun v => by rw [pending_]) (by rw [pending_])
    (by rw [Subscribed, Subscribed, queue]) leave opened hello reading remote (fun unopened => ?_)
  rw [queued_, wire]
  exact ⟨(sound.unopened unopened).1, (sound.unopened unopened).2.2.2.1⟩

/-! ### The sender's moves -/

theorem Sound.attached (sound : s.Sound setup stamps) (tunnel : TunnelId) (bridge : BridgeId) (routes : List String)
    (attachedAt : Nat) : (s.announce fun l => l.attached tunnel bridge routes attachedAt).Sound setup stamps := by
  let entry : Entry := { tunnel := tunnel, bridge := bridge, routes := routes, attachedAt := attachedAt }
  have announces : Announces (.attached (s.announcer.seq + 1) entry) s
      (s.announce fun l => l.attached tunnel bridge routes attachedAt) := announces_broadcast rfl
  constructor
  · have keyed : Remote.Keyed (s.announcer.entries.put entry.bridge entry) := sound.keyed.put
    exact keyed
  · intro link own
    exact announces.linkSound (fun _ _ delivers => delivers_attached delivers tunnel bridge routes attachedAt)
      (by simp) (fun _ => rfl) (sound.links link own)

theorem Sound.detached (sound : s.Sound setup stamps) (tunnel : TunnelId) (bridge : BridgeId) :
    (s.announce fun l => l.detached tunnel bridge).Sound setup stamps := by
  cases held : s.announcer.entries.get bridge with
  | none =>
      have same : s.announcer.detached tunnel bridge = s.announcer := by simp [Local.detached, held]
      constructor
      · simpa [announce, same] using sound.keyed
      · intro link own
        apply (sound.links link own).congr <;> simp only [announce, same]
        · cases s.announcer.links.get link <;> rfl
        · rfl
  | some entry =>
      have announces : Announces (.detached (s.announcer.seq + 1) tunnel bridge) s
          (s.announce fun l => l.detached tunnel bridge) := by
        apply announces_broadcast
        simp only [Local.detached, held]
        rfl
      constructor
      · simpa [announce, Local.detached, held, Local.broadcast] using sound.keyed.without bridge
      · intro link own
        exact announces.linkSound (fun _ _ delivers => delivers_detached delivers tunnel held)
          (by simp) (fun _ => rfl) (sound.links link own)

theorem Sound.publish (sound : s.Sound setup stamps) {event : Event} (stays : event ≠ .leaving) :
    (s.announce fun l => l.publish event).Sound setup stamps := by
  have announces : Announces (.event event) s (s.announce fun l => l.publish event) := announces_broadcast rfl
  constructor
  · exact sound.keyed
  · intro link own
    refine announces.linkSound (fun _ _ delivers => delivers_publish delivers event) ?_ (fun _ => rfl)
      (sound.links link own)
    intro leaving
    cases leaving
    exact absurd rfl stays

theorem Sound.left (sound : s.Sound setup stamps) :
    ({ s.announce (fun l => l.publish .leaving) with leave := .published } : Replication).Sound setup stamps := by
  have announced : Announces (.event .leaving) s (s.announce fun l => l.publish .leaving) := announces_broadcast rfl
  have announces : Announces (.event .leaving) s
      { s.announce (fun l => l.publish .leaving) with leave := .published } :=
    ⟨announced.queues, announced.unqueued, rfl, rfl, rfl, rfl, rfl⟩
  constructor
  · exact sound.keyed
  · intro link own
    exact announces.linkSound (fun _ _ delivers => delivers_publish delivers .leaving) (fun _ => rfl)
      (fun stays => absurd rfl stays) (sound.links link own)

/-- `draining` is stored: what was true of a machine that stays is true of one that is about to leave. -/
theorem Sound.drained (sound : s.Sound setup stamps) (stays : s.leave = .no) :
    ({ s with leave := .draining } : Replication).Sound setup stamps := by
  have told : ∀ link draining, s.Told link draining →
      ({ s with leave := .draining } : Replication).Told link draining := by
    intro link draining heard subscribed
    obtain ⟨_, _, event⟩ := heard subscribed
    refine ⟨by simp, by simp, fun listed => ?_⟩
    rw [stays] at event
    cases event listed
  constructor
  · exact sound.keyed
  · intro link own
    have links := sound.links link own
    constructor
    · exact links.unopened
    · exact links.waiting
    · intro opened waiting
      have fresh := links.fresh opened waiting
      refine ⟨fresh.feeds, fun subscribed listed => ?_, fun hello said => ?_⟩
      · have published := fresh.event subscribed listed
        rw [stays] at published
        cases published
      · obtain ⟨draining, is, heard⟩ := fresh.hello hello said
        exact ⟨draining, is, told link draining heard⟩
    · intro known held current
      obtain ⟨v, was⟩ := links.current known held current
      exact ⟨v, was.imp (fun _ feeds => feeds) (told link)⟩

theorem Sound.subscribed (sound : s.Sound setup stamps) {length : Entry → Nat} {limit : Nat} {order : List Entry}
    (own : setup.own link = true) (new : s.opened link = false) (all : order.Perm (values s.announcer.entries))
    (fits : (Local.chunks length limit order [] 0).length ≤ linkQueue) :
    ({ s with announcer := s.announcer.subscribe setup.sender.epoch length limit order link
              opened := fun link' => if link' = link then true else s.opened link' } : Replication).Sound setup stamps := by
  let frames := Local.snapshot setup.sender.epoch s.announcer.seq (Local.chunks length limit order [] 0)
  have whole : frames.take linkQueue = frames := by
    apply List.take_of_length_le
    rw [Local.length_snapshot]
    exact fits
  constructor
  · exact sound.keyed
  · intro link' own'
    by_cases same : link' = link
    · subst same
      have links := sound.links link' own'
      obtain ⟨_, _, unsaid, unwritten, waiting⟩ := links.unopened new
      have under : Replication.pending { s with
          announcer := s.announcer.subscribe setup.sender.epoch length limit order link'
          opened := fun link'' => if link'' = link' then true else s.opened link'' } link' = frames := by
        simp only [pending, queued, Local.subscribe, unwritten, Table.get_put, if_true, Option.getD_some,
          List.nil_append]
        exact whole
      constructor
      · simp
      · exact links.waiting
      · intro _ _
        constructor
        · intro entries draining
          have delivers : Delivers setup.sender.epoch frames
              { seq := 0, entries := entries, snapshotOpen := false, draining := draining } s.announcer :=
            delivers_snapshot sound.keyed all length limit _
          rw [Feeds, under]
          exact ⟨delivers.isSome, fun _ => delivers⟩
        · rw [under]
          intro _ listed
          exact absurd listed (leaving_not_mem_snapshot _ _)
        · intro hello said
          rw [unsaid] at said
          cases said
      · intro known held current
        exact absurd current (links.waiting waiting known held)
    · exact (sound.links link' own').congr rfl rfl (by simp [Local.subscribe, same]) rfl rfl (by simp [same]) rfl rfl
        rfl rfl

theorem Sound.greeted (sound : s.Sound setup stamps) (opened : s.opened link = true) :
    ({ s with hello := fun link' =>
        if link' = link then some (setup.sender.hello (decide (s.leave ≠ .no))) else s.hello link' } :
      Replication).Sound setup stamps := by
  constructor
  · exact sound.keyed
  · intro link' own
    have links := sound.links link' own
    by_cases same : link' = link
    · subst same
      constructor
      · intro unopened
        exact absurd (opened.symm.trans unopened) (by simp)
      · exact links.waiting
      · intro opened waiting
        have fresh := links.fresh opened waiting
        refine ⟨fresh.feeds, fresh.event, ?_⟩
        intro hello said
        simp only [if_true, Option.some.injEq] at said
        refine ⟨_, said.symm, fun subscribed => ⟨by simp, fun published => ?_, fresh.event subscribed⟩⟩
        left
        rw [published]
        rfl
      · intro known held current
        obtain ⟨v, was⟩ := links.current known held current
        exact ⟨v, was.imp (fun _ feeds => feeds) fun _ told => told⟩
    · exact links.congr rfl rfl rfl rfl rfl rfl (by simp [same]) rfl rfl rfl

/-- A link that has said hello was opened. -/
theorem LinkSound.opened_of_hello (sound : s.LinkSound setup stamps link) (said : s.hello link ≠ none) :
    s.opened link = true := by
  cases opened : s.opened link with
  | true => rfl
  | false => exact absurd (sound.unopened opened).2.2.1 said

theorem Sound.written (sound : s.Sound setup stamps) {frame : Frame} {rest : List Frame} (said : s.hello link ≠ none)
    (queue : s.announcer.links.get link = some (frame :: rest)) :
    ({ s.setWire link (s.wire link ++ [frame]) with
        announcer := { s.announcer with links := s.announcer.links.put link rest } } : Replication).Sound setup stamps := by
  constructor
  · exact sound.keyed
  · intro link' own
    have links := sound.links link' own
    by_cases same : link' = link
    · subst same
      have under : Replication.pending { s.setWire link' (s.wire link' ++ [frame]) with
          announcer := { s.announcer with links := s.announcer.links.put link' rest } } link' = s.pending link' := by
        simp [pending, queued, setWire, queue]
      refine links.similar rfl rfl (fun v => by rw [under]) (by rw [under]) (by simp [Subscribed, queue]) rfl rfl rfl rfl
        rfl (fun unopened => ?_)
      exact absurd ((links.opened_of_hello said).symm.trans unopened) (by simp)
    · exact links.congr rfl rfl (by simp [same]) rfl rfl rfl rfl (by simp [setWire, same]) rfl rfl

theorem Sound.writtenAfterClose (sound : s.Sound setup stamps) {frame : Frame} {rest : List Frame}
    (said : s.hello link ≠ none) (unsubscribed : s.announcer.links.get link = none)
    (left : s.closed link = frame :: rest) :
    ({ s.setWire link (s.wire link ++ [frame]) with
        closed := fun link' => if link' = link then rest else s.closed link' } : Replication).Sound setup stamps := by
  constructor
  · exact sound.keyed
  · intro link' own
    have links := sound.links link' own
    by_cases same : link' = link
    · subst same
      have under : Replication.pending { s.setWire link' (s.wire link' ++ [frame]) with
          closed := fun link'' => if link'' = link' then rest else s.closed link'' } link' = s.pending link' := by
        simp [pending, queued, setWire, unsubscribed, left]
      refine links.similar rfl rfl (fun v => by rw [under]) (by rw [under]) Iff.rfl rfl rfl rfl rfl rfl
        (fun unopened => ?_)
      exact absurd ((links.opened_of_hello said).symm.trans unopened) (by simp)
    · exact links.congr rfl rfl rfl (by simp [same]) rfl rfl rfl (by simp [setWire, same]) rfl rfl

theorem Sound.pinged (sound : s.Sound setup stamps) (said : s.hello link ≠ none) :
    (s.setWire link (s.wire link ++ [.ping])).Sound setup stamps := by
  constructor
  · exact sound.keyed
  · intro link' own
    have links := sound.links link' own
    by_cases same : link' = link
    · subst same
      have under : (s.setWire link' (s.wire link' ++ [.ping])).pending link' =
          s.wire link' ++ .ping :: s.queued link' := by
        simp [pending, setWire, queued]
      refine links.similar rfl rfl (fun v => ?_) ?_ Iff.rfl rfl rfl rfl rfl rfl (fun unopened => ?_)
      · -- a ping changes nothing, wherever it comes
        rw [under, pending, View.applyAll_append, View.applyAll_append]
        rfl
      · rw [under, pending]
        simp
      · exact absurd ((links.opened_of_hello said).symm.trans unopened) (by simp)
    · exact links.congr rfl rfl rfl rfl rfl rfl rfl (by simp [setWire, same]) rfl rfl

theorem Sound.unsubscribed (sound : s.Sound setup stamps) :
    ({ s with announcer := s.announcer.unsubscribe link
              closed := fun link' => if link' = link then [] else s.closed link' } : Replication).Sound setup stamps := by
  constructor
  · exact sound.keyed
  · intro link' own
    have links := sound.links link' own
    by_cases same : link' = link
    · subst same
      let s' : Replication := { s with announcer := s.announcer.unsubscribe link'
                                       closed := fun link'' => if link'' = link' then [] else s.closed link'' }
      have none_ : s'.announcer.links.get link' = none := by simp [s', Local.unsubscribe]
      have queued_ : s'.queued link' = [] := by
        rw [queued, none_]
        simp [s']
      have gone : ¬ s'.Subscribed link' := by simp [Subscribed, none_]
      have feeds : ∀ v, s.Feeds setup link' v → s'.Feeds setup link' v := by
        intro v fed
        refine ⟨?_, fun subscribed => absurd subscribed gone⟩
        have whole := fed.1
        rw [pending, View.applyAll_append] at whole
        rw [pending, queued_, List.append_nil]
        exact Option.isSome_of_isSome_bind whole
      have told : ∀ draining, s'.Told link' draining := fun _ subscribed => absurd subscribed gone
      constructor
      · intro unopened
        obtain ⟨_, _, unsaid, unwritten, waiting⟩ := links.unopened unopened
        exact ⟨queued_, gone, unsaid, unwritten, waiting⟩
      · exact links.waiting
      · intro opened waiting
        have fresh := links.fresh opened waiting
        refine ⟨fun entries draining => feeds _ (fresh.feeds entries draining), fun subscribed => absurd subscribed gone,
          fun hello said => ?_⟩
        obtain ⟨draining, is, _⟩ := fresh.hello hello said
        exact ⟨draining, is, told draining⟩
      · intro known held current
        obtain ⟨v, was⟩ := links.current known held current
        exact ⟨v, was.imp feeds fun draining _ => told draining⟩
    · exact links.congr rfl rfl (by simp [Local.unsubscribe, same]) (by simp [same]) rfl rfl rfl rfl rfl rfl

end Sender

/-! ### The receiver's moves -/

section Receiver

variable {setup : ReplicaSetup} {s : Replication} {stamps : Stamps} {link : LinkId}

/-- What `register` leaves of the machine's peer. -/
theorem register_peer (r : Remote) (hello : Hello) (link : LinkId) (dialer : String) :
    ((r.register hello link dialer).accepted = false ∧ (r.register hello link dialer).remote = r) ∨
      ((r.register hello link dialer).accepted = true ∧
        ∃ entries, (r.register hello link dialer).remote.peers.get hello.machineId =
          some { hello := hello, link := link, dialer := dialer, seq := 0, entries := entries, snapshotOpen := false }) := by
  unfold Remote.register
  cases r.peers.get hello.machineId with
  | none => exact .inr ⟨rfl, Table.empty, get_put_self _ _ _⟩
  | some existing =>
      dsimp only
      split
      · exact .inl ⟨rfl, rfl⟩
      · split
        · exact .inr ⟨rfl, existing.entries, get_put_self _ _ _⟩
        · exact .inr ⟨rfl, Table.empty, get_put_self _ _ _⟩

/-- A link that is not the one the receiver knows the sender through. -/
theorem LinkSound.elsewhere {s' : Replication} {stamps' : Stamps} (sound : s.LinkSound setup stamps link)
    (announcer : s'.announcer = s.announcer) (closed : s'.closed = s.closed) (leave : s'.leave = s.leave)
    (opened : s'.opened = s.opened) (hello : s'.hello = s.hello) (wire : s'.wire link = s.wire link)
    (reading : s'.reading link = s.reading link) (elsewhere : ∀ peer, s'.peer setup = some peer → peer.link ≠ link) :
    s'.LinkSound setup stamps' link := by
  -- as if the receiver did not know the sender at all
  have unknown : ({ s' with remote := s.remote } : Replication).LinkSound setup stamps link :=
    sound.congr (by rw [announcer]) (by rw [announcer]) (by rw [announcer]) (by rw [closed]) leave (by rw [opened])
      (by rw [hello]) wire reading rfl
  refine ⟨unknown.unopened, fun _ => elsewhere, fun isOpen waiting => ?_, fun peer held own => ?_⟩
  · have fresh := unknown.fresh isOpen waiting
    exact ⟨fresh.feeds, fresh.event, fresh.hello⟩
  · exact absurd own (elsewhere peer held)

theorem Sound.registered (sound : s.Sound setup stamps) {hello : Hello} (dialer : String) (own : setup.own link = true)
    (said : s.hello link = some hello) (waiting : s.reading link = .waiting) :
    ({ s.setReading link (if (s.remote.register hello link dialer).accepted then .up else .ended) with
        remote := (s.remote.register hello link dialer).remote } : Replication).Sound setup
      (if (s.remote.register hello link dialer).accepted then fun _ => none else stamps) := by
  have links := sound.links link own
  have opened := links.opened_of_hello (by simp [said])
  obtain ⟨draining, is, told⟩ := (links.fresh opened waiting).hello hello said
  subst is
  have feeds := (links.fresh opened waiting).feeds
  constructor
  · exact sound.keyed
  · rcases register_peer s.remote (setup.sender.hello draining) link dialer with
      ⟨refused, remote⟩ | ⟨accepted, entries, held⟩
    · rw [refused, remote]
      intro link' own'
      by_cases same : link' = link
      · subst same
        refine ⟨fun unopened => absurd (opened.symm.trans unopened) (by simp), ?_, ?_, ?_⟩
        · simp [setReading]
        · simp [setReading]
        · intro known held current
          exact absurd current (links.waiting waiting known held)
      · exact (sound.links link' own').congr rfl rfl rfl rfl rfl rfl rfl rfl (by simp [setReading, same]) rfl
    · intro link' own'
      rw [accepted]
      by_cases same : link' = link
      · subst same
        refine ⟨fun unopened => absurd (opened.symm.trans unopened) (by simp), ?_, ?_, ?_⟩
        · simp [setReading]
        · simp [setReading]
        · intro known taken current
          have is : known = { hello := setup.sender.hello draining, link := link', dialer := dialer, seq := 0,
                              entries := entries, snapshotOpen := false } :=
            Option.some.inj (taken.symm.trans held)
          subst is
          exact ⟨{ seq := 0, entries := entries.get, snapshotOpen := false, draining := draining },
            ⟨rfl, rfl, rfl, rfl, fun b => Or.inr ⟨rfl, rfl⟩⟩, feeds entries.get draining, feeds _ draining, told⟩
      · refine (sound.links link' own').elsewhere rfl rfl rfl rfl rfl rfl (by simp [setReading, same]) ?_
        intro known taken
        have is := Option.some.inj (taken.symm.trans held)
        rw [is]
        exact fun equal => same equal.symm

/-- The first frame under way may come, and what follows takes the view it makes where the whole takes this one. -/
theorem Feeds.head {v : View} {frame : Frame} {rest : List Frame} (feeds : s.Feeds setup link v)
    (wire : s.wire link = frame :: rest) :
    ∃ v', v.apply setup.sender.epoch frame = some v' ∧ (s.setWire link rest).Feeds setup link v' := by
  have before : s.pending link = frame :: (rest ++ s.queued link) := by rw [pending, wire]; rfl
  have after : (s.setWire link rest).pending link = rest ++ s.queued link := by
    simp [pending, setWire, queued]
  have some_ := feeds.1
  rw [before, View.applyAll] at some_
  obtain ⟨v', said⟩ := Option.isSome_iff_exists.mp (Option.isSome_of_isSome_bind some_)
  rw [said, Option.bind_some] at some_
  refine ⟨v', said, ?_, fun subscribed => ?_⟩
  · rw [after]
    exact some_
  · obtain ⟨last, applied, closed, seq, draining, entries⟩ := feeds.2 subscribed
    rw [before, View.applyAll, said, Option.bind_some] at applied
    refine ⟨last, by rw [after]; exact applied, closed, seq, ?_, entries⟩
    rw [draining, before, after, View.apply_draining said]
    simp only [List.mem_cons, Bool.decide_or, Bool.or_assoc]
    congr 2
    simp only [decide_eq_decide]
    exact eq_comm

theorem Told.head {v v' : View} {frame : Frame} {rest : List Frame} (told : s.Told link v.draining)
    (wire : s.wire link = frame :: rest) (said : v.apply setup.sender.epoch frame = some v') :
    (s.setWire link rest).Told link v'.draining := by
  have before : s.pending link = frame :: (rest ++ s.queued link) := by rw [pending, wire]; rfl
  have after : (s.setWire link rest).pending link = rest ++ s.queued link := by
    simp [pending, setWire, queued]
  intro subscribed
  obtain ⟨drains, hears, event⟩ := told subscribed
  rw [before] at hears event
  rw [after, View.apply_draining said]
  refine ⟨fun draining => ?_, fun published => ?_, fun listed => event (List.mem_cons_of_mem _ listed)⟩
  · rcases Bool.or_eq_true _ _ |>.mp draining with own | leaving
    · exact drains own
    · have published := event (by simp [of_decide_eq_true leaving])
      show s.leave ≠ .no
      rw [published]
      simp
  · rcases hears published with own | listed
    · simp [own]
    · rcases List.mem_cons.mp listed with first | later
      · simp [first]
      · exact .inr later

theorem Sound.current_applies (sound : s.Sound setup stamps) {known : Peer} {frame : Frame} {rest : List Frame}
    (own : setup.own known.link = true) (held : s.peer setup = some known) (wire : s.wire known.link = frame :: rest)
    (now : Nat) : ∃ event applied known' v,
      s.remote.apply setup.sender.machineId known.link frame now = .ok (event, applied) ∧
      applied.peers.get setup.sender.machineId = some known' ∧ known'.link = known.link ∧
      (s.setWire known.link rest).Current setup (stamps.after frame known.hello.draining now) known.link known' v := by
  obtain ⟨v, current⟩ := (sound.links known.link own).current known held rfl
  obtain ⟨v', said, feeds⟩ := current.feeds.head wire
  obtain ⟨event, applied, known', ok, held', link, copies⟩ := Remote.apply_copies now held current.copies said
  obtain ⟨again, same, fresh⟩ := current.fresh.head wire
  rw [View.told_apply said stamps now] at same
  cases same
  rw [← current.copies.draining] at fresh
  exact ⟨event, applied, known', v', ok, held', link, copies, feeds, fresh, current.told.head wire said⟩

/-- What arrives on a link that is not current is refused. -/
theorem apply_replaced {r : Remote} {machine : MachineId} {frame : Frame} {now : Nat}
    (other : ∀ known, r.peers.get machine = some known → known.link ≠ link) :
    r.apply machine link frame now = .error .replaced := by
  unfold Remote.apply
  cases held : r.peers.get machine with
  | none => rfl
  | some known => simp [other known held]

theorem Sound.applied (sound : s.Sound setup stamps) {frame : Frame} {rest : List Frame} (own : setup.own link = true)
    (wire : s.wire link = frame :: rest) (up : s.reading link = .up) {event : Option Event} {applied : Remote}
    {now : Nat} (ok : s.remote.apply setup.sender.machineId link frame now = .ok (event, applied)) :
    ({ s.setWire link rest with remote := applied } : Replication).Sound setup
      (s.stored setup stamps (.apply link now)) := by
  by_cases current : ∃ known, s.peer setup = some known ∧ known.link = link
  · obtain ⟨known, held, rfl⟩ := current
    obtain ⟨event', applied', known', v, ok', held', same, applies⟩ := sound.current_applies own held wire now
    have stamped : s.stored setup stamps (.apply known.link now) = stamps.after frame known.hello.draining now := by
      simp [stored, wire, held]
    rw [stamped]
    rw [ok] at ok'
    cases ok'
    have peer : ∀ other, applied.peers.get setup.sender.machineId = some other → other = known' := by
      intro other taken
      exact Option.some.inj (taken.symm.trans held')
    constructor
    · exact sound.keyed
    · intro link' own'
      by_cases here : link' = known.link
      · subst here
        have links := sound.links known.link own
        refine ⟨fun unopened => ?_, fun waiting => ?_, fun _ waiting => ?_, fun other taken _ => ?_⟩
        · have unwritten := (links.unopened unopened).2.2.2.1
          rw [wire] at unwritten
          cases unwritten
        · exact absurd (up.symm.trans waiting) (by simp)
        · exact absurd (up.symm.trans waiting) (by simp)
        · rw [peer other taken]
          exact ⟨v, applies.imp (fun _ feeds => feeds) fun _ told => told⟩
      · refine (sound.links link' own').elsewhere rfl rfl rfl rfl rfl (by simp [setWire, here]) rfl ?_
        intro other taken
        rw [peer other taken, same]
        exact fun equal => here equal.symm
  · rw [apply_replaced (fun known held same => current ⟨known, held, same⟩)] at ok
    cases ok

theorem Sound.refused (sound : s.Sound setup stamps) {frame : Frame} {rest : List Frame} (own : setup.own link = true)
    (wire : s.wire link = frame :: rest) {error : ApplyError} {now : Nat}
    (refused : s.remote.apply setup.sender.machineId link frame now = .error error) :
    ((s.setWire link rest).setReading link .failed).Sound setup (s.stored setup stamps (.apply link now)) := by
  have other : ∀ known, s.peer setup = some known → known.link ≠ link := by
    rintro known held rfl
    obtain ⟨_, _, _, _, ok, _⟩ := sound.current_applies own held wire now
    rw [refused] at ok
    cases ok
  have unstamped : s.stored setup stamps (.apply link now) = stamps := by
    cases held : s.peer setup with
    | none => simp [stored, wire, held]
    | some known => simp [stored, wire, held, other known held]
  rw [unstamped]
  constructor
  · exact sound.keyed
  · intro link' own'
    by_cases here : link' = link
    · subst here
      refine ⟨fun unopened => ?_, by simp [setReading], by simp [setReading], fun known held same => ?_⟩
      · have unwritten := ((sound.links link' own').unopened unopened).2.2.2.1
        rw [wire] at unwritten
        cases unwritten
      · exact absurd same (other known held)
    · exact (sound.links link' own').congr rfl rfl rfl rfl rfl rfl rfl (by simp [setReading, setWire, here])
        (by simp [setReading, setWire, here]) rfl

/-- Only the machine whose link it came on is changed by a frame, and it keeps its link. -/
theorem apply_peer {r applied : Remote} {machine : MachineId} {frame : Frame} {now : Nat} {event : Option Event}
    (ok : r.apply machine link frame now = .ok (event, applied)) :
    ∃ known, (∀ m, applied.peers.get m = if m = machine then some known else r.peers.get m) ∧
      known.link = link := by
  unfold Remote.apply at ok
  cases held : r.peers.get machine with
  | none =>
      rw [held] at ok
      cases ok
  | some known =>
      rw [held] at ok
      dsimp only at ok
      split at ok
      · cases ok
      · rename_i current
        have current : known.link = link := by simpa using current
        have unchanged : ∀ m, r.peers.get m = if m = machine then some known else r.peers.get m := by
          intro m
          by_cases same : m = machine <;> simp [same, held]
        have put : ∀ (known' : Peer) m, (r.peers.put machine known').get m =
            if m = machine then some known' else r.peers.get m := fun _ _ => rfl
        cases frame with
        | ping =>
            cases ok
            exact ⟨known, unchanged, current⟩
        | unknown =>
            cases ok
            exact ⟨known, unchanged, current⟩
        | hello other => cases ok
        | snapshot epoch seq entries more =>
            dsimp only at ok
            split at ok
            · cases ok
            · cases ok
              exact ⟨_, put _, current⟩
        | snapshotPart entries more =>
            dsimp only at ok
            split at ok
            · cases ok
            · cases ok
              exact ⟨_, put _, current⟩
        | attached seq entry =>
            dsimp only at ok
            split at ok
            · cases ok
            · split at ok
              · cases ok
              · split at ok <;> cases ok
                · exact ⟨_, put _, current⟩
                · exact ⟨_, put _, current⟩
        | detached seq tunnel bridge =>
            dsimp only at ok
            split at ok
            · cases ok
            · split at ok <;> cases ok
              · exact ⟨_, put _, current⟩
              · exact ⟨_, put _, current⟩
        | event told =>
            cases told with
            | leaving =>
                cases ok
                exact ⟨_, put _, current⟩
            | tunnelCreated _ =>
                cases ok
                exact ⟨known, unchanged, current⟩
            | certificateChanged _ =>
                cases ok
                exact ⟨known, unchanged, current⟩
            | tunnelDeleted _ =>
                cases ok
                exact ⟨known, unchanged, current⟩
            | jobEnqueued =>
                cases ok
                exact ⟨known, unchanged, current⟩
            | unknown =>
                cases ok
                exact ⟨known, unchanged, current⟩

theorem clear_other {r : Remote} {machine m : MachineId} (other : m ≠ machine) :
    (r.clear machine).peers.get m = r.peers.get m := by
  unfold Remote.clear
  cases r.peers.get machine <;> simp [other]

theorem register_other {r : Remote} {hello : Hello} {dialer : String} {m : MachineId} (other : m ≠ hello.machineId) :
    (r.register hello link dialer).remote.peers.get m = r.peers.get m := by
  unfold Remote.register
  cases r.peers.get hello.machineId with
  | none => simp [Remote.setPeer, other]
  | some existing =>
      dsimp only
      split
      · rfl
      · split
        · simp [Remote.setPeer, other]
        · simp [Remote.setPeer, other, clear_other]

/-- What `link_down` leaves of a machine's peer. -/
theorem linkDown_peer (r : Remote) (machine m : MachineId) (link : LinkId) :
    (r.linkDown machine link).peers.get m = none ∨ (r.linkDown machine link).peers.get m = r.peers.get m := by
  unfold Remote.linkDown
  cases r.peers.get machine with
  | none => exact .inr rfl
  | some known =>
      dsimp only
      split
      · exact .inr rfl
      · by_cases same : m = machine
        · left
          simp [same]
        · right
          simp [same, clear_other]

/-- What an operation leaves of a machine's peer: nothing, what there was, or one through the operation's link. -/
theorem perform_peer (r : Remote) (op : RemoteOp) (m : MachineId) :
    (r.perform op).peers.get m = none ∨ (r.perform op).peers.get m = r.peers.get m ∨
      ∃ known, (r.perform op).peers.get m = some known ∧ known.link = op.link := by
  cases op with
  | register hello link dialer =>
      by_cases same : m = hello.machineId
      · subst same
        rcases register_peer r hello link dialer with ⟨_, unchanged⟩ | ⟨_, entries, held⟩
        · refine .inr (.inl ?_)
          rw [Remote.perform, unchanged]
        · exact .inr (.inr ⟨_, held, rfl⟩)
      · exact .inr (.inl (register_other same))
  | linkDown machine link =>
      rcases linkDown_peer r machine m link with gone | unchanged
      · exact .inl gone
      · exact .inr (.inl unchanged)
  | apply machine link frame now =>
      rw [Remote.perform]
      cases answer : r.apply machine link frame now with
      | error error => exact .inr (.inl rfl)
      | ok result =>
          obtain ⟨event, applied⟩ := result
          obtain ⟨known, peers, own⟩ := apply_peer answer
          by_cases same : m = machine
          · exact .inr (.inr ⟨known, by rw [peers, if_pos same], own⟩)
          · refine .inr (.inl ?_)
            rw [peers, if_neg same]

theorem Sound.elsewhere (sound : s.Sound setup stamps) {r : Remote}
    (peer : r.peers.get setup.sender.machineId = none ∨
      r.peers.get setup.sender.machineId = s.remote.peers.get setup.sender.machineId ∨
      ∃ known, r.peers.get setup.sender.machineId = some known ∧ setup.own known.link = false) :
    ({ s with remote := r } : Replication).Sound setup stamps := by
  constructor
  · exact sound.keyed
  · intro link own
    rcases peer with gone | same | ⟨known, held, foreign⟩
    · refine (sound.links link own).elsewhere rfl rfl rfl rfl rfl rfl rfl ?_
      intro known held
      exact absurd (held.symm.trans gone) (by simp)
    · exact (sound.links link own).congr rfl rfl rfl rfl rfl rfl rfl rfl rfl same
    · refine (sound.links link own).elsewhere rfl rfl rfl rfl rfl rfl rfl ?_
      intro other taken same
      have is : other = known := Option.some.inj (taken.symm.trans held)
      rw [← is, same, own] at foreign
      cases foreign

theorem Sound.linkDown (sound : s.Sound setup stamps) (own : setup.own link = true) (started : s.reading link ≠ .waiting) :
    ({ s.setReading link .ended with remote := s.remote.linkDown setup.sender.machineId link } :
      Replication).Sound setup stamps := by
  have peer := linkDown_peer s.remote setup.sender.machineId setup.sender.machineId link
  have down : ({ s with remote := s.remote.linkDown setup.sender.machineId link } : Replication).Sound setup stamps :=
    sound.elsewhere (peer.imp_right .inl)
  have gone : ∀ known, (s.remote.linkDown setup.sender.machineId link).peers.get setup.sender.machineId = some known →
      known.link ≠ link := by
    intro known taken same
    unfold Remote.linkDown at taken
    cases held : s.remote.peers.get setup.sender.machineId with
    | none =>
        rw [held] at taken
        exact absurd (held.symm.trans taken) (by simp)
    | some before =>
        rw [held] at taken
        dsimp only at taken
        split at taken
        · rename_i other
          rw [held] at taken
          cases taken
          exact other same
        · simp at taken
  constructor
  · exact sound.keyed
  · intro link' own'
    by_cases here : link' = link
    · subst here
      refine ⟨fun unopened => ?_, by simp [setReading], by simp [setReading], fun known held same => ?_⟩
      · exact absurd ((sound.links link' own').unopened unopened).2.2.2.2 started
      · exact absurd same (gone known held)
    · exact (down.links link' own').congr rfl rfl rfl rfl rfl rfl rfl rfl (by simp [setReading, here]) rfl

end Receiver

/-! ### Every run -/

/-- A link's snapshot fits its queue. -/
def SnapshotFits : ReplicaMove → Replication → Prop
  | .subscribe _ length limit order, _ => (Local.chunks length limit order [] 0).length ≤ linkQueue
  | _, _ => True

theorem Sound.step {setup : ReplicaSetup} {stamps : Stamps} {s s' : Replication} {move : ReplicaMove} (sound : s.Sound setup stamps)
    (fits : SnapshotFits move s) (stepped : s.step setup move = some s') : s'.Sound setup (s.stored setup stamps move) := by
  cases move with
  | attached tunnel bridge routes attachedAt =>
      cases stepped
      exact sound.attached tunnel bridge routes attachedAt
  | detached tunnel bridge =>
      cases stepped
      exact sound.detached tunnel bridge
  | publish event =>
      rw [Replication.step] at stepped
      split at stepped
      · cases stepped
      · rename_i stays
        cases stepped
        exact sound.publish stays
  | drain =>
      rw [Replication.step] at stepped
      split at stepped
      · rename_i stays
        cases stepped
        exact sound.drained stays
      · cases stepped
  | leave =>
      rw [Replication.step] at stepped
      split at stepped
      · cases stepped
      · cases stepped
        exact sound.left
  | subscribe link length limit order =>
      rw [Replication.step] at stepped
      split at stepped
      · rename_i new
        cases stepped
        exact sound.subscribed new.1 new.2.1 (List.isPerm_iff.mp new.2.2) fits
      · cases stepped
  | greet link =>
      rw [Replication.step] at stepped
      split at stepped
      · rename_i new
        cases stepped
        exact sound.greeted new.1
      · cases stepped
  | write link =>
      rw [Replication.step] at stepped
      split at stepped
      · cases stepped
      · rename_i said
        split at stepped
        · rename_i queue
          cases stepped
          exact sound.written said queue
        · cases stepped
        · rename_i unsubscribed
          split at stepped
          · rename_i left
            cases stepped
            exact sound.writtenAfterClose said unsubscribed left
          · cases stepped
  | ping link =>
      rw [Replication.step] at stepped
      split at stepped
      · cases stepped
      · rename_i said
        cases stepped
        exact sound.pinged said
  | close link =>
      cases stepped
      exact sound.unsubscribed
  | register link dialer =>
      rw [Replication.step] at stepped
      split at stepped
      · rename_i said
        split at stepped
        · rename_i new
          cases stepped
          rw [stored, said]
          exact sound.registered dialer new.1 said new.2
        · cases stepped
      · cases stepped
  | apply link now =>
      rw [Replication.step] at stepped
      split at stepped
      · rename_i wire
        split at stepped
        · rename_i up
          split at stepped
          · rename_i ok
            cases stepped
            exact sound.applied up.1 wire up.2 ok
          · rename_i refused
            cases stepped
            exact sound.refused up.1 wire refused
        · cases stepped
      · cases stepped
  | linkDown link =>
      rw [Replication.step] at stepped
      split at stepped
      · rename_i started
        cases stepped
        refine sound.linkDown started.1 ?_
        rcases started.2 with up | failed
        · rw [up]
          simp
        · rw [failed]
          simp
      · cases stepped
  | other op =>
      rw [Replication.step] at stepped
      split at stepped
      · cases stepped
      · rename_i foreign
        cases stepped
        apply sound.elsewhere
        rcases perform_peer s.remote op setup.sender.machineId with gone | same | ⟨known, held, link⟩
        · exact .inl gone
        · exact .inr (.inl same)
        · exact .inr (.inr ⟨known, held, by simpa [link] using foreign⟩)

/-- Before the sender's first announcement and link. -/
def initial : Replication where
  announcer := { seq := 0, entries := Table.empty, links := Table.empty }
  leave := .no
  opened := fun _ => false
  closed := fun _ => []
  hello := fun _ => none
  wire := fun _ => []
  reading := fun _ => .waiting
  remote := .empty

theorem initial_sound (setup : ReplicaSetup) : initial.Sound setup (fun _ => none) := by
  constructor
  · intro b entry held
    cases held
  · intro link _
    constructor
    · intro _
      simp [queued, Subscribed, initial]
    · intro _ known held
      cases held
    · intro opened
      cases opened
    · intro known held
      cases held

theorem Reached.sound {setup : ReplicaSetup} {stamps : Stamps} {s : Replication}
    (reached : Reached setup SnapshotFits initial stamps s) : s.Sound setup stamps := by
  induction reached with
  | start => exact initial_sound setup
  | step move _ fits stepped ih => exact ih.step fits stepped

/-- What the receiver makes of the sender over the link it holds as current. -/
structure Converges (setup : ReplicaSetup) (s : Replication) (stamps : Stamps) (known : Peer) : Prop where
  /-- The next frame is applied, whatever the receiver's clock says. -/
  accepted : ∀ frame rest, s.wire known.link = frame :: rest → ∀ now, ∃ event applied,
    s.remote.apply setup.sender.machineId known.link frame now = .ok (event, applied)
  /-- Where the sender announces on the link and nothing is queued or under way, the entries are the sender's, each with the
  time that the `apply` which stored it made of the sender's. -/
  staying : s.announcer.links.get known.link = some [] → s.wire known.link = [] → s.leave = .no →
    ∀ b, Copy (stamps b) (s.announcer.entries.get b) (known.entries.get b)
  /-- In the middle of `leave` a hello may have told before the event does. -/
  draining : s.announcer.links.get known.link = some [] → s.wire known.link = [] → s.leave = .draining →
    (∀ b, Copy (stamps b) (s.announcer.entries.get b) (known.entries.get b)) ∨ ∀ b, known.entries.get b = none
  left : s.announcer.links.get known.link = some [] → s.wire known.link = [] → s.leave = .published →
    ∀ b, known.entries.get b = none

/-- The copy of no entry is none. -/
theorem copy_none {stored : Option Nat} {held : Option Entry} (copy : Copy stored none held) : held = none := by
  cases held with
  | none => rfl
  | some entry => exact copy.elim

/-- With nothing under way the view is the sender's entries, or none where the receiver heard that it leaves. -/
theorem Sound.delivered {setup : ReplicaSetup} {stamps : Stamps} {s : Replication} (sound : s.Sound setup stamps) {known : Peer}
    (own : setup.own known.link = true) (held : s.peer setup = some known)
    (queue : s.announcer.links.get known.link = some []) (wire : s.wire known.link = []) :
    ∃ draining : Bool, (draining = true → s.leave ≠ .no) ∧ (s.leave = .published → draining = true) ∧
      ∀ b, Copy (stamps b) (if draining then none else s.announcer.entries.get b) (known.entries.get b) := by
  obtain ⟨v, copies, feeds, fresh, told⟩ := (sound.links known.link own).current known held rfl
  have subscribed : s.Subscribed known.link := by simp [Subscribed, queue]
  have pending : s.pending known.link = [] := by simp [Replication.pending, queued, queue, wire]
  obtain ⟨drains, hears, _⟩ := told subscribed
  obtain ⟨v', applied, _, _, _, entries⟩ := feeds.2 subscribed
  obtain ⟨v'', applied', _, _, _, stored⟩ := fresh.2 subscribed
  rw [pending] at hears applied applied'
  cases applied
  cases applied'
  refine ⟨v.draining, drains, ?_, ?_⟩
  · intro published
    simpa using hears published
  · intro b
    have all : v.entries b = if v.draining then none else s.announcer.entries.get b := by
      rw [entries]
      cases v.draining with
      | true => rfl
      | false => rfl
    -- the view of what came on this link is the same
    have came : (if (stamps b).isSome then v.entries b else none) = v.entries b :=
      congrFun (stored.trans entries.symm) b
    rw [← all]
    rcases copies.entries b with copy | ⟨unstamped, is⟩
    · exact copy
    · rw [unstamped] at came
      rw [is, ← came]
      trivial

end Replication

open Replication in
/-- For any interleaving of what the sender announces, queues and writes on its links, and of what the receiver does
with these and with every other link, the receiver takes every frame that its current link to the sender brings, and
once these are all applied it holds the sender's entries, or none where the sender leaves. A time that was too far ahead of
the receiver's clock at the `apply` that stored the entry became this clock. -/
theorem replication_converges {setup : ReplicaSetup} {stamps : Stamps} {s : Replication}
    (reached : Reached setup SnapshotFits initial stamps s) {known : Peer} (held : s.peer setup = some known)
    (own : setup.own known.link = true) : s.Converges setup stamps known := by
  have sound := reached.sound
  constructor
  · intro frame rest wire now
    obtain ⟨event, applied, _, _, ok, _⟩ := sound.current_applies own held wire now
    exact ⟨event, applied, ok⟩
  · intro queue wire stays b
    obtain ⟨draining, drains, _, copies⟩ := sound.delivered own held queue wire
    cases draining with
    | false => exact copies b
    | true => exact absurd stays (drains rfl)
  · intro queue wire _
    obtain ⟨draining, _, _, copies⟩ := sound.delivered own held queue wire
    cases draining with
    | false => exact .inl copies
    | true => exact .inr fun b => copy_none (copies b)
  · intro queue wire published b
    obtain ⟨draining, _, hears, copies⟩ := sound.delivered own held queue wire
    rw [hears published] at copies
    exact copy_none (copies b)

/-- Machine `a` and its only link to the receiver. -/
def sampleReplica : ReplicaSetup where
  sender := { machineId := "a", region := "iad", address := "a:1", epoch := 3, startedAt := 0 }
  own := fun link => link == 1

/-- A bridge attaches at a time that is far ahead of the receiver's clock 9, and the link brings it in a snapshot. -/
theorem replication_converges_attached :
    ∃ stamps s known, Replication.Reached sampleReplica Replication.SnapshotFits Replication.initial stamps s ∧
      s.peer sampleReplica = some known ∧ s.Converges sampleReplica stamps known ∧ stamps 7 = some 9 ∧
      known.entries.get 7 = some { tunnel := "t", bridge := 7, routes := ["@"], attachedAt := 9 } := by
  let entry : Entry := { tunnel := "t", bridge := 7, routes := ["@"], attachedAt := 1000000000 }
  have announced : Replication.Reached sampleReplica Replication.SnapshotFits Replication.initial _ _ :=
    .step (.attached "t" 7 ["@"] 1000000000) .start trivial rfl
  have fits : (Local.chunks (fun _ => 1) 10 [entry] [] 0).length ≤ linkQueue := by decide
  have subscribed := Replication.Reached.step (.subscribe 1 (fun _ => 1) 10 [entry]) announced fits rfl
  have greeted := Replication.Reached.step (.greet 1) subscribed trivial rfl
  have registered := Replication.Reached.step (.register 1 "b") greeted trivial rfl
  have written := Replication.Reached.step (.write 1) registered trivial rfl
  have applied := Replication.Reached.step (.apply 1 9) written trivial rfl
  exact ⟨_, _, _, applied, rfl, replication_converges applied rfl (by decide), by decide, by decide⟩

end OpenTunnel.Mesh
