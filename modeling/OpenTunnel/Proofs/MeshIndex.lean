/-
Module: OpenTunnel.Proofs.MeshIndex
Layer: Proofs
Purpose: The mesh's index holds exactly the entries of the peers. Every operation changes one machine's entries, so it
  is enough that the index is exact for that machine afterwards and unchanged for the others; the loop over a
  snapshot's entries keeps that unless an entry repeats a bridge under another tunnel, whose old pair stays.
Imports: OpenTunnel.Model.Mesh
Trusted boundary: none (fully proved)
Main exports: Mesh.Remote.Reached, Mesh.index_holds_entries
Open obligations: none
-/
import OpenTunnel.Model.Mesh

namespace OpenTunnel.Mesh

open Tasks (Table)

namespace Remote

/-- What is known after operations that each meet `C` where they are made. -/
inductive Reached (C : RemoteOp → Remote → Prop) : Remote → Prop where
  | start : Reached C empty
  | step {r : Remote} (op : RemoteOp) : Reached C r → C op r → Reached C (r.perform op)

/-- The pair is in the index under the tunnel. -/
def Has (index : Index) (tunnel : TunnelId) (pair : MachineId × BridgeId) : Prop :=
  ∃ holders, index.get tunnel = some holders ∧ pair ∈ holders

/-- The peer's entry of the bridge names the tunnel. -/
def Claims (r : Remote) (tunnel : TunnelId) (machine : MachineId) (bridge : BridgeId) : Prop :=
  ∃ peer entry, r.peers.get machine = some peer ∧ peer.entries.get bridge = some entry ∧ entry.tunnel = tunnel

/-- No entry repeats a bridge under another tunnel than the entry it takes the place of. -/
def Unrepeated (held : Table BridgeId Entry) : List Entry → Prop
  | [] => True
  | entry :: rest =>
      (∀ other, held.get entry.bridge = some other → other.tunnel = entry.tunnel) ∧
        Unrepeated (held.put entry.bridge entry) rest

/-- A snapshot frame that is applied repeats no bridge of the peer's entries under another tunnel. -/
def UnrepeatedFrame : RemoteOp → Remote → Prop
  | .apply machine link frame _, r => ∀ peer, r.peers.get machine = some peer → peer.link = link →
      peer.hello.draining = false →
      match frame with
      | .snapshot epoch _ entries _ => epoch = peer.hello.epoch → Unrepeated Table.empty entries
      | .snapshotPart entries _ => peer.snapshotOpen = true → Unrepeated peer.entries entries
      | _ => True
  | _, _ => True

/-! ### The index -/

section Index

variable {index : Index} {machine : MachineId} {entry : Entry} {tunnel : TunnelId} {pair : MachineId × BridgeId}

theorem has_indexAdd :
    Has (indexAdd index machine entry) tunnel pair ↔
      Has index tunnel pair ∨ (entry.tunnel = tunnel ∧ pair = (machine, entry.bridge)) := by
  by_cases same : tunnel = entry.tunnel
  · subst same
    cases held : index.get entry.tunnel with
    | none => simp [Has, indexAdd, held]
    | some holders =>
        by_cases listed : (machine, entry.bridge) ∈ holders
        · simp only [Has, indexAdd, held, Option.getD_some, listed, if_true, Table.get_put, Option.some.injEq,
            exists_eq_left', true_and]
          constructor
          · exact .inl
          · rintro (found | rfl)
            · exact found
            · exact listed
        · simp [Has, indexAdd, held, listed]
  · have other : ¬ entry.tunnel = tunnel := fun equal => same equal.symm
    simp [Has, indexAdd, same, other]

theorem has_indexRemove :
    Has (indexRemove index machine entry) tunnel pair ↔
      Has index tunnel pair ∧ ¬ (entry.tunnel = tunnel ∧ pair = (machine, entry.bridge)) := by
  cases held : index.get entry.tunnel with
  | none =>
      simp only [indexRemove, held]
      constructor
      · intro found
        refine ⟨found, ?_⟩
        rintro ⟨rfl, rfl⟩
        obtain ⟨holders, read, _⟩ := found
        rw [held] at read
        cases read
      · exact And.left
  | some holders =>
      by_cases same : tunnel = entry.tunnel
      · subst same
        simp only [indexRemove, held]
        split
        · rename_i none
          have gone : ∀ pair ∈ holders, pair = (machine, entry.bridge) := by
            simpa using none
          simp only [Has, get_without, if_true, held, Option.some.injEq, exists_eq_left', true_and]
          constructor
          · rintro ⟨_, read, _⟩
            cases read
          · rintro ⟨listed, other⟩
            exact absurd (gone pair listed) other
        · simp [Has, held]
      · have other : ¬ entry.tunnel = tunnel := fun equal => same equal.symm
        simp only [indexRemove, held]
        split <;> simp [Has, same, other]

theorem has_foldl_indexRemove (entries : List Entry) :
    Has (entries.foldl (fun index entry => indexRemove index machine entry) index) tunnel pair ↔
      Has index tunnel pair ∧ ∀ entry ∈ entries, ¬ (entry.tunnel = tunnel ∧ pair = (machine, entry.bridge)) := by
  induction entries generalizing index with
  | nil => simp
  | cons entry rest ih =>
      rw [List.foldl_cons, ih, has_indexRemove]
      simp only [List.mem_cons, forall_eq_or_imp, and_assoc]

end Index

/-! ### One machine's entries -/

/-- The entries are kept under their own bridge. -/
def Keyed (entries : Table BridgeId Entry) : Prop := ∀ b entry, entries.get b = some entry → entry.bridge = b

/-- The index holds exactly the machine's entries. -/
def Exact (index : Index) (machine : MachineId) (entries : Table BridgeId Entry) : Prop :=
  ∀ tunnel b, Has index tunnel (machine, b) ↔ ∃ entry, entries.get b = some entry ∧ entry.tunnel = tunnel

/-- The index holds the same pairs of all other machines. -/
def SameOthers (machine : MachineId) (index index' : Index) : Prop :=
  ∀ tunnel m b, m ≠ machine → (Has index' tunnel (m, b) ↔ Has index tunnel (m, b))

section Machine

variable {index : Index} {machine : MachineId} {entries : Table BridgeId Entry} {entry : Entry}

theorem sameOthers_refl : SameOthers machine index index := fun _ _ _ _ => Iff.rfl

theorem SameOthers.trans {a b c : Index} (first : SameOthers machine a b) (second : SameOthers machine b c) :
    SameOthers machine a c :=
  fun tunnel m bridge other => (second tunnel m bridge other).trans (first tunnel m bridge other)

theorem sameOthers_indexAdd : SameOthers machine index (indexAdd index machine entry) := by
  intro tunnel m b other
  simp [has_indexAdd, other]

theorem sameOthers_indexRemove : SameOthers machine index (indexRemove index machine entry) := by
  intro tunnel m b other
  simp [has_indexRemove, other]

theorem sameOthers_indexRemoveAll : SameOthers machine index (indexRemoveAll index machine entries) := by
  intro tunnel m b other
  simp [indexRemoveAll, has_foldl_indexRemove, other]

theorem keyed_empty : Keyed Table.empty := by
  intro b entry held
  cases held

theorem Keyed.put (keyed : Keyed entries) : Keyed (entries.put entry.bridge entry) := by
  intro b held read
  rw [Table.get_put] at read
  split at read
  · rename_i same
    cases read
    exact same.symm
  · exact keyed b held read

theorem Keyed.without (keyed : Keyed entries) (b : BridgeId) : Keyed (without entries b) := by
  intro b' held read
  rw [get_without] at read
  split at read
  · cases read
  · exact keyed b' held read

theorem exact_indexRemoveAll (keyed : Keyed entries) (exact_ : Exact index machine entries) :
    Exact (indexRemoveAll index machine entries) machine Table.empty := by
  intro tunnel b
  rw [indexRemoveAll, has_foldl_indexRemove, exact_]
  constructor
  · rintro ⟨⟨entry, held, names⟩, gone⟩
    refine absurd ⟨names, ?_⟩ (gone entry (mem_values.mpr ⟨b, held⟩))
    rw [keyed b entry held]
  · rintro ⟨entry, held, _⟩
    cases held

/-- An entry is added where its bridge has none, or one of the same tunnel. -/
theorem exact_indexAdd (exact_ : Exact index machine entries)
    (fits : ∀ other, entries.get entry.bridge = some other → other.tunnel = entry.tunnel) :
    Exact (indexAdd index machine entry) machine (entries.put entry.bridge entry) := by
  intro tunnel b
  rw [has_indexAdd, exact_, Table.get_put]
  by_cases same : b = entry.bridge
  · subst same
    simp only [if_true, Option.some.injEq, exists_eq_left', and_true]
    constructor
    · rintro (⟨other, held, rfl⟩ | names)
      · exact (fits other held).symm
      · exact names
    · exact .inr
  · simp [same]

theorem exact_indexRemove (exact_ : Exact index machine entries)
    (held : entries.get entry.bridge = some entry) :
    Exact (indexRemove index machine entry) machine (without entries entry.bridge) := by
  intro tunnel b
  rw [has_indexRemove, exact_, get_without]
  by_cases same : b = entry.bridge
  · subst same
    simp [held]
  · simp [same]

/-- An entry takes the place of the one with its bridge, whatever that one's tunnel. -/
theorem exact_reindexed {previous : Entry} (exact_ : Exact index machine entries)
    (held : entries.get previous.bridge = some previous) (same : previous.bridge = entry.bridge) :
    Exact (indexAdd (indexRemove index machine previous) machine entry) machine (entries.put entry.bridge entry) := by
  have removed := exact_indexRemove exact_ held
  rw [same] at removed
  have added : Exact (indexAdd (indexRemove index machine previous) machine entry) machine
      ((without entries entry.bridge).put entry.bridge entry) := by
    apply exact_indexAdd removed
    intro other read
    simp at read
  intro tunnel b
  rw [added tunnel b, Table.get_put, Table.get_put, get_without]
  by_cases own : b = entry.bridge <;> simp [own]

/-- Only the tunnels of the entries held matter. -/
theorem Unrepeated.congr {held held' : Table BridgeId Entry} {list : List Entry}
    (alike : ∀ b, (held.get b).map (·.tunnel) = (held'.get b).map (·.tunnel)) (fits : Unrepeated held list) :
    Unrepeated held' list := by
  induction list generalizing held held' with
  | nil => trivial
  | cons entry rest ih =>
      constructor
      · intro other read
        have names : (held.get entry.bridge).map (·.tunnel) = some other.tunnel := by rw [alike, read]; rfl
        obtain ⟨other', read', same⟩ := Option.map_eq_some_iff.mp names
        exact same ▸ fits.1 other' read'
      · apply ih _ fits.2
        intro b
        rw [Table.get_put, Table.get_put]
        split
        · rfl
        · exact alike b

theorem addAll_exact (now : Nat) {list : List Entry} (keyed : Keyed entries) (exact_ : Exact index machine entries)
    (fits : Unrepeated entries list) :
    Keyed (addAll machine now list (index, entries)).2 ∧
      Exact (addAll machine now list (index, entries)).1 machine (addAll machine now list (index, entries)).2 ∧
      SameOthers machine index (addAll machine now list (index, entries)).1 := by
  induction list generalizing index entries with
  | nil => exact ⟨keyed, exact_, sameOthers_refl⟩
  | cons entry rest ih =>
      let sane : Entry := { entry with attachedAt := saneTime entry.attachedAt now }
      have keyed' : Keyed (entries.put sane.bridge sane) := keyed.put
      have exact' : Exact (indexAdd index machine sane) machine (entries.put sane.bridge sane) :=
        exact_indexAdd exact_ fits.1
      have fits' : Unrepeated (entries.put sane.bridge sane) rest := by
        apply Unrepeated.congr _ fits.2
        intro b
        rw [Table.get_put, Table.get_put]
        split <;> rfl
      obtain ⟨keyed'', exact'', others⟩ := ih keyed' exact' fits'
      exact ⟨keyed'', exact'', sameOthers_indexAdd.trans others⟩

theorem addSnapshot_exact (now : Nat) {peer : Peer} {list : List Entry} (keyed : Keyed entries)
    (exact_ : Exact index machine entries) (fits : peer.hello.draining = false → Unrepeated entries list) :
    Keyed (addSnapshot machine now peer list (index, entries)).2 ∧
      Exact (addSnapshot machine now peer list (index, entries)).1 machine
        (addSnapshot machine now peer list (index, entries)).2 ∧
      SameOthers machine index (addSnapshot machine now peer list (index, entries)).1 := by
  unfold addSnapshot
  split
  · exact ⟨keyed, exact_, sameOthers_refl⟩
  · rename_i live
    exact addAll_exact now keyed exact_ (fits (by simpa using live))

end Machine

/-! ### Every operation -/

/-- The index is exact for every machine, each peer is kept under its own name and each entry under its bridge. -/
structure Indexed (r : Remote) : Prop where
  named : ∀ machine peer, r.peers.get machine = some peer → peer.hello.machineId = machine
  keyed : ∀ machine peer, r.peers.get machine = some peer → Keyed peer.entries
  exact_ : ∀ machine peer, r.peers.get machine = some peer → Exact r.index machine peer.entries
  absent : ∀ machine, r.peers.get machine = none → Exact r.index machine Table.empty

section Steps

variable {r : Remote} {machine : MachineId} {peer : Peer}

theorem indexed_empty : Indexed empty where
  named := by
    intro machine peer held
    cases held
  keyed := by
    intro machine peer held
    cases held
  exact_ := by
    intro machine peer held
    cases held
  absent := by
    intro machine _ tunnel b
    simp [Has, empty]

/-- One machine's peer is replaced, and the index with it. -/
theorem Indexed.replace (indexed : Indexed r) {index : Index} (named : peer.hello.machineId = machine)
    (keyed : Keyed peer.entries) (exact_ : Exact index machine peer.entries)
    (others : SameOthers machine r.index index) :
    Indexed { peers := r.peers.put machine peer, index := index } where
  named := by
    intro m p held
    simp only [Table.get_put] at held
    split at held
    · rename_i same
      cases held
      rw [named, same]
    · exact indexed.named m p held
  keyed := by
    intro m p held
    simp only [Table.get_put] at held
    split at held
    · cases held
      exact keyed
    · exact indexed.keyed m p held
  exact_ := by
    intro m p held tunnel b
    simp only [Table.get_put] at held
    split at held
    · rename_i same
      cases held
      subst same
      exact exact_ tunnel b
    · rename_i other
      exact (others tunnel m b other).trans (indexed.exact_ m p held tunnel b)
  absent := by
    intro m missing tunnel b
    simp only [Table.get_put] at missing
    split at missing
    · cases missing
    · rename_i other
      exact (others tunnel m b other).trans (indexed.absent m missing tunnel b)

theorem clear_peer (held : r.peers.get machine = some peer) :
    r.clear machine = { peers := r.peers.put machine { peer with entries := Table.empty }
                        index := indexRemoveAll r.index machine peer.entries } := by
  simp [clear, held]

theorem Indexed.clear (indexed : Indexed r) : Indexed (r.clear machine) := by
  cases held : r.peers.get machine with
  | none => simpa [Remote.clear, held] using indexed
  | some peer =>
      rw [clear_peer held]
      exact indexed.replace (indexed.named machine peer held) keyed_empty
        (exact_indexRemoveAll (indexed.keyed machine peer held) (indexed.exact_ machine peer held))
        sameOthers_indexRemoveAll

theorem Indexed.register (indexed : Indexed r) (hello : Hello) (link : LinkId) (dialer : String) :
    Indexed (r.register hello link dialer).remote := by
  simp only [Remote.register]
  cases held : r.peers.get hello.machineId with
  | none =>
      exact indexed.replace rfl keyed_empty (indexed.absent hello.machineId held) sameOthers_refl
  | some existing =>
      dsimp only
      split
      · exact indexed
      · split
        · exact indexed.replace rfl (indexed.keyed _ existing held) (indexed.exact_ _ existing held)
            sameOthers_refl
        · have cleared : Indexed (r.clear hello.machineId) := indexed.clear
          have none : Exact (r.clear hello.machineId).index hello.machineId Table.empty := by
            rw [clear_peer held]
            exact exact_indexRemoveAll (indexed.keyed _ existing held) (indexed.exact_ _ existing held)
          exact cleared.replace rfl keyed_empty none sameOthers_refl

theorem Indexed.linkDown (indexed : Indexed r) (machine : MachineId) (link : LinkId) :
    Indexed (r.linkDown machine link) := by
  simp only [Remote.linkDown]
  cases held : r.peers.get machine with
  | none => exact indexed
  | some peer =>
      dsimp only
      split
      · exact indexed
      · have cleared : Indexed (r.clear machine) := indexed.clear
        have none : Exact (r.clear machine).index machine Table.empty := by
          rw [clear_peer held]
          exact exact_indexRemoveAll (indexed.keyed _ peer held) (indexed.exact_ _ peer held)
        have kept : ∀ m p, (without (r.clear machine).peers machine).get m = some p →
            (r.clear machine).peers.get m = some p := by
          intro m p read
          rw [get_without] at read
          split at read
          · cases read
          · exact read
        exact {
          named := fun m p read => cleared.named m p (kept m p read)
          keyed := fun m p read => cleared.keyed m p (kept m p read)
          exact_ := fun m p read => cleared.exact_ m p (kept m p read)
          absent := by
            intro m missing
            rw [get_without] at missing
            split at missing
            · rename_i same
              exact same ▸ none
            · exact cleared.absent m missing }

theorem Indexed.apply (indexed : Indexed r) {link : LinkId} {frame : Frame} {now : Nat} {event : Option Event}
    {applied : Remote} (fits : UnrepeatedFrame (.apply machine link frame now) r)
    (ok : r.apply machine link frame now = .ok (event, applied)) : Indexed applied := by
  unfold Remote.apply at ok
  cases held : r.peers.get machine with
  | none =>
      rw [held] at ok
      cases ok
  | some peer =>
      have named := indexed.named machine peer held
      have keyed := indexed.keyed machine peer held
      have exact_ := indexed.exact_ machine peer held
      rw [held] at ok
      dsimp only at ok
      split at ok
      · cases ok
      · rename_i current
        have fits := fits peer held (by simpa using current)
        cases frame with
        | ping =>
            cases ok
            exact indexed
        | unknown =>
            cases ok
            exact indexed
        | hello other => cases ok
        | snapshot epoch seq entries more =>
            dsimp only at ok
            split at ok
            · cases ok
            · rename_i same
              cases ok
              obtain ⟨keyed', exact', others⟩ := addSnapshot_exact now keyed_empty
                (exact_indexRemoveAll keyed exact_) (fun live => fits live (by simpa using same))
              exact indexed.replace named keyed' exact' (sameOthers_indexRemoveAll.trans others)
        | snapshotPart entries more =>
            dsimp only at ok
            split at ok
            · cases ok
            · rename_i opened
              cases ok
              obtain ⟨keyed', exact', others⟩ := addSnapshot_exact now keyed exact_
                (fun live => fits live (by simpa using opened))
              exact indexed.replace named keyed' exact' others
        | attached seq entry =>
            dsimp only at ok
            split at ok
            · cases ok
            · split at ok
              · cases ok
              · split at ok
                · cases ok
                  exact indexed.replace named keyed exact_ sameOthers_refl
                · cases ok
                  let sane : Entry := { entry with attachedAt := saneTime entry.attachedAt now }
                  have keyed' : Keyed (peer.entries.put sane.bridge sane) := keyed.put
                  cases found : peer.entries.get entry.bridge with
                  | none =>
                      have added : Exact (indexAdd r.index machine sane) machine
                          (peer.entries.put sane.bridge sane) := by
                        apply exact_indexAdd exact_
                        intro other read
                        rw [show sane.bridge = entry.bridge from rfl, found] at read
                        cases read
                      exact indexed.replace named keyed' added sameOthers_indexAdd
                  | some previous =>
                      have same : previous.bridge = sane.bridge := keyed entry.bridge previous found
                      have added : Exact (indexAdd (indexRemove r.index machine previous) machine sane) machine
                          (peer.entries.put sane.bridge sane) :=
                        exact_reindexed exact_ (same ▸ found) same
                      exact indexed.replace named keyed' added (sameOthers_indexRemove.trans sameOthers_indexAdd)
        | detached seq tunnel bridge =>
            dsimp only at ok
            split at ok
            · cases ok
            · cases found : peer.entries.get bridge with
              | none =>
                  rw [found] at ok
                  cases ok
                  exact indexed.replace named keyed exact_ sameOthers_refl
              | some entry =>
                  rw [found] at ok
                  cases ok
                  have same := keyed bridge entry found
                  subst same
                  exact indexed.replace named (keyed.without _) (exact_indexRemove exact_ found)
                    sameOthers_indexRemove
        | event told =>
            cases told with
            | leaving =>
                cases ok
                exact indexed.replace named keyed_empty (exact_indexRemoveAll keyed exact_)
                  sameOthers_indexRemoveAll
            | tunnelCreated tunnel =>
                cases ok
                exact indexed
            | certificateChanged tunnel =>
                cases ok
                exact indexed
            | tunnelDeleted tunnel =>
                cases ok
                exact indexed
            | jobEnqueued =>
                cases ok
                exact indexed
            | unknown =>
                cases ok
                exact indexed

theorem Reached.indexed (reached : Reached UnrepeatedFrame r) : Indexed r := by
  induction reached with
  | start => exact indexed_empty
  | @step r op _ fits ih =>
      cases op with
      | register hello link dialer => exact ih.register hello link dialer
      | linkDown machine link => exact ih.linkDown machine link
      | apply machine link frame now =>
          unfold perform
          dsimp only
          split
          · rename_i ok
            exact ih.apply fits ok
          · exact ih

end Steps

/-! ### Lookups -/

/-- The peer is not draining, and an entry of it names the tunnel and claims what is asked for. -/
def Serves (r : Remote) (tunnel : TunnelId) (claims : Entry → Prop) (machine : MachineId) (peer : Peer) : Prop :=
  r.peers.get machine = some peer ∧ peer.hello.machineId = machine ∧ peer.hello.draining = false ∧
    ∃ bridge entry, peer.entries.get bridge = some entry ∧ entry.tunnel = tunnel ∧ claims entry

/-- The index is exact, and so are the lookups whatever the order of a tunnel's pairs: `locate` answers with a machine
that serves the route, `holders` with those that serve one of the routes. -/
structure LooksUp (r : Remote) : Prop where
  index : ∀ tunnel machine bridge, Has r.index tunnel (machine, bridge) ↔ r.Claims tunnel machine bridge
  locate : ∀ tunnel pairs route except found, pairs.Perm ((r.index.get tunnel).getD []) →
    r.locate pairs route except = some found →
    ∃ machine peer, r.Serves tunnel (fun entry => route ∈ entry.routes) machine peer ∧ some machine ≠ except ∧
      found = location peer
  holders : ∀ tunnel pairs routes found, pairs.Perm ((r.index.get tunnel).getD []) →
    (found ∈ r.holders routes pairs [] ↔
      ∃ machine peer, r.Serves tunnel (fun entry => routes = [] ∨ ∃ route ∈ entry.routes, route ∈ routes) machine peer ∧
        found = location peer)

section Lookups

variable {r : Remote} {tunnel : TunnelId} {pairs : List (MachineId × BridgeId)}

theorem Indexed.has_iff (indexed : Indexed r) (machine : MachineId) (bridge : BridgeId) :
    Has r.index tunnel (machine, bridge) ↔ r.Claims tunnel machine bridge := by
  unfold Claims
  cases held : r.peers.get machine with
  | none =>
      rw [indexed.absent machine held tunnel bridge]
      simp
  | some peer =>
      rw [indexed.exact_ machine peer held tunnel bridge]
      simp

theorem mem_pairs (order : pairs.Perm ((r.index.get tunnel).getD [])) (pair : MachineId × BridgeId) :
    pair ∈ pairs ↔ Has r.index tunnel pair := by
  rw [order.mem_iff, Has]
  cases r.index.get tunnel <;> simp

/-- What an indexed pair leads to. -/
theorem claiming_eq_some {claims : Entry → Bool} {pair : MachineId × BridgeId} {entry : Entry} {peer : Peer} :
    r.claiming claims pair = some (entry, peer) ↔
      r.peers.get pair.1 = some peer ∧ peer.entries.get pair.2 = some entry ∧ peer.hello.draining = false ∧
        claims entry = true := by
  simp only [claiming]
  cases r.peers.get pair.1 with
  | none => simp
  | some peer' =>
      cases found : peer'.entries.get pair.2 with
      | none =>
          simp only [Option.bind_eq_bind, Option.bind_some, found, Option.bind_none]
          constructor
          · intro none
            cases none
          · rintro ⟨same, read, _⟩
            cases same
            rw [found] at read
            cases read
      | some entry' =>
          simp only [Option.bind_eq_bind, Option.bind_some, found]
          constructor
          · intro some
            split at some
            · rename_i serves
              cases some
              simp only [Bool.and_eq_true, Bool.not_eq_true'] at serves
              exact ⟨rfl, found, serves.1, serves.2⟩
            · cases some
          · rintro ⟨same, read, live, claimed⟩
            cases same
            rw [found] at read
            cases read
            simp [live, claimed]

/-- A pair of the tunnel that leads somewhere leads to a machine that serves it. -/
theorem Indexed.serves (indexed : Indexed r) (order : pairs.Perm ((r.index.get tunnel).getD []))
    {claims : Entry → Bool} {pair : MachineId × BridgeId} {entry : Entry} {peer : Peer} (listed : pair ∈ pairs)
    (found : r.claiming claims pair = some (entry, peer)) :
    r.Serves tunnel (fun entry => claims entry = true) pair.1 peer := by
  obtain ⟨held, read, live, claimed⟩ := claiming_eq_some.mp found
  obtain ⟨peer', entry', held', read', names⟩ :=
    (indexed.has_iff pair.1 pair.2).mp ((mem_pairs order pair).mp listed)
  rw [held] at held'
  cases held'
  rw [read] at read'
  cases read'
  exact ⟨held, indexed.named _ _ held, live, pair.2, entry, read, names, claimed⟩

theorem newest_mem {list : List (Entry × Peer)} {found : Entry × Peer} (newest_ : newest list = some found) :
    found ∈ list := by
  induction list with
  | nil => cases newest_
  | cons first rest ih =>
      rw [newest] at newest_
      cases later : newest rest with
      | none =>
          rw [later] at newest_
          cases newest_
          exact List.mem_cons_self
      | some other =>
          rw [later] at newest_
          dsimp only at newest_
          split at newest_
          · cases newest_
            exact List.mem_cons_of_mem _ (ih later)
          · cases newest_
            exact List.mem_cons_self

theorem Indexed.locate (indexed : Indexed r) (order : pairs.Perm ((r.index.get tunnel).getD [])) {route : String}
    {except : Option MachineId} {found : Location} (located : r.locate pairs route except = some found) :
    ∃ machine peer, r.Serves tunnel (fun entry => route ∈ entry.routes) machine peer ∧ some machine ≠ except ∧
      found = location peer := by
  obtain ⟨⟨entry, peer⟩, best, rfl⟩ := Option.map_eq_some_iff.mp located
  obtain ⟨pair, kept, leads⟩ := List.mem_filterMap.mp (newest_mem best)
  obtain ⟨listed, other⟩ := List.mem_filter.mp kept
  refine ⟨pair.1, peer, ?_, by simpa using other, rfl⟩
  have serves := indexed.serves order listed leads
  simpa using serves

/-- The loop of `holders`: what it had found, and of the other pairs every machine that is not draining and claims a
route. A machine is named once, and always by the same location. -/
theorem mem_holders_iff (indexed : Indexed r) (routes : List String) {found : List Location}
    (own : ∀ place ∈ found, ∃ peer, r.peers.get place.machineId = some peer ∧ place = location peer)
    (place : Location) :
    place ∈ r.holders routes pairs found ↔ place ∈ found ∨ ∃ pair ∈ pairs, ∃ entry peer,
      r.claiming (fun entry => routes.isEmpty || entry.routes.any (routes.contains ·)) pair = some (entry, peer) ∧
        place = location peer := by
  induction pairs generalizing found with
  | nil => simp [holders]
  | cons pair rest ih =>
      rw [holders]
      cases leads : r.claiming (fun entry => routes.isEmpty || entry.routes.any (routes.contains ·)) pair with
      | none =>
          dsimp only
          rw [ih own]
          simp only [List.mem_cons, exists_eq_or_imp, leads, reduceCtorEq, false_and, exists_false, false_or]
      | some target =>
          obtain ⟨entry, peer⟩ := target
          have held := (claiming_eq_some.mp leads).1
          have named : (location peer).machineId = pair.1 := indexed.named _ _ held
          dsimp only
          split
          · rename_i known
            -- the machine's location is among those found already
            have listed : location peer ∈ found := by
              obtain ⟨other, listed, same⟩ := List.any_eq_true.mp known
              obtain ⟨peer', held', rfl⟩ := own other listed
              simp only [decide_eq_true_eq] at same
              rw [same, held] at held'
              cases held'
              exact listed
            rw [ih own]
            simp only [List.mem_cons, exists_eq_or_imp, leads, Option.some.injEq, Prod.mk.injEq]
            constructor
            · rintro (before | later)
              · exact .inl before
              · exact .inr (.inr later)
            · rintro (before | ⟨_, _, ⟨_, rfl⟩, rfl⟩ | later)
              · exact .inl before
              · exact .inl listed
              · exact .inr later
          · have own' : ∀ place ∈ found ++ [location peer],
                ∃ peer, r.peers.get place.machineId = some peer ∧ place = location peer := by
              intro place listed
              rcases List.mem_append.mp listed with before | last
              · exact own place before
              · rw [List.mem_singleton.mp last]
                exact ⟨peer, by rw [named]; exact held, rfl⟩
            rw [ih own']
            simp only [List.mem_append, List.mem_cons, List.not_mem_nil, or_false, exists_eq_or_imp, leads,
              Option.some.injEq, Prod.mk.injEq, or_assoc]
            constructor
            · rintro (before | rfl | later)
              · exact .inl before
              · exact .inr (.inl ⟨entry, peer, ⟨rfl, rfl⟩, rfl⟩)
              · exact .inr (.inr later)
            · rintro (before | ⟨_, _, ⟨_, rfl⟩, rfl⟩ | later)
              · exact .inl before
              · exact .inr (.inl rfl)
              · exact .inr (.inr later)

theorem Indexed.holders (indexed : Indexed r) (order : pairs.Perm ((r.index.get tunnel).getD []))
    (routes : List String) (place : Location) :
    place ∈ r.holders routes pairs [] ↔
      ∃ machine peer, r.Serves tunnel (fun entry => routes = [] ∨ ∃ route ∈ entry.routes, route ∈ routes) machine peer ∧
        place = location peer := by
  rw [mem_holders_iff indexed routes (by simp)]
  constructor
  · rintro (none | ⟨pair, listed, entry, peer, leads, rfl⟩)
    · cases none
    · refine ⟨pair.1, peer, ?_, rfl⟩
      simpa using indexed.serves order listed leads
  · rintro ⟨machine, peer, ⟨held, _, live, bridge, entry, read, names, claimed⟩, rfl⟩
    have listed := (mem_pairs order (machine, bridge)).mpr
      ((indexed.has_iff machine bridge).mpr ⟨peer, entry, held, read, names⟩)
    refine .inr ⟨(machine, bridge), listed, entry, peer, claiming_eq_some.mpr ⟨held, read, live, ?_⟩, rfl⟩
    simpa using claimed

end Lookups

/-- In every state reached by frames that repeat no bridge under another tunnel, the index holds exactly the peers'
entries, and the lookups answer with exactly the machines that serve what is asked for. -/
theorem index_holds_entries {r : Remote} (reached : Reached UnrepeatedFrame r) : LooksUp r where
  index := fun _ machine bridge => reached.indexed.has_iff machine bridge
  locate := fun _ _ _ _ _ order located => reached.indexed.locate order located
  holders := fun _ _ routes place order => reached.indexed.holders order routes place

/-! ### A snapshot that repeats a bridge -/

def sampleHello : Hello :=
  { machineId := "b", region := "", address := "b:1", epoch := 7, startedAt := 0, draining := false }

/-- Another machine's link comes up and it sends these entries. -/
def snapshotOf (entries : List Entry) : Remote :=
  (empty.perform (.register sampleHello 1 "b:1")).perform (.apply "b" 1 (.snapshot 7 1 entries false) 0)

def entryOf (tunnel : TunnelId) : Entry := { tunnel := tunnel, bridge := 1, routes := ["@"], attachedAt := 0 }

/-- One bridge, which names one tunnel. -/
theorem index_holds_entries_single :
    Reached UnrepeatedFrame (snapshotOf [entryOf "first"]) ∧ LooksUp (snapshotOf [entryOf "first"]) ∧
      (snapshotOf [entryOf "first"]).locate [("b", 1)] "@" none = some (location
        { hello := sampleHello, link := 1, dialer := "b:1", seq := 1, entries := Table.empty, snapshotOpen := false }) := by
  have reached : Reached UnrepeatedFrame (snapshotOf [entryOf "first"]) := by
    apply Reached.step _ (Reached.step _ Reached.start trivial)
    intro peer _ _ _ _
    exact ⟨by simp, trivial⟩
  exact ⟨reached, index_holds_entries reached, by decide⟩

/-- Two entries of one bridge for two tunnels: the first tunnel's pair stays in the index, and `locate` answers for it
with a machine that has no entry of it. -/
theorem repeated_bridge_stays_indexed :
    Reached (fun _ _ => True) (snapshotOf [entryOf "first", entryOf "second"]) ∧
      (snapshotOf [entryOf "first", entryOf "second"]).locate [("b", 1)] "@" none ≠ none ∧
      ¬ LooksUp (snapshotOf [entryOf "first", entryOf "second"]) := by
  have listed : Has (snapshotOf [entryOf "first", entryOf "second"]).index "first" ("b", 1) :=
    ⟨[("b", 1)], by decide, by decide⟩
  refine ⟨.step _ (.step _ .start trivial) trivial, by decide, fun exact_ => ?_⟩
  obtain ⟨peer, entry, held, read, names⟩ := (exact_.index "first" "b" 1).mp listed
  have second : ((snapshotOf [entryOf "first", entryOf "second"]).peers.get "b").bind
      (fun peer => (peer.entries.get 1).map (·.tunnel)) = some "second" := by decide
  rw [held, Option.bind_some, read, Option.map_some, names] at second
  revert second
  decide

end Remote

end OpenTunnel.Mesh
