/-
Module: OpenTunnel.Proofs.Draining
Layer: Proofs
Purpose: A drain misses no bridge. An entry with a bridge, or that a task refers to, stays in the map, so the drain's
  list has every entry with a bridge that was past the flag before it was set; later bridges find it set.
Imports: OpenTunnel.Tasks.Steps, OpenTunnel.Model.Draining
Trusted boundary: none (fully proved)
Main exports: Draining.Sound, Draining.drain_misses_none
Open obligations: none
-/
import OpenTunnel.Tasks.Steps
import OpenTunnel.Model.Draining

namespace OpenTunnel.Draining

open Tasks

variable {s s' : Draining} {task : Nat} {at_ : EntryTask}

/-! ### What every state satisfies -/

/-- The drain has not come to the bridge of that entry yet. -/
def Awaits (s : Draining) (e : EntryNo) (b : BridgeId) : Prop :=
  match s.drain with
  | none | some .flagged => True
  | some (.collecting left found) => e ∈ left ∨ b ∈ found
  | some (.sending _ left) => b ∈ left
  | some .done => False

def InMap (s : Draining) (e : EntryNo) : Prop := ∃ id, (id, e) ∈ s.tunnels

/-- The registration is past the flag. -/
def Past (s : Draining) (b : BridgeId) : Prop := b ∈ s.returned ∨ ∃ e, EntryTask.checked e b ∈ s.tasks

/-- A task begins with the entry of its tunnel, which is in the map; nothing else changes but the map grows. -/
theorem start_spec (s : Draining) (id : TunnelId) (begins : EntryNo → EntryTask) : ∃ e tunnels next,
    s.start id begins = { s with tunnels := tunnels, nextEntry := next, tasks := s.tasks ++ [begins e] } ∧
      (id, e) ∈ tunnels ∧ ∀ pair ∈ s.tunnels, pair ∈ tunnels := by
  unfold start entry
  cases found : s.tunnels.lookup id with
  | some e =>
      obtain ⟨before, after, is, -⟩ := List.lookup_eq_some_iff.mp found
      exact ⟨e, s.tunnels, s.nextEntry, rfl, by simp [is], fun _ held => held⟩
  | none => exact ⟨_, _, _, rfl, List.mem_cons_self, fun _ held => List.mem_cons_of_mem _ held⟩

structure Sound (s : Draining) : Prop where
  present : ∀ at_ ∈ s.tasks, s.InMap at_.entry
  kept : ∀ e, s.bridges e ≠ [] → s.InMap e
  listed : ∀ e b, EntryTask.pushed e b ∈ s.tasks → b ∈ s.closed ∨ b ∈ s.bridges e
  told : ∀ b, s.Past b → b ∈ s.closed ∨ b ∈ s.sent ∨ ∃ e, b ∈ s.bridges e ∧ s.Awaits e b
  flag : s.draining = false → s.drain = none

namespace Sound

theorem initial : Sound {} where
  present := by simp
  kept := by simp
  listed := by simp
  told := by simp [Past]
  flag := by simp

/-- The bridges, the flag and the drain stay, and nobody comes past the flag. -/
theorem keep (sound : Sound s) (tasks : ∀ at_ ∈ s'.tasks, s'.InMap at_.entry)
    (maps : ∀ e, s.bridges e ≠ [] → s.InMap e → s'.InMap e) (bridges : s'.bridges = s.bridges)
    (drain : s'.drain = s.drain) (draining : s'.draining = s.draining) (closed : s'.closed = s.closed)
    (sent : s'.sent = s.sent) (pushed : ∀ e b, EntryTask.pushed e b ∈ s'.tasks → EntryTask.pushed e b ∈ s.tasks)
    (past : ∀ b, s'.Past b → s.Past b) : Sound s' where
  present := tasks
  kept := by
    intro e some_
    rw [bridges] at some_
    exact maps e some_ (sound.kept e some_)
  listed := by
    intro e b held
    rw [closed, bridges]
    exact sound.listed e b (pushed e b held)
  told := by
    intro b is
    have told := sound.told b (past b is)
    rw [closed, sent, bridges]
    unfold Awaits at told ⊢
    rwa [drain]
  flag := by
    rw [draining, drain]
    exact sound.flag

/-- A task goes over into another phase at its entry, neither putting a bridge into the list nor coming past the
    flag. -/
theorem retask (sound : Sound s) (found : s.tasks[task]? = some at_) (locked : EntryNo → Bool) {new : EntryTask}
    (same : new.entry = at_.entry) (unpushed : ∀ e b, new ≠ .pushed e b) (unchecked : ∀ e b, new ≠ .checked e b) :
    Sound { s with locked := locked, tasks := s.tasks.set task new } := by
  have old : at_ ∈ s.tasks := List.mem_of_getElem? found
  refine sound.keep ?_ (fun _ _ held => held) rfl rfl rfl rfl rfl ?_ ?_
  · intro other held
    rcases List.mem_or_eq_of_mem_set held with there | rfl
    · exact sound.present other there
    · have is := sound.present at_ old
      rw [← same] at is
      exact is
  · intro e b held
    rcases List.mem_or_eq_of_mem_set held with there | is
    · exact there
    · exact absurd is.symm (unpushed e b)
  · intro b past
    rcases past with given | ⟨e, held⟩
    · exact Or.inl given
    · rcases List.mem_or_eq_of_mem_set held with there | is
      · exact Or.inr ⟨e, there⟩
      · exact absurd is.symm (unchecked e b)

/-- A task ends. A registration that ends was past the flag. -/
theorem leave (sound : Sound s) (locked : EntryNo → Bool) {returned : List BridgeId}
    (past : ∀ b ∈ returned, s.Past b) :
    Sound { s with locked := locked, returned := returned, tasks := s.tasks.eraseIdx task } := by
  refine sound.keep ?_ (fun _ _ held => held) rfl rfl rfl rfl rfl ?_ ?_
  · intro other held
    exact sound.present other (List.mem_of_mem_eraseIdx held)
  · intro e b held
    exact List.mem_of_mem_eraseIdx held
  · intro b is
    rcases is with given | ⟨e, held⟩
    · exact past b given
    · exact Or.inr ⟨e, List.mem_of_mem_eraseIdx held⟩

/-- A task begins, with an entry that is in the map. -/
theorem start (sound : Sound s) (id : TunnelId) (begins : EntryNo → EntryTask) (refers : ∀ e, (begins e).entry = e)
    (unpushed : ∀ e e' b, begins e ≠ .pushed e' b) (unchecked : ∀ e e' b, begins e ≠ .checked e' b) :
    Sound (s.start id begins) := by
  obtain ⟨e, tunnels, next, begun, new, old⟩ := start_spec s id begins
  rw [begun]
  refine sound.keep ?_ (fun e _ held => held.imp fun id => old (id, e)) rfl rfl rfl rfl rfl ?_ ?_
  · intro other held
    rcases List.mem_append.mp held with there | added
    · exact (sound.present other there).imp fun id => old (id, other.entry)
    · obtain rfl := List.mem_singleton.mp added
      exact ⟨id, by simpa [refers] using new⟩
  · intro e' b held
    rcases List.mem_append.mp held with there | added
    · exact there
    · exact absurd (List.mem_singleton.mp added).symm (unpushed e e' b)
  · intro b past
    rcases past with given | ⟨e', held⟩
    · exact Or.inl given
    · rcases List.mem_append.mp held with there | added
      · exact Or.inr ⟨e', there⟩
      · exact absurd (List.mem_singleton.mp added).symm (unchecked e e' b)

/-- An entry that somebody refers to, or that has a bridge, is not collected. -/
theorem collect (sound : Sound s) (recent : List TunnelId) : Sound (s.collectIdle recent) := by
  refine sound.keep ?_ ?_ rfl rfl rfl rfl rfl (fun _ _ held => held) (fun _ past => past)
  · intro at_ held
    have used : s.referenced at_.entry = true := by
      have among : s.tasks.any (·.entry = at_.entry) = true := List.any_eq_true.mpr ⟨at_, held, by simp⟩
      simp [referenced, among]
    obtain ⟨id, there⟩ := sound.present at_ held
    exact ⟨id, List.mem_filter.mpr ⟨there, by simp [used]⟩⟩
  · intro e some_ mapped
    obtain ⟨id, there⟩ := mapped
    exact ⟨id, List.mem_filter.mpr ⟨there, by simp [some_]⟩⟩

theorem push (sound : Sound s) {e : EntryNo} (found : s.tasks[task]? = some (.loading e)) :
    Sound ({ s with
      bridges := fun other => if other = e then s.bridges e ++ [s.nextBridge] else s.bridges other
      nextBridge := s.nextBridge + 1 }.setTask task (.pushed e s.nextBridge)) := by
  have old : EntryTask.loading e ∈ s.tasks := List.mem_of_getElem? found
  have more {e' : EntryNo} {b : BridgeId} (held : b ∈ s.bridges e') :
      b ∈ if e' = e then s.bridges e ++ [s.nextBridge] else s.bridges e' := by
    split
    · rename_i same
      subst same
      exact List.mem_append_left _ held
    · exact held
  exact {
    present := by
      intro other held
      rcases List.mem_or_eq_of_mem_set held with there | rfl
      · exact sound.present other there
      · exact sound.present (.loading e) old
    kept := by
      intro e' some_
      by_cases same : e' = e
      · subst same
        exact sound.present (.loading e') old
      · apply sound.kept e'
        simpa [setTask, same] using some_
    listed := by
      intro e' b held
      rcases List.mem_or_eq_of_mem_set held with there | is
      · exact (sound.listed e' b there).imp_right more
      · cases is
        exact Or.inr (by simp [setTask])
    told := by
      intro b past
      have before : s.Past b := by
        rcases past with given | ⟨e', held⟩
        · exact Or.inl given
        · rcases List.mem_or_eq_of_mem_set held with there | is
          · exact Or.inr ⟨e', there⟩
          · cases is
      rcases sound.told b before with gone | told | ⟨e', held, awaits⟩
      · exact Or.inl gone
      · exact Or.inr (Or.inl told)
      · exact Or.inr (Or.inr ⟨e', more held, awaits⟩)
    flag := sound.flag }

/-- The flag is read after the bridge is in the list: it is set, or the drain has not begun. -/
theorem check (sound : Sound s) {e : EntryNo} {b : BridgeId} (found : s.tasks[task]? = some (.pushed e b)) :
    Sound ({ s with sent := if s.draining then s.sent ++ [b] else s.sent }.setTask task (.checked e b)) := by
  have old : EntryTask.pushed e b ∈ s.tasks := List.mem_of_getElem? found
  have more {b' : BridgeId} (told : b' ∈ s.sent) : b' ∈ if s.draining then s.sent ++ [b] else s.sent := by
    split
    · exact List.mem_append_left _ told
    · exact told
  exact {
    present := by
      intro other held
      rcases List.mem_or_eq_of_mem_set held with there | rfl
      · exact sound.present other there
      · exact sound.present (.pushed e b) old
    kept := sound.kept
    listed := by
      intro e' b' held
      rcases List.mem_or_eq_of_mem_set held with there | is
      · exact sound.listed e' b' there
      · cases is
    told := by
      intro b' past
      by_cases before : s.Past b'
      · rcases sound.told b' before with gone | told | awaits
        · exact Or.inl gone
        · exact Or.inr (Or.inl (more told))
        · exact Or.inr (Or.inr awaits)
      · have same : b' = b := by
          rcases past with given | ⟨e', held⟩
          · exact absurd (Or.inl given) before
          · rcases List.mem_or_eq_of_mem_set held with there | is
            · exact absurd (Or.inr ⟨e', there⟩) before
            · cases is
              rfl
        subst same
        rcases sound.listed e b' old with gone | held
        · exact Or.inl gone
        · cases drains : s.draining with
          | true => exact Or.inr (Or.inl (by simp [setTask]))
          | false =>
              refine Or.inr (Or.inr ⟨e, held, ?_⟩)
              simp [Awaits, setTask, sound.flag drains]
    flag := sound.flag }

/-- A bridge that closes leaves its entry. -/
theorem close (sound : Sound s) (e : EntryNo) (b : BridgeId) :
    Sound { s with
      bridges := fun other => if other = e then (s.bridges e).filter (· ≠ b) else s.bridges other
      closed := s.closed ++ [b]
      tasks := s.tasks.eraseIdx task } := by
  have still {e' : EntryNo} {b' : BridgeId} (held : b' ∈ s.bridges e') (differs : b' ≠ b) :
      b' ∈ if e' = e then (s.bridges e).filter (· ≠ b) else s.bridges e' := by
    split
    · rename_i same
      subst same
      exact List.mem_filter.mpr ⟨held, by simpa using differs⟩
    · exact held
  exact {
    present := fun other held => sound.present other (List.mem_of_mem_eraseIdx held)
    kept := by
      intro e' some_
      apply sound.kept e'
      intro none
      apply some_
      dsimp only
      split
      · rename_i same
        subst same
        simp [none]
      · exact none
    listed := by
      intro e' b' held
      by_cases same : b' = b
      · exact Or.inl (by simp [same])
      · rcases sound.listed e' b' (List.mem_of_mem_eraseIdx held) with gone | there
        · exact Or.inl (List.mem_append_left _ gone)
        · exact Or.inr (still there same)
    told := by
      intro b' past
      have before : s.Past b' := past.imp_right fun ⟨e', held⟩ => ⟨e', List.mem_of_mem_eraseIdx held⟩
      by_cases same : b' = b
      · exact Or.inl (by simp [same])
      · rcases sound.told b' before with gone | told | ⟨e', held, awaits⟩
        · exact Or.inl (List.mem_append_left _ gone)
        · exact Or.inr (Or.inl told)
        · exact Or.inr (Or.inr ⟨e', still held same, awaits⟩)
    flag := sound.flag }

/-- The drain goes on: what it awaited it still awaits, or has told. -/
theorem redrain (sound : Sound s) {sent : List BridgeId} {drain : Option DrainPass} {draining : Bool}
    (more : ∀ b ∈ s.sent, b ∈ sent) (flag : draining = false → drain = none)
    (awaits : ∀ e b, b ∈ s.bridges e → s.Awaits e b →
      b ∈ sent ∨ { s with sent := sent, drain := drain, draining := draining }.Awaits e b) :
    Sound { s with sent := sent, drain := drain, draining := draining } where
  present := sound.present
  kept := sound.kept
  listed := sound.listed
  flag := flag
  told := by
    intro b past
    rcases sound.told b past with gone | told | ⟨e, held, waits⟩
    · exact Or.inl gone
    · exact Or.inr (Or.inl (more b told))
    · rcases awaits e b held waits with told | still
      · exact Or.inr (Or.inl told)
      · exact Or.inr (Or.inr ⟨e, held, still⟩)

theorem drainTurn (sound : Sound s) (taken : s.drainTurn = some s') : Sound s' := by
  have set {p : DrainPass} (is : s.drain = some p) {q : Option DrainPass} (off : s.draining = false) : q = none := by
    rw [sound.flag off] at is
    cases is
  unfold Draining.drainTurn at taken
  split at taken
  · cases taken
  · cases taken
  · -- the list has every entry with a bridge
    rename_i is
    cases taken
    refine sound.redrain (fun _ told => told) (set is) ?_
    intro e b held _
    obtain ⟨id, mapped⟩ := sound.kept e (List.ne_nil_of_mem held)
    exact Or.inr (Or.inl (List.mem_map.mpr ⟨(id, e), mapped, rfl⟩))
  · rename_i found is
    cases taken
    refine sound.redrain (fun _ told => told) (set is) ?_
    intro e b held waits
    simp only [Awaits, is, List.not_mem_nil, false_or] at waits
    exact Or.inr waits
  · rename_i e left found is
    split at taken <;> cases taken
    refine sound.redrain (fun _ told => told) (set is) ?_
    intro e' b held waits
    simp only [Awaits, is, List.mem_cons] at waits
    rcases waits with (rfl | later) | there
    · exact Or.inr (Or.inr (List.mem_append_right _ held))
    · exact Or.inr (Or.inl later)
    · exact Or.inr (Or.inr (List.mem_append_left _ there))
  · rename_i is
    cases taken
    refine sound.redrain (fun _ told => told) (set is) ?_
    intro e b held waits
    simp [Awaits, is] at waits
  · rename_i total left _ is
    cases taken
    refine sound.redrain (fun _ told => List.mem_append_left _ told) (set is) ?_
    intro e b held waits
    simp only [Awaits, is] at waits
    rw [← List.take_append_drop (drainPerStep total) left] at waits
    rcases List.mem_append.mp waits with now | later
    · exact Or.inl (List.mem_append_right _ now)
    · exact Or.inr later

theorem step {e : Event} (sound : Sound s) (taken : s.step e = some s') : Sound s' := by
  cases e with
  | register id =>
      cases taken
      exact sound.start id _ (fun _ => rfl) (fun _ _ _ is => nomatch is) (fun _ _ _ is => nomatch is)
  | close id b =>
      simp only [Draining.step] at taken
      split at taken <;> cases taken
      exact sound.start id _ (fun _ => rfl) (fun _ _ _ is => nomatch is) (fun _ _ _ is => nomatch is)
  | useEntry id =>
      cases taken
      exact sound.start id _ (fun _ => rfl) (fun _ _ _ is => nomatch is) (fun _ _ _ is => nomatch is)
  | lock task | unlock task =>
      simp only [Draining.step] at taken
      repeat' split at taken
      all_goals
        cases taken
        try
          rename_i found _
          exact sound.retask found _ rfl (fun _ _ is => nomatch is) (fun _ _ is => nomatch is)
        try
          rename_i found
          exact sound.retask found _ rfl (fun _ _ is => nomatch is) (fun _ _ is => nomatch is)
  | drop task =>
      simp only [Draining.step] at taken
      split at taken <;> cases taken
      · exact sound.leave s.locked fun b given => Or.inl given
      · exact sound.leave s.locked fun b given => Or.inl given
  | push task =>
      simp only [Draining.step] at taken
      split at taken <;> cases taken
      rename_i found
      exact sound.push found
  | check task =>
      simp only [Draining.step] at taken
      split at taken <;> cases taken
      rename_i found
      exact sound.check found
  | finish task =>
      simp only [Draining.step] at taken
      split at taken
      · rename_i e b found
        cases taken
        refine sound.leave (s.setLock e false).locked fun other given => ?_
        rcases List.mem_append.mp given with before | now
        · exact Or.inl before
        · obtain rfl := List.mem_singleton.mp now
          exact Or.inr ⟨e, List.mem_of_getElem? found⟩
      · split at taken <;> cases taken
        exact sound.close _ _
      · cases taken
  | collect recent =>
      cases taken
      exact sound.collect recent
  | setDraining =>
      simp only [Draining.step] at taken
      split at taken <;> cases taken
      exact sound.redrain (fun _ told => told) (fun off => nomatch off) fun _ _ _ _ => Or.inr trivial
  | drainTurn => exact sound.drainTurn taken

end Sound

/-! ### The drain ends -/

/-- Only its own turns move a drain. -/
theorem step_drain {e : Event} {p : DrainPass} (taken : s.step e = some s') (other : e ≠ .drainTurn)
    (at_ : s.drain = some p) : s'.drain = some p := by
  have started (id : TunnelId) (begins : EntryNo → EntryTask) : (s.start id begins).drain = some p := by
    obtain ⟨e, tunnels, next, begun, -⟩ := start_spec s id begins
    rw [begun]
    exact at_
  cases e with
  | drainTurn => exact absurd rfl other
  | register id =>
      cases taken
      exact started id _
  | useEntry id =>
      cases taken
      exact started id _
  | close id b =>
      simp only [step] at taken
      split at taken <;> cases taken
      exact started id _
  | collect recent =>
      cases taken
      exact at_
  | setDraining =>
      simp only [step] at taken
      split at taken <;> cases taken
      rename_i none
      rw [none] at at_
      cases at_
  | lock _ | unlock _ | drop _ | push _ | check _ | finish _ =>
      simp only [step] at taken
      repeat' split at taken
      all_goals
        cases taken
        try exact at_

/-- What was returned stays so. -/
theorem step_returned {e : Event} {b : BridgeId} (taken : s.step e = some s') (given : b ∈ s.returned) :
    b ∈ s'.returned := by
  have started (id : TunnelId) (begins : EntryNo → EntryTask) : b ∈ (s.start id begins).returned := by
    obtain ⟨e, tunnels, next, begun, -⟩ := start_spec s id begins
    rw [begun]
    exact given
  cases e with
  | register id =>
      cases taken
      exact started id _
  | useEntry id =>
      cases taken
      exact started id _
  | close id b' =>
      simp only [step] at taken
      split at taken <;> cases taken
      exact started id _
  | collect recent =>
      cases taken
      exact given
  | finish task =>
      simp only [step] at taken
      repeat' split at taken
      all_goals
        cases taken
        try exact given
        try exact List.mem_append_left _ given
  | lock _ | unlock _ | drop _ | push _ | check _ | setDraining =>
      simp only [step] at taken
      repeat' split at taken
      all_goals
        cases taken
        try exact given
  | drainTurn =>
      simp only [step, drainTurn] at taken
      repeat' split at taken
      all_goals
        cases taken
        try exact given

section Endless

variable {run : Nat → Draining} {events : Nat → Event}

/-- The drain goes on: it gets the locks it waits for, and its turns. -/
def Fair (run : Nat → Draining) (events : Nat → Event) : Prop :=
  ∀ t p, (run t).drain = some p → p ≠ .done → ∃ t', t ≤ t' ∧ events t' = .drainTurn

theorem next_turn (endless : Endless step run events) (fair : Fair run events) {t : Nat} {p : DrainPass}
    (at_ : (run t).drain = some p) (going : p ≠ .done) :
    ∃ t', t ≤ t' ∧ (run t').drain = some p ∧ (run t').drainTurn = some (run (t' + 1)) := by
  have kept (t' : Nat) (other : events t' ≠ .drainTurn) (still : (run t').drain = some p) :
      (run (t' + 1)).drain = some p ∨ False := Or.inl (step_drain (endless.next t') other still)
  rcases awaited (P := fun s : Draining => s.drain = some p) (Q := fun _ => False) (T := fun e => e = Event.drainTurn) at_
    (fair t p at_ going) kept with ⟨t', later, still, is⟩ | ⟨_, _, never⟩
  · have taken := endless.next t'
    rw [is] at taken
    exact ⟨t', later, still, taken⟩
  · exact never.elim

theorem drainPerStep_pos (bridges : Nat) : 0 < drainPerStep bridges := by
  simp only [drainPerStep]
  omega

/-- The bridges are told. Induction on those left. -/
theorem sending_ends (endless : Endless step run events) (fair : Fair run events) {total : Nat} (n : Nat) {t : Nat}
    {left : List BridgeId} (few : left.length ≤ n) (at_ : (run t).drain = some (.sending total left)) :
    ∃ t', t ≤ t' ∧ (run t').drain = some .done := by
  induction n generalizing t left with
  | zero =>
      obtain rfl : left = [] := List.eq_nil_of_length_eq_zero (by omega)
      obtain ⟨t', later, still, taken⟩ := next_turn endless fair at_ (by simp)
      simp only [drainTurn, still, Option.some.injEq] at taken
      exact ⟨t' + 1, by omega, by rw [← taken]⟩
  | succ n ih =>
      obtain ⟨t', later, still, taken⟩ := next_turn endless fair at_ (by simp)
      cases left with
      | nil =>
          simp only [drainTurn, still, Option.some.injEq] at taken
          exact ⟨t' + 1, by omega, by rw [← taken]⟩
      | cons b rest =>
          simp only [drainTurn, still, Option.some.injEq] at taken
          have less : ((b :: rest).drop (drainPerStep total)).length ≤ n := by
            have pos := drainPerStep_pos total
            simp only [List.length_drop, List.length_cons] at few ⊢
            omega
          obtain ⟨t'', last, done⟩ := ih less (t := t' + 1) (by rw [← taken])
          exact ⟨t'', by omega, done⟩

/-- The entries are looked at, then the bridges are told. -/
theorem collecting_ends (endless : Endless step run events) (fair : Fair run events) (left : List EntryNo) {t : Nat}
    {found : List BridgeId} (at_ : (run t).drain = some (.collecting left found)) :
    ∃ t', t ≤ t' ∧ (run t').drain = some .done := by
  induction left generalizing t found with
  | nil =>
      obtain ⟨t', later, still, taken⟩ := next_turn endless fair at_ (by simp)
      simp only [drainTurn, still, Option.some.injEq] at taken
      obtain ⟨t'', last, done⟩ := sending_ends endless fair found.length (Nat.le_refl _) (t := t' + 1) (by rw [← taken])
      exact ⟨t'', by omega, done⟩
  | cons e left ih =>
      obtain ⟨t', later, still, taken⟩ := next_turn endless fair at_ (by simp)
      simp only [drainTurn, still] at taken
      split at taken
      · cases taken
      · simp only [Option.some.injEq] at taken
        obtain ⟨t'', last, done⟩ := ih (t := t' + 1) (by rw [← taken])
        exact ⟨t'', by omega, done⟩

theorem drain_ends (endless : Endless step run events) (fair : Fair run events) {t : Nat} {p : DrainPass}
    (at_ : (run t).drain = some p) : ∃ t', t ≤ t' ∧ (run t').drain = some .done := by
  cases p with
  | flagged =>
      obtain ⟨t', later, still, taken⟩ := next_turn endless fair at_ (by simp)
      simp only [drainTurn, still, Option.some.injEq] at taken
      obtain ⟨t'', last, done⟩ := collecting_ends endless fair _ (t := t' + 1) (by rw [← taken])
      exact ⟨t'', by omega, done⟩
  | collecting left found => exact collecting_ends endless fair left at_
  | sending total left => exact sending_ends endless fair left.length (Nat.le_refl _) at_
  | done => exact ⟨t, Nat.le_refl _, at_⟩

theorem returned_later (endless : Endless step run events) {t t' : Nat} (later : t ≤ t') {b : BridgeId}
    (given : b ∈ (run t).returned) : b ∈ (run t').returned := by
  induction later with
  | refl => exact given
  | step _ ih => exact step_returned (endless.next _) ih

end Endless

/-- When the drain is done, every bridge that was returned and is not closed was told. And a drain that goes on gets
    done, so every bridge returned is told or closes first. -/
theorem drain_misses_none :
    (∀ s, Stepped step (fun _ _ => True) {} s → s.drain = some .done →
      ∀ b ∈ s.returned, b ∉ s.closed → b ∈ s.sent) ∧
    ∀ run events, run 0 = {} → Endless step run events → Fair run events →
      ∀ t, (run t).drain ≠ none → ∀ b ∈ (run t).returned, ∃ t', t ≤ t' ∧ (b ∈ (run t').sent ∨ b ∈ (run t').closed) := by
  have sound (s : Draining) (reached : Stepped step (fun _ _ => True) {} s) : Sound s :=
    reached.invariant .initial fun _ _ _ _ holds taken => holds.step taken
  have told (s : Draining) (reached : Stepped step (fun _ _ => True) {} s) (done : s.drain = some .done)
      (b : BridgeId) (given : b ∈ s.returned) (open_ : b ∉ s.closed) : b ∈ s.sent := by
    rcases (sound s reached).told b (Or.inl given) with gone | told | ⟨e, _, awaits⟩
    · exact absurd gone open_
    · exact told
    · simp [Awaits, done] at awaits
  refine ⟨told, ?_⟩
  intro run events start endless fair t drains b given
  obtain ⟨p, at_⟩ := Option.ne_none_iff_exists'.mp drains
  obtain ⟨t', later, done⟩ := drain_ends endless fair at_
  refine ⟨t', later, ?_⟩
  rcases Classical.em (b ∈ (run t').closed) with gone | open_
  · exact Or.inr gone
  · exact Or.inl (told _ (start ▸ endless.stepped t') done b (returned_later endless later given) open_)

/-- A bridge registers before the drain and one, of a new entry, after the drain has its list. -/
def lateEvents : Nat → Event
  | 0 => .register "t"
  | 5 => .setDraining
  | 6 => .drainTurn
  | 7 => .register "u"
  | 1 | 8 => .lock 0
  | 2 | 9 => .push 0
  | 3 | 10 => .check 0
  | 4 | 11 => .finish 0
  | 12 | 13 | 14 | 15 => .drainTurn
  | _ => .collect []

def lateRun : Nat → Draining := runOf step lateEvents {}

theorem late_endless : Endless step lateRun lateEvents := by
  apply endless_runOf
  intro t
  match t with
  | 0 | 1 | 2 | 3 | 4 | 5 | 6 | 7 | 8 | 9 | 10 | 11 | 12 | 13 | 14 | 15 => decide +kernel
  | t + 16 => rfl

theorem late_done (t : Nat) : (lateRun (t + 16)).drain = some .done := by
  induction t with
  | zero => decide +kernel
  | succ t ih => exact ih

theorem late_fair : Fair lateRun lateEvents := by
  intro t p at_ going
  by_cases early : t ≤ 15
  · exact ⟨15, early, rfl⟩
  · have done := late_done (t - 16)
    rw [show t - 16 + 16 = t by omega, at_] at done
    exact absurd (Option.some.inj done) going

/-- Both are told: the first by the drain, the second by its registration. -/
theorem drain_misses_none_late :
    ((lateRun 16).drain = some .done ∧ (lateRun 16).returned = [0, 1]) ∧
    (∀ b ∈ (lateRun 16).returned, b ∉ (lateRun 16).closed → b ∈ (lateRun 16).sent) ∧
    ∀ b ∈ (lateRun 12).returned, ∃ t', 12 ≤ t' ∧ (b ∈ (lateRun t').sent ∨ b ∈ (lateRun t').closed) := by
  obtain ⟨told, later⟩ := drain_misses_none
  exact ⟨⟨late_done 0, by decide +kernel⟩, told _ (late_endless.stepped 16) (late_done 0),
    later lateRun lateEvents rfl late_endless late_fair 12 (by decide +kernel)⟩

end OpenTunnel.Draining
