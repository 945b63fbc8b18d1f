/-
Module: OpenTunnel.Proofs.Consults
Layer: Proofs
Purpose: What a task knows of a record. A task that decides by a tunnel's record locks the entry and reads the record
  again, or goes on with what is cached. `Sight` says, from what the task found on its way, which record that is and
  what kept it from the stored one: a refresh failed moments ago, the record was read moments ago, its own read
  failed, or another task loaded the entry between two locks.
Imports: OpenTunnel.Proofs.Executions, OpenTunnel.Proofs.Footprint
Trusted boundary: none (fully proved)
Main exports: Look, Sight, Sight.after, sights, sights_steady, sights_read, Shows, refresh_shows, lock_shows,
  lockFresh_shows
Open obligations: none
-/
import OpenTunnel.Proofs.Executions
import OpenTunnel.Proofs.Footprint

namespace OpenTunnel

open Tasks Semantics

/-! ### What a task saw -/

/-- A cached entry that a task goes by: as it was when its lock was taken, the clock when the task looked at it, and
    whether something bars the task from the stored record. -/
structure Look where
  entry : Entry
  clock : Nat
  barred : Bool

def Look.bar (look : Look) (bars : Bool) : Look := { look with barred := look.barred || bars }

/-- What a task saw of a record since it last locked the entry: nothing before the first lock, then the entry, and
    once the record is read, the state in which it was. -/
inductive Sight where
  | unlocked
  | cached (look : Look)
  | read (s : World)

namespace Sight

def map (f : Look → Look) : Sight → Sight
  | .cached look => .cached (f look)
  | sight => sight

/-- The last lock found no record in the entry, and none was read since. -/
def vacant : Sight → Bool
  | .cached look => !look.entry.loaded
  | _ => false

end Sight

section Sights

variable {setup : Setup} (t : Task) (id : TunnelId)

/-- What bars a task from the stored record: the entry was loaded by another task after a lock that found nothing; the
    back-off after a failed refresh holds; an attach finds a record read moments ago; the read fails. -/
def Sight.after (sight : Sight) (s : World) : (system setup).Label → Sight
  | .own (.lock id') _ _ => if id' = id then .cached ⟨s.entry t.machine id, 0, sight.vacant⟩ else sight
  | .own .now _ _ => sight.map fun look => { look with clock := s.now t.machine }
  | .own .refreshFailedAt _ _ => sight.map fun look =>
      look.bar (decide (look.clock - (s.machine t.machine).refreshFailedAt < refreshBackoffMs))
  | .own .generation _ _ => sight.map fun look =>
      look.bar (rereadAlarm look.entry (s.machine t.machine).generation look.clock).isSome
  | .own (.read id') c _ =>
      if id' = id then
        if Choice.fault c = .none then .read s else sight.map fun look => look.bar true
      else sight
  | _ => sight

def sights (sight : Sight) : (system setup).Trace → Sight
  | [] => sight
  | (s, label) :: rest => sights (sight.after t id s label) rest

end Sights

section Facts

variable {setup : Setup} {t : Task} {id : TunnelId} {w w' : World} {α : Type} {sight : Sight}
  {first rest trace drift : (system setup).Trace}

theorem sights_append : sights t id sight (first ++ rest) = sights t id (sights t id sight first) rest := by
  induction first generalizing sight with
  | nil => rfl
  | cons moment first ih => exact ih

/-- While others move, a task sees nothing. -/
theorem sights_drifts {R : World → World → Prop} (drifts : (system setup).Drifts R w drift w') :
    sights t id sight drift = sight := by
  induction drifts with
  | refl => rfl
  | other _ _ ih => exact ih

theorem sights_own {R : World → World → Prop} {label : (system setup).Label}
    (drifts : (system setup).Drifts R w drift w') :
    sights t id sight (drift ++ (w', label) :: rest) = sights t id (sight.after t id w' label) rest := by
  rw [sights_append, sights_drifts drifts]
  rfl

theorem Sight.after_lock {s : World} {c : Choice} :
    sight.after t id s (.own (.lock id) c () : (system setup).Label) =
      .cached ⟨s.entry t.machine id, 0, sight.vacant⟩ := if_pos rfl

theorem Sight.after_read {s : World} {c : Choice} {ans : (Act.read id).Ans} (fine : c.fault = .none) :
    sight.after t id s (.own (.read id) c ans : (system setup).Label) = .read s := (if_pos rfl).trans (if_pos fine)

theorem Sight.after_failed {s : World} {c : Choice} {ans : (Act.read id).Ans} (fault : c.fault ≠ .none) :
    sight.after t id s (.own (.read id) c ans : (system setup).Label) = sight.map fun look => look.bar true :=
  (if_pos rfl).trans (if_neg fault)

/-- A record that was read in the trace was read at one of its moments. -/
theorem sights_read {s : World} (read : sights t id sight trace = .read s) :
    sight = .read s ∨ ∃ moment ∈ trace, moment.1 = s := by
  induction trace generalizing sight with
  | nil => exact Or.inl read
  | cons moment rest ih =>
      obtain ⟨s₁, label⟩ := moment
      rcases ih read with here | ⟨moment, listed, same⟩
      · have mapped {f : Look → Look} (here : sight.map f = .read s) : sight = .read s := by
          cases sight with
          | cached look => cases here
          | unlocked => cases here
          | read s' => exact here
        unfold Sight.after at here
        split at here
        · split at here
          · cases here
          · exact Or.inl here
        · exact Or.inl (mapped here)
        · exact Or.inl (mapped here)
        · exact Or.inl (mapped here)
        · split at here
          · split at here
            · cases here
              exact Or.inr ⟨_, List.mem_cons_self, rfl⟩
            · exact Or.inl (mapped here)
          · exact Or.inl here
        · exact Or.inl here
      · exact Or.inr ⟨moment, List.mem_cons_of_mem _ listed, same⟩

/-! ### What leaves it as it is -/

/-- The acts by which a task's sight of the record does not change, the clock apart. -/
def Act.Steady : Act → Prop
  | .lock _ => False
  | .read _ => False
  | .refreshFailedAt => False
  | .generation => False
  | _ => True

instance : Unlocks Act.Steady := ⟨fun _ => trivial⟩

/-- The task does what may change its sight of a record. -/
def Stirs (setup : Setup) (_ : World) : (system setup).Label → Prop
  | .own op _ _ => ¬ op.Steady
  | .other => False

/-- A sight of the record without the clock. -/
def Sight.timeless (sight : Sight) : Sight := sight.map fun look => { look with clock := 0 }

theorem Sight.timeless_map {f : Look → Look} (same : ∀ look, { f look with clock := 0 } = { look with clock := 0 }) :
    (sight.map f).timeless = sight.timeless := by
  cases sight with
  | cached look => exact congrArg Sight.cached (same look)
  | unlocked => rfl
  | read s => rfl

/-- What is seen next does not depend on the clock, as long as the task is steady. -/
theorem Sight.after_steady {s : World} {label : (system setup).Label} (steady : ¬ Stirs setup s label) :
    (sight.after t id s label).timeless = sight.timeless := by
  cases label with
  | other => rfl
  | own op c ans =>
      cases op with
      | lock => exact absurd (fun still => still) steady
      | read => exact absurd (fun still => still) steady
      | refreshFailedAt => exact absurd (fun still => still) steady
      | generation => exact absurd (fun still => still) steady
      | now => exact Sight.timeless_map fun _ => rfl
      | _ => rfl

theorem sights_steady (steady : ¬ trace.Any (Stirs setup)) : (sights t id sight trace).timeless = sight.timeless := by
  induction trace generalizing sight with
  | nil => rfl
  | cons moment rest ih =>
      obtain ⟨s, label⟩ := moment
      rw [Trace.any_cons, not_or] at steady
      exact (ih steady.2).trans (Sight.after_steady steady.1)

theorem steady_drifts {R : World → World → Prop} (drifts : (system setup).Drifts R w drift w') :
    ¬ drift.Any (Stirs setup) := drifts.none fun _ stirs => stirs

theorem steady_append (before : ¬ first.Any (Stirs setup)) (after : ¬ rest.Any (Stirs setup)) :
    ¬ (first ++ rest).Any (Stirs setup) := by
  rw [Trace.any_append]
  exact not_or.mpr ⟨before, after⟩

/-- A steady act, among what others do. -/
theorem steady_own {R : World → World → Prop} {op : Act} {c : (system setup).Choice} {ans : op.Ans} (steady : op.Steady)
    (drifts : (system setup).Drifts R w drift w') (after : ¬ rest.Any (Stirs setup)) :
    ¬ Trace.Any (Stirs setup) (drift ++ (w', .own op c ans) :: rest) := by
  simp [steady_drifts drifts, after, Stirs, steady]

/-- A program of steady acts. -/
theorem steady_runs {R : World → World → Prop} {p : Call α} (acts : Prog.All Act.Steady p) {a : α}
    (run : (system setup).Runs R t p w trace a w') : ¬ trace.Any (Stirs setup) :=
  run.none acts (fun _ stirs => stirs) fun _ _ _ _ stirs steady => stirs steady

theorem timeless_read (sight : Sight) {s : World} : sight.timeless = .read s ↔ sight = .read s := by
  cases sight <;> simp [Sight.timeless, Sight.map]

/-- The task goes by an entry that meets `P`, and was barred from the stored record. -/
def Sight.Barred (P : Entry → Prop) (sight : Sight) : Prop :=
  ∃ look, sight = .cached look ∧ look.barred = true ∧ look.entry.loaded = true ∧ P look.entry

theorem Sight.barred_timeless {P : Entry → Prop} : sight.timeless.Barred P ↔ sight.Barred P := by
  cases sight with
  | cached look => simp [Sight.Barred, Sight.timeless, Sight.map]
  | unlocked => rfl
  | read s => rfl

theorem Sight.Barred.congr {P : Entry → Prop} {other : Sight} (same : sight.timeless = other.timeless) :
    sight.Barred P ↔ other.Barred P := by
  rw [← barred_timeless, same, barred_timeless]

/-! ### Consulting a record -/

variable (t id) in
/-- What a task holds once it consulted a record: the record as it was read, or the cached one where the task was
    barred from reading it; an error only where none was cached. -/
def Shows (sight : Sight) (result : Except Err α) (w : World) : Prop :=
  match result with
  | .error _ => ∃ look, sight = .cached look ∧ look.entry.loaded = false
  | .ok _ => w.holds t id = true ∧
      ((∃ s, sight = .read s ∧ (w.entry t.machine id).record = (s.db.stored id).1) ∨
        sight.Barred fun e => (w.entry t.machine id).record = e.record)

/-- The entry shows what was stored when its record was read. -/
theorem live_of_stored {m : MachineId} {s : World} (same : (w.entry m id).record = (s.db.stored id).1) :
    (w.entry m id).live = s.db.live id := by
  unfold Entry.live Db.live
  rw [same]
  unfold Db.stored
  cases s.db.row id with
  | none => rfl
  | some row =>
      cases deleted : row.record.isDeleted with
      | false => simp [Option.filter, deleted]
      | true => simp [Option.filter, deleted]

/-- The next act of a fallible program, with what the task sees after it. -/
theorem ensures_seen {op : Act} {f : op.Ans → Fallible α} {Q : Sight → Except Err α → World → Prop}
    {R : World → World → Prop}
    (each : ∀ drift w₁ c ans w₂, (system setup).Drifts R w drift w₁ → exec setup t op c w₁ = some (ans, w₂) →
      (system setup).Ensures R t (f ans).run w₂ fun rest =>
        Q (sights t id (sight.after t id w₁ (.own op c ans : (system setup).Label)) rest)) :
    (system setup).Ensures R t ((liftM (act op) : Fallible op.Ans) >>= f).run w fun trace =>
      Q (sights t id sight trace) := by
  refine ensures_act fun drift w₁ c ans w₂ drifts executed => ?_
  refine ensures_mono (each drift w₁ c ans w₂ drifts executed) fun rest result w' holds => ?_
  rw [sights_own drifts]
  exact holds

/-- The same for code that cannot fail. -/
theorem ensures_seenCall {β : Type} {op : Act} {f : op.Ans → Call β} {Q : Sight → β → World → Prop}
    {R : World → World → Prop}
    (each : ∀ drift w₁ c ans w₂, (system setup).Drifts R w drift w₁ → exec setup t op c w₁ = some (ans, w₂) →
      (system setup).Ensures R t (f ans) w₂ fun rest =>
        Q (sights t id (sight.after t id w₁ (.own op c ans : (system setup).Label)) rest)) :
    (system setup).Ensures R t (act op >>= f) w fun trace => Q (sights t id sight trace) := by
  refine ensures_call fun drift w₁ c ans w₂ drifts executed => ?_
  refine ensures_mono (each drift w₁ c ans w₂ drifts executed) fun rest a w' holds => ?_
  rw [sights_own drifts]
  exact holds

/-- A read whose result is looked at. -/
theorem ensures_seenRead {f : Except Err (Option (Option Nat)) → Fallible α} {Q : Sight → Except Err α → World → Prop}
    {R : World → World → Prop}
    (each : ∀ drift w₁ c ans w₂, (system setup).Drifts R w drift w₁ →
      exec setup t (.read id) c w₁ = some (ans, w₂) →
      (system setup).Ensures R t (f ans).run w₂ fun rest =>
        Q (sights t id (sight.after t id w₁ (.own (.read id) c ans : (system setup).Label)) rest)) :
    (system setup).Ensures R t (attempt (act (.read id)) >>= f).run w fun trace => Q (sights t id sight trace) := by
  refine ensures_attempt (ensures_call fun drift w₁ c ans w₂ drifts executed => ensures_ret ?_)
  refine ensures_mono (each drift w₁ c ans w₂ drifts executed) fun rest result w' holds => ?_
  rw [List.append_assoc, List.singleton_append, sights_own drifts]
  exact holds

/-- The entry keeps the record that was read while it is stamped. -/
theorem stamp_shows {s : World} {stamp : Stamp} (held : w.holds t id = true)
    (read : (w.entry t.machine id).record = (s.db.stored id).1) :
    (system setup).Ensures (others setup t) t (act (.stamp id stamp)) w fun trace _ w' =>
      Shows t id (sights t id (.read s) trace) (.ok () : Except Err Unit) w' := by
  refine ensures_call fun drift w₁ c _ w₂ drifts stamps => ensures_ret ?_
  obtain ⟨held₁, same₁⟩ := drifts_entry drifts held
  have stamps : exec setup t (.stamp id stamp) c w₁ = some (_, w₂) := stamps
  obtain ⟨-, rfl⟩ := exec_stamp stamps
  rw [sights_own drifts]
  refine ⟨?_, Or.inl ⟨s, rfl, ?_⟩⟩
  · simpa [World.holds] using held₁
  · simp [same₁, read]

/-- A refresh reads the record, or leaves the cached one where it is held back or fails to read. -/
theorem refresh_shows {look : Look} {e : Entry} (held : w.holds t id = true) (loaded : look.entry.loaded = true)
    (same : (w.entry t.machine id).record = look.entry.record) :
    (system setup).Ensures (others setup t) t (refresh id e) w fun trace _ w' =>
      Shows t id (sights t id (.cached look) trace) (.ok () : Except Err Unit) w' := by
  let Q (sight : Sight) (_ : Unit) (w' : World) := Shows t id sight (.ok () : Except Err Unit) w'
  unfold refresh
  refine ensures_seenCall (Q := Q) fun drift₁ w₁ c₁ now w₂ drifts₁ clocks => ?_
  cases clocks
  refine ensures_seenCall (Q := Q) fun drift₃ w₃ c₃ failedAt w₄ drifts₃ backs => ?_
  cases backs
  obtain ⟨held₁, same₁⟩ := drifts_entry drifts₁ held
  obtain ⟨held₃, same₃⟩ := drifts_entry drifts₃ held₁
  have record₃ : (w₃.entry t.machine id).record = look.entry.record := by rw [same₃, same₁, same]
  split
  · rename_i early
    refine ensures_ret ⟨held₃, Or.inr ⟨_, rfl, ?_, loaded, record₃⟩⟩
    simp [Look.bar, early]
  · refine ensures_seenCall (Q := Q) fun drift₅ w₅ c₅ generation w₆ drifts₅ counts => ?_
    cases counts
    refine ensures_seenCall (Q := Q) fun drift₇ w₇ c₇ ans w₈ drifts₇ reads => ?_
    obtain ⟨held₅, same₅⟩ := drifts_entry drifts₅ held₃
    obtain ⟨held₇, same₇⟩ := drifts_entry drifts₇ held₅
    have reads : exec setup t (.read id) c₇ w₇ = some (ans, w₈) := reads
    obtain ⟨-, ⟨rfl, fine, rfl⟩ | ⟨rfl, fault, rfl⟩⟩ := exec_read reads
    · rw [Sight.after_read fine]
      exact stamp_shows (by simpa [World.holds] using held₇) (by simp)
    · refine ensures_call fun drift₉ w₉ c₉ _ w₁₀ drifts₉ backs => ensures_ret ?_
      cases backs
      obtain ⟨held₉, same₉⟩ := drifts_entry drifts₉ held₇
      rw [sights_own drifts₉]
      have entry : ((w₉.setMachine t.machine
          { w₉.machine t.machine with refreshFailedAt := w₁.now t.machine }).entry t.machine id) =
          w₉.entry t.machine id := World.entry_setMachine _ _ _ _ rfl
      rw [Sight.after_failed fault]
      refine ⟨?_, Or.inr ⟨_, rfl, ?_, loaded, ?_⟩⟩
      · rw [World.holds_iff, entry]
        exact World.holds_iff.mp held₉
      · simp [Look.bar]
      · rw [entry, same₉, same₇, same₅]
        exact record₃

/-- Locking an entry again, after it was found without a record: it is read now, unless another task loaded it. -/
theorem lock_shows (vacant : sight.vacant = true) :
    (system setup).Ensures (others setup t) t (lock id).run w fun trace =>
      Shows t id (sights t id sight trace) := by
  unfold lock
  refine ensures_seen (Q := Shows t id) fun drift₁ w₁ c₁ _ w₂ drifts₁ locks => ?_
  obtain ⟨-, rfl⟩ := exec_lock locks
  rw [Sight.after_lock, vacant]
  generalize found : w₁.setEntry t.machine id { w₁.entry t.machine id with holder := some t } = w₂
  have held₂ : w₂.holds t id = true := by
    subst found
    simp [World.holds]
  have entry₂ : w₂.entry t.machine id = { w₁.entry t.machine id with holder := some t } := by
    subst found
    simp
  refine ensures_seen (Q := Shows t id) fun drift₃ w₃ c₃ e w₄ drifts₃ peeks => ?_
  obtain ⟨held₃, same₃⟩ := drifts_entry drifts₃ held₂
  obtain ⟨-, rfl, rfl⟩ := exec_peek peeks
  rw [entry₂] at same₃
  rw [same₃]
  by_cases loaded : (w₁.entry t.machine id).loaded = true
  · simp only [loaded, Bool.not_true, Bool.false_eq_true, if_false]
    exact ensures_ret ⟨held₃, Or.inr ⟨_, rfl, rfl, loaded, by rw [same₃]⟩⟩
  · have unloaded : (w₁.entry t.machine id).loaded = false := by simpa using loaded
    simp only [unloaded, Bool.not_false, if_true]
    unfold load
    refine ensures_seenRead (Q := Shows t id) fun drift₅ w₅ c₅ ans w₆ drifts₅ reads => ?_
    obtain ⟨held₅, -⟩ := drifts_entry drifts₅ held₃
    obtain ⟨-, ⟨rfl, fine, rfl⟩ | ⟨rfl, fault, rfl⟩⟩ := exec_read reads
    · rw [Sight.after_read fine]
      refine ensures_seen (Q := Shows t id) fun drift₇ w₇ c₇ now w₈ drifts₇ clocks => ?_
      refine ensures_seen (Q := Shows t id) fun drift₉ w₉ c₉ generation w₁₀ drifts₉ counts => ?_
      cases clocks
      cases counts
      have held₆ : w₇.holds t id = true ∧ _ := drifts_entry drifts₇ (by simpa [World.holds] using held₅)
      have held₈ := drifts_entry drifts₉ held₆.1
      exact ensures_lift (stamp_shows held₈.1 (by rw [held₈.2, held₆.2]; simp))
    · rw [Sight.after_failed fault]
      refine ensures_seen (Q := Shows t id) fun drift₇ w₇ c₇ _ w₈ _ _ => ?_
      exact ensures_ret ⟨_, rfl, unloaded⟩

/-- `lock_fresh` on a machine that is one of many: the record that was read was read meanwhile. -/
theorem lockFresh_shows (clustered : setup.clustered t.machine = true) :
    (system setup).Ensures (others setup t) t (lockFresh setup t.machine id).run w fun trace result w' =>
      Shows t id (sights t id sight trace) result w' ∧
        ∀ s, sights t id sight trace = .read s → ∃ moment ∈ trace, moment.1 = s := by
  unfold lockFresh
  simp only [clustered, Bool.not_true, Bool.false_eq_true, if_false]
  refine ensures_act fun drift w₁ c _ w₂ drifts locks => ?_
  refine ensures_mono (Q := fun rest result w' =>
    Shows t id (sights t id (.cached ⟨w₁.entry t.machine id, 0, sight.vacant⟩) rest) result w') ?_ ?_
  · obtain ⟨-, rfl⟩ := exec_lock locks
    refine ensures_seen (Q := Shows t id) fun drift₃ w₃ c₃ e w₄ drifts₃ peeks => ?_
    have held : (w₁.setEntry t.machine id { w₁.entry t.machine id with holder := some t }).holds t id = true := by
      simp [World.holds]
    obtain ⟨held₃, same₃⟩ := drifts_entry drifts₃ held
    obtain ⟨-, rfl, rfl⟩ := exec_peek peeks
    have entry : w₄.entry t.machine id = { w₁.entry t.machine id with holder := some t } := by simp [same₃]
    split
    · rename_i unloaded
      refine ensures_seen (Q := Shows t id) fun drift₅ w₅ c₅ _ w₆ _ _ => lock_shows ?_
      rw [entry] at unloaded
      exact unloaded
    · rename_i loaded
      have cached : (w₁.entry t.machine id).loaded = true := by
        rw [entry] at loaded
        simpa using loaded
      exact ensures_lift (refresh_shows held₃ cached (by rw [entry]))
  · intro rest result w' shows_
    rw [sights_own drifts, Sight.after_lock]
    refine ⟨shows_, fun s read => ?_⟩
    obtain ⟨moment, listed, same⟩ := (sights_read read).resolve_left (by simp)
    exact ⟨moment, List.mem_append_right _ (List.mem_cons_of_mem _ listed), same⟩

end Facts

end OpenTunnel
