/-
Module: OpenTunnel.Proofs.AttachAnswers
Layer: Proofs
Purpose: When an attach tells its client to give up. The answers `bad_token` and `cert_not_ready` are decided by the
  entry's record, which the attach reads again unless a refresh failed moments ago, the record was read moments
  ago, or the read fails: then it goes on with what is cached. A fatal answer is justified by the database at some
  moment of the attach, unless such a cached record is refused while the stored one is accepted all along.
Imports: OpenTunnel.Proofs.Consults, OpenTunnel.Proofs.Revisions
Trusted boundary: none (fully proved)
Main exports: lockForAttach_shows, attachLocked_ensures, Refused, RefusedStale, attach_ensures, attach_fatal_justified
Open obligations: none
-/
import OpenTunnel.Proofs.Consults
import OpenTunnel.Proofs.Revisions

namespace OpenTunnel

open Tasks Semantics

/-! ### Locking for an attach -/

section Attach

variable {setup : Setup} {t : Task} {id : TunnelId} {w w' : World}

/-- A record read moments ago is a loaded one. -/
theorem rereadAlarm_loaded {e : Entry} {generation now : Nat} {alarm : Option Nat}
    (recent : rereadAlarm e generation now = some alarm) : e.loaded = true := by
  unfold rereadAlarm at recent
  split at recent
  · split at recent
    · rename_i fresh
      exact fresh.1
    · cases recent
  · cases recent

/-- The stamp keeps the record that was read. -/
theorem stampFor_shows {α : Type} {stamp : Stamp} {a : α} {s : World} (held : w.holds t id = true)
    (read : (w.entry t.machine id).record = (s.db.stored id).1) :
    (system setup).Ensures (others setup t) t (do
        act (.stamp id stamp)
        pure a : Fallible α).run w fun trace =>
      Shows t id (sights t id (.read s) trace) := by
  refine ensures_seen (Q := Shows t id) fun drift w₁ c _ w₂ drifts stamps => ensures_ret ?_
  obtain ⟨held₁, same₁⟩ := drifts_entry drifts held
  obtain ⟨-, rfl⟩ := exec_stamp stamps
  refine ⟨?_, Or.inl ⟨s, rfl, ?_⟩⟩
  · simpa [World.holds] using held₁
  · simp [same₁, read]

/-- An attach reads the record, or goes on with the cached one where it is barred from the stored one. -/
theorem lockForAttach_shows (clustered : setup.clustered t.machine = true) (sight : Sight) :
    (system setup).Ensures (others setup t) t (lockForAttach setup t.machine id).run w fun trace =>
      Shows t id (sights t id sight trace) := by
  unfold lockForAttach
  simp only [clustered, Bool.not_true, Bool.false_eq_true, if_false]
  refine ensures_seen (Q := Shows t id) fun drift₁ w₁ c₁ _ w₂ drifts₁ locks => ?_
  obtain ⟨-, rfl⟩ := exec_lock locks
  rw [Sight.after_lock]
  -- from here on the entry is the task's
  generalize found : w₁.setEntry t.machine id { w₁.entry t.machine id with holder := some t } = w₂
  have held₂ : w₂.holds t id = true := by
    subst found
    simp [World.holds]
  have entry₂ : w₂.entry t.machine id = { w₁.entry t.machine id with holder := some t } := by
    subst found
    simp
  refine ensures_seen (Q := Shows t id) fun drift₃ w₃ c₃ e w₄ drifts₃ peeks => ?_
  obtain ⟨held₃, same₃⟩ := drifts_entry drifts₃ held₂
  obtain ⟨-, rfl, rfl⟩ := exec_peek peeks
  rw [same₃, entry₂]
  refine ensures_seen (Q := Shows t id) fun drift₅ w₅ c₅ now w₆ drifts₅ clocks => ?_
  cases clocks
  refine ensures_seen (Q := Shows t id) fun drift₇ w₇ c₇ failedAt w₈ drifts₇ backs => ?_
  cases backs
  obtain ⟨held₅, same₅⟩ := drifts_entry drifts₅ held₃
  obtain ⟨held₇, same₇⟩ := drifts_entry drifts₇ held₅
  have entry₇ : w₇.entry t.machine id = { w₁.entry t.machine id with holder := some t } := by
    rw [same₇, same₅, same₃, entry₂]
  dsimp only
  split
  · rename_i early
    rw [Bool.and_eq_true] at early
    refine ensures_ret ⟨held₇, Or.inr ⟨_, rfl, ?_, early.1, by rw [entry₇]; rfl⟩⟩
    simp [Look.bar, early.2]
  · refine ensures_seen (Q := Shows t id) fun drift₉ w₉ c₉ generation w₁₀ drifts₉ counts => ?_
    cases counts
    obtain ⟨held₉, same₉⟩ := drifts_entry drifts₉ held₇
    rw [entry₇] at same₉
    split
    · rename_i alarm recent
      refine ensures_ret ⟨held₉, Or.inr ⟨_, rfl, ?_, rereadAlarm_loaded recent, by rw [same₉]; rfl⟩⟩
      have fresh : rereadAlarm (w₁.entry t.machine id) (w₉.machine t.machine).generation (w₅.now t.machine) =
          some alarm := recent
      simp [Look.bar, fresh]
    · refine ensures_seenRead (Q := Shows t id) fun drift₁₁ w₁₁ c₁₁ ans w₁₂ drifts₁₁ reads => ?_
      obtain ⟨held₁₁, same₁₁⟩ := drifts_entry drifts₁₁ held₉
      obtain ⟨-, ⟨rfl, fine, rfl⟩ | ⟨rfl, fault, rfl⟩⟩ := exec_read reads
      · rw [Sight.after_read fine]
        have held := held₁₁
        cases (w₁₁.db.row id).map (·.alarmAt) with
        | none => exact stampFor_shows (by simpa [World.holds] using held) (by simp)
        | some alarm => exact stampFor_shows (by simpa [World.holds] using held) (by simp)
      · rw [Sight.after_failed fault]
        dsimp only
        split
        · rename_i loaded
          refine ensures_seen (Q := Shows t id) fun drift₁₃ w₁₃ c₁₃ _ w₁₄ drifts₁₃ backs => ensures_ret ?_
          cases backs
          obtain ⟨held₁₃, same₁₃⟩ := drifts_entry drifts₁₃ held₁₁
          have kept : (w₁₃.setMachine t.machine
              { w₁₃.machine t.machine with refreshFailedAt := w₅.now t.machine }).entry t.machine id =
              w₁₃.entry t.machine id := World.entry_setMachine _ _ _ _ rfl
          refine ⟨?_, Or.inr ⟨_, rfl, by simp [Look.bar], loaded, ?_⟩⟩
          · rw [World.holds_iff, kept]
            exact World.holds_iff.mp held₁₃
          · rw [kept, same₁₃, same₁₁, same₉]
            rfl
        · rename_i unloaded
          refine ensures_seen (Q := Shows t id) fun drift₁₃ w₁₃ c₁₃ _ w₁₄ drifts₁₃ unlocks => ?_
          have vacant : (w₁.entry t.machine id).loaded = false := by simpa using unloaded
          exact ensures_ret ⟨_, rfl, vacant⟩

/-- An act that leaves what the task saw as it is. -/
theorem ensures_silent {op : Act} {α : Type} {f : op.Ans → Fallible α} {P : Except Err α → Prop} (steady : op.Steady)
    (each : ∀ ans w₁, (system setup).Ensures (others setup t) t (f ans).run w₁ fun rest result _ =>
      ¬ rest.Any (Stirs setup) ∧ P result) :
    (system setup).Ensures (others setup t) t ((liftM (act op) : Fallible op.Ans) >>= f).run w
      fun trace result _ => ¬ trace.Any (Stirs setup) ∧ P result := by
  refine ensures_act fun drift w₁ c ans w₂ drifts _ => ensures_mono (each ans w₂) ?_
  rintro rest result _ ⟨quiet, holds⟩
  exact ⟨steady_own steady drifts quiet, holds⟩

def Fatal (result : Except Err Attach) : Prop :=
  ∃ code, result = .ok (.error code) ∧ isFatalAttachError code = true

theorem attachRefusal_fatal {record : Option StoredTunnel} {token code : String}
    (refused : attachRefusal setup record token = some code) : isFatalAttachError code = true := by
  unfold attachRefusal at refused
  split at refused
  · cases refused
    rfl
  · split at refused
    · cases refused
      rfl
    · split at refused
      · cases refused
        rfl
      · cases refused

section Locked

variable {b : BridgeId} {token : String} {routes : List String} {maxConns : Option Nat}
  {alarm : Option (Option Nat)}

/-- With the entry locked, the answer is fatal exactly when its record is refused. -/
theorem attachLocked_ensures (held : w.holds t id = true) :
    (system setup).Ensures (others setup t) t
      (attachLocked setup t.machine id b token routes maxConns alarm).run w fun trace result _ =>
        ¬ trace.Any (Stirs setup) ∧
          (Fatal result ↔ (attachRefusal setup (w.entry t.machine id).live token).isSome = true) := by
  have quiet : ¬ Trace.Any (Stirs setup) [] := Trace.any_nil _
  have fine (code : String) (is : isFatalAttachError code = false) : ¬ Fatal (.ok (.error code)) := by
    rintro ⟨code', same, fatal⟩
    cases same
    rw [is] at fatal
    cases fatal
  have attaches (w : World) : (system setup).Ensures (others setup t) t (do
      let now ← act .now
      let session := "sess_" ++ (← act .uuid)
      act (.attachBridge id b session routes maxConns now)
      return .attached session routes alarm : Fallible Attach).run w
      fun trace result _ => ¬ trace.Any (Stirs setup) ∧ ¬ Fatal result := by
    refine ensures_silent trivial fun now w₁ => ?_
    refine ensures_silent trivial fun name w₂ => ?_
    refine ensures_silent trivial fun _ w₃ => ensures_ret ⟨quiet, ?_⟩
    rintro ⟨code, same, -⟩
    cases same
  unfold attachLocked
  refine ensures_act fun drift w₁ c e w₂ drifts peeks => ?_
  obtain ⟨-, same⟩ := drifts_entry drifts held
  obtain ⟨-, rfl, rfl⟩ := exec_peek peeks
  rw [same]
  split
  · rename_i code refused
    refine ensures_ret ⟨steady_own trivial drifts quiet, ?_⟩
    rw [refused]
    exact ⟨fun _ => rfl, fun _ => ⟨code, rfl, attachRefusal_fatal refused⟩⟩
  · rename_i accepted
    rw [accepted]
    refine ensures_mono (Q := fun rest result _ => ¬ rest.Any (Stirs setup) ∧ ¬ Fatal result) ?_ ?_
    · split
      · exact ensures_ret ⟨quiet, fine _ rfl⟩
      refine ensures_silent trivial fun _ w₃ => ?_
      refine ensures_silent trivial fun bridges w₄ => ?_
      dsimp only
      split
      · exact ensures_ret ⟨quiet, fine _ rfl⟩
      split
      · exact ensures_ret ⟨quiet, fine _ rfl⟩
      split
      · refine ensures_silent trivial fun elsewhere w₅ => ?_
        split
        · exact ensures_ret ⟨quiet, fine _ rfl⟩
        · exact attaches w₅
      · exact attaches w₄
    · rintro rest result _ ⟨silent, harmless⟩
      exact ⟨steady_own trivial drifts silent, by simp [harmless]⟩

/-! ### Fatal answers -/

/-- The stored record is missing or deleted, has another token hash, or no ready certificate. -/
def Refused (setup : Setup) (id : TunnelId) (token : String) (w : World) : Prop :=
  (attachRefusal setup (w.db.live id) token).isSome = true

/-- The cached record is one that an attach with this token is refused by. -/
def Entry.Refuses (setup : Setup) (token : String) (e : Entry) : Prop :=
  (attachRefusal setup e.live token).isSome = true

/-- An attach is answered by the record it read meanwhile, or by the cached one where it was barred from reading. -/
theorem attach_ensures (clustered : setup.clustered t.machine = true) :
    (system setup).Ensures (others setup t) t (attach setup t.machine id b token routes maxConns).run w
      fun trace result _ =>
        Fatal result ↔
          (∃ s, sights t id .unlocked trace = .read s ∧ Refused setup id token s) ∨
            (sights t id .unlocked trace).Barred (Entry.Refuses setup token) := by
  unfold attach
  refine ensures_exceptBind (ensures_mono (lockForAttach_shows clustered .unlocked) ?_)
  intro first result w₁ shown
  cases result with
  | error err =>
      obtain ⟨look, seen, unloaded⟩ := shown
      rw [seen]
      constructor
      · rintro ⟨code, same, -⟩
        cases same
      · rintro (⟨s, read, -⟩ | ⟨look', same, -, loaded, -⟩)
        · cases read
        · cases same
          rw [unloaded] at loaded
          cases loaded
  | ok alarm =>
      obtain ⟨held, origin⟩ := shown
      refine ensures_bind (ensures_mono (attachLocked_ensures held) ?_)
      rintro body answer w₂ ⟨quiet, fatal⟩
      refine ensures_call fun drift w₃ c₃ _ w₄ drifts _ => ensures_ret ?_
      have steady : ¬ Trace.Any (Stirs setup) (drift ++ [(w₃, .own (.unlock id) c₃ ())]) :=
        steady_own trivial drifts (Trace.any_nil _)
      have same : (sights t id (sights t id .unlocked first) _).timeless = (sights t id .unlocked first).timeless :=
        sights_steady (steady_append quiet steady)
      rw [← sights_append] at same
      rw [Sight.Barred.congr same, fatal]
      simp only [← timeless_read (sights t id .unlocked (first ++ _)), same]
      rcases origin with ⟨s, seen, stored⟩ | ⟨look, seen, barred, loaded, stored⟩
      · rw [live_of_stored stored, seen]
        constructor
        · exact fun refused => Or.inl ⟨s, rfl, refused⟩
        · rintro (⟨s', read, refused⟩ | ⟨look, cached, -⟩)
          · cases read
            exact refused
          · cases cached
      · have live : (w₁.entry t.machine id).live = look.entry.live := by
          unfold Entry.live
          rw [stored]
        rw [live, seen]
        constructor
        · exact fun refused => Or.inr ⟨look, rfl, barred, loaded, refused⟩
        · rintro (⟨s', read, -⟩ | ⟨look', cached, -, -, refused⟩)
          · cases read
          · cases cached
            exact refused

/-- All of these at once: when the attach took the entry's lock, a record was cached by which it is refused; a refresh
    failed moments ago, or the record was read moments ago, or the read failed; and the stored record is one that is
    not refused, at every moment of the attach. -/
structure RefusedStale (setup : Setup) (t : Task) (id : TunnelId) (token : String) (trace : (system setup).Trace) :
    Prop where
  cached : (sights t id .unlocked trace).Barred (Entry.Refuses setup token)
  accepted : ∀ moment ∈ trace, ¬ Refused setup id token moment.1

/-- For every execution of an attach on a machine that is one of many: a fatal answer is justified by the stored record
    at some moment of the attach, if and only if the cached record was not refused while the attach was barred from the
    stored one and the stored one was accepted all along. -/
theorem attach_fatal_justified (clustered : setup.clustered t.machine = true) {w' : World}
    {trace : (system setup).Trace} {result : Except Err Attach}
    (run : (system setup).Runs (others setup t) t (attach setup t.machine id b token routes maxConns).run
      w trace result w') :
    (Fatal result → ∃ moment ∈ trace, Refused setup id token moment.1) ↔ ¬ RefusedStale setup t id token trace := by
  have answered := attach_ensures clustered trace result w' run
  constructor
  · intro justified stale
    obtain ⟨moment, listed, refused⟩ := justified (answered.mpr (Or.inr stale.cached))
    exact stale.accepted moment listed refused
  · intro fresh fatal
    rcases answered.mp fatal with ⟨s, read, refused⟩ | cached
    · obtain ⟨moment, listed, rfl⟩ := (sights_read read).resolve_left (by simp)
      exact ⟨moment, listed, refused⟩
    · by_cases justified : ∃ moment ∈ trace, Refused setup id token moment.1
      · exact justified
      · exact absurd ⟨cached, fun moment listed refused => justified ⟨moment, listed, refused⟩⟩ fresh

end Locked

end Attach

/-- An attach with another token, which reads the record: `bad_token` is justified. -/
theorem attach_fatal_justified_token :
    ∃ trace w', (system (Sample.setup true)).Runs (others (Sample.setup true) ⟨"m1", 1⟩) ⟨"m1", 1⟩
        (attach (Sample.setup true) "m1" "a" 1 "guess" ["@"] none).run
        (Sample.world (Sample.db [Sample.tunnel "2027-04-15T08:00:00.000Z"])) trace
        (.ok (.error "bad_token")) w' ∧
      ((Fatal (.ok (.error "bad_token")) → ∃ moment ∈ trace, Refused (Sample.setup true) "a" "guess" moment.1) ↔
        ¬ RefusedStale (Sample.setup true) ⟨"m1", 1⟩ "a" "guess" trace) := by
  have performed : ((system (Sample.setup true)).perform ⟨"m1", 1⟩
      (attach (Sample.setup true) "m1" "a" 1 "guess" ["@"] none).run (List.replicate 9 Sample.plain)
      (Sample.world (Sample.db [Sample.tunnel "2027-04-15T08:00:00.000Z"]))).map (fun done => done.2.1) =
      some (.ok (.error "bad_token")) := by decide
  obtain ⟨⟨trace, result, w'⟩, ran, same⟩ := Option.map_eq_some_iff.mp performed
  cases same
  have run := runs_of_perform (R := others (Sample.setup true) ⟨"m1", 1⟩) ran
  exact ⟨trace, w', run, attach_fatal_justified (t := ⟨"m1", 1⟩) rfl run⟩

/-- The operations before `stale_attach_fatal`: one machine reads the record, the other makes its certificate ready. -/
def Sample.readying (t : Task) : Operation :=
  if t.machine = "m2" then .info "a"
  else .updateCertificate "a" "cert_1" (.ready "certificate" "chain" "2027-04-15T08:00:00.000Z")

/-- A machine that read the record before another one made its certificate ready, a minute later: the attach's own
    read fails, and the client is told `cert_not_ready` although the stored certificate is ready all along. -/
theorem stale_attach_fatal :
    ∃ cfg trace w', (system (Sample.setup true)).Reach (running (Sample.setup true) Sample.readying)
        (idle (Sample.world (Sample.db [{ Sample.tunnel "" with certificate := some ⟨"cert_1", .issuing⟩ }]))) cfg ∧
      (system (Sample.setup true)).Runs (others (Sample.setup true) ⟨"m2", 2⟩) ⟨"m2", 2⟩
        (attach (Sample.setup true) "m2" "a" 1 "secret" ["@"] none).run cfg.shared trace
        (.ok (.error "cert_not_ready")) w' ∧
      Fatal (.ok (.error "cert_not_ready")) ∧
      ∀ moment ∈ trace, ¬ Refused (Sample.setup true) "a" "secret" moment.1 := by
  let reader : Task := ⟨"m2", 1⟩
  let writer : Task := ⟨"m1", 1⟩
  have played : (play (running (Sample.setup true) Sample.readying)
      (.start reader (Sample.readying reader) :: Sample.calls _ reader (List.replicate 11 Sample.plain) ++
        .start writer (Sample.readying writer) :: Sample.calls _ writer (List.replicate 16 Sample.plain) ++
        [.move (.clocks fun _ => 1800000060000)])
      (idle (Sample.world
        (Sample.db [{ Sample.tunnel "" with certificate := some ⟨"cert_1", .issuing⟩ }])))).bind (fun cfg =>
      ((system (Sample.setup true)).perform ⟨"m2", 2⟩
        (attach (Sample.setup true) "m2" "a" 1 "secret" ["@"] none).run
        (List.replicate 5 Sample.plain ++ Sample.failing :: List.replicate 3 Sample.plain) cfg.shared).map fun done =>
          (done.2.1, done.1.all fun moment =>
            (attachRefusal (Sample.setup true) (moment.1.db.live "a") "secret").isNone)) =
      some (.ok (.error "cert_not_ready"), true) := by decide
  obtain ⟨cfg, ran, rest⟩ := Option.bind_eq_some_iff.mp played
  obtain ⟨⟨trace, result, w'⟩, performed, seen⟩ := Option.map_eq_some_iff.mp rest
  obtain ⟨rfl, accepted⟩ := Prod.mk.inj seen
  refine ⟨cfg, trace, w', reach_of_play ran, runs_of_perform performed, ⟨_, rfl, rfl⟩, ?_⟩
  intro moment listed refused
  have none_ := List.all_eq_true.mp accepted moment listed
  unfold Refused at refused
  rw [Option.isNone_iff_eq_none] at none_
  rw [none_] at refused
  cases refused

end OpenTunnel
