/-
Module: OpenTunnel.Proofs.Abandonment
Layer: Proofs
Purpose: When the job runner gives up a certificate nobody wants. It asks the tunnel's record before the order, when it
  shows the challenge, when it records the certificate and after a failure; the record is read again each time,
  unless a refresh failed moments ago or the read fails: then the cached one decides. A job is dropped without
  cause exactly when such a cached record decided, or the certificate authority's error reads like the runner's own.
Imports: OpenTunnel.Proofs.Consults, OpenTunnel.Proofs.Revisions
Trusted boundary: none (fully proved)
Main exports: Drops, Loses, Misleads, untilAsked, Outcome, Misled, MisledAbout, execute_ensures, job_dropped_justified
Open obligations: none
-/
import OpenTunnel.Proofs.Consults
import OpenTunnel.Proofs.Revisions

namespace OpenTunnel

open Tasks Semantics

/-! ### The events of an execution -/

section Events

variable (setup : Setup)

/-- The runner finishes a job as abandoned, or drops an issued certificate (`issued certificate is no longer wanted`). -/
def Drops (_ : World) : (system setup).Label → Prop
  | .own (.finishJob _ .abandoned _ _) _ _ => True
  | .own (.unwanted _) _ _ => True
  | _ => False

/-- The runner asks for its lease when the job's row is not its own any more, and is answered. -/
def Loses (t : Task) (w : World) : (system setup).Label → Prop
  | .own (.extendLease c _) choice _ => Choice.fault choice = .none ∧
      (w.db.job c).any (fun row => row.leaseOwner = some t.machine && row.status = .pending) = false
  | _ => False

/-- The runner asks when to try again. -/
def Asks (_ : World) : (system setup).Label → Prop
  | .own .nextAttempt _ _ => True
  | _ => False

/-- An error of the order that reads like the runner's own `PERSIST_FAILED`. -/
def IssueError.misleads (err : IssueError) : Prop := err.stopped = false ∧ containsText err.text persistFailed = true

/-- The certificate authority answers such an error. -/
def Misleads (_ : World) : (system setup).Label → Prop
  | .own (.placeOrder ..) _ (.error err) => err.misleads
  | .own .completeOrder _ (.error err) => err.misleads
  | _ => False

/-- None of these happens. -/
structure Idle (t : Task) (trace : (system setup).Trace) : Prop where
  drops : ¬ trace.Any (Drops setup)
  loses : ¬ trace.Any (Loses setup t)
  asks : ¬ trace.Any (Asks setup)
  misleads : ¬ trace.Any (Misleads setup)

/-- The acts of which none is any of these. -/
def Act.Idle : Act → Prop
  | .finishJob .. => False
  | .unwanted _ => False
  | .extendLease .. => False
  | .nextAttempt => False
  | .placeOrder .. => False
  | .completeOrder => False
  | _ => True

/-- The same, of a task that keeps the entry it locked and the record it has. -/
def Act.Still : Act → Prop
  | .lock _ => False
  | .read _ => False
  | .refreshFailedAt => False
  | .generation => False
  | op => op.Idle

end Events

section Pieces

variable {setup : Setup} {R : World → World → Prop} {t : Task} {id : TunnelId} {w w' : World} {α : Type}
  {trace first rest : (system setup).Trace}

theorem Idle.nil : Idle setup t [] :=
  ⟨Trace.any_nil _, Trace.any_nil _, Trace.any_nil _, Trace.any_nil _⟩

theorem Idle.append (before : Idle setup t first) (after : Idle setup t rest) : Idle setup t (first ++ rest) where
  drops := by simp [before.drops, after.drops]
  loses := by simp [before.loses, after.loses]
  asks := by simp [before.asks, after.asks]
  misleads := by simp [before.misleads, after.misleads]

theorem Idle.of_drifts (drifts : (system setup).Drifts R w trace w') : Idle setup t trace where
  drops := drifts.none fun _ holds => holds
  loses := drifts.none fun _ holds => holds
  asks := drifts.none fun _ holds => holds
  misleads := drifts.none fun _ holds => holds

theorem Idle.of_acts {p : Call α} (acts : Prog.All Act.Idle p) {a : α} (run : (system setup).Runs R t p w trace a w') :
    Idle setup t trace := by
  refine ⟨?_, ?_, ?_, ?_⟩
  · refine run.none acts (fun _ holds => holds) fun _ op _ _ holds idle => ?_
    cases op with
    | finishJob => exact idle
    | unwanted => exact idle
    | _ => exact holds
  · refine run.none acts (fun _ holds => holds) fun _ op _ _ holds idle => ?_
    cases op with
    | extendLease => exact idle
    | _ => exact holds
  · refine run.none acts (fun _ holds => holds) fun _ op _ _ holds idle => ?_
    cases op with
    | nextAttempt => exact idle
    | _ => exact holds
  · refine run.none acts (fun _ holds => holds) fun _ op _ _ holds idle => ?_
    cases op with
    | placeOrder => exact idle
    | completeOrder => exact idle
    | _ => exact holds

theorem Act.Still.idle {op : Act} (still : op.Still) : op.Idle := by
  cases op with
  | lock => exact still.elim
  | read => exact still.elim
  | refreshFailedAt => exact still.elim
  | generation => exact still.elim
  | _ => exact still

theorem Act.Still.steady {op : Act} (still : op.Still) : op.Steady := by
  cases op with
  | lock => exact still
  | read => exact still
  | refreshFailedAt => exact still
  | generation => exact still
  | _ => trivial

/-! ### Acts of the functions that consult a record -/

instance : Unlocks Act.Idle := ⟨fun _ => trivial⟩

instance : Unlocks Act.Still := ⟨fun _ => trivial⟩

instance lock_idle : ObeysE Act.Idle (lock id) := by
  unfold lock load
  exact .of_rules

instance lockFresh_idle {m : MachineId} : ObeysE Act.Idle (lockFresh setup m id) := by
  unfold lockFresh refresh
  exact .of_rules

instance scheduleRenewal_still {record : StoredTunnel} : ObeysE Act.Still (scheduleRenewal setup record) := by
  unfold scheduleRenewal
  exact .of_rules

instance updateRenewal_still {renewal : Renewal} {input : CertificateState} {now : Nat} :
    ObeysE Act.Still (updateRenewal setup id renewal input now) := by
  unfold updateRenewal
  exact .of_rules

instance updateCurrent_still {c : CertificateId} {input : CertificateState} :
    ObeysE Act.Still (updateCurrent setup id c input) := by
  unfold updateCurrent
  exact .of_rules

/-! ### Errors of the storage -/

/-- An error of the storage, which has a fixed text. -/
def Err.plain : Err → Prop
  | .message _ => False
  | _ => True

theorem Err.plain.text {err : Err} (plain : err.plain) : containsText err.text persistFailed = false := by
  cases err with
  | conflict => decide +kernel
  | unavailable => decide +kernel
  | contended => decide +kernel
  | message text => exact plain.elim

theorem Choice.error_plain (c : Choice) : c.error.plain := by
  unfold Choice.error
  split <;> trivial

/-- The program returns errors of the storage only. -/
class PlainE {α : Type} (p : Fallible α) : Prop where
  plain : ∀ (setup : Setup) (R : World → World → Prop) (t : Task) (w : World),
    (system setup).Ensures R t p.run w fun _ result _ => ∀ err, result = .error err → err.plain

end Pieces

section Plain

variable {α β : Type} {id : TunnelId}

theorem plain_bind {p : Fallible α} {f : α → Fallible β} (first : PlainE p) (rest : ∀ a, PlainE (f a)) :
    PlainE (p >>= f) where
  plain := by
    intro setup R t w
    refine ensures_exceptBind (ensures_mono (first.plain setup R t w) ?_)
    intro trace result mid plain
    cases result with
    | ok a => exact (rest a).plain setup R t mid
    | error err =>
        intro err' same
        cases same
        exact plain err rfl

instance plain_pure (a : α) : PlainE (pure a : Fallible α) where
  plain := by
    intro setup R t w
    refine ensures_ret fun err same => ?_
    cases same

instance plain_lift (p : Call α) : PlainE (liftM p : Fallible α) where
  plain := by
    intro setup R t w
    refine ensures_lift fun trace a w' _ err same => ?_
    cases same

theorem plain_holding {body : Fallible α} (within : PlainE body) : PlainE (holding id body) where
  plain := by
    intro setup R t w
    refine ensures_bind (ensures_mono (within.plain setup R t w) ?_)
    intro trace result mid plain
    exact ensures_call fun _ _ _ _ _ _ _ => ensures_ret plain

instance plain_save {change : Change} : PlainE (fallible (act (.save id change))) where
  plain := by
    intro setup R t w
    refine ensures_call fun drift w₁ c ans w₂ _ saves => ensures_ret ?_
    have saves : exec setup t (.save id change) c w₁ = some (ans, w₂) := saves
    obtain ⟨record, -, -, -, ⟨-, is, -⟩ | ⟨-, is, -⟩ | ⟨-, is, -⟩ | ⟨_, _, -, is, -⟩⟩ := exec_save saves
    · rintro err rfl
      cases is
      exact c.error_plain
    · rintro err rfl
      cases is
      exact c.error_plain
    · rintro err rfl
      cases is
      trivial
    · rintro err rfl
      cases is

instance plain_setAlarm {at_ : Option Nat} : PlainE (fallible (act (.setAlarm id at_))) where
  plain := by
    intro setup R t w
    refine ensures_call fun drift w₁ c ans w₂ _ sets => ensures_ret ?_
    have sets : exec setup t (.setAlarm id at_) c w₁ = some (ans, w₂) := sets
    simp only [exec] at sets
    obtain ⟨-, sent⟩ := World.onRow_spec sets
    rcases World.write_spec sent with ⟨-, is, -⟩ | ⟨-, is, -⟩ | ⟨-, is, -⟩
    · rintro err rfl
      cases is
    · rintro err rfl
      cases is
      exact c.error_plain
    · rintro err rfl
      cases is
      exact c.error_plain

/-- Through every branch, by the rules above: the default proof of the hypothesis. -/
theorem PlainE.of_rules {p : Fallible α}
    (plain : PlainE p := by
      repeat' first
        | dsimp only
        | split
        | infer_instance
        | apply plain_bind
        | apply plain_holding
        | intro _) : PlainE p := plain

instance load_plain : PlainE (load id) where
  plain := by
    intro setup R t w
    unfold load
    refine ensures_attempt (ensures_call fun drift w₁ c ans w₂ _ reads => ensures_ret ?_)
    have reads : exec setup t (.read id) c w₁ = some (ans, w₂) := reads
    obtain ⟨-, ⟨rfl, -, -⟩ | ⟨rfl, -, -⟩⟩ := exec_read reads
    · exact (PlainE.of_rules : PlainE _).plain setup R t w₂
    · refine ensures_act fun _ _ _ _ _ _ _ => ensures_ret ?_
      intro err same
      cases same
      exact c.error_plain

instance lock_plain : PlainE (lock id) := by
  unfold lock
  exact .of_rules

instance lockFresh_plain {setup : Setup} {m : MachineId} : PlainE (lockFresh setup m id) := by
  unfold lockFresh
  exact .of_rules

instance scheduleRenewal_plain {setup : Setup} {record : StoredTunnel} : PlainE (scheduleRenewal setup record) := by
  unfold scheduleRenewal
  exact .of_rules

instance updateRenewal_plain {setup : Setup} {renewal : Renewal} {input : CertificateState} {now : Nat} :
    PlainE (updateRenewal setup id renewal input now) := by
  unfold updateRenewal
  exact .of_rules

instance updateCurrent_plain {setup : Setup} {c : CertificateId} {input : CertificateState} :
    PlainE (updateCurrent setup id c input) := by
  unfold updateCurrent
  exact .of_rules

end Plain

/-! ### Consulting the record -/

/-- The stored record is missing or deleted, or names another certificate. -/
def Unwanted (id : TunnelId) (c : CertificateId) (w : World) : Prop := (w.db.live id).any (·.wants c) = false

/-- The record does not want the certificate. -/
def Entry.Unwants (c : CertificateId) (e : Entry) : Prop := e.live.any (·.wants c) = false

/-- What it takes for a record to have answered whether the certificate is wanted: one that does not was cached while
    the task was barred from the stored one, or the stored one did not at some moment. -/
def Judged (setup : Setup) (t : Task) (id : TunnelId) (c : CertificateId) (trace : (system setup).Trace)
    (wanted : Bool) : Prop :=
  ∀ sight, (wanted = true → ¬ (sights t id sight trace).Barred (Entry.Unwants c)) ∧
    (wanted = false → (sights t id sight trace).Barred (Entry.Unwants c) ∨ ∃ moment ∈ trace, Unwanted id c moment.1)

section Consult

variable {setup : Setup} {t : Task} {id : TunnelId} {c : CertificateId} {w w' : World} {α : Type}
  {trace rest : (system setup).Trace}

theorem Judged.steady {wanted : Bool} (judged : Judged setup t id c trace wanted) (steady : ¬ rest.Any (Stirs setup)) :
    Judged setup t id c (trace ++ rest) wanted := by
  intro sight
  have same : (sights t id (sights t id sight trace) rest).timeless = (sights t id sight trace).timeless :=
    sights_steady steady
  rw [← sights_append] at same
  rw [Sight.Barred.congr same]
  refine ⟨(judged sight).1, fun unwanted => ?_⟩
  rcases (judged sight).2 unwanted with stale | ⟨moment, listed, unwanted⟩
  · exact Or.inl stale
  · exact Or.inr ⟨moment, List.mem_append_left _ listed, unwanted⟩

/-- What a task holds once it consulted the record, whatever it saw before. -/
def Consults (setup : Setup) (t : Task) (id : TunnelId) (trace : (system setup).Trace) (result : Except Err α)
    (w' : World) : Prop :=
  ∀ sight, Shows t id (sights t id sight trace) result w' ∧
    ∀ s, sights t id sight trace = .read s → ∃ moment ∈ trace, moment.1 = s

theorem lockFresh_consults (clustered : setup.clustered t.machine = true) :
    (system setup).Ensures (others setup t) t (lockFresh setup t.machine id).run w (Consults setup t id) :=
  fun trace result w' run _ => lockFresh_shows clustered trace result w' run

/-- Once the entry is locked, its record answers: one that was read, or a cached one. -/
theorem Consults.judged {a : α} (consulted : Consults setup t id trace (.ok a) w') :
    w'.holds t id = true ∧ Judged setup t id c trace ((w'.entry t.machine id).live.any (·.wants c)) := by
  refine ⟨(consulted .unlocked).1.1, fun sight => ?_⟩
  obtain ⟨⟨-, origin⟩, read⟩ := consulted sight
  rcases origin with ⟨s, seen, same⟩ | ⟨look, seen, barred, loaded, same⟩
  · rw [live_of_stored same]
    refine ⟨?_, fun unwanted => ?_⟩
    · rintro - ⟨look, cached, -⟩
      rw [seen] at cached
      cases cached
    · obtain ⟨moment, listed, rfl⟩ := read s seen
      exact Or.inr ⟨moment, listed, unwanted⟩
  · have live : (w'.entry t.machine id).live = look.entry.live := by
      unfold Entry.live
      rw [same]
    rw [live, seen]
    refine ⟨?_, fun unwanted => Or.inl ⟨look, rfl, barred, loaded, unwanted⟩⟩
    rintro wants ⟨_, is, -, -, unwanted⟩
    cases is
    rw [Entry.Unwants, wants] at unwanted
    cases unwanted

/-- An entry that could not be loaded answers nothing. -/
theorem Consults.failed {err : Err} (consulted : Consults setup t id (α := α) trace (.error err) w') :
    Judged setup t id c trace true := by
  intro sight
  obtain ⟨⟨look, seen, unloaded⟩, -⟩ := consulted sight
  refine ⟨?_, fun wants => by cases wants⟩
  rintro - ⟨_, is, -, loaded, -⟩
  rw [seen] at is
  cases is
  rw [unloaded] at loaded
  cases loaded

/-- A function that locks the entry and answers by its record. -/
theorem consult_ensures (clustered : setup.clustered t.machine = true) (c : CertificateId) {f : Entry → Fallible α}
    {P : Entry → Except Err α → Prop} (still : ∀ e, ObeysE Act.Still (f e))
    (answers : ∀ e w, (system setup).Ensures (others setup t) t (f e).run w fun _ result _ => P e result) :
    (system setup).Ensures (others setup t) t (do
      lockFresh setup t.machine id
      holding id do
        let e ← act (.peek id)
        f e : Fallible α).run w fun trace result _ =>
      (∃ err, result = .error err ∧ err.plain ∧ Judged setup t id c trace true) ∨
        ∃ e, P e result ∧ Judged setup t id c trace (e.live.any (·.wants c)) := by
  have locks : (system setup).Ensures (others setup t) t (lockFresh setup t.machine id).run w _ :=
    ensures_and (lockFresh_consults clustered) (PlainE.plain setup (others setup t) t w)
  refine ensures_exceptBind (ensures_mono locks ?_)
  rintro first result w₁ ⟨locked, plain⟩
  cases result with
  | error err => exact Or.inl ⟨err, rfl, plain err rfl, locked.failed⟩
  | ok _ =>
      obtain ⟨held, judged⟩ := locked.judged (c := c)
      refine ensures_bind (ensures_act fun drift w₂ choice e w₃ drifts peeks => ?_)
      obtain ⟨-, same⟩ := drifts_entry drifts held
      obtain ⟨-, rfl, rfl⟩ := exec_peek peeks
      rw [same]
      intro body result w₄ ran
      refine ensures_call fun drift₂ w₅ choice₂ _ w₆ drifts₂ _ => ensures_ret (Or.inr ⟨_, answers _ _ body result w₄ ran, ?_⟩)
      refine judged.steady (steady_append ?_ (steady_own trivial drifts₂ (Trace.any_nil _)))
      exact steady_own trivial drifts (steady_runs ((still _).all.mono fun _ acts => acts.steady) ran)

/-- The answer of a function that asks whether the certificate is wanted. -/
def Answered (setup : Setup) (t : Task) (id : TunnelId) (c : CertificateId) (trace : (system setup).Trace)
    (result : Except Err Bool) : Prop :=
  (∃ err, result = .error err ∧ err.plain ∧ Judged setup t id c trace true) ∨
    ∃ wanted, result = .ok wanted ∧ Judged setup t id c trace wanted

instance scheduleRenewal_idle {record : StoredTunnel} : ObeysE Act.Idle (scheduleRenewal setup record) :=
  ⟨scheduleRenewal_still.all.mono fun _ still => still.idle⟩

instance updateRenewal_idle {renewal : Renewal} {input : CertificateState} {now : Nat} :
    ObeysE Act.Idle (updateRenewal setup id renewal input now) :=
  ⟨updateRenewal_still.all.mono fun _ still => still.idle⟩

instance updateCurrent_idle {input : CertificateState} : ObeysE Act.Idle (updateCurrent setup id c input) :=
  ⟨updateCurrent_still.all.mono fun _ still => still.idle⟩

instance wantsCertificate_idle {m : MachineId} : ObeysE Act.Idle (wantsCertificate setup m id c) := by
  unfold wantsCertificate
  exact .of_rules

instance updateCertificate_idle {m : MachineId} {input : CertificateState} :
    ObeysE Act.Idle (updateCertificate setup m id c input) := by
  unfold updateCertificate
  exact .of_rules

theorem wantsCertificate_answers (clustered : setup.clustered t.machine = true) :
    (system setup).Ensures (others setup t) t (wantsCertificate setup t.machine id c).run w fun trace result _ =>
      Answered setup t id c trace result := by
  unfold wantsCertificate
  refine ensures_mono (consult_ensures (P := fun e result => result = .ok (e.live.any (·.wants c))) clustered c
    (fun e => .of_rules) fun e w => ensures_ret rfl) ?_
  rintro trace result w' (failed | ⟨e, rfl, judged⟩)
  · exact Or.inl failed
  · exact Or.inr ⟨_, rfl, judged⟩

/-- A part that records a wanted certificate: it answers so, or fails by the storage. -/
theorem ensures_recorded {p : Fallible Unit} (plain : PlainE p) {record : StoredTunnel} (wants : record.wants c = true) :
    (system setup).Ensures (others setup t) t (p >>= fun _ => pure true : Fallible Bool).run w fun _ result _ =>
      (∃ err, result = .error err ∧ err.plain ∧ (some record).any (·.wants c) = true) ∨
        result = .ok ((some record).any (·.wants c)) := by
  refine ensures_exceptBind (ensures_mono (plain.plain setup (others setup t) t w) ?_)
  intro trace result mid errs
  cases result with
  | error err => exact Or.inl ⟨err, rfl, errs err rfl, wants⟩
  | ok _ => exact ensures_ret (Or.inr (congrArg Except.ok wants.symm))

/-- Progress is recorded for a certificate that is wanted, and refused otherwise. -/
theorem updateCertificate_answers (clustered : setup.clustered t.machine = true) {input : CertificateState} :
    (system setup).Ensures (others setup t) t (updateCertificate setup t.machine id c input).run w
      fun trace result _ => Answered setup t id c trace result := by
  unfold updateCertificate
  refine ensures_mono (consult_ensures (P := fun e result =>
    (∃ err, result = .error err ∧ err.plain ∧ e.live.any (·.wants c) = true) ∨
      result = .ok (e.live.any (·.wants c))) clustered c (fun e => .of_rules) fun e w => ?_) ?_
  · cases live : e.live with
    | none => exact ensures_ret (Or.inr rfl)
    | some record =>
        refine ensures_act fun _ _ _ now w₁ _ _ => ?_
        split
        · rename_i renewal current
          obtain ⟨found, same⟩ := Option.filter_eq_some_iff.mp current
          refine ensures_recorded updateRenewal_plain ?_
          simp [StoredTunnel.wants, found, same]
        · rename_i other
          have unrenewed : record.renewal.any (fun renewal => renewal.certificateId == c) = false := by
            cases found : record.renewal with
            | none => rfl
            | some renewal => simpa [found, Option.filter] using other
          split
          · rename_i unnamed
            refine ensures_ret (Or.inr ?_)
            simp [StoredTunnel.wants, unrenewed, unnamed]
          · rename_i named
            refine ensures_recorded updateCurrent_plain ?_
            have current : record.certificateId = some c := by simpa using named
            simp [StoredTunnel.wants, current]
  · rintro trace result w' (failed | ⟨e, ⟨err, rfl, plain, wants⟩ | rfl, judged⟩)
    · exact Or.inl failed
    · rw [wants] at judged
      exact Or.inl ⟨err, rfl, plain, judged⟩
    · exact Or.inr ⟨_, rfl, judged⟩

end Consult

/-! ### The execution of a job -/

section Execute

variable (setup : Setup) (t : Task) (job : Job)

/-- The task did not come to go by a cached record that does not want the certificate. -/
def Trusted (trace : (system setup).Trace) : Prop :=
  ∀ id, job.tunnel = some id → ∀ sight : Sight, ¬ sight.Barred (Entry.Unwants job.certificateId) →
    ¬ (sights t id sight trace).Barred (Entry.Unwants job.certificateId)

/-- The certificate was found unwanted: in the cache, or in the database. -/
def Doubted (trace : (system setup).Trace) : Prop :=
  ∃ id, job.tunnel = some id ∧ ∀ sight, (sights t id sight trace).Barred (Entry.Unwants job.certificateId) ∨
    ∃ moment ∈ trace, Unwanted id job.certificateId moment.1

/-- Nothing that ends the execution has happened. -/
structure Open (trace : (system setup).Trace) : Prop where
  drops : ¬ trace.Any (Drops setup)
  loses : ¬ trace.Any (Loses setup t)
  asks : ¬ trace.Any (Asks setup)

/-- Nothing speaks against the certificate so far. -/
structure Sound (trace : (system setup).Trace) : Prop extends Open setup t trace where
  misleads : ¬ trace.Any (Misleads setup)
  trusted : Trusted setup t job trace

/-- The part of an execution in which the job may be dropped: until the runner asks when to try again. What it is told
    of the record after that, when it records the failure, changes nothing. -/
def untilAsked : (system setup).Trace → (system setup).Trace
  | [] => []
  | (_, .own .nextAttempt _ _) :: _ => []
  | moment :: rest => moment :: untilAsked rest

/-- The job is dropped because the certificate was found unwanted or the order's error said so, or it is not dropped
    and the lease was lost or none of this came to pass. -/
def Outcome (trace : (system setup).Trace) : Prop :=
  (trace.Any (Drops setup) ∧ ¬ trace.Any (Loses setup t) ∧ ¬ trace.Any (Asks setup) ∧
    (Doubted setup t job trace ∨ trace.Any (Misleads setup))) ∨
  (¬ trace.Any (Drops setup) ∧ (trace.Any (Loses setup t) ∨
    (Trusted setup t job (untilAsked setup trace) ∧ ¬ (untilAsked setup trace).Any (Misleads setup))))

variable {setup t job} {w w' : World} {first rest : (system setup).Trace} {α : Type}

theorem Trusted.append (before : Trusted setup t job first) (after : Trusted setup t job rest) :
    Trusted setup t job (first ++ rest) := by
  intro id tunnel sight fine
  rw [sights_append]
  exact after id tunnel _ (before id tunnel sight fine)

theorem Trusted.of_steady (steady : ¬ rest.Any (Stirs setup)) : Trusted setup t job rest := by
  intro id _ sight fine
  rw [Sight.Barred.congr (sights_steady steady)]
  exact fine

theorem Doubted.after (doubted : Doubted setup t job rest) : Doubted setup t job (first ++ rest) := by
  obtain ⟨id, tunnel, found⟩ := doubted
  refine ⟨id, tunnel, fun sight => ?_⟩
  rw [sights_append]
  rcases found (sights t id sight first) with stale | ⟨moment, listed, unwanted⟩
  · exact Or.inl stale
  · exact Or.inr ⟨moment, List.mem_append_right _ listed, unwanted⟩

theorem Doubted.before (doubted : Doubted setup t job first) (steady : ¬ rest.Any (Stirs setup)) :
    Doubted setup t job (first ++ rest) := by
  obtain ⟨id, tunnel, found⟩ := doubted
  refine ⟨id, tunnel, fun sight => ?_⟩
  rw [sights_append, Sight.Barred.congr (sights_steady steady)]
  rcases found sight with stale | ⟨moment, listed, unwanted⟩
  · exact Or.inl stale
  · exact Or.inr ⟨moment, List.mem_append_left _ listed, unwanted⟩

theorem untilAsked_append (unasked : ¬ first.Any (Asks setup)) :
    untilAsked setup (first ++ rest) = first ++ untilAsked setup rest := by
  induction first with
  | nil => rfl
  | cons moment first ih =>
      obtain ⟨s, label⟩ := moment
      rw [Trace.any_cons, not_or] at unasked
      have later := ih unasked.2
      rw [List.cons_append, List.cons_append, ← later]
      cases label with
      | other => rfl
      | own op c ans =>
          cases op with
          | nextAttempt => exact absurd trivial unasked.1
          | _ => rfl

theorem untilAsked_open (unasked : ¬ first.Any (Asks setup)) : untilAsked setup first = first := by
  have whole : untilAsked setup (first ++ []) = first ++ untilAsked setup [] := untilAsked_append unasked
  simpa [untilAsked] using whole

theorem Open.append (before : Open setup t first) (after : Idle setup t rest) : Open setup t (first ++ rest) where
  drops := by simp [before.drops, after.drops]
  loses := by simp [before.loses, after.loses]
  asks := by simp [before.asks, after.asks]

theorem Sound.append (before : Sound setup t job first) (idle : Idle setup t rest) (trusted : Trusted setup t job rest) :
    Sound setup t job (first ++ rest) where
  toOpen := before.toOpen.append idle
  misleads := by simp [before.misleads, idle.misleads]
  trusted := before.trusted.append trusted

/-- An execution that has dropped nothing and asked for nothing so far. -/
theorem Sound.outcome (sound : Sound setup t job first) : Outcome setup t job first := by
  refine Or.inr ⟨sound.drops, Or.inr ?_⟩
  rw [untilAsked_open sound.asks]
  exact ⟨sound.trusted, sound.misleads⟩

/-- An answer to whether the certificate is wanted. -/
theorem wanted_ensures (clustered : setup.clustered t.machine = true) :
    (system setup).Ensures (others setup t) t (wanted setup t.machine job) w fun trace answer _ =>
      Idle setup t trace ∧ (answer = true → Trusted setup t job trace) ∧
        (answer = false → Doubted setup t job trace) := by
  unfold wanted
  cases tunnel : job.tunnel with
  | none => 
      refine ensures_ret ⟨.nil, fun _ => .of_steady (Trace.any_nil _), fun no => by cases no⟩
  | some id =>
      have asks : (system setup).Ensures (others setup t) t
          (wantsCertificate setup t.machine id job.certificateId).run w _ :=
        ensures_and (wantsCertificate_answers clustered)
          (fun _ _ _ run => Idle.of_acts wantsCertificate_idle.all run)
      refine ensures_bind (ensures_mono asks ?_)
      rintro trace result w₁ ⟨⟨err, rfl, -, judged⟩ | ⟨answer, rfl, judged⟩, idle⟩
      · refine ensures_ret ?_
        rw [List.append_nil]
        refine ⟨idle, fun _ id' same start _ => ?_, fun no => by cases no⟩
        cases tunnel.symm.trans same
        exact (judged start).1 rfl
      · refine ensures_ret ?_
        rw [List.append_nil]
        refine ⟨idle, fun yes id' same start _ => ?_, fun no => ⟨id, tunnel, fun start => (judged start).2 no⟩⟩
        cases tunnel.symm.trans same
        exact (judged start).1 yes

theorem abandon_ensures {reason : Option String} (so : Open setup t first)
    (why : Doubted setup t job first ∨ first.Any (Misleads setup)) :
    (system setup).Ensures (others setup t) t (abandon job reason).run w fun rest _ _ =>
      Outcome setup t job (first ++ rest) := by
  unfold abandon finish
  refine ensures_act fun drift₁ w₁ c₁ now w₂ drifts₁ clocks => ?_
  refine ensures_exceptBind (ensures_call fun drift₂ w₃ c₂ ans w₄ drifts₂ _ => ensures_ret ?_)
  have idle₁ : Idle setup t drift₁ := .of_drifts drifts₁
  have idle₂ : Idle setup t drift₂ := .of_drifts drifts₂
  have outcome : Outcome setup t job (first ++ (drift₁ ++ (w₁, .own .now c₁ now) ::
      (drift₂ ++ [(w₃, .own (.finishJob job.certificateId .abandoned reason now) c₂ ans)]))) := by
    refine Or.inl ⟨by simp [Drops], ?_, ?_, ?_⟩
    · simp [so.loses, idle₁.loses, idle₂.loses, Loses]
    · simp [so.asks, idle₁.asks, idle₂.asks, Asks]
    · rcases why with doubted | misled
      · exact Or.inl (doubted.before (steady_own trivial drifts₁ (steady_own trivial drifts₂ (Trace.any_nil _))))
      · exact Or.inr (by simp [misled])
  cases ans with
  | ok done => exact ensures_ret (by simpa using outcome)
  | error err => simpa using outcome

/-- The last statement of an execution that does not abandon its job. -/
theorem finish_ensures {status : JobStatus} {error : Option String} {now : Nat} (kept : status ≠ .abandoned)
    (outcome : ∀ rest, Idle setup t rest → ¬ rest.Any (Stirs setup) → Outcome setup t job (first ++ rest)) :
    (system setup).Ensures (others setup t) t (finish job status error now).run w fun rest _ _ =>
      Outcome setup t job (first ++ rest) := by
  unfold finish
  refine ensures_exceptBind (ensures_call fun drift w₁ c ans w₂ drifts _ => ensures_ret ?_)
  have idle : Idle setup t drift := .of_drifts drifts
  have ends : Outcome setup t job (first ++ (drift ++
      [(w₁, .own (.finishJob job.certificateId status error now) c ans)])) := by
    refine outcome _ ⟨?_, ?_, ?_, ?_⟩ (steady_own trivial drifts (Trace.any_nil _))
    · have other : ¬ Drops setup w₁ (.own (.finishJob job.certificateId status error now) c ans) := by
        cases status with
        | abandoned => exact absurd rfl kept
        | _ => exact fun drops => drops
      simp [idle.drops, other]
    · simp [idle.loses, Loses]
    · simp [idle.asks, Asks]
    · simp [idle.misleads, Misleads]
  cases ans with
  | ok done => exact ensures_ret (by simpa using ends)
  | error err => simpa using ends

/-- Progress of the job's certificate: recorded, refused because it is not wanted, or not recorded by an error. -/
theorem update_ensures (clustered : setup.clustered t.machine = true) {id : TunnelId} (tunnel : job.tunnel = some id)
    {input : CertificateState} :
    (system setup).Ensures (others setup t) t (updateCertificate setup t.machine id job.certificateId input).run w
      fun trace result _ => Idle setup t trace ∧
        ((∃ err, result = .error err ∧ err.plain ∧ Trusted setup t job trace) ∨
          (result = .ok true ∧ Trusted setup t job trace) ∨ (result = .ok false ∧ Doubted setup t job trace)) := by
  refine ensures_mono (ensures_and (updateCertificate_answers clustered)
    (fun _ _ _ run => Idle.of_acts updateCertificate_idle.all run)) ?_
  have trusted {trace : (system setup).Trace} (judged : Judged setup t id job.certificateId trace true) :
      Trusted setup t job trace := by
    intro id' same start _
    cases tunnel.symm.trans same
    exact (judged start).1 rfl
  rintro trace result w' ⟨⟨err, rfl, plain, judged⟩ | ⟨answer, rfl, judged⟩, idle⟩
  · exact ⟨idle, Or.inl ⟨err, rfl, plain, trusted judged⟩⟩
  · cases answer with
    | true => exact ⟨idle, Or.inr (Or.inl ⟨rfl, trusted judged⟩)⟩
    | false => exact ⟨idle, Or.inr (Or.inr ⟨rfl, id, tunnel, fun start => (judged start).2 rfl⟩)⟩

theorem recordIssued_ensures (clustered : setup.clustered t.machine = true) {issued : Issued} {now : Nat}
    (sound : Sound setup t job first) :
    (system setup).Ensures (others setup t) t (recordIssued setup t.machine job issued now).run w fun rest _ _ =>
      Outcome setup t job (first ++ rest) := by
  have done {w : World} {first : (system setup).Trace} (sound : Sound setup t job first) :
      (system setup).Ensures (others setup t) t (finish job .done none now).run w fun rest _ _ =>
        Outcome setup t job (first ++ rest) :=
    finish_ensures (by simp) fun rest idle steady => (sound.append idle (.of_steady steady)).outcome
  unfold recordIssued
  cases tunnel : job.tunnel with
  | none =>
      dsimp only
      split
      · refine ensures_exceptBind (ensures_call fun drift w₁ c ans w₂ drifts _ => ensures_ret ?_)
        have idle : Idle setup t drift := .of_drifts drifts
        have installed : Sound setup t job (first ++ (drift ++ [(w₁, .own .installServer c ans)])) := by
          refine sound.append ?_ (fun id same => by rw [tunnel] at same; cases same)
          refine idle.append ⟨?_, ?_, ?_, ?_⟩
          · simp [Drops]
          · simp [Loses]
          · simp [Asks]
          · simp [Misleads]
        cases ans with
        | ok _ =>
            refine ensures_mono (done installed) fun rest _ _ outcome => ?_
            simpa using outcome
        | error err => exact installed.outcome
      · exact done sound
  | some id =>
      dsimp only
      refine ensures_exceptBind (ensures_mono (update_ensures clustered tunnel) ?_)
      rintro trace result w₁ ⟨idle, ⟨err, rfl, -, trusted⟩ | ⟨rfl, trusted⟩ | ⟨rfl, doubted⟩⟩
      · exact (sound.append idle trusted).outcome
      · refine ensures_mono (done (sound.append idle trusted)) fun rest _ _ outcome => ?_
        simpa using outcome
      · refine ensures_act fun drift w₂ c _ w₃ drifts _ => ?_
        have idle₂ : Idle setup t drift := .of_drifts drifts
        have logged : ¬ Trace.Any (Stirs setup) (drift ++ [(w₂, .own (.unwanted job.certificateId) c ())]) :=
          steady_own trivial drifts (Trace.any_nil _)
        have dropped : (system setup).Ensures (others setup t) t (finish job .done none now).run w₃ fun rest _ _ =>
            Outcome setup t job (first ++ trace ++ (drift ++ [(w₂, .own (.unwanted job.certificateId) c ())]) ++ rest) := by
          refine finish_ensures (by simp) fun rest ends steady => ?_
          refine Or.inl ⟨by simp [Drops], ?_, ?_, Or.inl ?_⟩
          · simp [sound.loses, idle.loses, idle₂.loses, Loses, ends.loses]
          · simp [sound.asks, idle.asks, idle₂.asks, Asks, ends.asks]
          · rw [List.append_assoc]
            exact doubted.after.before (steady_append logged steady)
        refine ensures_mono dropped fun rest _ _ outcome => ?_
        simpa using outcome

/-- The acts that drop no job. -/
def Act.Keeps : Act → Prop
  | .finishJob _ .abandoned _ _ => False
  | .unwanted _ => False
  | _ => True

theorem keeps_none {p : Call α} (acts : Prog.All Act.Keeps p) {a : α}
    (run : (system setup).Runs (others setup t) t p w rest a w') : ¬ rest.Any (Drops setup) := by
  refine run.none acts (fun _ holds => holds) fun _ op _ _ holds keeps => ?_
  cases op with
  | finishJob c status error now =>
      cases status with
      | abandoned => exact keeps
      | _ => exact holds
  | unwanted => exact keeps
  | _ => exact holds

instance updateCertificate_keeps {m : MachineId} {id : TunnelId} {c : CertificateId} {input : CertificateState} :
    ObeysE Act.Keeps (updateCertificate setup m id c input) := by
  refine ⟨updateCertificate_idle.all.mono fun op idle => ?_⟩
  cases op with
  | finishJob => exact idle.elim
  | unwanted => exact idle
  | _ => trivial

instance refuse_keeps {m : MachineId} {reason : String} : ObeysE Act.Keeps (refuse setup m job reason) := by
  unfold refuse finish
  exact .of_rules

/-- A failed attempt: dropped by the error or because the certificate is not wanted, else tried again or given up. -/
theorem recordFailure_ensures (clustered : setup.clustered t.machine = true) {err : IssueError} {now : Nat}
    (so : Open setup t first) (running : err.stopped = false)
    (told : (err.misleads ∧ (Doubted setup t job first ∨ first.Any (Misleads setup))) ∨
      (¬ err.misleads ∧ Sound setup t job first)) :
    (system setup).Ensures (others setup t) t (recordFailure setup t.machine job err now).run w fun rest _ _ =>
      Outcome setup t job (first ++ rest) := by
  unfold recordFailure
  split
  · rename_i stated
    rcases told with ⟨-, why⟩ | ⟨honest, -⟩
    · exact abandon_ensures so why
    · exact absurd ⟨running, stated⟩ honest
  · rename_i silent
    rcases told with ⟨⟨-, stated⟩, -⟩ | ⟨-, sound⟩
    · exact absurd stated silent
    refine ensures_liftBind (ensures_mono (wanted_ensures clustered) ?_)
    rintro trace answer w₁ ⟨idle, yes, no⟩
    cases answer with
    | false =>
        refine ensures_mono (abandon_ensures (so.append idle) (Or.inl (no rfl).after)) fun rest _ _ outcome => ?_
        simpa using outcome
    | true =>
        -- whatever follows, the runner has asked when to try again, and drops nothing
        refine ensures_act fun drift w₂ c next w₃ drifts _ => ?_
        have idle₂ : Idle setup t drift := .of_drifts drifts
        intro rest result w₄ ran
        have kept : ¬ rest.Any (Drops setup) := by
          refine keeps_none (@ObeysE.all _ _ _ ?_) ran
          unfold finish
          exact .of_rules
        have asked : untilAsked setup (first ++ (trace ++ (drift ++ (w₂, .own .nextAttempt c next) :: rest))) =
            first ++ trace ++ drift := by
          rw [untilAsked_append sound.asks, untilAsked_append idle.asks, untilAsked_append idle₂.asks]
          simp [untilAsked]
        have still := (sound.append idle (yes rfl)).append idle₂ (.of_steady (steady_drifts drifts))
        refine Or.inr ⟨?_, Or.inr ?_⟩
        · simp [sound.drops, idle.drops, idle₂.drops, kept, Drops]
        · rw [asked]
          exact ⟨still.trusted, still.misleads⟩

/-- The challenge is shown, or the certificate is found unwanted, or the storage fails. -/
theorem showChallenge_ensures (clustered : setup.clustered t.machine = true) {challenge : Challenge} :
    (system setup).Ensures (others setup t) t (showChallenge setup t.machine job challenge) w fun trace result _ =>
      Idle setup t trace ∧
        ((result = .ok () ∧ Trusted setup t job trace) ∨
          ∃ err, result = .error err ∧
            ((err.misleads ∧ Doubted setup t job trace) ∨ (¬ err.misleads ∧ Trusted setup t job trace))) := by
  have fine : (system setup).Ensures (others setup t) t (pure (.ok ()) : Call (Except IssueError Unit)) w
      fun trace result _ => Idle setup t trace ∧
        ((result = .ok () ∧ Trusted setup t job trace) ∨
          ∃ err, result = .error err ∧
            ((err.misleads ∧ Doubted setup t job trace) ∨ (¬ err.misleads ∧ Trusted setup t job trace))) :=
    ensures_ret ⟨.nil, Or.inl ⟨rfl, .of_steady (Trace.any_nil _)⟩⟩
  unfold showChallenge
  split
  · rename_i id kind owner
    have tunnel : job.tunnel = some id := by simp [Job.tunnel, kind, owner]
    refine ensures_bind (ensures_mono (update_ensures clustered tunnel) ?_)
    rintro trace result w₁ ⟨idle, ⟨err, rfl, plain, trusted⟩ | ⟨rfl, trusted⟩ | ⟨rfl, doubted⟩⟩
    · refine ensures_ret ?_
      rw [List.append_nil]
      refine ⟨idle, Or.inr ⟨_, rfl, Or.inr ⟨?_, trusted⟩⟩⟩
      rintro ⟨-, stated⟩
      rw [plain.text] at stated
      cases stated
    · refine ensures_ret ?_
      rw [List.append_nil]
      exact ⟨idle, Or.inl ⟨rfl, trusted⟩⟩
    · refine ensures_ret ?_
      rw [List.append_nil]
      exact ⟨idle, Or.inr ⟨_, rfl, Or.inl ⟨⟨rfl, by decide +kernel⟩, doubted⟩⟩⟩
  · exact fine

/-- What is known of the execution once the order has ended. -/
def Ordered (setup : Setup) (t : Task) (job : Job) (trace : (system setup).Trace) {β : Type}
    (result : Except IssueError β) : Prop :=
  match result with
  | .ok _ => Sound setup t job trace
  | .error err => Open setup t trace ∧
      ((err.misleads ∧ (Doubted setup t job trace ∨ trace.Any (Misleads setup))) ∨
        (¬ err.misleads ∧ Sound setup t job trace))

/-- An answer of the certificate authority. -/
theorem ordered_act {β : Type} {op : Act} {c : Choice} {ans : op.Ans} {result : Except IssueError β} {drift : (system setup).Trace}
    (sound : Sound setup t job first) (drifts : (system setup).Drifts (others setup t) w drift w')
    (steady : op.Steady)
    (idle : ¬ Drops setup w' (.own op c ans) ∧ ¬ Loses setup t w' (.own op c ans) ∧ ¬ Asks setup w' (.own op c ans))
    (misled : Misleads setup w' (.own op c ans) ↔ ∃ err, result = .error err ∧ err.misleads) :
    Ordered setup t job (first ++ (drift ++ [(w', .own op c ans)])) result := by
  have idle₁ : Idle setup t drift := .of_drifts drifts
  have so : Open setup t (first ++ (drift ++ [(w', .own op c ans)])) := by
    refine ⟨?_, ?_, ?_⟩
    · simp [sound.drops, idle₁.drops, idle.1]
    · simp [sound.loses, idle₁.loses, idle.2.1]
    · simp [sound.asks, idle₁.asks, idle.2.2]
  have trusted : Trusted setup t job (first ++ (drift ++ [(w', .own op c ans)])) :=
    sound.trusted.append (.of_steady (steady_own steady drifts (Trace.any_nil _)))
  cases result with
  | ok _ =>
      refine ⟨so, ?_, trusted⟩
      simp [sound.misleads, idle₁.misleads, misled]
  | error err =>
      refine ⟨so, ?_⟩
      by_cases misleads : err.misleads
      · exact Or.inl ⟨misleads, Or.inr (by simp [misled, misleads])⟩
      · refine Or.inr ⟨misleads, so, ?_, trusted⟩
        simp [sound.misleads, idle₁.misleads, misled, misleads]

theorem completeOrder_ensures (sound : Sound setup t job first) :
    (system setup).Ensures (others setup t) t (act .completeOrder) w fun rest result _ =>
      Ordered setup t job (first ++ rest) result := by
  refine ensures_call fun drift w₁ c ans w₂ drifts _ => ensures_ret ?_
  refine ordered_act sound drifts trivial
    ⟨fun drops => drops, fun loses => loses, fun asks => asks⟩ ?_
  cases ans with
  | ok issued =>
      refine ⟨fun misled => misled.elim, ?_⟩
      rintro ⟨_, same, -⟩
      cases same
  | error err =>
      refine ⟨fun misled => ⟨err, rfl, misled⟩, ?_⟩
      rintro ⟨_, same, misled⟩
      cases same
      exact misled

theorem issue_ensures (clustered : setup.clustered t.machine = true) (sound : Sound setup t job first) :
    (system setup).Ensures (others setup t) t (issue setup t.machine job) w fun rest result _ =>
      Ordered setup t job (first ++ rest) result := by
  unfold issue
  refine ensures_call fun drift w₁ c ans w₂ drifts _ => ?_
  have placed {β : Type} {result : Except IssueError β} (same : ∀ err, result = .error err ↔ ans = .error err) :
      Ordered setup t job (first ++ (drift ++ [(w₁, .own (.placeOrder job.identifiers job.csr) c ans)])) result := by
    refine ordered_act sound drifts trivial
      ⟨fun drops => drops, fun loses => loses, fun asks => asks⟩ ?_
    simp only [same]
    cases ans with
    | ok pending =>
        refine ⟨fun misled => misled.elim, ?_⟩
        rintro ⟨_, same, -⟩
        cases same
    | error err =>
        refine ⟨fun misled => ⟨err, rfl, misled⟩, ?_⟩
        rintro ⟨_, same, misled⟩
        cases same
        exact misled
  cases ans with
  | error err => exact ensures_ret (placed fun err' => by simp)
  | ok pending =>
      have ordered : Sound setup t job (first ++ (drift ++ [(w₁, .own (.placeOrder job.identifiers job.csr) c (.ok pending))])) :=
        placed fun err => (by simp : (.ok () : Except IssueError Unit) = .error err ↔ _)
      cases pending with
      | none =>
          refine ensures_mono (completeOrder_ensures ordered) fun rest result _ ends => ?_
          simpa using ends
      | some challenge =>
          refine ensures_bind (p := showChallenge setup t.machine job challenge)
            (ensures_mono (showChallenge_ensures clustered) ?_)
          rintro trace result w₃ ⟨idle, ⟨rfl, trusted⟩ | ⟨err, rfl, told⟩⟩
          · refine ensures_mono (completeOrder_ensures (ordered.append idle trusted)) fun rest result _ ends => ?_
            simpa using ends
          · refine ensures_ret ?_
            have ends : Ordered setup t job
                (first ++ (drift ++ [(w₁, .own (.placeOrder job.identifiers job.csr) c (.ok (some challenge)))]) ++ trace)
                (.error err : Except IssueError Issued) := by
              refine ⟨ordered.toOpen.append idle, ?_⟩
              rcases told with ⟨misleads, doubted⟩ | ⟨honest, trusted⟩
              · exact Or.inl ⟨misleads, Or.inl doubted.after⟩
              · exact Or.inr ⟨honest, ordered.append idle trusted⟩
            simpa using ends

theorem Ordered.toOpen {β : Type} {result : Except IssueError β} (ordered : Ordered setup t job first result) :
    Open setup t first := by
  cases result with
  | ok _ => exact Sound.toOpen ordered
  | error err => exact ordered.1

theorem Ordered.append {β : Type} {result : Except IssueError β} (ordered : Ordered setup t job first result)
    (idle : Idle setup t rest) (steady : ¬ rest.Any (Stirs setup)) : Ordered setup t job (first ++ rest) result := by
  cases result with
  | ok _ => exact Sound.append ordered idle (.of_steady steady)
  | error err =>
      obtain ⟨so, told⟩ := ordered
      refine ⟨so.append idle, ?_⟩
      rcases told with ⟨misleads, doubted | misled⟩ | ⟨honest, sound⟩
      · exact Or.inl ⟨misleads, Or.inl (doubted.before steady)⟩
      · exact Or.inl ⟨misleads, Or.inr (by simp [misled])⟩
      · exact Or.inr ⟨honest, sound.append idle (.of_steady steady)⟩

/-- What the runner does with the result of an order, as long as it has its lease. -/
theorem recorded_ensures (clustered : setup.clustered t.machine = true) {result : Except IssueError Issued}
    (ordered : Ordered setup t job first result) :
    (system setup).Ensures (others setup t) t (do
      let now ← act .now
      match result with
      | .ok issued => recordIssued setup t.machine job issued now
      | .error err => if err.stopped then pure () else recordFailure setup t.machine job err now : Fallible Unit).run w
      fun rest _ _ => Outcome setup t job (first ++ rest) := by
  refine ensures_act fun drift w₁ c now w₂ drifts _ => ?_
  have later : Ordered setup t job (first ++ (drift ++ [(w₁, .own .now c now)])) result := by
    refine ordered.append ?_ (steady_own trivial drifts (Trace.any_nil _))
    exact (Idle.of_drifts drifts).append ⟨by simp [Drops], by simp [Loses], by simp [Asks], by simp [Misleads]⟩
  cases result with
  | ok issued =>
      refine ensures_mono (recordIssued_ensures clustered later) fun rest _ _ outcome => ?_
      simpa using outcome
  | error err =>
      obtain ⟨so, told⟩ := later
      dsimp only
      split
      · rename_i stopped
        refine ensures_ret ?_
        rcases told with ⟨⟨running, -⟩, -⟩ | ⟨-, sound⟩
        · rw [stopped] at running
          cases running
        · exact sound.outcome
      · rename_i running
        refine ensures_mono (recordFailure_ensures clustered so (by simpa using running) told)
          fun rest _ _ outcome => ?_
        simpa using outcome

/-- The lease is answered to be lost where the job's row is not the runner's any more. -/
theorem extendLease_loses {c : CertificateId} {now : Nat} {choice : Choice} {lease : Except Err Bool}
    (executed : exec setup t (.extendLease c now) choice w = some (lease, w')) :
    lease = .ok false ↔ Loses setup t w (.own (.extendLease c now) choice lease) := by
  have row : (w.db.extendLease c t.machine now).1 =
      (w.db.job c).any (fun row => row.leaseOwner = some t.machine && row.status = .pending) := by
    unfold Db.extendLease Db.updateJob
    cases w.db.job c with
    | none => rfl
    | some row =>
        rw [Option.any_some]
        dsimp only
        split
        · rename_i own
          exact own.symm
        · rename_i taken
          exact (Bool.not_eq_true _ ▸ taken : _ = false).symm
  simp only [exec, Option.some.injEq] at executed
  change _ ↔ choice.fault = .none ∧ _ = false
  rw [← row]
  rcases World.write_spec executed with ⟨fine, rfl, -⟩ | ⟨fault, rfl, -⟩ | ⟨fault, rfl, -⟩
  · simp [fine, sure]
  · simp [fault]
  · simp [fault]

theorem execute_ensures (clustered : setup.clustered t.machine = true) (permits : permitted setup job = .ok ()) :
    (system setup).Ensures (others setup t) t (execute setup t.machine job).run w fun trace _ _ =>
      Outcome setup t job trace := by
  unfold execute
  rw [permits]
  refine ensures_liftBind (ensures_mono (wanted_ensures clustered) ?_)
  rintro asked answer w₁ ⟨idle, yes, no⟩
  cases answer with
  | false => exact abandon_ensures ⟨idle.drops, idle.loses, idle.asks⟩ (Or.inl (no rfl))
  | true =>
      have sound : Sound setup t job asked := ⟨⟨idle.drops, idle.loses, idle.asks⟩, idle.misleads, yes rfl⟩
      refine ensures_liftBind (ensures_mono (issue_ensures clustered sound) ?_)
      intro order result w₂ ordered
      refine ensures_act fun drift₁ w₃ c₁ checkedAt w₄ drifts₁ _ => ?_
      refine ensures_attempt (ensures_call fun drift₂ w₅ c₂ lease w₆ drifts₂ extends_ => ensures_ret ?_)
      have taken : lease = .ok false ↔ Loses setup t w₅ (.own (.extendLease job.certificateId checkedAt) c₂ lease) :=
        extendLease_loses extends_
      have idle₁ : Idle setup t drift₁ := .of_drifts drifts₁
      have idle₂ : Idle setup t drift₂ := .of_drifts drifts₂
      have so := ordered.toOpen
      by_cases lost : lease = .ok false
      · subst lost
        refine ensures_ret (Or.inr ⟨?_, Or.inl (by simp [taken.mp rfl])⟩)
        have drops : ¬ asked.Any (Drops setup) ∧ ¬ order.Any (Drops setup) := by simpa using so.drops
        simp [drops, idle₁.drops, idle₂.drops, Drops]
      · have kept : Ordered setup t job (asked ++ order ++ (drift₁ ++ (w₃, .own .now c₁ checkedAt) ::
            (drift₂ ++ [(w₅, .own (.extendLease job.certificateId checkedAt) c₂ lease)]))) result := by
          have clock : ¬ Loses setup t w₃ (.own .now c₁ checkedAt) := fun loses => loses
          have holds : ¬ Loses setup t w₅ (.own (.extendLease job.certificateId checkedAt) c₂ lease) :=
            fun loses => lost (taken.mpr loses)
          refine ordered.append ⟨?_, ?_, ?_, ?_⟩
            (steady_own trivial drifts₁ (steady_own trivial drifts₂ (Trace.any_nil _)))
          · simp [idle₁.drops, idle₂.drops, Drops]
          · simp [idle₁.loses, idle₂.loses, clock, holds]
          · simp [idle₁.asks, idle₂.asks, Asks]
          · simp [idle₁.misleads, idle₂.misleads, Misleads]
        have records : (system setup).Ensures (others setup t) t _ w₆ fun rest _ _ => Outcome setup t job (_ ++ rest) :=
          recorded_ensures clustered kept
        cases lease with
        | error err =>
            refine ensures_mono records fun rest _ _ outcome => ?_
            simpa using outcome
        | ok held =>
            cases held with
            | false => exact absurd rfl lost
            | true =>
                refine ensures_mono records fun rest _ _ outcome => ?_
                simpa using outcome

/-! ### Dropped without cause -/

variable (setup t job)

/-- At some moment of the execution the database did not want the job's certificate. -/
def Justified (trace : (system setup).Trace) : Prop :=
  ∃ id, job.tunnel = some id ∧ ∃ moment ∈ trace, Unwanted id job.certificateId moment.1

/-- The job is permitted and its row the runner's, and before the runner asked when to try again either the entry it
    last locked had a record that does not want the certificate while it was barred from the stored one (a refresh
    failed moments ago, the read failed, another task loaded the entry), or the certificate authority answered an error
    that reads like the runner's own. -/
structure Misled (trace : (system setup).Trace) : Prop where
  permitted : permitted setup job = .ok ()
  leased : ¬ trace.Any (Loses setup t)
  told : (∃ id, job.tunnel = some id ∧
      (sights t id .unlocked (untilAsked setup trace)).Barred (Entry.Unwants job.certificateId)) ∨
    (untilAsked setup trace).Any (Misleads setup)

/-- The runner was misled, and the stored record wants the certificate at every moment of the execution. -/
structure MisledAbout (trace : (system setup).Trace) : Prop extends Misled setup t job trace where
  wanted : ∀ id, job.tunnel = some id → ∀ moment ∈ trace, ¬ Unwanted id job.certificateId moment.1

variable {setup t job}

/-- A job is dropped where the runner was misled, or where the database did not want the certificate. -/
theorem Outcome.fair {trace : (system setup).Trace} (permits : permitted setup job = .ok ())
    (outcome : Outcome setup t job trace) :
    (trace.Any (Drops setup) → Misled setup t job trace ∨ Justified setup job trace) ∧
      (Misled setup t job trace → trace.Any (Drops setup)) := by
  rcases outcome with ⟨drops, held, unasked, why⟩ | ⟨kept, why⟩
  · refine ⟨fun _ => ?_, fun _ => drops⟩
    have whole := untilAsked_open unasked
    rcases why with ⟨id, tunnel, found⟩ | misled
    · rcases found .unlocked with stale | unwanted
      · exact Or.inl ⟨permits, held, Or.inl ⟨id, tunnel, whole.symm ▸ stale⟩⟩
      · exact Or.inr ⟨id, tunnel, unwanted⟩
    · exact Or.inl ⟨permits, held, Or.inr (whole.symm ▸ misled)⟩
  · refine ⟨fun drops => absurd drops kept, fun misled => ?_⟩
    rcases why with lost | ⟨trusted, honest⟩
    · exact absurd lost misled.leased
    · rcases misled.told with ⟨id, tunnel, stale⟩ | told
      · refine absurd stale (trusted id tunnel .unlocked ?_)
        rintro ⟨_, cached, -⟩
        cases cached
      · exact absurd told honest

/-- For every execution of a job on a machine that is one of many: the job is dropped only with cause, if and only if
    the runner was not misled about a certificate that the stored record wants all along. -/
theorem job_dropped_justified (clustered : setup.clustered t.machine = true) {trace : (system setup).Trace}
    {result : Except Err Unit}
    (run : (system setup).Runs (others setup t) t (execute setup t.machine job).run w trace result w') :
    (trace.Any (Drops setup) → Justified setup job trace) ↔ ¬ MisledAbout setup t job trace := by
  cases permits : permitted setup job with
  | ok _ =>
      obtain ⟨caused, drops⟩ := (execute_ensures clustered permits trace result w' run).fair permits
      constructor
      · intro fair misled
        obtain ⟨id, tunnel, moment, listed, unwanted⟩ := fair (drops misled.toMisled)
        exact misled.wanted id tunnel moment listed unwanted
      · intro told dropped
        rcases caused dropped with misled | justified
        · by_cases justified : Justified setup job trace
          · exact justified
          · refine absurd ⟨misled, fun id tunnel moment listed unwanted => ?_⟩ told
            exact justified ⟨id, tunnel, moment, listed, unwanted⟩
        · exact justified
  | error reason =>
      -- a job that is not permitted is refused, never dropped
      have kept : ¬ trace.Any (Drops setup) := by
        unfold execute at run
        rw [permits] at run
        exact keeps_none refuse_keeps.all run
      refine ⟨fun _ misled => ?_, fun _ dropped => absurd dropped kept⟩
      have allowed := misled.permitted
      rw [permits] at allowed
      cases allowed

end Execute

/-- A job for the sample's tunnel. -/
def Sample.job (c : CertificateId) : Job :=
  { certificateId := c, tunnelId := some "a", kind := .issue, identifiers := ["a.opentunnel.test"], csr := Sample.csr,
    attempts := 0, createdAt := 1800000000000 }

/-- A moment at which a job is dropped. -/
def Sample.dropped {setup : Setup} : (system setup).Label → Bool
  | .own (.finishJob _ .abandoned _ _) _ _ => true
  | _ => false

theorem Sample.drops {setup : Setup} {trace : (system setup).Trace}
    (found : (trace.any fun moment => Sample.dropped moment.2) = true) : trace.Any (Drops setup) := by
  obtain ⟨⟨s, label⟩, listed, holds⟩ := List.any_eq_true.mp found
  refine ⟨(s, label), listed, ?_⟩
  unfold Sample.dropped at holds
  split at holds
  · rename_i is
    rw [is]
    trivial
  · cases holds

/-- A job for a certificate the tunnel does not name any more: the record is read, and the job dropped with cause. -/
theorem job_dropped_justified_replaced :
    ∃ trace result w', (system (Sample.setup true)).Runs (others (Sample.setup true) ⟨"m1", 1⟩) ⟨"m1", 1⟩
        (execute (Sample.setup true) "m1" (Sample.job "cert_0")).run
        (Sample.world (Sample.db [Sample.tunnel "2027-04-15T08:00:00.000Z"])) trace result w' ∧
      trace.Any (Drops (Sample.setup true)) ∧
      ((trace.Any (Drops (Sample.setup true)) → Justified (Sample.setup true) (Sample.job "cert_0") trace) ↔
        ¬ MisledAbout (Sample.setup true) ⟨"m1", 1⟩ (Sample.job "cert_0") trace) := by
  have performed : ((system (Sample.setup true)).perform ⟨"m1", 1⟩
      (execute (Sample.setup true) "m1" (Sample.job "cert_0")).run (List.replicate 13 Sample.plain)
      (Sample.world (Sample.db [Sample.tunnel "2027-04-15T08:00:00.000Z"]))).map (fun done =>
        done.1.any fun moment => Sample.dropped moment.2) = some true := by decide +kernel
  obtain ⟨⟨trace, result, w'⟩, ran, dropped⟩ := Option.map_eq_some_iff.mp performed
  have run := runs_of_perform (R := others (Sample.setup true) ⟨"m1", 1⟩) ran
  exact ⟨trace, result, w', run, Sample.drops dropped, job_dropped_justified (t := ⟨"m1", 1⟩) rfl run⟩

/-- The operations before `wanted_job_abandoned`: one machine reads the record, the other binds a certificate. -/
def Sample.binding (t : Task) : Operation :=
  if t.machine = "m2" then .info "a" else .bindCertificate "a" "secret" Sample.csr

/-- A machine that read the record before another one bound a certificate runs its job, and the read of the record
    fails: the job is abandoned, although the stored record wants the certificate all along. -/
theorem wanted_job_abandoned :
    ∃ cfg trace result w', (system (Sample.setup true)).Reach (running (Sample.setup true) Sample.binding)
        (idle (Sample.world (Sample.db [{ Sample.tunnel "" with
          certificateId := none, certificate := none, certificateCsr := none }]))) cfg ∧
      (cfg.shared.db.job "cert_x").map (·.job) = some (Sample.job "cert_x") ∧
      (system (Sample.setup true)).Runs (others (Sample.setup true) ⟨"m2", 2⟩) ⟨"m2", 2⟩
        (execute (Sample.setup true) "m2" (Sample.job "cert_x")).run cfg.shared trace result w' ∧
      trace.Any (Drops (Sample.setup true)) ∧ ¬ Justified (Sample.setup true) (Sample.job "cert_x") trace := by
  let reader : Task := ⟨"m2", 1⟩
  let binder : Task := ⟨"m1", 1⟩
  have played : (play (running (Sample.setup true) Sample.binding)
      (.start reader (Sample.binding reader) :: Sample.calls _ reader (List.replicate 11 Sample.plain) ++
        .start binder (Sample.binding binder) :: Sample.calls _ binder (List.replicate 20 { Sample.plain with text := "x" }))
      (idle (Sample.world (Sample.db [{ Sample.tunnel "" with
        certificateId := none, certificate := none, certificateCsr := none }])))).bind (fun cfg =>
      ((system (Sample.setup true)).perform ⟨"m2", 2⟩
        (execute (Sample.setup true) "m2" (Sample.job "cert_x")).run
        (List.replicate 5 Sample.plain ++ Sample.failing :: List.replicate 5 Sample.plain) cfg.shared).map fun done =>
          ((cfg.shared.db.job "cert_x").map (·.job), done.1.any fun moment => Sample.dropped moment.2,
            done.1.all fun moment => (moment.1.db.live "a").any (·.wants "cert_x"))) =
      some (some (Sample.job "cert_x"), true, true) := by decide +kernel
  obtain ⟨cfg, ran, rest⟩ := Option.bind_eq_some_iff.mp played
  obtain ⟨⟨trace, result, w'⟩, performed, seen⟩ := Option.map_eq_some_iff.mp rest
  simp only [Prod.mk.injEq] at seen
  obtain ⟨queued, dropped, wanted⟩ := seen
  refine ⟨cfg, trace, result, w', reach_of_play ran, queued, runs_of_perform performed, Sample.drops dropped, ?_⟩
  rintro ⟨id, tunnel, moment, listed, unwanted⟩
  cases tunnel
  have wants := List.all_eq_true.mp wanted moment listed
  unfold Unwanted at unwanted
  rw [show (Sample.job "cert_x").certificateId = "cert_x" from rfl, wants] at unwanted
  cases unwanted

end OpenTunnel
