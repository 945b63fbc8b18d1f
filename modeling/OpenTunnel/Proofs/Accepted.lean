/-
Module: OpenTunnel.Proofs.Accepted
Layer: Proofs
Purpose: What `bind_certificate` accepts and what the runner permits. Every request the servers store was accepted by a
  bind or by the import of its record; a job built from such a record passes the runner's check exactly when the
  tunnel's hostname is among its names, which a bind does not ask for: it accepts a request for the wildcard alone.
Imports: OpenTunnel.Tasks.Ghost, OpenTunnel.Proofs.Records, OpenTunnel.Proofs.Orders
Trusted boundary: none (fully proved)
Main exports: Accepted, Accepted.permitted_iff, StoredTunnel.Requested, queueing, accepted_requests_permitted
Open obligations: none
-/
import OpenTunnel.Tasks.Ghost
import OpenTunnel.Proofs.Records
import OpenTunnel.Proofs.Orders

namespace OpenTunnel

open Tasks Semantics

/-! ### Accepted requests -/

section Requests

variable {X : Externals} {csr : String} {request : Request}

theorem foldl_nodup {ν : Type} {f : List String → ν → List String}
    (kept : ∀ names item, names.Nodup → (f names item).Nodup) (items : List ν) {names : List String}
    (once : names.Nodup) : (items.foldl f names).Nodup := by
  induction items generalizing names with
  | nil => exact once
  | cons first rest ih => exact ih (kept names first once)

/-- The names of a request are listed once. -/
theorem dnsNames_nodup (csr : Csr) : csr.dnsNames.Nodup := by
  unfold Csr.dnsNames
  refine foldl_nodup ?_ _ List.nodup_nil
  intro names first once
  cases first with
  | other => exact once
  | dns name =>
      dsimp only
      split
      · exact once
      · rename_i fresh
        rw [List.nodup_append]
        refine ⟨once, by simp, ?_⟩
        rintro a listed b new rfl
        rw [List.mem_singleton.mp new] at listed
        exact fresh (List.contains_iff_mem.mpr listed)

theorem parseCsr_names (parsed : X.parseCsr csr = some request) :
    request.identifiers ≠ [] ∧ request.identifiers.Nodup := by
  unfold Externals.parseCsr at parsed
  obtain ⟨read, -, is⟩ := Option.map_eq_some_iff.mp parsed
  rw [← is]
  dsimp only
  split
  · simp
  · rename_i some
    exact ⟨by simpa using some, dnsNames_nodup read⟩

end Requests

section Accepting

variable (setup : Setup) (id : TunnelId) (csr : String) (identifiers : List String)

/-- The request was accepted for the tunnel: by a bind, or by the import of its record. -/
inductive Accepted : Prop where
  | bound (request : Request) (parsed : setup.externals.parseCsr csr = some request)
      (common : request.hostname = id ++ "." ++ setup.domain) (names : identifiers = request.identifiers)
      (own : ∀ name ∈ request.identifiers,
        name = id ++ "." ++ setup.domain ∨ name = "*." ++ (id ++ "." ++ setup.domain))
  | imported (checked : checkTunnelRequest setup.externals id setup.domain identifiers csr = .ok ())

end Accepting

section Permitted

variable {setup : Setup} {id : TunnelId} {job : Job}

/-- The names of an accepted request that has the hostname are the tunnel's. -/
theorem tunnelNames_of_own {domain : String} {names : List String} (some : names ≠ []) (once : names.Nodup)
    (own : ∀ name ∈ names, name = id ++ "." ++ domain ∨ name = "*." ++ (id ++ "." ++ domain))
    (hostname : ∃ name ∈ names, SameName name (id ++ "." ++ domain)) : TunnelNames id domain names := by
  refine ⟨some, ?_, ?_, hostname⟩
  · intro name listed
    rcases own name listed with rfl | rfl
    · exact Or.inl (SameName.refl _)
    · exact Or.inr (SameName.refl _)
  · apply once.imp_of_mem
    intro a b inA inB apart same
    rcases own a inA with rfl | rfl <;> rcases own b inB with rfl | rfl
    · exact apart rfl
    · exact wildcard_differs _ same
    · exact wildcard_differs _ same.symm
    · exact apart rfl

/-- A tunnel's job with an accepted request is permitted exactly if it is for the hostname. -/
theorem Accepted.permitted_iff (kind : job.kind ≠ .server) (is : job.tunnelId = some id) (valid : validTunnelId id = true)
    (accepted : Accepted setup id job.csr job.identifiers) :
    permitted setup job = .ok () ↔ ∃ name ∈ job.identifiers, SameName name (id ++ "." ++ setup.domain) := by
  rw [permitted_tunnel kind is]
  constructor
  · rintro ⟨-, names, -⟩
    exact names.hostname
  · intro hostname
    cases accepted with
    | imported checked => exact checkTunnelRequest_ok.mp checked
    | bound request parsed common names own =>
        obtain ⟨some, once⟩ := parseCsr_names parsed
        rw [names] at hostname
        have tunnel := tunnelNames_of_own some once own hostname
        rw [names]
        refine ⟨valid, tunnel, request, parsed, ?_, rfl, ?_⟩
        · rw [common]
          exact SameName.refl _
        · intro name listed
          exact ⟨name, listed, SameName.refl _⟩

end Permitted

/-! ### Records -/

/-- The record is the tunnel's, under its own hostname, and the request it stores was accepted for it. -/
structure StoredTunnel.Requested (record : StoredTunnel) (setup : Setup) (id : TunnelId) : Prop where
  key : record.id = id
  valid : validTunnelId id = true
  named : record.hostname = id ++ "." ++ setup.domain
  request : ∀ csr, record.certificateCsr = some csr → Accepted setup id csr record.identifiers

/-- The job is for a tunnel, with a request accepted for it. -/
structure Job.Requested (job : Job) (setup : Setup) (id : TunnelId) : Prop where
  kind : job.kind ≠ .server
  tunnel : job.tunnelId = some id
  valid : validTunnelId id = true
  request : Accepted setup id job.csr job.identifiers

/-- What acts bring in is as it should be: new and imported records, bound requests and queued jobs. -/
def Act.Sound (setup : Setup) : Act → Prop
  | .save id (.create hostname _ _) => validTunnelId id = true ∧ hostname = id ++ "." ++ setup.domain
  | .save id (.bind _ csr identifiers _) => Accepted setup id csr identifiers
  | .importInsert record _ => record.Requested setup record.id
  | .importUpdate record _ => record.Requested setup record.id
  | .addJob job _ => ∃ id, job.Requested setup id
  | _ => True

/-- What an act tells of the records. -/
def Act.Tells (setup : Setup) : (op : Act) → op.Ans → Prop
  | .peek id, e => ∀ record, e.record = some record → record.Requested setup id
  | _, _ => True

section Records

variable {setup : Setup} {id : TunnelId}

theorem Change.apply_requested {change : Change} {before : Option StoredTunnel} {record : StoredTunnel}
    (made : change.apply id before = some record) (requested : ∀ r, before = some r → r.Requested setup id)
    (sound : (Act.save id change).Sound setup) : record.Requested setup id := by
  have created (hostname tokenHash createdAt : String) (is : change = .create hostname tokenHash createdAt) :
      record.Requested setup id := by
    subst is
    cases made
    exact ⟨rfl, sound.1, sound.2, by simp⟩
  cases before with
  | none =>
      cases change with
      | create hostname tokenHash createdAt => exact created _ _ _ rfl
      | _ => cases made
  | some r =>
      obtain ⟨key, valid, named, request⟩ := requested r rfl
      cases change with
      | create hostname tokenHash createdAt => exact created _ _ _ rfl
      | bind c csr identifiers startedAt =>
          cases made
          refine ⟨key, valid, named, ?_⟩
          intro csr' is
          cases is
          exact sound
      | _ =>
          cases made
          exact ⟨key, valid, named, request⟩

theorem writes_requested {t : Task} {w : World} {op : Act} (each : w.Each fun id record => record.Requested setup id)
    (sound : op.Sound setup) : op.Writes (fun id record => record.Requested setup id) t w := by
  constructor
  · rintro id change record rfl made
    exact Change.apply_requested made (each.cached t.machine id) sound
  · rintro record alarmAt rfl
    exact sound
  · rintro record alarmAt rfl
    exact sound

/-- An imported record passed the check of its request. -/
theorem checkImport_requested {record : StoredTunnel}
    (passed : checkImport setup.externals record setup.domain = .ok ()) : record.Requested setup record.id := by
  unfold checkImport at passed
  rw [check_ok] at passed
  obtain ⟨valid, passed⟩ := passed
  dsimp only at passed
  rw [check_ok, check_ok] at passed
  obtain ⟨named, -, passed⟩ := passed
  refine ⟨rfl, by simpa using valid, by simpa using named, ?_⟩
  intro csr is
  rw [is] at passed
  exact .imported passed

end Records

/-! ### Programs -/

section Programs

variable {α : Type} {setup : Setup} {m : MachineId} {id : TunnelId}

/-- Every act of the program is sound, when what it reads of the records is as it should be. -/
abbrev SoundCalls (setup : Setup) (p : Call α) : Prop := Prog.AllUnder (Act.Tells setup) (Act.Sound setup) p

theorem sound_of_tag {op : Act} (create : op.tag ≠ .save .create) (bind : op.tag ≠ .save .bind)
    (imports : op.tag ≠ .importing) (queues : op.tag ≠ .addJob) : op.Sound setup := by
  cases op
  case save id change =>
      cases change
      case create => exact absurd rfl create
      case bind => exact absurd rfl bind
      all_goals trivial
  case importInsert => exact absurd rfl imports
  case importUpdate => exact absurd rfl imports
  case addJob => exact absurd rfl queues
  all_goals trivial

theorem sound_of_uses {p : Call α} {tags : List Tag} (uses : Uses tags p) (create : Tag.save .create ∉ tags)
    (bind : Tag.save .bind ∉ tags) (imports : Tag.importing ∉ tags) (queues : Tag.addJob ∉ tags) :
    Obeys (Act.Sound setup) p := by
  refine ⟨uses.all.mono ?_⟩
  intro op tagged
  apply sound_of_tag
  · exact fun is => create (is ▸ tagged)
  · exact fun is => bind (is ▸ tagged)
  · exact fun is => imports (is ▸ tagged)
  · exact fun is => queues (is ▸ tagged)

theorem lockFresh_sound : ObeysE (Act.Sound setup) (lockFresh setup m id) := by
  have uses : Uses [.look, .read] (lockFresh setup m id).run := obeys_run inferInstance
  exact ⟨(sound_of_uses uses (by decide) (by decide) (by decide) (by decide)).all⟩

theorem sound_of_obeys {p : Fallible α} (obeys : ObeysE (Act.Sound setup) p) : SoundCalls setup p.run := obeys.all.under

/-- The rest of a function that holds an entry's guard. -/
theorem sound_holding {p : Fallible α} (sound : SoundCalls setup p.run) : SoundCalls setup (holding id p).run := by
  apply Prog.under_bind sound
  intro result
  exact ⟨trivial, fun _ _ => trivial⟩

/-- A job built from a record is for the request it stores. -/
theorem ensureIssuance_sound {record : StoredTunnel} {kind : JobKind} (requested : record.Requested setup id)
    (tunnel : kind ≠ .server) : ObeysE (Act.Sound setup) (ensureIssuance record kind) := by
  unfold ensureIssuance
  dsimp only
  split
  · exact obeysE_mk (obeys_pure _)
  · rename_i c _
    split
    · exact obeysE_mk (obeys_pure _)
    · rename_i csr stored
      have queues (createdAt runAt : Nat) : Obeys (Act.Sound setup) (act (.addJob
          { certificateId := c, tunnelId := some record.id, kind := kind, identifiers := record.identifiers,
            csr := csr, attempts := 0, createdAt := createdAt } runAt)) := by
        apply obeys_act
        exact ⟨id, tunnel, congrArg some requested.key, requested.valid, requested.request csr stored⟩
      apply obeysE_bind (obeysE_lift (obeys_act trivial))
      intro createdAt
      apply obeysE_bind (obeysE_lift (obeys_act trivial))
      intro runAt
      apply obeysE_bind (obeysE_fallible (queues createdAt runAt))
      intro added
      split
      · exact obeysE_lift (obeys_act trivial)
      · exact obeysE_pure _

/-- After a save, the record that the entry then caches is queued. -/
theorem bindNew_sound {csr : String} {request : Request} (accepted : Accepted setup id csr request.identifiers) :
    SoundCalls setup (bindNew setup id csr request).run := by
  unfold bindNew
  apply Prog.under_liftActBind trivial
  intro text _
  apply Prog.under_liftActBind trivial
  intro startedAt _
  apply Prog.under_exceptBind
  · exact ⟨accepted, fun _ _ => trivial⟩
  intro _
  apply Prog.under_liftActBind trivial
  intro _ _
  apply Prog.under_liftActBind trivial
  intro e tells
  split
  · trivial
  · rename_i issuing cached
    have queues : ObeysE (Act.Sound setup) (ensureIssuance issuing .issue) :=
      ensureIssuance_sound (tells issuing cached) (by decide)
    apply sound_of_obeys
    apply obeysE_bind (obeysE_attempt (obeys_run queues))
    intro result
    split
    · exact obeysE_pure _
    · apply obeysE_bind (obeysE_fallible (obeys_act trivial))
      intro _
      exact obeysE_pure _

/-- The checks of `bind_certificate`. -/
theorem accepted_of_bind {record : StoredTunnel} {csr : String} {request : Request}
    (requested : record.Requested setup id) (parsed : setup.externals.parseCsr csr = some request)
    (common : ¬ request.hostname ≠ record.hostname)
    (names : ¬ (request.identifiers.any fun name => name != record.hostname && name != "*." ++ record.hostname) = true) :
    Accepted setup id csr request.identifiers := by
  rw [requested.named] at common names
  apply Accepted.bound request parsed (Classical.not_not.mp common) rfl
  intro name listed
  have own : ¬ (name != id ++ "." ++ setup.domain && name != "*." ++ (id ++ "." ++ setup.domain)) = true := by
    intro foreign
    exact names (List.any_eq_true.mpr ⟨name, listed, foreign⟩)
  by_cases is : name = id ++ "." ++ setup.domain
  · exact Or.inl is
  · right
    simpa [is] using own

theorem bindCertificate_sound {token csr : String} : SoundCalls setup (bindCertificate setup m id token csr).run := by
  have limits : Obeys (Act.Sound setup) (issuanceLimits setup m id).run := by
    have uses : Uses [.look] (issuanceLimits setup m id).run := obeys_run inferInstance
    exact sound_of_uses uses (by decide) (by decide) (by decide) (by decide)
  unfold bindCertificate
  apply Prog.under_exceptBind (sound_of_obeys lockFresh_sound)
  intro _
  apply sound_holding
  apply Prog.under_liftActBind trivial
  intro e tells
  split
  · trivial
  · rename_i record live
    have requested : record.Requested setup id := tells record (Option.filter_eq_some_iff.mp live).1
    have queues : ObeysE (Act.Sound setup) (ensureIssuance record .issue) :=
      ensureIssuance_sound requested (by decide)
    split
    · trivial
    · split
      · trivial
      · rename_i request parsed
        split
        · trivial
        · rename_i common
          dsimp only
          cases record.certificate with
          | none =>
              dsimp only
              split
              · trivial
              · rename_i names
                have accepted := accepted_of_bind requested parsed common names
                apply Prog.under_exceptBind limits.all.under
                intro refused
                cases refused with
                | some refused => trivial
                | none => exact bindNew_sound accepted
          | some certificate =>
              dsimp only
              split
              · trivial
              · rename_i names
                split
                · apply sound_of_obeys
                  apply obeysE_bind (obeysE_attempt (obeys_run queues))
                  intro result
                  split
                  · exact obeysE_pure _
                  · exact obeysE_pure _
                · split
                  · trivial
                  · have accepted := accepted_of_bind requested parsed common names
                    apply Prog.under_exceptBind limits.all.under
                    intro refused
                    cases refused with
                    | some refused => trivial
                    | none => exact bindNew_sound accepted

theorem startRenewal_sound {record : StoredTunnel} : SoundCalls setup (startRenewal setup id record).run := by
  unfold startRenewal
  split
  · trivial
  · apply Prog.under_liftActBind trivial
    intro text _
    apply Prog.under_liftActBind trivial
    intro startedAt _
    apply Prog.under_exceptBind
    · exact ⟨trivial, fun _ _ => trivial⟩
    intro _
    apply Prog.under_liftActBind trivial
    intro e tells
    split
    · trivial
    · rename_i renewing cached
      have queues : ObeysE (Act.Sound setup) (ensureIssuance renewing .renew) :=
        ensureIssuance_sound (tells renewing cached) (by decide)
      apply sound_of_obeys
      apply obeysE_bind (obeysE_attempt (obeys_run queues))
      intro result
      split
      · exact obeysE_pure _
      · apply obeysE_bind (obeysE_fallible (obeys_act trivial))
        intro _
        apply obeysE_bind (obeysE_lift (obeys_act trivial))
        intro now
        exact obeysE_fallible (obeys_act trivial)

theorem scheduleRenewal_sound {record : StoredTunnel} : ObeysE (Act.Sound setup) (scheduleRenewal setup record) := by
  have uses : Uses [.look, .setAlarm] (scheduleRenewal setup record).run := obeys_run inferInstance
  exact ⟨(sound_of_uses uses (by decide) (by decide) (by decide) (by decide)).all⟩

theorem isActive_sound {record : StoredTunnel} : Obeys (Act.Sound setup) (isActive setup id record) := by
  have uses : Uses [.look] (isActive setup id record) := inferInstance
  exact sound_of_uses uses (by decide) (by decide) (by decide) (by decide)

theorem alarm_sound : SoundCalls setup (alarm setup m id).run := by
  unfold alarm
  apply Prog.under_exceptBind (sound_of_obeys lockFresh_sound)
  intro _
  apply sound_holding
  apply Prog.under_liftActBind trivial
  intro e _
  split
  · trivial
  · split
    · trivial
    · apply Prog.under_liftActBind trivial
      intro now _
      split
      · trivial
      · generalize renewBeforeMs = before
        split
        · exact sound_of_obeys scheduleRenewal_sound
        · apply Prog.under_exceptBind (sound_of_obeys (obeysE_lift isActive_sound))
          intro active
          split
          · exact startRenewal_sound
          · trivial

theorem onAttached_sound {record : StoredTunnel} {alarm : Option (Option Nat)} :
    SoundCalls setup (onAttached setup id record alarm).run := by
  have schedules : ObeysE (Act.Sound setup) (scheduleRenewal setup record) := scheduleRenewal_sound
  unfold onAttached
  split
  · trivial
  · apply Prog.under_liftActBind trivial
    intro now _
    split
    · exact startRenewal_sound
    · apply sound_of_obeys
      have rest (current : Option Nat) : ObeysE (Act.Sound setup)
          (if current.isNone then scheduleRenewal setup record else pure ()) := by
        split
        · exact schedules
        · exact obeysE_pure _
      dsimp only
      split
      · exact obeysE_bind (obeysE_pure _) rest
      · exact obeysE_bind (obeysE_fallible (obeys_act trivial)) rest

theorem afterAttach_sound {b : BridgeId} {alarm : Option (Option Nat)} :
    SoundCalls setup (afterAttach setup id b alarm) := by
  unfold afterAttach
  apply Prog.under_actBind trivial
  intro _ _
  refine Prog.under_bind ?_ fun _ => trivial
  apply sound_holding
  apply Prog.under_liftActBind trivial
  intro e _
  split
  · trivial
  · apply Prog.under_liftActBind trivial
    intro attached _
    split
    · trivial
    · apply Prog.under_liftActBind trivial
      intro now _
      split
      · apply Prog.under_exceptBind
        · exact ⟨trivial, fun _ _ => trivial⟩
        intro _
        apply Prog.under_liftActBind trivial
        intro e _
        split
        · exact onAttached_sound
        · trivial
      · apply Prog.under_liftActBind trivial
        intro e _
        split
        · exact onAttached_sound
        · trivial

theorem resumeOrphan_sound {graceMs now : Nat} {candidate : StoredTunnel} :
    SoundCalls setup (resumeOrphan setup m graceMs now candidate).run := by
  unfold resumeOrphan
  apply Prog.under_exceptBind (sound_of_obeys lockFresh_sound)
  intro _
  apply sound_holding
  apply Prog.under_liftActBind trivial
  intro e tells
  split
  · trivial
  · rename_i record live
    have requested : record.Requested setup candidate.id := tells record (Option.filter_eq_some_iff.mp live).1
    have issues : ObeysE (Act.Sound setup) (ensureIssuance record .issue) :=
      ensureIssuance_sound requested (by decide)
    have renews : ObeysE (Act.Sound setup) (ensureIssuance record .renew) :=
      ensureIssuance_sound requested (by decide)
    apply sound_of_obeys
    exact .of_rules

theorem resumeOrphanedIssuance_sound {graceMs : Nat} : SoundCalls setup (resumeOrphanedIssuance setup m graceMs).run := by
  unfold resumeOrphanedIssuance
  apply Prog.under_liftActBind trivial
  intro now _
  apply Prog.under_exceptBind
  · exact ⟨trivial, fun _ _ => trivial⟩
  intro candidates
  induction candidates with
  | nil => trivial
  | cons candidate rest ih =>
      apply Prog.under_exceptBind resumeOrphan_sound
      intro _
      exact ih

theorem fireAlarms_sound (due : List TunnelId) : SoundCalls setup (fireAlarms setup m due).run := by
  induction due with
  | nil => trivial
  | cons id rest ih =>
      have retries : ObeysE (Act.Sound setup) (retryAlarm id) := by
        unfold retryAlarm
        apply obeysE_bind (obeysE_lift (obeys_act trivial))
        intro _
        apply obeysE_bind (obeysE_lift (obeys_act trivial))
        intro now
        exact obeysE_fallible (obeys_act trivial)
      apply Prog.under_exceptBind
      · unfold fireAlarm
        apply Prog.under_exceptBind
        · exact Prog.under_bind alarm_sound fun _ => trivial
        · intro result
          cases result with
          | ok _ => trivial
          | error _ => exact sound_of_obeys retries
      · intro _
        exact ih

theorem fireDueAlarms_sound : SoundCalls setup (fireDueAlarms setup m).run := by
  unfold fireDueAlarms
  apply Prog.under_liftActBind trivial
  intro now _
  apply Prog.under_exceptBind
  · have uses : Uses [.look, .clearAlarm] (takeDueAlarms now).run := obeys_run inferInstance
    exact (sound_of_uses uses (by decide) (by decide) (by decide) (by decide)).all.under
  · rintro ⟨due, next⟩
    apply Prog.under_exceptBind (fireAlarms_sound due)
    intro _
    apply sound_of_obeys
    split
    · exact obeysE_pure _
    · apply obeysE_bind (obeysE_lift (obeys_act trivial))
      intro now
      exact obeysE_pure _

theorem create_sound {tokenHash : String} (valid : validTunnelId id = true) :
    ObeysE (Act.Sound setup) (create setup m id tokenHash) := by
  have locks : ObeysE (Act.Sound setup) (lockFresh setup m id) := lockFresh_sound
  have saves (createdAt : String) : Obeys (Act.Sound setup)
      (act (.save id (.create (id ++ "." ++ setup.domain) tokenHash createdAt))) := obeys_act ⟨valid, rfl⟩
  have unlocks : Unlocks (Act.Sound setup) := ⟨fun _ => trivial⟩
  unfold create
  apply obeysE_bind locks
  intro _
  apply obeysE_holding _ unlocks
  apply obeysE_bind (obeysE_lift (obeys_act trivial))
  intro e
  split
  · exact obeysE_pure _
  · apply obeysE_bind (obeysE_lift (obeys_act trivial))
    intro now
    apply obeysE_bind (obeysE_fallible (saves _))
    intro _
    apply obeysE_bind (obeysE_lift (obeys_act trivial))
    intro _
    apply obeysE_bind (obeysE_fallible (obeys_act trivial))
    intro _
    exact obeysE_pure _

theorem import_sound : ImportsObey setup (Act.Sound setup) where
  inserts := fun _ _ checked => checkImport_requested checked
  updates := fun _ _ checked => checkImport_requested checked
  selects := fun _ => trivial
  commits := fun _ => trivial
  forgets := by
    intro op within
    apply sound_of_tag
    all_goals
      intro is
      simp [Act.Within, is] at within

/-- New tunnels get an ID that can name one (`slug`). -/
def Creates (job : Task → Operation) : Prop :=
  ∀ t id tokenHash, job t = .create id tokenHash → validTunnelId id = true

theorem program_sound {job : Task → Operation} (creates : Creates job) (t : Task) :
    SoundCalls setup (program setup t (job t)) := by
  have ignored {β : Type} {p : Fallible β} (sound : SoundCalls setup p.run) : SoundCalls setup (ignore p) :=
    Prog.under_bind sound fun _ => trivial
  have uses := program_uses setup t (job t)
  cases is : job t with
  | create id tokenHash => exact ignored (sound_of_obeys (create_sound (creates t id tokenHash is)))
  | bindCertificate id token csr => exact ignored bindCertificate_sound
  | afterAttach id b alarm => exact afterAttach_sound
  | fireDueAlarms => exact ignored fireDueAlarms_sound
  | resumeOrphanedIssuance graceMs => exact ignored resumeOrphanedIssuance_sound
  | importFile force records => exact (importFile_obeys import_sound force records).all.under
  | _ =>
      rw [is] at uses
      have obeys : Obeys (Act.Sound setup) _ :=
        sound_of_uses uses (by simp [footprint]) (by simp [footprint]) (by simp [footprint]) (by simp [footprint])
      exact obeys.all.under

end Programs

/-! ### Queued jobs -/

/-- Follows the jobs that are queued. -/
def queueing (setup : Setup) : Ghost (system setup) (List Job) where
  call := fun _ op _ _ _ queued =>
    match op with
    | .addJob job _ => queued ++ [job]
    | _ => queued

/-- Every record stores an accepted request, and every job so far was queued with one. -/
def requestRules (setup : Setup) : Rules Task (World × List Job) where
  inv := fun s => (s.1.Each fun id record => record.Requested setup id) ∧ ∀ job ∈ s.2, ∃ id, job.Requested setup id
  rely := fun _ _ _ => True

section Runs

variable {setup : Setup} {job : Task → Operation} {t : Task} {op : Act} {c : Choice} {s s' : World × List Job}
  {ans : op.Ans}

/-- What an act queues. -/
theorem queueing_step (history : s'.2 = (queueing setup).call t op ans s.1 s'.1 s.2) :
    s'.2 = s.2 ∨ ∃ job runAt, op = .addJob job runAt ∧ s'.2 = s.2 ++ [job] := by
  rw [history]
  cases op
  case addJob job runAt => exact Or.inr ⟨job, runAt, rfl, rfl⟩
  all_goals exact Or.inl rfl

theorem harmless_of_sound (inv : (requestRules setup).inv s) (sound : op.Sound setup)
    (h : ((system setup).withGhost (queueing setup)).exec t op c s = some (ans, s')) :
    (requestRules setup).Harmless t s s' := by
  obtain ⟨each, queued⟩ := inv
  obtain ⟨executed, history⟩ := withGhost_exec.mp h
  have executed : exec setup t op c s.1 = some (ans, s'.1) := executed
  refine ⟨⟨?_, ?_⟩, fun _ _ => trivial⟩
  · exact each.step (fun _ _ requested => requested.key) (writes_requested each sound) executed
  · rcases queueing_step history with same | ⟨job, runAt, rfl, same⟩
    · rw [same]
      exact queued
    · rw [same]
      intro job' listed
      rcases List.mem_append.mp listed with before | now
      · exact queued job' before
      · rw [List.mem_singleton.mp now]
        exact sound

/-- A lock's holder sees a record that stores an accepted request. -/
theorem tells_of_inv (inv : (requestRules setup).inv s)
    (h : ((system setup).withGhost (queueing setup)).exec t op c s = some (ans, s')) : Act.Tells setup op ans := by
  cases op
  case peek id =>
      have peeked : exec setup t (.peek id) c s.1 = some (ans, s'.1) := (withGhost_exec.mp h).1
      obtain ⟨-, held, -⟩ := exec_peek peeked
      intro record cached
      rw [held] at cached
      exact inv.1.cached t.machine id record cached
  all_goals trivial

theorem safe_of_sound {α : Type} {p : Call α} (sound : SoundCalls setup p) (s : World × List Job) :
    (requestRules setup).Safe ((running setup job).withGhost (queueing setup)) t p (fun _ _ => True) s := by
  refine Rules.safe_of_under (fun _ _ _ _ _ => trivial) ?_ sound trivial
  intro op c s ans s' sound inv _ _ executed
  exact ⟨harmless_of_sound inv sound executed, tells_of_inv inv executed, trivial⟩

theorem requests_kept (creates : Creates job) {w₀ : World} (started : w₀.Started)
    (requested : ∀ id row, w₀.db.row id = some row → row.record.Requested setup id)
    {cfg : Config Task Act Act.Ans (World × List Job)}
    (reach : ((system setup).withGhost (queueing setup)).Reach ((running setup job).withGhost (queueing setup))
      (idle (w₀, [])) cfg) : (requestRules setup).inv cfg.shared := by
  refine (Reach.safe (R := requestRules setup) reach ?_ ?_ ?_).1
  · exact ⟨started.each requested, by simp⟩
  · rintro t _ s rfl _
    exact safe_of_sound (program_sound creates t) s
  · intro mv s s' _ inv h
    obtain ⟨moved, history⟩ := withGhost_move.mp h
    refine ⟨⟨inv.1.move moved, ?_⟩, fun _ => trivial⟩
    rw [history]
    exact inv.2

end Runs

/-- What the servers accept, the runner permits, but for a request without the hostname: every job that is queued, by a
    bind, a renewal or a resumed issuance, passes the runner's check if and only if the tunnel's hostname is among the
    names of its request. -/
theorem accepted_requests_permitted (setup : Setup) (job : Task → Operation) (creates : Creates job) {w₀ : World}
    (started : w₀.Started) (requested : ∀ id row, w₀.db.row id = some row → row.record.Requested setup id)
    {cfg : Config Task Act Act.Ans (World × List Job)}
    (reach : ((system setup).withGhost (queueing setup)).Reach ((running setup job).withGhost (queueing setup))
      (idle (w₀, [])) cfg) :
    ∀ queued ∈ cfg.shared.2, ∃ id, queued.tunnelId = some id ∧ Accepted setup id queued.csr queued.identifiers ∧
      (permitted setup queued = .ok () ↔
        ∃ name ∈ queued.identifiers, SameName name (id ++ "." ++ setup.domain)) := by
  intro queued listed
  obtain ⟨id, request⟩ := (requests_kept creates started requested reach).2 queued listed
  exact ⟨id, request.tunnel, request.request,
    request.request.permitted_iff request.kind request.tunnel request.valid⟩

namespace Sample

/-- A certificate request for `a.opentunnel.test`, with the name `*.a.opentunnel.test` only. -/
def wildcardCsr : String :=
  "MIIBBzCBrwIBADAcMRowGAYDVQQDDBFhLm9wZW50dW5uZWwudGVzdDBZMBMGByqGSM49AgEGCCqGSM49AwEHA0IABCGqBDWF" ++
  "iVuBJlKzkVMo0D6tmFMxpTR+IVnuT5juSqoeiwk+tsRRCNbXcwa+QxuD7wk1D5oLlpGv7a0o+VuY19WgMTAvBgkqhkiG9w0B" ++
  "CQ4xIjAgMB4GA1UdEQQXMBWCEyouYS5vcGVudHVubmVsLnRlc3QwCgYIKoZIzj0EAwIDRwAwRAIgc0gLkziRJy+SwbV4iMzR" ++
  "5oToREitNcTeBTti5f9cb84CIBjVb5XBA/g6jB+QqWZbwiX9IBzDmnd4iQyCyCMVCU1J"

def requestSetup : Setup :=
  { setup false with
    externals := { externals with
      readCsr := fun text =>
        if text = csr then some ⟨[some "a.opentunnel.test"], [[.dns "a.opentunnel.test"]]⟩
        else if text = wildcardCsr then some ⟨[some "a.opentunnel.test"], [[.dns "*.a.opentunnel.test"]]⟩
        else none } }

/-- Every task binds this request. -/
def requesting (csr : String) (_ : Task) : Operation := .bindCertificate "a" "secret" csr

/-- A request is bound. -/
def bound (csr : String) : Option (Config Task Act Act.Ans (World × List Job)) :=
  play ((running requestSetup (requesting csr)).withGhost (queueing requestSetup))
    (.start ⟨"m1", 0⟩ (requesting csr ⟨"m1", 0⟩) :: List.replicate 16 (.call ⟨"m1", 0⟩ plain))
    (idle (world (db [newTunnel]), []))

theorem requesting_creates (csr : String) : Creates (requesting csr) := by
  intro t id tokenHash is
  cases is

theorem newTunnel_requested (id : TunnelId) (row : Row) (found : (db [newTunnel]).row id = some row) :
    row.record.Requested requestSetup id := by
  simp only [db, List.foldl_cons, List.foldl_nil, Db.row_putRow] at found
  split at found
  · rename_i here
    cases found
    rw [here]
    exact ⟨rfl, by decide, rfl, by simp [Db.savedRow, newTunnel]⟩
  · cases found

/-- The jobs queued: their names, tunnels and requests, and whether they are permitted. -/
def queuedJobs (csr : String) : Option (List (List String × Option TunnelId × String × Except String Unit)) :=
  (bound csr).map fun cfg => cfg.shared.2.map fun job =>
    (job.identifiers, job.tunnelId, job.csr, permitted requestSetup job)

end Sample

/-- A request for the hostname is bound, and its job is permitted. -/
theorem accepted_requests_permitted_hostname :
    ∃ cfg, ((system Sample.requestSetup).withGhost (queueing Sample.requestSetup)).Reach
        ((running Sample.requestSetup (Sample.requesting Sample.csr)).withGhost (queueing Sample.requestSetup))
        (idle (Sample.world (Sample.db [Sample.newTunnel]), [])) cfg ∧
      ∃ queued ∈ cfg.shared.2, permitted Sample.requestSetup queued = .ok () := by
  have seen : Sample.queuedJobs Sample.csr = some [(["a.opentunnel.test"], some "a", Sample.csr, .ok ())] := by
    decide +kernel
  obtain ⟨cfg, ran, seen⟩ := Option.map_eq_some_iff.mp seen
  have reach := reach_of_play ran
  obtain ⟨queued, rest, listed, is, -⟩ := List.map_eq_cons_iff.mp seen
  simp only [Prod.mk.injEq] at is
  obtain ⟨names, tunnel, -⟩ := is
  have member : queued ∈ cfg.shared.2 := by simp [listed]
  obtain ⟨id, tunnelId, -, permits⟩ := accepted_requests_permitted _ _ (Sample.requesting_creates _) (Sample.started _)
    Sample.newTunnel_requested reach queued member
  rw [tunnel] at tunnelId
  cases tunnelId
  refine ⟨cfg, reach, queued, member, permits.mpr ?_⟩
  exact ⟨"a.opentunnel.test", by simp [names], by decide⟩

/-- A request for the wildcard alone is bound and queued, and its job is not permitted. -/
theorem wildcard_request_refused :
    ∃ cfg, ((system Sample.requestSetup).withGhost (queueing Sample.requestSetup)).Reach
        ((running Sample.requestSetup (Sample.requesting Sample.wildcardCsr)).withGhost (queueing Sample.requestSetup))
        (idle (Sample.world (Sample.db [Sample.newTunnel]), [])) cfg ∧
      ∃ queued ∈ cfg.shared.2, queued.csr = Sample.wildcardCsr ∧
        permitted Sample.requestSetup queued = .error "a.opentunnel.test is not requested" := by
  have seen : Sample.queuedJobs Sample.wildcardCsr = some
      [(["*.a.opentunnel.test"], some "a", Sample.wildcardCsr, .error "a.opentunnel.test is not requested")] := by
    decide +kernel
  obtain ⟨cfg, ran, seen⟩ := Option.map_eq_some_iff.mp seen
  obtain ⟨queued, rest, listed, is, -⟩ := List.map_eq_cons_iff.mp seen
  simp only [Prod.mk.injEq] at is
  exact ⟨cfg, reach_of_play ran, queued, by simp [listed], is.2.2.1, is.2.2.2⟩

end OpenTunnel
