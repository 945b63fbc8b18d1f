/-
Module: OpenTunnel.Proofs.Footprint
Layer: Proofs
Purpose: Which acts each operation can make. An act's tag forgets its arguments; a function's footprint is the list
  of tags of all the acts it can ever make, on any path. Invariants use footprints to say that only some
  operations touch a part of the state.
Imports: OpenTunnel.Model.Jobs
Trusted boundary: none (fully proved)
Main exports: Tag, Act.tag, Obeys, ObeysE, Uses, UsesE, footprint, program_uses
Open obligations: none
-/
import OpenTunnel.Model.Jobs

namespace OpenTunnel

open Tasks

/-! ### Tags -/

/-- The kinds of record changes. -/
inductive ChangeKind where
  | create
  | bind
  | bindFailed
  | delete
  | certificate
  | renewed
  | clearRenewal
  | connected
  | renew
  | restoreRenewal
  | reissue
deriving DecidableEq, Repr

def Change.kind : Change → ChangeKind
  | .create .. => .create
  | .bind .. => .bind
  | .bindFailed .. => .bindFailed
  | .delete _ => .delete
  | .certificate .. => .certificate
  | .renewed .. => .renewed
  | .clearRenewal => .clearRenewal
  | .connected _ => .connected
  | .renew .. => .renew
  | .restoreRenewal _ => .restoreRenewal
  | .reissue _ => .reissue

/-- What an act is about. `look` acts only read, lock, or change what nobody decides by. -/
inductive Tag where
  | look
  | read
  | collect
  | unload
  | save (kind : ChangeKind)
  | setAlarm
  | clearAlarm
  | importing
  | addJob
  | claimJob
  | extendLease
  | releaseLeases
  | finishJob
  | retryJob
  | requeue
  | running
  | register
  | retire
  | attach
  | connect
  | closeBridges
  | closed
  | drain
  | publish
  | receive
  | handled
deriving DecidableEq, Repr

def Act.tag : Act → Tag
  | .read _ => .read
  | .collectIdle => .collect
  | .unload _ => .unload
  | .save _ change => .save change.kind
  | .setAlarm .. => .setAlarm
  | .clearAlarm .. => .clearAlarm
  | .importInsert .. => .importing
  | .importSelect _ => .importing
  | .importUpdate .. => .importing
  | .importCommit _ => .importing
  | .addJob .. => .addJob
  | .claimJob .. => .claimJob
  | .extendLease .. => .extendLease
  | .releaseLeases => .releaseLeases
  | .finishJob .. => .finishJob
  | .retryJob .. => .retryJob
  | .requeueFailedJob .. => .requeue
  | .requeueJobQueuedBefore .. => .requeue
  | .startRunning _ => .running
  | .stopRunning _ => .running
  | .registerBridge _ => .register
  | .retireStale _ => .retire
  | .attachBridge .. => .attach
  | .pick .. => .connect
  | .closeBridges _ => .closeBridges
  | .closedBridge .. => .closed
  | .setDraining => .drain
  | .drainBridge _ => .drain
  | .publish _ => .publish
  | .receive => .receive
  | .handled => .handled
  | _ => .look

/-! ### Rules -/

/-- The tag is in the list. -/
class HasTag (tag : Tag) (tags : List Tag) : Prop where
  mem : tag ∈ tags

instance HasTag.head {tag : Tag} {tags : List Tag} : HasTag tag (tag :: tags) := ⟨List.mem_cons_self⟩

instance HasTag.tail {tag other : Tag} {tags : List Tag} [has : HasTag tag tags] :
    HasTag tag (other :: tags) := ⟨List.mem_cons_of_mem _ has.mem⟩

/-- Every act of the program, on any path, satisfies `φ`. -/
class Obeys {α : Type} (φ : Act → Prop) (p : Call α) : Prop where
  all : Prog.All φ p

/-- The same for a fallible program. -/
class ObeysE {α : Type} (φ : Act → Prop) (p : Fallible α) : Prop where
  all : Prog.All φ p.run

/-- The act has one of the tags. -/
def Act.Within (tags : List Tag) (op : Act) : Prop := op.tag ∈ tags

abbrev Uses {α : Type} (tags : List Tag) (p : Call α) : Prop := Obeys (Act.Within tags) p

abbrev UsesE {α : Type} (tags : List Tag) (p : Fallible α) : Prop := ObeysE (Act.Within tags) p

section Rules

variable {α β : Type} {φ : Act → Prop}

theorem obeys_act {op : Act} (holds : φ op) : Obeys φ (act op) := ⟨holds, fun _ => trivial⟩

theorem uses_act {tags : List Tag} {op : Act} (has : HasTag op.tag tags) : Uses tags (act op) := obeys_act has.mem

instance obeys_pure (a : α) : Obeys φ (pure a) := ⟨trivial⟩

/-- A program obeys if its parts do. -/
theorem obeys_bind {p : Call α} {f : α → Call β} (first : Obeys φ p) (rest : ∀ a, Obeys φ (f a)) :
    Obeys φ (p >>= f) := ⟨Prog.all_bind first.all fun a => (rest a).all⟩

theorem obeys_run {p : Fallible α} (obeys : ObeysE φ p) : Obeys φ p.run := ⟨obeys.all⟩

theorem obeys_ignore {p : Fallible α} (obeys : ObeysE φ p) : Obeys φ (ignore p) :=
  obeys_bind (obeys_run obeys) fun _ => obeys_pure _

/-- A loop obeys if its body does. -/
theorem obeys_forM {f : β → Call Unit} {items : List β} (each : ∀ b, Obeys φ (f b)) :
    Obeys φ (items.forM f) := by
  induction items with
  | nil => exact obeys_pure ()
  | cons b rest ih => exact obeys_bind (each b) fun _ => ih

instance obeysE_pure (a : α) : ObeysE φ (pure a) := ⟨trivial⟩

instance obeysE_throw (err : Err) : ObeysE φ (throw err : Fallible α) := ⟨trivial⟩

/-- A program that may fail obeys if its parts do, up to where it fails. -/
theorem obeysE_bind {p : Fallible α} {f : α → Fallible β} (first : ObeysE φ p)
    (rest : ∀ a, ObeysE φ (f a)) : ObeysE φ (p >>= f) :=
  ⟨Prog.all_exceptBind first.all fun a => (rest a).all⟩

theorem obeysE_lift {p : Call α} (obeys : Obeys φ p) : ObeysE φ (liftM p) :=
  ⟨(obeys_bind obeys fun _ => obeys_pure _).all⟩

theorem obeysE_exceptLift {p : Call α} (obeys : Obeys φ p) : ObeysE φ (ExceptT.lift p) :=
  ⟨(obeys_bind obeys fun _ => obeys_pure _).all⟩

theorem obeysE_attempt {p : Call (Except Err α)} (obeys : Obeys φ p) : ObeysE φ (attempt p) :=
  ⟨(obeys_bind obeys fun _ => obeys_pure _).all⟩

theorem obeysE_fallible {p : Call (Except Err α)} (obeys : Obeys φ p) : ObeysE φ (fallible p) :=
  ⟨obeys.all⟩

theorem obeysE_mk {p : Call (Except Err α)} (obeys : Obeys φ p) : ObeysE φ (ExceptT.mk p) :=
  ⟨obeys.all⟩

/-- Dropping a guard is an act that only looks. -/
class Unlocks (φ : Act → Prop) : Prop where
  unlock : ∀ id, φ (.unlock id)

instance {tags : List Tag} [has : HasTag .look tags] : Unlocks (Act.Within tags) := ⟨fun _ => has.mem⟩

/-- A guard obeys if its body does and an unlock is allowed. -/
theorem obeysE_holding {p : Fallible α} {id : TunnelId} (obeys : ObeysE φ p) (look : Unlocks φ) :
    ObeysE φ (holding id p) :=
  ⟨(obeys_bind (obeys_run obeys) fun _ =>
    obeys_bind (obeys_act (look.unlock id)) fun _ => obeys_pure _).all⟩

/-- A loop that may fail obeys if its body does. -/
theorem obeysE_forM {f : β → Fallible Unit} {items : List β} (each : ∀ b, ObeysE φ (f b)) :
    ObeysE φ (items.forM f) := by
  induction items with
  | nil => exact obeysE_pure ()
  | cons b rest ih => exact obeysE_bind (each b) fun _ => ih

/-- By the rules above, through every branch: the default proof of each hypothesis below. -/
theorem ObeysE.of_rules {p : Fallible α}
    (obeys : ObeysE φ p := by
      repeat' first
        | dsimp only
        | split
        | with_reducible first
          | apply obeysE_bind
          | apply obeysE_lift
          | apply obeysE_exceptLift
          | apply obeysE_attempt
          | apply obeysE_fallible
          | apply obeysE_holding
          | apply obeysE_mk
          | apply obeysE_forM
          | apply obeys_bind
          | apply obeys_run
          | apply obeys_forM
          | (apply uses_act; dsimp only [Act.tag, Change.kind]; infer_instance)
        | infer_instance
        | intro _
        | exact obeys_act trivial
        | exact obeys_act rfl) : ObeysE φ p := obeys

theorem Obeys.of_rules {p : Call α}
    (obeys : Obeys φ p := by
      repeat' first
        | dsimp only
        | split
        | with_reducible first
          | apply obeys_bind
          | apply obeys_run
          | apply obeys_forM
          | (apply uses_act; dsimp only [Act.tag, Change.kind]; infer_instance)
          | apply obeysE_bind
          | apply obeysE_lift
          | apply obeysE_exceptLift
          | apply obeysE_attempt
          | apply obeysE_fallible
          | apply obeysE_holding
          | apply obeysE_mk
          | apply obeysE_forM
        | infer_instance
        | intro _
        | exact obeys_act trivial
        | exact obeys_act rfl) : Obeys φ p := obeys

end Rules

/-! ### Operations -/

section Footprints

variable {setup : Setup} {m : MachineId} {tags : List Tag} [HasTag .look tags]

instance load_uses {id : TunnelId} [HasTag .read tags] : UsesE tags (load id) := by
  unfold load
  exact .of_rules

instance lock_uses {id : TunnelId} [HasTag .read tags] : UsesE tags (lock id) := by
  unfold lock
  exact .of_rules

instance refresh_uses {id : TunnelId} {e : Entry} [HasTag .read tags] : Uses tags (refresh id e) := by
  unfold refresh
  exact .of_rules

instance lockFresh_uses {id : TunnelId} [HasTag .read tags] : UsesE tags (lockFresh setup m id) := by
  unfold lockFresh
  exact .of_rules

instance lockRoutable_uses {id : TunnelId} [HasTag .read tags] : UsesE tags (lockRoutable setup m id) := by
  unfold lockRoutable
  exact .of_rules

instance lockForAttach_uses {id : TunnelId} [HasTag .read tags] : UsesE tags (lockForAttach setup m id) := by
  unfold lockForAttach
  exact .of_rules

instance expire_uses {id : TunnelId} : Uses tags (expire id) := by
  unfold expire
  exact .of_rules

instance invalidate_uses {id : TunnelId} [HasTag .unload tags] : Uses tags (invalidate id) := by
  unfold invalidate
  exact .of_rules

instance create_uses {id : TunnelId} {tokenHash : String}
    [HasTag .read tags] [HasTag (.save .create) tags] [HasTag .publish tags] [HasTag .setAlarm tags] :
    UsesE tags (create setup m id tokenHash) := by
  unfold create
  exact .of_rules

instance ensureIssuance_uses {record : StoredTunnel} {kind : JobKind}
    [HasTag .addJob tags] [HasTag .publish tags] :
    UsesE tags (ensureIssuance record kind) := by
  unfold ensureIssuance
  exact .of_rules

instance issuanceLimits_uses {id : TunnelId} : UsesE tags (issuanceLimits setup m id) := by
  unfold issuanceLimits
  exact .of_rules

instance bindNew_uses {id : TunnelId} {csr : String} {request : Request}
    [HasTag (.save .bind) tags] [HasTag (.save .bindFailed) tags] [HasTag .addJob tags] [HasTag .publish tags] :
    UsesE tags (bindNew setup id csr request) := by
  unfold bindNew
  exact .of_rules

instance bindCertificate_uses {id : TunnelId} {token csr : String}
    [HasTag .read tags] [HasTag (.save .bind) tags] [HasTag (.save .bindFailed) tags] [HasTag .addJob tags] [HasTag .publish tags] :
    UsesE tags (bindCertificate setup m id token csr) := by
  unfold bindCertificate
  exact .of_rules

instance remove_uses {id : TunnelId} {token : String}
    [HasTag .read tags] [HasTag .closeBridges tags] [HasTag (.save .delete) tags] [HasTag .publish tags] [HasTag .setAlarm tags] :
    UsesE tags (remove setup m id token) := by
  unfold remove
  exact .of_rules

instance scheduleRenewal_uses {record : StoredTunnel} [HasTag .setAlarm tags] :
    UsesE tags (scheduleRenewal setup record) := by
  unfold scheduleRenewal
  exact .of_rules

instance updateRenewal_uses {id : TunnelId} {renewal : Renewal} {input : CertificateState} {now : Nat}
    [HasTag (.save .renewed) tags] [HasTag (.save .clearRenewal) tags] [HasTag .publish tags] [HasTag .setAlarm tags] :
    UsesE tags (updateRenewal setup id renewal input now) := by
  unfold updateRenewal
  exact .of_rules

instance updateCurrent_uses {id : TunnelId} {c : CertificateId} {input : CertificateState}
    [HasTag (.save .certificate) tags] [HasTag .publish tags] [HasTag .setAlarm tags] :
    UsesE tags (updateCurrent setup id c input) := by
  unfold updateCurrent
  exact .of_rules

instance updateCertificate_uses {id : TunnelId} {c : CertificateId} {input : CertificateState}
    [HasTag .read tags] [HasTag (.save .certificate) tags] [HasTag (.save .renewed) tags] [HasTag (.save .clearRenewal) tags] [HasTag .publish tags] [HasTag .setAlarm tags] :
    UsesE tags (updateCertificate setup m id c input) := by
  unfold updateCertificate
  exact .of_rules

instance wantsCertificate_uses {id : TunnelId} {c : CertificateId} [HasTag .read tags] :
    UsesE tags (wantsCertificate setup m id c) := by
  unfold wantsCertificate
  exact .of_rules

instance isActive_uses {id : TunnelId} {record : StoredTunnel} : Uses tags (isActive setup id record) := by
  unfold isActive
  exact .of_rules

instance startRenewal_uses {id : TunnelId} {record : StoredTunnel}
    [HasTag (.save .renew) tags] [HasTag (.save .restoreRenewal) tags] [HasTag .addJob tags] [HasTag .publish tags] [HasTag .setAlarm tags] :
    UsesE tags (startRenewal setup id record) := by
  unfold startRenewal
  exact .of_rules

instance alarm_uses {id : TunnelId}
    [HasTag .read tags] [HasTag (.save .renew) tags] [HasTag (.save .restoreRenewal) tags] [HasTag .addJob tags] [HasTag .publish tags] [HasTag .setAlarm tags] :
    UsesE tags (alarm setup m id) := by
  unfold alarm
  exact .of_rules

instance onAttached_uses {id : TunnelId} {record : StoredTunnel} {alarm : Option (Option Nat)}
    [HasTag (.save .renew) tags] [HasTag (.save .restoreRenewal) tags] [HasTag .addJob tags] [HasTag .publish tags] [HasTag .setAlarm tags] :
    UsesE tags (onAttached setup id record alarm) := by
  unfold onAttached
  exact .of_rules

instance resumeOrphan_uses {graceMs now : Nat} {candidate : StoredTunnel}
    [HasTag .read tags] [HasTag .addJob tags] [HasTag .publish tags] :
    UsesE tags (resumeOrphan setup m graceMs now candidate) := by
  unfold resumeOrphan
  exact .of_rules

instance resumeOrphanedIssuance_uses {graceMs : Nat}
    [HasTag .read tags] [HasTag .addJob tags] [HasTag .publish tags] :
    UsesE tags (resumeOrphanedIssuance setup m graceMs) := by
  unfold resumeOrphanedIssuance
  exact .of_rules

instance retryFailedJob_uses {now : Nat} {job : FailedJob}
    [HasTag .read tags] [HasTag .requeue tags] [HasTag (.save .reissue) tags] :
    UsesE tags (retryFailedJob setup m now job) := by
  unfold retryFailedJob
  exact .of_rules

instance retryPendingJob_uses {now : Nat} {seen : List CertificateId} {job : FailedJob}
    [HasTag .read tags] [HasTag .requeue tags] [HasTag (.save .reissue) tags] :
    UsesE tags (retryPendingJob setup m now seen job) := by
  unfold retryPendingJob
  exact .of_rules

instance requeued_uses {retry : FailedJob → Fallible Bool} [each : ∀ job, UsesE tags (retry job)]
    {jobs : List FailedJob} : UsesE tags (requeued retry jobs) := by
  induction jobs with
  | nil => exact obeysE_pure _
  | cons job rest ih =>
      unfold requeued
      exact .of_rules

instance retryFailedIssuance_uses
    [HasTag .read tags] [HasTag .requeue tags] [HasTag (.save .reissue) tags] [HasTag .publish tags] :
    UsesE tags (retryFailedIssuance setup m) := by
  unfold retryFailedIssuance
  exact .of_rules

instance tunnelExists_uses {id : TunnelId} [HasTag .read tags] : UsesE tags (tunnelExists setup m id) := by
  unfold tunnelExists
  exact .of_rules

instance registerBridge_uses {id : TunnelId} [HasTag .read tags] [HasTag .register tags] :
    UsesE tags (registerBridge setup m id) := by
  unfold registerBridge
  exact .of_rules

instance attachLocked_uses {id : TunnelId} {b : BridgeId} {token : String} {routes : List String} {maxConns : Option Nat}
    {alarm : Option (Option Nat)}
    [HasTag .retire tags] [HasTag .attach tags] :
    UsesE tags (attachLocked setup m id b token routes maxConns alarm) := by
  unfold attachLocked
  exact .of_rules

instance attach_uses {id : TunnelId} {b : BridgeId} {token : String} {routes : List String} {maxConns : Option Nat}
    [HasTag .read tags] [HasTag .retire tags] [HasTag .attach tags] :
    UsesE tags (attach setup m id b token routes maxConns) := by
  unfold attach
  exact .of_rules

instance afterAttach_uses {id : TunnelId} {b : BridgeId} {alarm : Option (Option Nat)}
    [HasTag (.save .connected) tags] [HasTag (.save .renew) tags] [HasTag (.save .restoreRenewal) tags] [HasTag .addJob tags] [HasTag .publish tags] [HasTag .setAlarm tags] :
    Uses tags (afterAttach setup id b alarm) := by
  unfold afterAttach
  exact .of_rules

instance bridgeClosed_uses {id : TunnelId} {b : BridgeId} [HasTag .closed tags] :
    Uses tags (bridgeClosed id b) := by
  unfold bridgeClosed
  exact .of_rules

instance attachUntil_uses {id : TunnelId} {b : BridgeId} {requests : List AttachRequest} [HasTag .read tags]
    [HasTag .retire tags] [HasTag .attach tags] : Uses tags (attachUntil setup m id b requests) := by
  induction requests with
  | nil => exact obeys_pure ()
  | cons request rest ih =>
      unfold attachUntil
      exact .of_rules

instance session_uses {id : TunnelId} {requests : List AttachRequest}
    [HasTag .read tags] [HasTag .register tags] [HasTag .retire tags] [HasTag .attach tags] [HasTag .closed tags] :
    Uses tags (session setup m id requests) := by
  unfold session
  exact .of_rules

instance sweepEntry_uses {id : TunnelId} [HasTag .retire tags] : Uses tags (sweepEntry id) := by
  unfold sweepEntry
  exact .of_rules

instance sweep_uses [HasTag .retire tags] [HasTag .collect tags] : Uses tags (sweep) := by
  unfold sweep
  exact .of_rules

instance route_uses {id : TunnelId} {sni : String}
    [HasTag .read tags] [HasTag .retire tags] [HasTag .connect tags] :
    UsesE tags (route setup m id sni) := by
  unfold route
  exact .of_rules

instance heldRoutes_uses {id : TunnelId} [HasTag .retire tags] : Uses tags (heldRoutes id) := by
  unfold heldRoutes
  exact .of_rules

instance drain_uses [HasTag .drain tags] : Uses tags (drain) := by
  unfold drain
  exact .of_rules

instance closeDeleted_uses {id : TunnelId} [HasTag .closeBridges tags] [HasTag .unload tags] :
    Uses tags (closeDeleted id) := by
  unfold closeDeleted
  exact .of_rules

instance attachedTunnels_uses {ids : List TunnelId} : Uses tags (attachedTunnels ids) := by
  induction ids with
  | nil => exact obeys_pure _
  | cons id rest ih =>
      unfold attachedTunnels
      exact .of_rules

instance closeDeletedTunnels_uses [HasTag .closeBridges tags] [HasTag .unload tags] :
    Uses tags (closeDeletedTunnels) := by
  unfold closeDeletedTunnels
  exact .of_rules

instance handleNotice_uses
    [HasTag .closeBridges tags] [HasTag .unload tags] [HasTag .receive tags] [HasTag .handled tags] :
    Uses tags (handleNotice) := by
  unfold handleNotice
  exact .of_rules

instance finish_uses {job : Job} {status : JobStatus} {error : Option String} {now : Nat}
    [HasTag .finishJob tags] :
    UsesE tags (finish job status error now) := by
  unfold finish
  exact .of_rules

instance refuse_uses {job : Job} {reason : String}
    [HasTag .finishJob tags] [HasTag .read tags] [HasTag (.save .certificate) tags] [HasTag (.save .renewed) tags] [HasTag (.save .clearRenewal) tags] [HasTag .publish tags] [HasTag .setAlarm tags] :
    UsesE tags (refuse setup m job reason) := by
  unfold refuse
  exact .of_rules

instance wanted_uses {job : Job} [HasTag .read tags] : Uses tags (wanted setup m job) := by
  unfold wanted
  exact .of_rules

instance abandon_uses {job : Job} {reason : Option String} [HasTag .finishJob tags] :
    UsesE tags (abandon job reason) := by
  unfold abandon
  exact .of_rules

instance showChallenge_uses {job : Job} {challenge : Challenge}
    [HasTag .read tags] [HasTag (.save .certificate) tags] [HasTag (.save .renewed) tags] [HasTag (.save .clearRenewal) tags] [HasTag .publish tags] [HasTag .setAlarm tags] :
    Uses tags (showChallenge setup m job challenge) := by
  unfold showChallenge
  exact .of_rules

instance issue_uses {job : Job}
    [HasTag .read tags] [HasTag (.save .certificate) tags] [HasTag (.save .renewed) tags] [HasTag (.save .clearRenewal) tags] [HasTag .publish tags] [HasTag .setAlarm tags] :
    Uses tags (issue setup m job) := by
  unfold issue
  exact .of_rules

instance recordIssued_uses {job : Job} {issued : Issued} {now : Nat}
    [HasTag .finishJob tags] [HasTag .read tags] [HasTag (.save .certificate) tags] [HasTag (.save .renewed) tags] [HasTag (.save .clearRenewal) tags] [HasTag .publish tags] [HasTag .setAlarm tags] :
    UsesE tags (recordIssued setup m job issued now) := by
  unfold recordIssued
  exact .of_rules

instance recordFailure_uses {job : Job} {err : IssueError} {now : Nat}
    [HasTag .retryJob tags] [HasTag .finishJob tags] [HasTag .read tags] [HasTag (.save .certificate) tags] [HasTag (.save .renewed) tags] [HasTag (.save .clearRenewal) tags] [HasTag .publish tags] [HasTag .setAlarm tags] :
    UsesE tags (recordFailure setup m job err now) := by
  unfold recordFailure
  exact .of_rules

instance execute_uses {job : Job}
    [HasTag .extendLease tags] [HasTag .retryJob tags] [HasTag .finishJob tags] [HasTag .read tags] [HasTag (.save .certificate) tags] [HasTag (.save .renewed) tags] [HasTag (.save .clearRenewal) tags] [HasTag .publish tags] [HasTag .setAlarm tags] :
    UsesE tags (execute setup m job) := by
  unfold execute
  exact .of_rules

instance claimJob_uses {c : CertificateId} {now : Nat} [HasTag .claimJob tags] :
    UsesE tags (claimJob c now) := by
  unfold claimJob
  exact .of_rules

instance runJob_uses {c : CertificateId}
    [HasTag .running tags] [HasTag .claimJob tags] [HasTag .extendLease tags] [HasTag .retryJob tags] [HasTag .finishJob tags] [HasTag .read tags] [HasTag (.save .certificate) tags] [HasTag (.save .renewed) tags] [HasTag (.save .clearRenewal) tags] [HasTag .publish tags] [HasTag .setAlarm tags] :
    Uses tags (runJob setup m c) := by
  unfold runJob
  exact .of_rules

instance renewLease_uses {c : CertificateId} [HasTag .extendLease tags] : Uses tags (renewLease c) := by
  unfold renewLease
  exact .of_rules

instance clearAlarms_uses {rows : List (TunnelId × Nat)} [HasTag .clearAlarm tags] :
    UsesE tags (clearAlarms rows) := by
  induction rows with
  | nil => exact obeysE_pure _
  | cons row rest ih =>
      unfold clearAlarms
      exact .of_rules

instance takeDueAlarms_uses {now : Nat} [HasTag .clearAlarm tags] : UsesE tags (takeDueAlarms now) := by
  unfold takeDueAlarms
  exact .of_rules

instance fireAlarms_uses {ids : List TunnelId} [HasTag .read tags] [HasTag (.save .renew) tags]
    [HasTag (.save .restoreRenewal) tags] [HasTag .addJob tags] [HasTag .publish tags] [HasTag .setAlarm tags] :
    UsesE tags (fireAlarms setup m ids) := by
  induction ids with
  | nil => exact obeysE_pure _
  | cons id rest ih =>
      unfold fireAlarms fireAlarm retryAlarm
      exact .of_rules

instance fireDueAlarms_uses
    [HasTag .clearAlarm tags] [HasTag .read tags] [HasTag (.save .renew) tags] [HasTag (.save .restoreRenewal) tags] [HasTag .addJob tags] [HasTag .publish tags] [HasTag .setAlarm tags] :
    UsesE tags (fireDueAlarms setup m) := by
  unfold fireDueAlarms
  exact .of_rules

instance tryImport_uses {record : StoredTunnel} {alarmAt : Option Nat} {force : Bool}
    [HasTag .importing tags] :
    UsesE tags (tryImport record alarmAt force) := by
  unfold tryImport
  exact .of_rules

instance importTunnel_uses {record : StoredTunnel} {alarmAt : Option Nat} {force : Bool} {attempts : Nat}
    [HasTag .importing tags] : UsesE tags (importTunnel record alarmAt force attempts) := by
  induction attempts with
  | zero => exact tryImport_uses
  | succ attempts ih =>
      unfold importTunnel
      exact .of_rules

instance importRecords_uses {force : Bool} {records : List ExportedRecord} [HasTag .importing tags] :
    UsesE tags (importRecords setup force records) := by
  induction records with
  | nil => exact obeysE_pure _
  | cons entry rest ih =>
      unfold importRecords
      exact .of_rules

instance importFile_uses {force : Bool} {records : List ExportedRecord}
    [HasTag .unload tags] [HasTag .importing tags] :
    Uses tags (importFile setup force records) := by
  unfold importFile
  exact .of_rules

instance info_uses {id : TunnelId} [HasTag .read tags] : UsesE tags (info setup m id) := by
  unfold info
  exact .of_rules

end Footprints

/-- The acts of each operation. -/
def footprint : Operation → List Tag
  | .create .. => [.look, .read, .save .create, .publish, .setAlarm]
  | .bindCertificate .. => [.look, .read, .save .bind, .save .bindFailed, .addJob, .publish]
  | .remove .. => [.look, .read, .closeBridges, .save .delete, .publish, .setAlarm]
  | .info _ => [.look, .read]
  | .session .. => [.look, .read, .register, .retire, .attach, .closed]
  | .afterAttach .. =>
      [.look, .save .connected, .save .renew, .save .restoreRenewal, .addJob, .publish, .setAlarm]
  | .tunnelExists _ => [.look, .read]
  | .route .. => [.look, .read, .retire, .connect]
  | .heldRoutes _ => [.look, .retire]
  | .sweep => [.look, .retire, .collect]
  | .drain => [.look, .drain]
  | .closeDeleted _ => [.look, .closeBridges, .unload]
  | .closeDeletedTunnels => [.look, .closeBridges, .unload]
  | .invalidate _ => [.look, .unload]
  | .expire _ => [.look]
  | .handleNotice => [.look, .closeBridges, .unload, .receive, .handled]
  | .updateCertificate .. =>
      [.look, .read, .save .certificate, .save .renewed, .save .clearRenewal, .publish, .setAlarm]
  | .runJob _ =>
      [.look, .running, .claimJob, .extendLease, .retryJob, .finishJob, .read, .save .certificate,
       .save .renewed, .save .clearRenewal, .publish, .setAlarm]
  | .renewLease _ => [.look, .extendLease]
  | .releaseLeases => [.look, .releaseLeases]
  | .fireDueAlarms =>
      [.look, .clearAlarm, .read, .save .renew, .save .restoreRenewal, .addJob, .publish, .setAlarm]
  | .resumeOrphanedIssuance _ => [.look, .read, .addJob, .publish]
  | .retryFailedIssuance => [.look, .read, .requeue, .save .reissue, .publish]
  | .importFile .. => [.look, .unload, .importing]

/-- Every operation keeps to its footprint. -/
theorem program_uses (setup : Setup) (t : Task) (op : Operation) :
    Uses (footprint op) (program setup t op) := by
  cases op <;> dsimp only [program, footprint]
  case heldRoutes id => exact .of_rules
  case releaseLeases => exact obeys_ignore (.of_rules)
  all_goals first
    | exact obeys_ignore inferInstance
    | infer_instance

end OpenTunnel
