/-
Module: OpenTunnel.Proofs.Completion
Layer: Proofs
Purpose: Whose certificate a client saves when it completes a pending provision. As long as the servers record each
  certificate for the request stored with its ID, a certificate a client saves is the one of the record its last lookup
  was answered from; it is the client's own exactly when that record still stores the request the client sent.
Imports: OpenTunnel.Tasks.Contract, OpenTunnel.Tasks.Ghost, OpenTunnel.Model.Network, OpenTunnel.Model.Sample,
  OpenTunnel.Proofs.Records
Trusted boundary: none (fully proved)
Main exports: StoredTunnel.issuedFor, Act.issues, issuing, completing, saved_certificate_own
Open obligations: none
-/
import OpenTunnel.Tasks.Contract
import OpenTunnel.Tasks.Ghost
import OpenTunnel.Model.Network
import OpenTunnel.Model.Sample
import OpenTunnel.Proofs.Records

namespace OpenTunnel

open Tasks Tasks.Semantics

/-! ### Certificates and the requests they were issued for -/

/-- The record's certificate, if it has one, was issued for the request the record stores. -/
def StoredTunnel.issuedFor (keys : Keys) (record : StoredTunnel) : Bool :=
  match record.certificate with
  | some ⟨_, .ready certificate _ _⟩ => record.certificateCsr == some (keys.csrOf certificate)
  | _ => true

/-- A new state of a certificate fits the record it is saved to. -/
def CertificateState.fits (keys : Keys) (record : Option StoredTunnel) : CertificateState → Bool
  | .ready certificate _ _ => record.any fun record => record.certificateCsr == some (keys.csrOf certificate)
  | _ => true

/-- A certificate is recorded only for the request stored with its ID, and imported records are as a server left them. -/
def Act.issues (keys : Keys) (t : Task) (w : World) : Act → Bool
  | .save id (.certificate _ state) => state.fits keys (w.entry t.machine id).record
  | .save id (.renewed _ state) => state.fits keys (w.entry t.machine id).record
  | .importInsert record _ => record.issuedFor keys
  | .importUpdate record _ => record.issuedFor keys
  | _ => true

/-- The servers issue each certificate ID for the request stored with it. -/
def issuing (setup : Setup) (keys : Keys) : Assumptions (network setup) where
  call := fun p op _ w =>
    match op with
    | .server m op => op.issues keys (p.task m) w = true
    | _ => True

instance (setup : Setup) (keys : Keys) : (issuing setup keys).Checkable where
  start := fun _ _ _ => .isTrue trivial
  call := fun p op _ w =>
    match op with
    | .server m op => inferInstanceAs (Decidable (op.issues keys (p.task m) w = true))
    | .connect _ => .isTrue trivial
    | .client _ => .isTrue trivial
  move := fun _ _ => .isTrue trivial

/-- The record of a tunnel, with a certificate for its request. -/
def Certified (keys : Keys) (id : TunnelId) (record : StoredTunnel) : Prop :=
  record.id = id ∧ record.issuedFor keys = true

section Servers

variable {keys : Keys} {t : Task} {w : World} {op : Act}

theorem issuedFor_of_fits {record after : StoredTunnel} {c : CertificateId} {state : CertificateState}
    (fits : state.fits keys (some record) = true) (certificate : after.certificate = some ⟨c, state⟩)
    (request : after.certificateCsr = record.certificateCsr) : after.issuedFor keys = true := by
  unfold StoredTunnel.issuedFor
  rw [certificate, request]
  cases state with
  | ready certificate chain expiry => simpa [CertificateState.fits] using fits
  | _ => rfl

theorem writes_certified (each : w.Each (Certified keys)) (issues : op.issues keys t w = true) :
    op.Writes (Certified keys) t w where
  saves := by
    intro id change record is made
    subst is
    have own : record.id = id := Change.apply_id made fun r cached => (each.cached t.machine id r cached).1
    refine ⟨own, ?_⟩
    cases cached : (w.entry t.machine id).record with
    | none =>
        rw [cached] at made
        cases change <;> simp only [Change.apply, Option.some.injEq, reduceCtorEq] at made
        rw [← made]
        rfl
    | some before =>
        have certified := (each.cached t.machine id before cached).2
        rw [cached] at made
        cases change <;> simp only [Change.apply, Option.some.injEq] at made <;> subst made
        case certificate c state =>
            simp only [Act.issues, cached] at issues
            exact issuedFor_of_fits issues rfl rfl
        case renewed c state =>
            simp only [Act.issues, cached] at issues
            exact issuedFor_of_fits issues rfl rfl
        all_goals first | rfl | exact certified
  inserts := by
    intro record alarmAt is
    subst is
    exact ⟨rfl, issues⟩
  updates := by
    intro record alarmAt is
    subst is
    exact ⟨rfl, issues⟩

end Servers

/-! ### What clients saved -/

/-- A certificate that was saved: the request its client had bound, and the record the client's last request saw. -/
structure SavedCertificate where
  csr : Option String
  certificate : String
  shown : Option StoredTunnel
deriving DecidableEq

/-- The request each client bound, the record its last request saw, and the certificates that were saved. -/
structure Completions where
  asked : Nat → Option String := fun _ => none
  shown : Nat → Option StoredTunnel := fun _ => none
  saved : List SavedCertificate := []

namespace Completions

def ask (g : Completions) (n : Nat) (csr : String) : Completions :=
  { g with asked := fun n' => if n' = n then some csr else g.asked n' }

def see (g : Completions) (n : Nat) (record : Option StoredTunnel) : Completions :=
  { g with shown := fun n' => if n' = n then record else g.shown n' }

def save (g : Completions) (n : Nat) (certificate : String) : Completions :=
  { g with saved := ⟨g.asked n, certificate, g.shown n⟩ :: g.saved }

end Completions

/-- Follows what clients ask for, are shown and save. -/
def completing (setup : Setup) : Ghost (network setup) Completions where
  call := fun p op ans _ _ g =>
    match p, op, ans with
    | .client n, .connect (.bind _ _ csr), _ => g.ask n csr
    | .client n, .server _ (.peek _), e => g.see n e.live
    | .client n, .client (.writeText .certificate content), .ok () => g.save n content
    | _, _, _ => g

/-- The certificate is the one of the record that was shown, issued for the request in it. -/
def SavedCertificate.Shown (keys : Keys) (saved : SavedCertificate) : Prop :=
  ∃ csr record, saved.csr = some csr ∧ saved.shown = some record ∧
    record.certificateCsr = some (keys.csrOf saved.certificate)

/-- Records hold certificates for their requests, and what was saved was shown. A client relies on what it asked for and
    was shown. -/
def completionRules (keys : Keys) : Rules Party (World × Completions) where
  inv := fun s => s.1.Each (Certified keys) ∧ ∀ saved ∈ s.2.saved, saved.Shown keys
  rely := fun p s s' =>
    match p with
    | .client n => s'.2.asked n = s.2.asked n ∧ s'.2.shown n = s.2.shown n
    | .server _ => True

section Clients

variable {setup : Setup} {keys : Keys}

/-- An act of a party: nothing is noted, or it is one of the three a client is followed by. -/
inductive CompletionStep (g : Completions) : (p : Party) → (op : NetAct) → op.Ans → Completions → Prop where
  | none (p : Party) (op : NetAct) (ans : op.Ans) : CompletionStep g p op ans g
  | asks (n : Nat) (token : String) (id : TunnelId) (csr : String) (ans : Except ClientError MachineId) :
      CompletionStep g (.client n) (.connect (.bind token id csr)) ans (g.ask n csr)
  | sees (n : Nat) (m : MachineId) (id : TunnelId) (e : Entry) :
      CompletionStep g (.client n) (.server m (.peek id)) e (g.see n e.live)
  | saves (n : Nat) (content : String) :
      CompletionStep g (.client n) (.client (.writeText .certificate content)) (.ok ()) (g.save n content)

theorem completing_step (p : Party) (op : NetAct) (ans : op.Ans) (w w' : World) (g : Completions) :
    CompletionStep g p op ans ((completing setup).call p op ans w w' g) := by
  cases p with
  | server t => exact .none _ _ _
  | client n =>
      cases op with
      | connect request =>
          cases request with
          | bind token id csr => exact .asks n token id csr ans
          | certificate token id => exact .none _ _ _
      | server m op =>
          cases op
          case peek id => exact .sees n m id ans
          all_goals exact .none _ _ _
      | client op =>
          cases op
          case writeText file content =>
              cases file
              case certificate =>
                  cases ans with
                  | ok done => exact .saves n content
                  | error err => exact .none _ _ _
              all_goals exact .none _ _ _
          all_goals exact .none _ _ _

variable {p : Party} {op : NetAct} {c : NetChoice} {s s' : World × Completions} {ans : op.Ans}

theorem completion_exec (h : ((network setup).withGhost (completing setup)).exec p op c s = some (ans, s')) :
    (network setup).exec p op c s.1 = some (ans, s'.1) ∧ CompletionStep s.2 p op ans s'.2 := by
  obtain ⟨executed, history⟩ := withGhost_exec.mp h
  rw [history]
  exact ⟨executed, completing_step p op ans s.1 s'.1 s.2⟩

theorem network_certified (each : s.1.Each (Certified keys)) (meets : (issuing setup keys).call p op c s.1)
    (h : (network setup).exec p op c s.1 = some (ans, s'.1)) : s'.1.Each (Certified keys) := by
  cases op with
  | server m op =>
      have executed : exec setup (p.task m) op c.choice s.1 = some (ans, s'.1) := h
      exact each.step (fun _ _ certified => certified.1) (writes_certified each meets) executed
  | connect request =>
      have same : s.1 = s'.1 := (Prod.mk.inj (Option.some.inj h)).2
      rwa [← same]
  | client op =>
      have same : s.1 = s'.1 := (Prod.mk.inj (Option.some.inj h)).2
      rwa [← same]

/-- The client has bound this request. -/
def Asked (n : Nat) (csr : String) (s : World × Completions) : Prop := s.2.asked n = some csr

/-- The client's last request saw a record with this certificate. -/
def Seen (keys : Keys) (n : Nat) (certificate : String) (s : World × Completions) : Prop :=
  ∃ record, s.2.shown n = some record ∧ record.certificateCsr = some (keys.csrOf certificate)

/-- What a client asked for and was shown stays while others act. -/
theorem stable_own (n : Nat) (F : Option String → Option StoredTunnel → Prop) :
    (completionRules keys).Stable (.client n) fun s => F (s.2.asked n) (s.2.shown n) := by
  intro s s' _ relied holds
  obtain ⟨asked, shown⟩ := relied
  simp only [asked, shown]
  exact holds

/-- An act is harmless when a certificate it saves is the one its client was shown. -/
theorem harmless_completion (inv : (completionRules keys).inv s) (meets : (issuing setup keys).call p op c s.1)
    (saves : ∀ n content, p = .client n → op = .client (.writeText .certificate content) →
      (∃ csr, Asked n csr s) ∧ Seen keys n content s)
    (h : ((network setup).withGhost (completing setup)).exec p op c s = some (ans, s')) :
    (completionRules keys).Harmless p s s' := by
  obtain ⟨executed, history⟩ := completion_exec h
  have each := network_certified inv.1 meets executed
  obtain ⟨w', g'⟩ := s'
  cases history with
  | none => exact ⟨⟨each, inv.2⟩, fun p' _ => by cases p' <;> simp [completionRules]⟩
  | asks n token id csr =>
      refine ⟨⟨each, inv.2⟩, ?_⟩
      intro p' other
      cases p' with
      | server t => trivial
      | client n' =>
          have differs : n' ≠ n := fun same => other (same ▸ rfl)
          simp [completionRules, differs]
  | sees n m id =>
      refine ⟨⟨each, inv.2⟩, ?_⟩
      intro p' other
      cases p' with
      | server t => trivial
      | client n' =>
          have differs : n' ≠ n := fun same => other (same ▸ rfl)
          simp [completionRules, differs]
  | saves n content =>
      obtain ⟨⟨csr, asked⟩, record, shown, issued⟩ := saves n content rfl rfl
      refine ⟨⟨each, ?_⟩, fun p' _ => by cases p' <;> simp [completionRules]⟩
      intro saved listed
      rcases List.mem_cons.mp listed with rfl | before
      · exact ⟨csr, record, asked, shown, issued⟩
      · exact inv.2 saved before

/-! ### Requests of a client -/

/-- Acts of a client that has bound `csr`, before it saves. -/
def Requesting (csr : String) : NetAct → Prop
  | .connect (.bind _ _ csr') => csr' = csr
  | .client (.writeText .certificate _) => False
  | _ => True

variable {n : Nat} {csr : String}

theorem asked_kept (requests : Requesting csr op) (asked : Asked n csr s)
    (h : CompletionStep s.2 (.client n) op ans s'.2) : Asked n csr s' := by
  obtain ⟨w, g⟩ := s
  obtain ⟨w', g'⟩ := s'
  cases h with
  | none => exact asked
  | asks n token id csr' =>
      have same : csr' = csr := requests
      simp [Asked, same]
  | sees => exact asked
  | saves => exact asked

/-- A client that has bound a request and only makes requests stays so. -/
theorem safe_requesting {α : Type} {q : NetProg α} (all : Prog.All (Requesting csr) q) (asked : Asked n csr s) :
    (completionRules keys).Safe ((issuing setup keys).withGhost (completing setup)) (.client n) q
      (fun _ s' => Asked n csr s') s := by
  refine Rules.safe_of_all (stable_own n fun asked _ => asked = some csr) ?_ all asked
  intro op c s ans s' requests inv asked meets executed
  refine ⟨harmless_completion inv meets ?_ executed, asked_kept requests asked (completion_exec executed).2⟩
  intro n' content _ is
  subst is
  cases requests

theorem onMachine_all {α : Type} {φ : NetAct → Prop} {m : MachineId} (holds : ∀ op, φ (.server m op)) (q : Call α) :
    Prog.All φ (onMachine m q) := by
  induction q with
  | ret a => trivial
  | call op next ih => exact ⟨holds op, ih⟩

theorem attemptRequest_all {request : ApiRequest} (holds : Requesting csr (.connect request)) :
    Prog.All (Requesting csr) (attemptRequest setup request) := by
  refine ⟨holds, ?_⟩
  intro reached
  cases reached with
  | error err => trivial
  | ok m => exact onMachine_all (fun _ => trivial) (request.serve setup m)

theorem sendRequest_all {request : ApiRequest} (holds : Requesting csr (.connect request)) (retries : Nat) :
    Prog.All (Requesting csr) (sendRequest setup request retries) := by
  induction retries with
  | zero => exact attemptRequest_all holds
  | succ retries ih =>
      apply Prog.all_bind (attemptRequest_all holds)
      intro result
      cases result with
      | ok info => trivial
      | error err =>
          simp only
          split
          · exact ih
          · trivial

/-- A bind leaves its request as the one the client asked for. -/
theorem safe_apiBind {token : String} {id : TunnelId} (s : World × Completions) :
    (completionRules keys).Safe ((issuing setup keys).withGhost (completing setup)) (.client n)
      (carry setup (.apiBind token id csr)) (fun _ s' => Asked n csr s') s := by
  have requests : Requesting csr (.connect (.bind token id csr)) := rfl
  have all : Prog.All (Requesting csr) (sendRequest setup (.bind token id csr) apiRetries) :=
    sendRequest_all requests apiRetries
  refine Rules.safe_call ?_
  intro s₁ _ inv c ans s₂ meets executed
  have meets : (issuing setup keys).call (.client n) (.connect (.bind token id csr)) c s₁.1 := meets
  refine ⟨harmless_completion inv meets ?_ executed, safe_requesting (all.2 ans) ?_⟩
  · intro _ _ _ is
    cases is
  · have asks : s₂.2 = s₁.2.ask n csr := (withGhost_exec.mp executed).2
    simp [Asked, asks, Completions.ask]

/-- What a client knows after a lookup: a ready certificate it was answered is the one of the record it was shown. -/
def Looked (keys : Keys) (n : Nat) (csr : String) (result : Option CertificateInfo) (s : World × Completions) : Prop :=
  Asked n csr s ∧ ∀ c certificate chain expiry, result = some ⟨c, .ready certificate chain expiry⟩ →
    Seen keys n certificate s

theorem Looked.none {s : World × Completions} (asked : Asked n csr s) : Looked keys n csr none s :=
  ⟨asked, fun _ _ _ _ is => by cases is⟩

theorem stable_looked (result : Option CertificateInfo) :
    (completionRules keys).Stable (.client n) (Looked keys n csr result) :=
  stable_own n fun asked shown => asked = some csr ∧ ∀ c certificate chain expiry,
    result = some ⟨c, .ready certificate chain expiry⟩ →
      ∃ record, shown = some record ∧ record.certificateCsr = some (keys.csrOf certificate)

/-- An act of a client that asks for nothing and sees nothing keeps what it knows. -/
theorem looked_kept {result : Option CertificateInfo} {m : MachineId} {op : Act} {c : NetChoice} {ans : op.Ans}
    (looked : Looked keys n csr result s) (blind : ∀ id, op ≠ .peek id)
    (h : ((network setup).withGhost (completing setup)).exec (.client n) (.server m op) c s = some (ans, s')) :
    Looked keys n csr result s' := by
  have same : s'.2 = s.2 := by
    have history : s'.2 = (completing setup).call (.client n) (.server m op) ans s.1 s'.1 s.2 :=
      (withGhost_exec.mp h).2
    rw [history]
    cases op
    case peek id => exact absurd rfl (blind id)
    all_goals rfl
  unfold Looked Asked Seen
  rw [same]
  exact looked

/-- The certificate of a lookup. -/
def CertificateLookup.certificate : CertificateLookup → Option CertificateInfo
  | .ok certificate => some certificate
  | _ => none

/-- A lookup answers the certificate of the record it was shown. -/
theorem looked_of_shown {live : Option StoredTunnel} {token : String} (asked : Asked n csr s)
    (shown : s.2.shown n = live) (issued : ∀ record, live = some record → record.issuedFor keys = true) :
    Looked keys n csr (CertificateLookup.of setup token live).certificate s := by
  refine ⟨asked, ?_⟩
  intro c certificate chain expiry is
  unfold CertificateLookup.of at is
  split at is
  · cases is
  · rename_i record
    split at is
    · cases is
    · split at is
      · rename_i info has
        cases is
        refine ⟨record, shown, ?_⟩
        simpa [StoredTunnel.issuedFor, has] using issued record rfl
      · cases is

theorem safe_certificateLookup {m : MachineId} {id : TunnelId} {token : String} (asked : Asked n csr s) :
    (completionRules keys).Safe ((issuing setup keys).withGhost (completing setup)) (.client n)
      (onMachine m (certificateLookup setup m id token).run)
      (fun result s' => Looked keys n csr (result.toOption.bind (·.certificate)) s') s := by
  have locks : Prog.All (Requesting csr) (onMachine m (lockFresh setup m id).run) :=
    onMachine_all (fun _ => trivial) _
  apply Rules.safe_interpretExceptBind
  apply Rules.safe_mono (safe_requesting locks asked)
  intro locked s asked
  cases locked with
  | error err => exact Looked.none asked
  | ok _ =>
      refine Rules.safe_call ?_
      intro s₁ drift inv c e s₂ meets executed
      have meets : (issuing setup keys).call (.client n) (.server m (.peek id)) c s₁.1 := meets
      have asked : Asked n csr s₁ := (stable_own n fun asked _ => asked = some csr).drift drift asked
      have sees : s₂.2 = s₁.2.see n e.live := (withGhost_exec.mp executed).2
      have peeked : exec setup (Party.task m (.client n)) (.peek id) c.choice s₁.1 = some (e, s₂.1) :=
        (withGhost_exec.mp executed).1
      have looked : Looked keys n csr (CertificateLookup.of setup token e.live).certificate s₂ := by
        apply looked_of_shown
        · simpa [Asked, sees, Completions.see] using asked
        · simp [sees, Completions.see]
        · intro record live
          have cached : (s₁.1.entry m id).record = some record := by
            rw [(exec_peek peeked).2.1] at live
            exact (Option.filter_eq_some_iff.mp live).1
          exact (inv.1.cached m id record cached).2
      refine ⟨harmless_completion inv meets (fun _ _ _ is => by cases is) executed, Rules.safe_call ?_⟩
      intro s₃ drift inv c ans s₄ meets executed
      have meets : (issuing setup keys).call (.client n) (.server m (.unlock id)) c s₃.1 := meets
      exact ⟨harmless_completion inv meets (fun _ _ _ is => by cases is) executed,
        looked_kept ((stable_looked _).drift drift looked) (fun _ is => by cases is) executed⟩

theorem safe_lookupRequest {token : String} {id : TunnelId} (asked : Asked n csr s) :
    (completionRules keys).Safe ((issuing setup keys).withGhost (completing setup)) (.client n)
      (attemptRequest setup (.certificate token id))
      (fun result s' => Looked keys n csr result.toOption s') s := by
  have sends : Prog.All (Requesting csr) (reach (.certificate token id)) := ⟨trivial, fun _ => trivial⟩
  apply Rules.safe_bind
  apply Rules.safe_mono (safe_requesting sends asked)
  intro reached s asked
  cases reached with
  | error err => exact Looked.none asked
  | ok m =>
      apply Rules.safe_interpretBind
      apply Rules.safe_mono (safe_certificateLookup asked)
      intro result s looked
      rcases result with err | lookup
      · exact looked
      · cases lookup <;> exact looked

theorem safe_apiCertificate {token : String} {id : TunnelId} (retries : Nat) (asked : Asked n csr s) :
    (completionRules keys).Safe ((issuing setup keys).withGhost (completing setup)) (.client n)
      (sendRequest setup (.certificate token id) retries)
      (fun result s' => Looked keys n csr result.toOption s') s := by
  induction retries generalizing s with
  | zero => exact safe_lookupRequest asked
  | succ retries ih =>
      apply Rules.safe_bind
      apply Rules.safe_mono (safe_lookupRequest asked)
      intro result s looked
      cases result with
      | ok info => exact looked
      | error err =>
          simp only
          split
          · exact ih looked.1
          · exact looked

/-! ### Completing a provision -/

theorem safe_poll {pending : PendingIdentity} (polls : Nat) (asked : Asked n csr s) :
    (completionRules keys).Safe ((issuing setup keys).withGhost (completing setup)) (.client n)
      ((Client.poll pending polls).run.interpret (carry setup))
      (fun result s' => Asked n csr s' ∧ ∀ certificate chain expiry, result = .ok (certificate, chain, expiry) →
        Seen keys n certificate s') s := by
  induction polls generalizing s with
  | zero => exact ⟨asked, fun _ _ _ is => by cases is⟩
  | succ polls ih =>
      apply Rules.safe_interpretExceptBind
      have request : (request (send (.apiCertificate pending.token pending.id))).run.interpret (carry setup) =
          carry setup (.apiCertificate pending.token pending.id) := Prog.interpret_act ..
      rw [request]
      apply Rules.safe_mono (safe_apiCertificate apiRetries asked)
      intro result s looked
      cases result with
      | error err => exact ⟨looked.1, fun _ _ _ is => by cases is⟩
      | ok info =>
          obtain ⟨c, state⟩ := info
          cases state with
          | ready certificate chain expiry =>
              refine ⟨looked.1, ?_⟩
              intro _ _ _ is
              cases is
              exact looked.2 c certificate chain expiry rfl
          | failed reason => exact ⟨looked.1, fun _ _ _ is => by cases is⟩
          | challenge token key => exact ih looked.1
          | issuing => exact ih looked.1

/-- Acts of a client that saves this certificate. -/
def Saving (certificate : String) : NetAct → Prop
  | .client (.writeText .certificate content) => content = certificate
  | .client _ => True
  | _ => False

theorem save_all (profile : String) (identity : Identity) :
    Prog.All (Saving identity.certificate) ((Storage.save profile identity).run.interpret (carry setup)) := by
  apply Prog.all_interpret
  have calls {op : ClientAct} (own : carry setup op = Prog.act (NetAct.client op))
      (saves : Saving identity.certificate (.client op)) : Prog.All (Saving identity.certificate) (carry setup op) := by
    rw [own]
    exact ⟨saves, fun _ => trivial⟩
  unfold Storage.save Storage.ensureDir Storage.profileDir
  have named : Prog.All (fun op => Prog.All (Saving identity.certificate) (carry setup op))
      (Storage.profileDir profile).run := by
    unfold Storage.profileDir
    split <;> trivial
  refine Prog.all_exceptBind (Prog.all_exceptBind named fun _ => ?_) fun _ => ?_
  · exact ⟨calls rfl trivial, fun _ => trivial⟩
  refine Prog.all_exceptBind ⟨calls rfl trivial, fun _ => trivial⟩ fun _ => ?_
  refine Prog.all_exceptBind ⟨calls rfl trivial, fun _ => trivial⟩ fun _ => ?_
  refine Prog.all_exceptBind ⟨calls rfl rfl, fun _ => trivial⟩ fun _ => ?_
  refine Prog.all_exceptBind ⟨calls rfl trivial, fun _ => trivial⟩ fun _ => ?_
  refine Prog.all_exceptBind ⟨calls rfl trivial, fun _ => trivial⟩ fun _ => ?_
  exact ⟨calls rfl trivial, fun _ => trivial⟩

/-- A client that was shown a certificate saves it. -/
theorem safe_save {profile : String} {identity : Identity} (asked : Asked n csr s)
    (seen : Seen keys n identity.certificate s) :
    (completionRules keys).Safe ((issuing setup keys).withGhost (completing setup)) (.client n)
      ((Storage.save profile identity).run.interpret (carry setup)) (fun _ _ => True) s := by
  have stable : (completionRules keys).Stable (.client n)
      fun s => Asked n csr s ∧ Seen keys n identity.certificate s :=
    stable_own n fun asked shown => asked = some csr ∧
      ∃ record, shown = some record ∧ record.certificateCsr = some (keys.csrOf identity.certificate)
  refine Rules.safe_mono (Rules.safe_of_all stable ?_ (save_all profile identity) ⟨asked, seen⟩) fun _ _ _ => trivial
  intro op c s ans s' saves inv known meets executed
  have meets : (issuing setup keys).call (.client n) op c s.1 := meets
  refine ⟨harmless_completion inv meets ?_ executed, ?_⟩
  · intro n' content same is
    cases same
    subst is
    have same : content = identity.certificate := saves
    exact ⟨⟨csr, known.1⟩, same ▸ known.2⟩
  · obtain ⟨w, g⟩ := s
    obtain ⟨w', g'⟩ := s'
    cases (completion_exec executed).2 with
    | none => exact known
    | asks => cases saves
    | sees => cases saves
    | saves => exact known

/-- After the bind: the client polls, and saves what it is shown. -/
theorem safe_finish {profile : String} {pending : PendingIdentity} {polls : Nat} (asked : Asked n csr s) :
    (completionRules keys).Safe ((issuing setup keys).withGhost (completing setup)) (.client n)
      ((do
        let (certificate, chain, expiry) ← Client.poll pending polls
        let identity := Client.completed pending certificate chain expiry
        Storage.save profile identity
        return identity : ClientCall Identity).run.interpret (carry setup)) (fun _ _ => True) s := by
  apply Rules.safe_interpretExceptBind
  apply Rules.safe_mono (safe_poll polls asked)
  intro result s known
  cases result with
  | error err => trivial
  | ok issued =>
      obtain ⟨certificate, chain, expiry⟩ := issued
      apply Rules.safe_interpretExceptBind
      apply Rules.safe_mono (safe_save known.1 (known.2 certificate chain expiry rfl))
      intro result s _
      cases result <;> trivial

theorem safe_complete {profile : String} {pending : PendingIdentity} {polls : Nat} (s : World × Completions) :
    (completionRules keys).Safe ((issuing setup keys).withGhost (completing setup)) (.client n)
      ((Client.complete profile pending polls).run.interpret (carry setup)) (fun _ _ => True) s := by
  apply Rules.safe_interpretExceptBind
  have binds : (answer (send (.apiBind pending.token pending.id pending.csr))).run.interpret (carry setup) =
      carry setup (.apiBind pending.token pending.id pending.csr) >>= fun result => .ret (.ok result) := rfl
  rw [binds]
  apply Rules.safe_bind
  apply Rules.safe_mono (safe_apiBind s)
  intro result s asked
  cases result with
  | ok info => exact safe_finish asked
  | error err =>
      cases err with
      | api status tag message =>
          simp only [Rules.Safe]
          split
          · exact safe_finish asked
          · trivial
      | _ => trivial

theorem safe_work (p : Party) (work : Work) (s : World × Completions) :
    (completionRules keys).Safe ((issuing setup keys).withGhost (completing setup)) p ((network setup).program p work)
      (fun _ _ => True) s := by
  cases p with
  | server t =>
      cases work with
      | complete profile pending polls => trivial
      | serve operation =>
          have all : Prog.All (Requesting "") (onMachine t.machine (program setup t operation)) :=
            onMachine_all (fun _ => trivial) _
          refine Rules.safe_of_all (fun _ _ _ _ _ => trivial) ?_ all trivial
          intro op c s ans s' _ inv _ meets executed
          exact ⟨harmless_completion inv meets (fun _ _ is => by cases is) executed, trivial⟩
  | client n =>
      cases work with
      | serve operation => trivial
      | complete profile pending polls =>
          apply Rules.safe_bind
          exact Rules.safe_mono (safe_complete s) fun _ _ _ => trivial

end Clients

/-- What every run of servers and clients keeps. -/
theorem completions_kept {setup : Setup} {keys : Keys} {w₀ : World} (started : w₀.Started)
    (issued : ∀ id row, w₀.db.row id = some row → row.record.issuedFor keys = true)
    {cfg : Config Party NetAct NetAct.Ans (World × Completions)}
    (reach : ((network setup).withGhost (completing setup)).Reach ((issuing setup keys).withGhost (completing setup))
      (idle (w₀, {})) cfg) : (completionRules keys).inv cfg.shared := by
  refine (Reach.safe (R := completionRules keys) reach ?_ ?_ ?_).1
  · refine ⟨started.each ?_, by simp⟩
    intro id row found
    exact ⟨(started.db.rows id row found).1, issued id row found⟩
  · intro p work s _ _
    exact safe_work p work s
  · intro mv s s' _ inv h
    obtain ⟨moved, history⟩ := withGhost_move.mp h
    have moved : move mv s.1 = some s'.1 := moved
    have same : s'.2 = s.2 := history
    refine ⟨⟨inv.1.move moved, same ▸ inv.2⟩, ?_⟩
    intro p
    cases p <;> simp [completionRules, same]

/-- Whose certificate a client saves when it completes a provision: in every run of any number of clients and all
    operations of the servers, the certificate is for the request the client bound if and only if the record its last
    lookup was answered from stores that request. -/
theorem saved_certificate_own (setup : Setup) (keys : Keys) {w₀ : World} (started : w₀.Started)
    (issued : ∀ id row, w₀.db.row id = some row → row.record.issuedFor keys = true)
    {cfg : Config Party NetAct NetAct.Ans (World × Completions)}
    (reach : ((network setup).withGhost (completing setup)).Reach ((issuing setup keys).withGhost (completing setup))
      (idle (w₀, {})) cfg) :
    ∀ saved ∈ cfg.shared.2.saved, ∃ csr record, saved.csr = some csr ∧ saved.shown = some record ∧
      (keys.csrOf saved.certificate = csr ↔ record.certificateCsr = some csr) := by
  intro saved listed
  obtain ⟨csr, record, asked, shown, issuedFor⟩ := (completions_kept started issued reach).2 saved listed
  refine ⟨csr, record, asked, shown, ?_⟩
  rw [issuedFor, Option.some.injEq]

namespace Sample

/-- Two certificate requests for `a.opentunnel.test` and its wildcard, made with different keys. -/
def firstCsr : String :=
  "MIIBGzCBwgIBADAcMRowGAYDVQQDDBFhLm9wZW50dW5uZWwudGVzdDBZMBMGByqGSM49AgEGCCqGSM49AwEHA0IABAhmwib4" ++
  "ksy8PnmYfM2LcYamokmm/0+iSr6gHBZMSQsV9zmGqVK/SjRvLYa7qttzQOmub+uXRrfgUpAudexnzgegRDBCBgkqhkiG9w0B" ++
  "CQ4xNTAzMDEGA1UdEQQqMCiCEWEub3BlbnR1bm5lbC50ZXN0ghMqLmEub3BlbnR1bm5lbC50ZXN0MAoGCCqGSM49BAMCA0gA" ++
  "MEUCIQC2MjsPE4G07ZWw3qf+MEWWPEV2y8m7bvoznMc/BPoJEAIgXE3JjEDvA1a+40TwJaqXV6Wf6VNVg71RXXuJEkL0SZo="

def secondCsr : String :=
  "MIIBHDCBwgIBADAcMRowGAYDVQQDDBFhLm9wZW50dW5uZWwudGVzdDBZMBMGByqGSM49AgEGCCqGSM49AwEHA0IABG18ziML" ++
  "kZtNMxy2DGqR9+sDjMYcB99qSt9pjavyB/szi6XGI4ckg/w95uP7J1o9nRv9dQFYcSoyMIjOygq6YLmgRDBCBgkqhkiG9w0B" ++
  "CQ4xNTAzMDEGA1UdEQQqMCiCEWEub3BlbnR1bm5lbC50ZXN0ghMqLmEub3BlbnR1bm5lbC50ZXN0MAoGCCqGSM49BAMCA0kA" ++
  "MEYCIQD6YIz+svMzhYeMw7cCcovqe4bIstHAQKXf8n/dcs00vwIhAOxhl6sAYcNezOXbAWOEWacUbO4l8ZA6n8Bfchi1ilXS"

def pairSetup : Setup :=
  { setup false with
    externals := { externals with
      readCsr := fun text =>
        if text = firstCsr ∨ text = secondCsr then
          some ⟨[some "a.opentunnel.test"], [[.dns "a.opentunnel.test", .dns "*.a.opentunnel.test"]]⟩
        else none } }

def pairKeys : Keys where
  keyOf := fun csr => if csr = firstCsr then "first key" else "second key"
  csrOf := fun certificate => if certificate = "first certificate" then firstCsr else secondCsr

/-- Two clients' provisions of the tunnel. -/
def firstPending : PendingIdentity := ⟨"a", "a.opentunnel.test", "secret", "first key", firstCsr⟩

def secondPending : PendingIdentity := ⟨"a", "a.opentunnel.test", "secret", "second key", secondCsr⟩

/-- Nothing fails: requests reach `m1`, the order completes with this certificate. -/
def granting (certificate : String) : NetChoice where
  choice := { text := "1", issued := .ok ⟨certificate, "chain", "2027-04-15T08:00:00.000Z"⟩ }
  reached := .ok "m1"

/-- The next turns of a party. -/
def proceeds (p : Party) (certificate : String) (turns : Nat) :
    List ((network pairSetup).withGhost (completing pairSetup)).Turn :=
  List.replicate turns (.call p (granting certificate))

/-- One client alone: it binds its request, the job is run, and the client saves the certificate. -/
def alone : List ((network pairSetup).withGhost (completing pairSetup)).Turn :=
  .start (.client 1) (.complete "default" firstPending 1) :: proceeds (.client 1) "first certificate" 18 ++
    .start (.server ⟨"m1", 0⟩) (.serve (.runJob "cert_1")) :: proceeds (.server ⟨"m1", 0⟩) "first certificate" 25 ++
    proceeds (.client 1) "first certificate" 12

/-- Two clients: the second one's request is bound first, so the first one's is refused as in progress; the job is run,
    and the first client saves the certificate. -/
def raced : List ((network pairSetup).withGhost (completing pairSetup)).Turn :=
  .start (.client 2) (.complete "default" secondPending 1) :: proceeds (.client 2) "second certificate" 18 ++
    .start (.client 1) (.complete "default" firstPending 1) :: proceeds (.client 1) "second certificate" 5 ++
    .start (.server ⟨"m1", 0⟩) (.serve (.runJob "cert_1")) :: proceeds (.server ⟨"m1", 0⟩) "second certificate" 25 ++
    proceeds (.client 1) "second certificate" 12

/-- The certificates saved: the request of the client, the certificate, and the request in the record shown. -/
def savedCertificates (turns : List ((network pairSetup).withGhost (completing pairSetup)).Turn) :
    Option (List (Option String × String × Option String)) :=
  (play ((issuing pairSetup pairKeys).withGhost (completing pairSetup)) turns
    (idle (world (db [newTunnel]), {}))).map fun cfg =>
      cfg.shared.2.saved.map fun saved => (saved.csr, saved.certificate, saved.shown.bind (·.certificateCsr))

theorem newTunnel_issued (id : TunnelId) (row : Row) (found : (db [newTunnel]).row id = some row) :
    row.record.issuedFor pairKeys = true := by
  simp only [db, List.foldl_cons, List.foldl_nil, Db.row_putRow] at found
  split at found
  · cases found
    rfl
  · cases found

end Sample

/-- A client alone saves a certificate for its own request. -/
theorem saved_certificate_own_alone :
    ∃ cfg, ((network Sample.pairSetup).withGhost (completing Sample.pairSetup)).Reach
        ((issuing Sample.pairSetup Sample.pairKeys).withGhost (completing Sample.pairSetup))
        (idle (Sample.world (Sample.db [Sample.newTunnel]), {})) cfg ∧
      ∃ saved ∈ cfg.shared.2.saved, saved.csr = some Sample.firstCsr ∧
        Sample.pairKeys.csrOf saved.certificate = Sample.firstCsr := by
  have seen : Sample.savedCertificates Sample.alone =
      some [(some Sample.firstCsr, "first certificate", some Sample.firstCsr)] := by decide +kernel
  obtain ⟨cfg, ran, seen⟩ := Option.map_eq_some_iff.mp seen
  have reach := reach_of_play ran
  obtain ⟨saved, rest, listed, is, -⟩ := List.map_eq_cons_iff.mp seen
  simp only [Prod.mk.injEq] at is
  obtain ⟨asked, -, stored⟩ := is
  have member : saved ∈ cfg.shared.2.saved := by simp [listed]
  obtain ⟨csr, record, asks, shown, own⟩ := saved_certificate_own Sample.pairSetup Sample.pairKeys (Sample.started _)
    Sample.newTunnel_issued reach saved member
  rw [asked] at asks
  cases asks
  rw [shown] at stored
  exact ⟨cfg, reach, saved, member, asked, own.mpr stored⟩

/-- A client whose bind was answered in progress saves the certificate of another client's request. -/
theorem foreign_certificate_saved :
    (Sample.world (Sample.db [Sample.newTunnel])).Started ∧
    (∀ id row, (Sample.world (Sample.db [Sample.newTunnel])).db.row id = some row →
      row.record.issuedFor Sample.pairKeys = true) ∧
    ∃ cfg, ((network Sample.pairSetup).withGhost (completing Sample.pairSetup)).Reach
        ((issuing Sample.pairSetup Sample.pairKeys).withGhost (completing Sample.pairSetup))
        (idle (Sample.world (Sample.db [Sample.newTunnel]), {})) cfg ∧
      ∃ saved ∈ cfg.shared.2.saved, saved.csr = some Sample.firstCsr ∧
        Sample.pairKeys.csrOf saved.certificate ≠ Sample.firstCsr := by
  refine ⟨Sample.started _, Sample.newTunnel_issued, ?_⟩
  have seen : Sample.savedCertificates Sample.raced =
      some [(some Sample.firstCsr, "second certificate", some Sample.secondCsr)] := by decide +kernel
  obtain ⟨cfg, ran, seen⟩ := Option.map_eq_some_iff.mp seen
  obtain ⟨saved, rest, listed, is, -⟩ := List.map_eq_cons_iff.mp seen
  simp only [Prod.mk.injEq] at is
  obtain ⟨asked, certificate, -⟩ := is
  refine ⟨cfg, reach_of_play ran, saved, by simp [listed], asked, ?_⟩
  rw [certificate]
  decide

end OpenTunnel
