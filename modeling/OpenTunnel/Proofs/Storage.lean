/-
Module: OpenTunnel.Proofs.Storage
Layer: Proofs
Purpose: What a crash leaves of a profile. Every operation of the client, stopped anywhere, leaves either nothing or an
  identity whose certificate is for its key, and a pending provision is resumed; except that `ensure` provisions anew
  over a saved identity whose certificate failed, which puts another private key next to it before anything else.
Imports: OpenTunnel.Tasks.Sequential, OpenTunnel.Model.Profile
Trusted boundary: none (fully proved)
Main exports: Genuine, Profile.Consistent, Intact, Replaces, storage_intact
Open obligations: none
-/
import OpenTunnel.Tasks.Sequential
import OpenTunnel.Model.Profile

namespace OpenTunnel

open Tasks Prog

/-! ### Tokens -/

theorem trim_newline (text : String) : trim (text ++ "\n") = trim text := by
  unfold trim
  congr 1
  rw [List.reverse_inj]
  have newline : "\n".toList = ['\n'] := by decide
  rw [String.toList_append, newline]
  generalize text.toList = chars
  induction chars with
  | nil => decide
  | cons c rest ih =>
      rw [List.cons_append, List.dropWhile_cons, List.dropWhile_cons]
      split
      · exact ih
      · have white : whitespace '\n' = true := by decide
        simp [white]

/-! ### Consistent profiles -/

section Consistency

variable (keys : Keys) (s : Profile)

/-- The certificate was issued for the identity's key and tunnel, and the token is the tunnel's. -/
structure Genuine (identity : Identity) : Prop where
  created : ⟨identity.id, identity.hostname, identity.token⟩ ∈ s.tunnels
  bound : (identity.id, keys.csrOf identity.certificate) ∈ s.bound
  fits : keys.keyOf (keys.csrOf identity.certificate) = identity.privateKey

/-- The tunnel was created with this token, and every request sent for it was made with this key. -/
structure Owned (id : TunnelId) (hostname token key : String) : Prop where
  created : ⟨id, hostname, token⟩ ∈ s.tunnels
  one : ∀ csr, (id, csr) ∈ s.bound → keys.keyOf csr = key

/-- A saved identity: its files are there, for one tunnel and key. -/
structure Saved (file : TunnelFile) (token key certificate chain : String) : Prop where
  tunnelFile : s.directory.tunnel = some file
  tokenFile : s.directory.texts .token = some token
  keyFile : s.directory.texts .privateKey = some key
  certificateFile : s.directory.texts .certificate = some certificate
  chainFile : s.directory.texts .chain = some chain
  owned : Owned keys s file.id file.hostname (trim token) key
  bound : (file.id, keys.csrOf certificate) ∈ s.bound

/-- A pending provision: its files are there, for one tunnel and key. -/
structure Awaiting (file : PendingFile) (token key : String) : Prop where
  pendingFile : s.directory.pending = some file
  tokenFile : s.directory.texts .token = some token
  keyFile : s.directory.texts .privateKey = some key
  owned : Owned keys s file.id file.hostname (trim token) key
  made : keys.keyOf file.csr = key

/-- What every operation keeps, wherever it is stopped. -/
structure Profile.Consistent : Prop where
  saved : ∀ file, s.directory.tunnel = some file → ∃ token key certificate chain, Saved keys s file token key certificate chain
  pending : ∀ file, s.directory.pending = some file → ∃ token key, Awaiting keys s file token key
  same : ∀ file pending, s.directory.tunnel = some file → s.directory.pending = some pending → pending.id = file.id
  interrupted : ∀ p, s.interrupted = some p → s.directory.tunnel = none ∧ s.directory.provision = some p
  used : ∀ key, s.directory.texts .privateKey = some key → key ∈ s.keys
  tokens : ∀ tunnel ∈ s.tunnels, trim tunnel.token = tunnel.token

/-- The step puts another private key next to a saved identity. -/
def Replaces (s s' : Profile) : Prop :=
  s.directory.tunnel.isSome = true ∧ s'.directory.texts .privateKey ≠ s.directory.texts .privateKey

end Consistency

/-! ### Calls -/

/-- A call is answered and does not replace the key of a saved identity. -/
def Does (keys : Keys) (op : ClientAct) (s : Profile) (ans : op.Ans) (s' : Profile) : Prop :=
  (∃ c, s.exec keys op c = some (ans, s')) ∧ ¬ Replaces s s'

/-- The program keeps the profile consistent call by call, and ends in `Q`. -/
abbrev Keeping {α : Type} (keys : Keys) (p : ClientProg α) (Q : α → Profile → Prop) (s : Profile) : Prop :=
  Keeps (Does keys) (Profile.Consistent keys) p Q s

section Calls

variable {α β : Type} {keys : Keys} {s s' : Profile} {Q : Except ClientError α → Profile → Prop}

/-- A file call fails and changes nothing, or does what it is for. -/
theorem file_call {c : ClientChoice} {run : α × Profile} {ans : Except ClientError α}
    (h : some (s.file c run) = some (ans, s')) (apart : ¬ Replaces s s') (consistent : s.Consistent keys)
    (stops : ∀ err, Q (.error err) s) (next : ¬ Replaces s run.2 → run.2.Consistent keys ∧ Q (.ok run.1) run.2) :
    s'.Consistent keys ∧ Q ans s' := by
  unfold Profile.file at h
  split at h
  · cases h
    exact ⟨consistent, stops _⟩
  · cases h
    exact next apart

theorem keeping_readText {Q : Except ClientError (Option String) → Profile → Prop} {file : TextFile}
    (consistent : s.Consistent keys) (stops : ∀ err, Q (.error err) s) (next : Q (.ok (s.directory.texts file)) s) :
    Keeping keys (send (.readText file)) Q s := by
  rintro ans s' ⟨⟨c, h⟩, apart⟩
  exact file_call h apart consistent stops fun _ => ⟨consistent, next⟩

theorem keeping_readTunnel {Q : Except ClientError (Option TunnelFile) → Profile → Prop}
    (consistent : s.Consistent keys) (stops : ∀ err, Q (.error err) s) (next : Q (.ok s.directory.tunnel) s) :
    Keeping keys (send .readTunnel) Q s := by
  rintro ans s' ⟨⟨c, h⟩, apart⟩
  exact file_call h apart consistent stops fun _ => ⟨consistent, next⟩

theorem keeping_readPending {Q : Except ClientError (Option PendingFile) → Profile → Prop}
    (consistent : s.Consistent keys) (stops : ∀ err, Q (.error err) s) (next : Q (.ok s.directory.pending) s) :
    Keeping keys (send .readPending) Q s := by
  rintro ans s' ⟨⟨c, h⟩, apart⟩
  exact file_call h apart consistent stops fun _ => ⟨consistent, next⟩

/-- What is left to show after a part of a program: its error ends the whole. -/
def After (keys : Keys) (f : β → ClientCall α) (Q : Except ClientError α → Profile → Prop) :
    Except ClientError β → Profile → Prop
  | .ok b, s => Keeping keys (f b).run Q s
  | .error err, s => Q (.error err) s

theorem keeping_bind {p : ClientCall β} {f : β → ClientCall α} (keeps : Keeping keys p.run (After keys f Q) s) :
    Keeping keys (p >>= f).run Q s := by
  apply keeps_exceptBind
  apply keeps_mono keeps
  intro result s' ends
  cases result with
  | ok a => exact ends
  | error e => exact ends

end Calls

/-! ### Reading -/

section Reading

variable {keys : Keys} {s : Profile} {profile : String}

theorem keeping_profileDir {α : Type} {Q : Except ClientError α → Profile → Prop} {f : Unit → ClientCall α}
    (stops : ∀ err, Q (.error err) s) (next : Keeping keys (f ()).run Q s) :
    Keeping keys (Storage.profileDir profile >>= f).run Q s := by
  apply keeping_bind
  unfold Storage.profileDir
  split
  · exact next
  · exact stops _

theorem keeping_required {α : Type} {Q : Except ClientError α → Profile → Prop} {kind : String} {file : TextFile}
    {f : String → ClientCall α} (consistent : s.Consistent keys) (stops : ∀ err, Q (.error err) s)
    (next : ∀ content, s.directory.texts file = some content → Keeping keys (f content).run Q s) :
    Keeping keys (Storage.required profile kind file >>= f).run Q s := by
  apply keeping_bind
  unfold Storage.required
  apply keeping_bind
  apply keeping_readText consistent stops
  cases found : s.directory.texts file with
  | some content => exact next content found
  | none => exact stops _

/-- The files hold the identity. -/
structure Holds (d : Directory) (identity : Identity) (token : String) : Prop where
  tunnel : d.tunnel = some ⟨identity.id, identity.hostname, identity.certificateExpiry⟩
  tokenFile : d.texts .token = some token
  trimmed : identity.token = trim token
  privateKey : d.texts .privateKey = some identity.privateKey
  certificate : d.texts .certificate = some identity.certificate
  chain : d.texts .chain = some identity.chain

theorem keeping_load {Q : Except ClientError (Option Identity) → Profile → Prop} (consistent : s.Consistent keys)
    (stops : ∀ err, Q (.error err) s) (nothing : s.directory.tunnel = none → Q (.ok none) s)
    (found : ∀ identity token, Holds s.directory identity token → Q (.ok (some identity)) s) :
    Keeping keys (Storage.load profile).run Q s := by
  unfold Storage.load
  apply keeping_profileDir stops
  apply keeping_bind
  apply keeping_readTunnel consistent stops
  cases is : s.directory.tunnel with
  | none => exact nothing is
  | some file =>
      apply keeping_required consistent stops
      intro token tokenFile
      apply keeping_required consistent stops
      intro key keyFile
      apply keeping_required consistent stops
      intro certificate certificateFile
      apply keeping_required consistent stops
      intro chain chainFile
      exact found _ token ⟨is, tokenFile, rfl, keyFile, certificateFile, chainFile⟩

theorem keeping_loadPending {Q : Except ClientError (Option PendingIdentity) → Profile → Prop}
    (consistent : s.Consistent keys) (stops : ∀ err, Q (.error err) s)
    (nothing : s.directory.pending = none → Q (.ok none) s)
    (found : ∀ pending, s.directory.provision = some pending → Q (.ok (some pending)) s) :
    Keeping keys (Storage.loadPending profile).run Q s := by
  unfold Storage.loadPending
  apply keeping_profileDir stops
  apply keeping_bind
  apply keeping_readPending consistent stops
  cases is : s.directory.pending with
  | none => exact nothing is
  | some file =>
      apply keeping_required consistent stops
      intro token tokenFile
      apply keeping_required consistent stops
      intro key keyFile
      exact found _ (by simp [Directory.provision, is, tokenFile, keyFile])

end Reading

/-! ### Writing -/

namespace Profile.Consistent

variable {keys : Keys} {s : Profile}

/-- The files belong to a saved identity or a pending provision. -/
def InUse (d : Directory) : Prop := d.tunnel ≠ none ∨ d.pending ≠ none

/-- A text may be written: a token that reads as the one in use, the key in use, or a certificate for the tunnel. -/
structure Fitting (keys : Keys) (s : Profile) (file : TextFile) (content : String) : Prop where
  token : file = .token → InUse s.directory → ∀ old, s.directory.texts .token = some old → trim content = trim old
  used : file = .privateKey → content ∈ s.keys
  privateKey : file = .privateKey → InUse s.directory → ∀ old, s.directory.texts .privateKey = some old → content = old
  certificate : file = .certificate → ∀ tunnel, s.directory.tunnel = some tunnel →
    (tunnel.id, keys.csrOf content) ∈ s.bound

/-- What a file holds once another or the same was written. -/
theorem texts_write {d : Directory} {file other : TextFile} {content old : String} (there : d.texts other = some old) :
    (d.write file content).texts other = some (if other = file then content else old) := by
  unfold Directory.write
  dsimp only
  split
  · rfl
  · exact there

theorem writeText (consistent : s.Consistent keys) {file : TextFile} {content : String}
    (fitting : Fitting keys s file content) :
    Profile.Consistent keys { s with directory := s.directory.write file content } := by
  have token (use : InUse s.directory) (old : String) (there : s.directory.texts .token = some old) :
      trim (if .token = file then content else old) = trim old := by
    split
    · rename_i is
      exact fitting.token is.symm use old there
    · rfl
  have privateKey (use : InUse s.directory) (old : String) (there : s.directory.texts .privateKey = some old) :
      (if .privateKey = file then content else old) = old := by
    split
    · rename_i is
      exact fitting.privateKey is.symm use old there
    · rfl
  constructor
  · intro tunnel is
    obtain ⟨old, key, certificate, chain, saved⟩ := consistent.saved tunnel is
    have use : InUse s.directory := Or.inl (by simp [saved.tunnelFile])
    refine ⟨_, _, _, _, is, texts_write saved.tokenFile, texts_write saved.keyFile, texts_write saved.certificateFile,
      texts_write saved.chainFile, ?_, ?_⟩
    · rw [token use old saved.tokenFile, privateKey use key saved.keyFile]
      exact ⟨saved.owned.created, saved.owned.one⟩
    · dsimp only
      split
      · rename_i certificateIs
        exact fitting.certificate certificateIs.symm tunnel is
      · exact saved.bound
  · intro pending is
    obtain ⟨old, key, awaiting⟩ := consistent.pending pending is
    have use : InUse s.directory := Or.inr (by simp [awaiting.pendingFile])
    refine ⟨_, _, is, texts_write awaiting.tokenFile, texts_write awaiting.keyFile, ?_, ?_⟩
    · rw [token use old awaiting.tokenFile, privateKey use key awaiting.keyFile]
      exact ⟨awaiting.owned.created, awaiting.owned.one⟩
    · rw [privateKey use key awaiting.keyFile]
      exact awaiting.made
  · exact consistent.same
  · intro p is
    obtain ⟨none, provision⟩ := consistent.interrupted p is
    refine ⟨none, ?_⟩
    rw [← provision]
    cases pending : s.directory.pending with
    | none => simp [Directory.provision, Directory.write, pending]
    | some awaited =>
        obtain ⟨old, key, awaiting⟩ := consistent.pending awaited pending
        have use : InUse s.directory := Or.inr (by simp [awaiting.pendingFile])
        have pending' : (s.directory.write file content).pending = some awaited := pending
        simp [Directory.provision, pending, pending', texts_write awaiting.tokenFile, texts_write awaiting.keyFile,
          awaiting.tokenFile, awaiting.keyFile, token use old awaiting.tokenFile, privateKey use key awaiting.keyFile]
  · intro key is
    by_cases written : file = .privateKey
    · have content_is : content = key := by simpa [Directory.write, written] using is
      rw [← content_is]
      exact fitting.used written
    · have there : s.directory.texts .privateKey = some key := by
        simpa [Directory.write, Ne.symm written] using is
      exact consistent.used key there
  · exact consistent.tokens

/-- `tunnel.json` is written last, when the other files are there. -/
theorem writeTunnel (consistent : s.Consistent keys) {file : TunnelFile} {token key certificate chain : String}
    (tokenFile : s.directory.texts .token = some token) (keyFile : s.directory.texts .privateKey = some key)
    (certificateFile : s.directory.texts .certificate = some certificate)
    (chainFile : s.directory.texts .chain = some chain) (owned : Owned keys s file.id file.hostname (trim token) key)
    (bound : (file.id, keys.csrOf certificate) ∈ s.bound)
    (same : ∀ pending, s.directory.pending = some pending → pending.id = file.id) :
    Profile.Consistent keys
      { s with directory := { s.directory with tunnel := some file }, interrupted := none } := by
  constructor
  · intro file' is
    cases is
    exact ⟨token, key, certificate, chain, rfl, tokenFile, keyFile, certificateFile, chainFile,
      ⟨owned.created, owned.one⟩, bound⟩
  · intro pending is
    obtain ⟨token, key, awaiting⟩ := consistent.pending pending is
    exact ⟨token, key, is, awaiting.tokenFile, awaiting.keyFile, ⟨awaiting.owned.created, awaiting.owned.one⟩,
      awaiting.made⟩
  · intro file' pending is pendingIs
    cases is
    exact same pending pendingIs
  · intro p is
    cases is
  · exact consistent.used
  · exact consistent.tokens

/-- `pending.json` is written last, when no identity is saved. -/
theorem writePending (consistent : s.Consistent keys) (file : PendingFile) {token key : String}
    (nothing : s.directory.tunnel = none)
    (tokenFile : s.directory.texts .token = some token) (keyFile : s.directory.texts .privateKey = some key)
    (owned : Owned keys s file.id file.hostname (trim token) key) (made : keys.keyOf file.csr = key) :
    Profile.Consistent keys { s with
      directory := { s.directory with pending := some file }
      interrupted := Directory.provision { s.directory with pending := some file } } := by
  constructor
  · intro file' is
    simp [nothing] at is
  · intro pending is
    cases is
    exact ⟨token, key, rfl, tokenFile, keyFile, ⟨owned.created, owned.one⟩, made⟩
  · intro file' pending is
    simp [nothing] at is
  · intro p is
    exact ⟨nothing, is⟩
  · exact consistent.used
  · exact consistent.tokens

theorem removePending (consistent : s.Consistent keys) (complete : s.interrupted = none) :
    Profile.Consistent keys { s with directory := { s.directory with pending := none } } := by
  constructor
  · intro file is
    obtain ⟨token, key, certificate, chain, saved⟩ := consistent.saved file is
    exact ⟨token, key, certificate, chain, is, saved.tokenFile, saved.keyFile, saved.certificateFile, saved.chainFile,
      ⟨saved.owned.created, saved.owned.one⟩, saved.bound⟩
  · intro pending is
    cases is
  · intro file pending _ is
    cases is
  · intro p is
    rw [complete] at is
    cases is
  · exact consistent.used
  · exact consistent.tokens

/-- The request of the pending provision is sent. -/
theorem bind (consistent : s.Consistent keys) {file : PendingFile} (pending : s.directory.pending = some file) :
    Profile.Consistent keys { s with bound := (file.id, file.csr) :: s.bound } := by
  obtain ⟨token, key, awaiting⟩ := consistent.pending file pending
  have one (id : TunnelId) (older : ∀ csr, (id, csr) ∈ s.bound → keys.keyOf csr = key) (csr : String)
      (sent : (id, csr) ∈ (file.id, file.csr) :: s.bound) : keys.keyOf csr = key := by
    rcases List.mem_cons.mp sent with now | before
    · rw [(Prod.mk.inj now).2]
      exact awaiting.made
    · exact older csr before
  constructor
  · intro tunnel is
    obtain ⟨token', key', certificate, chain, saved⟩ := consistent.saved tunnel is
    have keyIs : key' = key := Option.some.inj (saved.keyFile.symm.trans awaiting.keyFile)
    subst keyIs
    exact ⟨token', key', certificate, chain, is, saved.tokenFile, saved.keyFile, saved.certificateFile, saved.chainFile,
      ⟨saved.owned.created, one _ saved.owned.one⟩, List.mem_cons_of_mem _ saved.bound⟩
  · intro file' is
    cases pending.symm.trans is
    exact ⟨token, key, is, awaiting.tokenFile, awaiting.keyFile, ⟨awaiting.owned.created, one _ awaiting.owned.one⟩,
      awaiting.made⟩
  · exact consistent.same
  · exact consistent.interrupted
  · exact consistent.used
  · exact consistent.tokens

/-- A key was generated, or a tunnel created. -/
theorem grow (consistent : s.Consistent keys) {tunnels : List CreatedTunnel} {used : List String}
    (more : s.tunnels ⊆ tunnels) (moreKeys : s.keys ⊆ used) (tokens : ∀ tunnel ∈ tunnels, trim tunnel.token = tunnel.token) :
    Profile.Consistent keys { s with tunnels := tunnels, keys := used } := by
  constructor
  · intro file is
    obtain ⟨token, key, certificate, chain, saved⟩ := consistent.saved file is
    exact ⟨token, key, certificate, chain, is, saved.tokenFile, saved.keyFile, saved.certificateFile, saved.chainFile,
      ⟨more saved.owned.created, saved.owned.one⟩, saved.bound⟩
  · intro pending is
    obtain ⟨token, key, awaiting⟩ := consistent.pending pending is
    exact ⟨token, key, is, awaiting.tokenFile, awaiting.keyFile, ⟨more awaiting.owned.created, awaiting.owned.one⟩,
      awaiting.made⟩
  · exact consistent.same
  · exact consistent.interrupted
  · intro key is
    exact moreKeys (consistent.used key is)
  · exact tokens

end Profile.Consistent

/-! ### Operations -/

section Operations

open Profile.Consistent

variable {keys : Keys} {s : Profile} {profile : String}

section Rules

variable {α β : Type} {Q : Except ClientError α → Profile → Prop}

/-- A write of a text, if it does not replace the key of a saved identity. -/
theorem keeping_writeText {file : TextFile} {content : String} {f : Unit → ClientCall α}
    (stops : ∀ err s', Q (.error err) s') (consistent : s.Consistent keys)
    (fitting : ¬ Replaces s { s with directory := s.directory.write file content } → Fitting keys s file content)
    (next : Profile.Consistent keys { s with directory := s.directory.write file content } →
      Keeping keys (f ()).run Q { s with directory := s.directory.write file content }) :
    Keeping keys (request (send (.writeText file content)) >>= f).run Q s := by
  apply keeping_bind
  rintro ans s' ⟨⟨c, h⟩, apart⟩
  apply file_call (Q := After keys f Q) h apart consistent
  · intro err
    exact stops err s
  · intro apart
    have kept := consistent.writeText (fitting apart)
    exact ⟨kept, next kept⟩

theorem keeping_ensureDir {f : Unit → ClientCall α} (stops : ∀ err s', Q (.error err) s')
    (consistent : s.Consistent keys) (next : Keeping keys (f ()).run Q s) :
    Keeping keys (Storage.ensureDir profile >>= f).run Q s := by
  apply keeping_bind
  unfold Storage.ensureDir
  apply keeping_profileDir
  · exact fun err => stops err s
  · rintro ans s' ⟨⟨c, h⟩, apart⟩
    apply file_call (Q := After keys f Q) h apart consistent
    · exact fun err => stops err s
    · exact fun _ => ⟨consistent, next⟩

end Rules

/-- A program whose result does not matter. -/
abbrev Harmless {α : Type} (keys : Keys) (p : ClientCall α) (s : Profile) : Prop :=
  Keeping keys p.run (fun _ _ => True) s

/-- The identity may be saved over the files that are there: same token and key, a certificate for them. -/
structure Savable (keys : Keys) (s : Profile) (identity : Identity) (token : String) : Prop where
  tokenFile : s.directory.texts .token = some token
  trimmed : trim token = identity.token
  keyFile : s.directory.texts .privateKey = some identity.privateKey
  owned : Owned keys s identity.id identity.hostname identity.token identity.privateKey
  bound : (identity.id, keys.csrOf identity.certificate) ∈ s.bound
  tunnel : ∀ file, s.directory.tunnel = some file → file.id = identity.id
  pending : ∀ pending, s.directory.pending = some pending → pending.id = identity.id

/-- The end of `save`: `tunnel.json` makes the identity complete, and the pending provision is over. -/
theorem saveTunnel_harmless {identity : Identity} {token : String} (consistent : s.Consistent keys)
    (savable : Savable keys s identity token) (certificateFile : s.directory.texts .certificate = some identity.certificate)
    (chainFile : s.directory.texts .chain = some identity.chain) :
    Harmless keys (do
      request (send (.writeTunnel
        { id := identity.id, hostname := identity.hostname, certificateExpiry := identity.certificateExpiry }))
      request (send .removePending)) s := by
  have kept : Profile.Consistent keys
      { s with
        directory := { s.directory with tunnel := some ⟨identity.id, identity.hostname, identity.certificateExpiry⟩ }
        interrupted := none } := by
    apply consistent.writeTunnel savable.tokenFile savable.keyFile certificateFile chainFile
    · rw [savable.trimmed]
      exact savable.owned
    · exact savable.bound
    · exact savable.pending
  apply keeping_bind
  rintro ans s' ⟨⟨c, h⟩, apart⟩
  apply file_call (Q := After keys (fun _ => request (send .removePending)) fun _ _ => True) h apart consistent
  · exact fun _ => trivial
  · refine fun _ => ⟨kept, ?_⟩
    rintro ans s' ⟨⟨c, h⟩, apart⟩
    exact file_call (Q := fun _ _ => True) h apart kept (fun _ => trivial) fun _ => ⟨kept.removePending rfl, trivial⟩

theorem Savable.writeText {identity : Identity} {token content : String} {file : TextFile}
    (savable : Savable keys s identity token) (token' : file = .token → trim content = identity.token)
    (key : file = .privateKey → content = identity.privateKey) :
    Savable keys { s with directory := s.directory.write file content } identity
      (if .token = file then content else token) where
  tokenFile := texts_write savable.tokenFile
  trimmed := by
    split
    · rename_i is
      exact token' is.symm
    · exact savable.trimmed
  keyFile := by
    have there : (s.directory.write file content).texts .privateKey =
        some (if .privateKey = file then content else identity.privateKey) := texts_write savable.keyFile
    dsimp only
    rw [there]
    split
    · rename_i is
      rw [key is.symm]
    · rfl
  owned := ⟨savable.owned.created, savable.owned.one⟩
  bound := savable.bound
  tunnel := savable.tunnel
  pending := savable.pending

/-- Each text of a savable identity may be written. -/
theorem Savable.fitting {identity : Identity} {token content : String} {file : TextFile}
    (savable : Savable keys s identity token) (consistent : s.Consistent keys)
    (token' : file = .token → trim content = identity.token) (key : file = .privateKey → content = identity.privateKey)
    (certificate : file = .certificate → content = identity.certificate) : Fitting keys s file content where
  token := by
    intro is _ old there
    cases savable.tokenFile.symm.trans there
    rw [token' is, savable.trimmed]
  used := by
    intro is
    rw [key is]
    exact consistent.used _ savable.keyFile
  privateKey := by
    intro is _ old there
    cases savable.keyFile.symm.trans there
    exact key is
  certificate := by
    intro is tunnel there
    rw [savable.tunnel tunnel there, certificate is]
    exact savable.bound

theorem save_harmless {identity : Identity} {token : String} (consistent : s.Consistent keys)
    (savable : Savable keys s identity token) : Harmless keys (Storage.save profile identity) s := by
  have reads : trim (identity.token ++ "\n") = identity.token := by
    rw [trim_newline]
    exact consistent.tokens ⟨identity.id, identity.hostname, identity.token⟩ savable.owned.created
  have writes {α : Type} {s : Profile} {token : String} {file : TextFile} {content : String} {f : Unit → ClientCall α}
      (consistent : s.Consistent keys) (savable : Savable keys s identity token)
      (token' : file = .token → trim content = identity.token)
      (key : file = .privateKey → content = identity.privateKey)
      (certificate : file = .certificate → content = identity.certificate)
      (next : ∀ s' token', s' = { s with directory := s.directory.write file content } → s'.Consistent keys →
        Savable keys s' identity token' → Harmless keys (f ()) s') :
      Harmless keys (request (send (.writeText file content)) >>= f) s := by
    apply keeping_writeText (fun _ _ => trivial) consistent
    · exact fun _ => savable.fitting consistent token' key certificate
    intro kept
    exact next _ _ rfl kept (savable.writeText token' key)
  unfold Storage.save
  apply keeping_ensureDir (fun _ _ => trivial) consistent
  apply writes consistent savable (fun _ => reads) (by simp) (by simp)
  intro s₁ token₁ _ consistent savable
  apply writes consistent savable (by simp) (fun _ => rfl) (by simp)
  intro s₂ token₂ _ consistent savable
  apply writes consistent savable (by simp) (by simp) (fun _ => rfl)
  intro s₃ token₃ is₃ consistent savable
  apply writes consistent savable (by simp) (by simp) (by simp)
  intro s₄ token₄ is₄ consistent savable
  apply saveTunnel_harmless consistent savable
  · simp [is₄, is₃, Directory.write]
  · simp [is₄, Directory.write]

theorem provision_eq {d : Directory} {pending : PendingIdentity} (is : d.provision = some pending) :
    d.pending = some ⟨pending.id, pending.hostname, pending.csr⟩ ∧
      (∃ token, d.texts .token = some token ∧ trim token = pending.token) ∧
      d.texts .privateKey = some pending.privateKey := by
  unfold Directory.provision at is
  obtain ⟨file, pendingFile, is⟩ := Option.bind_eq_some_iff.mp is
  obtain ⟨token, tokenFile, is⟩ := Option.bind_eq_some_iff.mp is
  obtain ⟨key, keyFile, is⟩ := Option.map_eq_some_iff.mp is
  subst is
  exact ⟨pendingFile, ⟨token, tokenFile, rfl⟩, keyFile⟩

/-- A certificate the server shows for a tunnel was issued for a request sent for it. -/
theorem keeping_certificate {token : String} {id : TunnelId} {Q : Except ClientError CertificateInfo → Profile → Prop}
    (consistent : s.Consistent keys) (stops : ∀ err, Q (.error err) s)
    (shown : ∀ info : CertificateInfo, (∀ certificate chain expiry, info.state = .ready certificate chain expiry →
      (id, keys.csrOf certificate) ∈ s.bound) → Q (.ok info) s) :
    Keeping keys (send (.apiCertificate token id)) Q s := by
  rintro ans s' ⟨⟨c, h⟩, -⟩
  simp only [Profile.exec] at h
  split at h
  · cases h
    exact ⟨consistent, stops _⟩
  · rename_i info _
    split at h
    · rename_i allowed
      cases h
      refine ⟨consistent, shown info ?_⟩
      intro certificate chain expiry is
      rw [is] at allowed
      simpa [Profile.shows] using allowed
    · cases h

theorem poll_keeping {pending : PendingIdentity} (consistent : s.Consistent keys) (polls : Nat) :
    Keeping keys (Client.poll pending polls).run (fun result s' => s' = s ∧ ∀ certificate chain expiry,
      result = .ok (certificate, chain, expiry) → (pending.id, keys.csrOf certificate) ∈ s.bound) s := by
  induction polls with
  | zero => exact ⟨rfl, by simp⟩
  | succ polls ih =>
      unfold Client.poll
      apply keeping_bind
      apply keeping_certificate consistent (fun _ => ⟨rfl, by simp⟩)
      rintro ⟨c, state⟩ ready
      cases state with
      | ready certificate chain expiry =>
          refine ⟨rfl, ?_⟩
          intro certificate' chain' expiry' same
          cases same
          exact ready certificate chain expiry rfl
      | failed reason => exact ⟨rfl, by simp⟩
      | challenge token key => exact ih
      | issuing => exact ih

/-- The end of `complete`. -/
theorem finish_harmless (profile : String) {pending : PendingIdentity} (consistent : s.Consistent keys)
    (provision : s.directory.provision = some pending) (polls : Nat) :
    Harmless keys (do
      let (certificate, chain, expiry) ← Client.poll pending polls
      let identity := Client.completed pending certificate chain expiry
      Storage.save profile identity
      return identity) s := by
  apply keeps_exceptBind
  apply keeps_mono (poll_keeping consistent polls)
  rintro result s' ⟨rfl, bound⟩
  cases result with
  | error err => trivial
  | ok found =>
      obtain ⟨certificate, chain, expiry⟩ := found
      obtain ⟨pendingFile, ⟨token, tokenFile, trimmed⟩, keyFile⟩ := provision_eq provision
      obtain ⟨token', key, awaiting⟩ := consistent.pending _ pendingFile
      cases tokenFile.symm.trans awaiting.tokenFile
      cases keyFile.symm.trans awaiting.keyFile
      have savable : Savable keys s' (Client.completed pending certificate chain expiry) token := by
        refine ⟨tokenFile, trimmed, keyFile, ?_, bound certificate chain expiry rfl, ?_, ?_⟩
        · have owned := awaiting.owned
          rw [trimmed] at owned
          exact owned
        · intro file is
          exact (consistent.same file _ is pendingFile).symm
        · intro pending' is
          cases pendingFile.symm.trans is
          rfl
      apply keeps_exceptBind
      apply keeps_mono (save_harmless consistent savable)
      intro result _ _
      cases result with
      | error err => trivial
      | ok _ => trivial

theorem complete_harmless {pending : PendingIdentity} (consistent : s.Consistent keys)
    (provision : s.directory.provision = some pending) (polls : Nat) :
    Harmless keys (Client.complete profile pending polls) s := by
  obtain ⟨pendingFile, -, -⟩ := provision_eq provision
  unfold Client.complete
  rintro ans s' ⟨⟨c, h⟩, -⟩
  have reached : s'.Consistent keys ∧ s'.directory.provision = some pending := by
    simp only [Profile.exec] at h
    by_cases sent : (c.arrived || c.bound.isOk) = true
    · rw [if_pos sent] at h
      cases h
      exact ⟨consistent.bind pendingFile, provision⟩
    · rw [if_neg sent] at h
      cases h
      exact ⟨consistent, provision⟩
  refine ⟨reached.1, ?_⟩
  have finishes := finish_harmless profile reached.1 reached.2 polls
  cases ans with
  | ok info => exact finishes
  | error err =>
      cases err with
      | api status tag message =>
          have either {rest : ClientCall Identity} (finishes : Harmless keys rest s') :
              Harmless keys (if (tag == "CertificateInProgressError") = true then rest
                else throw (.api status tag message)) s' := by
            split
            · exact finishes
            · trivial
          exact either finishes
      | _ => trivial

/-- A generated key is new, and the request is made with it. -/
theorem keeping_generate {hostname : String} {Q : Except ClientError KeyAndCsr → Profile → Prop}
    (consistent : s.Consistent keys) (stops : ∀ err, Q (.error err) s)
    (next : ∀ made : KeyAndCsr, made.privateKey ∉ s.keys → keys.keyOf made.csr = made.privateKey →
      Profile.Consistent keys { s with keys := made.privateKey :: s.keys } →
      Q (.ok made) { s with keys := made.privateKey :: s.keys }) :
    Keeping keys (send (.generate hostname)) Q s := by
  rintro ans s' ⟨⟨c, h⟩, -⟩
  simp only [Profile.exec] at h
  split at h
  · cases h
    exact ⟨consistent, stops _⟩
  · rename_i made _
    split at h
    · rename_i allowed
      cases h
      rw [Bool.and_eq_true] at allowed
      have kept : Profile.Consistent keys { s with keys := made.privateKey :: s.keys } :=
        consistent.grow (fun _ listed => listed) (List.subset_cons_self _ _) consistent.tokens
      exact ⟨kept, next made (by simpa using allowed.1) (by simpa using allowed.2) kept⟩
    · cases h

/-- `save_pending` in an empty directory. -/
theorem savePending_keeping {pending : PendingIdentity} (consistent : s.Consistent keys)
    (empty : ¬ InUse s.directory) (owned : Owned keys s pending.id pending.hostname pending.token pending.privateKey)
    (used : pending.privateKey ∈ s.keys) (made : keys.keyOf pending.csr = pending.privateKey) :
    Keeping keys (Storage.savePending profile pending).run (fun result s' =>
      result = .ok () → s'.Consistent keys ∧ s'.directory.provision = some pending) s := by
  have nothing : s.directory.tunnel = none := by
    cases is : s.directory.tunnel with
    | none => rfl
    | some file => exact absurd (Or.inl (by simp [is])) empty
  have reads : trim (pending.token ++ "\n") = pending.token := by
    rw [trim_newline]
    exact consistent.tokens ⟨pending.id, pending.hostname, pending.token⟩ owned.created
  unfold Storage.savePending
  apply keeping_ensureDir (by simp) consistent
  apply keeping_writeText (by simp) consistent
  · refine fun _ => ⟨fun _ use => absurd use empty, by simp, by simp, by simp⟩
  intro consistent
  apply keeping_writeText (by simp) consistent
  · exact fun _ => ⟨by simp, fun _ => used, fun _ use => absurd use empty, by simp⟩
  intro consistent
  rintro ans s' ⟨⟨c, h⟩, apart⟩
  apply file_call (Q := fun result s' => result = .ok () → s'.Consistent keys ∧ s'.directory.provision = some pending)
    h apart consistent
  · simp
  · intro _
    have tokenFile : ((s.directory.write .token (pending.token ++ "\n")).write .privateKey pending.privateKey).texts
        .token = some (pending.token ++ "\n") := by simp [Directory.write]
    have keyFile : ((s.directory.write .token (pending.token ++ "\n")).write .privateKey pending.privateKey).texts
        .privateKey = some pending.privateKey := by simp [Directory.write]
    have owned : Owned keys s pending.id pending.hostname (trim (pending.token ++ "\n")) pending.privateKey := by
      rw [reads]
      exact owned
    have kept := consistent.writePending ⟨pending.id, pending.hostname, pending.csr⟩ nothing tokenFile keyFile
      ⟨owned.created, owned.one⟩ made
    refine ⟨kept, fun _ => ⟨kept, ?_⟩⟩
    simp [Directory.provision, tokenFile, keyFile, reads]

/-- `provision` for a tunnel that was just created. -/
theorem provision_harmless {created : CreatedTunnel} (consistent : s.Consistent keys) (empty : ¬ InUse s.directory)
    (listed : created ∈ s.tunnels) (fresh : ∀ csr, (created.id, csr) ∉ s.bound) (polls : Nat) :
    Harmless keys (Client.provision profile created.id created.hostname created.token polls) s := by
  unfold Client.provision
  apply keeping_bind
  apply keeping_generate consistent (fun _ => trivial)
  intro made _ fits consistent
  apply keeping_bind
  have owned : Owned keys { s with keys := made.privateKey :: s.keys } created.id created.hostname created.token
      made.privateKey := ⟨listed, fun csr sent => absurd sent (fresh csr)⟩
  apply keeps_mono (savePending_keeping consistent empty owned (List.mem_cons_self ..) fits)
  intro result s' ends
  cases result with
  | error err => trivial
  | ok _ =>
      obtain ⟨consistent, provision⟩ := ends rfl
      exact complete_harmless consistent provision polls

/-- `provision` over a saved identity gets no further than the token, which is the same: the new key would replace the
    saved one. -/
theorem reprovision_harmless {identity : Identity} {token : String} (consistent : s.Consistent keys)
    (holds : Holds s.directory identity token) (polls : Nat) :
    Harmless keys (Client.provision profile identity.id identity.hostname identity.token polls) s := by
  obtain ⟨token', key, certificate, chain, saved⟩ := consistent.saved _ holds.tunnel
  cases holds.tokenFile.symm.trans saved.tokenFile
  cases holds.privateKey.symm.trans saved.keyFile
  have reads : trim (identity.token ++ "\n") = trim token := by
    rw [trim_newline, holds.trimmed]
    exact consistent.tokens ⟨identity.id, identity.hostname, trim token⟩ saved.owned.created
  have old := consistent.used _ holds.privateKey
  unfold Client.provision
  apply keeping_bind
  apply keeping_generate consistent (fun _ => trivial)
  intro made new _ consistent
  apply keeping_bind
  unfold Storage.savePending
  apply keeping_ensureDir (fun _ _ => trivial) consistent
  apply keeping_writeText (fun _ _ => trivial) consistent
  · refine fun _ => ⟨?_, by simp, by simp, by simp⟩
    intro _ _ before there
    cases holds.tokenFile.symm.trans there
    exact reads
  intro consistent
  apply keeping_bind
  rintro ans s' ⟨⟨c, h⟩, apart⟩
  apply file_call (Q := After keys _ _) h apart consistent
  · exact fun _ => trivial
  · intro apart
    refine absurd ⟨?_, ?_⟩ apart
    · simp [Directory.write, holds.tunnel]
    · have other : made.privateKey ≠ identity.privateKey := by
        intro same
        rw [same] at new
        exact new old
      simpa [Directory.write, holds.privateKey] using other

theorem create_harmless (consistent : s.Consistent keys) (polls : Nat) :
    Harmless keys (Client.create profile polls) s := by
  unfold Client.create
  apply keeping_bind
  apply keeping_load consistent (fun _ => trivial)
  · intro nothing
    apply keeping_bind
    apply keeping_loadPending consistent (fun _ => trivial)
    · intro none
      apply keeping_bind
      rintro ans s' ⟨⟨c, h⟩, -⟩
      simp only [Profile.exec] at h
      split at h
      · cases h
        exact ⟨consistent, trivial⟩
      · rename_i tunnel _
        split at h
        · rename_i allowed
          cases h
          simp only [Bool.and_eq_true, List.all_eq_true, bne_iff_ne, beq_iff_eq] at allowed
          obtain ⟨⟨-, unsent⟩, trimmed⟩ := allowed
          have kept : Profile.Consistent keys { s with tunnels := tunnel :: s.tunnels } := by
            apply consistent.grow (List.subset_cons_self _ _) fun _ listed => listed
            intro other listed
            rcases List.mem_cons.mp listed with rfl | before
            · exact trimmed
            · exact consistent.tokens other before
          refine ⟨kept, provision_harmless kept ?_ (List.mem_cons_self ..) ?_ polls⟩
          · rintro (saved | pending)
            · exact saved nothing
            · exact pending none
          · intro csr sent
            exact unsent _ sent rfl
        · cases h
    · intro pending provision
      exact complete_harmless consistent provision polls
  · intro identity token _
    trivial

theorem resume_harmless (consistent : s.Consistent keys) (polls : Nat) :
    Harmless keys (Client.resume profile polls) s := by
  unfold Client.resume
  apply keeping_bind
  apply keeping_loadPending consistent (fun _ => trivial)
  · intro _
    trivial
  · intro pending provision
    apply keeping_bind
    apply keeps_mono (complete_harmless consistent provision polls)
    intro result _ _
    cases result with
    | ok _ => trivial
    | error _ => trivial

/-- A renewed certificate may be saved over the identity. -/
theorem Holds.savable {identity : Identity} {token : String} (certificate chain expiry : String)
    (consistent : s.Consistent keys) (holds : Holds s.directory identity token) (bound : (identity.id, keys.csrOf certificate) ∈ s.bound) :
    Savable keys s { identity with certificate := certificate, chain := chain, certificateExpiry := expiry } token := by
  obtain ⟨token', key, certificate', chain', saved⟩ := consistent.saved _ holds.tunnel
  cases holds.tokenFile.symm.trans saved.tokenFile
  cases holds.privateKey.symm.trans saved.keyFile
  refine ⟨holds.tokenFile, holds.trimmed.symm, holds.privateKey, ?_, bound, ?_, ?_⟩
  · have owned := saved.owned
    rw [← holds.trimmed] at owned
    exact owned
  · intro file is
    cases holds.tunnel.symm.trans is
    rfl
  · intro pending is
    exact consistent.same _ pending holds.tunnel is

theorem ensure_harmless (consistent : s.Consistent keys) (polls : Nat) :
    Harmless keys (Client.ensure profile polls) s := by
  unfold Client.ensure
  apply keeping_bind
  apply keeping_load consistent (fun _ => trivial)
  · intro _
    exact create_harmless consistent polls
  · intro existing token holds
    apply keeps_bind
    apply keeping_certificate consistent
    · intro err
      have stops : Harmless keys (do
          if err.isTransient then
            if !(← answer (send (.expired existing.certificateExpiry))) then
              return existing
          throw err : ClientCall Identity) s := by
        split
        · rintro ans s' ⟨⟨c, h⟩, -⟩
          have kept : s' = s := (Prod.mk.inj (Option.some.inj h)).2.symm
          subst kept
          refine ⟨consistent, ?_⟩
          cases ans with
          | true => trivial
          | false => trivial
        · trivial
      exact stops
    · rintro ⟨c, state⟩ ready
      cases state with
      | ready certificate chain expiry =>
          have savable := holds.savable certificate chain expiry consistent (ready certificate chain expiry rfl)
          have saves : Harmless keys (do
              if certificate != existing.certificate then
                let renewed :=
                  { existing with certificate := certificate, chain := chain, certificateExpiry := expiry }
                Storage.save profile renewed
                return renewed
              return existing : ClientCall Identity) s := by
            split
            · apply keeping_bind
              apply keeps_mono (save_harmless consistent savable)
              intro result _ _
              cases result with
              | ok _ => trivial
              | error _ => trivial
            · trivial
          exact saves
      | failed reason => exact reprovision_harmless consistent holds polls
      | challenge token key => trivial
      | issuing => trivial

end Operations

/-! ### Runs -/

/-- A later load finds nothing or a genuine identity, and the next `create` or `ensure` resumes a provision that was
    interrupted: the first request it sends is that provision's. -/
structure Intact (keys : Keys) (name : String) (s : Profile) : Prop where
  loads : s.directory.reads (Storage.load name).run = .ret (.ok none) ∨
    ∃ identity, s.directory.reads (Storage.load name).run = .ret (.ok (some identity)) ∧ Genuine keys s identity
  resumes : ∀ pending, s.interrupted = some pending → ∀ polls,
    (∃ next, s.directory.reads (Client.create name polls).run =
      .call (.apiBind pending.token pending.id pending.csr) next) ∧
    ∃ next, s.directory.reads (Client.ensure name polls).run =
      .call (.apiBind pending.token pending.id pending.csr) next

section Runs

variable {keys : Keys} {name : String} {s : Profile}

theorem reads_bind {α β : Type} {d : Directory} {p : ClientProg α} {f : α → ClientProg β} {a : α}
    (reads : d.reads p = .ret a) : d.reads (p >>= f) = d.reads (f a) := by
  induction p with
  | ret b =>
      cases reads
      rfl
  | call op next ih =>
      cases op
      case readText file => exact ih _ reads
      case readTunnel => exact ih _ reads
      case readPending => exact ih _ reads
      all_goals cases reads

theorem reads_exceptBind {α β : Type} {d : Directory} {p : ClientCall α} {f : α → ClientCall β} {a : α}
    (reads : d.reads p.run = .ret (.ok a)) : d.reads (p >>= f).run = d.reads (f a).run := by
  exact reads_bind reads

theorem reads_profileDir {d : Directory} (valid : isLabel name = true) :
    d.reads (Storage.profileDir name).run = .ret (.ok ()) := by
  unfold Storage.profileDir
  rw [if_pos valid]
  rfl

theorem reads_required {d : Directory} {kind content : String} {file : TextFile} (there : d.texts file = some content) :
    d.reads (Storage.required name kind file).run = .ret (.ok content) := by
  unfold Storage.required
  have read : d.reads (request (send (.readText file))).run = .ret (.ok (d.texts file)) := rfl
  rw [there] at read
  rw [reads_exceptBind read]
  rfl

/-- What `load` finds. -/
theorem load_found (valid : isLabel name = true) {d : Directory} {file : TunnelFile}
    {token key certificate chain : String} (tunnelFile : d.tunnel = some file) (tokenFile : d.texts .token = some token)
    (keyFile : d.texts .privateKey = some key) (certificateFile : d.texts .certificate = some certificate)
    (chainFile : d.texts .chain = some chain) :
    d.reads (Storage.load name).run = .ret (.ok (some
      { id := file.id, hostname := file.hostname, token := trim token, privateKey := key, certificate := certificate,
        chain := chain, certificateExpiry := file.certificateExpiry })) := by
  have read : d.reads (request (send .readTunnel)).run = .ret (.ok d.tunnel) := rfl
  rw [tunnelFile] at read
  unfold Storage.load
  rw [reads_exceptBind (reads_profileDir valid), reads_exceptBind read]
  dsimp only
  rw [reads_exceptBind (reads_required tokenFile), reads_exceptBind (reads_required keyFile),
    reads_exceptBind (reads_required certificateFile), reads_exceptBind (reads_required chainFile)]
  rfl

theorem load_nothing (valid : isLabel name = true) (nothing : s.directory.tunnel = none) :
    s.directory.reads (Storage.load name).run = .ret (.ok none) := by
  have read : s.directory.reads (request (send .readTunnel)).run = .ret (.ok s.directory.tunnel) := rfl
  rw [nothing] at read
  unfold Storage.load
  rw [reads_exceptBind (reads_profileDir valid), reads_exceptBind read]
  rfl

theorem loadPending_provision (valid : isLabel name = true) {pending : PendingIdentity}
    (provision : s.directory.provision = some pending) :
    s.directory.reads (Storage.loadPending name).run = .ret (.ok (some pending)) := by
  obtain ⟨pendingFile, ⟨token, tokenFile, trimmed⟩, keyFile⟩ := provision_eq provision
  have read : s.directory.reads (request (send .readPending)).run = .ret (.ok s.directory.pending) := rfl
  rw [pendingFile] at read
  unfold Storage.loadPending
  rw [reads_exceptBind (reads_profileDir valid), reads_exceptBind read]
  dsimp only
  rw [reads_exceptBind (reads_required tokenFile), reads_exceptBind (reads_required keyFile), trimmed]
  rfl

/-- `create` resumes a pending provision. -/
theorem create_resumes (valid : isLabel name = true) {pending : PendingIdentity} (nothing : s.directory.tunnel = none)
    (provision : s.directory.provision = some pending) (polls : Nat) :
    ∃ next, s.directory.reads (Client.create name polls).run =
      .call (.apiBind pending.token pending.id pending.csr) next := by
  unfold Client.create
  rw [reads_exceptBind (load_nothing valid nothing)]
  dsimp only
  rw [if_neg (by simp), reads_exceptBind (loadPending_provision valid provision)]
  exact ⟨_, rfl⟩

theorem ensure_resumes (valid : isLabel name = true) {pending : PendingIdentity} (nothing : s.directory.tunnel = none)
    (provision : s.directory.provision = some pending) (polls : Nat) :
    ∃ next, s.directory.reads (Client.ensure name polls).run =
      .call (.apiBind pending.token pending.id pending.csr) next := by
  unfold Client.ensure
  rw [reads_exceptBind (load_nothing valid nothing)]
  exact create_resumes valid nothing provision polls

theorem Profile.Consistent.intact (valid : isLabel name = true) (consistent : s.Consistent keys) :
    Intact keys name s where
  loads := by
    cases is : s.directory.tunnel with
    | none => exact Or.inl (load_nothing valid is)
    | some file =>
        obtain ⟨token, key, certificate, chain, saved⟩ := consistent.saved file is
        have read := load_found valid saved.tunnelFile saved.tokenFile saved.keyFile saved.certificateFile saved.chainFile
        exact Or.inr ⟨_, read, saved.owned.created, saved.bound, saved.owned.one _ saved.bound⟩
  resumes := by
    intro pending is polls
    obtain ⟨nothing, provision⟩ := consistent.interrupted pending is
    exact ⟨create_resumes valid nothing provision polls, ensure_resumes valid nothing provision polls⟩

/-- Only a write of `private-key.pem` replaces a key. -/
theorem exec_replaces {s' : Profile} {op : ClientAct} {c : ClientChoice} {ans : op.Ans}
    (h : s.exec keys op c = some (ans, s')) (replaces : Replaces s s') :
    ∃ content, s'.directory = s.directory.write .privateKey content := by
  have same (is : s'.directory.texts .privateKey = s.directory.texts .privateKey) :
      ∃ content, s'.directory = s.directory.write .privateKey content := absurd is replaces.2
  have file {α : Type} {run : α × Profile} {ans : Except ClientError α} (h : some (s.file c run) = some (ans, s'))
      (kept : run.2.directory.texts .privateKey = s.directory.texts .privateKey) :
      ∃ content, s'.directory = s.directory.write .privateKey content := by
    apply same
    unfold Profile.file at h
    split at h
    · cases h
      rfl
    · cases h
      exact kept
  cases op
  case writeText written content =>
      by_cases key : written = .privateKey
      · subst key
        have h : some (s.file c ((), { s with directory := s.directory.write .privateKey content })) = some (ans, s') := h
        unfold Profile.file at h
        split at h
        · cases h
          exact same rfl
        · cases h
          exact ⟨content, rfl⟩
      · exact file h (if_neg (Ne.symm key))
  case ensureDir => exact file h rfl
  case readText => exact file h rfl
  case readTunnel => exact file h rfl
  case readPending => exact file h rfl
  case writeTunnel => exact file h rfl
  case writePending => exact file h rfl
  case removePending => exact file h rfl
  case apiBind =>
      simp only [Profile.exec] at h
      split at h <;> cases h <;> exact same rfl
  case expired =>
      cases h
      exact same rfl
  case apiCreate | apiCertificate | generate =>
      simp only [Profile.exec] at h
      split at h
      · cases h
        exact same rfl
      · split at h
        · cases h
          exact same rfl
        · cases h

/-- Another key next to a saved identity: what is loaded then is not genuine. -/
theorem replaced_not_intact {s' : Profile} {op : ClientAct} {c : ClientChoice} {ans : op.Ans}
    (valid : isLabel name = true) (consistent : s.Consistent keys) (h : s.exec keys op c = some (ans, s'))
    (replaces : Replaces s s') : ¬ Intact keys name s' := by
  obtain ⟨content, directory⟩ := exec_replaces h replaces
  obtain ⟨file, is⟩ := Option.isSome_iff_exists.mp replaces.1
  obtain ⟨token, key, certificate, chain, saved⟩ := consistent.saved file is
  have other : content ≠ key := by
    intro same
    apply replaces.2
    rw [directory, saved.keyFile, ← same]
    simp [Directory.write]
  have texts {text : TextFile} {old : String} (there : s.directory.texts text = some old) :
      s'.directory.texts text = some (if text = .privateKey then content else old) := by
    rw [directory]
    exact Profile.Consistent.texts_write there
  have tunnelFile : s'.directory.tunnel = some file := by
    rw [directory]
    exact is
  have read := load_found valid tunnelFile (texts saved.tokenFile) (texts saved.keyFile) (texts saved.certificateFile)
    (texts saved.chainFile)
  intro intact
  rcases intact.loads with nothing | ⟨identity, found, genuine⟩
  · rw [read] at nothing
    cases nothing
  · rw [read] at found
    cases found
    exact other (genuine.fits.symm.trans (saved.owned.one _ saved.bound))

theorem always_head {P : Profile → Prop} {turns : List ProcessTurn} {process : Process}
    (always : process.Always keys name P turns) : P process.profile := by
  cases turns with
  | nil => exact always
  | cons turn rest => exact always.1

/-- What a process keeps while it does not replace a saved key. -/
theorem program_harmless (op : ClientOperation) (consistent : s.Consistent keys) :
    Keeping keys (op.program name) (fun _ _ => True) s := by
  have ignored {α : Type} {p : ClientCall α} (harmless : Harmless keys p s) :
      Keeping keys (do let _ ← p.run) (fun _ _ => True) s := by
    apply keeps_bind
    apply keeps_mono harmless
    intro _ _ _
    trivial
  cases op with
  | create polls => exact ignored (create_harmless consistent polls)
  | resume polls => exact ignored (resume_harmless consistent polls)
  | ensure polls => exact ignored (ensure_harmless consistent polls)

/-- A run from a consistent profile, with harmless work left. -/
theorem run_intact (valid : isLabel name = true) (turns : List ProcessTurn) (process : Process)
    (consistent : process.profile.Consistent keys) (keeps : Keeping keys process.left (fun _ _ => True) process.profile) :
    process.Always keys name (Intact keys name) turns ↔ process.Avoids keys name Replaces turns := by
  induction turns generalizing process with
  | nil => exact ⟨fun _ => trivial, fun _ => consistent.intact valid⟩
  | cons turn rest ih =>
      -- after a step that replaces no key, the rest of the run starts as this one did
      have later {process' : Process} (stepped : Process.step keys name turn process = some process')
          (apart : ¬ Replaces process.profile process'.profile) :
          process'.profile.Consistent keys ∧ Keeping keys process'.left (fun _ _ => True) process'.profile := by
        cases turn with
        | start op =>
            cases stepped
            exact ⟨consistent, program_harmless op consistent⟩
        | next c =>
            unfold Process.step at stepped
            cases left : process.left with
            | ret a => simp [left] at stepped
            | call op next =>
                rw [left] at keeps
                simp only [left, Option.map_eq_some_iff] at stepped
                obtain ⟨⟨ans, s'⟩, done, rfl⟩ := stepped
                exact keeps ans s' ⟨⟨c, done⟩, apart⟩
      constructor
      · rintro ⟨-, always⟩ process' stepped
        have rest := always process' stepped
        have apart : ¬ Replaces process.profile process'.profile := by
          intro replaces
          cases turn with
          | start op =>
              cases stepped
              exact replaces.2 rfl
          | next c =>
              unfold Process.step at stepped
              cases left : process.left with
              | ret a => simp [left] at stepped
              | call op next =>
                  simp only [left, Option.map_eq_some_iff] at stepped
                  obtain ⟨⟨ans, s'⟩, done, rfl⟩ := stepped
                  exact replaced_not_intact valid consistent done replaces (always_head rest)
        obtain ⟨consistent', keeps'⟩ := later stepped apart
        exact ⟨apart, (ih process' consistent' keeps').mp rest⟩
      · intro avoids
        refine ⟨consistent.intact valid, ?_⟩
        intro process' stepped
        obtain ⟨apart, rest⟩ := avoids process' stepped
        obtain ⟨consistent', keeps'⟩ := later stepped apart
        exact (ih process' consistent' keeps').mpr rest

end Runs

/-- Client storage is crash-atomic, unless a step puts another private key next to a saved identity: whatever operations
    run, and wherever each is stopped, a later load finds nothing or a genuine identity, and an interrupted provision is
    resumed. -/
theorem storage_intact (keys : Keys) (name : String) (valid : isLabel name = true) (turns : List ProcessTurn) :
    Process.Always keys name (Intact keys name) turns {} ↔ Process.Avoids keys name Replaces turns {} := by
  apply run_intact valid
  · constructor <;> simp
  · trivial

instance (s s' : Profile) : Decidable (Replaces s s') := inferInstanceAs (Decidable (_ ∧ _))

namespace Sample

/-- Two key pairs, and the certificate for the first one's request. -/
def keys : Keys where
  keyOf := fun csr => if csr = "first request" then "first key" else "second key"
  csrOf := fun certificate => if certificate = "first certificate" then "first request" else "second request"

def done : ProcessTurn := .next {}

/-- `create` up to its last poll, with everything answered: a tunnel, a key, the bind and the certificate. -/
def creating : List ProcessTurn :=
  [.start (.create 1), done, done, .next { created := .ok ⟨"a", "a.opentunnel.test", "rly_1"⟩ },
   .next { generated := .ok ⟨"first key", "first request"⟩ }, done, done, done, done,
   .next { bound := .ok ⟨"cert_1", .issuing⟩ },
   .next { shown := .ok ⟨"cert_1", .ready "first certificate" "chain" "2027-04-15T08:00:00.000Z"⟩ }]

/-- `create` finds the pending provision, binds its request again and gets the certificate. -/
def resuming : List ProcessTurn :=
  [.start (.create 1), done, done, done, done, .next { bound := .ok ⟨"cert_1", .issuing⟩ },
   .next { shown := .ok ⟨"cert_1", .ready "first certificate" "chain" "2027-04-15T08:00:00.000Z"⟩ }]

/-- The identity is saved. -/
def saving : List ProcessTurn := List.replicate 7 done

/-- `ensure` is told that the certificate failed, and is stopped once it has written the new key. -/
def reprovisioning : List ProcessTurn :=
  [.start (.ensure 1), done, done, done, done, done, .next { shown := .ok ⟨"cert_1", .failed "renewal"⟩ },
   .next { generated := .ok ⟨"second key", "second request"⟩ }, done, done, done]

/-- What a load then finds. -/
def loaded (turns : List ProcessTurn) : Option (String × String) :=
  (Process.play keys "default" turns {}).bind fun process =>
    match process.profile.directory.reads (Storage.load "default").run with
    | .ret (.ok (some identity)) => some (identity.privateKey, identity.certificate)
    | _ => none

end Sample

/-- A provision is stopped between the writes of `save`, and the next `create` completes it. -/
theorem storage_intact_resumed :
    Process.Always Sample.keys "default" (Intact Sample.keys "default")
      (Sample.creating ++ List.replicate 4 Sample.done ++ Sample.resuming ++ Sample.saving) {} := by
  apply (storage_intact Sample.keys "default" (by decide) _).mpr
  decide +kernel

/-- An identity was saved and `ensure` is stopped while it provisions anew: a load finds the old certificate with the
    new key. -/
theorem reprovision_mixes :
    ¬ Process.Always Sample.keys "default" (Intact Sample.keys "default")
      (Sample.creating ++ Sample.saving ++ Sample.reprovisioning) {} := by
  intro always
  have found : Sample.loaded (Sample.creating ++ Sample.saving ++ Sample.reprovisioning) =
      some ("second key", "first certificate") := by decide +kernel
  obtain ⟨process, played, found⟩ := Option.bind_eq_some_iff.mp found
  have intact := always.play played
  rcases intact.loads with nothing | ⟨identity, read, genuine⟩
  · rw [nothing] at found
    cases found
  · rw [read] at found
    simp only [Option.some.injEq, Prod.mk.injEq] at found
    have fits := genuine.fits
    rw [found.1, found.2] at fits
    exact absurd fits (by decide)

end OpenTunnel
