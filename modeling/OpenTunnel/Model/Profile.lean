/-
Module: OpenTunnel.Model.Profile
Layer: Model
Purpose: A profile of the client over time. Its files change by single atomic writes, its requests are answered by the
  server as chosen, within what the server promises: a new tunnel's ID is fresh, and a certificate it shows was issued
  for a request that was sent for that tunnel. A process runs one operation at a time; starting the next one is also
  what a crash looks like, since what the process had left is forgotten.
Imports: OpenTunnel.Model.Client
Trusted boundary: none (fully proved)
Main exports: Directory, Keys, Profile, Profile.exec, Directory.reads, ClientOperation, Process, Process.step,
  Process.Always, Process.Avoids
Open obligations: none
-/
import OpenTunnel.Model.Client

namespace OpenTunnel

open Tasks (Prog)

/-- What keys, requests and certificates have to do with each other: the private key a request was made with, and the
    request a certificate was issued for. -/
structure Keys where
  keyOf : String → String
  csrOf : String → String

/-! ### Files -/

structure Directory where
  texts : TextFile → Option String := fun _ => none
  tunnel : Option TunnelFile := none
  pending : Option PendingFile := none

namespace Directory

def write (d : Directory) (file : TextFile) (content : String) : Directory :=
  { d with texts := fun other => if other = file then some content else d.texts other }

/-- The program once the reads it starts with are answered. -/
def reads {α : Type} (d : Directory) : ClientProg α → ClientProg α
  | .call (.readText file) next => d.reads (next (.ok (d.texts file)))
  | .call .readTunnel next => d.reads (next (.ok d.tunnel))
  | .call .readPending next => d.reads (next (.ok d.pending))
  | p => p

/-- The pending provision the files hold. -/
def provision (d : Directory) : Option PendingIdentity :=
  d.pending.bind fun file => (d.texts .token).bind fun token => (d.texts .privateKey).map fun key =>
    { id := file.id, hostname := file.hostname, token := trim token, privateKey := key, csr := file.csr }

end Directory

/-! ### A profile and its server -/

/-- The files of the profile, the tunnels created for it, the requests sent for them, the keys generated so far, and the
    provision that was saved as pending and not completed since. -/
structure Profile where
  directory : Directory := {}
  tunnels : List CreatedTunnel := []
  bound : List (TunnelId × String) := []
  keys : List String := []
  interrupted : Option PendingIdentity := none

/-- What is decided outside: which calls fail, and what is answered. -/
structure ClientChoice where
  fails : Option ClientError := none
  created : Except ClientError CreatedTunnel := .error (.http true)
  /-- the answer to a bind, and whether the request arrived -/
  bound : Except ClientError CertificateInfo := .error (.http true)
  arrived : Bool := false
  shown : Except ClientError CertificateInfo := .error (.http true)
  generated : Except ClientError KeyAndCsr := .error (.crypto "")
  expired : Bool := false

namespace Profile

/-- A file call, which fails as chosen. -/
def file {α : Type} (s : Profile) (c : ClientChoice) (run : α × Profile) : Except ClientError α × Profile :=
  match c.fails with
  | some err => (.error err, s)
  | none => (.ok run.1, run.2)

/-- A certificate the server may show for a tunnel. -/
def shows (keys : Keys) (s : Profile) (id : TunnelId) : CertificateState → Bool
  | .ready certificate _ _ => s.bound.contains (id, keys.csrOf certificate)
  | _ => true

def exec (keys : Keys) : (op : ClientAct) → ClientChoice → Profile → Option (op.Ans × Profile)
  | .ensureDir, c, s => some (s.file c ((), s))
  | .readText file, c, s => some (s.file c (s.directory.texts file, s))
  | .readTunnel, c, s => some (s.file c (s.directory.tunnel, s))
  | .readPending, c, s => some (s.file c (s.directory.pending, s))
  | .writeText file content, c, s =>
      some (s.file c ((), { s with directory := s.directory.write file content }))
  | .writeTunnel content, c, s =>
      some (s.file c ((), { s with directory := { s.directory with tunnel := some content }, interrupted := none }))
  | .writePending content, c, s =>
      let directory := { s.directory with pending := some content }
      some (s.file c ((), { s with directory := directory, interrupted := directory.provision }))
  | .removePending, c, s => some (s.file c ((), { s with directory := { s.directory with pending := none } }))
  | .apiCreate, c, s =>
      match c.created with
      | .error err => some (.error err, s)
      | .ok tunnel =>
          if (s.tunnels.all fun other => other.id != tunnel.id) && (s.bound.all fun sent => sent.1 != tunnel.id) &&
              trim tunnel.token == tunnel.token then
            some (.ok tunnel, { s with tunnels := tunnel :: s.tunnels })
          else none
  | .apiBind _ id csr, c, s =>
      if c.arrived || c.bound.isOk then some (c.bound, { s with bound := (id, csr) :: s.bound })
      else some (c.bound, s)
  | .apiCertificate _ id, c, s =>
      match c.shown with
      | .error err => some (.error err, s)
      | .ok info => if s.shows keys id info.state then some (.ok info, s) else none
  | .generate _, c, s =>
      match c.generated with
      | .error err => some (.error err, s)
      | .ok made =>
          if !s.keys.contains made.privateKey && keys.keyOf made.csr == made.privateKey then
            some (.ok made, { s with keys := made.privateKey :: s.keys })
          else none
  | .expired _, c, s => some (c.expired, s)

end Profile

/-! ### Processes -/

inductive ClientOperation where
  | create (polls : Nat)
  | resume (polls : Nat)
  | ensure (polls : Nat)
deriving DecidableEq, Repr

def ClientOperation.program (profile : String) : ClientOperation → ClientProg Unit
  | .create polls => do let _ ← (Client.create profile polls).run
  | .resume polls => do let _ ← (Client.resume profile polls).run
  | .ensure polls => do let _ ← (Client.ensure profile polls).run

/-- The profile, and what the running process has left to do. -/
structure Process where
  profile : Profile := {}
  left : ClientProg Unit := .ret ()

inductive ProcessTurn where
  | start (op : ClientOperation)
  | next (c : ClientChoice)

namespace Process

def step (keys : Keys) (name : String) : ProcessTurn → Process → Option Process
  | .start op, s => some { s with left := op.program name }
  | .next c, s =>
      match s.left with
      | .ret _ => none
      | .call op next => (s.profile.exec keys op c).map fun done => { profile := done.2, left := next done.1 }

/-- `P` holds in every state of the run. -/
def Always (keys : Keys) (name : String) (P : Profile → Prop) : List ProcessTurn → Process → Prop
  | [], s => P s.profile
  | turn :: rest, s => P s.profile ∧ ∀ s', step keys name turn s = some s' → Always keys name P rest s'

/-- No step of the run is `bad`. -/
def Avoids (keys : Keys) (name : String) (bad : Profile → Profile → Prop) : List ProcessTurn → Process → Prop
  | [], _ => True
  | turn :: rest, s =>
      ∀ s', step keys name turn s = some s' → ¬ bad s.profile s'.profile ∧ Avoids keys name bad rest s'

instance {keys : Keys} {name : String} {bad : Profile → Profile → Prop} [dec : ∀ s s', Decidable (bad s s')] :
    (turns : List ProcessTurn) → (s : Process) → Decidable (s.Avoids keys name bad turns)
  | [], _ => .isTrue trivial
  | turn :: rest, s =>
      match stepped : step keys name turn s with
      | none => .isTrue (by simp [Avoids, stepped])
      | some s' =>
          have : Decidable (s'.Avoids keys name bad rest) := instDecidableAvoids rest s'
          decidable_of_iff (¬ bad s.profile s'.profile ∧ s'.Avoids keys name bad rest) (by simp [Avoids, stepped])

/-- The state after the turns. -/
def play (keys : Keys) (name : String) : List ProcessTurn → Process → Option Process
  | [], s => some s
  | turn :: rest, s => (step keys name turn s).bind (play keys name rest)

theorem Always.play {keys : Keys} {name : String} {P : Profile → Prop} {turns : List ProcessTurn} {s s' : Process}
    (always : s.Always keys name P turns) (played : play keys name turns s = some s') : P s'.profile := by
  induction turns generalizing s with
  | nil =>
      cases played
      exact always
  | cons turn rest ih =>
      obtain ⟨next, stepped, played⟩ := Option.bind_eq_some_iff.mp played
      exact ih (always.2 next stepped) played

end Process

end OpenTunnel
