/-
Module: OpenTunnel.Model.Act
Layer: Model
Purpose: The acts of the server's tasks. An act is what a task does without other tasks in between: the code
  between two awaits, with at most one SQL statement. An act on a tunnel's entry is enabled only for the task
  that holds the entry's lock, a statement on a row only when no transaction holds it. Everything
  that comes from outside (a storage fault, a random name, the order of equal rows, the certificate authority,
  the answers of other machines) is in the `Choice`, which the scheduler makes.
Imports: Mathlib.Algebra.GroupWithZero.Nat, OpenTunnel.Model.World
Trusted boundary: none (fully proved)
Main exports: Act, Act.Ans, Choice, exec, Move, move
Open obligations: none
-/
import Mathlib.Algebra.GroupWithZero.Nat
import OpenTunnel.Model.World

namespace OpenTunnel

/-! ### Constants (`service.rs`) -/

def heartbeatMs : Nat := 15000
def idleTimeoutMs : Nat := 45000
def staleBridgeMs : Nat := idleTimeoutMs + heartbeatMs
def missingTtlMs : Nat := 30000

/-! ### The certificate authority -/

structure Challenge where
  token : String
  key : String
deriving DecidableEq, Repr

structure Issued where
  certificate : String
  chain : String
  expiry : String
deriving DecidableEq, Repr

/-- An issuance error: its text, the summary for the tenant, and whether it is the shutdown's. -/
structure IssueError where
  text : String
  publicReason : String
  stopped : Bool := false
deriving DecidableEq, Repr

/-! ### Acts -/

/-- What a read of a record leaves on its entry: the time, the generation, and the alarm read with it. -/
structure Stamp where
  checkedAt : Nat
  generation : Nat
  alarm : Option (Nat × Option Nat)
deriving DecidableEq, Repr

inductive RouteAnswer where
  | bridge (b : BridgeId) (conn : Nat)
  | rejected (tunnelExists : Bool) (outcome : String)
deriving DecidableEq, Repr

inductive Act where
  -- clock and random names
  | now
  | uuid
  -- the entries of a machine and their locks
  | lock (id : TunnelId)
  | unlock (id : TunnelId)
  | known (id : TunnelId)
  | entries
  | collectIdle
  | peek (id : TunnelId)
  | read (id : TunnelId)
  | stamp (id : TunnelId) (stamp : Stamp)
  | unload (id : TunnelId)
  | markStale (id : TunnelId)
  | refreshFailedAt
  | setRefreshFailedAt (at_ : Nat)
  | generation
  | bumpGeneration
  | complete
  -- tunnels in the database
  | save (id : TunnelId) (change : Change)
  | alarm (id : TunnelId)
  | setAlarm (id : TunnelId) (at_ : Option Nat)
  | selectAlarms (limit : Nat)
  | clearAlarm (id : TunnelId) (at_ : Nat)
  | alarmFailed (id : TunnelId)
  | deletedTunnels (ids : List TunnelId)
  | issuingTunnels
  | importInsert (record : StoredTunnel) (alarmAt : Option Nat)
  | importSelect (id : TunnelId)
  | importUpdate (record : StoredTunnel) (alarmAt : Option Nat)
  | importCommit (id : TunnelId)
  -- jobs in the database
  | addJob (job : Job) (runAt : Nat)
  | jobExists (c : CertificateId)
  | claimJob (c : CertificateId) (now : Nat)
  | claimedJob (c : CertificateId)
  | extendLease (c : CertificateId) (now : Nat)
  | releaseLeases
  | finishJob (c : CertificateId) (status : JobStatus) (error : Option String) (now : Nat)
  | retryJob (c : CertificateId) (attempts runAt : Nat) (error : String) (now : Nat)
  | unwanted (c : CertificateId)
  | failedIssueJobs (since : Nat)
  | authzPendingIssueJobs (before since : Nat)
  | requeueFailedJob (c : CertificateId) (now : Nat)
  | requeueJobQueuedBefore (c : CertificateId) (before now : Nat)
  -- the jobs running on a machine, and the outside
  | startRunning (c : CertificateId)
  | stopRunning (c : CertificateId)
  | placeOrder (identifiers : List String) (csr : String)
  | completeOrder
  | nextAttempt
  | installServer
  | backlogged
  | issuance (id : TunnelId)
  | heldElsewhere (id : TunnelId) (routes : List String)
  -- bridges
  | registerBridge (id : TunnelId)
  | bridgesOf (id : TunnelId)
  | isAttached (b : BridgeId)
  | retireStale (id : TunnelId)
  | attachBridge (id : TunnelId) (b : BridgeId) (session : String) (routes : List String)
      (maxConns : Option Nat) (now : Nat)
  | closeBridges (id : TunnelId)
  | closedBridge (id : TunnelId) (b : BridgeId)
  | pick (id : TunnelId) (hostname : String) (ready : Bool) (sni : String)
  | setDraining
  | drainBridge (b : BridgeId)
  -- the mesh
  | publish (event : Event)
  | receive
  | handled
  | swapReconcile
  | clearReconcile

/-- The type of an act's answer. Storage calls answer a result or an error. -/
@[reducible] def Act.Ans : Act → Type
  | .now => Nat
  | .uuid => String
  | .known _ => Bool
  | .entries => List TunnelId
  | .peek _ => Entry
  | .read _ => Except Err (Option (Option Nat))
  | .refreshFailedAt => Nat
  | .generation => Nat
  | .complete => Bool
  | .save .. => Except Err Unit
  | .alarm _ => Except Err (Option Nat)
  | .setAlarm .. => Except Err Unit
  | .selectAlarms _ => Except Err (List (TunnelId × Nat))
  | .clearAlarm .. => Except Err Bool
  | .deletedTunnels _ => Except Err (List TunnelId)
  | .issuingTunnels => Except Err (List StoredTunnel)
  | .importInsert .. => Except Err Bool
  | .importSelect _ => Except Err (StoredTunnel × Bool)
  | .importUpdate .. => Except Err Unit
  | .importCommit _ => Except Err Unit
  | .addJob .. => Except Err Bool
  | .jobExists _ => Except Err Bool
  | .claimJob .. => Except Err Bool
  | .claimedJob _ => Except Err (Option Job)
  | .extendLease .. => Except Err Bool
  | .releaseLeases => Except Err Unit
  | .finishJob .. => Except Err Bool
  | .retryJob .. => Except Err Bool
  | .failedIssueJobs _ => Except Err (List FailedJob)
  | .authzPendingIssueJobs .. => Except Err (List FailedJob)
  | .requeueFailedJob .. => Except Err Bool
  | .requeueJobQueuedBefore .. => Except Err Bool
  | .startRunning _ => Bool
  | .placeOrder .. => Except IssueError (Option Challenge)
  | .completeOrder => Except IssueError Issued
  | .nextAttempt => Option Nat
  | .installServer => Except Err Unit
  | .backlogged => Bool
  | .issuance _ => Except Err (Option Nat)
  | .heldElsewhere .. => Bool
  | .registerBridge _ => BridgeId
  | .bridgesOf _ => List (BridgeId × Bridge)
  | .isAttached _ => Bool
  | .pick .. => RouteAnswer
  | .receive => Notice
  | .swapReconcile => Bool
  | _ => Unit

/-- What the scheduler decides for an act. -/
structure Choice where
  /-- how the act's statement fails -/
  fault : Fault := .none
  /-- a failure is one an import tries again (a lock wait or a deadlock) -/
  contended : Bool := false
  /-- a random name -/
  text : String := ""
  /-- an answer of the limits, or of other machines -/
  flag : Bool := false
  limited : Option Nat := none
  /-- the rows `selectAlarms` answers -/
  alarms : List (TunnelId × Nat) := []
  /-- the entries somebody else still refers to -/
  inUse : List TunnelId := []
  /-- what the certificate authority answers -/
  placed : Except IssueError (Option Challenge) := .ok none
  issued : Except IssueError Issued := .error ⟨"", "", true⟩
  /-- when a failed attempt is repeated -/
  retryAt : Option Nat := none

/-! ### Statements -/

/-- The error of a statement that failed. -/
def Choice.error (c : Choice) : Err := if c.contended then .contended else .unavailable

/-- Sends a query. -/
def Choice.query {α : Type} (c : Choice) (answer : α) : Except Err α :=
  match c.fault with
  | .none => .ok answer
  | _ => .error c.error

namespace World

/-- Sends a statement that changes the database, under the choice's fault. -/
def write {α : Type} (w : World) (c : Choice) (run : Except Err α × Db) : Except Err α × World :=
  match c.fault with
  | .none => (run.1, w.setDb run.2)
  | .failed => (.error c.error, w)
  | .late => (.error c.error, w.setDb run.2)

/-- `Service::save`: the write is guarded by the entry's revision, and the entry follows its outcome. -/
def save (w : World) (m : MachineId) (id : TunnelId) (c : Choice) (record : StoredTunnel) :
    Except Err Unit × World :=
  let e := w.entry m id
  let saved := w.write c (w.db.saveTunnel record e.revision)
  match saved.1 with
  | .ok revision => (.ok (), saved.2.setEntry m id { e with revision := revision, record := some record })
  | .error .conflict => (.error .conflict, saved.2.setEntry m id e.unloaded)
  | .error err => (.error err, saved.2)

/-! ### Bridges -/

/-- Changes the listed bridges of a machine. -/
def mapBridges (w : World) (m : MachineId) (ids : List BridgeId) (f : Bridge → Bridge) : World :=
  w.setMachine m { w.machine m with
    bridges := fun b => if b ∈ ids then ((w.machine m).bridges b).map f else (w.machine m).bridges b }

/-- `mesh.detached` of the bridges that satisfy `gone`. -/
def detachAll (w : World) (m : MachineId) (gone : BridgeId → Bool) : World :=
  w.setMachine m { w.machine m with
    announced := fun b => if gone b then none else (w.machine m).announced b }

/-- `mesh.attached` -/
def announce (w : World) (m : MachineId) (b : BridgeId) (announcement : Announcement) : World :=
  w.setMachine m { w.machine m with
    announced := fun b' => if b' = b then some announcement else (w.machine m).announced b' }

/-- Gives the machine's next bridge ID to a new bridge. -/
def addBridge (w : World) (m : MachineId) (bridge : Bridge) : World :=
  w.setMachine m { w.machine m with
    nextBridge := (w.machine m).nextBridge + 1
    bridges := fun b => if b = (w.machine m).nextBridge then some bridge else (w.machine m).bridges b }

/-- The bridge is attached, and silent for so long that its client is gone. -/
def isStale (w : World) (m : MachineId) (b : BridgeId) : Bool :=
  ((w.machine m).bridges b).any fun bridge =>
    bridge.isAttached && decide (staleBridgeMs < w.now m - bridge.seenAt)

/-- `retire_stale`: the silent bridges of the entry are detached, and taken out of the mesh's table when the
    entry caches a record to name the tunnel by. -/
def retireStale (setup : Setup) (w : World) (m : MachineId) (id : TunnelId) : World :=
  let e := w.entry m id
  let retired := e.bridges.filter fun b => w.isStale m b
  let w' := w.mapBridges m retired fun bridge => ({ bridge with detached := true }.finishChannels).close 1001
  if e.record.isSome && setup.clustered m then w'.detachAll m fun b => retired.contains b else w'

/-- The bridge part of `attach`, once every check passed. -/
def attachBridge (setup : Setup) (w : World) (m : MachineId) (id : TunnelId) (b : BridgeId) (session : String)
    (routes : List String) (maxConns : Option Nat) (now : Nat) : World :=
  let w' := w.mapBridges m [b] fun bridge =>
    { bridge with attached := true, session := some session, routes := routes, maxConns := maxConns,
                  attachedAt := now, seenAt := now }
  if setup.clustered m then w'.announce m b ⟨id, routes, now⟩ else w'

/-- `bridge_closed`, under the entry's lock. -/
def closedBridge (setup : Setup) (w : World) (m : MachineId) (id : TunnelId) (b : BridgeId) : World :=
  let e := w.entry m id
  let w' := w.setEntry m id { e with bridges := e.bridges.filter (· != b) }
  if (w.bridge m b).any (·.isAttached) then
    let w'' := w'.mapBridges m [b] fun bridge => { bridge with detached := true }.finishChannels
    if setup.clustered m then w''.detachAll m (· == b) else w''
  else w'

/-- `register_bridge`: a new bridge of the session's, told to reconnect when the server drains. -/
def registerBridge (w : World) (t : Task) (id : TunnelId) : World :=
  let m := t.machine
  let e := w.entry m id
  let fresh : Bridge := { owner := t, seenAt := w.now m }
  let b := (w.machine m).nextBridge
  (w.addBridge m (if (w.machine m).draining then fresh.close 1012 else fresh)).setEntry m id
    { e with bridges := e.bridges ++ [b] }

/-- The entry's bridges, in the order they registered. -/
def bridgesOf (w : World) (m : MachineId) (id : TunnelId) : List (BridgeId × Bridge) :=
  (w.entry m id).bridges.filterMap fun b => (w.bridge m b).map fun bridge => (b, bridge)

/-! ### Routing a public connection -/

/-- The route a server name asks for. -/
def routeOf (hostname sni : String) : Option String :=
  if sni = hostname then some "@"
  else
    let suffix := ("." ++ hostname).toList
    if suffix.isSuffixOf sni.toList then
      some (String.ofList (sni.toList.take (sni.toList.length - suffix.length)))
    else none

/-- The next connection number no bridge uses, and the sequence after it. Numbers wrap at 32 bits and 0 is
    never used. -/
def nextConn (inUse : List Nat) : Nat → Nat → Nat × Nat
  | 0, sequence => (sequence, (sequence + 1) % 2 ^ 32)
  | fuel + 1, sequence =>
      if sequence ≠ 0 ∧ sequence ∉ inUse then (sequence, (sequence + 1) % 2 ^ 32)
      else nextConn inUse fuel ((sequence + 1) % 2 ^ 32)

/-- The outcome reported when no bridge takes the connection. -/
def routeOutcome (ready : Bool) (route : Option String) : String :=
  if !ready then "certificate_not_ready"
  else match route with
    | none => "unknown_route"
    | some route => if route.toList.contains '.' then "unknown_route" else "no_bridge"

/-- Registers a public connection on a bridge of the entry; answers its number. -/
def connect (w : World) (m : MachineId) (id : TunnelId) (b : BridgeId) : Nat × World :=
  let e := w.entry m id
  let inUse := (w.bridgesOf m id).flatMap fun b => b.2.channels
  let next := nextConn inUse (inUse.length + 1) e.sequence
  (next.1, (w.setEntry m id { e with sequence := next.2 }).mapBridges m [b] fun bridge =>
    { bridge with visitors := bridge.visitors + 1, channels := next.1 :: bridge.channels })

/-- `route`, from the retired bridges on. -/
def pick (setup : Setup) (w : World) (m : MachineId) (id : TunnelId) (hostname : String) (ready : Bool)
    (sni : String) : RouteAnswer × World :=
  let bridges := w.bridgesOf m id
  let route := routeOf hostname sni
  let outcome := routeOutcome ready route
  match route.bind fun route => bridges.find? fun b => b.2.claims route with
  | some (b, bridge) =>
      if outcome = "no_bridge" then
        if bridge.connLimit setup.connsPerBridge ≤ bridge.visitors ∨
            setup.connsPerTunnel ≤ (bridges.map fun b => b.2.visitors).sum then
          (.rejected true "too_many_connections", w)
        else (.bridge b (w.connect m id b).1, (w.connect m id b).2)
      else (.rejected true outcome, w)
  | none => (.rejected true outcome, w)

/-! ### The mesh -/

/-- `mesh.publish`: to every machine linked now. -/
def publish (w : World) (m : MachineId) (event : Event) : World :=
  { w with wires := fun a b => if a = m then (w.wires a b).map (· ++ [event]) else w.wires a b }

/-- `collect_idle` -/
def collectIdle (w : World) (m : MachineId) (inUse : List TunnelId) : World :=
  w.setMachine m { w.machine m with
    tunnels := (w.machine m).tunnels.update fun id e =>
      if id ∈ inUse ∨ e.holder.isSome ∨ e.bridges ≠ [] ∨
          (e.loaded ∧ w.now m - e.checkedAt < missingTtlMs) then some e
      else none }

/-- Takes a notice off a machine's queue. -/
def receive (w : World) (m : MachineId) : Option (Notice × World) :=
  match (w.machine m).notices with
  | [] => none
  | notice :: rest => some (notice, w.setMachine m { w.machine m with notices := rest })

end World

/-! ### Execution -/

/-- An act on an entry, by the task that holds its lock. -/
def World.onEntry {α : Type} (w : World) (t : Task) (id : TunnelId) (run : Entry → α × World) :
    Option (α × World) :=
  if w.holds t id then some (run (w.entry t.machine id)) else none

/-- A statement on a row, once no transaction holds it. -/
def World.onRow {α : Type} (w : World) (id : TunnelId) (c : Choice) (run : Except Err α × Db) :
    Option (Except Err α × World) :=
  if w.db.free id then some (w.write c run) else none

/-- Marks a statement that has no error of its own. -/
def sure {α : Type} (run : α × Db) : Except Err α × Db := (.ok run.1, run.2)

/-- What an act does. -/
def exec (setup : Setup) (t : Task) : (op : Act) → Choice → World → Option (op.Ans × World)
  | .now, _, w => some (w.now t.machine, w)
  | .uuid, c, w =>
      if c.text ∈ w.uuids then none else some (c.text, { w with uuids := c.text :: w.uuids })
  | .lock id, _, w =>
      let e := w.entry t.machine id
      if e.holder = none then some ((), w.setEntry t.machine id { e with holder := some t }) else none
  | .unlock id, _, w => w.onEntry t id fun e => ((), w.setEntry t.machine id { e with holder := none })
  | .known id, _, w => some (((w.machine t.machine).tunnels.get id).isSome, w)
  | .entries, _, w => some ((w.machine t.machine).tunnels.present, w)
  | .collectIdle, c, w => some ((), w.collectIdle t.machine c.inUse)
  | .peek id, _, w => w.onEntry t id fun e => (e, w)
  | .read id, c, w => w.onEntry t id fun e =>
      match c.query ((w.db.row id).map (·.alarmAt)) with
      | .ok found =>
          (.ok found, w.setEntry t.machine id
            { e with loaded := true, record := (w.db.stored id).1, revision := (w.db.stored id).2 })
      | .error err => (.error err, w)
  | .stamp id stamp, _, w => w.onEntry t id fun e =>
      ((), w.setEntry t.machine id
        { e with checkedAt := stamp.checkedAt, stale := false, generation := stamp.generation,
                 alarm := stamp.alarm })
  | .unload id, _, w => w.onEntry t id fun e => ((), w.setEntry t.machine id e.unloaded)
  | .markStale id, _, w => w.onEntry t id fun e => ((), w.setEntry t.machine id { e with stale := true })
  | .refreshFailedAt, _, w => some ((w.machine t.machine).refreshFailedAt, w)
  | .setRefreshFailedAt at_, _, w =>
      some ((), w.setMachine t.machine { w.machine t.machine with refreshFailedAt := at_ })
  | .generation, _, w => some ((w.machine t.machine).generation, w)
  | .bumpGeneration, _, w =>
      some ((), w.setMachine t.machine
        { w.machine t.machine with generation := (w.machine t.machine).generation + 1 })
  | .complete, _, w => some ((w.machine t.machine).complete, w)
  | .save id change, c, w =>
      if w.holds t id then
        (change.apply id (w.entry t.machine id).record).bind fun record =>
          if w.db.free record.id then some (w.save t.machine id c record) else none
      else none
  | .alarm id, c, w => some (c.query (w.db.alarm id), w)
  | .setAlarm id at_, c, w => w.onRow id c (sure ((), w.db.setAlarm id at_))
  | .selectAlarms limit, c, w =>
      if w.db.selectsAlarms limit c.alarms then some (c.query c.alarms, w) else none
  | .clearAlarm id at_, c, w => w.onRow id c (sure (w.db.clearAlarm id at_))
  | .alarmFailed _, _, w => some ((), w)
  | .deletedTunnels ids, c, w => some (c.query (w.db.deletedTunnels ids), w)
  | .issuingTunnels, c, w => some (c.query w.db.issuingTunnels, w)
  | .importInsert record alarmAt, c, w =>
      w.onRow record.id c (sure (w.db.importInsert record alarmAt))
  | .importSelect id, c, w =>
      if w.db.free id then
        match w.db.row id, c.fault with
        | some row, .none => some (.ok (row.record, row.localUpdate), w.setDb (w.db.begin t id row))
        | _, _ => some (.error c.error, w)
      else none
  | .importUpdate record alarmAt, c, w =>
      if w.db.inTransaction t record.id then
        match c.fault with
        | .none => some (.ok (), w.setDb (w.db.stage t record alarmAt))
        | _ => some (.error c.error, w.setDb (w.db.rollback record.id))
      else none
  | .importCommit id, c, w =>
      if w.db.inTransaction t id then
        match c.fault with
        | .none => some (.ok (), w.setDb (w.db.commit id))
        | .failed => some (.error c.error, w.setDb (w.db.rollback id))
        | .late => some (.error c.error, w.setDb (w.db.commit id))
      else none
  | .addJob job runAt, c, w => some (w.write c (sure (w.db.addJob job runAt)))
  | .jobExists c', c, w => some (c.query (w.db.job c').isSome, w)
  | .claimJob c' now, c, w => some (w.write c (sure (w.db.claimJob c' t.machine now)))
  | .claimedJob c', c, w => some (c.query (w.db.claimedJob c' t.machine), w)
  | .extendLease c' now, c, w => some (w.write c (sure (w.db.extendLease c' t.machine now)))
  | .releaseLeases, c, w => some (w.write c (sure ((), w.db.releaseLeases t.machine)))
  | .finishJob c' status error now, c, w =>
      some (w.write c (sure (w.db.finishJob c' t.machine status error now)))
  | .retryJob c' attempts runAt error now, c, w =>
      some (w.write c (sure (w.db.retryJob c' t.machine attempts runAt error now)))
  | .unwanted _, _, w => some ((), w)
  | .failedIssueJobs since, c, w => some (c.query (w.db.failedIssueJobs since), w)
  | .authzPendingIssueJobs before since, c, w =>
      some (c.query (w.db.authzPendingIssueJobs before since), w)
  | .requeueFailedJob c' now, c, w => some (w.write c (sure (w.db.requeueFailedJob c' now)))
  | .requeueJobQueuedBefore c' before now, c, w =>
      some (w.write c (sure (w.db.requeueJobQueuedBefore c' before now)))
  | .startRunning c', _, w =>
      let running := (w.machine t.machine).running
      if c' ∈ running then some (false, w)
      else some (true, w.setMachine t.machine { w.machine t.machine with running := c' :: running })
  | .stopRunning c', _, w =>
      some ((), w.setMachine t.machine
        { w.machine t.machine with running := (w.machine t.machine).running.filter (· != c') })
  | .placeOrder .., c, w => some (c.placed, w)
  | .completeOrder, c, w => some (c.issued, w)
  | .nextAttempt, c, w => some (c.retryAt, w)
  | .installServer, c, w => some (c.query (), w)
  | .backlogged, c, w => some (c.flag, w)
  | .issuance _, c, w => some (c.query c.limited, w)
  | .heldElsewhere .., c, w => some (c.flag, w)
  | .registerBridge id, _, w => w.onEntry t id fun _ =>
      ((w.machine t.machine).nextBridge, w.registerBridge t id)
  | .bridgesOf id, _, w => w.onEntry t id fun _ => (w.bridgesOf t.machine id, w)
  | .isAttached b, _, w => some ((w.bridge t.machine b).any (·.isAttached), w)
  | .retireStale id, _, w => w.onEntry t id fun _ => ((), w.retireStale setup t.machine id)
  | .attachBridge id b session routes maxConns now, _, w => w.onEntry t id fun _ =>
      ((), w.attachBridge setup t.machine id b session routes maxConns now)
  | .closeBridges id, _, w => w.onEntry t id fun e =>
      ((), w.mapBridges t.machine e.bridges fun bridge => bridge.finishChannels.close 1000)
  | .closedBridge id b, _, w => w.onEntry t id fun _ => ((), w.closedBridge setup t.machine id b)
  | .pick id hostname ready sni, _, w => w.onEntry t id fun _ =>
      w.pick setup t.machine id hostname ready sni
  | .setDraining, _, w => some ((), w.setMachine t.machine { w.machine t.machine with draining := true })
  | .drainBridge b, _, w => some ((), w.mapBridges t.machine [b] fun bridge => bridge.close 1012)
  | .publish event, _, w =>
      if setup.clustered t.machine then some ((), w.publish t.machine event) else some ((), w)
  | .receive, _, w => w.receive t.machine
  | .handled, _, w => some ((), w)
  | .swapReconcile, _, w =>
      some ((w.machine t.machine).reconcileQueued,
        w.setMachine t.machine { w.machine t.machine with reconcileQueued := true })
  | .clearReconcile, _, w =>
      some ((), w.setMachine t.machine { w.machine t.machine with reconcileQueued := false })

/-! ### Moves of the surroundings -/

/-- What changes without a task: clocks, clients and visitors, and the links of the mesh. -/
inductive Move where
  | clocks (times : MachineId → Nat)
  | touch (m : MachineId) (b : BridgeId)
  | close (m : MachineId) (b : BridgeId) (code : Nat)
  | channelEnds (m : MachineId) (b : BridgeId) (conn : Nat)
  | visitorEnds (m : MachineId) (b : BridgeId)
  | meshComplete (m : MachineId) (complete : Bool)
  | deliver (source target : MachineId)
  | linkDown (source target : MachineId)
  | linkUp (source target : MachineId)

namespace World

def setWire (w : World) (a b : MachineId) (wire : Option (List Event)) : World :=
  { w with wires := fun a' b' => if a' = a ∧ b' = b then wire else w.wires a' b' }

def notify (w : World) (m : MachineId) (notice : Notice) : World :=
  w.setMachine m { w.machine m with notices := (w.machine m).notices ++ [notice] }

end World

def move : Move → World → Option World
  | .clocks times, w =>
      some { w with machines := fun m => { w.machines m with clock := times m } }
  | .touch m b, w => some (w.mapBridges m [b] fun bridge => { bridge with seenAt := w.now m })
  | .close m b code, w => some (w.mapBridges m [b] fun bridge => bridge.close code)
  | .channelEnds m b conn, w =>
      some (w.mapBridges m [b] fun bridge => { bridge with channels := bridge.channels.filter (· != conn) })
  | .visitorEnds m b, w =>
      some (w.mapBridges m [b] fun bridge => { bridge with visitors := bridge.visitors - 1 })
  | .meshComplete m complete, w => some (w.setMachine m { w.machine m with complete := complete })
  | .deliver source target, w =>
      match w.wires source target with
      | some (event :: rest) => some ((w.setWire source target (some rest)).notify target (.event event))
      | _ => none
  | .linkDown source target, w => some (w.setWire source target none)
  | .linkUp source target, w => some ((w.setWire source target (some [])).notify target .linkUp)

end OpenTunnel
