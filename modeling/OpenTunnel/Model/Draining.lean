/-
Module: OpenTunnel.Model.Draining
Layer: Model
Purpose: The cached entries of a machine while it shuts down (`drain`, `register_bridge`, `bridge_closed`, `entry`,
  `entries` and `collect_idle` of `service.rs`). Entries are objects: the map holds one for each tunnel, tasks hold
  references to them, and an entry that is dropped from the map and asked for again is a new object. The steps are what
  happens between two awaits, or between two accesses of the flag, the map and an entry.
Imports: OpenTunnel.Model.Record
Trusted boundary: none (fully proved)
Main exports: EntryTask, DrainPass, Draining, Draining.Event, Draining.step
Open obligations: none
-/
import OpenTunnel.Model.Record

namespace OpenTunnel

/-- The number of an entry object. -/
abbrev EntryNo := Nat

def drainRate : Nat := 5000
def drainSpreadMs : Nat := 5000
def drainStepMs : Nat := 100

/-- The bridges told at a time. -/
def drainPerStep (bridges : Nat) : Nat :=
  let steps := max (drainSpreadMs / drainStepMs) 1
  max (max (drainRate * drainStepMs / 1000) ((bridges + steps - 1) / steps)) 1

/-- A task that holds a reference to an entry. -/
inductive EntryTask where
  /-- `register_bridge`: before it has the lock, with the lock, with the bridge in the list, and past the flag -/
  | registering (e : EntryNo)
  | loading (e : EntryNo)
  | pushed (e : EntryNo) (b : BridgeId)
  | checked (e : EntryNo) (b : BridgeId)
  /-- `bridge_closed`: before it has the lock -/
  | closing (e : EntryNo) (b : BridgeId)
  /-- any other method: before and with the lock -/
  | using (e : EntryNo)
  | holding (e : EntryNo)
deriving DecidableEq, Repr

/-- The entry it holds a reference to. -/
def EntryTask.entry : EntryTask → EntryNo
  | .registering e | .loading e | .pushed e _ | .checked e _ | .closing e _ | .using e | .holding e => e

/-- A `drain`: after the flag is set, with the entries left to look at and the bridges found, and with the bridges left
    to tell out of a number of them. -/
inductive DrainPass where
  | flagged
  | collecting (left : List EntryNo) (found : List BridgeId)
  | sending (total : Nat) (left : List BridgeId)
  | done
deriving DecidableEq, Repr

/-- A machine's entries. `sent` are the bridges `send_drain` was called on, `returned` those `register_bridge` returned,
    `closed` those `bridge_closed` has taken out. -/
structure Draining where
  tunnels : List (TunnelId × EntryNo) := []
  bridges : EntryNo → List BridgeId := fun _ => []
  locked : EntryNo → Bool := fun _ => false
  tasks : List EntryTask := []
  nextEntry : EntryNo := 0
  nextBridge : BridgeId := 0
  draining : Bool := false
  drain : Option DrainPass := none
  sent : List BridgeId := []
  returned : List BridgeId := []
  closed : List BridgeId := []

namespace Draining

/-- `entry`: the tunnel's entry, a new one if it has none. -/
def entry (s : Draining) (id : TunnelId) : EntryNo × Draining :=
  match s.tunnels.lookup id with
  | some e => (e, s)
  | none => (s.nextEntry, { s with tunnels := (id, s.nextEntry) :: s.tunnels, nextEntry := s.nextEntry + 1 })

/-- Somebody holds a reference beside the map (`Arc::strong_count`): a task, or the drain's list. -/
def referenced (s : Draining) (e : EntryNo) : Bool :=
  s.tasks.any (·.entry = e) || (match s.drain with
    | some (.collecting left _) => left.contains e
    | _ => false)

/-- `collect_idle`; `recent` are the tunnels that were read recently. -/
def collectIdle (s : Draining) (recent : List TunnelId) : Draining :=
  { s with tunnels := s.tunnels.filter fun (id, e) =>
      s.referenced e || s.locked e || !(s.bridges e).isEmpty || recent.contains id }

/-- What happens. `task` is the place of a task in the list. -/
inductive Event where
  | register (id : TunnelId)
  | close (id : TunnelId) (b : BridgeId)
  | useEntry (id : TunnelId)
  | lock (task : Nat)
  | unlock (task : Nat)
  | drop (task : Nat)
  | push (task : Nat)
  | check (task : Nat)
  | finish (task : Nat)
  | collect (recent : List TunnelId)
  | setDraining
  | drainTurn
deriving DecidableEq, Repr

def setLock (s : Draining) (e : EntryNo) (locked : Bool) : Draining :=
  { s with locked := fun other => if other = e then locked else s.locked other }

def setTask (s : Draining) (task : Nat) (at_ : EntryTask) : Draining := { s with tasks := s.tasks.set task at_ }

/-- A task begins with a reference to the tunnel's entry. -/
def start (s : Draining) (id : TunnelId) (at_ : EntryNo → EntryTask) : Draining :=
  let (e, s) := s.entry id
  { s with tasks := s.tasks ++ [at_ e] }

/-- A turn of `drain`. It waits for the lock of the next entry. -/
def drainTurn (s : Draining) : Option Draining :=
  match s.drain with
  | none | some .done => none
  | some .flagged => some { s with drain := some (.collecting (s.tunnels.map (·.2)) []) }
  | some (.collecting [] found) => some { s with drain := some (.sending found.length found) }
  | some (.collecting (e :: left) found) =>
      if s.locked e then none else some { s with drain := some (.collecting left (found ++ s.bridges e)) }
  | some (.sending _ []) => some { s with drain := some .done }
  | some (.sending total left) =>
      let n := drainPerStep total
      some { s with sent := s.sent ++ left.take n, drain := some (.sending total (left.drop n)) }

def step (e : Event) (s : Draining) : Option Draining :=
  match e with
  | .register id => some (s.start id .registering)
  | .close id b => if b ∈ s.returned then some (s.start id fun e => .closing e b) else none
  | .useEntry id => some (s.start id .using)
  | .lock task => match s.tasks[task]? with
      | some (.registering e) => if s.locked e then none else some ((s.setLock e true).setTask task (.loading e))
      | some (.using e) => if s.locked e then none else some ((s.setLock e true).setTask task (.holding e))
      | _ => none
  | .unlock task => match s.tasks[task]? with
      | some (.loading e) => some ((s.setLock e false).setTask task (.registering e))
      | some (.holding e) => some ((s.setLock e false).setTask task (.using e))
      | _ => none
  | .drop task => match s.tasks[task]? with
      | some (.registering _) | some (.using _) => some { s with tasks := s.tasks.eraseIdx task }
      | _ => none
  | .push task => match s.tasks[task]? with
      | some (.loading e) =>
          some ({ s with
            bridges := fun other => if other = e then s.bridges e ++ [s.nextBridge] else s.bridges other
            nextBridge := s.nextBridge + 1 }.setTask task (.pushed e s.nextBridge))
      | _ => none
  | .check task => match s.tasks[task]? with
      | some (.pushed e b) =>
          some ({ s with sent := if s.draining then s.sent ++ [b] else s.sent }.setTask task (.checked e b))
      | _ => none
  | .finish task => match s.tasks[task]? with
      | some (.checked e b) =>
          some { s.setLock e false with returned := s.returned ++ [b], tasks := s.tasks.eraseIdx task }
      | some (.closing e b) =>
          if s.locked e then none
          else some { s with
            bridges := fun other => if other = e then (s.bridges e).filter (· ≠ b) else s.bridges other
            closed := s.closed ++ [b]
            tasks := s.tasks.eraseIdx task }
      | _ => none
  | .collect recent => some (s.collectIdle recent)
  | .setDraining => if s.drain = none then some { s with draining := true, drain := some .flagged } else none
  | .drainTurn => s.drainTurn

end Draining

end OpenTunnel
