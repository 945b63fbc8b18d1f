/-
Module: OpenTunnel.Model.Bridges
Layer: Model
Purpose: The bridges of a tunnel (`service.rs`, the session of `bridge.rs`, `run_notices` of `cluster.rs`):
  registering, attaching with its checks, the bookkeeping after an attach, closing, retiring silent bridges,
  routing, and what a machine does when another one announces a change.
Imports: OpenTunnel.Model.Service
Trusted boundary: none (fully proved)
Main exports: registerBridge, attach, afterAttach, bridgeClosed, session, sweep, route, heldRoutes, closeDeleted,
  closeDeletedTunnels, drain, handleNotice
Open obligations: none
-/
import OpenTunnel.Model.Service

namespace OpenTunnel

section Bridges

variable (setup : Setup) (m : MachineId)

/-- `exists` -/
def tunnelExists (id : TunnelId) : Fallible Bool := do
  lockRoutable setup m id
  holding id do
    let e ← act (.peek id)
    return e.live.isSome

/-- `register_bridge` -/
def registerBridge (id : TunnelId) : Fallible (Option BridgeId) := do
  lockRoutable setup m id
  holding id do
    let e ← act (.peek id)
    if e.live.isNone then
      return none
    let b ← act (.registerBridge id)
    return some b

/-! ### Attach -/

/-- `Attach`; an error by its code. -/
inductive Attach where
  | attached (session : String) (routes : List String) (alarm : Option (Option Nat))
  | error (code : String)
deriving DecidableEq, Repr

/-- The answers a client stops on (`is_fatal_attach_error`). -/
def isFatalAttachError (code : String) : Bool := code == "bad_token" || code == "cert_not_ready"

/-- The answer to an attach that the record alone decides. -/
def attachRefusal (record : Option StoredTunnel) (token : String) : Option String :=
  match record with
  | none => some "bad_token"
  | some record =>
      if !tokenMatches setup.externals token record.tokenHash then some "bad_token"
      else if !record.certificateReady then some "cert_not_ready"
      else none

/-- Routes other bridges of the tunnel hold, and whether one of them claims a route asked for. -/
def heldRouteCount (bridges : List (BridgeId × Bridge)) (b : BridgeId) : Nat :=
  ((bridges.filter fun other => other.2.isAttached && other.1 != b).map fun other => other.2.routes.length).sum

def routeConflict (bridges : List (BridgeId × Bridge)) (b : BridgeId) (routes : List String) : Bool :=
  bridges.any fun other => other.1 != b && routes.any fun route => other.2.claims route

/-- `attach`, with the entry locked. -/
def attachLocked (id : TunnelId) (b : BridgeId) (token : String) (routes : List String)
    (maxConns : Option Nat) (alarm : Option (Option Nat)) : Fallible Attach := do
  let e ← act (.peek id)
  match attachRefusal setup e.live token with
  | some code => return .error code
  | none =>
      if routes.isEmpty || routes.any fun route => !isValidRoute route then
        return .error "invalid_route"
      act (.retireStale id)
      let bridges ← act (.bridgesOf id)
      if maxTunnelRoutes < heldRouteCount bridges b + routes.length then
        return .error "too_many_routes"
      if routeConflict bridges b routes then
        return .error "route_conflict"
      if setup.clustered m then
        if ← act (.heldElsewhere id routes) then
          return .error "route_conflict"
      let now ← act .now
      let session := "sess_" ++ (← act .uuid)
      act (.attachBridge id b session routes maxConns now)
      return .attached session routes alarm

/-- `attach` -/
def attach (id : TunnelId) (b : BridgeId) (token : String) (routes : List String)
    (maxConns : Option Nat) : Fallible Attach := do
  let alarm ← lockForAttach setup m id
  holding id (attachLocked setup m id b token routes maxConns alarm)

/-- The connection was recorded less than `LAST_CONNECTED_INTERVAL_MS` ago. -/
def connectionRecent (record : StoredTunnel) (now : Nat) : Bool :=
  record.state == .online &&
    (record.lastConnectedAt.bind setup.externals.parseIso).any fun at_ =>
      decide (now - at_ < lastConnectedIntervalMs)

/-- `after_attach` -/
def afterAttach (id : TunnelId) (b : BridgeId) (alarm : Option (Option Nat)) : Call Unit := do
  act (.lock id)
  let _ ← (holding id do
    let e ← act (.peek id)
    match e.live with
    | none => return
    | some record =>
        if !(← act (.isAttached b)) then
          return
        let now ← act .now
        if !connectionRecent setup record now then
          fallible (act (.save id (.connected (setup.externals.iso now))))
        let e ← act (.peek id)
        match e.record with
        | some record => onAttached setup id record alarm
        | none => return).run

/-- `bridge_closed` -/
def bridgeClosed (id : TunnelId) (b : BridgeId) : Call Unit := do
  act (.lock id)
  act (.closedBridge id b)
  act (.unlock id)

/-- What a client sends to attach. -/
structure AttachRequest where
  token : String
  routes : List String
  maxConns : Option Nat
deriving DecidableEq, Repr

/-- The attaches of a session, until one succeeds. -/
def attachUntil (id : TunnelId) (b : BridgeId) : List AttachRequest → Call Unit
  | [] => pure ()
  | request :: rest => do
      match ← (attach setup m id b request.token request.routes request.maxConns).run with
      | .ok (.attached ..) => pure ()
      | _ => attachUntil id b rest

/-- A bridge's session: it registers, its client attaches, and whatever happened the bridge is cleaned up when
    the socket is gone. -/
def session (id : TunnelId) (requests : List AttachRequest) : Call Unit := do
  match ← (registerBridge setup m id).run with
  | .ok (some b) =>
      attachUntil setup m id b requests
      bridgeClosed id b
  | _ => pure ()

/-! ### Sweeping, routing, draining -/

/-- `sweep` of one entry. -/
def sweepEntry (id : TunnelId) : Call Unit := do
  act (.lock id)
  let e ← act (.peek id)
  if !e.bridges.isEmpty then
    act (.retireStale id)
  act (.unlock id)

/-- `sweep` -/
def sweep : Call Unit := do
  let ids ← act .entries
  ids.forM sweepEntry
  act .collectIdle

/-- `route` -/
def route (id : TunnelId) (sni : String) : Fallible RouteAnswer := do
  lockRoutable setup m id
  holding id do
    let e ← act (.peek id)
    match e.live with
    | none => return .rejected false "no_bridge"
    | some record =>
        act (.retireStale id)
        let answer ← act (.pick id record.hostname record.certificateReady sni)
        return answer

/-- `held_routes` -/
def heldRoutes (id : TunnelId) : Call (List String) := do
  act (.lock id)
  let e ← act (.peek id)
  if e.bridges.isEmpty then
    act (.unlock id)
    return []
  act (.retireStale id)
  let bridges ← act (.bridgesOf id)
  act (.unlock id)
  return (bridges.filter fun b => b.2.isAttached && !b.2.isClosing).flatMap fun b => b.2.routes

/-- `drain`: every bridge is told to reconnect, and any that arrives from now on. -/
def drain : Call Unit := do
  act .setDraining
  let ids ← act .entries
  ids.forM fun id => do
    act (.lock id)
    let e ← act (.peek id)
    act (.unlock id)
    e.bridges.forM fun b => act (.drainBridge b)

/-! ### Deletes elsewhere -/

/-- `close_deleted` -/
def closeDeleted (id : TunnelId) : Call Unit := do
  if ← act (.known id) then
    act (.lock id)
    act (.closeBridges id)
    act (.unload id)
    act (.unlock id)

/-- The tunnels of the list that have an attached bridge here. -/
def attachedTunnels : List TunnelId → Call (List TunnelId)
  | [] => pure []
  | id :: rest => do
      act (.lock id)
      let bridges ← act (.bridgesOf id)
      act (.unlock id)
      let others ← attachedTunnels rest
      return if bridges.any fun b => b.2.isAttached then id :: others else others

/-- `close_deleted_tunnels` -/
def closeDeletedTunnels : Call Unit := do
  let ids ← act .entries
  let live ← attachedTunnels ids
  if !live.isEmpty then
    match ← act (.deletedTunnels live) with
    | .ok deleted => deleted.forM closeDeleted
    | .error _ => pure ()

/-- `run_notices`, one notice: what its handling does, up to the end of the task it spawns. -/
def handleNotice : Call Unit := do
  match ← act .receive with
  | .event (.tunnelCreated id) => expire id
  | .event (.certificateChanged id) => expire id
  | .event (.tunnelDeleted id) =>
      match ← act (.deletedTunnels [id]) with
      | .ok deleted => if deleted.contains id then closeDeleted id
      | .error _ => pure ()
  | .event .jobEnqueued => pure ()
  | .linkUp =>
      act .bumpGeneration
      if !(← act .swapReconcile) then
        act .clearReconcile
        closeDeletedTunnels
  act .handled

end Bridges

end OpenTunnel
