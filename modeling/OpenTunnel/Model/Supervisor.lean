/-
Module: OpenTunnel.Model.Supervisor
Layer: Model
Purpose: The tunnel of the Rust client (`tunnel.rs`): its handle, which sets routes and closes, and its supervisor, which
  waits for routes, attaches, runs a session and sleeps before it tries again. They share two watch channels; each
  receiver has its own mark of what it has seen, and the session attaches with a clone of one. A step is what the
  supervisor does between two accesses of the channels.
Imports: Mathlib.Algebra.Group.Nat.Defs, OpenTunnel.Tasks.Watch, OpenTunnel.Formats.Split, OpenTunnel.Model.Bridges
Trusted boundary: none (fully proved)
Main exports: Route, Routes, parseTarget, validateRoutes, SessionEnd, SupervisorAt, Supervisor, Supervisor.step
Open obligations: none
-/
import Mathlib.Algebra.Group.Nat.Defs
import OpenTunnel.Tasks.Watch
import OpenTunnel.Formats.Split
import OpenTunnel.Model.Bridges

namespace OpenTunnel

open Tasks Formats

/-! ### Routes -/

inductive ProxyProtocol where
  | v1
  | v2
deriving DecidableEq, Repr

structure Route where
  target : String
  proxyProtocol : Option ProxyProtocol := none
deriving DecidableEq, Repr

/-- `BTreeMap<String, Route>` -/
structure Routes where
  entries : List (String × Route)
  ordered : (entries.map (·.1)).Pairwise fun a b => a < b
deriving DecidableEq

/-- `keys` -/
def Routes.names (routes : Routes) : List String := routes.entries.map (·.1)

/-- `str::parse::<u16>` -/
def parseU16 (text : List Char) : Option Nat :=
  let digits := match text with
    | '+' :: rest => rest
    | _ => text
  if digits.isEmpty ∨ ¬ digits.all asciiDigit then none
  else
    let value := Nat.ofDigitChars 10 digits 0
    if value < 2 ^ 16 then some value else none

def hostChar (c : Char) : Bool :=
  asciiLower c || ('A' ≤ c && c ≤ 'Z') || asciiDigit c || c == '.' || c == '-' || c == ':' || c == '_'

/-- `parse_target` -/
def parseTarget (value : String) : Option (List Char × Nat) := do
  let (host, port) ← rsplitOnce ':' value.toList
  let port ← (parseU16 port).filter (· ≠ 0)
  let host ← match host with
    | '[' :: inner => if inner.getLast? = some ']' then some inner.dropLast else none
    | _ => some host
  if !host.isEmpty && host.all hostChar then some (host, port) else none

/-- `Route::validate` -/
def Route.validate (route : Route) (name : String) : Except String Unit :=
  if !isValidRoute name then .error ("invalid route name '" ++ name ++ "'")
  else if (parseTarget route.target).isNone then
    .error ("invalid target '" ++ route.target ++ "' for route '" ++ name ++ "': use host:port")
  else .ok ()

/-- `validate_routes` -/
def validateRoutes (routes : Routes) : Except String Unit :=
  routes.entries.forM fun entry => entry.2.validate entry.1

/-! ### The supervisor -/

inductive SessionEnd where
  | shutdown
  | routesChanged
  | fatal (error : String)
  | retry (error : String) (attached : Bool)
deriving DecidableEq, Repr

/-- What the attach comes to, within its timeout. -/
inductive AttachResult where
  | attached
  | refused (code : String)
  | invalid (error : String)
  | failed (error : String)
  | timedOut
deriving DecidableEq, Repr

/-- How the session ends when it does not attach. -/
def AttachResult.end? : AttachResult → Option SessionEnd
  | .attached => none
  | .refused code =>
      if isFatalAttachError code then some (.fatal ("bridge attach failed: " ++ code))
      else some (.retry ("bridge attach failed: " ++ code) false)
  | .invalid error => some (.fatal error)
  | .failed error => some (.retry error false)
  | .timedOut => some (.retry "bridge attach timed out" false)

/-- Where the supervisor is. -/
inductive SupervisorAt where
  /-- at the head of the loop -/
  | check
  /-- the flag was not set; before it looks at the routes -/
  | look
  /-- in the wait for routes -/
  | waiting
  /-- before `session` reads the routes -/
  | enter
  /-- in the wait for the attach, with its clone of the shutdown receiver -/
  | attaching (routes : Routes) (seen : Nat)
  /-- in the wait of a session, with the names it attached and its targets -/
  | running (names : List String) (targets : Routes)
  /-- `session` returned -/
  | ended (how : SessionEnd)
  /-- in the wait before a retry -/
  | sleeping
  | stopped (error : Option String)
deriving DecidableEq

/-- The handle: open, consumed by `close`, dropped. -/
inductive TunnelHandle where
  | held
  | closing
  | dropped
deriving DecidableEq, Repr

structure Supervisor where
  handle : TunnelHandle := .held
  routes : Watch Routes
  shutdown : Watch Bool := { value := false }
  routesSeen : Nat := 0
  shutdownSeen : Nat := 0
  at_ : SupervisorAt := .check
  attempt : Nat := 0
deriving DecidableEq

namespace Supervisor

/-- `Tunnel::start` -/
def start (routes : Routes) : Supervisor := { routes := { value := routes } }

/-- What the handle does. -/
inductive HandleEvent where
  | setRoutes (routes : Routes)
  | close
  | drop
  /-- the senders are dropped, the routes' first -/
  | releaseRoutes
  | releaseShutdown
deriving DecidableEq

/-- What the supervisor does. -/
inductive Turn where
  | checkFlag
  | lookAtRoutes
  | enterSession
  /-- a wait ends with the change of the shutdown flag -/
  | shutdownChanged
  /-- a wait ends with a change of the routes -/
  | routesChanged
  | attachEnds (result : AttachResult)
  /-- another branch of the session's wait, which goes on or ends the session -/
  | handled
  | lost (error : String)
  | sessionEnds
  | sleepEnds
deriving DecidableEq

inductive Event where
  | handle (event : HandleEvent)
  | turn (turn : Turn)
deriving DecidableEq

/-- The largest `u32`, where `saturating_add` stays. -/
def maxAttempt : Nat := 2 ^ 32 - 1

def handleStep : HandleEvent → Supervisor → Option Supervisor
  | .setRoutes routes, s =>
      if s.handle = .held then
        match validateRoutes routes with
        | .ok () => some { s with routes := s.routes.send routes }
        | .error _ => some s
      else none
  | .close, s => if s.handle = .held then some { s with handle := .closing, shutdown := s.shutdown.send true } else none
  | .drop, s => if s.handle = .dropped then none else some { s with handle := .dropped, shutdown := s.shutdown.send true }
  | .releaseRoutes, s => if s.handle = .dropped then some { s with routes := s.routes.close } else none
  | .releaseShutdown, s => if s.routes.closed then some { s with shutdown := s.shutdown.close } else none

/-- `self.shutdown.changed()`, with where the wait ends. -/
def shutdownTaken (s : Supervisor) (next : SupervisorAt) : Option Supervisor :=
  if s.shutdown.ready s.shutdownSeen then some { s with shutdownSeen := s.shutdown.version, at_ := next } else none

/-- The match on a session's end in `run`. -/
def sessionEnded (s : Supervisor) : SessionEnd → Supervisor
  | .shutdown => { s with at_ := .stopped none }
  | .routesChanged => { s with attempt := 0, at_ := .check }
  | .fatal error => { s with at_ := .stopped (some error) }
  | .retry _ attached =>
      let attempt := if attached then 0 else s.attempt
      { s with attempt := min (attempt + 1) maxAttempt, at_ := .sleeping }

/-- A change of the routes in a running session: new targets, or another session for other names. -/
def refresh (s : Supervisor) (names : List String) : Supervisor :=
  let next := s.routes.value
  let at_ := if next.names = names then .running names next else .ended .routesChanged
  { s with routesSeen := s.routes.version, at_ := at_ }

def turnStep : Turn → Supervisor → Option Supervisor
  | .checkFlag, s =>
      if s.at_ = .check then some { s with at_ := if s.shutdown.value then .stopped none else .look } else none
  | .lookAtRoutes, s =>
      if s.at_ = .look then
        let at_ := if s.routes.value.entries.isEmpty then .waiting else .enter
        some { s with routesSeen := s.routes.version, at_ := at_ }
      else none
  | .enterSession, s =>
      if s.at_ = .enter then
        some { s with routesSeen := s.routes.version, at_ := .attaching s.routes.value s.shutdownSeen }
      else none
  | .shutdownChanged, s =>
      match s.at_ with
      | .waiting | .sleeping => s.shutdownTaken .check
      | .attaching _ seen => if s.shutdown.ready seen then some { s with at_ := .ended .shutdown } else none
      | .running _ _ => s.shutdownTaken (.ended .shutdown)
      | _ => none
  | .routesChanged, s =>
      match s.at_ with
      | .waiting =>
          if s.routes.ready s.routesSeen then some { s with routesSeen := s.routes.version, at_ := .check } else none
      | .running names _ =>
          -- Nothing is awaited between `changed` and `borrow_and_update`.
          if s.routes.unseen s.routesSeen then some (s.refresh names)
          else if s.routes.closed then some { s with at_ := .ended .shutdown }
          else none
      | _ => none
  | .attachEnds result, s =>
      match s.at_ with
      | .attaching routes _ =>
          match result.end? with
          | none => some { s with at_ := .running routes.names routes }
          | some how => some { s with at_ := .ended how }
      | _ => none
  | .handled, s =>
      match s.at_ with
      | .running _ _ => some s
      | _ => none
  | .lost error, s =>
      match s.at_ with
      | .running _ _ => some { s with at_ := .ended (.retry error true) }
      | _ => none
  | .sessionEnds, s =>
      match s.at_ with
      | .ended how => some (s.sessionEnded how)
      | _ => none
  | .sleepEnds, s => if s.at_ = .sleeping then some { s with at_ := .check } else none

def step : Event → Supervisor → Option Supervisor
  | .handle event, s => handleStep event s
  | .turn turn, s => turnStep turn s

end Supervisor

end OpenTunnel
