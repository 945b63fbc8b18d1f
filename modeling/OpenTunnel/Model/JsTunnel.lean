/-
Module: OpenTunnel.Model.JsTunnel
Layer: Model
Purpose: The tunnel of the TypeScript client (`effect/tunnel.ts`): `run`, `setRoutes`, `close`, `sleep`, and the end of a
  `Session`. The code runs on one thread, so its states are where control leaves it: in a callback of the caller, who may
  call it again from there, or in an await. The flag, the current session and the wake callback are fields of their own.
Imports: OpenTunnel.Model.Supervisor
Trusted boundary: none (fully proved)
Main exports: JsSession, JsAt, JsTunnel, JsTunnel.close, JsTunnel.closeThrows, JsTunnel.setRoutes, JsTunnel.evaluate, JsTunnel.step
Open obligations: none
-/
import OpenTunnel.Model.Supervisor

namespace OpenTunnel

/-- A session: its `finish` is there, its end is under way (its channels are destroyed, which the caller is told), or its
    promise is resolved. -/
inductive JsSession where
  | running (names : List String) (attached : Bool)
  | ending (how : SessionEnd)
  | finished (how : SessionEnd)
deriving DecidableEq

/-- `Session.end`, up to its callbacks; a session ends once. -/
def JsSession.finish (how : SessionEnd) : JsSession → JsSession
  | .running _ _ => .ending how
  | session => session

/-- Where `run` is. -/
inductive JsAt where
  /-- in the callback of the event `connecting`; the constructor calls `run`, so the first of these callbacks can be inside
      the constructor -/
  | connecting (constructing : Bool)
  /-- in the await of a session -/
  | inSession
  /-- in the callback of the event `disconnected`, with how the session ended -/
  | disconnected (how : SessionEnd)
  /-- in the callback of the event `reconnecting` -/
  | reconnecting
  /-- in the await of a sleep, whose promise may be resolved -/
  | sleeping (resolved : Bool)
  | stopped (error : Option String)
deriving DecidableEq

/-- The fields of a tunnel, and how many sessions have been opened. -/
structure JsTunnel where
  routes : Routes
  shutdown : Bool := false
  session : Option JsSession := none
  wake : Bool := false
  at_ : JsAt
  attempt : Nat := 0
  opened : Nat := 0
deriving DecidableEq

namespace JsTunnel

/-- `this.session?.end(…)` -/
def endSession (s : JsTunnel) (how : SessionEnd) : JsTunnel := { s with session := s.session.map (JsSession.finish how) }

/-- `this.wake?.()`: resolves the sleep. -/
def wakeUp (s : JsTunnel) : JsTunnel :=
  match s.wake, s.at_ with
  | true, .sleeping _ => { s with at_ := .sleeping true }
  | _, _ => s

/-- `sleep`, up to its await -/
def sleep (s : JsTunnel) : JsTunnel := { s with wake := true, at_ := .sleeping false }

/-- The fields after `close` -/
def close (s : JsTunnel) : JsTunnel := ({ s with shutdown := true }.endSession .shutdown).wakeUp

/-- The last line of `close` is `this.closed.catch(…)`, and the constructor sets `this.closed` to what `run` returns: before
    that, `close` throws. -/
def closeThrows (s : JsTunnel) : Bool := s.at_ = .connecting true

def closeError : String := "Cannot read properties of undefined (reading 'catch')"

/-- `setRoutes` of routes that resolve; others throw before anything changes. -/
def setRoutes (s : JsTunnel) (routes : Routes) : JsTunnel :=
  let previous := s.routes
  let s := { s with routes := routes }
  let s := if previous.names = routes.names then s else s.endSession .routesChanged
  s.wakeUp

/-- The head of the loop of `run`, up to where control leaves it. -/
def evaluate (s : JsTunnel) (constructing : Bool) : JsTunnel :=
  if s.shutdown then { s with at_ := .stopped none }
  else if s.routes.entries.isEmpty then s.sleep
  else { s with at_ := .connecting constructing }

/-- The constructor calls `run`. -/
def start (routes : Routes) : JsTunnel := { routes := routes, at_ := .stopped none : JsTunnel }.evaluate true

/-- `run` goes on after the await of its session. -/
def resumed (s : JsTunnel) (how : SessionEnd) : JsTunnel :=
  let s := { s with session := none }
  match how with
  | .shutdown => { s with at_ := .stopped none }
  | .fatal error => { s with at_ := .stopped (some error) }
  | .routesChanged => { s with at_ := .disconnected how }
  | .retry _ attached => { s with attempt := if attached then 0 else s.attempt, at_ := .disconnected how }

inductive Event where
  /-- a caller, or a callback that passes on what `close` throws -/
  | close
  /-- a callback that catches what `close` throws -/
  | closeCaught
  | setRoutes (routes : Routes)
  /-- `run` goes on: a callback returns, or what it awaits is there -/
  | turn
  /-- the callback of `connecting` returns, and the transport throws -/
  | unreachable (error : String)
  | timer
  /-- the session attaches, or ends by itself -/
  | attached
  | ended (how : SessionEnd)
  /-- `Session.end` resolves the session's promise -/
  | finished
deriving DecidableEq

def step : Event → JsTunnel → Option JsTunnel
  | .close, s =>
      -- what a callback throws ends `run`
      if s.closeThrows then some { s.close with at_ := .stopped (some closeError) } else some s.close
  | .closeCaught, s => if s.closeThrows then some s.close else none
  | .setRoutes routes, s => some (s.setRoutes routes)
  | .turn, s =>
      match s.at_, s.session with
      | .connecting _, _ =>
          some { s with session := some (.running s.routes.names false), opened := s.opened + 1, at_ := .inSession }
      | .inSession, some (.finished how) => some (s.resumed how)
      | .disconnected (.retry _ _), _ => some { s with attempt := s.attempt + 1, at_ := .reconnecting }
      | .disconnected _, _ => some ({ s with attempt := 0 }.evaluate false)
      | .reconnecting, _ => some s.sleep
      | .sleeping true, _ => some ({ s with wake := false }.evaluate false)
      | _, _ => none
  | .unreachable error, s =>
      match s.at_ with
      | .connecting _ => some { s with session := some (.finished (.fatal error)), at_ := .inSession }
      | _ => none
  | .timer, s =>
      match s.at_ with
      | .sleeping _ => some { s with at_ := .sleeping true }
      | _ => none
  | .attached, s =>
      match s.session with
      | some (.running names _) => some { s with session := some (.running names true) }
      | _ => none
  | .ended how, s =>
      match s.session, how with
      | some (.running _ _), .retry _ _ | some (.running _ _), .fatal _ => some { s with session := some (.ending how) }
      | _, _ => none
  | .finished, s =>
      match s.session with
      | some (.ending how) => some { s with session := some (.finished how) }
      | _ => none

end JsTunnel

end OpenTunnel
