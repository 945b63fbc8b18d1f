/-
Module: OpenTunnel.Proofs.JsTunnel
Layer: Proofs
Purpose: When the TypeScript client heeds a close. A close ends the session that runs and the sleep that is awaited, and
  the head of the loop finds the flag; nobody looks at it between the head of the loop and the new session, nor between
  the end of a session that is tried again and the sleep before that.
Imports: OpenTunnel.Tasks.Steps, OpenTunnel.Model.JsTunnel
Trusted boundary: none (fully proved)
Main exports: JsTunnel.closing, JsTunnel.deaf, JsTunnel.Sound, JsTunnel.close_heeded
Open obligations: none
-/
import OpenTunnel.Tasks.Steps
import OpenTunnel.Model.JsTunnel

namespace OpenTunnel.JsTunnel

open Tasks

variable {s s' : JsTunnel}

def isRetry : SessionEnd → Bool
  | .retry _ _ => true
  | _ => false

/-- Nothing but the end of `run` is left once the flag is set: no session runs, and nothing from outside is awaited. -/
def closing (s : JsTunnel) : Bool :=
  match s.at_, s.session with
  | .stopped _, _ => true
  | .inSession, some (.ending how) | .inSession, some (.finished how) => !isRetry how
  | .disconnected how, _ => !isRetry how
  | .sleeping resolved, _ => resolved
  | _, _ => false

/-- Between the head of the loop and the new session, or between the end of a session that is tried again and the sleep
    before that. Inside the constructor a close throws, which ends `run`. -/
def deaf (s : JsTunnel) : Bool :=
  match s.at_, s.session with
  | .connecting constructing, _ => !constructing
  | .reconnecting, _ => true
  | .inSession, some (.ending how) | .inSession, some (.finished how) => isRetry how
  | .disconnected how, _ => isRetry how
  | _, _ => false

/-- The steps that `run` and the session take by themselves before the end. -/
def remaining (s : JsTunnel) : Nat :=
  match s.at_, s.session with
  | .stopped _, _ => 0
  | .inSession, some (.ending _) => 3
  | .inSession, _ => 2
  | _, _ => 1

/-- The current session and the wake callback are there where they are awaited. -/
structure Sound (s : JsTunnel) : Prop where
  session : s.session.isSome = true ↔ s.at_ = .inSession
  wake : s.wake = true ↔ ∃ resolved, s.at_ = .sleeping resolved

/-! ### Fields that are set where they are awaited -/

theorem endSession_sound (sound : Sound s) (how : SessionEnd) : Sound (s.endSession how) :=
  ⟨by simpa [endSession] using sound.session, sound.wake⟩

theorem wakeUp_sound (sound : Sound s) : Sound s.wakeUp := by
  unfold wakeUp
  split
  · rename_i wake is
    refine ⟨⟨fun there => ?_, fun there => by cases there⟩, ⟨fun _ => ⟨true, rfl⟩, fun _ => wake⟩⟩
    rw [sound.session.mp there] at is
    cases is
  · exact sound

theorem evaluate_sound (session : s.session = none) (wake : s.wake = false) (constructing : Bool) :
    Sound (s.evaluate constructing) := by
  unfold evaluate
  split
  · exact ⟨by simp [session], by simp [wake]⟩
  · split
    · exact ⟨by simp [sleep, session], by simp [sleep]⟩
    · exact ⟨by simp [session], by simp [wake]⟩

theorem start_sound (routes : Routes) : Sound (start routes) := evaluate_sound rfl rfl true

theorem Sound.outside (sound : Sound s) (out : s.at_ ≠ .inSession) : s.session = none := by
  cases is : s.session with
  | none => rfl
  | some session => exact absurd (sound.session.mp (by rw [is]; rfl)) out

/-- A session gives way to what becomes of it. -/
theorem Sound.replace (sound : Sound s) {session : JsSession} (is : s.session = some session) (next : JsSession) :
    Sound { s with session := some next } := by
  have inside : s.at_ = .inSession := sound.session.mp (by rw [is]; rfl)
  exact ⟨by simp [inside], sound.wake⟩

/-- Without a session, and not asleep. -/
theorem Sound.idle (sound : Sound s) (out : s.at_ ≠ .inSession) (awake : ∀ resolved, s.at_ ≠ .sleeping resolved) :
    s.session = none ∧ s.wake = false := by
  constructor
  · exact sound.outside out
  · cases is : s.wake with
    | false => rfl
    | true =>
        obtain ⟨resolved, at_⟩ := sound.wake.mp is
        exact absurd at_ (awake resolved)

theorem resumed_sound (sound : Sound s) (is : s.at_ = .inSession) (how : SessionEnd) : Sound (s.resumed how) := by
  have wake : s.wake = false := by
    cases wake : s.wake with
    | false => rfl
    | true =>
        obtain ⟨resolved, at_⟩ := sound.wake.mp wake
        rw [is] at at_
        cases at_
  cases how <;> exact ⟨by simp [resumed], by simp [resumed, wake]⟩

theorem close_sound (sound : Sound s) : Sound s.close :=
  wakeUp_sound (endSession_sound (s := { s with shutdown := true }) ⟨sound.session, sound.wake⟩ .shutdown)

/-- Inside the constructor there is no session to end and nothing to wake. -/
theorem close_constructing (sound : Sound s) (throws : s.closeThrows = true) : s.close = { s with shutdown := true } := by
  have at_ : s.at_ = .connecting true := of_decide_eq_true throws
  obtain ⟨session, wake⟩ := sound.idle (by simp [at_]) (by simp [at_])
  simp [close, endSession, wakeUp, session, wake]

theorem step_sound (sound : Sound s) {e : Event} (taken : step e s = some s') : Sound s' := by
  cases e with
  | close =>
      simp only [step] at taken
      split at taken
      · rename_i throws
        have at_ : s.at_ = .connecting true := of_decide_eq_true throws
        obtain ⟨session, wake⟩ := sound.idle (by simp [at_]) (by simp [at_])
        cases taken
        rw [close_constructing sound throws]
        exact ⟨by simp [session], by simp [wake]⟩
      · cases taken
        exact close_sound sound
  | closeCaught =>
      simp only [step] at taken
      split at taken
      · cases taken
        exact close_sound sound
      · cases taken
  | setRoutes routes =>
      cases taken
      unfold setRoutes
      dsimp only
      have kept : Sound { s with routes := routes } := ⟨sound.session, sound.wake⟩
      split
      · exact wakeUp_sound kept
      · exact wakeUp_sound (endSession_sound kept .routesChanged)
  | turn =>
      simp only [step] at taken
      split at taken
      case h_1 is =>
        cases taken
        obtain ⟨_, wake⟩ := sound.idle (by simp [is]) (by simp [is])
        exact ⟨by simp, by simp [wake]⟩
      case h_2 is _ =>
        cases taken
        exact resumed_sound sound is _
      case h_3 is =>
        cases taken
        obtain ⟨session, wake⟩ := sound.idle (by simp [is]) (by simp [is])
        exact ⟨by simp [session], by simp [wake]⟩
      case h_4 is =>
        cases taken
        obtain ⟨session, wake⟩ := sound.idle (by simp [is]) (by simp [is])
        exact evaluate_sound (by exact session) (by exact wake) false
      case h_5 is =>
        cases taken
        obtain ⟨session, _⟩ := sound.idle (by simp [is]) (by simp [is])
        exact ⟨by simp [sleep, session], by simp [sleep]⟩
      case h_6 is =>
        cases taken
        exact evaluate_sound (by exact sound.outside (by simp [is])) (by rfl) false
      case h_7 => cases taken
  | unreachable error =>
      simp only [step] at taken
      split at taken
      · rename_i is
        cases taken
        obtain ⟨_, wake⟩ := sound.idle (by simp [is]) (by simp [is])
        exact ⟨by simp, by simp [wake]⟩
      · cases taken
  | timer =>
      simp only [step] at taken
      split at taken
      · rename_i resolved is
        cases taken
        exact ⟨by simp [sound.outside (by simp [is])], by simp [sound.wake, is]⟩
      · cases taken
  | attached =>
      simp only [step] at taken
      split at taken
      · rename_i names was is
        cases taken
        exact sound.replace is _
      · cases taken
  | ended how =>
      simp only [step] at taken
      split at taken
      · rename_i is
        cases taken
        exact sound.replace is _
      · rename_i is
        cases taken
        exact sound.replace is _
      · cases taken
  | finished =>
      simp only [step] at taken
      split at taken
      · rename_i how is
        cases taken
        exact sound.replace is _
      · cases taken

/-! ### After the flag is set -/

/-- The steps of `run` and of the session that wait for nothing from outside. -/
def own : Event → Bool
  | .turn | .finished => true
  | _ => false

/-- The session that a closing tunnel has is at its end. -/
theorem closing_session (sound : Sound s) (is : closing s = true) {names : List String} {attached : Bool} :
    s.session ≠ some (.running names attached) := by
  intro running
  have inside : s.at_ = .inSession := sound.session.mp (by rw [running]; rfl)
  simp [closing, inside, running] at is

theorem endSession_closing (sound : Sound s) (is : closing s = true) (how : SessionEnd) : s.endSession how = s := by
  have kept : s.session.map (JsSession.finish how) = s.session := by
    cases session : s.session with
    | none => rfl
    | some was =>
        cases was with
        | running names attached => exact absurd session (closing_session sound is)
        | ending how => rfl
        | finished how => rfl
  unfold endSession
  rw [kept]

theorem wakeUp_closing (is : closing s = true) : s.wakeUp = s := by
  unfold wakeUp
  split
  · rename_i resolved _ at_
    have woken : resolved = true := by simpa [closing, at_] using is
    rw [← woken, ← at_]
  · rfl

theorem closing_returns (is : closing s = true) : s.closeThrows = false := by
  cases throws : s.closeThrows with
  | false => rfl
  | true =>
      have at_ : s.at_ = .connecting true := of_decide_eq_true throws
      simp [closing, at_] at is

/-- A close is heeded where no retry is under way. -/
theorem close_closing (sound : Sound s) (hears : deaf s = false) (returns : s.closeThrows = false) :
    closing s.close = true := by
  cases at_ : s.at_ with
  | connecting constructing =>
      cases constructing with
      | false => simp [deaf, at_] at hears
      | true => simp [closeThrows, at_] at returns
  | reconnecting => simp [deaf, at_] at hears
  | stopped error => simp [close, endSession, wakeUp, closing, at_]
  | disconnected how =>
      simp only [deaf, at_] at hears
      simp [close, endSession, wakeUp, closing, at_, hears]
  | sleeping resolved =>
      have wake : s.wake = true := sound.wake.mpr ⟨resolved, at_⟩
      simp [close, endSession, wakeUp, closing, at_, wake]
  | inSession =>
      obtain ⟨session, is⟩ := Option.isSome_iff_exists.mp (sound.session.mpr at_)
      cases session with
      | running names attached => simp [close, endSession, wakeUp, closing, at_, is, JsSession.finish, isRetry]
      | ending how =>
          simp only [deaf, at_, is] at hears
          simp [close, endSession, wakeUp, closing, at_, is, JsSession.finish, hears]
      | finished how =>
          simp only [deaf, at_, is] at hears
          simp [close, endSession, wakeUp, closing, at_, is, JsSession.finish, hears]

/-- With the flag set and a close heeded, a step opens no session, does not lead away from the end, and is a step towards
    it if it is the tunnel's own. -/
structure Nearer (e : Event) (s s' : JsTunnel) : Prop where
  shutdown : s'.shutdown = true
  closing : s'.closing = true
  opened : s'.opened = s.opened
  remaining : s'.remaining ≤ s.remaining
  own : own e = true → s'.remaining < s.remaining

theorem evaluate_shutdown (flag : s.shutdown = true) (constructing : Bool) :
    s.evaluate constructing = { s with at_ := .stopped none } := by
  simp [evaluate, flag]

theorem turn_nearer (flag : s.shutdown = true) (is : closing s = true) (taken : step .turn s = some s') :
    Nearer .turn s s' := by
  simp only [step] at taken
  split at taken
  case h_1 at_ => simp [closing, at_] at is
  case h_2 how at_ session =>
    cases taken
    have retried : isRetry how = false := by simpa [closing, at_, session] using is
    cases how with
    | retry error attached => cases retried
    | shutdown => exact ⟨flag, rfl, rfl, by simp [remaining, resumed], by simp [remaining, resumed, at_, session]⟩
    | fatal error => exact ⟨flag, rfl, rfl, by simp [remaining, resumed], by simp [remaining, resumed, at_, session]⟩
    | routesChanged =>
        exact ⟨flag, rfl, rfl, by simp [remaining, resumed, at_, session], by simp [remaining, resumed, at_, session]⟩
  case h_3 at_ => simp [closing, at_, isRetry] at is
  case h_4 at_ =>
    cases taken
    rw [evaluate_shutdown (by exact flag)]
    exact ⟨flag, rfl, rfl, by simp [remaining], by simp [remaining, at_]⟩
  case h_5 at_ => simp [closing, at_] at is
  case h_6 at_ =>
    cases taken
    rw [evaluate_shutdown (by exact flag)]
    exact ⟨flag, rfl, rfl, by simp [remaining], by simp [remaining, at_]⟩
  case h_7 => cases taken

theorem step_nearer (sound : Sound s) (flag : s.shutdown = true) (is : closing s = true) {e : Event}
    (taken : step e s = some s') : Nearer e s s' := by
  have same {e : Event} (outside : own e = false) : Nearer e s s :=
    ⟨flag, is, rfl, Nat.le_refl _, by simp [outside]⟩
  cases e with
  | close =>
      have unchanged : s.close = s := by
        unfold close
        rw [← flag]
        exact (congrArg wakeUp (endSession_closing sound is .shutdown)).trans (wakeUp_closing is)
      simp only [step, closing_returns is, Bool.false_eq_true, if_false, unchanged] at taken
      cases taken
      exact same rfl
  | closeCaught => simp [step, closing_returns is] at taken
  | setRoutes routes =>
      cases taken
      have kept : Sound { s with routes := routes } := ⟨sound.session, sound.wake⟩
      have unchanged : s.setRoutes routes = { s with routes := routes } := by
        unfold setRoutes
        dsimp only
        rw [endSession_closing kept is .routesChanged, ite_self]
        exact wakeUp_closing is
      rw [unchanged]
      exact ⟨flag, is, rfl, Nat.le_refl _, by simp [own]⟩
  | turn => exact turn_nearer flag is taken
  | unreachable error =>
      simp only [step] at taken
      split at taken
      · rename_i at_
        simp [closing, at_] at is
      · cases taken
  | timer =>
      simp only [step] at taken
      split at taken
      · rename_i resolved at_
        have woken : resolved = true := by simpa [closing, at_] using is
        rw [← woken, ← at_] at taken
        cases taken
        exact same rfl
      · cases taken
  | attached =>
      simp only [step] at taken
      split at taken
      · rename_i session
        exact absurd session (closing_session sound is)
      · cases taken
  | ended how =>
      simp only [step] at taken
      split at taken
      · rename_i session
        exact absurd session (closing_session sound is)
      · rename_i session
        exact absurd session (closing_session sound is)
      · cases taken
  | finished =>
      simp only [step] at taken
      split at taken
      · rename_i how session
        cases taken
        have inside : s.at_ = .inSession := sound.session.mp (by rw [session]; rfl)
        have retried : isRetry how = false := by simpa [closing, inside, session] using is
        exact ⟨flag, by simp [closing, inside, retried], rfl, by simp [remaining, inside, session],
          by simp [remaining, inside, session]⟩
      · cases taken

/-- A closing tunnel that has not stopped can go on by itself. -/
theorem closing_goes_on (is : closing s = true) :
    (∃ error, s.at_ = .stopped error) ∨ ∃ e, own e = true ∧ (step e s).isSome = true := by
  cases at_ : s.at_ with
  | connecting => simp [closing, at_] at is
  | reconnecting => simp [closing, at_] at is
  | stopped error => exact .inl ⟨error, rfl⟩
  | disconnected how =>
      cases how with
      | retry error attached => simp [closing, at_, isRetry] at is
      | _ => exact .inr ⟨.turn, rfl, by simp [step, at_]⟩
  | sleeping resolved =>
      have woken : resolved = true := by simpa [closing, at_] using is
      exact .inr ⟨.turn, rfl, by simp [step, at_, woken]⟩
  | inSession =>
      cases session : s.session with
      | none => simp [closing, at_, session] at is
      | some was =>
          cases was with
          | running names attached => simp [closing, at_, session] at is
          | ending how => exact .inr ⟨.finished, rfl, by simp [step, session]⟩
          | finished how => exact .inr ⟨.turn, rfl, by simp [step, at_, session]⟩

/-! ### A close is heeded -/

/-- Whatever happens from here on, no session is opened and none runs, no step leads away from the end of `run`, and until
    that end there is a step of the tunnel's own, each of which leads nearer to it. -/
structure Ending (s : JsTunnel) : Prop where
  opens : ∀ s', Stepped step (fun _ _ => True) s s' → s'.opened = s.opened
  runs : ∀ s', Stepped step (fun _ _ => True) s s' → ∀ names attached, s'.session ≠ some (.running names attached)
  nearer : ∀ s', Stepped step (fun _ _ => True) s s' → ∀ e s'', step e s' = some s'' →
    s''.remaining ≤ s'.remaining ∧ (own e = true → s''.remaining < s'.remaining)
  goesOn : ∀ s', Stepped step (fun _ _ => True) s s' →
    (∃ error, s'.at_ = .stopped error) ∨ ∃ e, own e = true ∧ (step e s').isSome = true

/-- A tunnel whose close was heeded. -/
structure Closed (s : JsTunnel) : Prop where
  sound : Sound s
  flag : s.shutdown = true
  closing : s.closing = true

theorem Closed.step (closed : Closed s) {e : Event} (taken : step e s = some s') : Closed s' :=
  let nearer := step_nearer closed.sound closed.flag closed.closing taken
  ⟨step_sound closed.sound taken, nearer.shutdown, nearer.closing⟩

theorem Closed.run (closed : Closed s) (run : Stepped JsTunnel.step (fun _ _ => True) s s') :
    Closed s' ∧ s'.opened = s.opened := by
  refine run.invariant (I := fun t => Closed t ∧ t.opened = s.opened) ⟨closed, rfl⟩ ?_
  intro e t t' _ held taken
  obtain ⟨was, opened⟩ := held
  exact ⟨was.step taken, (step_nearer was.sound was.flag was.closing taken).opened.trans opened⟩

theorem Closed.ending (closed : Closed s) : Ending s where
  opens := fun s' run => (closed.run run).2
  runs := fun s' run names attached => closing_session (closed.run run).1.sound (closed.run run).1.closing
  nearer := by
    intro s' run e s'' taken
    have was := (closed.run run).1
    have nearer := step_nearer was.sound was.flag was.closing taken
    exact ⟨nearer.remaining, nearer.own⟩
  goesOn := fun s' run => closing_goes_on (closed.run run).1.closing

theorem wakeUp_shutdown (s : JsTunnel) : s.wakeUp.shutdown = s.shutdown := by
  unfold wakeUp
  split <;> rfl

theorem evaluate_flag (s : JsTunnel) (constructing : Bool) : (s.evaluate constructing).shutdown = s.shutdown := by
  unfold evaluate
  split
  · rfl
  · split <;> rfl

theorem close_flag (s : JsTunnel) : s.close.shutdown = true := wakeUp_shutdown _

theorem close_closed (sound : Sound s) (hears : deaf s = false) (taken : JsTunnel.step .close s = some s') : Closed s' := by
  have after : Sound s' := step_sound sound taken
  simp only [JsTunnel.step] at taken
  split at taken
  · cases taken
    exact ⟨after, close_flag s, rfl⟩
  · rename_i returns
    cases taken
    exact ⟨after, close_flag s, close_closing sound hears (Bool.eq_false_iff.mpr returns)⟩

theorem Ending.step (ending : Ending s) {e : Event} (taken : step e s = some s') : Ending s' := by
  have after {t : JsTunnel} (run : Stepped JsTunnel.step (fun _ _ => True) s' t) :
      Stepped JsTunnel.step (fun _ _ => True) s t := (Stepped.one e trivial taken).trans run
  exact ⟨fun t run => (ending.opens t (after run)).trans (ending.opens s' (after .start)).symm,
    fun t run => ending.runs t (after run), fun t run => ending.nearer t (after run),
    fun t run => ending.goesOn t (after run)⟩

/-- A sleep that begins after the close is not woken. -/
theorem reconnecting_sleeps (sound : Sound s) (at_ : s.at_ = .reconnecting) : ¬ Ending s := by
  intro ending
  have asleep : JsTunnel.step .turn s = some s.sleep := by simp [JsTunnel.step, at_]
  have session : s.session = none := sound.outside (by simp [at_])
  rcases (ending.step asleep).goesOn s.sleep .start with ⟨error, stopped⟩ | ⟨e, mine, goes⟩
  · simp [sleep] at stopped
  · cases e with
    | turn => simp [JsTunnel.step, sleep] at goes
    | finished => simp [JsTunnel.step, sleep, session] at goes
    | _ => cases mine

theorem retry_sleeps (sound : Sound s) {error : String} {attached : Bool}
    (at_ : s.at_ = .disconnected (.retry error attached)) : ¬ Ending s := by
  intro ending
  have turns : JsTunnel.step .turn s = some { s with attempt := s.attempt + 1, at_ := .reconnecting } := by
    simp [JsTunnel.step, at_]
  exact reconnecting_sleeps (step_sound sound turns) rfl (ending.step turns)

theorem finished_sleeps (sound : Sound s) {error : String} {attached : Bool} (at_ : s.at_ = .inSession)
    (session : s.session = some (.finished (.retry error attached))) : ¬ Ending s := by
  intro ending
  have turns : JsTunnel.step .turn s = some (s.resumed (.retry error attached)) := by
    simp [JsTunnel.step, at_, session]
  exact retry_sleeps (step_sound sound turns) rfl (ending.step turns)

theorem ending_sleeps (sound : Sound s) {error : String} {attached : Bool} (at_ : s.at_ = .inSession)
    (session : s.session = some (.ending (.retry error attached))) : ¬ Ending s := by
  intro ending
  have finishes :
      JsTunnel.step .finished s = some { s with session := some (.finished (.retry error attached)) } := by
    simp [JsTunnel.step, session]
  exact finished_sleeps (step_sound sound finishes) at_ rfl (ending.step finishes)

theorem deaf_cases (unheard : deaf s = true) :
    s.at_ = .connecting false ∨ s.at_ = .reconnecting ∨
    (∃ error attached, s.at_ = .disconnected (.retry error attached)) ∨
    (∃ error attached, s.at_ = .inSession ∧ s.session = some (.ending (.retry error attached))) ∨
    ∃ error attached, s.at_ = .inSession ∧ s.session = some (.finished (.retry error attached)) := by
  unfold deaf at unheard
  split at unheard
  case h_1 constructing at_ =>
    cases constructing with
    | false => exact .inl at_
    | true => cases unheard
  case h_2 at_ => exact .inr (.inl at_)
  case h_3 how at_ session =>
    cases how with
    | retry error attached => exact .inr (.inr (.inr (.inl ⟨error, attached, at_, session⟩)))
    | _ => cases unheard
  case h_4 how at_ session =>
    cases how with
    | retry error attached => exact .inr (.inr (.inr (.inr ⟨error, attached, at_, session⟩)))
    | _ => cases unheard
  case h_5 how at_ =>
    cases how with
    | retry error attached => exact .inr (.inr (.inl ⟨error, attached, at_⟩))
    | _ => cases unheard
  case h_6 => cases unheard

/-- Where it is deaf, the tunnel stays as it is, but for the flag. -/
theorem close_deaf (sound : Sound s) (unheard : deaf s = true) : s.close = { s with shutdown := true } := by
  have awake : s.wake = false := by
    cases wake : s.wake with
    | false => rfl
    | true =>
        obtain ⟨resolved, at_⟩ := sound.wake.mp wake
        simp [deaf, at_] at unheard
  have session : s.session.map (JsSession.finish .shutdown) = s.session := by
    rcases deaf_cases unheard with at_ | at_ | ⟨error, attached, at_⟩ | ⟨error, attached, _, is⟩ | ⟨error, attached, _, is⟩
    · rw [sound.outside (by simp [at_])]
      rfl
    · rw [sound.outside (by simp [at_])]
      rfl
    · rw [sound.outside (by simp [at_])]
      rfl
    · rw [is]
      rfl
    · rw [is]
      rfl
  simp [close, endSession, wakeUp, awake, session]

/-- A session is opened behind the callback of `connecting`. -/
theorem connecting_opens {constructing : Bool} (at_ : s.at_ = .connecting constructing) : ¬ Ending s := by
  intro ending
  obtain ⟨s', turns, opened⟩ : ∃ s', JsTunnel.step .turn s = some s' ∧ s'.opened = s.opened + 1 := by
    simp [JsTunnel.step, at_]
  have kept : s'.opened = s.opened := ending.opens s' (Stepped.one _ trivial turns)
  omega

theorem deaf_returns (unheard : deaf s = true) : s.closeThrows = false := by
  cases throws : s.closeThrows with
  | false => rfl
  | true =>
      have at_ : s.at_ = .connecting true := of_decide_eq_true throws
      simp [deaf, at_] at unheard

theorem deaf_lost (sound : Sound s) (unheard : deaf s = true) (taken : JsTunnel.step .close s = some s') : ¬ Ending s' := by
  have after : Sound s' := step_sound sound taken
  simp only [JsTunnel.step, deaf_returns unheard, Bool.false_eq_true, if_false, close_deaf sound unheard] at taken
  cases taken
  rcases deaf_cases unheard with at_ | at_ | ⟨error, attached, at_⟩ | ⟨error, attached, at_, is⟩ | ⟨error, attached, at_, is⟩
  · exact connecting_opens at_
  · exact reconnecting_sleeps after at_
  · exact retry_sleeps after at_
  · exact ending_sleeps after at_ is
  · exact finished_sleeps after at_ is

/-- A caught error is that of a close inside the constructor, behind which a session is opened. -/
theorem caught_lost (sound : Sound s) (taken : JsTunnel.step .closeCaught s = some s') : ¬ Ending s' := by
  simp only [JsTunnel.step] at taken
  split at taken
  · rename_i throws
    cases taken
    rw [close_constructing sound throws]
    exact connecting_opens (of_decide_eq_true throws)
  · cases taken

/-- The calls of `close`. -/
def isClose : Event → Bool
  | .close | .closeCaught => true
  | _ => false

/-- The closes that are heeded. -/
def Timely (e : Event) (s : JsTunnel) : Prop := (e = .close → deaf s = false) ∧ e ≠ .closeCaught

theorem sound_of_run {C : Event → JsTunnel → Prop} {routes : Routes} (run : Stepped step C (start routes) s) : Sound s :=
  run.invariant (start_sound routes) fun _ _ _ _ sound taken => step_sound sound taken

/-- Only a close sets the flag. -/
theorem step_shutdown {e : Event} (taken : step e s = some s') (other : isClose e = false) : s'.shutdown = s.shutdown := by
  cases e with
  | close => cases other
  | closeCaught => cases other
  | setRoutes routes =>
      cases taken
      rw [setRoutes, wakeUp_shutdown]
      split <;> rfl
  | turn =>
      simp only [step] at taken
      split at taken
      case h_2 how _ _ =>
        cases taken
        cases how <;> rfl
      case h_4 =>
        cases taken
        exact evaluate_flag _ false
      case h_6 =>
        cases taken
        exact evaluate_flag _ false
      all_goals cases taken <;> rfl
  | _ =>
      simp only [step] at taken
      split at taken <;> cases taken <;> rfl

/-- In a run whose closes are timely, a tunnel with the flag set is closed. -/
theorem closed_of_timely {routes : Routes} (run : Stepped step Timely (start routes) s) (flag : s.shutdown = true) :
    Closed s := by
  induction run with
  | start =>
      rw [start, evaluate_flag] at flag
      cases flag
  | @step s s' e before timely taken ih =>
      cases was : s.shutdown with
      | true => exact (ih was).step taken
      | false =>
          by_cases close : e = .close
          · rw [close] at taken
            exact close_closed (sound_of_run before) (timely.1 close) taken
          · have other : isClose e = false := by
              cases e with
              | close => exact absurd rfl close
              | closeCaught => exact absurd rfl timely.2
              | _ => rfl
            rw [step_shutdown taken other, was] at flag
            cases flag

/-- After timely closes the tunnel ends, and a close is heeded exactly where it is timely. -/
theorem close_heeded (routes : Routes) :
    (∀ s, Stepped step Timely (start routes) s → s.shutdown = true → Ending s) ∧
    ∀ s, Stepped step (fun _ _ => True) (start routes) s → ∀ e s', isClose e = true → step e s = some s' →
      (Ending s' ↔ Timely e s) := by
  constructor
  · intro s run flag
    exact (closed_of_timely run flag).ending
  · intro s run e s' close taken
    have sound := sound_of_run run
    cases e with
    | close =>
        constructor
        · intro ending
          refine ⟨fun _ => ?_, nofun⟩
          cases heard : deaf s with
          | false => rfl
          | true => exact absurd ending (deaf_lost sound heard taken)
        · intro timely
          exact (close_closed sound (timely.1 rfl) taken).ending
    | closeCaught =>
        constructor
        · intro ending
          exact absurd ending (caught_lost sound taken)
        · intro timely
          exact absurd rfl timely.2
    | _ => cases close

def sampleRoutes : Routes := ⟨[("", { target := "localhost:80" })], by decide⟩

instance (e : Event) (s : JsTunnel) : Decidable (Timely e s) := inferInstanceAs (Decidable (_ ∧ _))

/-- A bridge that is closed before it attaches, up to the callback of `reconnecting`. -/
def retried : List Event := [.turn, .ended (.retry "bridge closed: 1006" false), .finished, .turn, .turn]

/-- A close in the callback of `connected`, and one in that of `reconnecting`. -/
theorem close_heeded_sample :
    (∃ s, playSteps step Timely [.turn, .attached, .close] (start sampleRoutes) = some s ∧ s.shutdown = true ∧
      Ending s) ∧
    ∃ s s', playSteps step (fun _ _ => True) retried (start sampleRoutes) = some s ∧ s.at_ = .reconnecting ∧
      step .close s = some s' ∧ ¬ Ending s' := by
  constructor
  · obtain ⟨s, played, flag⟩ : ∃ s, playSteps step Timely [.turn, .attached, .close] (start sampleRoutes) = some s ∧
        s.shutdown = true := ⟨_, rfl, rfl⟩
    exact ⟨s, played, flag, (close_heeded sampleRoutes).1 s (stepped_of_play played) flag⟩
  · obtain ⟨s, s', played, at_, closed⟩ : ∃ s s', playSteps step (fun _ _ => True) retried (start sampleRoutes) = some s ∧
        s.at_ = .reconnecting ∧ step .close s = some s' := ⟨_, _, rfl, rfl, rfl⟩
    refine ⟨s, s', played, at_, closed, fun ending => ?_⟩
    have timely := ((close_heeded sampleRoutes).2 s (stepped_of_play played) .close s' rfl closed).mp ending
    have heard := timely.1 rfl
    simp [deaf, at_] at heard

/-- A close in the callback of the second `connecting`, when the bridge is tried again: the session is opened all the same,
    and attaches. -/
theorem close_while_connecting : ∃ s s',
    playSteps step (fun _ _ => True) (retried ++ [.turn, .timer, .turn, .close]) (start sampleRoutes) = some s ∧
    s.shutdown = true ∧ playSteps step (fun _ _ => True) [.turn, .attached] s = some s' ∧
    s'.opened = s.opened + 1 ∧ s'.session = some (.running [""] true) ∧ ¬ Ending s := by
  obtain ⟨s, s', first, flag, second, opened, session⟩ : ∃ s s',
      playSteps step (fun _ _ => True) (retried ++ [.turn, .timer, .turn, .close]) (start sampleRoutes) = some s ∧
      s.shutdown = true ∧ playSteps step (fun _ _ => True) [.turn, .attached] s = some s' ∧ s'.opened = s.opened + 1 ∧
      s'.session = some (.running [""] true) := ⟨_, _, rfl, rfl, rfl, rfl, rfl⟩
  exact ⟨s, s', first, flag, second, opened, session,
    fun ending => ending.runs s' (stepped_of_play second) _ _ session⟩

end OpenTunnel.JsTunnel
