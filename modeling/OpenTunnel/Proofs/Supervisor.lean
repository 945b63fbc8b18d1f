/-
Module: OpenTunnel.Proofs.Supervisor
Layer: Proofs
Purpose: The Rust client loses no update of its routes and no shutdown. A session that has seen the latest routes has
  attached their names and has them as its targets; once the flag is set, the supervisor is about to find it or has not
  seen its change. It comes nearer to its stop with every turn but those of a session that takes another branch of its
  wait, so it stops when the change is taken.
Imports: OpenTunnel.Tasks.Steps, OpenTunnel.Model.Supervisor
Trusted boundary: none (fully proved)
Main exports: Supervisor.Sound, Supervisor.rank, Supervisor.updates_heeded
Open obligations: none
-/
import OpenTunnel.Tasks.Steps
import OpenTunnel.Model.Supervisor

namespace OpenTunnel.Supervisor

open Tasks

variable {s s' : Supervisor}

/-! ### What every state satisfies -/

/-- With the flag set, nothing but the stop is left. -/
def leaving : SupervisorAt → Bool
  | .check | .stopped _ | .ended .shutdown | .ended (.fatal _) => true
  | _ => false

/-- The change of the flag is found by the next check, or not seen yet. -/
def Heard (s : Supervisor) : Prop := leaving s.at_ = true ∨ s.shutdown.unseen s.shutdownSeen = true

/-- What the session has, as far as it has seen the routes. -/
def Current (s : Supervisor) : Prop :=
  match s.at_ with
  | .attaching routes seen => seen = s.shutdownSeen ∧ (s.routes.unseen s.routesSeen = false → routes = s.routes.value)
  | .running names targets =>
      s.routes.unseen s.routesSeen = false → names = s.routes.value.names ∧ targets = s.routes.value
  | _ => True

structure Sound (s : Supervisor) : Prop where
  routesKnown : s.routesSeen ≤ s.routes.version
  shutdownKnown : s.shutdownSeen ≤ s.shutdown.version
  current : s.Current
  heard : s.shutdown.value = true → s.Heard

namespace Sound

theorem start (routes : Routes) : Sound (start routes) where
  routesKnown := Nat.le_refl _
  shutdownKnown := Nat.le_refl _
  current := trivial
  heard := by simp [Supervisor.start]

/-- New routes are not seen. -/
theorem setRoutes (sound : Sound s) (routes : Routes) : Sound { s with routes := s.routes.send routes } := by
  have unseen := Watch.unseen_send sound.routesKnown routes
  refine ⟨Nat.le_succ_of_le sound.routesKnown, sound.shutdownKnown, ?_, sound.heard⟩
  have current := sound.current
  unfold Current at current ⊢
  dsimp only
  split <;> rename_i is
  · rw [is] at current
    exact ⟨current.1, fun seen => by rw [unseen] at seen; cases seen⟩
  · exact fun seen => by rw [unseen] at seen; cases seen
  · trivial

/-- The set flag is not seen. -/
theorem shut (sound : Sound s) (handle : TunnelHandle) :
    Sound { s with handle := handle, shutdown := s.shutdown.send true } :=
  ⟨sound.routesKnown, Nat.le_succ_of_le sound.shutdownKnown, sound.current,
    fun _ => Or.inr (Watch.unseen_send sound.shutdownKnown true)⟩

theorem handle (sound : Sound s) {event : HandleEvent} (taken : handleStep event s = some s') : Sound s' := by
  cases event with
  | setRoutes routes =>
      simp only [handleStep] at taken
      split at taken
      · split at taken <;> cases taken
        · exact sound.setRoutes routes
        · exact sound
      · cases taken
  | close =>
      simp only [handleStep] at taken
      split at taken <;> cases taken
      exact sound.shut .closing
  | drop =>
      simp only [handleStep] at taken
      split at taken <;> cases taken
      exact sound.shut .dropped
  | releaseRoutes =>
      simp only [handleStep] at taken
      split at taken <;> cases taken
      exact ⟨sound.routesKnown, sound.shutdownKnown, sound.current, sound.heard⟩
  | releaseShutdown =>
      simp only [handleStep] at taken
      split at taken <;> cases taken
      exact ⟨sound.routesKnown, sound.shutdownKnown, sound.current, sound.heard⟩

end Sound

/-- A turn leaves the channels, and marks no version as seen that is not there. -/
structure Turned (s s' : Supervisor) : Prop where
  handle : s'.handle = s.handle
  routes : s'.routes = s.routes
  shutdown : s'.shutdown = s.shutdown
  routesSeen : s'.routesSeen = s.routesSeen ∨ s'.routesSeen = s.routes.version
  shutdownSeen : s'.shutdownSeen = s.shutdownSeen ∨ s'.shutdownSeen = s.shutdown.version ∧ leaving s'.at_ = true

/-- The ways of the supervisor. -/
inductive Goes (s s' : Supervisor) : Prop where
  | found : s.at_ = .check → s.shutdown.value = true → s'.at_ = .stopped none → Goes s s'
  | looks : s.at_ = .check → s.shutdown.value = false → s'.at_ = .look → Goes s s'
  | waits : s.at_ = .look → s'.at_ = .waiting → Goes s s'
  | enters : s.at_ = .look → s'.at_ = .enter → Goes s s'
  | attaches : s.at_ = .enter → s'.at_ = .attaching s.routes.value s'.shutdownSeen → Goes s s'
  | returns : s.at_ = .waiting ∨ s.at_ = .sleeping ∨ s.at_ = .ended .routesChanged → s'.at_ = .check → Goes s s'
  | runs (routes : Routes) (seen : Nat) : s.at_ = .attaching routes seen → s'.at_ = .running routes.names routes →
      s'.routesSeen = s.routesSeen → Goes s s'
  | refreshes (targets : Routes) : s.at_ = .running s.routes.value.names targets →
      s'.at_ = .running s.routes.value.names s.routes.value → Goes s s'
  | handles (names : List String) (targets : Routes) : s.at_ = .running names targets → s' = s → Goes s s'
  | loses (routes : Routes) (seen : Nat) (how : SessionEnd) : s.at_ = .attaching routes seen → s'.at_ = .ended how → Goes s s'
  | ends (names : List String) (targets : Routes) (how : SessionEnd) : s.at_ = .running names targets →
      s'.at_ = .ended how → Goes s s'
  | stops (how : SessionEnd) (error : Option String) : s.at_ = .ended how → leaving (.ended how) = true →
      s'.at_ = .stopped error → Goes s s'
  | sleeps (error : String) (attached : Bool) : s.at_ = .ended (.retry error attached) → s'.at_ = .sleeping → Goes s s'

theorem shutdownTaken_spec {next : SupervisorAt} (leaves : leaving next = true)
    (taken : s.shutdownTaken next = some s') : Turned s s' ∧ s'.at_ = next := by
  unfold shutdownTaken at taken
  split at taken <;> cases taken
  exact ⟨⟨rfl, rfl, rfl, Or.inl rfl, Or.inr ⟨rfl, leaves⟩⟩, rfl⟩

theorem shutdownChanged_cases (taken : turnStep .shutdownChanged s = some s') : Turned s s' ∧ Goes s s' := by
  simp only [turnStep] at taken
  split at taken <;> rename_i is
  · obtain ⟨turned, now⟩ := shutdownTaken_spec rfl taken
    exact ⟨turned, .returns (Or.inl is) now⟩
  · obtain ⟨turned, now⟩ := shutdownTaken_spec rfl taken
    exact ⟨turned, .returns (Or.inr (Or.inl is)) now⟩
  · split at taken <;> cases taken
    exact ⟨⟨rfl, rfl, rfl, Or.inl rfl, Or.inl rfl⟩, .loses _ _ _ is rfl⟩
  · obtain ⟨turned, now⟩ := shutdownTaken_spec rfl taken
    exact ⟨turned, .ends _ _ _ is now⟩
  · cases taken

theorem routesChanged_cases (taken : turnStep .routesChanged s = some s') : Turned s s' ∧ Goes s s' := by
  simp only [turnStep] at taken
  split at taken <;> rename_i is
  · split at taken <;> cases taken
    exact ⟨⟨rfl, rfl, rfl, Or.inr rfl, Or.inl rfl⟩, .returns (Or.inl is) rfl⟩
  · rename_i names targets
    split at taken
    · cases taken
      refine ⟨⟨rfl, rfl, rfl, Or.inr rfl, Or.inl rfl⟩, ?_⟩
      by_cases same : s.routes.value.names = names
      · exact .refreshes targets (same ▸ is) (by simp [refresh, same])
      · exact .ends names targets .routesChanged is (by simp [refresh, same])
    · split at taken <;> cases taken
      exact ⟨⟨rfl, rfl, rfl, Or.inl rfl, Or.inl rfl⟩, .ends _ _ _ is rfl⟩
  · cases taken

theorem sessionEnds_cases (taken : turnStep .sessionEnds s = some s') : Turned s s' ∧ Goes s s' := by
  simp only [turnStep] at taken
  split at taken <;> cases taken
  rename_i how is
  cases how with
  | shutdown => exact ⟨⟨rfl, rfl, rfl, Or.inl rfl, Or.inl rfl⟩, .stops _ _ is rfl rfl⟩
  | routesChanged => exact ⟨⟨rfl, rfl, rfl, Or.inl rfl, Or.inl rfl⟩, .returns (Or.inr (Or.inr is)) rfl⟩
  | fatal error => exact ⟨⟨rfl, rfl, rfl, Or.inl rfl, Or.inl rfl⟩, .stops _ _ is rfl rfl⟩
  | retry error attached => exact ⟨⟨rfl, rfl, rfl, Or.inl rfl, Or.inl rfl⟩, .sleeps _ _ is rfl⟩

theorem turn_cases {turn : Turn} (taken : turnStep turn s = some s') : Turned s s' ∧ Goes s s' := by
  cases turn with
  | checkFlag =>
      simp only [turnStep] at taken
      split at taken <;> cases taken
      rename_i is
      refine ⟨⟨rfl, rfl, rfl, Or.inl rfl, Or.inl rfl⟩, ?_⟩
      cases flag : s.shutdown.value with
      | true => exact .found is flag (by simp)
      | false => exact .looks is flag (by simp)
  | lookAtRoutes =>
      simp only [turnStep] at taken
      split at taken <;> cases taken
      rename_i is
      refine ⟨⟨rfl, rfl, rfl, Or.inr rfl, Or.inl rfl⟩, ?_⟩
      cases empty : s.routes.value.entries.isEmpty with
      | true => exact .waits is (by simp)
      | false => exact .enters is (by simp)
  | enterSession =>
      simp only [turnStep] at taken
      split at taken <;> cases taken
      rename_i is
      exact ⟨⟨rfl, rfl, rfl, Or.inr rfl, Or.inl rfl⟩, .attaches is rfl⟩
  | shutdownChanged => exact shutdownChanged_cases taken
  | routesChanged => exact routesChanged_cases taken
  | attachEnds result =>
      simp only [turnStep] at taken
      split at taken <;> rename_i is
      · split at taken <;> cases taken
        · exact ⟨⟨rfl, rfl, rfl, Or.inl rfl, Or.inl rfl⟩, .runs _ _ is rfl rfl⟩
        · exact ⟨⟨rfl, rfl, rfl, Or.inl rfl, Or.inl rfl⟩, .loses _ _ _ is rfl⟩
      · cases taken
  | handled =>
      simp only [turnStep] at taken
      split at taken <;> cases taken
      rename_i is
      exact ⟨⟨rfl, rfl, rfl, Or.inl rfl, Or.inl rfl⟩, .handles _ _ is rfl⟩
  | lost error =>
      simp only [turnStep] at taken
      split at taken <;> cases taken
      rename_i is
      exact ⟨⟨rfl, rfl, rfl, Or.inl rfl, Or.inl rfl⟩, .ends _ _ _ is rfl⟩
  | sessionEnds => exact sessionEnds_cases taken
  | sleepEnds =>
      simp only [turnStep] at taken
      split at taken <;> cases taken
      rename_i is
      exact ⟨⟨rfl, rfl, rfl, Or.inl rfl, Or.inl rfl⟩, .returns (Or.inr (Or.inl is)) rfl⟩

namespace Sound

theorem turn_current (sound : Sound s) (turned : Turned s s') (goes : Goes s s') : s'.Current := by
  have current := sound.current
  cases goes with
  | found _ _ now | looks _ _ now | waits _ now | enters _ now | returns _ now | loses _ _ _ _ now | ends _ _ _ _ now
  | stops _ _ _ _ now | sleeps _ _ _ now => simp only [Current, now]
  | attaches _ now =>
      simp only [Current, now, turned.routes]
      exact ⟨trivial, fun _ => trivial⟩
  | runs routes seen is now same =>
      simp only [Current, is] at current
      simp only [Current, now, turned.routes, same]
      intro quiet
      obtain rfl := current.2 quiet
      exact ⟨rfl, rfl⟩
  | refreshes targets is now =>
      simp only [Current, now, turned.routes]
      exact fun _ => ⟨trivial, trivial⟩
  | handles names targets is same =>
      rw [same]
      exact current

theorem turn_heard (turned : Turned s s') (goes : Goes s s') (set : s.shutdown.value = true) (heard : s.Heard) :
    s'.Heard := by
  rcases heard with leaves | unseen
  · left
    cases goes with
    | found _ _ now => rw [now]; rfl
    | looks _ unset _ => rw [set] at unset; cases unset
    | stops _ _ _ _ now => rw [now]; rfl
    | returns is now =>
        rw [now]
        rfl
    | waits is _ | enters is _ | attaches is _ | runs _ _ is _ _ | refreshes _ is _ | handles _ _ is _
    | loses _ _ _ is _ | ends _ _ _ is _ | sleeps _ _ is _ =>
        rw [is] at leaves
        cases leaves
  · rcases turned.shutdownSeen with same | ⟨_, leaves⟩
    · right
      rw [turned.shutdown, same]
      exact unseen
    · exact Or.inl leaves

theorem turn (sound : Sound s) {turn : Turn} (taken : turnStep turn s = some s') : Sound s' := by
  obtain ⟨turned, goes⟩ := turn_cases taken
  refine ⟨?_, ?_, sound.turn_current turned goes, ?_⟩
  · rw [turned.routes]
    rcases turned.routesSeen with same | same
    · exact same ▸ sound.routesKnown
    · exact Nat.le_of_eq same
  · rw [turned.shutdown]
    rcases turned.shutdownSeen with same | ⟨same, _⟩
    · exact same ▸ sound.shutdownKnown
    · exact Nat.le_of_eq same
  · rw [turned.shutdown]
    exact fun set => turn_heard turned goes set (sound.heard set)

theorem step (sound : Sound s) {e : Event} (taken : Supervisor.step e s = some s') : Sound s' := by
  cases e with
  | handle event => exact sound.handle taken
  | turn turn => exact sound.turn taken

end Sound

/-! ### The way to the stop -/

/-- How far the supervisor is from its stop, once the flag is set. -/
def rank : SupervisorAt → Nat
  | .stopped _ => 0
  | .check | .ended .shutdown | .ended (.fatal _) => 1
  | .waiting | .sleeping | .ended .routesChanged => 2
  | .ended (.retry _ _) => 3
  | .running _ _ => 4
  | .attaching _ _ => 5
  | .enter => 6
  | .look => 7

def isRunning : SupervisorAt → Bool
  | .running _ _ => true
  | _ => false

/-- The waits that watch the flag. -/
def watches : SupervisorAt → Bool
  | .waiting | .attaching _ _ | .running _ _ | .sleeping => true
  | _ => false

theorem rank_ended (how : SessionEnd) : rank (.ended how) ≤ 3 := by
  cases how <;> simp [rank]

/-- With the flag set, every turn brings the stop nearer, but a session may go on. -/
theorem turn_rank (goes : Goes s s') (set : s.shutdown.value = true) :
    rank s'.at_ < rank s.at_ ∨ (isRunning s.at_ = true ∧ isRunning s'.at_ = true) := by
  cases goes with
  | looks _ unset _ =>
      rw [set] at unset
      cases unset
  | found is _ now | waits is now | enters is now | attaches is now | runs _ _ is now _ | sleeps _ _ is now =>
      left
      simp [is, now, rank]
  | returns is now =>
      left
      rcases is with is | is | is <;> simp [is, now, rank]
  | refreshes _ is now =>
      right
      rw [is, now]
      exact ⟨rfl, rfl⟩
  | handles _ _ is same =>
      right
      rw [same, is]
      exact ⟨rfl, rfl⟩
  | loses _ _ how is now =>
      left
      rw [is, now]
      exact Nat.lt_of_le_of_lt (rank_ended how) (by simp [rank])
  | ends _ _ how is now =>
      left
      rw [is, now]
      exact Nat.lt_of_le_of_lt (rank_ended how) (by simp [rank])
  | stops how error is leaves now =>
      left
      rw [is, now]
      cases how <;> simp [leaving] at leaves <;> simp [rank]

/-- A supervisor that leaves stops with its next turn. -/
theorem leaving_stops (goes : Goes s s') (set : s.shutdown.value = true) (leaves : leaving s.at_ = true) :
    ∃ error, s'.at_ = .stopped error := by
  cases goes with
  | found _ _ now => exact ⟨_, now⟩
  | stops _ _ _ _ now => exact ⟨_, now⟩
  | looks _ unset _ =>
      rw [set] at unset
      cases unset
  | returns is _ => rcases is with is | is | is <;> rw [is] at leaves <;> cases leaves
  | waits is _ | enters is _ | attaches is _ | runs _ _ is _ _ | refreshes _ is _ | handles _ _ is _
  | loses _ _ _ is _ | ends _ _ _ is _ | sleeps _ _ is _ =>
      rw [is] at leaves
      cases leaves

/-- A wait that watches the flag ends with its change. -/
theorem watch_ends (sound : Sound s) (set : s.shutdown.value = true) (waits : watches s.at_ = true) :
    ∃ s', turnStep .shutdownChanged s = some s' ∧ leaving s'.at_ = true := by
  have unseen : s.shutdown.unseen s.shutdownSeen = true := by
    rcases sound.heard set with leaves | unseen
    · cases is : s.at_ <;> simp [is, watches, leaving] at waits leaves
    · exact unseen
  have ready := Watch.ready_of_unseen unseen
  have current := sound.current
  cases is : s.at_ <;> rw [is] at waits <;> simp only [watches, Bool.false_eq_true] at waits
  case attaching routes seen =>
    simp only [Current, is] at current
    rw [current.1] at is
    simp only [turnStep, is, ready, if_true]
    exact ⟨_, rfl, rfl⟩
  all_goals
    simp only [turnStep, is, shutdownTaken, ready, if_true]
    exact ⟨_, rfl, rfl⟩

/-! ### Runs -/

section Runs

variable {run : Nat → Supervisor} {events : Nat → Event}

/-- The supervisor is given its turns, and a session's wait does not pass over the change of the flag for ever. -/
def Fair (run : Nat → Supervisor) (events : Nat → Event) : Prop :=
  ∀ t, (run t).shutdown.value = true → (∃ error, (run t).at_ = .stopped error) ∨
    ∃ t' turn, t ≤ t' ∧ events t' = .turn turn ∧ (isRunning (run t').at_ = true → turn = .shutdownChanged)

/-- A handle leaves the supervisor where it is, and the flag set. -/
theorem handle_keeps {event : HandleEvent} (taken : handleStep event s = some s') (set : s.shutdown.value = true) :
    s'.at_ = s.at_ ∧ s'.shutdown.value = true := by
  cases event with
  | setRoutes routes =>
      simp only [handleStep] at taken
      split at taken
      · split at taken <;> cases taken <;> exact ⟨rfl, set⟩
      · cases taken
  | close | drop | releaseRoutes | releaseShutdown =>
      simp only [handleStep] at taken
      split at taken <;> cases taken
      exact ⟨rfl, by first | exact set | rfl⟩

/-- The flag stays set, and the supervisor never goes further from its stop. -/
theorem step_nearer {e : Event} (taken : step e s = some s') (set : s.shutdown.value = true) :
    rank s'.at_ ≤ rank s.at_ ∧ s'.shutdown.value = true := by
  cases e with
  | handle event =>
      obtain ⟨same, set'⟩ := handle_keeps taken set
      exact ⟨Nat.le_of_eq (congrArg rank same), set'⟩
  | turn turn =>
      obtain ⟨turned, goes⟩ := turn_cases taken
      refine ⟨?_, turned.shutdown ▸ set⟩
      rcases turn_rank goes set with less | ⟨before, after⟩
      · exact Nat.le_of_lt less
      · cases is : s.at_ <;> cases is' : s'.at_ <;> simp [is, is', isRunning] at before after
        simp [rank]

theorem later_nearer (endless : Endless step run events) {t : Nat} (set : (run t).shutdown.value = true) (k : Nat) :
    rank (run (t + k)).at_ ≤ rank (run t).at_ ∧ (run (t + k)).shutdown.value = true := by
  induction k with
  | zero => exact ⟨Nat.le_refl _, set⟩
  | succ k ih =>
      obtain ⟨nearer, set'⟩ := step_nearer (endless.next (t + k)) ih.2
      exact ⟨Nat.le_trans nearer ih.1, set'⟩

theorem stopped_of_rank {at_ : SupervisorAt} (none_ : rank at_ = 0) : ∃ error, at_ = .stopped error := by
  cases at_ with
  | stopped error => exact ⟨error, rfl⟩
  | ended how => cases how <;> simp [rank] at none_
  | check | look | waiting | enter | attaching | running | sleeping => simp [rank] at none_

/-- Once the flag is set, the supervisor stops for good. -/
theorem stops (endless : Endless step run events) (fair : Fair run events) {t : Nat}
    (set : (run t).shutdown.value = true) : ∃ t', t ≤ t' ∧ ∀ t'', t' ≤ t'' → ∃ error, (run t'').at_ = .stopped error := by
  generalize bound : rank (run t).at_ = n
  induction n using Nat.strongRecOn generalizing t with
  | ind n ih =>
      rcases fair t set with ⟨error, is⟩ | ⟨t', turn, later, is, heeds⟩
      · refine ⟨t, Nat.le_refl _, fun t'' later => ?_⟩
        obtain ⟨k, rfl⟩ := Nat.exists_eq_add_of_le later
        have nearer := (later_nearer endless set k).1
        rw [is] at nearer
        exact stopped_of_rank (Nat.le_zero.mp nearer)
      · obtain ⟨k, rfl⟩ := Nat.exists_eq_add_of_le later
        obtain ⟨nearer, set'⟩ := later_nearer endless set k
        have taken := endless.next (t + k)
        rw [is] at taken
        obtain ⟨turned, goes⟩ := turn_cases taken
        have less : rank (run (t + k + 1)).at_ < rank (run (t + k)).at_ := by
          rcases turn_rank goes set' with less | ⟨before, after⟩
          · exact less
          · rw [heeds before] at taken
            cases at_ : (run (t + k)).at_ <;> simp [at_, isRunning] at before
            simp only [step, turnStep, at_] at taken
            rw [(shutdownTaken_spec rfl taken).2] at after
            cases after
        have set'' : (run (t + k + 1)).shutdown.value = true := turned.shutdown ▸ set'
        obtain ⟨t', later', stopped⟩ := ih _ (by omega) set'' rfl
        exact ⟨t', by omega, stopped⟩

end Runs

/-- A session that has seen the latest routes has attached their names and has them as its targets. Once the flag is
    set, its change is found by the next check or not seen by the next wait that watches it; such a wait can end with it,
    a supervisor that has taken it stops with its next turn, and every turn brings it nearer to its stop but those in
    which a session goes on. Given its turns, it stops for good. -/
theorem updates_heeded (routes : Routes) :
    (∀ s, Stepped step (fun _ _ => True) (start routes) s →
      (∀ names targets, s.at_ = .running names targets → s.routes.unseen s.routesSeen = false →
        names = s.routes.value.names ∧ targets = s.routes.value) ∧
      (s.shutdown.value = true → s.Heard ∧
        (watches s.at_ = true → ∃ s', turnStep .shutdownChanged s = some s' ∧ leaving s'.at_ = true) ∧
        ∀ turn s', turnStep turn s = some s' →
          (leaving s.at_ = true → ∃ error, s'.at_ = .stopped error) ∧
          (rank s'.at_ < rank s.at_ ∨ (isRunning s.at_ = true ∧ isRunning s'.at_ = true)))) ∧
    ∀ run events, run 0 = start routes → Endless step run events → Fair run events →
      ∀ t, (run t).shutdown.value = true →
        ∃ t', t ≤ t' ∧ ∀ t'', t' ≤ t'' → ∃ error, (run t'').at_ = .stopped error := by
  refine ⟨?_, fun run events _ endless fair t set => stops endless fair set⟩
  intro s reached
  have sound : Sound s := reached.invariant (.start routes) fun _ _ _ _ holds taken => holds.step taken
  constructor
  · intro names targets is quiet
    have current := sound.current
    simp only [Current, is] at current
    exact current quiet
  · intro set
    refine ⟨sound.heard set, watch_ends sound set, fun turn s' taken => ?_⟩
    obtain ⟨_, goes⟩ := turn_cases taken
    exact ⟨leaving_stops goes set, turn_rank goes set⟩

/-! ### A run -/

def sampleRoutes (target : String) : Routes where
  entries := [("web", { target := target })]
  ordered := by simp

/-- The targets change while a session runs; it is closed while it handles a message. -/
def sampleEvents : Nat → Event
  | 0 => .turn .checkFlag
  | 1 => .turn .lookAtRoutes
  | 2 => .turn .enterSession
  | 3 => .turn (.attachEnds .attached)
  | 4 => .handle (.setRoutes (sampleRoutes "localhost:81"))
  | 5 => .turn .routesChanged
  | 6 => .handle .close
  | 7 => .turn .handled
  | 8 => .turn .shutdownChanged
  | 9 => .turn .sessionEnds
  | 10 => .handle .drop
  | _ => .handle .releaseRoutes

def sampleRun : Nat → Supervisor := runOf step sampleEvents (start (sampleRoutes "localhost:80"))

theorem sampleRun_dropped (t : Nat) : (sampleRun (t + 11)).handle = .dropped ∧ (sampleRun (t + 11)).at_ = .stopped none := by
  induction t with
  | zero => decide +kernel
  | succ t ih =>
      have next : sampleRun (t + 1 + 11) =
          (step (.handle .releaseRoutes) (sampleRun (t + 11))).getD (sampleRun (t + 11)) := rfl
      rw [next]
      simp only [step, handleStep, ih.1, if_true, Option.getD_some]
      exact ⟨trivial, ih.2⟩

theorem sampleRun_endless : Endless step sampleRun sampleEvents := by
  apply endless_runOf
  intro t
  match t with
  | 0 | 1 | 2 | 3 | 4 | 5 | 6 | 7 | 8 | 9 | 10 => decide +kernel
  | t + 11 =>
      show (handleStep .releaseRoutes (sampleRun (t + 11))).isSome = true
      simp [handleStep, (sampleRun_dropped t).1]

theorem sampleRun_fair : Fair sampleRun sampleEvents := by
  intro t set
  by_cases early : t ≤ 8
  · exact Or.inr ⟨8, .shutdownChanged, early, rfl, fun _ => rfl⟩
  · match t with
    | 9 => exact Or.inr ⟨9, .sessionEnds, Nat.le_refl _, rfl, fun is => absurd is (by decide +kernel)⟩
    | 10 => exact Or.inl ⟨none, by decide +kernel⟩
    | t + 11 => exact Or.inl ⟨none, (sampleRun_dropped t).2⟩

/-- The session has the new targets, and the supervisor stops. -/
theorem updates_heeded_sample :
    (isRunning (sampleRun 6).at_ = true ∧ (sampleRun 6).routes.unseen (sampleRun 6).routesSeen = false ∧
      ∀ names targets, (sampleRun 6).at_ = .running names targets →
        names = (sampleRun 6).routes.value.names ∧ targets = (sampleRun 6).routes.value) ∧
    ∃ t', 7 ≤ t' ∧ ∀ t'', t' ≤ t'' → ∃ error, (sampleRun t'').at_ = .stopped error := by
  obtain ⟨states, runs⟩ := updates_heeded (sampleRoutes "localhost:80")
  have quiet : (sampleRun 6).routes.unseen (sampleRun 6).routesSeen = false := by decide +kernel
  refine ⟨⟨by decide +kernel, quiet, fun names targets is => ?_⟩, ?_⟩
  · exact (states _ (sampleRun_endless.stepped 6)).1 names targets is quiet
  · exact runs sampleRun sampleEvents rfl sampleRun_endless sampleRun_fair 7 (by decide +kernel)

/-- The attach ends while the flag is set, and its wait takes that: a session begins after the close, and handles a
    message. -/
theorem session_after_close : ∃ s s' s'', Stepped step (fun _ _ => True) (start (sampleRoutes "localhost:80")) s ∧
    s.shutdown.value = true ∧ isRunning s.at_ = false ∧
    turnStep (.attachEnds .attached) s = some s' ∧ isRunning s'.at_ = true ∧
    turnStep .handled s' = some s'' ∧ isRunning s''.at_ = true := by
  have played : (playSteps step (fun _ _ => True)
      [.turn .checkFlag, .turn .lookAtRoutes, .turn .enterSession, .handle .close]
      (start (sampleRoutes "localhost:80"))).map (fun s => (s.shutdown.value, isRunning s.at_,
        ((turnStep (.attachEnds .attached) s).bind fun s' => (turnStep .handled s').map fun s'' =>
          (isRunning s'.at_, isRunning s''.at_)))) = some (true, false, some (true, true)) := by
    decide +kernel
  obtain ⟨s, reached, is⟩ := Option.map_eq_some_iff.mp played
  simp only [Prod.mk.injEq] at is
  obtain ⟨set, before, later⟩ := is
  obtain ⟨s', attached, later⟩ := Option.bind_eq_some_iff.mp later
  obtain ⟨s'', handled, is⟩ := Option.map_eq_some_iff.mp later
  simp only [Prod.mk.injEq] at is
  exact ⟨s, s', s'', stepped_of_play reached, set, before, attached, is.1, handled, is.2⟩

end OpenTunnel.Supervisor
