/-
Module: OpenTunnel.Proofs.Handshake
Layer: Proofs
Purpose: Mesh links are authenticated both ways. What is signed for a role tells the whole session, and only a machine in
  that role signs it; nonces are not drawn twice; so whatever the network does, the sides that proved themselves to each
  other are in one session, each session has one connection on each side, and no proof opens another one. Left alone, the
  handshake succeeds however its bytes arrive.
Imports: OpenTunnel.Model.Handshake, OpenTunnel.Proofs.Forward
Trusted boundary: none (fully proved)
Main exports: Handshake.Unforged, Handshake.Change, Handshake.Sound, Handshake.links_agree, Handshake.handshake_completes
Open obligations: none
-/
import OpenTunnel.Model.Handshake
import OpenTunnel.Proofs.Forward

namespace OpenTunnel.Handshake

open Formats Tasks
open Forward (validId hex meshMagic forwardLabel Chunk readHeader Word)

section Runs

variable {hmac : Bytes → Bytes} {s s' : State} {parts : List Bytes}

/-! ### What is signed tells the session -/

theorem utf8_injective {a b : List Char} (same : utf8 a = utf8 b) : a = b := by
  have read := congrArg fromUtf8 same
  rw [fromUtf8_utf8, fromUtf8_utf8] at read
  exact Option.some.inj read

theorem Session.parts_injective {session session' : Session} {label label' : List Char}
    (same : session.parts label = session'.parts label') : label = label' ∧ session = session' := by
  simp only [Session.parts, List.map_cons, List.map_nil, List.cons.injEq, and_true] at same
  obtain ⟨labels, dialer, acceptor, dialNonce, acceptNonce⟩ := same
  cases session
  cases session'
  rw [Session.mk.injEq]
  exact ⟨utf8_injective labels, utf8_injective dialer, utf8_injective acceptor, utf8_injective dialNonce,
    utf8_injective acceptNonce⟩

/-- The two roles and what else is signed have labels of their own. -/
theorem labels_differ : acceptLabel ≠ dialLabel ∧
    ∀ label ∈ [acceptLabel, dialLabel], label ≠ forwardLabel ∧ label ≠ controlLabel := by
  decide

theorem session_of_parts {label : List Char} {session session' : Session}
    (same : session.parts label = session'.parts label) : session = session' :=
  (Session.parts_injective same).2

/-- A machine's request is no part of a handshake. -/
theorem request_parts {request : SignedRequest} (labelled : request.label = utf8 forwardLabel ∨ request.label = utf8 controlLabel)
    {label : List Char} (role : label ∈ [acceptLabel, dialLabel]) (session : Session) : session.parts label ≠ request.parts := by
  intro same
  have first : utf8 label = request.label := by
    simp only [Session.parts, SignedRequest.parts, List.map_cons, List.cons_append, List.cons.injEq] at same
    exact same.1
  obtain ⟨forward, control⟩ := labels_differ.2 label role
  rcases labelled with is | is
  · exact forward (utf8_injective (first.trans is))
  · exact control (utf8_injective (first.trans is))

/-! ### What the network cannot do -/

/-- A machine signed this message. -/
def State.Signed (s : State) (parts : List Bytes) : Prop := ∃ made ∈ s.signed, message made = message parts

/-- No forgery succeeds: what a machine takes for the proof of a message is only there once a machine signed it. -/
def Unforged (hmac : Bytes → Bytes) : Event → State → Prop
  | .answered i incoming, s => ∀ d, s.dials[i]? = some d → ∀ session written rest,
      dial hmac d.machine (nonce d.random) incoming = .ok (session, written, rest) → s.Signed (session.parts acceptLabel)
  | .finished j incoming, s => ∀ a, s.accepts[j]? = some a → ∀ rest,
      accepted hmac a.session incoming = .ok rest → s.Signed (a.session.parts dialLabel)
  | _, _ => True

/-- The nonces that machines drew. -/
def State.nonces (s : State) : List (List Char) := (s.dials.map fun d => nonce d.random) ++ s.accepts.map (·.session.acceptNonce)

/-- A nonce that was not drawn before, where one is drawn. -/
def Drawn : Event → State → Prop
  | .dial _ random, s => nonce random ∉ s.nonces
  | .greeted _ random _, s => nonce random ∉ s.nonces
  | _, _ => True

/-- Nonces are not drawn twice, and no forgery succeeds. -/
def Secure (hmac : Bytes → Bytes) (event : Event) (s : State) : Prop := Drawn event s ∧ Unforged hmac event s

theorem State.Signed.mem (signed : s.Signed parts) (short : ∀ made ∈ s.signed, ∀ part ∈ made, part.length < 2 ^ 32)
    (short' : ∀ part ∈ parts, part.length < 2 ^ 32) : parts ∈ s.signed := by
  obtain ⟨made, listed, same⟩ := signed
  exact message_injective (short made listed) short' same ▸ listed

/-! ### What is read -/

theorem validId_short {id : List Char} (valid : validId id = true) : (utf8 id).length < 2 ^ 32 := by
  unfold validId at valid
  simp only [Bool.and_eq_true, decide_eq_true_eq] at valid
  omega

theorem validNonce_short {own : List Char} (valid : validNonce own = true) : (utf8 own).length < 2 ^ 32 := by
  unfold validNonce at valid
  simp only [Bool.and_eq_true, decide_eq_true_eq] at valid
  omega

theorem nonce_length (random : Random) : (utf8 (nonce random)).length = 32 := by
  rw [nonce, Forward.PlainText.utf8 (Forward.hex_chars _), List.length_map, Forward.hex_length, random.2]

theorem Session.short {session : Session} {label : List Char} (role : label ∈ [acceptLabel, dialLabel])
    (dialer : (utf8 session.dialer).length < 2 ^ 32) (acceptor : (utf8 session.acceptor).length < 2 ^ 32)
    (dialNonce : (utf8 session.dialNonce).length < 2 ^ 32) (acceptNonce : (utf8 session.acceptNonce).length < 2 ^ 32) :
    ∀ part ∈ session.parts label, part.length < 2 ^ 32 := by
  have labelled : ∀ label ∈ [acceptLabel, dialLabel], (utf8 label).length < 2 ^ 32 := by decide +kernel
  intro part held
  simp only [Session.parts, List.map_cons, List.map_nil, List.mem_cons, List.not_mem_nil, or_false] at held
  rcases held with rfl | rfl | rfl | rfl | rfl
  · exact labelled label role
  · exact dialer
  · exact acceptor
  · exact dialNonce
  · exact acceptNonce

/-- What `accept` answers to a greeting. -/
theorem accept_ok {machine : Machine} {own text : List Char} {session : Session} {written : Bytes}
    (done : accept hmac machine own text = .ok (session, written)) :
    session.acceptor = machine.1 ∧ session.acceptNonce = own ∧ session.dialer ≠ session.acceptor ∧
      validId session.dialer = true ∧ validNonce session.dialNonce = true ∧ text = session.dialer ++ ' ' :: session.dialNonce := by
  unfold accept at done
  split at done
  · rename_i dialer dialNonce fields
    split at done
    · cases done
    · rename_i valid
      split at done
      · cases done
      · rename_i other
        cases done
        have valid := Decidable.not_not.mp valid
        have joined : [' '].intercalate (text.splitOn ' ') = text := List.intercalate_splitOn ' '
        rw [fields] at joined
        exact ⟨rfl, rfl, other, valid.1, valid.2, joined.symm.trans (by simp [List.intercalate_cons_cons])⟩
  · cases done

/-- What `dial` makes of the acceptor's line. -/
theorem dial_ok {machine : Machine} {own : List Char} {incoming written rest : Bytes} {session : Session}
    (done : dial hmac machine own incoming = .ok (session, written, rest)) :
    session.dialer = machine.1 ∧ session.dialNonce = own ∧ session.dialer ≠ session.acceptor ∧
      validId session.acceptor = true ∧ validNonce session.acceptNonce = true := by
  unfold dial at done
  split at done
  · cases done
  · split at done
    · cases done
    · split at done
      · cases done
      · split at done
        · cases done
        · rename_i valid
          dsimp only at done
          split at done
          · cases done
          · split at done
            · cases done
            · rename_i other
              cases done
              have valid := Decidable.not_not.mp valid
              exact ⟨rfl, rfl, fun same => other same.symm, valid.1, valid.2⟩

/-! ### Steps -/

def Stage.Proven : Stage → Prop
  | .proven => True
  | .linked _ => True
  | _ => False

/-- What a connection that was dialed tells: its session was challenged by the acceptor. -/
structure Dialing.Sound (signed : List (List Bytes)) (d : Dialing) : Prop where
  challenged : ∀ session, d.session = some session → session.dialer = d.machine.1 ∧ session.dialNonce = nonce d.random ∧
    session.dialer ≠ session.acceptor ∧ session.parts acceptLabel ∈ signed
  proven : d.stage.Proven → ∃ session, d.session = some session
  linked : ∀ name, d.stage = .linked name → ∃ session, d.session = some session ∧ session.acceptor = name

/-- What a connection that was answered tells: its dialer answered the challenge before it counts as proven. -/
structure Accepting.Sound (signed : List (List Bytes)) (a : Accepting) : Prop where
  apart : a.session.dialer ≠ a.session.acceptor
  challenged : a.session.parts acceptLabel ∈ signed
  answered : a.stage.Proven → a.session.parts dialLabel ∈ signed
  linked : ∀ name, a.stage = .linked name → a.session.dialer = name

/-- What holds of the connections and of what was signed. -/
structure Sound (s : State) : Prop where
  short : ∀ parts ∈ s.signed, ∀ part ∈ parts, part.length < 2 ^ 32
  dialNonces : (s.dials.map fun d => nonce d.random).Nodup
  acceptNonces : (s.accepts.map (·.session.acceptNonce)).Nodup
  dials : ∀ d ∈ s.dials, d.Sound s.signed
  accepts : ∀ a ∈ s.accepts, a.Sound s.signed
  challenges : ∀ session, session.parts acceptLabel ∈ s.signed → session ∈ s.accepts.map (·.session)
  answers : ∀ session, session.parts dialLabel ∈ s.signed → some session ∈ s.dials.map (·.session)

theorem Dialing.Sound.mono {d : Dialing} {signed signed' : List (List Bytes)} (sound : d.Sound signed)
    (more : ∀ parts ∈ signed, parts ∈ signed') : d.Sound signed' where
  challenged := by
    intro session known
    obtain ⟨dialer, dialNonce, apart, challenged⟩ := sound.challenged session known
    exact ⟨dialer, dialNonce, apart, more _ challenged⟩
  proven := sound.proven
  linked := sound.linked

theorem Accepting.Sound.mono {a : Accepting} {signed signed' : List (List Bytes)} (sound : a.Sound signed)
    (more : ∀ parts ∈ signed, parts ∈ signed') : a.Sound signed' where
  apart := sound.apart
  challenged := more _ sound.challenged
  answered := fun proven => more _ (sound.answered proven)
  linked := sound.linked

/-- The two roles sign the same but for the label. -/
theorem short_role {session : Session} (short : ∀ part ∈ session.parts acceptLabel, part.length < 2 ^ 32) :
    ∀ part ∈ session.parts dialLabel, part.length < 2 ^ 32 := by
  simp only [Session.parts, List.map_cons, List.map_nil, List.mem_cons, forall_eq_or_imp] at short ⊢
  exact ⟨by decide +kernel, short.2⟩

/-- What a step does to the connections and to what is signed. -/
inductive Change (s : State) : State → Prop where
  | nothing : Change s s
  | dials (machine : Machine) (random : Random) (unused : nonce random ∉ s.nonces) :
      Change s { s with dials := s.dials ++ [{ machine := machine, random := random }] }
  | accepts (session : Session) (unused : session.acceptNonce ∉ s.nonces) (apart : session.dialer ≠ session.acceptor)
      (short : ∀ part ∈ session.parts acceptLabel, part.length < 2 ^ 32) :
      Change s { s with accepts := s.accepts ++ [{ session := session }], signed := session.parts acceptLabel :: s.signed }
  | proves (i : Nat) (machine : Machine) (random : Random) (session : Session)
      (found : s.dials[i]? = some { machine := machine, random := random }) (dialer : session.dialer = machine.1)
      (dialNonce : session.dialNonce = nonce random) (apart : session.dialer ≠ session.acceptor)
      (challenged : session.parts acceptLabel ∈ s.signed) (short : ∀ part ∈ session.parts dialLabel, part.length < 2 ^ 32) :
      Change s { s with dials := s.dials.set i { machine := machine, random := random, session := some session, stage := .proven },
                        signed := session.parts dialLabel :: s.signed }
  | accepted (j : Nat) (session : Session) (found : s.accepts[j]? = some { session := session })
      (answered : session.parts dialLabel ∈ s.signed) :
      Change s { s with accepts := s.accepts.set j { session := session, stage := .proven } }
  | dialStage (i : Nat) (d : Dialing) (stage : Stage) (found : s.dials[i]? = some d) (only : stage.Proven → d.stage.Proven)
      (named : ∀ name, stage = .linked name → ∃ session, d.session = some session ∧ session.acceptor = name) :
      Change s { s with dials := s.dials.set i { d with stage := stage } }
  | acceptStage (j : Nat) (a : Accepting) (stage : Stage) (found : s.accepts[j]? = some a) (only : stage.Proven → a.stage.Proven)
      (named : ∀ name, stage = .linked name → a.session.dialer = name) :
      Change s { s with accepts := s.accepts.set j { a with stage := stage } }
  | signs (request : SignedRequest) (labelled : request.label = utf8 forwardLabel ∨ request.label = utf8 controlLabel) :
      Change s { s with signed := request.parts :: s.signed }

theorem helloStage_linked {own other machineId name : List Char} (linked : helloStage own other machineId = .linked name) :
    other = name := by
  unfold helloStage at linked
  split at linked
  · cases linked
  · split at linked
    · cases linked
    · rename_i same
      cases linked
      exact Decidable.not_not.mp same

theorem step_change {event : Event} (sound : Sound s) (secure : Secure hmac event s) (taken : State.step hmac event s = some s') : Change s s' := by
  cases event with
  | dial machine random =>
      cases taken
      exact .dials machine random secure.1
  | greeted machine random reads =>
      simp only [State.step] at taken
      split at taken
      · cases taken
        exact .nothing
      · split at taken
        · cases taken
          exact .nothing
        · rename_i session _ done
          cases taken
          obtain ⟨acceptor, own, apart, valid, valid', _⟩ := accept_ok done
          refine .accepts session (own ▸ secure.1) apart (Session.short (List.mem_cons_self) (validId_short valid) ?_
            (validNonce_short valid') ?_)
          · rw [acceptor]
            exact machine.2
          · rw [own, nonce_length]
            decide
  | answered i incoming =>
      simp only [State.step] at taken
      split at taken
      · rename_i machine random found
        split at taken
        · cases taken
          exact .dialStage i _ .failed found nofun nofun
        · rename_i session _ _ done
          cases taken
          obtain ⟨dialer, dialNonce, apart, valid, valid'⟩ := dial_ok done
          have fits (label : List Char) (role : label ∈ [acceptLabel, dialLabel]) :
              ∀ part ∈ session.parts label, part.length < 2 ^ 32 := by
            refine Session.short role ?_ (validId_short valid) ?_ (validNonce_short valid')
            · rw [dialer]
              exact machine.2
            · rw [dialNonce, nonce_length]
              decide
          have challenged := (secure.2 _ found session _ _ done).mem sound.short (fits acceptLabel List.mem_cons_self)
          exact .proves i machine random session found dialer dialNonce apart challenged
            (fits dialLabel (List.mem_cons_of_mem _ List.mem_cons_self))
      · cases taken
  | finished j incoming =>
      simp only [State.step] at taken
      split at taken
      · rename_i session found
        split at taken
        · cases taken
          exact .acceptStage j _ .failed found nofun nofun
        · rename_i done
          cases taken
          have challenged := (sound.accepts _ (List.mem_of_getElem? found)).challenged
          exact .accepted j session found ((secure.2 _ found _ done).mem sound.short (short_role (sound.short _ challenged)))
      · cases taken
  | dialerHello i machineId =>
      simp only [State.step] at taken
      split at taken
      · rename_i machine random session found
        cases taken
        refine .dialStage i _ _ found (fun _ => trivial) ?_
        intro name linked
        exact ⟨session, rfl, helloStage_linked linked⟩
      · cases taken
  | acceptorHello j machineId =>
      simp only [State.step] at taken
      split at taken
      · rename_i session found
        cases taken
        refine .acceptStage j _ _ found (fun _ => trivial) ?_
        intro name linked
        exact helloStage_linked linked
      · cases taken
  | dialerFails i =>
      simp only [State.step] at taken
      split at taken
      · rename_i d found
        cases taken
        exact .dialStage i d .failed found nofun nofun
      · cases taken
  | acceptorFails j =>
      simp only [State.step] at taken
      split at taken
      · rename_i a found
        cases taken
        exact .acceptStage j a .failed found nofun nofun
      · cases taken
  | signs request =>
      simp only [State.step] at taken
      split at taken
      · rename_i labelled
        cases taken
        exact .signs request labelled
      · cases taken

/-! ### Every run -/

section Replaced

variable {α β : Type} {l : List α} {i : Nat} {x y : α}

/-- An entry that is replaced by one with the same `f`. -/
theorem map_set_same {f : α → β} (found : l[i]? = some x) (same : f y = f x) : (l.set i y).map f = l.map f := by
  apply List.ext_getElem?
  intro k
  rw [List.map_set, List.getElem?_set]
  split
  · rename_i here
    subst here
    obtain ⟨inside, _⟩ := List.getElem?_eq_some_iff.mp found
    rw [List.length_map, if_pos inside, List.getElem?_map, found, same]
    rfl
  · rfl

/-- The other entries stay. -/
theorem mem_set_other {a : α} (listed : a ∈ l) (found : l[i]? = some x) (other : a ≠ x) : a ∈ l.set i y := by
  obtain ⟨k, is⟩ := List.getElem?_of_mem listed
  apply List.mem_of_getElem? (i := k)
  rw [List.getElem?_set, if_neg, is]
  rintro rfl
  exact other (Option.some.inj (is.symm.trans found))

end Replaced

theorem sound_initial : Sound {} where
  short := nofun
  dialNonces := List.nodup_nil
  acceptNonces := List.nodup_nil
  dials := nofun
  accepts := nofun
  challenges := nofun
  answers := nofun

/-- Other parts are signed: nobody opened or answered a handshake with them. -/
theorem signed_other {session : Session} {label : List Char} {parts : List Bytes} (other : session.parts label ≠ parts)
    (held : session.parts label ∈ parts :: s.signed) : session.parts label ∈ s.signed :=
  (List.mem_cons.mp held).resolve_left other

theorem nodup_concat {α : Type} {l : List α} {a : α} (distinct : l.Nodup) (unused : a ∉ l) : (l ++ [a]).Nodup := by
  rw [List.nodup_append]
  refine ⟨distinct, List.pairwise_singleton _ a, ?_⟩
  intro b held c new same
  rw [List.mem_singleton.mp new] at same
  exact unused (same ▸ held)

theorem Sound.dial (sound : Sound s) (machine : Machine) {random : Random} (unused : nonce random ∉ s.nonces) :
    Sound { s with dials := s.dials ++ [{ machine := machine, random := random }] } where
  short := sound.short
  dialNonces := by
    rw [List.map_append]
    exact nodup_concat sound.dialNonces fun held => unused (List.mem_append_left _ held)
  acceptNonces := sound.acceptNonces
  dials := by
    intro d held
    rcases List.mem_append.mp held with before | new
    · exact sound.dials d before
    · rw [List.mem_singleton.mp new]
      exact { challenged := nofun, proven := nofun, linked := nofun }
  accepts := sound.accepts
  challenges := sound.challenges
  answers := by
    intro session signed
    rw [List.map_append]
    exact List.mem_append_left _ (sound.answers session signed)

theorem Sound.accept (sound : Sound s) {session : Session} (unused : session.acceptNonce ∉ s.nonces)
    (apart : session.dialer ≠ session.acceptor) (short : ∀ part ∈ session.parts acceptLabel, part.length < 2 ^ 32) :
    Sound { s with accepts := s.accepts ++ [{ session := session }], signed := session.parts acceptLabel :: s.signed } where
  short := List.forall_mem_cons.mpr ⟨short, sound.short⟩
  dialNonces := sound.dialNonces
  acceptNonces := by
    rw [List.map_append]
    exact nodup_concat sound.acceptNonces fun held => unused (List.mem_append_right _ held)
  dials := fun d held => (sound.dials d held).mono fun _ => List.mem_cons_of_mem _
  accepts := by
    intro a held
    rcases List.mem_append.mp held with before | new
    · exact (sound.accepts a before).mono fun _ => List.mem_cons_of_mem _
    · rw [List.mem_singleton.mp new]
      exact { apart := apart, challenged := List.mem_cons_self, answered := nofun, linked := nofun }
  challenges := by
    intro session' signed
    rw [List.map_append]
    rcases List.mem_cons.mp signed with same | before
    · rw [session_of_parts same]
      exact List.mem_append_right _ List.mem_cons_self
    · exact List.mem_append_left _ (sound.challenges session' before)
  answers := by
    intro session' signed
    exact sound.answers session' (signed_other (fun same => labels_differ.1 (Session.parts_injective same).1.symm) signed)

theorem Sound.prove (sound : Sound s) {i : Nat} {machine : Machine} {random : Random} {session : Session}
    (found : s.dials[i]? = some { machine := machine, random := random }) (dialer : session.dialer = machine.1)
    (dialNonce : session.dialNonce = nonce random) (apart : session.dialer ≠ session.acceptor)
    (challenged : session.parts acceptLabel ∈ s.signed) (short : ∀ part ∈ session.parts dialLabel, part.length < 2 ^ 32) :
    Sound { s with dials := s.dials.set i { machine := machine, random := random, session := some session, stage := .proven },
                   signed := session.parts dialLabel :: s.signed } where
  short := List.forall_mem_cons.mpr ⟨short, sound.short⟩
  dialNonces := by
    rw [map_set_same found]
    · exact sound.dialNonces
    · rfl
  acceptNonces := sound.acceptNonces
  dials := by
    intro d held
    rcases List.mem_or_eq_of_mem_set held with before | rfl
    · exact (sound.dials d before).mono fun _ => List.mem_cons_of_mem _
    · refine { challenged := ?_, proven := fun _ => ⟨session, rfl⟩, linked := nofun }
      intro session' known
      cases known
      exact ⟨dialer, dialNonce, apart, List.mem_cons_of_mem _ challenged⟩
  accepts := fun a held => (sound.accepts a held).mono fun _ => List.mem_cons_of_mem _
  challenges := by
    intro session' signed
    exact sound.challenges session' (signed_other (fun same => labels_differ.1 (Session.parts_injective same).1) signed)
  answers := by
    intro session' signed
    rw [List.map_set]
    rcases List.mem_cons.mp signed with same | before
    · rw [session_of_parts same]
      obtain ⟨inside, _⟩ := List.getElem?_eq_some_iff.mp found
      exact List.mem_set (by rw [List.length_map]; exact inside) _
    · refine mem_set_other (sound.answers session' before) (x := none) ?_ nofun
      rw [List.getElem?_map, found]
      rfl

theorem Sound.accepted (sound : Sound s) {j : Nat} {session : Session} (found : s.accepts[j]? = some { session := session })
    (answered : session.parts dialLabel ∈ s.signed) :
    Sound { s with accepts := s.accepts.set j { session := session, stage := .proven } } where
  short := sound.short
  dialNonces := sound.dialNonces
  acceptNonces := by
    rw [map_set_same found]
    · exact sound.acceptNonces
    · rfl
  dials := sound.dials
  accepts := by
    intro a held
    rcases List.mem_or_eq_of_mem_set held with before | rfl
    · exact sound.accepts a before
    · have own := sound.accepts _ (List.mem_of_getElem? found)
      exact { apart := own.apart, challenged := own.challenged, answered := fun _ => answered, linked := nofun }
  challenges := by
    intro session' signed
    rw [map_set_same found]
    · exact sound.challenges session' signed
    · rfl
  answers := sound.answers

theorem Sound.dialStage (sound : Sound s) {i : Nat} {d : Dialing} {stage : Stage} (found : s.dials[i]? = some d)
    (only : stage.Proven → d.stage.Proven)
    (named : ∀ name, stage = .linked name → ∃ session, d.session = some session ∧ session.acceptor = name) :
    Sound { s with dials := s.dials.set i { d with stage := stage } } where
  short := sound.short
  dialNonces := by
    rw [map_set_same found]
    · exact sound.dialNonces
    · rfl
  acceptNonces := sound.acceptNonces
  dials := by
    intro d' held
    rcases List.mem_or_eq_of_mem_set held with before | rfl
    · exact sound.dials d' before
    · have own := sound.dials d (List.mem_of_getElem? found)
      exact { challenged := own.challenged, proven := fun proven => own.proven (only proven), linked := named }
  accepts := sound.accepts
  challenges := sound.challenges
  answers := by
    intro session signed
    rw [map_set_same found]
    · exact sound.answers session signed
    · rfl

theorem Sound.acceptStage (sound : Sound s) {j : Nat} {a : Accepting} {stage : Stage} (found : s.accepts[j]? = some a)
    (only : stage.Proven → a.stage.Proven) (named : ∀ name, stage = .linked name → a.session.dialer = name) :
    Sound { s with accepts := s.accepts.set j { a with stage := stage } } where
  short := sound.short
  dialNonces := sound.dialNonces
  acceptNonces := by
    rw [map_set_same found]
    · exact sound.acceptNonces
    · rfl
  dials := sound.dials
  accepts := by
    intro a' held
    rcases List.mem_or_eq_of_mem_set held with before | rfl
    · exact sound.accepts a' before
    · have own := sound.accepts a (List.mem_of_getElem? found)
      exact { apart := own.apart, challenged := own.challenged, answered := fun proven => own.answered (only proven),
              linked := named }
  challenges := by
    intro session signed
    rw [map_set_same found]
    · exact sound.challenges session signed
    · rfl
  answers := sound.answers

theorem Sound.sign (sound : Sound s) {request : SignedRequest}
    (labelled : request.label = utf8 forwardLabel ∨ request.label = utf8 controlLabel) :
    Sound { s with signed := request.parts :: s.signed } where
  short := List.forall_mem_cons.mpr ⟨request.short, sound.short⟩
  dialNonces := sound.dialNonces
  acceptNonces := sound.acceptNonces
  dials := fun d held => (sound.dials d held).mono fun _ => List.mem_cons_of_mem _
  accepts := fun a held => (sound.accepts a held).mono fun _ => List.mem_cons_of_mem _
  challenges := by
    intro session signed
    exact sound.challenges session (signed_other (request_parts labelled List.mem_cons_self session) signed)
  answers := by
    intro session signed
    exact sound.answers session
      (signed_other (request_parts labelled (List.mem_cons_of_mem _ List.mem_cons_self) session) signed)

theorem Sound.change (sound : Sound s) (change : Change s s') : Sound s' := by
  cases change with
  | nothing => exact sound
  | dials machine random unused => exact sound.dial machine unused
  | accepts session unused apart short => exact sound.accept unused apart short
  | proves i machine random session found dialer dialNonce apart challenged short =>
      exact sound.prove found dialer dialNonce apart challenged short
  | accepted j session found answered => exact sound.accepted found answered
  | dialStage i d stage found only named => exact sound.dialStage found only named
  | acceptStage j a stage found only named => exact sound.acceptStage found only named
  | signs request labelled => exact sound.sign labelled

theorem sound_of_stepped (reached : Stepped (State.step hmac) (Secure hmac) {} s) : Sound s :=
  reached.invariant sound_initial fun _ _ _ secure sound taken => sound.change (step_change sound secure taken)

/-! ### Agreement -/

/-- Of two entries with one value of what is distinct there is one. -/
theorem same_index {α β : Type} {f : α → β} {l : List α} (distinct : (l.map f).Nodup) {i j : Nat} {x y : α}
    (first : l[i]? = some x) (second : l[j]? = some y) (same : f x = f y) : i = j := by
  obtain ⟨inside, _⟩ := List.getElem?_eq_some_iff.mp first
  have inside' : i < (l.map f).length := by rwa [List.length_map]
  apply (List.getElem?_inj inside' distinct).mp
  rw [List.getElem?_map, List.getElem?_map, first, second, Option.map_some, Option.map_some, same]

/-- A session has one connection on each side, and its sides are two machines. -/
structure Paired (s : State) (session : Session) (i j : Nat) : Prop where
  dialed : ∃ d, s.dials[i]? = some d ∧ d.session = some session ∧ d.machine.1 = session.dialer
  answered : ∃ a, s.accepts[j]? = some a ∧ a.session = session
  apart : session.dialer ≠ session.acceptor
  oneDial : ∀ (i' : Nat) (d : Dialing), s.dials[i']? = some d → d.session = some session → i' = i
  oneAccept : ∀ (j' : Nat) (a : Accepting), s.accepts[j']? = some a → a.session = session → j' = j

theorem Sound.paired (sound : Sound s) {i j : Nat} {d : Dialing} {a : Accepting} {session : Session}
    (dials : s.dials[i]? = some d) (known : d.session = some session) (accepts : s.accepts[j]? = some a)
    (same : a.session = session) : Paired s session i j := by
  obtain ⟨dialer, dialNonce, apart, _⟩ := (sound.dials d (List.mem_of_getElem? dials)).challenged session known
  refine { dialed := ⟨d, dials, known, dialer.symm⟩, answered := ⟨a, accepts, same⟩, apart := apart, oneDial := ?_,
           oneAccept := ?_ }
  · intro i' d' found known'
    have own := (sound.dials d' (List.mem_of_getElem? found)).challenged session known'
    exact same_index sound.dialNonces found dials (own.2.1.symm.trans dialNonce)
  · intro j' a' found same'
    exact same_index sound.acceptNonces found accepts (congrArg Session.acceptNonce (same'.trans same.symm))

/-- Whatever the network does, a side that counts its peer as proven shares its session with one connection of the machine
    it names and with no other, and a link is with that machine. -/
theorem links_agree (hmac : Bytes → Bytes) {s : State} (reached : Stepped (State.step hmac) (Secure hmac) {} s) :
    (∀ (j : Nat) (a : Accepting), s.accepts[j]? = some a → a.stage.Proven →
      (∃ i, Paired s a.session i j) ∧ ∀ name, a.stage = .linked name → name = a.session.dialer) ∧
    ∀ (i : Nat) (d : Dialing), s.dials[i]? = some d → d.stage.Proven → ∃ session, d.session = some session ∧
      (∃ j, Paired s session i j) ∧ ∀ name, d.stage = .linked name → name = session.acceptor := by
  have sound := sound_of_stepped reached
  constructor
  · intro j a found proven
    have own := sound.accepts a (List.mem_of_getElem? found)
    obtain ⟨d, listed, known⟩ := List.mem_map.mp (sound.answers a.session (own.answered proven))
    obtain ⟨i, dials⟩ := List.getElem?_of_mem listed
    exact ⟨⟨i, sound.paired dials known found rfl⟩, fun name linked => (own.linked name linked).symm⟩
  · intro i d found proven
    have own := sound.dials d (List.mem_of_getElem? found)
    obtain ⟨session, known⟩ := own.proven proven
    obtain ⟨a, listed, same⟩ := List.mem_map.mp (sound.challenges session (own.challenged session known).2.2.2)
    obtain ⟨j, accepts⟩ := List.getElem?_of_mem listed
    refine ⟨session, known, ⟨j, sound.paired found known accepts same⟩, ?_⟩
    intro name linked
    obtain ⟨session', known', named⟩ := own.linked name linked
    cases known.symm.trans known'
    exact named.symm

end Runs

namespace Sample

/-- `m1` dials `m2`. -/
def m1 : Machine := ⟨"m1".toList, by decide +kernel⟩
def m2 : Machine := ⟨"m2".toList, by decide +kernel⟩
def first : Random := ⟨List.replicate 16 0, rfl⟩
def second : Random := ⟨List.replicate 16 17, rfl⟩
def session : Session := ⟨"m1".toList, "m2".toList, nonce first, nonce second⟩

def acceptTag : Bytes :=
  [67, 78, 218, 95, 165, 238, 38, 69, 74, 54, 64, 197, 130, 128, 198, 164, 104, 49, 15, 124, 251, 62, 156, 205, 2,
    209, 42, 9, 226, 10, 79, 17]

def dialTag : Bytes :=
  [67, 227, 246, 237, 244, 227, 189, 170, 190, 143, 130, 84, 80, 149, 115, 10, 161, 197, 69, 248, 92, 55, 255, 59,
    233, 237, 135, 204, 25, 38, 61, 200]

/-- HMAC-SHA256 with the key `secret`, of what both sides sign; other messages have another tag. -/
def hmac (bytes : Bytes) : Bytes :=
  if bytes = message (session.parts acceptLabel) then acceptTag
  else if bytes = message (session.parts dialLabel) then dialTag
  else List.replicate 32 0

def challenge : Bytes :=
  utf8 ("OPENTUNNEL-MESH/2 m2 ".toList ++ (nonce second ++ ' ' :: (proofOf hmac (session.parts acceptLabel) ++ ['\n'])))

def answer : Bytes := utf8 (proofOf hmac (session.parts dialLabel) ++ ['\n'])

def dialed : State := { dials := [{ machine := m1, random := first }] }

def greeted : State := { dialed with accepts := [{ session := session }], signed := [session.parts acceptLabel] }

def answered : State :=
  { greeted with dials := [{ machine := m1, random := first, session := some session, stage := .proven }],
                 signed := [session.parts dialLabel, session.parts acceptLabel] }

def finished : State := { answered with accepts := [{ session := session, stage := .proven }] }

theorem hmac_cases (bytes : Bytes) : bytes = message (session.parts acceptLabel) ∧ hmac bytes = acceptTag ∨
    bytes = message (session.parts dialLabel) ∧ hmac bytes = dialTag ∨ hmac bytes = List.replicate 32 0 := by
  unfold hmac
  split
  · rename_i is
    exact Or.inl ⟨is, rfl⟩
  · split
    · rename_i is
      exact Or.inr (Or.inl ⟨is, rfl⟩)
    · exact Or.inr (Or.inr rfl)

theorem reached : Stepped (State.step hmac) (Secure hmac) {} finished := by
  have dials : Stepped (State.step hmac) (Secure hmac) {} dialed := .one (.dial m1 first) ⟨nofun, trivial⟩ rfl
  have unused : nonce second ∉ dialed.nonces := by decide +kernel
  have fresh : Secure hmac (.greeted m2 second [⟨greeting m1 (nonce first), by decide +kernel⟩]) dialed := ⟨unused, trivial⟩
  have read : dial hmac m1 (nonce first) challenge = .ok (session, answer, []) := by decide +kernel
  have challenged : Secure hmac (.answered 0 challenge) greeted := by
    refine ⟨trivial, ?_⟩
    intro d found session' written rest done
    cases found
    cases read.symm.trans done
    exact ⟨_, List.mem_cons_self, rfl⟩
  have proved : Secure hmac (.finished 0 answer) answered := by
    refine ⟨trivial, ?_⟩
    intro a found rest done
    cases found
    exact ⟨_, List.mem_cons_self, rfl⟩
  have greets := dials.step _ fresh (by decide +kernel : _ = some greeted)
  have answers := greets.step _ challenged (by decide +kernel : _ = some answered)
  exact answers.step _ proved (by decide +kernel : _ = some finished)

end Sample

/-- The links of a handshake that nobody disturbed. -/
theorem links_agree_sample : (∃ i, Paired Sample.finished Sample.session i 0) ∧ ∃ j, Paired Sample.finished Sample.session 0 j := by
  obtain ⟨accepts, dials⟩ := links_agree Sample.hmac Sample.reached
  obtain ⟨session, known, paired, _⟩ := dials 0 _ rfl trivial
  cases known
  exact ⟨(accepts 0 _ rfl trivial).1, paired⟩

/-! ### Left alone -/

section Alone

variable {hmac : Bytes → Bytes}

theorem readLine_line {text : List Char} (chars : ∀ c ∈ text, 32 ≤ c.toNat ∧ c.toNat ≤ 126) (short : text.length < maxLine)
    (rest : Bytes) : readLine (utf8 text ++ 10 :: rest) = .ok (text, rest) := by
  obtain ⟨length, clear⟩ := Forward.Fields.line_bytes chars
  obtain ⟨more, room⟩ : ∃ more, maxLine = (utf8 text).length + (more + 1) := ⟨maxLine - text.length - 1, by omega⟩
  have taken : (utf8 text ++ 10 :: rest).take maxLine = utf8 text ++ 10 :: rest.take more := by
    rw [room, List.take_length_add_append, List.take_succ_cons]
  have behind : (utf8 text ++ 10 :: rest).drop ((utf8 text).length + 1) = rest := by
    rw [List.drop_length_add_append, List.drop_succ_cons, List.drop_zero]
  unfold readLine
  rw [taken, Forward.findIdx_newline clear]
  simp only [List.take_left, fromUtf8_utf8, behind]

theorem word_chars {most : Nat} {text : List Char} (word : Word most text) : ∀ c ∈ text, 32 ≤ c.toNat ∧ c.toNat ≤ 126 := by
  intro c held
  have bounds := word.plain c held
  omega

theorem word_nonce (random : Random) : Word 32 (nonce random) := Forward.word_hex (Nat.le_of_eq random.2)

theorem word_proof (size : ∀ bytes, (hmac bytes).length = 32) (parts : List Bytes) : Word 64 (proofOf hmac parts) :=
  Forward.word_hex (Nat.le_of_eq (size _))

theorem valid_nonce (random : Random) : validNonce (nonce random) = true := by
  have digit : ∀ n < 16, (hexDigit (UInt8.ofNat (Nat.digitChar n).toNat)).isSome = true := by decide +kernel
  have length := nonce_length random
  have all : (utf8 (nonce random)).all fun byte => (hexDigit byte).isSome := by
    rw [nonce, Forward.PlainText.utf8 (Forward.hex_chars _), List.all_eq_true]
    intro byte held
    obtain ⟨c, listed, rfl⟩ := List.mem_map.mp held
    obtain ⟨value, _, here⟩ := List.mem_flatMap.mp listed
    have small := value.toNat_lt
    simp only [List.mem_cons, List.not_mem_nil, or_false] at here
    rcases here with rfl | rfl
    · exact digit _ (by omega)
    · exact digit _ (by omega)
  simp [validNonce, length, all]

theorem proves_own (size : ∀ bytes, (hmac bytes).length = 32) (parts : List Bytes) :
    proves hmac parts (utf8 (proofOf hmac parts)) = true :=
  proves_iff.mpr (Forward.decodeHex_hex (Nat.le_trans (Nat.le_of_eq (size _)) (by decide)))

/-- The words of a line, joined with spaces. -/
theorem splitOn_words {words : List (List Char)} (plain : ∀ word ∈ words, PlainText word) (some_ : words ≠ []) :
    ([' '].intercalate words).splitOn ' ' = words :=
  List.splitOn_intercalate ' ' (fun word held => Forward.PlainText.noSpace (plain word held)) some_

/-- The text of the magic. -/
def magicText : List Char := "OPENTUNNEL-MESH/2 ".toList

theorem magic_chars : ∀ c ∈ magicText, 32 ≤ c.toNat ∧ c.toNat ≤ 126 := by
  have each : magicText.all (fun c => decide (32 ≤ c.toNat ∧ c.toNat ≤ 126)) = true := by decide
  intro c held
  exact of_decide_eq_true (List.all_eq_true.mp each c held)

theorem newline_byte : utf8 ['\n'] = [10] := by decide

variable {dialer acceptor : Machine}

theorem greeting_line (own : List Char) : greeting dialer own = utf8 (magicText ++ (dialer.1 ++ ' ' :: own)) ++ [10] := by
  have joined : magicText ++ (dialer.1 ++ ' ' :: (own ++ ['\n'])) = magicText ++ (dialer.1 ++ ' ' :: own) ++ ['\n'] := by simp
  rw [← newline_byte, ← utf8_append, ← joined]
  exact (utf8_append _ _).symm

theorem meshGreeting_line {text : List Char} (chars : ∀ c ∈ text, 32 ≤ c.toNat ∧ c.toNat ≤ 126) (short : text.length ≤ 512)
    {reads : List Chunk} (some_ : ∀ read ∈ reads, read.1 ≠ []) {behind : Bytes}
    (is : (reads.map Subtype.val).flatten = utf8 (magicText ++ text) ++ 10 :: behind) :
    ∃ rest reads', meshGreeting reads = some (text, rest, reads') ∧ rest ++ (reads'.map Subtype.val).flatten = behind := by
  have eighteen : magicText.length = 18 := by decide
  have whole : ∀ c ∈ magicText ++ text, 32 ≤ c.toNat ∧ c.toNat ≤ 126 := List.forall_mem_append.mpr ⟨magic_chars, chars⟩
  obtain ⟨length, clear⟩ := Forward.Fields.line_bytes whole
  have fits : (utf8 (magicText ++ text)).length < Forward.maxHeader := by
    rw [length, List.length_append, eighteen]
    unfold Forward.maxHeader
    omega
  obtain ⟨found, rest, done, lineEnd, buffer, kept⟩ := Forward.readHeader_line clear fits some_ (by decide : ([] : Bytes).length < 2 ^ 32) is
  have front : meshMagic.isPrefixOf found.buffer = true := by
    rw [buffer, utf8_append, List.append_assoc]
    exact List.isPrefixOf_iff_prefix.mpr (List.prefix_append _ _)
  have line : (found.buffer.take found.lineEnd).drop meshMagic.length = utf8 text := by
    rw [buffer, lineEnd, List.take_left, utf8_append]
    exact List.drop_left
  have left : found.buffer.drop (found.lineEnd + 1) = rest := by
    rw [buffer, lineEnd, List.drop_length_add_append, List.drop_succ_cons, List.drop_zero]
  refine ⟨rest, found.reads, ?_, kept⟩
  unfold meshGreeting
  rw [done]
  simp only [if_pos front, line, left, fromUtf8_utf8, Option.map_some]

theorem id_chars {id own : List Char} (valid : validId id = true) {most : Nat} (word : Word most own) :
    (∀ c ∈ id ++ ' ' :: own, 32 ≤ c.toNat ∧ c.toNat ≤ 126) ∧ (id ++ ' ' :: own).length ≤ 192 + most := by
  have first := Forward.word_id valid
  constructor
  · rw [List.forall_mem_append, List.forall_mem_cons]
    exact ⟨word_chars first, by decide, word_chars word⟩
  · have short := first.short
    have short' := word.short
    rw [List.length_append, List.length_cons]
    omega

/-- The other side's greeting is answered with a challenge. -/
theorem accept_greeting {own : List Char} (valid : validId dialer.1 = true) (apart : dialer.1 ≠ acceptor.1) (random : Random) :
    accept hmac acceptor own (dialer.1 ++ ' ' :: nonce random) =
      .ok (⟨dialer.1, acceptor.1, nonce random, own⟩,
        meshMagic ++ utf8 (acceptor.1 ++ ' ' :: (own ++ ' ' ::
          (proofOf hmac ((⟨dialer.1, acceptor.1, nonce random, own⟩ : Session).parts acceptLabel) ++ ['\n'])))) := by
  have words : (dialer.1 ++ ' ' :: nonce random).splitOn ' ' = [dialer.1, nonce random] := by
    have plain : ∀ word ∈ [dialer.1, nonce random], PlainText word := by
      simp only [List.mem_cons, List.not_mem_nil, or_false, forall_eq_or_imp, forall_eq]
      exact ⟨(Forward.word_id valid).plain, (word_nonce random).plain⟩
    rw [← splitOn_words plain (List.cons_ne_nil _ _)]
    simp [List.intercalate_cons_cons]
  unfold accept
  rw [words]
  simp [valid, valid_nonce random, apart]

/-- The challenge is answered with the dialer's proof. -/
theorem dial_challenge (size : ∀ bytes, (hmac bytes).length = 32) (valid : validId acceptor.1 = true)
    (apart : dialer.1 ≠ acceptor.1) (own : List Char) (random : Random) (rest : Bytes) :
    dial hmac dialer own (meshMagic ++ utf8 (acceptor.1 ++ ' ' :: (nonce random ++ ' ' ::
        (proofOf hmac ((⟨dialer.1, acceptor.1, own, nonce random⟩ : Session).parts acceptLabel) ++ ['\n']))) ++ rest) =
      .ok (⟨dialer.1, acceptor.1, own, nonce random⟩,
        utf8 (proofOf hmac ((⟨dialer.1, acceptor.1, own, nonce random⟩ : Session).parts dialLabel) ++ ['\n']), rest) := by
  have proof := word_proof size ((⟨dialer.1, acceptor.1, own, nonce random⟩ : Session).parts acceptLabel)
  have proven := proves_own size ((⟨dialer.1, acceptor.1, own, nonce random⟩ : Session).parts acceptLabel)
  generalize proofOf hmac ((⟨dialer.1, acceptor.1, own, nonce random⟩ : Session).parts acceptLabel) = proof_ at proof proven ⊢
  have plain : ∀ word ∈ [acceptor.1, nonce random, proof_], PlainText word := by
    simp only [List.mem_cons, List.not_mem_nil, or_false, forall_eq_or_imp, forall_eq]
    exact ⟨(Forward.word_id valid).plain, (word_nonce random).plain, proof.plain⟩
  have words : (acceptor.1 ++ ' ' :: (nonce random ++ ' ' :: proof_)).splitOn ' ' = [acceptor.1, nonce random, proof_] := by
    rw [← splitOn_words plain (List.cons_ne_nil _ _)]
    simp [List.intercalate_cons_cons]
  have joined : meshMagic ++ utf8 (acceptor.1 ++ ' ' :: (nonce random ++ ' ' :: (proof_ ++ ['\n']))) ++ rest =
      utf8 (magicText ++ (acceptor.1 ++ ' ' :: (nonce random ++ ' ' :: proof_))) ++ 10 :: rest := by
    have magic : meshMagic = utf8 magicText := rfl
    rw [magic, ← utf8_append]
    have moved : magicText ++ (acceptor.1 ++ ' ' :: (nonce random ++ ' ' :: (proof_ ++ ['\n']))) =
        magicText ++ (acceptor.1 ++ ' ' :: (nonce random ++ ' ' :: proof_)) ++ ['\n'] := by simp
    rw [moved, utf8_append _ ['\n'], newline_byte, List.append_assoc]
    rfl
  have chars : ∀ c ∈ magicText ++ (acceptor.1 ++ ' ' :: (nonce random ++ ' ' :: proof_)), 32 ≤ c.toNat ∧ c.toNat ≤ 126 := by
    rw [List.forall_mem_append, List.forall_mem_append, List.forall_mem_cons, List.forall_mem_append, List.forall_mem_cons]
    exact ⟨magic_chars, word_chars (Forward.word_id valid), by decide, word_chars (word_nonce random), by decide, word_chars proof⟩
  have short : (magicText ++ (acceptor.1 ++ ' ' :: (nonce random ++ ' ' :: proof_))).length < maxLine := by
    have first := (Forward.word_id valid).short
    have second := (word_nonce random).short
    have third := proof.short
    have eighteen : magicText.length = 18 := by decide
    simp only [List.length_append, List.length_cons]
    unfold maxLine
    omega
  have front : meshMagic.isPrefixOf (utf8 (magicText ++ (acceptor.1 ++ ' ' :: (nonce random ++ ' ' :: proof_)))) = true := by
    rw [utf8_append]
    exact List.isPrefixOf_iff_prefix.mpr (List.prefix_append _ _)
  have fields : answerFields (magicText ++ (acceptor.1 ++ ' ' :: (nonce random ++ ' ' :: proof_))) =
      some (acceptor.1, nonce random, proof_) := by
    have magicLength : meshMagic.length = magicText.length := by decide
    unfold answerFields
    rw [if_pos front, magicLength, List.drop_left, words]
  unfold dial
  rw [joined, readLine_line chars short]
  simp [front, fields, valid, valid_nonce random, proven, apart.symm]

/-- Two machines that nobody disturbs are linked, however the greeting arrives, and what is sent behind a line is kept. -/
theorem handshake_completes (size : ∀ bytes, (hmac bytes).length = 32) {dialer acceptor : Machine}
    (valid : validId dialer.1 = true) (valid' : validId acceptor.1 = true) (apart : dialer.1 ≠ acceptor.1)
    (random random' : Random) : ∃ session challenge answer,
      (∀ (reads : List Chunk) (behind : Bytes), (∀ read ∈ reads, read.1 ≠ []) →
        (reads.map Subtype.val).flatten = greeting dialer (nonce random) ++ behind →
        ∃ text rest reads', meshGreeting reads = some (text, rest, reads') ∧ rest ++ (reads'.map Subtype.val).flatten = behind ∧
          accept hmac acceptor (nonce random') text = .ok (session, challenge)) ∧
      (∀ behind, dial hmac dialer (nonce random) (challenge ++ behind) = .ok (session, answer, behind)) ∧
      ∀ behind, accepted hmac session (answer ++ behind) = .ok behind := by
  refine ⟨_, _, _, ?_, fun behind => dial_challenge size valid' apart (nonce random) random' behind, ?_⟩
  · intro reads behind some_ is
    obtain ⟨chars, short⟩ := id_chars valid (word_nonce random)
    rw [greeting_line, List.append_assoc] at is
    obtain ⟨rest, reads', read, kept⟩ := meshGreeting_line chars (Nat.le_trans short (by decide)) some_ is
    exact ⟨_, rest, reads', read, kept, accept_greeting valid apart random⟩
  · intro behind
    have word := word_proof size ((⟨dialer.1, acceptor.1, nonce random, nonce random'⟩ : Session).parts dialLabel)
    have short : _ < maxLine := Nat.lt_of_le_of_lt word.short (by decide)
    unfold accepted
    rw [utf8_append, newline_byte, List.append_assoc, List.singleton_append, readLine_line (word_chars word) short]
    simp [proves_own size]

end Alone

theorem Sample.hmac_size (bytes : Bytes) : (Sample.hmac bytes).length = 32 := by
  rcases Sample.hmac_cases bytes with ⟨_, is⟩ | ⟨_, is⟩ | is
  · rw [is]
    rfl
  · rw [is]
    rfl
  · rw [is]
    rfl

theorem handshake_completes_sample : ∃ session challenge answer,
    (∀ (reads : List Chunk) (behind : Bytes), (∀ read ∈ reads, read.1 ≠ []) →
      (reads.map Subtype.val).flatten = greeting Sample.m1 (nonce Sample.first) ++ behind →
      ∃ text rest reads', meshGreeting reads = some (text, rest, reads') ∧ rest ++ (reads'.map Subtype.val).flatten = behind ∧
        accept Sample.hmac Sample.m2 (nonce Sample.second) text = .ok (session, challenge)) ∧
    (∀ behind, dial Sample.hmac Sample.m1 (nonce Sample.first) (challenge ++ behind) = .ok (session, answer, behind)) ∧
    ∀ behind, accepted Sample.hmac session (answer ++ behind) = .ok behind :=
  handshake_completes Sample.hmac_size (by decide +kernel) (by decide +kernel) (by decide) Sample.first Sample.second

end OpenTunnel.Handshake
