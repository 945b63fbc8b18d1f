/-
Module: OpenTunnel.Proofs.PeerAuth
Layer: Proofs
Purpose: No signed request is accepted twice. The memory holds the nonce of every accepted request whose timestamp is
  not older than the window, so a second acceptance would need another timestamp under the same proof, and different
  parts are different messages.
Imports: OpenTunnel.Tasks.Steps, OpenTunnel.Model.PeerAuth
Trusted boundary: none (fully proved)
Main exports: message_injective, PeerAuth.Sound, PeerAuth.accepted_once
Open obligations: none
-/
import OpenTunnel.Tasks.Steps
import OpenTunnel.Model.PeerAuth

namespace OpenTunnel

open Tasks

/-! ### The signed message -/

theorem be32_injective {m n : Nat} (small : m < 2 ^ 32) (small' : n < 2 ^ 32) (same : be32 m = be32 n) : m = n := by
  simp only [be32, List.cons.injEq, ← UInt8.toNat_inj, UInt8.toNat_ofNat'] at same
  omega

/-- Parts are told apart by their lengths. -/
theorem message_injective {ps qs : List Bytes} (short : ∀ part ∈ ps, part.length < 2 ^ 32)
    (short' : ∀ part ∈ qs, part.length < 2 ^ 32) (same : message ps = message qs) : ps = qs := by
  induction ps generalizing qs with
  | nil =>
      cases qs with
      | nil => rfl
      | cons q qs => simp [message, be32] at same
  | cons p ps ih =>
      cases qs with
      | nil => simp [message, be32] at same
      | cons q qs =>
          simp only [List.mem_cons, forall_eq_or_imp] at short short'
          simp only [message, List.append_assoc] at same
          obtain ⟨lengths, behind⟩ := List.append_inj same rfl
          obtain ⟨rfl, rest⟩ := List.append_inj behind (be32_injective short.1 short'.1 lengths)
          rw [ih short.2 short'.2 rest]

/-- Two messages with one MAC. -/
def Collision (hmac : Bytes → Bytes) (first second : Bytes) : Prop := first ≠ second ∧ hmac first = hmac second

theorem proves_iff {hmac : Bytes → Bytes} {parts : List Bytes} {proof : Bytes} :
    proves hmac parts proof = true ↔ decodeHex proof = some (hmac (message parts)) := by
  unfold proves
  split
  · rename_i undecoded
    simp [undecoded]
  · rename_i tag decoded
    simp [decoded]

/-- Different parts have different messages, and a proof for both would be a collision of the MAC. -/
theorem message_tells_parts {ps qs : List Bytes} (short : ∀ part ∈ ps, part.length < 2 ^ 32)
    (short' : ∀ part ∈ qs, part.length < 2 ^ 32) :
    (message ps = message qs ↔ ps = qs) ∧
      ∀ (hmac : Bytes → Bytes) (proof : Bytes), ps ≠ qs → proves hmac ps proof = true → proves hmac qs proof = true →
        Collision hmac (message ps) (message qs) := by
  refine ⟨⟨message_injective short short', congrArg message⟩, fun hmac proof other first second => ?_⟩
  have tag := (proves_iff.mp first).symm.trans (proves_iff.mp second)
  exact ⟨fun same => other (message_injective short short' same), Option.some.inj tag⟩

/-- The first part ends where the second one starts. -/
theorem message_tells_parts_moved :
    (message [[1, 2], [3]] = message [[1], [2, 3]] ↔ [[1, 2], [3]] = ([[1], [2, 3]] : List Bytes)) ∧
      ∀ (hmac : Bytes → Bytes) (proof : Bytes), ([[1, 2], [3]] : List Bytes) ≠ [[1], [2, 3]] →
        proves hmac [[1, 2], [3]] proof = true → proves hmac [[1], [2, 3]] proof = true →
        Collision hmac (message [[1, 2], [3]]) (message [[1], [2, 3]]) :=
  message_tells_parts (by decide) (by decide)

theorem SignedRequest.parts_of_message {a b : SignedRequest} (same : message a.parts = message b.parts) :
    a.parts = b.parts :=
  message_injective a.short b.short same

theorem fresh_iff {signed now : Nat} :
    fresh signed now = true ↔ signed ≤ now + maxSkewMs ∧ now ≤ signed + maxSkewMs := by
  simp only [fresh, decide_eq_true_eq]
  omega

/-! ### What a call does -/

section Calls

variable {hmac : Bytes → Bytes} {machineId : Bytes} {s s' : PeerAuth} {call : VerifyCall}

/-- What the memory keeps of an accepted request. -/
def AcceptedRequest.entry (a : AcceptedRequest) : Bytes × Nat := (a.request.nonce, a.signed)

/-- What an accepted request was checked for. -/
structure AcceptedRequest.Checked (hmac : Bytes → Bytes) (machineId : Bytes) (a : AcceptedRequest) : Prop where
  addressed : a.request.receiver = machineId
  parsed : parseU64 a.request.timestamp = some a.signed
  inWindow : fresh a.signed a.now = true
  proven : decodeHex a.request.proof = some (hmac (message a.request.parts))

/-- Only a request that passes every check, with a nonce that is not in the memory, is accepted; otherwise the memory
    is left, or forgets. -/
theorem verify_cases (hmac : Bytes → Bytes) (machineId : Bytes) (request : SignedRequest) (now : Nat) (seen : Nonces) :
    (∃ signed, parseU64 request.timestamp = some signed ∧
      AcceptedRequest.Checked hmac machineId { request := request, now := now, signed := signed } ∧
      request.nonce ∉ (forgetNonces seen now).map (·.1) ∧
      verifyRequest hmac machineId request now seen =
        (.ok (), (request.nonce, signed) :: forgetNonces seen now)) ∨
    ∃ refusal seen', verifyRequest hmac machineId request now seen = (.error refusal, seen') ∧
      (seen' = seen ∨ seen' = forgetNonces seen now) := by
  by_cases addressed : request.receiver = machineId
  · cases parsed : parseU64 request.timestamp with
    | none => exact Or.inr ⟨.timestamp, seen, by simp [verifyRequest, addressed, parsed], Or.inl rfl⟩
    | some signed =>
        by_cases inWindow : fresh signed now = true
        · by_cases proven : decodeHex request.proof = some (hmac (message request.parts))
          · have proves_ : proves hmac request.parts request.proof = true := by simp [proves, proven]
            by_cases used : request.nonce ∈ (forgetNonces seen now).map (·.1)
            · exact Or.inr ⟨.replayed, forgetNonces seen now,
                by simp [verifyRequest, addressed, parsed, inWindow, proves_, firstUse, used], Or.inr rfl⟩
            · exact Or.inl ⟨signed, rfl, ⟨addressed, parsed, inWindow, proven⟩, used,
                by simp [verifyRequest, addressed, parsed, inWindow, proves_, firstUse, used]⟩
          · have unproven : proves hmac request.parts request.proof = false := by
              unfold proves
              cases decoded : decodeHex request.proof with
              | none => rfl
              | some tag => simpa [decoded] using proven
            exact Or.inr ⟨.badSignature, seen, by simp [verifyRequest, addressed, parsed, inWindow, unproven],
              Or.inl rfl⟩
        · exact Or.inr ⟨.stale now signed, seen, by simp [verifyRequest, addressed, parsed, inWindow], Or.inl rfl⟩
  · exact Or.inr ⟨.anotherMachine, seen, by simp [verifyRequest, addressed], Or.inl rfl⟩

theorem PeerAuth.step_cases (taken : PeerAuth.step hmac machineId call s = some s') :
    s'.clock = call.now ∧
    ((s'.accepted = s.accepted ∧ (s'.seen = s.seen ∨ s'.seen = forgetNonces s.seen call.now)) ∨
      ∃ a : AcceptedRequest, a.now = call.now ∧ a.Checked hmac machineId ∧
        a.request.nonce ∉ (forgetNonces s.seen call.now).map (·.1) ∧
        s'.seen = a.entry :: forgetNonces s.seen call.now ∧ s'.accepted = a :: s.accepted) := by
  rcases verify_cases hmac machineId call.request call.now s.seen with
    ⟨signed, parsed, checked, unused, verified⟩ | ⟨refusal, seen', verified, left⟩
  · simp only [PeerAuth.step, verified, Option.some.injEq] at taken
    subst taken
    exact ⟨rfl, Or.inr ⟨_, rfl, by simpa [parsed] using checked, unused, by simp [AcceptedRequest.entry, parsed], rfl⟩⟩
  · simp only [PeerAuth.step, verified, Option.some.injEq] at taken
    subst taken
    exact ⟨rfl, Or.inl ⟨rfl, left⟩⟩

/-! ### The memory -/

namespace PeerAuth

/-- The accepted requests whose timestamps are in the window now. -/
def inWindow (s : PeerAuth) (now : Nat) : List AcceptedRequest := s.accepted.filter fun a => fresh a.signed now

/-- The clock does not go back, and fewer nonces than the memory's capacity are in the window. -/
def Orderly (call : VerifyCall) (s : PeerAuth) : Prop :=
  s.clock ≤ call.now ∧ (s.inWindow call.now).length < maxNonces

instance (call : VerifyCall) (s : PeerAuth) : Decidable (Orderly call s) :=
  inferInstanceAs (Decidable (_ ∧ _))

structure Sound (hmac : Bytes → Bytes) (machineId : Bytes) (s : PeerAuth) : Prop where
  apart : (s.seen.map (·.1)).Nodup
  stored : ∀ entry ∈ s.seen, ∃ a ∈ s.accepted, a.entry = entry
  checked : ∀ a ∈ s.accepted, a.Checked hmac machineId
  past : ∀ a ∈ s.accepted, a.now ≤ s.clock
  kept : ∀ a ∈ s.accepted, s.clock ≤ a.signed + maxSkewMs → a.entry ∈ s.seen
  single : s.accepted.Pairwise fun a b => a.entry ≠ b.entry

namespace Sound

theorem initial : Sound hmac machineId {} where
  apart := List.nodup_nil
  stored := by simp
  checked := by simp
  past := by simp
  kept := by simp
  single := List.Pairwise.nil

theorem distinct (sound : Sound hmac machineId s) : s.seen.Nodup :=
  List.Pairwise.of_map _ (fun _ _ apart same => apart (congrArg Prod.fst same)) sound.apart

/-- What is left of the memory after pruning by age is in the window: an accepted timestamp is not ahead of the clock
    by more than the skew, then or later. -/
theorem recent_le (sound : Sound hmac machineId s) (later : s.clock ≤ call.now) :
    (s.seen.filter fun entry => call.now - maxSkewMs ≤ entry.2).length ≤ (s.inWindow call.now).length := by
  have inside : ∀ entry ∈ s.seen.filter fun entry => call.now - maxSkewMs ≤ entry.2,
      entry ∈ (s.inWindow call.now).map AcceptedRequest.entry := by
    intro entry held
    obtain ⟨held, recent⟩ := List.mem_filter.mp held
    obtain ⟨a, accepted, rfl⟩ := sound.stored entry held
    have recent : call.now - maxSkewMs ≤ a.signed := of_decide_eq_true recent
    have ahead := (fresh_iff.mp (sound.checked a accepted).inWindow).1
    have past := sound.past a accepted
    refine List.mem_map.mpr ⟨a, List.mem_filter.mpr ⟨accepted, fresh_iff.mpr ?_⟩, rfl⟩
    omega
  have bound := List.Nodup.length_le_of_subset (sound.distinct.filter _) inside
  rwa [List.length_map] at bound

/-- The memory forgets nothing but what is out of the window. -/
theorem forgets (sound : Sound hmac machineId s) (orderly : Orderly call s) :
    forgetNonces s.seen call.now = s.seen ∨
      forgetNonces s.seen call.now = s.seen.filter fun entry => call.now - maxSkewMs ≤ entry.2 := by
  have room := Nat.lt_of_le_of_lt (sound.recent_le orderly.1) orderly.2
  simp only [forgetNonces]
  split
  · rw [if_neg (Nat.not_le.mpr room)]
    exact Or.inr rfl
  · exact Or.inl rfl

theorem forgotten_sublist (sound : Sound hmac machineId s) (orderly : Orderly call s) :
    (forgetNonces s.seen call.now).Sublist s.seen := by
  rcases sound.forgets orderly with same | pruned
  · rewrite [same]
    exact List.Sublist.refl _
  · rw [pruned]
    exact List.filter_sublist

theorem kept_forgetting (sound : Sound hmac machineId s) (orderly : Orderly call s) {a : AcceptedRequest}
    (accepted : a ∈ s.accepted) (young : call.now ≤ a.signed + maxSkewMs) :
    a.entry ∈ forgetNonces s.seen call.now := by
  have held := sound.kept a accepted (Nat.le_trans orderly.1 young)
  rcases sound.forgets orderly with same | pruned
  · rwa [same]
  · rw [pruned]
    refine List.mem_filter.mpr ⟨held, decide_eq_true ?_⟩
    exact Nat.sub_le_iff_le_add.mpr young

/-- A request that is accepted has an entry that no accepted one has: that one's would be in the memory still. -/
theorem unseen (sound : Sound hmac machineId s) (orderly : Orderly call s) {a b : AcceptedRequest}
    (now : a.now = call.now) (checked : a.Checked hmac machineId)
    (unused : a.request.nonce ∉ (forgetNonces s.seen call.now).map (·.1)) (accepted : b ∈ s.accepted) :
    a.entry ≠ b.entry := by
  intro same
  have young := (fresh_iff.mp checked.inWindow).2
  rw [now, show a.signed = b.signed from congrArg Prod.snd same] at young
  have held := sound.kept_forgetting orderly accepted young
  rw [← same] at held
  exact unused (List.mem_map.mpr ⟨a.entry, held, rfl⟩)

/-- The memory is left, or forgets, while the clock goes on. -/
theorem refuse (sound : Sound hmac machineId s) (orderly : Orderly call s) (clock : s'.clock = call.now)
    (accepted : s'.accepted = s.accepted) (left : s'.seen = s.seen ∨ s'.seen = forgetNonces s.seen call.now) :
    Sound hmac machineId s' := by
  have sublist : s'.seen.Sublist s.seen := by
    rcases left with left | left
    · exact left ▸ List.Sublist.refl _
    · exact left ▸ sound.forgotten_sublist orderly
  refine ⟨sound.apart.sublist (sublist.map _), ?_, ?_, ?_, ?_, ?_⟩
  · intro entry held
    rw [accepted]
    exact sound.stored entry (sublist.subset held)
  · rw [accepted]
    exact sound.checked
  · intro a was
    rw [clock]
    exact Nat.le_trans (sound.past a (accepted ▸ was)) orderly.1
  · intro a was young
    rw [accepted] at was
    rw [clock] at young
    rcases left with left | left
    · rw [left]
      exact sound.kept a was (Nat.le_trans orderly.1 young)
    · rw [left]
      exact sound.kept_forgetting orderly was young
  · rw [accepted]
    exact sound.single

theorem accept (sound : Sound hmac machineId s) (orderly : Orderly call s) {a : AcceptedRequest}
    (clock : s'.clock = call.now) (now : a.now = call.now) (checked : a.Checked hmac machineId)
    (unused : a.request.nonce ∉ (forgetNonces s.seen call.now).map (·.1))
    (seen : s'.seen = a.entry :: forgetNonces s.seen call.now) (accepted : s'.accepted = a :: s.accepted) :
    Sound hmac machineId s' := by
  have sublist := sound.forgotten_sublist orderly
  refine ⟨?_, ?_, ?_, ?_, ?_, ?_⟩
  · rw [seen]
    exact List.nodup_cons.mpr ⟨unused, sound.apart.sublist (sublist.map _)⟩
  · intro entry held
    rw [seen] at held
    rw [accepted]
    rcases List.mem_cons.mp held with rfl | held
    · exact ⟨a, List.mem_cons_self, rfl⟩
    · obtain ⟨b, was, is⟩ := sound.stored entry (sublist.subset held)
      exact ⟨b, List.mem_cons_of_mem _ was, is⟩
  · rw [accepted]
    exact List.forall_mem_cons.mpr ⟨checked, sound.checked⟩
  · rw [accepted, clock]
    exact List.forall_mem_cons.mpr
      ⟨Nat.le_of_eq now, fun b was => Nat.le_trans (sound.past b was) orderly.1⟩
  · rw [accepted, clock, seen]
    exact List.forall_mem_cons.mpr ⟨fun _ => List.mem_cons_self, fun b was young =>
      List.mem_cons_of_mem _ (sound.kept_forgetting orderly was young)⟩
  · rw [accepted]
    exact List.pairwise_cons.mpr ⟨fun b was => sound.unseen orderly now checked unused was, sound.single⟩

theorem step (sound : Sound hmac machineId s) (orderly : Orderly call s)
    (taken : PeerAuth.step hmac machineId call s = some s') : Sound hmac machineId s' := by
  obtain ⟨clock, ⟨accepted, left⟩ | ⟨a, now, checked, unused, seen, accepted⟩⟩ := step_cases taken
  · exact sound.refuse orderly clock accepted left
  · exact sound.accept orderly clock now checked unused seen accepted

end Sound

/-! ### No request twice -/

/-- The MAC tells the messages of the accepted requests apart. -/
def Resistant (hmac : Bytes → Bytes) (s : PeerAuth) : Prop :=
  ∀ a ∈ s.accepted, ∀ b ∈ s.accepted,
    hmac (message a.request.parts) = hmac (message b.request.parts) →
      message a.request.parts = message b.request.parts

/-- A timestamp outside the window is never accepted, whatever the clock does. Where the clock does not go back and
    fewer nonces than the capacity are in the window at each call, no nonce is accepted twice with one signature. -/
theorem accepted_once (hmac : Bytes → Bytes) (machineId : Bytes) :
    (∀ s, Stepped (PeerAuth.step hmac machineId) (fun _ _ => True) {} s →
      ∀ a ∈ s.accepted, ∃ signed, parseU64 a.request.timestamp = some signed ∧ fresh signed a.now = true) ∧
    ∀ s, Stepped (PeerAuth.step hmac machineId) Orderly {} s → Resistant hmac s →
      s.accepted.Pairwise fun a b =>
        ¬ (a.request.nonce = b.request.nonce ∧ decodeHex a.request.proof = decodeHex b.request.proof) := by
  constructor
  · intro s reached
    have checked : ∀ a ∈ s.accepted, a.Checked hmac machineId := by
      refine reached.invariant (I := fun s => ∀ a ∈ s.accepted, a.Checked hmac machineId) (by simp) ?_
      intro call s s' _ holds taken
      obtain ⟨_, ⟨accepted, _⟩ | ⟨a, _, checked, _, _, accepted⟩⟩ := step_cases taken
      · rw [accepted]
        exact holds
      · rw [accepted]
        exact List.forall_mem_cons.mpr ⟨checked, holds⟩
    exact fun a accepted => ⟨a.signed, (checked a accepted).parsed, (checked a accepted).inWindow⟩
  · intro s reached resistant
    have sound : Sound hmac machineId s :=
      reached.invariant .initial fun _ _ _ orderly holds taken => holds.step orderly taken
    refine sound.single.imp_of_mem ?_
    intro a b accepted accepted' apart ⟨nonce, proof⟩
    have first := sound.checked a accepted
    have second := sound.checked b accepted'
    rw [first.proven, second.proven, Option.some.injEq] at proof
    have parts := SignedRequest.parts_of_message (resistant a accepted b accepted' proof)
    have timestamp : a.request.timestamp = b.request.timestamp := by
      simp only [SignedRequest.parts, List.cons_append, List.cons.injEq] at parts
      exact parts.2.2.2.1
    have signed := first.parsed
    rw [timestamp, second.parsed, Option.some.injEq] at signed
    exact apart (Prod.ext nonce signed.symm)

def ascii (text : String) : Bytes := text.toList.map fun c => UInt8.ofNat c.toNat

/-- Machine m2 forwards a visitor to m1. -/
def firstRequest : SignedRequest where
  label := ascii "opentunnel forward/2"
  sender := ascii "m2"
  receiver := ascii "m1"
  timestamp := ascii "100000"
  nonce := ascii "0a"
  proof := ascii "fcba229482ff8ad2b37e0e3430a3cfa4297c2d3e3f478db25c2946fc3cc69efe"
  fields := [ascii "t", ascii "r", ascii "192.0.2.1:4000"]
  short := by decide +kernel

def secondRequest : SignedRequest :=
  { firstRequest with
    nonce := ascii "0b",
    proof := ascii "c0caedd51b59d9d3f525572feb31235cd7a919e9f77463969b53279ed875c08c",
    short := by decide +kernel }

/-- The MAC of the two requests with the secret `secret`. -/
def sampleMac (message_ : Bytes) : Bytes :=
  if message_ = message firstRequest.parts then
    [252, 186, 34, 148, 130, 255, 138, 210, 179, 126, 14, 52, 48, 163, 207, 164,
    41, 124, 45, 62, 63, 71, 141, 178, 92, 41, 70, 252, 60, 198, 158, 254]
  else if message_ = message secondRequest.parts then
    [192, 202, 237, 213, 27, 89, 217, 211, 245, 37, 87, 47, 235, 49, 35, 92,
    215, 169, 25, 233, 247, 116, 99, 150, 155, 83, 39, 158, 216, 117, 192, 140]
  else List.replicate 32 0

/-- Both requests, the first once more, and the first again at the end of its window and behind it. -/
def sampleCalls : List VerifyCall :=
  [⟨firstRequest, 99000⟩, ⟨secondRequest, 99001⟩, ⟨firstRequest, 99002⟩, ⟨firstRequest, 130000⟩,
    ⟨firstRequest, 130001⟩]

def sampleRun : Option PeerAuth := playSteps (PeerAuth.step sampleMac (ascii "m1")) Orderly sampleCalls {}

theorem accepted_once_replayed :
    ∃ s, Stepped (PeerAuth.step sampleMac (ascii "m1")) Orderly {} s ∧
      s.accepted.map (·.request) = [secondRequest, firstRequest] ∧
      s.accepted.Pairwise fun a b =>
        ¬ (a.request.nonce = b.request.nonce ∧ decodeHex a.request.proof = decodeHex b.request.proof) := by
  have accepted : sampleRun.map (fun s => s.accepted.map (·.request)) = some [secondRequest, firstRequest] := by
    decide +kernel
  obtain ⟨s, played, accepted⟩ := Option.map_eq_some_iff.mp accepted
  have reached := stepped_of_play played
  have resistant : Resistant sampleMac s := by
    have differ : ∀ a ∈ [secondRequest, firstRequest], ∀ b ∈ [secondRequest, firstRequest],
        sampleMac (message a.parts) = sampleMac (message b.parts) → message a.parts = message b.parts := by
      decide +kernel
    rw [← accepted] at differ
    intro a was b was'
    exact differ _ (List.mem_map_of_mem was) _ (List.mem_map_of_mem was')
  exact ⟨s, reached, accepted, (accepted_once sampleMac (ascii "m1")).2 s reached resistant⟩

end PeerAuth

end Calls

end OpenTunnel
