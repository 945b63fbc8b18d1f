/-
Module: OpenTunnel.Proofs.MeshWire
Layer: Proofs
Purpose: What a machine reads of a link is what its peer wrote. A frame is read from the members it has, whatever newer
  releases put beside them; the stream is cut where it was joined, however it arrives; so at every moment the frames read
  are the first of those written.
Imports: OpenTunnel.Formats.JsonText, OpenTunnel.Model.MeshWire
Trusted boundary: none (fully proved)
Main exports: Mesh.Frame.Fits, Mesh.readFrame_says, Mesh.frames_read_back
Open obligations: none
-/
import OpenTunnel.Formats.JsonText
import OpenTunnel.Model.MeshWire

namespace OpenTunnel.Mesh

open Formats
open Formats.Stream (Piece Reads)

variable {F : Type}

/-! ### One frame -/

/-- Its numbers are of 64 bits. -/
def Entry.Fits (entry : Entry) : Prop := entry.bridge < 2 ^ 64 ∧ entry.attachedAt < 2 ^ 64

def Frame.Fits : Frame → Prop
  | .hello own => own.epoch < 2 ^ 64 ∧ own.startedAt < 2 ^ 64
  | .snapshot epoch seq entries _ => epoch < 2 ^ 64 ∧ seq < 2 ^ 64 ∧ ∀ entry ∈ entries, entry.Fits
  | .snapshotPart entries _ => ∀ entry ∈ entries, entry.Fits
  | .attached seq entry => seq < 2 ^ 64 ∧ entry.Fits
  | .detached seq _ bridge => seq < 2 ^ 64 ∧ bridge < 2 ^ 64
  | .event _ => True
  | .ping => True
  | .unknown => True

theorem u64_nat {n : Nat} (small : n < 2 ^ 64) : u64 (.nat n : Json F) = some n := below_nat small

theorem texts_read (texts : List String) : asList asText (.arr (texts.map .str) : Json F) = some texts :=
  asList_map fun _ _ => rfl

/-- An entry is read back. -/
theorem readEntry_json {entry : Entry} (fits : entry.Fits) : readEntry (entry.json : Json F) = some entry := by
  have whole : Extends [("tunnel", .str entry.tunnel), ("bridge", (.nat entry.bridge : Json F)),
      ("routes", .arr (entry.routes.map .str)), ("attached_at", .nat entry.attachedAt)]
      [("tunnel", .str entry.tunnel), ("bridge", .nat entry.bridge), ("routes", .arr (entry.routes.map .str)),
        ("attached_at", .nat entry.attachedAt)] := Extends.self (by simp)
  obtain ⟨tunnel, rest⟩ := whole.uncons
  obtain ⟨bridge, rest⟩ := rest.uncons
  obtain ⟨routes, rest⟩ := rest.uncons
  obtain ⟨attachedAt, _⟩ := rest.uncons
  simp only [Entry.json, readEntry, tunnel, bridge, routes, attachedAt, u64_nat fits.1, u64_nat fits.2, texts_read]
  rfl

theorem entries_read {entries : List Entry} (fits : ∀ entry ∈ entries, entry.Fits) :
    asList readEntry (.arr (entries.map Entry.json) : Json F) = some entries :=
  asList_map fun entry held => readEntry_json (fits entry held)

/-- A tunnel's event. -/
theorem event_tunnel (F : Type) (kind tunnel : String) :
    field [("type", .str kind), ("tunnel", (.str tunnel : Json F))] "type" asText = some kind ∧
      field [("type", .str kind), ("tunnel", (.str tunnel : Json F))] "tunnel" asText = some tunnel := by
  have whole : Extends [("type", .str kind), ("tunnel", (.str tunnel : Json F))] [("type", .str kind), ("tunnel", .str tunnel)] :=
    Extends.self (by simp)
  obtain ⟨type, rest⟩ := whole.uncons
  exact ⟨type asText, rest.uncons.1 asText⟩

theorem event_bare (kind : String) : field [("type", (.str kind : Json F))] "type" asText = some kind := by
  have whole : Extends [("type", (.str kind : Json F))] [("type", .str kind)] := Extends.self (by simp)
  exact whole.uncons.1 asText

/-- An event is read back. -/
theorem readEvent_json (event : Event) : readEvent (event.json : Json F) = some event := by
  cases event with
  | tunnelCreated tunnel =>
      obtain ⟨type, own⟩ := event_tunnel F "tunnel_created" tunnel
      simp only [Event.json, readEvent, type, own]
      rfl
  | certificateChanged tunnel =>
      obtain ⟨type, own⟩ := event_tunnel F "certificate_changed" tunnel
      simp only [Event.json, readEvent, type, own]
      rfl
  | tunnelDeleted tunnel =>
      obtain ⟨type, own⟩ := event_tunnel F "tunnel_deleted" tunnel
      simp only [Event.json, readEvent, type, own]
      rfl
  | leaving =>
      simp only [Event.json, readEvent, event_bare]
      rfl
  | jobEnqueued =>
      simp only [Event.json, readEvent, event_bare]
      rfl
  | unknown =>
      simp only [Event.json, readEvent, event_bare]
      rfl

def Frame.members (stamp : Stamp) (frame : Frame) : List (String × Json F) := ("type", .str frame.kind) :: frame.fields stamp

/-- An object that says what the frame says, and perhaps more under other names. -/
structure Says (members : List (String × Json F)) (stamp : Stamp) (frame : Frame) : Prop where
  whole : Extends members (frame.members stamp)
  more : "more" ∈ members.map (·.1) → "more" ∈ (frame.members stamp : List (String × Json F)).map (·.1)

theorem fieldOr_missing {members : List (String × Json F)} {name : String} (missing : name ∉ members.map (·.1)) {α : Type}
    (default : α) (read : Json F → Option α) : fieldOr members name default read = some default := by
  rw [fieldOr, member_missing missing]

theorem fieldOr_extends {members fields : List (String × Json F)} {name : String} {value : Json F}
    (whole : Extends members ((name, value) :: fields)) {α : Type} (default : α) (read : Json F → Option α) :
    fieldOr members name default read = read value := by
  rw [fieldOr, member_listed whole.distinct (whole.has _ List.mem_cons_self)]

/-- A frame is read from the members it has. -/
theorem ofFields_says {members : List (String × Json F)} {stamp : Stamp} {frame : Frame} (says_ : Says members stamp frame)
    (fits : frame.Fits) : Frame.ofFields frame.kind members = some frame := by
  obtain ⟨_, rest⟩ := says_.whole.uncons
  cases frame with
  | hello own =>
      obtain ⟨version, rest⟩ := rest.uncons
      obtain ⟨machineId, rest⟩ := rest.uncons
      obtain ⟨region, rest⟩ := rest.uncons
      obtain ⟨address, rest⟩ := rest.uncons
      obtain ⟨epoch, rest⟩ := rest.uncons
      obtain ⟨startedAt, rest⟩ := rest.uncons
      obtain ⟨draining, _⟩ := rest.uncons
      have small : stamp.version.toNat < 2 ^ 32 := stamp.version.toNat_lt
      simp only [Frame.kind, Frame.ofFields, version, machineId, region, address, epoch, startedAt, draining, below_nat small,
        u64_nat fits.1, u64_nat fits.2]
      rfl
  | snapshot epoch seq entries more =>
      obtain ⟨epoch_, rest⟩ := rest.uncons
      obtain ⟨seq_, rest⟩ := rest.uncons
      obtain ⟨sentAt, rest⟩ := rest.uncons
      obtain ⟨entries_, rest⟩ := rest.uncons
      have small : stamp.sentAt.toNat < 2 ^ 64 := stamp.sentAt.toNat_lt
      have more_ : fieldOr members "more" false asFlag = some more := by
        cases more with
        | true => exact fieldOr_extends rest false asFlag
        | false =>
            apply fieldOr_missing
            intro held
            have own := says_.more held
            simp [Frame.members, Frame.fields] at own
      simp only [Frame.kind, Frame.ofFields, epoch_, seq_, sentAt, entries_, more_, u64_nat fits.1, u64_nat fits.2.1,
        u64_nat small, entries_read fits.2.2]
      rfl
  | snapshotPart entries more =>
      obtain ⟨entries_, rest⟩ := rest.uncons
      have more_ : fieldOr members "more" false asFlag = some more := fieldOr_extends rest false asFlag
      simp only [Frame.kind, Frame.ofFields, entries_, more_, entries_read fits]
      rfl
  | attached seq entry =>
      obtain ⟨seq_, rest⟩ := rest.uncons
      obtain ⟨sentAt, rest⟩ := rest.uncons
      obtain ⟨entry_, _⟩ := rest.uncons
      have small : stamp.sentAt.toNat < 2 ^ 64 := stamp.sentAt.toNat_lt
      simp only [Frame.kind, Frame.ofFields, seq_, sentAt, entry_, u64_nat fits.1, u64_nat small, readEntry_json fits.2]
      rfl
  | detached seq tunnel bridge =>
      obtain ⟨seq_, rest⟩ := rest.uncons
      obtain ⟨sentAt, rest⟩ := rest.uncons
      obtain ⟨tunnel_, rest⟩ := rest.uncons
      obtain ⟨bridge_, _⟩ := rest.uncons
      have small : stamp.sentAt.toNat < 2 ^ 64 := stamp.sentAt.toNat_lt
      simp only [Frame.kind, Frame.ofFields, seq_, sentAt, tunnel_, bridge_, u64_nat fits.1, u64_nat small, u64_nat fits.2]
      rfl
  | event news =>
      obtain ⟨sentAt, rest⟩ := rest.uncons
      obtain ⟨event_, _⟩ := rest.uncons
      have small : stamp.sentAt.toNat < 2 ^ 64 := stamp.sentAt.toNat_lt
      simp only [Frame.kind, Frame.ofFields, sentAt, event_, u64_nat small, readEvent_json]
      rfl
  | ping =>
      obtain ⟨sentAt, _⟩ := rest.uncons
      have small : stamp.sentAt.toNat < 2 ^ 64 := stamp.sentAt.toNat_lt
      simp only [Frame.kind, Frame.ofFields, sentAt, u64_nat small]
      rfl
  | unknown => rfl

/-- So it is from an object with more members. -/
theorem readFrame_says {members : List (String × Json F)} {stamp : Stamp} {frame : Frame} (says_ : Says members stamp frame)
    (fits : frame.Fits) : readFrame (.obj members) = some frame := by
  obtain ⟨type, _⟩ := says_.whole.uncons
  simp only [readFrame, type, asText, Option.bind_some, ofFields_says says_ fits]

theorem says_own (stamp : Stamp) (frame : Frame) : Says (frame.members stamp : List (String × Json F)) stamp frame where
  whole := by
    apply Extends.self
    cases frame with
    | snapshot epoch seq entries more =>
        cases more with
        | true => simp [Frame.members, Frame.fields]
        | false => simp [Frame.members, Frame.fields]
    | hello | snapshotPart | attached | detached | event | ping | unknown => simp [Frame.members, Frame.fields]
  more := fun held => held

/-! ### What is written -/

section Codecs

variable {codec : Codec F}

theorem exact_texts (codec : Codec F) (texts : List String) : codec.Exact (.arr (texts.map .str)) := by
  apply Codec.Exact.arr
  intro item held
  obtain ⟨text, _, rfl⟩ := List.mem_map.mp held
  exact .str text

theorem exact_entry (codec : Codec F) (entry : Entry) : codec.Exact entry.json := by
  apply Codec.Exact.obj
  simp only [List.mem_cons, List.not_mem_nil, or_false, forall_eq_or_imp, forall_eq]
  exact ⟨.str _, .nat _, exact_texts codec _, .nat _⟩

theorem exact_entries (codec : Codec F) (entries : List Entry) : codec.Exact (.arr (entries.map Entry.json)) := by
  apply Codec.Exact.arr
  intro item held
  obtain ⟨entry, _, rfl⟩ := List.mem_map.mp held
  exact exact_entry codec entry

theorem exact_event (codec : Codec F) (event : Event) : codec.Exact event.json := by
  cases event with
  | tunnelCreated tunnel | certificateChanged tunnel | tunnelDeleted tunnel =>
      apply Codec.Exact.obj
      simp only [List.mem_cons, List.not_mem_nil, or_false, forall_eq_or_imp, forall_eq]
      exact ⟨.str _, .str _⟩
  | leaving | jobEnqueued | unknown =>
      apply Codec.Exact.obj
      simp only [List.mem_cons, List.not_mem_nil, or_false, forall_eq]
      exact .str _

/-- A frame holds no floats. -/
theorem exact_frame (codec : Codec F) (stamp : Stamp) (frame : Frame) : codec.Exact (frame.json stamp) := by
  apply Codec.Exact.obj
  rw [List.forall_mem_cons]
  refine ⟨.str _, ?_⟩
  cases frame with
  | hello own =>
      simp only [Frame.fields, List.mem_cons, List.not_mem_nil, or_false, forall_eq_or_imp, forall_eq]
      exact ⟨.nat _, .str _, .str _, .str _, .nat _, .nat _, .bool _⟩
  | snapshot epoch seq entries more =>
      rw [Frame.fields, List.forall_mem_append]
      simp only [List.mem_cons, List.not_mem_nil, or_false, forall_eq_or_imp, forall_eq]
      refine ⟨⟨.nat _, .nat _, .nat _, exact_entries codec entries⟩, ?_⟩
      cases more with
      | true =>
          simp only [if_true, List.mem_cons, List.not_mem_nil, or_false, forall_eq]
          exact .bool _
      | false => exact List.forall_mem_nil _
  | snapshotPart entries more =>
      simp only [Frame.fields, List.mem_cons, List.not_mem_nil, or_false, forall_eq_or_imp, forall_eq]
      exact ⟨exact_entries codec entries, .bool _⟩
  | attached seq entry =>
      simp only [Frame.fields, List.mem_cons, List.not_mem_nil, or_false, forall_eq_or_imp, forall_eq]
      exact ⟨.nat _, .nat _, exact_entry codec entry⟩
  | detached seq tunnel bridge =>
      simp only [Frame.fields, List.mem_cons, List.not_mem_nil, or_false, forall_eq_or_imp, forall_eq]
      exact ⟨.nat _, .nat _, .str _, .nat _⟩
  | event news =>
      simp only [Frame.fields, List.mem_cons, List.not_mem_nil, or_false, forall_eq_or_imp, forall_eq]
      exact ⟨.nat _, exact_event codec news⟩
  | ping =>
      simp only [Frame.fields, List.mem_cons, List.not_mem_nil, or_false, forall_eq]
      exact .nat _
  | unknown => exact List.forall_mem_nil _

/-- The bytes of a frame. -/
def framed (json : Bytes) : Bytes := toBe 4 json.length ++ json

/-- The types a machine knows. -/
def frameKinds : List String := ["hello", "snapshot", "snapshot_part", "attached", "detached", "event", "ping"]

/-- What a peer writes for a frame: this release's bytes, a newer one's with more members, or a frame that only a newer
    release knows. -/
inductive Written (codec : Codec F) : Frame → Bytes → Prop where
  | own {stamp frame} : frame.Fits → Written codec frame (encode codec stamp frame)
  | newer {members stamp frame text} : Says members stamp frame → frame.Fits → codec.Spells (.obj members) text →
      Written codec frame (framed (utf8 text))
  | unheard {members kind text} : kind ∉ frameKinds → Extends members [("type", .str kind)] →
      codec.Spells (.obj members) text → Written codec .unknown (framed (utf8 text))

/-- A frame of another kind is unknown. -/
theorem ofFields_unheard {kind : String} (unheard : kind ∉ frameKinds) (members : List (String × Json F)) :
    Frame.ofFields kind members = some .unknown := by
  unfold Frame.ofFields
  split
  all_goals first | rfl | exact absurd (by decide) unheard

/-- A frame as it is written is a length and a document that reads as the frame. -/
theorem Written.framed_ (lawful : codec.Lawful) {frame : Frame} {bytes : Bytes} (written : Written codec frame bytes) :
    ∃ json, bytes = framed json ∧ ((fromUtf8 json).bind codec.read).bind readFrame = some frame := by
  cases written with
  | own fits =>
      rename_i stamp
      refine ⟨_, rfl, ?_⟩
      rw [fromUtf8_utf8, Option.bind_some, lawful.round_trip (exact_frame codec stamp frame), Option.bind_some]
      exact readFrame_says (says_own stamp frame) fits
  | newer says_ fits spelled =>
      refine ⟨_, rfl, ?_⟩
      rw [fromUtf8_utf8, Option.bind_some, lawful.reads spelled, Option.bind_some]
      exact readFrame_says says_ fits
  | unheard unheard whole spelled =>
      refine ⟨_, rfl, ?_⟩
      rw [fromUtf8_utf8, Option.bind_some, lawful.reads spelled, Option.bind_some, readFrame, whole.uncons.1 asText]
      exact ofFields_unheard unheard _

/-! ### The stream -/

theorem frameLimit_small (said : Bool) : frameLimit said < 2 ^ 32 := by
  cases said with
  | false => decide
  | true => decide

@[simp] theorem framed_length (json : Bytes) : (framed json).length = 4 + json.length := by
  rw [framed, List.length_append, toBe_length]

theorem length_read {json : Bytes} {said : Bool} (small : json.length ≤ frameLimit said) :
    fromBe (toBe 4 json.length) = json.length :=
  fromBe_toBe (Nat.lt_of_le_of_lt small (Nat.lt_of_lt_of_le (frameLimit_small said) (by decide)))

/-- A whole frame in front is taken. -/
theorem frameStep_framed {json : Bytes} {frame : Frame} {said : Bool}
    (reads : ((fromUtf8 json).bind codec.read).bind readFrame = some frame) (small : json.length ≤ frameLimit said)
    (first : said || frame.isHello) (rest : Bytes) : frameStep codec (framed json ++ rest) said = .took (some frame) rest true := by
  have whole : framed json ++ rest = toBe 4 json.length ++ (json ++ rest) := List.append_assoc _ _ _
  have head : (framed json ++ rest).take 4 = toBe 4 json.length := by
    rw [whole]
    exact List.take_left' (toBe_length 4 _)
  have behind : (framed json ++ rest).drop 4 = json ++ rest := by
    rw [whole]
    exact List.drop_left' (toBe_length 4 _)
  have length : (framed json ++ rest).length = 4 + json.length + rest.length := by rw [List.length_append, framed_length]
  have left : (framed json ++ rest).drop (4 + json.length) = rest := by
    rw [← List.drop_drop, behind]
    exact List.drop_left
  have taken : (json ++ rest).take json.length = json := List.take_left
  have long : ¬ (framed json ++ rest).length < 4 := by omega
  have enough : ¬ (framed json ++ rest).length < 4 + json.length := by omega
  have greeted : (!said && !frame.isHello) = false := by
    cases said with
    | true => rfl
    | false => simpa using first
  simp only [frameStep, if_neg long, head, length_read small, if_neg (Nat.not_lt.mpr small), if_neg enough, behind, taken,
    reads, greeted, Bool.false_eq_true, if_false, left]

/-- The reader waits for the rest of a frame. -/
theorem frameStep_part {json : Bytes} {said : Bool} (small : json.length ≤ frameLimit said) {front back : Bytes}
    (is : front ++ back = framed json) (missing : back ≠ []) : frameStep codec front said = .wait := by
  have length : front.length + back.length = 4 + json.length := by rw [← List.length_append, is, framed_length]
  have some_ : 0 < back.length := List.length_pos_iff.mpr missing
  unfold frameStep
  by_cases short : front.length < 4
  · rw [if_pos short]
  · have head : front.take 4 = toBe 4 json.length := by
      have four : front.take 4 = (front ++ back).take 4 := (List.take_append_of_le_length (by omega)).symm
      rw [four, is]
      exact List.take_left' (toBe_length 4 _)
    have enough : front.length < 4 + json.length := by omega
    simp only [if_neg short, head, length_read small, if_neg (Nat.not_lt.mpr small), if_pos enough]

/-- What was taken is taken whatever follows. -/
theorem frameStep_took {held rest : Bytes} {said said' : Bool} {frame : Option Frame}
    (took : frameStep codec held said = .took frame rest said') : rest.length < held.length ∧
      ∀ more, frameStep codec (held ++ more) said = .took frame (rest ++ more) said' := by
  unfold frameStep at took
  split at took
  · cases took
  · rename_i long
    dsimp only at took
    split at took
    · cases took
    · rename_i fits
      split at took
      · cases took
      · rename_i enough
        have shorter : (held.drop (4 + fromBe (held.take 4))).length < held.length := by
          rw [List.length_drop]
          omega
        have same (more : Bytes) : (held ++ more).take 4 = held.take 4 := List.take_append_of_le_length (by omega)
        have behind (more : Bytes) : ((held ++ more).drop 4).take (fromBe (held.take 4)) =
            (held.drop 4).take (fromBe (held.take 4)) := by
          rw [List.drop_append_of_le_length (by omega), List.take_append_of_le_length (by rw [List.length_drop]; omega)]
        have left (more : Bytes) : (held ++ more).drop (4 + fromBe (held.take 4)) = held.drop (4 + fromBe (held.take 4)) ++ more :=
          List.drop_append_of_le_length (by omega)
        have long' (more : Bytes) : ¬ (held ++ more).length < 4 := by
          rw [List.length_append]
          omega
        have enough' (more : Bytes) : ¬ (held ++ more).length < 4 + fromBe (held.take 4) := by
          rw [List.length_append]
          omega
        split at took
        · cases took
        · rename_i decoded
          split at took
          · cases took
          · rename_i greeted
            cases took
            refine ⟨shorter, fun more => ?_⟩
            simp only [frameStep, if_neg (long' more), same, if_neg fits, if_neg (enough' more), behind, decoded, if_neg greeted,
              left]

/-- What failed fails whatever follows. -/
theorem frameStep_fail {held : Bytes} {said : Bool} {error : LinkError} (failed : frameStep codec held said = .fail error)
    (more : Bytes) : frameStep codec (held ++ more) said = .fail error := by
  unfold frameStep at failed
  split at failed
  · cases failed
  · rename_i long
    have same : (held ++ more).take 4 = held.take 4 := List.take_append_of_le_length (by omega)
    have long' : ¬ (held ++ more).length < 4 := by
      rw [List.length_append]
      omega
    dsimp only at failed
    split at failed
    · rename_i tooLong
      cases failed
      simp only [frameStep, if_neg long', same, if_pos tooLong]
    · rename_i fits
      split at failed
      · cases failed
      · rename_i enough
        have behind : ((held ++ more).drop 4).take (fromBe (held.take 4)) = (held.drop 4).take (fromBe (held.take 4)) := by
          rw [List.drop_append_of_le_length (by omega), List.take_append_of_le_length (by rw [List.length_drop]; omega)]
        have enough' : ¬ (held ++ more).length < 4 + fromBe (held.take 4) := by
          rw [List.length_append]
          omega
        split at failed
        · rename_i undecoded
          cases failed
          simp only [frameStep, if_neg long', same, if_neg fits, if_neg enough', behind, undecoded]
        · rename_i decoded
          split at failed
          · rename_i greeted
            cases failed
            simp only [frameStep, if_neg long', same, if_neg fits, if_neg enough', behind, decoded, if_pos greeted]
          · cases failed

theorem frameStep_local (codec : Codec F) : Formats.Stream.Local (frameStep codec) where
  shorter := fun took => (frameStep_took took).1
  took := fun more took => (frameStep_took took).2 more
  fail := fun more failed => frameStep_fail failed more

/-! ### A whole link -/

/-- The bytes of the frames. -/
def wire (sent : List (Frame × Bytes)) : Bytes := sent.flatMap (·.2)

/-- A `hello` first, and no frame that is too long. -/
def Linkable : Bool → List (Frame × Bytes) → Prop
  | _, [] => True
  | said, sent :: rest => sent.2.length ≤ 4 + frameLimit said ∧ (said || sent.1.isHello) = true ∧ Linkable true rest

/-- The frames of the first bytes are the first frames; of the next, a part at most is there. -/
theorem reads_wire (lawful : codec.Lawful) (ends : Option LinkError) {sent : List (Frame × Bytes)}
    (written : ∀ x ∈ sent, Written codec x.1 x.2) {said : Bool} (linkable : Linkable said sent) {data : Bytes}
    (arrived : data <+: wire sent) :
    ∃ count, Reads (frameStep codec) ends data said ((sent.take count).map (·.1)) ends ∧
      (wire (sent.take count)).length ≤ data.length ∧
      (count < sent.length → data.length < (wire (sent.take (count + 1))).length) := by
  induction sent generalizing said data with
  | nil =>
      have none_ : data = [] := List.prefix_nil.mp arrived
      rw [none_]
      exact ⟨0, .wait rfl, Nat.le_refl _, fun more => absurd more (Nat.lt_irrefl 0)⟩
  | cons x sent ih =>
      obtain ⟨small, first, rest⟩ := linkable
      obtain ⟨json, is, reads⟩ := (written x List.mem_cons_self).framed_ lawful
      rw [is, framed_length] at small
      have all_ : wire (x :: sent) = framed json ++ wire sent := by rw [← is]; rfl
      rw [all_] at arrived
      have fits : json.length ≤ frameLimit said := by omega
      rcases Nat.lt_or_ge data.length (framed json).length with short | whole
      · have front : data <+: framed json := List.prefix_of_prefix_length_le arrived (List.prefix_append _ _) (Nat.le_of_lt short)
        obtain ⟨back, split_⟩ := front
        have missing : back ≠ [] := by
          intro none_
          rw [none_, List.append_nil] at split_
          rw [split_] at short
          exact absurd short (Nat.lt_irrefl _)
        refine ⟨0, .wait (frameStep_part fits split_ missing), Nat.zero_le _, fun _ => ?_⟩
        rw [List.take_succ_cons, List.take_zero]
        simpa [wire, is] using short
      · have front : framed json <+: data := List.prefix_of_prefix_length_le (List.prefix_append _ _) arrived whole
        obtain ⟨behind, rfl⟩ := front
        have arrived' : behind <+: wire sent := (List.prefix_append_right_inj _).mp arrived
        obtain ⟨count, read, least, most⟩ := ih (fun y held => written y (List.mem_cons_of_mem _ held)) rest arrived'
        have grows (k : Nat) : (wire ((x :: sent).take (k + 1))).length = (framed json).length + (wire (sent.take k)).length := by
          rw [List.take_succ_cons, ← List.length_append, ← is]
          rfl
        refine ⟨count + 1, .took (frameStep_framed reads fits first behind) read, ?_, fun more => ?_⟩
        · rw [grows, List.length_append]
          exact Nat.add_le_add_left least _
        · rw [grows, List.length_append]
          exact Nat.add_lt_add_left (most (Nat.lt_of_succ_lt_succ more)) _

/-- While the reader waits, it holds less than a frame of the allowed length. -/
theorem frameStep_wait {held : Bytes} {said : Bool} (waits : frameStep codec held said = .wait) :
    held.length < 4 + frameLimit said := by
  unfold frameStep at waits
  split at waits
  · omega
  · dsimp only at waits
    split at waits
    · cases waits
    · split at waits
      · omega
      · split at waits
        · cases waits
        · split at waits
          · cases waits
          · cases waits

end Codecs

/-- However a link's bytes arrive, the frames read are the first of those that the peer wrote: all that arrived whole, none
    else, and no error; a peer of a newer release is read as it is meant or as saying nothing. Meanwhile the reader holds
    less than a frame. -/
theorem frames_read_back {codec : Codec F} (lawful : codec.Lawful) (ends : Option LinkError) {sent : List (Frame × Bytes)}
    (written : ∀ x ∈ sent, Written codec x.1 x.2) (linkable : Linkable false sent) {chunks : List Bytes}
    (some_ : ∀ chunk ∈ chunks, chunk ≠ []) (arrived : chunks.flatten <+: wire sent) :
    (∃ count, Formats.Stream.all (frameStep codec) ends (chunks.flatten.length + 1) chunks [] false =
        some ((sent.take count).map (·.1), ends) ∧
      (wire (sent.take count)).length ≤ chunks.flatten.length ∧
      (count < sent.length → chunks.flatten.length < (wire (sent.take (count + 1))).length)) ∧
    ∀ (held : Bytes) (said : Bool), frameStep codec held said = .wait → held.length < 4 + frameLimit said := by
  constructor
  · obtain ⟨frames, error, found, read⟩ := Formats.Stream.all_reads ends (frameStep_local codec) some_ false
      (Nat.lt_succ_self _ : ([] ++ chunks.flatten).length < chunks.flatten.length + 1)
    obtain ⟨count, own, least, most⟩ := reads_wire lawful ends written linkable arrived
    obtain ⟨rfl, rfl⟩ := Reads.unique read own
    exact ⟨count, found, least, most⟩
  · intro held said waits
    exact frameStep_wait waits

/-- A greeting and a change, as one machine writes them. -/
def sampleSent : List (Frame × Bytes) :=
  let hello : Frame := .hello { machineId := "m", region := "r", address := "a", epoch := 1, startedAt := 2, draining := false }
  let attached : Frame := .attached 1 { tunnel := "t", bridge := 3, routes := ["@"], attachedAt := 4 }
  [(hello, encode textCodec ⟨1, 5⟩ hello), (attached, encode textCodec ⟨1, 6⟩ attached)]

theorem sample_written : ∀ x ∈ sampleSent, Written textCodec x.1 x.2 := by
  simp only [sampleSent, List.mem_cons, List.not_mem_nil, or_false, forall_eq_or_imp, forall_eq]
  have hello : 1 < 2 ^ 64 ∧ 2 < 2 ^ 64 := by decide
  have attached : 1 < 2 ^ 64 ∧ 3 < 2 ^ 64 ∧ 4 < 2 ^ 64 := by decide
  exact ⟨.own hello, .own attached⟩

/-- The second frame is cut; the first is read. -/
theorem frames_read_back_sample :
    ∃ count, Formats.Stream.all (frameStep textCodec) none
        ([(wire sampleSent).take 3, ((wire sampleSent).drop 3).take 150].flatten.length + 1)
        [(wire sampleSent).take 3, ((wire sampleSent).drop 3).take 150] [] false =
      some ((sampleSent.take count).map (·.1), none) := by
  have linkable : Linkable false sampleSent := by
    simp only [sampleSent, Linkable, Frame.isHello, Bool.or_true, Bool.true_or, and_true]
    decide +kernel
  have some_ : ∀ chunk ∈ [(wire sampleSent).take 3, ((wire sampleSent).drop 3).take 150], chunk ≠ [] := by decide +kernel
  have arrived : [(wire sampleSent).take 3, ((wire sampleSent).drop 3).take 150].flatten <+: wire sampleSent := by decide +kernel
  obtain ⟨⟨count, found, _⟩, _⟩ := frames_read_back textCodec_lawful none sample_written linkable some_ arrived
  exact ⟨count, found⟩

end OpenTunnel.Mesh
