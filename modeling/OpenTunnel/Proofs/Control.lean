/-
Module: OpenTunnel.Proofs.Control
Layer: Proofs
Purpose: Both ends of a bridge read what the other writes. A control message is found by the names of its members, so it is
  read from every spelling, whatever the order of the members and whatever other members newer releases put beside them;
  a data frame and its number and payload are the same thing.
Imports: OpenTunnel.Formats.JsonText, OpenTunnel.Model.Control
Trusted boundary: none (fully proved)
Main exports: Control.server_messages_heard, Control.client_messages_read
Open obligations: none
-/
import OpenTunnel.Formats.JsonText
import OpenTunnel.Model.Control

namespace OpenTunnel.Control

open Formats

variable {F : Type}

/-! ### Fields -/

theorem asU64_nat (n : UInt64) : asU64 (.nat n.toNat : Json F) = some n := by
  rw [asU64, below_nat n.toNat_lt, Option.map_some, UInt64.ofNat_toNat]

theorem asU32_nat (n : UInt32) : asU32 (.nat n.toNat : Json F) = some n := by
  rw [asU32, below_nat n.toNat_lt, Option.map_some, UInt32.ofNat_toNat]

theorem asList_texts (texts : List String) : asList asText (.arr (texts.map .str) : Json F) = some texts :=
  asList_map fun _ _ => rfl

/-- What a client makes of a control message; a pong with another number than it sent is invalid. -/
def ServerControl.message : ServerControl F → Option ServerMessage
  | .attached session routes heartbeatMs idleTimeoutMs => some (.attached session routes heartbeatMs idleTimeoutMs)
  | .attachError code => some (.attachError code)
  | .open_ conn peer sni alpn => some (.open_ conn peer sni alpn)
  | .ping timeSent => some (.ping timeSent)
  | .pong timeSent => (asU64 timeSent).map .pong
  | .drain reason => some (.drain reason)
  | .end_ conn => some (.end_ conn)
  | .reset conn code => some (.reset conn code)

/-- The members of a message, `type` among them. -/
def ServerControl.members (message : ServerControl F) : List (String × Json F) :=
  ("type", .str message.kind) :: message.fields

theorem ServerControl.kind_known (message : ServerControl F) : message.kind ∈ serverTypes := by
  cases message with
  | attached | attachError | open_ | ping | pong | drain | end_ | reset => simp [kind, serverTypes]

theorem ofFields_extends {message : ServerControl F} {members : List (String × Json F)} (whole : Extends members message.members) :
    ServerMessage.ofFields message.kind members = message.message := by
  obtain ⟨_, rest⟩ := whole.uncons
  cases message with
  | attached session routes heartbeatMs idleTimeoutMs =>
      obtain ⟨session_, rest⟩ := rest.uncons
      obtain ⟨routes_, rest⟩ := rest.uncons
      obtain ⟨heartbeat, rest⟩ := rest.uncons
      obtain ⟨idle, _⟩ := rest.uncons
      simp only [ServerControl.kind, ServerMessage.ofFields, session_, routes_, heartbeat, idle, asList_texts, asU64_nat]
      rfl
  | attachError code =>
      obtain ⟨code_, _⟩ := rest.uncons
      simp only [ServerControl.kind, ServerMessage.ofFields, code_]
      rfl
  | open_ conn peer sni alpn =>
      obtain ⟨conn_, rest⟩ := rest.uncons
      obtain ⟨peer_, rest⟩ := rest.uncons
      obtain ⟨sni_, rest⟩ := rest.uncons
      obtain ⟨alpn_, _⟩ := rest.uncons
      simp only [ServerControl.kind, ServerMessage.ofFields, conn_, peer_, sni_, alpn_, asU32_nat]
      rfl
  | ping timeSent =>
      obtain ⟨time, _⟩ := rest.uncons
      simp only [ServerControl.kind, ServerMessage.ofFields, time, asU64_nat]
      rfl
  | pong timeSent =>
      obtain ⟨time, _⟩ := rest.uncons
      simp only [ServerControl.kind, ServerMessage.ofFields, time]
      rfl
  | drain reason =>
      obtain ⟨reason_, _⟩ := rest.uncons
      simp only [ServerControl.kind, ServerMessage.ofFields, reason_]
      rfl
  | end_ conn =>
      obtain ⟨conn_, _⟩ := rest.uncons
      simp only [ServerControl.kind, ServerMessage.ofFields, conn_, asU32_nat]
      rfl
  | reset conn code =>
      obtain ⟨conn_, rest⟩ := rest.uncons
      obtain ⟨code_, _⟩ := rest.uncons
      simp only [ServerControl.kind, ServerMessage.ofFields, conn_, code_, asU32_nat]
      rfl

theorem decode_spelled {codec : Codec F} (lawful : codec.Lawful) {message : ServerControl F} {members : List (String × Json F)}
    (whole : Extends members message.members) {text : Text} (spelled : codec.Spells (.obj members) text) :
    decode codec text = message.message.elim (.error ()) fun heard => .ok (some heard) := by
  obtain ⟨kind, _⟩ := whole.uncons
  have known : ¬ message.kind ∉ serverTypes := fun missing => missing message.kind_known
  unfold decode
  rw [lawful.reads spelled]
  simp only [whole.latest, kind, asText, if_neg known, ofFields_extends whole]
  cases message.message with
  | none => rfl
  | some heard => rfl

/-! ### Data frames -/

theorem fromBe_four (conn : UInt32) : fromBe (toBe 4 conn.toNat) = conn.toNat :=
  fromBe_toBe (Nat.lt_of_lt_of_le conn.toNat_lt (by decide))

theorem decode_dataFrame (conn : UInt32) (payload : Bytes) : decodeDataFrame (dataFrame conn payload) = some (conn, payload) := by
  have front : (dataFrame conn payload).take 4 = toBe 4 conn.toNat := List.take_left' (toBe_length 4 _)
  have back : (dataFrame conn payload).drop 4 = payload := List.drop_left' (toBe_length 4 _)
  have long : ¬ (dataFrame conn payload).length < 4 := by
    rw [dataFrame, List.length_append, toBe_length]
    omega
  rw [decodeDataFrame, if_neg long, front, back, fromBe_four, UInt32.ofNat_toNat]

/-- A frame says no more than its number and its payload. -/
theorem dataFrame_of_decode {frame payload : Bytes} {conn : UInt32} (decodes : decodeDataFrame frame = some (conn, payload)) :
    dataFrame conn payload = frame := by
  unfold decodeDataFrame at decodes
  split at decodes
  · cases decodes
  · rename_i long
    cases decodes
    have four : (frame.take 4).length = 4 := by
      rw [List.length_take]
      omega
    have small : fromBe (frame.take 4) < 2 ^ 32 := by
      have bound := fromBe_lt (frame.take 4)
      rw [four] at bound
      exact bound
    have head := toBe_fromBe (frame.take 4)
    rw [four] at head
    rw [dataFrame, UInt32.toNat_ofNat_of_lt' small, head, List.take_append_drop]

/-- The TypeScript client's frames are the same. -/
theorem js_frames : (∀ (conn : UInt32) payload, buildDataFrame conn.toNat payload = dataFrame conn payload) ∧
    ∀ data, parseDataFrame data = (decodeDataFrame data).map fun found => (found.1.toNat, found.2) := by
  constructor
  · intro conn payload
    rw [buildDataFrame, Nat.mod_eq_of_lt conn.toNat_lt]
    rfl
  · intro data
    unfold parseDataFrame decodeDataFrame
    split
    · rfl
    · rename_i long
      have four : (data.take 4).length = 4 := by
        rw [List.length_take]
        omega
      have small : fromBe (data.take 4) < 2 ^ 32 := by
        have bound := fromBe_lt (data.take 4)
        rw [four] at bound
        exact bound
      rw [Option.map_some, UInt32.toNat_ofNat_of_lt' small]

/-! ### What the server reads -/

def ClientMessage.members (message : ClientMessage) : List (String × Json F) := ("type", .str message.kind) :: message.fields

/-- What the server does at a message, before and after its bridge attached. -/
def ClientMessage.action (attached : Bool) : ClientMessage → Action F
  | .attach token routes _ maxConns =>
      if attached then .ignored
      else if maxRoutes < routes.length then .tooManyRoutes
      else .attach token (firsts [] routes) (some maxConns.toNat)
  | .ping timeSent => if attached then .pong (.nat timeSent.toNat) else .attachRequired
  | .pong _ => if attached then .ignored else .attachRequired
  | .end_ conn => if attached then .end_ conn else .attachRequired
  | .reset conn _ => if attached then .reset conn else .attachRequired

theorem get_extends {members fields : List (String × Json F)} {name : String} {value : Json F}
    (whole : Extends members ((name, value) :: fields)) : get members name = some value := by
  rw [get, whole.latest, whole.uncons.1]

theorem texts_of_routes (routes : List String) : (routes.map Json.str : List (Json F)).filterMap asText = routes := by
  induction routes with
  | nil => rfl
  | cons route routes ih =>
      rw [List.map_cons, List.filterMap_cons]
      exact congrArg (route :: ·) ih

/-- A message of a bridge that is not attached yet. -/
theorem attach_extends {message : ClientMessage} {members : List (String × Json F)} (whole : Extends members message.members) :
    attach members = message.action false := by
  have kind := get_extends whole
  obtain ⟨_, rest⟩ := whole.uncons
  cases message with
  | attach token routes version maxConns =>
      have token_ := get_extends rest
      have routes_ := get_extends rest.uncons.2.uncons.2
      have client_ := get_extends rest.uncons.2.uncons.2.uncons.2
      have distinct : Extends [("version", .str version), ("max_conns", (.nat maxConns.toNat : Json F))]
          [("version", .str version), ("max_conns", .nat maxConns.toNat)] := Extends.self (by simp)
      have conns := get_extends distinct.uncons.2
      have small : maxConns.toNat < 2 ^ 64 := Nat.lt_trans maxConns.toNat_lt (by decide)
      have length : (routes.map Json.str : List (Json F)).length = routes.length := List.length_map _
      have claimed : attachRoutes members = if maxRoutes < routes.length then none else some (firsts [] routes) := by
        simp only [attachRoutes, routes_, length, texts_of_routes]
      have found : attach members = (attachRoutes members).elim .tooManyRoutes fun routes => .attach token routes (some maxConns.toNat) := by
        simp only [attach, kind, token_, client_, ClientMessage.kind, Option.bind_some, asText, asObject, conns, below_nat small]
        cases attachRoutes members with
        | none => rfl
        | some routes => rfl
      rw [found, claimed, ClientMessage.action]
      by_cases long : maxRoutes < routes.length
      · simp [if_pos long]
      · simp [if_neg long]
  | ping timeSent => simp [attach, kind, ClientMessage.kind, ClientMessage.action, asText]
  | pong timeSent => simp [attach, kind, ClientMessage.kind, ClientMessage.action, asText]
  | end_ conn => simp [attach, kind, ClientMessage.kind, ClientMessage.action, asText]
  | reset conn code => simp [attach, kind, ClientMessage.kind, ClientMessage.action, asText]

theorem handleControl_extends {message : ClientMessage} {members : List (String × Json F)} (whole : Extends members message.members) :
    handleControl members = message.action true := by
  have kind := get_extends whole
  obtain ⟨_, rest⟩ := whole.uncons
  cases message with
  | attach token routes version maxConns => simp [handleControl, kind, ClientMessage.kind, ClientMessage.action, asText]
  | ping timeSent =>
      have time := get_extends rest
      simp [handleControl, kind, ClientMessage.kind, ClientMessage.action, asText, time, isNumber]
  | pong timeSent => simp [handleControl, kind, ClientMessage.kind, ClientMessage.action, asText]
  | end_ conn =>
      have conn_ := get_extends rest
      simp [handleControl, kind, ClientMessage.kind, ClientMessage.action, asText, conn_, asU32_nat]
  | reset conn code =>
      have conn_ := get_extends rest
      simp [handleControl, kind, ClientMessage.kind, ClientMessage.action, asText, conn_, asU32_nat]

theorem readText_spelled {codec : Codec F} (lawful : codec.Lawful) (attached : Bool) {message : ClientMessage}
    {members : List (String × Json F)} (whole : Extends members message.members) {text : Text}
    (spelled : codec.Spells (.obj members) text) : readText codec attached text = message.action attached := by
  have kind := get_extends whole
  unfold readText
  rw [lawful.reads spelled]
  simp only [kind, Option.bind_some, asText]
  cases attached with
  | false => exact attach_extends whole
  | true => exact handleControl_extends whole

/-! ### Both ends -/

theorem ServerControl.distinct (message : ServerControl F) : (message.members.map (·.1)).Nodup := by
  cases message with
  | attached | attachError | open_ | ping | pong | drain | end_ | reset => simp [members, fields]

theorem ClientMessage.distinct (message : ClientMessage) : ((message.members : List (String × Json F)).map (·.1)).Nodup := by
  cases message with
  | attach | ping | pong | end_ | reset => simp [members, fields]

theorem exact_texts (codec : Codec F) (texts : List String) : codec.Exact (.arr (texts.map .str)) := by
  apply Codec.Exact.arr
  intro item held
  obtain ⟨text, _, rfl⟩ := List.mem_map.mp held
  exact .str text

/-- What the client writes holds no floats. -/
theorem ClientMessage.exact (codec : Codec F) (message : ClientMessage) : codec.Exact message.json := by
  apply Codec.Exact.obj
  cases message with
  | attach token routes version maxConns =>
      simp only [kind, fields, List.mem_cons, List.not_mem_nil, or_false, forall_eq_or_imp, forall_eq]
      refine ⟨.str _, .str _, .str _, exact_texts codec routes, .obj ?_⟩
      simp only [List.mem_cons, List.not_mem_nil, or_false, forall_eq_or_imp, forall_eq]
      exact ⟨.str _, .nat _⟩
  | ping timeSent | pong timeSent =>
      simp only [kind, fields, List.mem_cons, List.not_mem_nil, or_false, forall_eq_or_imp, forall_eq]
      exact ⟨.str _, .nat _⟩
  | end_ conn =>
      simp only [kind, fields, List.mem_cons, List.not_mem_nil, or_false, forall_eq_or_imp, forall_eq]
      exact ⟨.str _, .nat _⟩
  | reset conn code =>
      simp only [kind, fields, List.mem_cons, List.not_mem_nil, or_false, forall_eq_or_imp, forall_eq]
      exact ⟨.str _, .nat _, .str _⟩

/-- What the server writes holds no floats but those of a ping. -/
theorem ServerControl.exact {codec : Codec F} {message : ServerControl F}
    (echoed : ∀ timeSent, message = .pong timeSent → codec.Exact timeSent) : codec.Exact message.json := by
  apply Codec.Exact.obj
  cases message with
  | attached session routes heartbeatMs idleTimeoutMs =>
      simp only [kind, fields, List.mem_cons, List.not_mem_nil, or_false, forall_eq_or_imp, forall_eq]
      exact ⟨.str _, .str _, exact_texts codec routes, .nat _, .nat _⟩
  | attachError code =>
      simp only [kind, fields, List.mem_cons, List.not_mem_nil, or_false, forall_eq_or_imp, forall_eq]
      exact ⟨.str _, .str _⟩
  | open_ conn peer sni alpn =>
      simp only [kind, fields, List.mem_cons, List.not_mem_nil, or_false, forall_eq_or_imp, forall_eq]
      exact ⟨.str _, .nat _, .str _, .str _, .str _⟩
  | ping timeSent =>
      simp only [kind, fields, List.mem_cons, List.not_mem_nil, or_false, forall_eq_or_imp, forall_eq]
      exact ⟨.str _, .nat _⟩
  | pong timeSent =>
      simp only [kind, fields, List.mem_cons, List.not_mem_nil, or_false, forall_eq_or_imp, forall_eq]
      exact ⟨.str _, echoed timeSent rfl⟩
  | drain reason =>
      simp only [kind, fields, List.mem_cons, List.not_mem_nil, or_false, forall_eq_or_imp, forall_eq]
      exact ⟨.str _, .str _⟩
  | end_ conn =>
      simp only [kind, fields, List.mem_cons, List.not_mem_nil, or_false, forall_eq_or_imp, forall_eq]
      exact ⟨.str _, .nat _⟩
  | reset conn code =>
      simp only [kind, fields, List.mem_cons, List.not_mem_nil, or_false, forall_eq_or_imp, forall_eq]
      exact ⟨.str _, .nat _, .str _⟩

theorem hear_spelled {codec : Codec F} (lawful : codec.Lawful) {message : ServerControl F} {members : List (String × Json F)}
    (whole : Extends members message.members) {text : Text} (spelled : codec.Spells (.obj members) text) :
    hear codec (.text text) = message.message.elim .ignored .control := by
  rw [hear, decode_spelled lawful whole spelled]
  cases message.message with
  | none => rfl
  | some heard => rfl

/-- An object of a type that the client does not know. -/
def Unknown (codec : Codec F) (text : Text) : Prop :=
  ∃ members kind, codec.read text = some (.obj members) ∧ field (latest members) "type" asText = some kind ∧
    kind ∉ serverTypes

/-- What is neither of an unknown type nor a message is invalid. -/
theorem decode_none {codec : Codec F} {text : Text} : decode codec text = .ok none ↔ Unknown codec text := by
  constructor
  · intro passed
    unfold decode at passed
    split at passed
    · rename_i members read
      split at passed
      · rename_i kind typed
        split at passed
        · rename_i unknown
          exact ⟨members, kind, read, typed, unknown⟩
        · split at passed
          · cases passed
          · cases passed
      · cases passed
    · cases passed
  · rintro ⟨members, kind, read, typed, unknown⟩
    simp only [decode, read, typed, if_pos unknown]

/-- A data frame is read from the bytes that are written for it, and from no others. -/
theorem hear_data {codec : Codec F} {bytes payload : Bytes} {conn : UInt32} :
    hear codec (.binary bytes) = .data conn payload ↔ bytes = dataFrame conn payload := by
  constructor
  · intro heard
    rw [hear] at heard
    cases decoded : decodeDataFrame bytes with
    | none =>
        rw [decoded] at heard
        cases heard
    | some found =>
        rw [decoded] at heard
        cases heard
        exact (dataFrame_of_decode decoded).symm
  · rintro rfl
    simp only [hear, decode_dataFrame]

/-- A client hears a control message of the server from any spelling of an object that has its members (a pong if its time
    is a number it can hold), takes for unknown exactly the objects of other types, and reads a data frame from its bytes
    only. Both clients have the same data frames. -/
theorem server_messages_heard {codec : Codec F} (lawful : codec.Lawful) :
    (∀ (message : ServerControl F) (members : List (String × Json F)) (text : Text), Extends members message.members →
      codec.Spells (.obj members) text → hear codec (.text text) = message.message.elim .ignored .control) ∧
    (∀ message : ServerControl F, (∀ timeSent, message = .pong timeSent → codec.Exact timeSent) →
      hear codec (Sent.frame codec (.control message)) = message.message.elim .ignored .control) ∧
    (∀ text, decode codec text = .ok none ↔ Unknown codec text) ∧
    (∀ bytes conn payload, hear codec (.binary bytes) = .data conn payload ↔ bytes = dataFrame conn payload) ∧
    (∀ (conn : UInt32) payload, buildDataFrame conn.toNat payload = dataFrame conn payload) ∧
    ∀ data, parseDataFrame data = (decodeDataFrame data).map fun found => (found.1.toNat, found.2) := by
  refine ⟨fun message members text whole spelled => hear_spelled lawful whole spelled, ?_, fun text => decode_none,
    fun bytes conn payload => hear_data, js_frames⟩
  intro message echoed
  exact hear_spelled lawful (Extends.self message.distinct) (lawful.writes (ServerControl.exact echoed))

theorem server_messages_heard_text :
    hear textCodec (Sent.frame textCodec (.control (.open_ 7 "192.0.2.1:443" "a.b" "h2"))) =
        .control (.open_ 7 "192.0.2.1:443" "a.b" "h2") ∧
      hear textCodec (Sent.frame textCodec (.control (.drain "server restarting"))) =
        .control (.drain "server restarting") ∧
      hear textCodec (Sent.frame textCodec (.data 7 [1, 2])) = .data 7 [1, 2] := by
  obtain ⟨_, controls, _, data, _⟩ := server_messages_heard textCodec_lawful
  exact ⟨controls (.open_ 7 "192.0.2.1:443" "a.b" "h2") nofun, controls (.drain "server restarting") nofun,
    (data _ 7 [1, 2]).mpr rfl⟩

/-- The server reads every message of a client, from any spelling of an object that has its members; and the pong to a ping
    brings back the ping's time. -/
theorem client_messages_read {codec : Codec F} (lawful : codec.Lawful) :
    (∀ (attached : Bool) (message : ClientMessage) (members : List (String × Json F)) (text : Text),
      Extends members message.members → codec.Spells (.obj members) text →
      readText codec attached text = message.action attached) ∧
    (∀ (attached : Bool) (message : ClientMessage),
      readText codec attached (codec.write message.json) = message.action attached) ∧
    ∀ timeSent answer, readText codec true (codec.write (ClientMessage.ping timeSent).json) = .pong answer →
      hear codec (Sent.frame codec (.control (.pong answer))) = .control (.pong timeSent) := by
  have written (attached : Bool) (message : ClientMessage) :
      readText codec attached (codec.write message.json) = message.action attached :=
    readText_spelled lawful attached (Extends.self message.distinct) (lawful.writes (ClientMessage.exact codec message))
  refine ⟨fun attached message members text whole spelled => readText_spelled lawful attached whole spelled, written, ?_⟩
  intro timeSent answer answered
  rw [written, ClientMessage.action, if_pos rfl] at answered
  cases answered
  have exact_ : codec.Exact (ServerControl.pong (.nat timeSent.toNat)).json := by
    apply ServerControl.exact
    intro echo is
    cases is
    exact .nat _
  have heard := hear_spelled lawful (Extends.self (ServerControl.distinct (.pong (.nat timeSent.toNat)))) (lawful.writes exact_)
  rw [ServerControl.message, asU64_nat] at heard
  exact heard

theorem client_messages_read_text :
    readText textCodec false (textCodec.write (ClientMessage.attach "t" ["a", "@", "a"] "1" 256).json) =
        .attach "t" ["a", "@"] (some 256) ∧
      readText textCodec true (textCodec.write (ClientMessage.reset 7 "x").json) = .reset 7 := by
  obtain ⟨_, written, _⟩ := client_messages_read textCodec_lawful
  exact ⟨(written false _).trans rfl, written true _⟩

end OpenTunnel.Control
