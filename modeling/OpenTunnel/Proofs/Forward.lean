/-
Module: OpenTunnel.Proofs.Forward
Layer: Proofs
Purpose: A forward header is read back as what was signed. The names that a machine can look up are those its peers
  announce, which are labels; with machine IDs, numbers, hex and addresses they are plain words, so the line splits
  where it was joined and fits the buffer. A proof fits no other fields than those it was made for.
Imports: OpenTunnel.Model.Forward, OpenTunnel.Proofs.MeshIndex, OpenTunnel.Proofs.PeerAuth, OpenTunnel.Proofs.ProxyRoundTrip,
  OpenTunnel.Proofs.RouteNames
Trusted boundary: none (fully proved)
Main exports: Mesh.Remote.AnnouncedOp, Mesh.Remote.Proper, Forward.Unforgeable, Forward.forward_read_back
Open obligations: none
-/
import OpenTunnel.Model.Forward
import OpenTunnel.Proofs.MeshIndex
import OpenTunnel.Proofs.PeerAuth
import OpenTunnel.Proofs.ProxyRoundTrip
import OpenTunnel.Proofs.RouteNames

namespace OpenTunnel.Mesh

open Tasks (Table)

/-! ### Names that can be looked up -/

/-- What a machine announces: an attached bridge of a tunnel, whose ID was generated or checked at its import, with routes
    that were checked when it attached. -/
def Entry.Announced (entry : Entry) : Prop :=
  validTunnelId entry.tunnel = true ∧ ∀ route ∈ entry.routes, isValidRoute route = true

def Frame.entries : Frame → List Entry
  | .snapshot _ _ entries _ => entries
  | .snapshotPart entries _ => entries
  | .attached _ entry => [entry]
  | _ => []

namespace Remote

/-- The handshake checks a peer's ID, and a peer announces what it has. -/
def AnnouncedOp : RemoteOp → Remote → Prop
  | .register hello _ _, _ => Forward.validId hello.machineId.toList = true
  | .apply _ _ frame _, _ => ∀ entry ∈ frame.entries, entry.Announced
  | .linkDown _ _, _ => True

/-- The names in the table are valid. -/
structure Proper (r : Remote) : Prop where
  named : ∀ machine peer, r.peers.get machine = some peer → Forward.validId peer.hello.machineId.toList = true
  entries : ∀ machine peer, r.peers.get machine = some peer → ∀ b entry, peer.entries.get b = some entry → entry.Announced
  index : ∀ tunnel pair, Has r.index tunnel pair → validTunnelId tunnel = true

section Proper

variable {r : Remote} {machine : MachineId} {peer : Peer} {index : Index} {entry : Entry}

/-- The tunnels of an index are valid. -/
def Labelled (index : Index) : Prop := ∀ tunnel pair, Has index tunnel pair → validTunnelId tunnel = true

/-- The entries of a peer are announced ones. -/
def AllAnnounced (entries : Table BridgeId Entry) : Prop := ∀ b entry, entries.get b = some entry → entry.Announced

theorem allAnnounced_empty : AllAnnounced Table.empty := by
  intro b entry held
  cases held

theorem AllAnnounced.put {entries : Table BridgeId Entry} (all : AllAnnounced entries) (announced : entry.Announced) :
    AllAnnounced (entries.put entry.bridge entry) := by
  intro b other held
  rw [Table.get_put] at held
  split at held
  · cases held
    exact announced
  · exact all b other held

/-- An announced entry keeps the index labelled. -/
theorem Labelled.add (labelled : Labelled index) (announced : entry.Announced) : Labelled (indexAdd index machine entry) := by
  intro tunnel pair has
  rcases has_indexAdd.mp has with before | ⟨rfl, _⟩
  · exact labelled tunnel pair before
  · exact announced.1

theorem Labelled.remove (labelled : Labelled index) : Labelled (indexRemove index machine entry) :=
  fun tunnel pair has => labelled tunnel pair (has_indexRemove.mp has).1

theorem Labelled.removeAll (labelled : Labelled index) (machine : MachineId) (entries : Table BridgeId Entry) :
    Labelled (indexRemoveAll index machine entries) :=
  fun tunnel pair has => labelled tunnel pair ((has_foldl_indexRemove _).mp has).1

/-- Adding announced entries keeps the tables as they should be. -/
theorem addAll_announced (machine : MachineId) (now : Nat) {list : List Entry} (announced : ∀ entry ∈ list, entry.Announced)
    {entries : Table BridgeId Entry} (labelled : Labelled index) (all : AllAnnounced entries) :
    Labelled (addAll machine now list (index, entries)).1 ∧ AllAnnounced (addAll machine now list (index, entries)).2 := by
  induction list generalizing index entries with
  | nil => exact ⟨labelled, all⟩
  | cons entry rest ih =>
      have own : Entry.Announced { entry with attachedAt := saneTime entry.attachedAt now } := announced entry List.mem_cons_self
      exact ih (fun entry later => announced entry (List.mem_cons_of_mem _ later)) (labelled.add own) (all.put own)

/-- So does a snapshot. -/
theorem addSnapshot_announced (machine : MachineId) (now : Nat) (peer : Peer) {list : List Entry}
    (announced : ∀ entry ∈ list, entry.Announced) {entries : Table BridgeId Entry} (labelled : Labelled index)
    (all : AllAnnounced entries) :
    Labelled (addSnapshot machine now peer list (index, entries)).1 ∧
      AllAnnounced (addSnapshot machine now peer list (index, entries)).2 := by
  unfold addSnapshot
  split
  · exact ⟨labelled, all⟩
  · exact addAll_announced machine now announced labelled all

/-- A peer may be replaced by one that is as it should be. -/
theorem Proper.replace (proper : Proper r) (valid : Forward.validId peer.hello.machineId.toList = true)
    (all : AllAnnounced peer.entries) (labelled : Labelled index) :
    Proper { peers := r.peers.put machine peer, index := index } where
  named := by
    intro m p held
    rw [Table.get_put] at held
    split at held
    · cases held
      exact valid
    · exact proper.named m p held
  entries := by
    intro m p held
    rw [Table.get_put] at held
    split at held
    · cases held
      exact all
    · exact proper.entries m p held
  index := labelled

theorem proper_empty : Proper empty where
  named := by
    intro machine peer held
    cases held
  entries := by
    intro machine peer held
    cases held
  index := by
    rintro tunnel pair ⟨holders, held, _⟩
    cases held

/-- A machine that is cleared leaves the rest as it should be. -/
theorem Proper.clear (proper : Proper r) (machine : MachineId) : Proper (r.clear machine) := by
  cases held : r.peers.get machine with
  | none => simpa [Remote.clear, held] using proper
  | some peer =>
      rw [clear_peer held]
      exact proper.replace (proper.named machine peer held) allAnnounced_empty (Labelled.removeAll proper.index machine peer.entries)

/-- A machine with a valid name may be registered. -/
theorem Proper.register (proper : Proper r) {hello : Hello} (valid : Forward.validId hello.machineId.toList = true)
    (link : LinkId) (dialer : String) : Proper (r.register hello link dialer).remote := by
  simp only [Remote.register]
  cases held : r.peers.get hello.machineId with
  | none => exact proper.replace valid allAnnounced_empty proper.index
  | some existing =>
      dsimp only
      split
      · exact proper
      · split
        · exact proper.replace valid (proper.entries _ existing held) proper.index
        · have cleared := proper.clear hello.machineId
          exact cleared.replace valid allAnnounced_empty cleared.index

/-- A link may go down. -/
theorem Proper.linkDown (proper : Proper r) (machine : MachineId) (link : LinkId) : Proper (r.linkDown machine link) := by
  simp only [Remote.linkDown]
  cases held : r.peers.get machine with
  | none => exact proper
  | some peer =>
      dsimp only
      split
      · exact proper
      · have cleared := proper.clear machine
        have kept : ∀ m p, (without (r.clear machine).peers machine).get m = some p →
            (r.clear machine).peers.get m = some p := by
          intro m p read
          rw [get_without] at read
          split at read
          · cases read
          · exact read
        exact {
          named := fun m p read => cleared.named m p (kept m p read)
          entries := fun m p read => cleared.entries m p (kept m p read)
          index := cleared.index }

/-- A frame of announced entries may be applied. -/
theorem Proper.apply (proper : Proper r) {link : LinkId} {frame : Frame} {now : Nat} {event : Option Event} {applied : Remote}
    (announced : ∀ entry ∈ frame.entries, entry.Announced)
    (ok : r.apply machine link frame now = .ok (event, applied)) : Proper applied := by
  unfold Remote.apply at ok
  cases held : r.peers.get machine with
  | none =>
      rw [held] at ok
      cases ok
  | some peer =>
      have valid := proper.named machine peer held
      have all : AllAnnounced peer.entries := proper.entries machine peer held
      have labelled : Labelled r.index := proper.index
      rw [held] at ok
      dsimp only at ok
      split at ok
      · cases ok
      · cases frame with
        | ping =>
            cases ok
            exact proper
        | unknown =>
            cases ok
            exact proper
        | hello _ => cases ok
        | snapshot epoch seq entries more =>
            dsimp only at ok
            split at ok
            · cases ok
            · cases ok
              have added := addSnapshot_announced machine now peer announced
                (labelled.removeAll machine peer.entries) allAnnounced_empty
              exact proper.replace valid added.2 added.1
        | snapshotPart entries more =>
            dsimp only at ok
            split at ok
            · cases ok
            · cases ok
              have added := addSnapshot_announced machine now peer announced labelled all
              exact proper.replace valid added.2 added.1
        | attached seq entry =>
            have own : Entry.Announced { entry with attachedAt := saneTime entry.attachedAt now } :=
              announced entry List.mem_cons_self
            dsimp only at ok
            split at ok
            · cases ok
            · split at ok
              · cases ok
              · split at ok
                · cases ok
                  exact proper.replace valid all labelled
                · cases ok
                  refine proper.replace valid (all.put own) (Labelled.add ?_ own)
                  split
                  · exact labelled.remove
                  · exact labelled
        | detached seq tunnel bridge =>
            dsimp only at ok
            split at ok
            · cases ok
            · split at ok
              · cases ok
                refine proper.replace valid ?_ labelled.remove
                intro b entry read
                rw [get_without] at read
                split at read
                · cases read
                · exact all b entry read
              · cases ok
                exact proper.replace valid all labelled
        | event event =>
            cases event with
            | leaving =>
                cases ok
                exact proper.replace valid allAnnounced_empty (labelled.removeAll machine peer.entries)
            | tunnelCreated _ =>
                cases ok
                exact proper
            | certificateChanged _ =>
                cases ok
                exact proper
            | tunnelDeleted _ =>
                cases ok
                exact proper
            | jobEnqueued =>
                cases ok
                exact proper
            | unknown =>
                cases ok
                exact proper

/-- Every table that is reached is as it should be. -/
theorem Reached.proper (reached : Reached AnnouncedOp r) : Proper r := by
  induction reached with
  | start => exact proper_empty
  | @step r op _ fits ih =>
      cases op with
      | register hello link dialer => exact ih.register fits link dialer
      | linkDown machine link => exact ih.linkDown machine link
      | apply machine link frame now =>
          unfold perform
          dsimp only
          split
          · rename_i ok
            exact ih.apply fits ok
          · exact ih

/-- What `locate` finds a holder for. -/
theorem Proper.locate (proper : Proper r) {tunnel : TunnelId} {pairs : List (MachineId × BridgeId)}
    (order : pairs.Perm ((r.index.get tunnel).getD [])) {route : String} {except : Option MachineId} {found : Location}
    (located : r.locate pairs route except = some found) :
    validTunnelId tunnel = true ∧ isValidRoute route = true ∧ Forward.validId found.machineId.toList = true := by
  obtain ⟨⟨entry, peer⟩, best, rfl⟩ := Option.map_eq_some_iff.mp located
  obtain ⟨pair, kept, leads⟩ := List.mem_filterMap.mp (newest_mem best)
  obtain ⟨listed, _⟩ := List.mem_filter.mp kept
  obtain ⟨held, read, _, claimed⟩ := claiming_eq_some.mp leads
  have announced := proper.entries pair.1 peer held pair.2 entry read
  exact ⟨proper.index tunnel pair ((mem_pairs order pair).mp listed), announced.2 route (by simpa using claimed),
    proper.named pair.1 peer held⟩

end Proper

end Remote

end OpenTunnel.Mesh

namespace OpenTunnel.Forward

open Formats

/-! ### Plain words -/

/-- A word of at most this many plain characters. -/
structure Word (most : Nat) (text : List Char) : Prop where
  plain : PlainText text
  short : text.length ≤ most

section Words

variable {text : List Char}

theorem PlainText.utf8 (plain : PlainText text) : utf8 text = text.map fun c => UInt8.ofNat c.toNat :=
  utf8_ascii fun c held => Nat.le_trans (plain c held).2 (by decide)

theorem PlainText.noSpace (plain : PlainText text) : ' ' ∉ text := by
  intro held
  have bounds := plain ' ' held
  revert bounds
  decide

/-- Bytes that are plain spell plain characters. -/
theorem plain_of_bytes (bytes : ∀ byte ∈ utf8 text, 33 ≤ byte.toNat ∧ byte.toNat ≤ 126) : PlainText text := by
  intro c held
  have own (byte : UInt8) (inside : byte ∈ String.utf8EncodeChar c) : 33 ≤ byte.toNat ∧ byte.toNat ≤ 126 :=
    bytes byte (List.mem_flatMap.mpr ⟨c, held, inside⟩)
  have range := char_range c
  have is : c.toNat = c.val.toNat := rfl
  unfold String.utf8EncodeChar at own
  dsimp only at own
  split at own
  · have first := own _ List.mem_cons_self
    rw [byte_toNat (by omega)] at first
    exact first
  · split at own
    · have first := own _ List.mem_cons_self
      rw [byte_toNat (by omega)] at first
      omega
    · split at own
      · have first := own _ List.mem_cons_self
        rw [byte_toNat (by omega)] at first
        omega
      · have first := own _ List.mem_cons_self
        rw [byte_toNat (by omega)] at first
        omega

/-- A valid machine name is a word. -/
theorem word_id (valid : validId text = true) : Word 191 text := by
  unfold validId at valid
  simp only [Bool.and_eq_true, List.all_eq_true, decide_eq_true_eq] at valid
  obtain ⟨⟨_, short⟩, all⟩ := valid
  have plain : PlainText text := plain_of_bytes fun byte held => (all byte held).1
  rw [PlainText.utf8 plain, List.length_map] at short
  exact ⟨plain, short⟩

theorem word_label {c : Char} (label : asciiLower c = true ∨ asciiDigit c = true ∨ c = '-') : 33 ≤ c.toNat ∧ c.toNat ≤ 126 := by
  rcases label with lower | digit | rfl
  · simp only [asciiLower, Bool.and_eq_true, decide_eq_true_eq, char_le_iff] at lower
    have low : 'a'.toNat = 97 := rfl
    have high : 'z'.toNat = 122 := rfl
    omega
  · simp only [asciiDigit, Bool.and_eq_true, decide_eq_true_eq, char_le_iff] at digit
    have low : '0'.toNat = 48 := rfl
    have high : '9'.toNat = 57 := rfl
    omega
  · decide

/-- So is a valid tunnel ID. -/
theorem word_tunnel {tunnel : String} (valid : validTunnelId tunnel = true) : Word 63 tunnel.toList := by
  unfold validTunnelId at valid
  simp only [Bool.and_eq_true, List.all_eq_true, Bool.or_eq_true, decide_eq_true_eq, beq_iff_eq] at valid
  obtain ⟨⟨⟨⟨_, short⟩, all⟩, _⟩, _⟩ := valid
  refine ⟨fun c held => ?_, short⟩
  rcases all c held with (lower | digit) | dash
  · exact word_label (.inl lower)
  · exact word_label (.inr (.inl digit))
  · exact word_label (.inr (.inr dash))

/-- The IDs that are generated are valid, as those of imported tunnels are. -/
theorem slug_valid {random : Bytes} (twelve : random.length = 12) : validTunnelId (String.ofList (slug random)) = true := by
  have each : ∀ n < 32, asciiLower ("abcdefghijklmnopqrstuvwxyz234567".toList.getD n 'a') = true ∨
      asciiDigit ("abcdefghijklmnopqrstuvwxyz234567".toList.getD n 'a') = true := by
    decide +kernel
  have letter : ∀ c ∈ slug random, asciiLower c = true ∨ asciiDigit c = true := by
    intro c held
    obtain ⟨byte, _, rfl⟩ := List.mem_map.mp held
    apply each
    rw [UInt8.toNat_and]
    exact Nat.lt_of_le_of_lt Nat.and_le_right (by decide)
  have noDash : '-' ∉ slug random := fun held => absurd (letter '-' held) (by decide)
  have size : (slug random).length = 12 := by rw [slug, List.length_map, twelve]
  unfold validTunnelId
  rw [String.toList_ofList]
  simp only [Bool.and_eq_true, Bool.not_eq_true', List.isEmpty_eq_false_iff, decide_eq_true_eq, List.all_eq_true, Bool.or_eq_true,
    bne_iff_ne]
  refine ⟨⟨⟨⟨?_, by omega⟩, fun c held => .inl (letter c held)⟩, ?_⟩, ?_⟩
  · intro none_
    rw [none_] at size
    cases size
  · exact fun head => noDash (List.mem_of_mem_head? head)
  · exact fun last => noDash (List.mem_of_getLast? last)

theorem label_short {route : String} (label : isLabel route = true) : route.toList.length ≤ 63 := by
  unfold isLabel at label
  generalize route.toList = chars at label ⊢
  match chars, label with
  | [only], _ => exact (by decide : 1 ≤ 63)
  | first :: second :: rest, valid =>
      simp only [Bool.and_eq_true, decide_eq_true_eq] at valid
      exact valid.1.1.1

/-- So is a valid route. -/
theorem word_route {route : String} (valid : isValidRoute route = true) : Word 63 route.toList := by
  unfold isValidRoute at valid
  rcases Bool.or_eq_true_iff.mp valid with root | label
  · rw [beq_iff_eq.mp root]
    exact ⟨by decide, by decide⟩
  · exact ⟨fun c held => word_label (isLabel_chars label c held), label_short label⟩

/-- So is a number. -/
theorem word_number {n : Nat} (fits : n < 2 ^ 64) : Word 20 (Nat.toDigits 10 n) where
  plain := plain_digits (digits_toDigits (by decide) (by decide) n)
  short := (Nat.length_toDigits_le_iff (by decide) (by decide)).mpr (Nat.lt_trans fits (by decide))

theorem hex_chars (bytes : Bytes) : PlainText (hex bytes) := by
  have each : ∀ n < 16, 33 ≤ (Nat.digitChar n).toNat ∧ (Nat.digitChar n).toNat ≤ 126 := by decide
  intro c held
  obtain ⟨byte, _, here⟩ := List.mem_flatMap.mp held
  have small := byte.toNat_lt
  simp only [List.mem_cons, List.not_mem_nil, or_false] at here
  rcases here with rfl | rfl
  · exact each _ (by omega)
  · exact each _ (by omega)

theorem hex_length (bytes : Bytes) : (hex bytes).length = 2 * bytes.length := by
  induction bytes with
  | nil => rfl
  | cons byte bytes ih =>
      rw [hex, List.flatMap_cons, List.length_append, ← hex, ih, List.length_cons]
      simp
      omega

/-- So are bytes in hexadecimal. -/
theorem word_hex {bytes : Bytes} {most : Nat} (short : bytes.length ≤ most) : Word (2 * most) (hex bytes) := by
  refine ⟨hex_chars bytes, ?_⟩
  rw [hex_length]
  omega

/-- So is an address. -/
theorem word_visitor (visitor : SocketAddr) : Word 61 visitor.display := by
  have port (n : UInt16) : Word 5 (decimal n.toNat) := by
    refine ⟨plain_digits (digits_toDigits (by decide) (by decide) _), ?_⟩
    exact (Nat.length_toDigits_le_iff (by decide) (by decide)).mpr (Nat.lt_trans n.toNat_lt (by decide))
  cases visitor with
  | v4 ip n =>
      have colon : ":".toList = [':'] := by decide
      have host := ProxyReader.length_display_v4 ip
      have tail := (port n).short
      rw [SocketAddr.display, colon]
      refine ⟨plain_append (plain_append (plain_display_v4 ip) (by decide)) (port n).plain, ?_⟩
      simp only [List.length_append, List.length_singleton]
      omega
  | v6 ip n flowinfo scope =>
      have bracket : "[".toList = ['['] := by decide
      have percent : "%".toList = ['%'] := by decide
      have colon : "]:".toList = [']', ':'] := by decide
      have host := ProxyReader.length_display_v6 ip
      have tail := (port n).short
      have zone : Word 11 (if scope = 0 then [] else ['%'] ++ decimal scope.toNat) := by
        split
        · exact ⟨by decide, by decide⟩
        · refine ⟨plain_append (by decide) (plain_digits (digits_toDigits (by decide) (by decide) _)), ?_⟩
          have digits : (decimal scope.toNat).length ≤ 10 :=
            (Nat.length_toDigits_le_iff (by decide) (by decide)).mpr (Nat.lt_trans scope.toNat_lt (by decide))
          rw [List.length_append, List.length_singleton]
          omega
      have middle := zone.short
      rw [SocketAddr.display, bracket, percent, colon]
      refine ⟨plain_append (plain_append (plain_append (plain_append (by decide) (plain_display_v6 ip)) zone.plain) (by decide))
        (port n).plain, ?_⟩
      simp only [List.length_append, List.length_cons, List.length_nil]
      omega

end Words

/-! ### Numbers and proofs -/

theorem hexByte_digits : ∀ high < 16, ∀ low < 16,
    hexByte (UInt8.ofNat (Nat.digitChar high).toNat) (UInt8.ofNat (Nat.digitChar low).toNat) = some (UInt8.ofNat (16 * high + low)) := by
  decide +kernel

/-- Bytes are read back from their hexadecimal form. -/
theorem hexBytes_hex (bytes : Bytes) : hexBytes ((hex bytes).map fun c => UInt8.ofNat c.toNat) = some bytes := by
  induction bytes with
  | nil => rfl
  | cons byte bytes ih =>
      have small := byte.toNat_lt
      have digits := hexByte_digits (byte.toNat / 16) (by omega) (byte.toNat % 16) (by omega)
      rw [Nat.div_add_mod, UInt8.ofNat_toNat] at digits
      have spelled : (hex (byte :: bytes)).map (fun c => UInt8.ofNat c.toNat) = UInt8.ofNat (Nat.digitChar (byte.toNat / 16)).toNat ::
          UInt8.ofNat (Nat.digitChar (byte.toNat % 16)).toNat :: (hex bytes).map (fun c => UInt8.ofNat c.toNat) := rfl
      rw [spelled, hexBytes, digits, ih]
      rfl

/-- A short one is read back whole. -/
theorem decodeHex_hex {bytes : Bytes} (short : bytes.length ≤ 64) : decodeHex (utf8 (hex bytes)) = some bytes := by
  rw [PlainText.utf8 (hex_chars bytes), decodeHex, List.length_map, hex_length, if_neg (by omega)]
  exact hexBytes_hex bytes

theorem digit_byte {c : Char} {digit : Nat} (is : toDigit 10 c = some digit) : c.toNat = 48 + digit ∧ digit < 10 := by
  have small := toDigit_lt is
  obtain ⟨value, _⟩ := Option.filter_eq_some_iff.mp is
  unfold digitValue at value
  simp only [Bool.and_eq_true, decide_eq_true_eq, char_le_iff] at value
  have zero : '0'.toNat = 48 := rfl
  have a : 'a'.toNat = 97 := rfl
  have capital : 'A'.toNat = 65 := rfl
  split at value
  · cases value
    omega
  · split at value
    · cases value
      omega
    · split at value
      · cases value
        omega
      · cases value

theorem foldl_digits {digits : List Char} (all : Digits 10 digits) (init : Nat) :
    (digits.map fun c => UInt8.ofNat c.toNat).foldl (fun value byte => 10 * value + (byte.toNat - 48)) init =
      numeralFrom 10 init digits := by
  induction digits generalizing init with
  | nil => rfl
  | cons c digits ih =>
      obtain ⟨digit, is⟩ := Option.isSome_iff_exists.mp (all c List.mem_cons_self)
      obtain ⟨value, small⟩ := digit_byte is
      have byte : (UInt8.ofNat c.toNat).toNat = 48 + digit := by
        rw [byte_toNat (by omega), value]
      have step : 10 * init + (48 + digit - 48) = init * 10 + digit := by omega
      rw [List.map_cons, List.foldl_cons, byte, step, ih (fun c held => all c (List.mem_cons_of_mem _ held))]
      rw [numeralFrom, numeralFrom, List.foldl_cons, is]
      rfl

theorem parseU64_of {first : UInt8} {rest : Bytes} (digits : ∀ byte ∈ first :: rest, 48 ≤ byte.toNat ∧ byte.toNat ≤ 57)
    {n : Nat} (value : (first :: rest).foldl (fun value byte => 10 * value + (byte.toNat - 48)) 0 = n) (fits : n < 2 ^ 64) :
    parseU64 (first :: rest) = some n := by
  have all : (first :: rest).all (fun byte => 48 ≤ byte.toNat && byte.toNat ≤ 57) = true := by
    rw [List.all_eq_true]
    intro byte held
    simpa using digits byte held
  unfold parseU64
  dsimp only
  split
  · rename_i plus
    have bounds := digits 43 (by rw [plus]; exact List.mem_cons_self)
    exact absurd bounds.1 (by decide)
  · rw [if_neg (by rw [all]; simp), value, if_pos fits]

/-- A number is read back from its digits. -/
theorem parseU64_number {n : Nat} (fits : n < 2 ^ 64) : parseU64 (utf8 (Nat.toDigits 10 n)) = some n := by
  have all : Digits 10 (Nat.toDigits 10 n) := digits_toDigits (by decide) (by decide) n
  have number : numeral 10 (Nat.toDigits 10 n) = n := numeral_toDigits (by decide) (by decide) n
  have folded := (foldl_digits all 0).trans number
  rw [PlainText.utf8 (plain_digits all)]
  have each : ∀ byte ∈ (Nat.toDigits 10 n).map (fun c => UInt8.ofNat c.toNat), 48 ≤ byte.toNat ∧ byte.toNat ≤ 57 := by
    intro byte held
    obtain ⟨c, here, rfl⟩ := List.mem_map.mp held
    obtain ⟨digit, value⟩ := Option.isSome_iff_exists.mp (all c here)
    obtain ⟨spelled, small⟩ := digit_byte value
    rw [byte_toNat (by omega)]
    omega
  cases is : (Nat.toDigits 10 n).map (fun c => UInt8.ofNat c.toNat) with
  | nil => exact absurd (List.map_eq_nil_iff.mp is) Nat.toDigits_ne_nil
  | cons first rest =>
      rw [is] at each folded
      exact parseU64_of each folded fits

/-! ### The line -/

/-- What a signed header tells. -/
structure Fields where
  sender : List Char
  receiver : List Char
  timestamp : List Char
  nonce : List Char
  tunnel : List Char
  route : List Char
  visitor : List Char

namespace Fields

def words (fields : Fields) (proof : List Char) : List (List Char) :=
  [fields.sender, fields.receiver, fields.timestamp, fields.nonce, fields.tunnel, fields.route, fields.visitor, proof]

/-- What is signed. -/
def parts (fields : Fields) : List Bytes :=
  [forwardLabel, fields.sender, fields.receiver, fields.timestamp, fields.nonce, fields.tunnel, fields.route,
    fields.visitor].map utf8

/-- Each field is a plain word, and all of them fit a line. -/
structure Plain (fields : Fields) : Prop where
  sender : Word 191 fields.sender
  receiver : Word 191 fields.receiver
  timestamp : Word 20 fields.timestamp
  nonce : Word 32 fields.nonce
  tunnel : Word 63 fields.tunnel
  route : Word 63 fields.route
  visitor : Word 61 fields.visitor

variable {fields : Fields} {proof : List Char}

/-- The words of a line are plain. -/
theorem Plain.each (plain : fields.Plain) (proves : Word 64 proof) : ∀ word ∈ fields.words proof, PlainText word := by
  intro word held
  simp only [words, List.mem_cons, List.not_mem_nil, or_false] at held
  rcases held with rfl | rfl | rfl | rfl | rfl | rfl | rfl | rfl
  · exact plain.sender.plain
  · exact plain.receiver.plain
  · exact plain.timestamp.plain
  · exact plain.nonce.plain
  · exact plain.tunnel.plain
  · exact plain.route.plain
  · exact plain.visitor.plain
  · exact proves.plain

/-- The line is short enough for its reader. -/
theorem Plain.line_length (plain : fields.Plain) (proves : Word 64 proof) :
    ([' '].intercalate (fields.words proof)).length ≤ 692 := by
  have sender := plain.sender.short
  have receiver := plain.receiver.short
  have timestamp := plain.timestamp.short
  have nonce := plain.nonce.short
  have tunnel := plain.tunnel.short
  have route := plain.route.short
  have visitor := plain.visitor.short
  have proof := proves.short
  simp only [words, List.intercalate_cons_cons, List.intercalate_singleton, List.length_append, List.length_singleton]
  omega

/-- Plain text has one byte for each character, and no line feed. -/
theorem line_bytes {text : List Char} (chars : ∀ c ∈ text, 32 ≤ c.toNat ∧ c.toNat ≤ 126) :
    (utf8 text).length = text.length ∧ 10 ∉ utf8 text := by
  have spelled : utf8 text = text.map fun c => UInt8.ofNat c.toNat := by
    apply utf8_ascii
    intro c held
    have bounds := chars c held
    omega
  rw [spelled]
  refine ⟨List.length_map _, ?_⟩
  intro newline
  obtain ⟨c, held, is⟩ := List.mem_map.mp newline
  have bounds := chars c held
  have value := congrArg UInt8.toNat is
  rw [byte_toNat (by omega)] at value
  have ten : (10 : UInt8).toNat = 10 := rfl
  omega

/-- The line is split where it was joined. -/
theorem parseLine_words (each : ∀ word ∈ fields.words proof, PlainText word)
    (small : (utf8 ([' '].intercalate (fields.words proof))).length < 2 ^ 32) :
    ∃ request, parseLine (utf8 ([' '].intercalate (fields.words proof))) small = some request ∧ request.parts = fields.parts ∧
      request.receiver = utf8 fields.receiver ∧ request.timestamp = utf8 fields.timestamp ∧
      request.nonce = utf8 fields.nonce ∧ request.proof = utf8 proof := by
  have words : ([' '].intercalate (fields.words proof)).splitOn ' ' = fields.words proof :=
    List.splitOn_intercalate ' ' (fun word held => PlainText.noSpace (each word held)) (List.cons_ne_nil _ _)
  unfold parseLine
  split
  · rename_i wrong
    rw [fromUtf8_utf8] at wrong
    cases wrong
  · rename_i chars is
    rw [fromUtf8_utf8] at is
    cases is
    split
    · rename_i a b c d e f g h is
      rw [words] at is
      cases is
      exact ⟨_, rfl, rfl, rfl, rfl, rfl, rfl⟩
    · rename_i other
      exact absurd words (other _ _ _ _ _ _ _ _)

/-- The bytes of the line that `open` writes. -/
def line (fields : Fields) (proof : List Char) : Bytes := utf8 ([' '].intercalate (fields.words proof))

end Fields

section Sender

variable (hmac : Bytes → Bytes) (machineId : List Char) (now : Nat) (random : Bytes)

/-- What a machine signs for a visitor. -/
def fieldsOf (receiver tunnel route visitor : List Char) : Fields where
  sender := machineId
  receiver := receiver
  timestamp := Nat.toDigits 10 now
  nonce := hex random
  tunnel := tunnel
  route := route
  visitor := visitor

/-- The header is the line of the fields, with its proof, behind the magic. -/
theorem header_line (receiver tunnel route visitor : List Char) (initial : Bytes) :
    header hmac machineId now random receiver tunnel route visitor initial =
      some (forwardMagic ++ ((fieldsOf machineId now random receiver tunnel route visitor).line
        (hex (hmac (message (fieldsOf machineId now random receiver tunnel route visitor).parts))) ++ 10 :: initial)) := by
  have proof := PlainText.noSpace (hex_chars (hmac (message (fieldsOf machineId now random receiver tunnel route visitor).parts)))
  have cut := rsplitOnce_last proof (machineId ++ ' ' :: (receiver ++ ' ' :: (Nat.toDigits 10 now ++ ' ' :: hex random)))
  have signed : sign hmac machineId now random forwardLabel receiver [tunnel, route, visitor] =
      (machineId ++ ' ' :: (receiver ++ ' ' :: (Nat.toDigits 10 now ++ ' ' :: hex random))) ++
        ' ' :: hex (hmac (message (fieldsOf machineId now random receiver tunnel route visitor).parts)) := by
    simp only [sign, List.append_assoc, List.cons_append]
    rfl
  have newline : utf8 ['\n'] = [10] := by decide
  unfold header
  simp only [signed, cut, Option.bind_eq_bind, Option.bind_some, Option.some.injEq, List.append_cancel_left_eq]
  generalize hex (hmac (message (fieldsOf machineId now random receiver tunnel route visitor).parts)) = proof
  have joined : [' '].intercalate ((fieldsOf machineId now random receiver tunnel route visitor).words proof) ++ ['\n'] =
      machineId ++ ' ' :: (receiver ++ ' ' :: (Nat.toDigits 10 now ++ ' ' :: hex random)) ++
        ' ' :: (tunnel ++ ' ' :: (route ++ ' ' :: (visitor ++ ' ' :: (proof ++ ['\n'])))) := by
    simp [Fields.words, fieldsOf, List.intercalate_cons_cons]
  rw [← joined, utf8_append, newline, Fields.line, List.append_assoc]
  rfl

end Sender

/-! ### Reading -/

/-- The line ends at its line feed. -/
theorem findIdx_newline {front behind : Bytes} (clear : 10 ∉ front) :
    (front ++ 10 :: behind).findIdx? (· == 10) = some front.length := by
  have none_ : front.findIdx? (· == 10) = none := by
    rw [List.findIdx?_eq_none_iff]
    intro byte held
    rw [beq_eq_false_iff_ne]
    rintro rfl
    exact clear held
  rw [List.findIdx?_append, none_]
  simp [List.findIdx?_cons]

/-- The line is found however it arrives. -/
theorem readHeader_line {front behind : Bytes} (clear : 10 ∉ front) (short : front.length < maxHeader) {reads : List Chunk}
    (some_ : ∀ read ∈ reads, read.1 ≠ []) {buffer : Bytes} (small : buffer.length < 2 ^ 32)
    (is : buffer ++ (reads.map Subtype.val).flatten = front ++ 10 :: behind) :
    ∃ found rest, readHeader reads buffer small = some found ∧ found.lineEnd = front.length ∧
      found.buffer = front ++ 10 :: rest ∧ rest ++ (found.reads.map Subtype.val).flatten = behind := by
  induction reads generalizing buffer with
  | nil =>
      rw [List.map_nil, List.flatten_nil, List.append_nil] at is
      subst is
      rw [readHeader, findIdx_newline clear]
      exact ⟨_, behind, rfl, rfl, rfl, by simp⟩
  | cons chunk reads ih =>
      by_cases there : front.length < buffer.length
      · have taken : (front ++ 10 :: behind).take buffer.length = buffer := by
          rw [← is, List.take_left]
        obtain ⟨rest, whole⟩ : ∃ rest, buffer = front ++ 10 :: rest := by
          obtain ⟨more, length⟩ : ∃ more, buffer.length = front.length + (more + 1) := ⟨buffer.length - front.length - 1, by omega⟩
          rw [length, List.take_length_add_append, List.take_succ_cons] at taken
          exact ⟨_, taken.symm⟩
        subst whole
        rw [readHeader, findIdx_newline clear]
        refine ⟨_, rest, rfl, rfl, rfl, ?_⟩
        rw [List.append_assoc, List.cons_append] at is
        exact List.cons_inj_right _ |>.mp (List.append_cancel_left is)
      · have none_ : buffer.findIdx? (· == 10) = none := by
          have inside : buffer <+: front := by
            apply List.prefix_of_prefix_length_le _ (List.prefix_append front (10 :: behind)) (Nat.not_lt.mp there)
            rw [← is]
            exact List.prefix_append _ _
          rw [List.findIdx?_eq_none_iff]
          intro byte held
          rw [beq_eq_false_iff_ne]
          rintro rfl
          exact clear (inside.subset held)
        have more : chunk.1.isEmpty = false := by
          simpa using some_ chunk List.mem_cons_self
        have room : ¬ buffer.length ≥ maxHeader := by omega
        have joined : buffer ++ chunk.1 ++ (reads.map Subtype.val).flatten = front ++ 10 :: behind := by
          rw [List.append_assoc, ← is]
          rfl
        have size : (buffer ++ chunk.1).length < 2 ^ 32 := by
          have fits := chunk.2
          rw [List.length_append]
          unfold maxHeader at room
          omega
        obtain ⟨found, rest, done, rest_⟩ := ih (fun read held => some_ read (List.mem_cons_of_mem _ held)) size joined
        refine ⟨found, rest, ?_, rest_⟩
        rw [readHeader, none_]
        simp only [dif_neg room, more]
        exact done

/-- A request that is addressed, fresh, new and proven is verified. -/
theorem verify_ok {hmac : Bytes → Bytes} {machineId : Bytes} {request : SignedRequest} {now signed : Nat} {seen : Nonces}
    (addressed : request.receiver = machineId) (parsed : parseU64 request.timestamp = some signed)
    (inWindow : fresh signed now = true) (proven : decodeHex request.proof = some (hmac (message request.parts)))
    (unused : request.nonce ∉ (forgetNonces seen now).map (·.1)) :
    verifyRequest hmac machineId request now seen = (.ok (), (request.nonce, signed) :: forgetNonces seen now) := by
  have proves_ : proves hmac request.parts request.proof = true := by simp [proves, proven]
  simp [verifyRequest, addressed, parsed, inWindow, proves_, firstUse, unused]

/-- What is verified has the proof of its own parts. -/
theorem verified_proof {hmac : Bytes → Bytes} {machineId : List Char} {now : Nat} {seen seen' : Nonces} {reads reads' : List Chunk}
    {request : SignedRequest} {rest : Bytes} (verified : receive hmac machineId now seen reads = .verified request rest reads' seen') :
    decodeHex request.proof = some (hmac (message request.parts)) := by
  unfold receive at verified
  split at verified
  · cases verified
  · split at verified
    · cases verified
    · split at verified
      · cases verified
      · dsimp only at verified
        split at verified
        · cases verified
        · split at verified
          · cases verified
          · rename_i parsed _ _ accepted
            cases verified
            rcases verify_cases hmac (utf8 machineId) request now seen with ⟨_, _, checked, _⟩ | ⟨refusal, _, refused, _⟩
            · exact checked.proven
            · rw [refused] at accepted
              cases accepted

/-- A line that is proven and fresh is received with its fields. -/
theorem receive_line {hmac : Bytes → Bytes} {fields : Fields} {proof : List Char} (plain : fields.Plain) (proves : Word 64 proof)
    (proven : decodeHex (utf8 proof) = some (hmac (message fields.parts))) {signed : Nat}
    (parsed : parseU64 (utf8 fields.timestamp) = some signed) {initial : Bytes} {reads : List Chunk}
    (some_ : ∀ read ∈ reads, read.1 ≠ [])
    (is : (reads.map Subtype.val).flatten = forwardMagic ++ (fields.line proof ++ 10 :: initial)) {now : Nat} {seen : Nonces}
    (inWindow : fresh signed now = true) (unused : utf8 fields.nonce ∉ (forgetNonces seen now).map (·.1)) :
    ∃ request rest reads' seen', receive hmac fields.receiver now seen reads = .verified request rest reads' seen' ∧
      request.parts = fields.parts ∧ rest ++ (reads'.map Subtype.val).flatten = initial := by
  have each := plain.each proves
  obtain ⟨size, clear⟩ := Fields.line_bytes (joined_chars each)
  have long := plain.line_length proves
  have magic : forwardMagic.length = 21 ∧ 10 ∉ forwardMagic := by decide +kernel
  have noNewline : 10 ∉ forwardMagic ++ fields.line proof := by
    rw [List.mem_append]
    rintro (inMagic | inLine)
    · exact magic.2 inMagic
    · exact clear inLine
  have fits : (forwardMagic ++ fields.line proof).length < maxHeader := by
    rw [List.length_append, magic.1, Fields.line, size, maxHeader]
    omega
  have whole : ([] : Bytes) ++ (reads.map Subtype.val).flatten = (forwardMagic ++ fields.line proof) ++ 10 :: initial := by
    rw [List.nil_append, is, List.append_assoc]
  obtain ⟨found, rest, done, lineEnd, buffer, left⟩ := readHeader_line noNewline fits some_ (by decide) whole
  have front : forwardMagic <+: found.buffer := by
    rw [buffer, List.append_assoc]
    exact List.prefix_append _ _
  have notMesh : ¬ meshMagic.isPrefixOf found.buffer = true := by
    intro mesh
    have both := List.prefix_of_prefix_length_le (List.isPrefixOf_iff_prefix.mp mesh) front (by decide +kernel)
    exact absurd (List.isPrefixOf_iff_prefix.mpr both) (by decide +kernel)
  have line : (found.buffer.take found.lineEnd).drop forwardMagic.length = fields.line proof := by
    rw [buffer, lineEnd, List.take_left, List.drop_left]
  have behind : found.buffer.drop (found.lineEnd + 1) = rest := by
    rw [buffer, lineEnd, List.drop_length_add_append]
    rfl
  have small : ((found.buffer.take found.lineEnd).drop forwardMagic.length).length < 2 ^ 32 := by
    rw [line, Fields.line, size]
    omega
  obtain ⟨request, read, parts, receiver, timestamp, nonce, proof_⟩ :
      ∃ request, parseLine ((found.buffer.take found.lineEnd).drop forwardMagic.length) small = some request ∧
        request.parts = fields.parts ∧ request.receiver = utf8 fields.receiver ∧ request.timestamp = utf8 fields.timestamp ∧
        request.nonce = utf8 fields.nonce ∧ request.proof = utf8 proof := by
    revert small
    rw [line]
    exact Fields.parseLine_words each
  have accepted := verify_ok receiver (by rw [timestamp, parsed]) inWindow (by rw [proof_, parts, proven]) (by rw [nonce]; exact unused)
  refine ⟨request, rest, found.reads, (request.nonce, signed) :: forgetNonces seen now, ?_, parts, left⟩
  unfold receive
  rw [done]
  simp only [if_neg notMesh, List.isPrefixOf_iff_prefix.mpr front, Bool.not_true, Bool.false_eq_true, if_false]
  rw [read]
  simp only [accepted, behind]

/-- The proofs of what machines with the secret have signed fit nothing else. -/
structure Unforgeable (hmac : Bytes → Bytes) (made : List (List Bytes)) : Prop where
  short : ∀ parts ∈ made, ∀ part ∈ parts, part.length < 2 ^ 32
  apart : ∀ parts ∈ made, ∀ bytes, hmac bytes = hmac (message parts) → bytes = message parts

/-- A header with the proof of what was signed is verified for that alone. -/
theorem verified_parts {hmac : Bytes → Bytes} {made : List (List Bytes)} (unforgeable : Unforgeable hmac made) {parts : List Bytes}
    (signed : parts ∈ made) {machineId : List Char} {now : Nat} {seen seen' : Nonces} {reads reads' : List Chunk}
    {request : SignedRequest} {rest : Bytes} (verified : receive hmac machineId now seen reads = .verified request rest reads' seen')
    (proof : decodeHex request.proof = some (hmac (message parts))) : request.parts = parts := by
  have own := Option.some.inj ((verified_proof verified).symm.trans proof)
  exact message_injective request.short (unforgeable.short parts signed) (unforgeable.apart parts signed _ own)

/-- The fields of a holder that was located are plain. -/
theorem plain_fields {sender receiver : List Char} {now : Nat} {random : Bytes} {tunnel route : String} (visitor : SocketAddr)
    (valid : validId sender = true) (valid' : validId receiver = true) (clock : now < 2 ^ 64) (sixteen : random.length = 16)
    (isTunnel : validTunnelId tunnel = true) (isRoute : isValidRoute route = true) :
    (fieldsOf sender now random receiver tunnel.toList route.toList visitor.display).Plain where
  sender := word_id valid
  receiver := word_id valid'
  timestamp := word_number clock
  nonce := word_hex (Nat.le_of_eq sixteen)
  tunnel := word_tunnel isTunnel
  route := word_route isRoute
  visitor := word_visitor visitor

/-- The header of a visitor whose route is located is read back as what was signed, with what follows it, however it
    arrives; and a header whose proof was made for other fields than its own is not verified. -/
theorem forward_read_back {hmac : Bytes → Bytes} (size : ∀ bytes, (hmac bytes).length = 32) {r : Mesh.Remote}
    (reached : Mesh.Remote.Reached Mesh.Remote.AnnouncedOp r) {tunnel route : String} {pairs : List (MachineId × BridgeId)}
    (order : pairs.Perm ((r.index.get tunnel).getD [])) {except : Option MachineId} {location : Mesh.Location}
    (located : r.locate pairs route except = some location) {sender : List Char} (valid : validId sender = true)
    (visitor : SocketAddr) {now : Nat} (clock : now < 2 ^ 64) {random : Bytes} (sixteen : random.length = 16) (initial : Bytes) :
    (∃ bytes, header hmac sender now random location.machineId.toList tunnel.toList route.toList visitor.display initial = some bytes ∧
      ∀ (reads : List Chunk) (now' : Nat) (seen : Nonces), (∀ read ∈ reads, read.1 ≠ []) → (reads.map Subtype.val).flatten = bytes →
        fresh now now' = true → utf8 (hex random) ∉ (forgetNonces seen now').map (·.1) →
        ∃ request rest reads' seen',
          receive hmac location.machineId.toList now' seen reads = .verified request rest reads' seen' ∧
          request.parts = (fieldsOf sender now random location.machineId.toList tunnel.toList route.toList visitor.display).parts ∧
          rest ++ (reads'.map Subtype.val).flatten = initial) ∧
    ∀ (made : List (List Bytes)) (parts : List Bytes), Unforgeable hmac made → parts ∈ made →
      ∀ machineId now' seen reads request rest reads' seen',
        receive hmac machineId now' seen reads = .verified request rest reads' seen' →
        decodeHex request.proof = some (hmac (message parts)) → request.parts = parts := by
  obtain ⟨isTunnel, isRoute, isMachine⟩ := reached.proper.locate order located
  have plain := plain_fields visitor valid isMachine clock sixteen isTunnel isRoute
  constructor
  · refine ⟨_, header_line hmac sender now random _ _ _ _ initial, fun reads now' seen some_ is inWindow unused => ?_⟩
    have proves : Word 64 (hex (hmac (message
        (fieldsOf sender now random location.machineId.toList tunnel.toList route.toList visitor.display).parts))) :=
      word_hex (Nat.le_of_eq (size _))
    have proven := decodeHex_hex (Nat.le_trans (Nat.le_of_eq (size _)) (by decide) :
      (hmac (message (fieldsOf sender now random location.machineId.toList tunnel.toList route.toList visitor.display).parts)).length
        ≤ 64)
    exact receive_line plain proves proven (parseU64_number clock) some_ is inWindow unused
  · intro made parts unforgeable signed machineId now' seen reads request rest reads' seen' verified proof
    exact verified_parts unforgeable signed verified proof

namespace Sample

/-- `m2` is linked and holds the root of tunnel `t`. -/
def remote : Mesh.Remote :=
  ((Mesh.Remote.empty.perform (.register ⟨"m2", "r", "[::1]:1", 1, 1, false⟩ 1 "m2")).perform
    (.apply "m2" 1 (.snapshot 1 0 [⟨"t", 7, ["@"], 5⟩] false) 1000))

theorem remote_reached : Mesh.Remote.Reached Mesh.Remote.AnnouncedOp remote := by
  apply Mesh.Remote.Reached.step
  · exact .step _ .start (by decide +kernel : validId "m2".toList = true)
  · intro entry held
    rw [List.mem_singleton.mp held]
    exact ⟨by decide +kernel, by decide +kernel⟩

def visitor : SocketAddr := .v4 ⟨192, 0, 2, 7⟩ 443

def fields : Fields := fieldsOf "m1".toList 1000 (List.replicate 16 0) "m2".toList "t".toList "@".toList visitor.display

/-- HMAC-SHA256 with the key `secret`, of what is signed for the visitor; other messages have another tag. -/
def hmac (bytes : Bytes) : Bytes :=
  if bytes = message fields.parts then
    [207, 82, 24, 197, 69, 28, 151, 22, 36, 250, 166, 140, 74, 238, 47, 237, 91, 202, 142, 233, 135, 137, 248, 23, 185, 214, 33, 58, 100, 225, 137, 208]
  else List.replicate 32 0

def single (byte : UInt8) : Chunk := ⟨[byte], Nat.one_lt_two_pow (by decide)⟩

theorem hmac_size (bytes : Bytes) : (hmac bytes).length = 32 := by
  unfold hmac
  split
  · rfl
  · rfl

theorem hmac_unforgeable : Unforgeable hmac [fields.parts] where
  short := by
    intro parts held
    rw [List.mem_singleton.mp held]
    decide +kernel
  apart := by
    intro parts held bytes same
    rw [List.mem_singleton.mp held] at same ⊢
    unfold hmac at same
    rw [if_pos rfl] at same
    split at same
    · assumption
    · exact absurd same (by decide)

end Sample

/-- The bytes of the header arrive one at a time. -/
theorem forward_read_back_sample :
    (∃ bytes, header Sample.hmac "m1".toList 1000 (List.replicate 16 0) "m2".toList "t".toList "@".toList Sample.visitor.display [22] =
        some bytes ∧
      ∃ request rest reads' seen',
        receive Sample.hmac "m2".toList 2000 [] (bytes.map Sample.single) = .verified request rest reads' seen' ∧
        request.parts = Sample.fields.parts ∧ rest ++ (reads'.map Subtype.val).flatten = [22]) ∧
    ∀ machineId now' seen reads request rest reads' seen',
      receive Sample.hmac machineId now' seen reads = .verified request rest reads' seen' →
      decodeHex request.proof = some (Sample.hmac (message Sample.fields.parts)) → request.parts = Sample.fields.parts := by
  obtain ⟨⟨bytes, written, read⟩, sound⟩ := forward_read_back Sample.hmac_size Sample.remote_reached
    (List.Perm.refl ((Sample.remote.index.get "t").getD []))
    (by decide +kernel : Sample.remote.locate ((Sample.remote.index.get "t").getD []) "@" none = some ⟨"m2", "r", "[::1]:1"⟩)
    (by decide +kernel : validId "m1".toList = true) Sample.visitor (by decide : 1000 < 2 ^ 64)
    (by decide : (List.replicate 16 (0 : UInt8)).length = 16) [22]
  refine ⟨⟨bytes, written, read _ 2000 [] ?_ ?_ (by decide) (by decide +kernel)⟩, sound _ _ Sample.hmac_unforgeable List.mem_cons_self⟩
  · intro chunk held
    obtain ⟨byte, _, rfl⟩ := List.mem_map.mp held
    exact List.cons_ne_nil _ _
  · rw [List.map_map]
    exact List.flatMap_singleton' bytes

end OpenTunnel.Forward
