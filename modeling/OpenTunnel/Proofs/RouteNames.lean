/-
Module: OpenTunnel.Proofs.RouteNames
Layer: Proofs
Purpose: Route names agree. Three functions strip a tunnel's hostname from a server name; on the names a server opens
  connections for they agree, but for one: a label `@` before the hostname, which the server takes for the hostname
  itself and the client does not. That the routes bridges claim are valid, and that hostnames are `<id>.<domain>`, are
  invariants of the system; a history variable holds the connections that were opened.
Imports: OpenTunnel.Tasks.Ghost, OpenTunnel.Model.Routing, OpenTunnel.Model.Sample, OpenTunnel.Proofs.Records
Trusted boundary: none (fully proved)
Main exports: routeForSni_iff, routeOf_routeName, Named, Routed, openings, routes_agree
Open obligations: none
-/
import OpenTunnel.Tasks.Ghost
import OpenTunnel.Model.Routing
import OpenTunnel.Model.Sample
import OpenTunnel.Proofs.Records

namespace OpenTunnel

open Tasks Semantics

/-! ### The functions -/

section Functions

variable {sni id domain hostname route : String}

theorem isLabel_chars (label : isLabel route = true) :
    ∀ c ∈ route.toList, asciiLower c = true ∨ asciiDigit c = true ∨ c = '-' := by
  unfold isLabel at label
  generalize route.toList = chars at label ⊢
  match chars, label with
  | [only], valid =>
      simp only [Bool.or_eq_true] at valid
      intro c listed
      rw [List.mem_singleton.mp listed]
      exact valid.imp_right Or.inl
  | first :: second :: rest, valid =>
      simp only [Bool.and_eq_true, Bool.or_eq_true, List.all_eq_true, beq_iff_eq] at valid
      obtain ⟨⟨⟨-, head⟩, last⟩, middle⟩ := valid
      intro c listed
      rcases List.mem_cons.mp listed with rfl | inside
      · exact head.imp_right Or.inl
      · rw [← List.dropLast_concat_getLast (List.cons_ne_nil second rest), List.mem_append] at inside
        rcases inside with front | back
        · rcases middle c front with (lower | digit) | dash
          · exact Or.inl lower
          · exact Or.inr (Or.inl digit)
          · exact Or.inr (Or.inr dash)
        · rw [List.getLast?_eq_some_getLast (List.cons_ne_nil second rest), Option.any_some, Bool.or_eq_true,
            ← List.mem_singleton.mp back] at last
          exact last.imp_right Or.inl

theorem toAsciiLower_lower {c : Char} (label : asciiLower c = true ∨ asciiDigit c = true ∨ c = '-') :
    toAsciiLower c = c := by
  unfold toAsciiLower
  rw [if_neg]
  intro upper
  simp only [Bool.and_eq_true, decide_eq_true_eq] at upper
  rcases label with lower | digit | rfl
  · simp only [asciiLower, Bool.and_eq_true, decide_eq_true_eq] at lower
    exact absurd (Char.le_trans lower.1 upper.2) (by decide)
  · simp only [asciiDigit, Bool.and_eq_true, decide_eq_true_eq] at digit
    exact absurd (Char.le_trans upper.1 digit.2) (by decide)
  · exact absurd upper.1 (by decide)

@[simp] theorem toAsciiLowercase_append (a b : String) :
    toAsciiLowercase (a ++ b) = toAsciiLowercase a ++ toAsciiLowercase b := by
  simp [toAsciiLowercase, String.ofList_append]

/-- Labels are lowercase. -/
theorem toAsciiLowercase_label (label : isLabel route = true) : toAsciiLowercase route = route := by
  unfold toAsciiLowercase
  rw [List.map_congr_left fun c listed => toAsciiLower_lower (isLabel_chars label c listed), List.map_id',
    String.ofList_toList]

/-- A route a bridge may claim is not empty and has no dot. -/
theorem validRoute_plain (valid : isValidRoute route = true) : route ≠ "" ∧ '.' ∉ route.toList := by
  simp only [isValidRoute, Bool.or_eq_true, beq_iff_eq] at valid
  rcases valid with rfl | label
  · decide
  · constructor
    · rintro rfl
      revert label
      decide
    · intro dotted
      rcases isLabel_chars label '.' dotted with lower | digit | dash
      · revert lower
        decide
      · revert digit
        decide
      · revert dash
        decide

theorem length_append_ne {a b : String} (longer : a ≠ "") : a ++ b ≠ b := by
  intro same
  have lengths := congrArg (fun text => text.toList.length) same
  simp only [String.toList_append, List.length_append] at lengths
  have none_ : a.toList.length = 0 := by omega
  exact longer (String.toList_inj.mp (List.length_eq_zero_iff.mp none_))

/-- The client finds the route the server found, unless the server name is `@` and a dot before the hostname. -/
theorem routeForSni_iff (valid : isValidRoute route = true) (found : World.routeOf hostname sni = some route) :
    routeForSni sni hostname = some route ↔ sni ≠ "@." ++ hostname := by
  rcases routeOf_eq_some.mp found with ⟨rfl, rfl⟩ | ⟨_, rfl⟩
  · -- the hostname itself
    constructor
    · intro _ same
      exact length_append_ne (by decide) same.symm
    · intro _
      simp [routeForSni]
  · -- a label before it
    have dot : toAsciiLowercase "." = "." := by decide
    have apart : toAsciiLowercase route ++ ("." ++ toAsciiLowercase hostname) ≠ toAsciiLowercase hostname := by
      rw [← String.append_assoc]
      apply length_append_ne
      intro empty
      have := congrArg String.toList empty
      simp at this
    have client : routeForSni (route ++ ("." ++ hostname)) hostname =
        if isLabel (toAsciiLowercase route) then some (toAsciiLowercase route) else none := by
      unfold routeForSni
      simp only [toAsciiLowercase_append, dot]
      rw [if_neg apart, ← String.append_assoc]
      simp
    rw [client]
    simp only [isValidRoute, Bool.or_eq_true, beq_iff_eq] at valid
    rcases valid with rfl | label
    · -- `@` is not a label
      constructor
      · intro wrong
        have unlabelled : isLabel (toAsciiLowercase "@") = false := by decide
        simp [unlabelled] at wrong
      · intro differs
        exact absurd (by rw [← String.append_assoc]; rfl) differs
    · rw [toAsciiLowercase_label label, if_pos label]
      constructor
      · intro _ same
        have front : route = "@" := by
          rw [← String.append_assoc, show "@." = "@" ++ "." from rfl] at same
          have chars := congrArg String.toList same
          simp only [String.toList_append, List.append_cancel_right_eq] at chars
          exact String.toList_inj.mp chars
        rw [front] at label
        revert label
        decide
      · intro _
        rfl

/-- The machine the visitor reached and the one that holds the bridge find the same route. -/
theorem routeOf_routeName (named : routeName sni id domain = some route) :
    World.routeOf (id ++ "." ++ domain) sni = some route := by
  unfold routeName at named
  simp only [Option.bind_eq_bind, Option.bind_eq_some_iff] at named
  obtain ⟨front, domained, labels, dotted, rest⟩ := named
  rw [stripSuffix_eq_some] at domained dotted
  subst dotted
  subst domained
  apply routeOf_eq_some.mpr
  split at rest
  · rename_i root
    cases rest
    exact Or.inl ⟨by rw [root], rfl⟩
  · rename_i below
    simp only [Option.bind_eq_some_iff] at rest
    obtain ⟨front', ided, route', dotted', chosen⟩ := rest
    rw [stripSuffix_eq_some] at ided dotted'
    subst dotted'
    subst ided
    split at chosen
    · cases chosen
      refine Or.inr ⟨?_, by simp [String.append_assoc]⟩
      intro same
      simp only [String.append_assoc] at same
      exact length_append_ne (a := route ++ ".") (b := id ++ ("." ++ domain)) (by simp) (by simpa [String.append_assoc] using same)
    · cases chosen

/-- And the other way around, for the routes bridges may claim. -/
theorem routeName_routeOf (valid : isValidRoute route = true)
    (found : World.routeOf (id ++ "." ++ domain) sni = some route) : routeName sni id domain = some route := by
  obtain ⟨some_, plain⟩ := validRoute_plain valid
  rcases routeOf_eq_some.mp found with ⟨rfl, rfl⟩ | ⟨_, rfl⟩
  · simp [routeName]
  · have shape : route ++ ("." ++ (id ++ "." ++ domain)) = route ++ "." ++ id ++ "." ++ domain := by
      simp [String.append_assoc]
    have below : route ++ "." ++ id ≠ id := length_append_ne (by simp)
    rw [shape]
    simp [routeName, below, plain, some_]

end Functions

/-! ### Hostnames -/

/-- The record is the tunnel's, and its hostname is the one the domain gives it. -/
def StoredTunnel.NamedAs (record : StoredTunnel) (id : TunnelId) (domain : String) : Prop :=
  record.id = id ∧ record.hostname = id ++ "." ++ domain

/-- Every record the servers hold is named after its tunnel. -/
structure World.Named (w : World) (domain : String) : Prop where
  rows : ∀ id row, w.db.row id = some row → row.record.NamedAs id domain
  cached : ∀ m id record, (w.entry m id).record = some record → record.NamedAs id domain
  staged : ∀ id open_ row, w.db.transactions.get id = some open_ → open_.staged = some row →
    row.record.NamedAs id domain

/-- The acts that bring names into the system bring the right ones: a new record's hostname, an imported record's, the
    routes of a bridge, and the tunnel of a server name. -/
def Act.Proper (domain : String) : Act → Prop
  | .save id (.create hostname _ _) => hostname = id ++ "." ++ domain
  | .importInsert record _ => record.hostname = record.id ++ "." ++ domain
  | .importUpdate record _ => record.hostname = record.id ++ "." ++ domain
  | .attachBridge _ _ _ routes _ _ => ∀ route ∈ routes, isValidRoute route = true
  | .pick id hostname _ sni => hostname = id ++ "." ++ domain ∧ tunnelId sni domain = some id
  | _ => True

section Names

variable {setup : Setup} {t : Task} {op : Act} {c : Choice} {w w' : World} {ans : op.Ans}

theorem Change.apply_named {id : TunnelId} {domain : String} {change : Change} {before : Option StoredTunnel}
    {record : StoredTunnel} (made : change.apply id before = some record)
    (named : ∀ r, before = some r → r.NamedAs id domain) (proper : (Act.save id change).Proper domain) :
    record.NamedAs id domain := by
  cases before with
  | none =>
      cases change <;> simp only [apply, Option.some.injEq, reduceCtorEq] at made
      rw [← made]
      exact ⟨rfl, proper⟩
  | some r =>
      have same := named r rfl
      cases change <;> simp only [apply, Option.some.injEq] at made <;> rw [← made]
      case create => exact ⟨rfl, proper⟩
      all_goals exact same

theorem World.Named.each {domain : String} (named : w.Named domain) : w.Each fun id record => record.NamedAs id domain :=
  ⟨named.rows, named.cached, named.staged⟩

theorem World.Each.named {domain : String} (each : w.Each fun id record => record.NamedAs id domain) : w.Named domain :=
  ⟨each.rows, each.cached, each.staged⟩

theorem World.Named.step (named : w.Named setup.domain) (proper : op.Proper setup.domain)
    (h : exec setup t op c w = some (ans, w')) : w'.Named setup.domain := by
  have writes : op.Writes (fun id record => record.NamedAs id setup.domain) t w := by
    constructor
    · rintro id change record rfl made
      exact Change.apply_named made (named.cached t.machine id) proper
    · rintro record alarmAt rfl
      exact ⟨rfl, proper⟩
    · rintro record alarmAt rfl
      exact ⟨rfl, proper⟩
  exact (named.each.step (fun _ _ named => named.1) writes h).named

/-! ### Routes -/

/-- Every bridge's routes are valid. -/
def World.Routed (w : World) : Prop :=
  ∀ m b bridge, w.bridge m b = some bridge → ∀ route ∈ bridge.routes, isValidRoute route = true

theorem SameBridges.routed (same : SameBridges w w') (routed : w.Routed) : w'.Routed := by
  intro m b bridge found
  rcases same.kept m b with ⟨-, none_⟩ | ⟨old, new, before, after, kept⟩
  · rw [none_] at found
    cases found
  · rw [after] at found
    cases found
    rw [kept.routes]
    exact routed m b old before

theorem World.Routed.step (routed : w.Routed) (proper : op.Proper setup.domain)
    (h : exec setup t op c w = some (ans, w')) : w'.Routed := by
  cases exec_bridges h with
  | same same => exact same.routed routed
  | registered id is held after =>
      intro m b bridge found
      rw [after, World.bridge_registerBridge] at found
      split at found
      · cases found
        split <;> simp [Bridge.close]
      · exact routed m b bridge found
  | retired id is held after =>
      intro m b bridge found
      rw [after, World.bridge_retireStale] at found
      split at found
      · obtain ⟨old, before, rfl⟩ := Option.map_eq_some_iff.mp found
        exact routed m b old before
      · exact routed m b bridge found
  | attached id b' session routes maxConns now is held after =>
      subst is
      intro m b bridge found
      rw [after, World.bridge_attachBridge] at found
      split at found
      · obtain ⟨old, before, rfl⟩ := Option.map_eq_some_iff.mp found
        exact proper
      · exact routed m b bridge found
  | closed id b' is held after =>
      intro m b bridge found
      rw [after, World.bridge_closedBridge] at found
      split at found
      · obtain ⟨old, before, rfl⟩ := Option.map_eq_some_iff.mp found
        exact routed m b old before
      · exact routed m b bridge found

theorem pick_bridge {m : MachineId} {id : TunnelId} {hostname sni : String} {ready : Bool} {b : BridgeId} {conn : Nat}
    (picked : (w.pick setup m id hostname ready sni).1 = .bridge b conn) :
    ∃ route bridge, World.routeOf hostname sni = some route ∧ w.bridge m b = some bridge ∧
      bridge.claims route = true := by
  unfold World.pick at picked
  dsimp only at picked
  split at picked
  · rename_i b' bridge found
    obtain ⟨route, asked, found⟩ := Option.bind_eq_some_iff.mp found
    have claims := List.find?_some found
    have listed := List.mem_of_find?_eq_some found
    obtain ⟨b'', -, stored⟩ := List.mem_filterMap.mp listed
    obtain ⟨bridge', stored, same⟩ := Option.map_eq_some_iff.mp stored
    cases same
    split at picked
    · split at picked
      · cases picked
      · cases picked
        exact ⟨route, bridge, asked, stored, claims⟩
    · cases picked
  · cases picked

end Names

/-! ### Programs -/

section Programs

variable {setup : Setup} {m : MachineId} {id : TunnelId} {α : Type} {domain : String}

/-- Acts that bring no names. -/
theorem proper_of_tag {op : Act} (create : op.tag ≠ .save .create) (imports : op.tag ≠ .importing)
    (attaches : op.tag ≠ .attach) (connects : op.tag ≠ .connect) : op.Proper domain := by
  cases op
  case save id change =>
      cases change
      case create => exact absurd rfl create
      all_goals trivial
  case importInsert => exact absurd rfl imports
  case importUpdate => exact absurd rfl imports
  case attachBridge => exact absurd rfl attaches
  case pick => exact absurd rfl connects
  all_goals trivial

theorem proper_of_uses {p : Call α} {tags : List Tag} (uses : Uses tags p) (create : Tag.save .create ∉ tags)
    (imports : Tag.importing ∉ tags) (attaches : Tag.attach ∉ tags) (connects : Tag.connect ∉ tags) :
    Obeys (Act.Proper domain) p := by
  refine ⟨uses.all.mono ?_⟩
  intro op tagged
  apply proper_of_tag
  · exact fun is => create (is ▸ tagged)
  · exact fun is => imports (is ▸ tagged)
  · exact fun is => attaches (is ▸ tagged)
  · exact fun is => connects (is ▸ tagged)

theorem create_proper {tokenHash : String} :
    ObeysE (Act.Proper setup.domain) (create setup m id tokenHash) := by
  have locks : Uses [.look, .read] (lockFresh setup m id).run := obeys_run inferInstance
  unfold create
  apply obeysE_bind
  · exact ⟨(proper_of_uses locks (by decide) (by decide) (by decide) (by decide)).all⟩
  · intro _
    exact obeysE_holding .of_rules ⟨fun _ => trivial⟩

theorem attachLocked_proper {b : BridgeId} {token : String} {routes : List String} {maxConns : Option Nat}
    {alarm : Option (Option Nat)} :
    ObeysE (Act.Proper domain) (attachLocked setup m id b token routes maxConns alarm) := by
  unfold attachLocked
  apply obeysE_bind (obeysE_lift (obeys_act trivial))
  intro e
  split
  · exact obeysE_pure _
  · split
    · exact obeysE_pure _
    · rename_i accepted
      have valid : ∀ route ∈ routes, isValidRoute route = true := by
        intro route listed
        simp only [Bool.or_eq_true, List.any_eq_true, not_or] at accepted
        have := accepted.2
        simp only [not_exists, not_and] at this
        simpa using this route listed
      have attaches (session : String) (now : Nat) :
          Obeys (Act.Proper domain) (act (.attachBridge id b session routes maxConns now)) := obeys_act valid
      exact .of_rules

theorem session_proper (requests : List AttachRequest) :
    Obeys (Act.Proper domain) (session setup m id requests) := by
  have locks : Uses [.look, .read] (lockForAttach setup m id).run := obeys_run inferInstance
  have registers : Uses [.look, .read, .register] (registerBridge setup m id).run := obeys_run inferInstance
  have attaches (b : BridgeId) (requests : List AttachRequest) :
      Obeys (Act.Proper domain) (attachUntil setup m id b requests) := by
    induction requests with
    | nil => exact obeys_pure ()
    | cons request rest ih =>
        unfold attachUntil attach
        apply obeys_bind
        · apply obeys_run
          apply obeysE_bind
          · exact ⟨(proper_of_uses locks (by decide) (by decide) (by decide) (by decide)).all⟩
          · intro alarm
            exact obeysE_holding attachLocked_proper ⟨fun _ => trivial⟩
        · intro result
          split
          · exact obeys_pure ()
          · exact ih
  unfold session
  apply obeys_bind (proper_of_uses registers (by decide) (by decide) (by decide) (by decide))
  intro result
  split
  · rename_i b
    have closes : Uses [.look, .closed] (bridgeClosed id b) := inferInstance
    apply obeys_bind (attaches b requests)
    intro _
    exact proper_of_uses closes (by decide) (by decide) (by decide) (by decide)
  · exact obeys_pure ()

/-- An imported record's hostname is checked. -/
theorem checkImport_hostname {X : Externals} {record : StoredTunnel} (passed : checkImport X record domain = .ok ()) :
    record.hostname = record.id ++ "." ++ domain := by
  by_cases named : record.hostname = record.id ++ "." ++ domain
  · exact named
  · unfold checkImport at passed
    cases valid : validTunnelId record.id with
    | false => simp [valid, bind, Except.bind] at passed
    | true => simp [valid, named, bind, Except.bind] at passed

theorem import_proper : ImportsObey setup (Act.Proper setup.domain) where
  inserts := fun _ _ checked => checkImport_hostname checked
  updates := fun _ _ checked => checkImport_hostname checked
  selects := fun _ => trivial
  commits := fun _ => trivial
  forgets := by
    intro op within
    apply proper_of_tag
    all_goals
      intro is
      simp [Act.Within, is] at within

/-- Every operation but `route` takes the names it brings from where they were checked. -/
theorem program_proper (t : Task) (job : Operation) (visits : Tag.connect ∉ footprint job) :
    Obeys (Act.Proper setup.domain) (program setup t job) := by
  have uses := program_uses setup t job
  cases job with
  | create id tokenHash => exact obeys_ignore create_proper
  | session id requests => exact session_proper requests
  | importFile force records => exact importFile_obeys import_proper force records
  | route id sni => exact absurd (by simp [footprint]) visits
  | _ => exact proper_of_uses uses (by simp [footprint]) (by simp [footprint]) (by simp [footprint]) visits

end Programs

/-! ### Opened connections -/

/-- A connection a server opened to a bridge: the machine that holds the bridge, the tunnel, the server name, the bridge
    as it was, and the route it was opened on. -/
structure Opened where
  machine : MachineId
  id : TunnelId
  sni : String
  carrier : Option Bridge
  route : Option String

/-- Follows the connections that are opened. -/
def openings (setup : Setup) : Ghost (system setup) (List Opened) where
  call := fun t op ans w _ opened =>
    match op, ans with
    | .pick id hostname _ sni, .bridge b _ =>
        opened ++ [⟨t.machine, id, sni, w.bridge t.machine b, World.routeOf hostname sni⟩]
    | _, _ => opened

/-- Opened on a route its bridge claims, for the tunnel and route of the server name. -/
structure Opened.Sound (o : Opened) (domain : String) (route : String) : Prop where
  opened : o.route = some route
  claimed : o.carrier.any (·.claims route) = true
  valid : isValidRoute route = true
  tunnel : tunnelId o.sni domain = some o.id
  routed : World.routeOf (o.id ++ "." ++ domain) o.sni = some route

/-- Public connections are routed for the tunnel their server name asks for (`route_tunnel`). -/
def Visits (setup : Setup) (job : Task → Operation) : Prop :=
  ∀ t id sni, job t = .route id sni → tunnelId sni setup.domain = some id

/-- Names are as they should be everywhere, and every connection so far was opened as its server name asks for. -/
def nameRules (setup : Setup) : Rules Task (World × List Opened) where
  inv := fun s => s.1.Named setup.domain ∧ s.1.Routed ∧ ∀ o ∈ s.2, ∃ route, o.Sound setup.domain route
  rely := fun _ _ _ => True

section Runs

variable {setup : Setup} {job : Task → Operation} {t : Task} {op : Act} {c : Choice} {s s' : World × List Opened}
  {ans : op.Ans}

/-- What an act opens. -/
theorem openings_step (history : s'.2 = (openings setup).call t op ans s.1 s'.1 s.2) :
    s'.2 = s.2 ∨ ∃ id hostname ready sni b conn, op = .pick id hostname ready sni ∧ HEq ans (RouteAnswer.bridge b conn) ∧
      s'.2 = s.2 ++ [⟨t.machine, id, sni, s.1.bridge t.machine b, World.routeOf hostname sni⟩] := by
  rw [history]
  cases op
  case pick id hostname ready sni =>
      cases ans with
      | bridge b conn => exact Or.inr ⟨id, hostname, ready, sni, b, conn, rfl, HEq.rfl, rfl⟩
      | rejected tunnelExists outcome => exact Or.inl rfl
  all_goals exact Or.inl rfl

theorem harmless_of_proper (inv : (nameRules setup).inv s) (proper : op.Proper setup.domain)
    (h : ((system setup).withGhost (openings setup)).exec t op c s = some (ans, s')) :
    (nameRules setup).Harmless t s s' := by
  obtain ⟨named, routed, sound⟩ := inv
  obtain ⟨executed, history⟩ := withGhost_exec.mp h
  have executed : exec setup t op c s.1 = some (ans, s'.1) := executed
  refine ⟨⟨named.step proper executed, routed.step proper executed, ?_⟩, fun _ _ => trivial⟩
  rcases openings_step history with same | ⟨id, hostname, ready, sni, b, conn, rfl, answered, same⟩
  · rw [same]
    exact sound
  · rw [same]
    intro o listed
    rcases List.mem_append.mp listed with before | now
    · exact sound o before
    · rw [List.mem_singleton.mp now]
      have answered := eq_of_heq answered
      subst answered
      simp only [exec] at executed
      obtain ⟨-, picked⟩ := World.onEntry_spec executed
      obtain ⟨route, bridge, asked, found, claims⟩ := pick_bridge (by rw [picked])
      obtain ⟨hostnamed, tunnel⟩ := proper
      have valid : isValidRoute route = true := by
        simp only [Bridge.claims, Bool.and_eq_true, List.contains_iff_mem] at claims
        exact routed _ _ _ found _ claims.2
      exact ⟨route, asked, by simpa [found] using claims, valid, tunnel, hostnamed ▸ asked⟩

theorem safe_of_proper {α : Type} {p : Call α} (obeys : Obeys (Act.Proper setup.domain) p) (s : World × List Opened) :
    (nameRules setup).Safe ((running setup job).withGhost (openings setup)) t p (fun _ _ => True) s := by
  refine Rules.safe_of_all (fun _ _ _ _ _ => trivial) ?_ obeys.all trivial
  intro op c s ans s' proper inv _ _ executed
  exact ⟨harmless_of_proper inv proper executed, trivial⟩

/-- `route` reads the hostname it strips from the record it holds the lock of. -/
theorem route_safe {id : TunnelId} {sni : String} (asked : tunnelId sni setup.domain = some id)
    (s : World × List Opened) :
    (nameRules setup).Safe ((running setup job).withGhost (openings setup)) t (route setup t.machine id sni).run
      (fun _ _ => True) s := by
  have locks : Uses [.look, .read] (lockRoutable setup t.machine id).run := obeys_run inferInstance
  unfold route
  refine Rules.safe_exceptBind (Rules.safe_mono
    (safe_of_proper (proper_of_uses locks (by decide) (by decide) (by decide) (by decide)) s) ?_)
  intro result s₁ _
  cases result with
  | error err => trivial
  | ok _ =>
  refine Rules.safe_bind (Rules.safe_mono (Q := fun _ _ => True) ?_ ?_)
  · refine Rules.safe_liftBind (Rules.safe_act fun s₂ _ inv₂ c e s₃ _ executed => ?_)
    have proper : (Act.peek id).Proper setup.domain := trivial
    refine ⟨harmless_of_proper inv₂ proper executed, ?_⟩
    have peeked : exec setup t (.peek id) c s₂.1 = some (e, s₃.1) := (withGhost_exec.mp executed).1
    obtain ⟨-, held, -⟩ := exec_peek peeked
    split
    · trivial
    · rename_i record live
      have named : record.NamedAs id setup.domain := by
        rw [held] at live
        exact inv₂.1.cached t.machine id record (Option.filter_eq_some_iff.mp live).1
      have obeys : ObeysE (Act.Proper setup.domain) (do
          act (.retireStale id)
          let answer ← act (.pick id record.hostname record.certificateReady sni)
          return answer) := by
        have picks : Obeys (Act.Proper setup.domain) (act (.pick id record.hostname record.certificateReady sni)) :=
          obeys_act ⟨named.2, asked⟩
        exact .of_rules
      exact safe_of_proper (obeys_run obeys) s₃
  · intro result s₂ _
    have unlocks : Obeys (Act.Proper setup.domain) (act (.unlock id)) := obeys_act trivial
    exact safe_of_proper (obeys_bind unlocks fun _ => obeys_pure result) s₂

theorem operation_named (visits : Visits setup job) (s : World × List Opened) :
    (nameRules setup).Safe ((running setup job).withGhost (openings setup)) t (program setup t (job t))
      (fun _ _ => True) s := by
  by_cases connects : Tag.connect ∈ footprint (job t)
  · cases is : job t with
    | route id sni =>
        refine Rules.safe_bind (Rules.safe_mono (route_safe (visits t id sni is) s) ?_)
        intro _ _ _
        trivial
    | _ => simp [is, footprint] at connects
  · exact safe_of_proper (program_proper t (job t) connects) s

theorem move_named {mv : Move} (inv : (nameRules setup).inv s)
    (h : ((system setup).withGhost (openings setup)).move mv s = some s') : (nameRules setup).inv s' := by
  obtain ⟨moved, history⟩ := withGhost_move.mp h
  obtain ⟨named, routed, sound⟩ := inv
  refine ⟨(named.each.move moved).named, (move_bridges moved).routed routed, ?_⟩
  rw [history]
  exact sound

end Runs

/-- Servers that start on a database whose records are named after their tunnels. -/
theorem World.Started.named {w : World} {domain : String} (started : w.Started)
    (named : ∀ id row, w.db.row id = some row → row.record.hostname = id ++ "." ++ domain) : w.Named domain := by
  apply World.Each.named
  apply started.each
  intro id row found
  exact ⟨(started.db.rows id row found).1, named id row found⟩

theorem World.Started.routed {w : World} (started : w.Started) : w.Routed := by
  intro m b bridge found
  unfold World.bridge at found
  rw [started.machines m] at found
  cases found

/-- Route names agree: every connection a server opens is opened on a route its bridge claims, which is the one
    `tunnel_id` and `route_name` find for its server name; the client finds the same one unless the server name is `@`
    and a dot before the tunnel's hostname. A visitor is forwarded to the machine located by the route that machine
    then finds. -/
theorem routes_agree (setup : Setup) (job : Task → Operation) (visits : Visits setup job) {w₀ : World}
    (started : w₀.Started) (named : ∀ id row, w₀.db.row id = some row → row.record.hostname = id ++ "." ++ setup.domain)
    {cfg : Config Task Act Act.Ans (World × List Opened)}
    (reach : ((system setup).withGhost (openings setup)).Reach ((running setup job).withGhost (openings setup))
      (idle (w₀, [])) cfg) :
    (∀ o ∈ cfg.shared.2, ∃ route, o.route = some route ∧ o.carrier.any (·.claims route) = true ∧
      tunnelId o.sni setup.domain = some o.id ∧ routeName o.sni o.id setup.domain = some route ∧
      (routeForSni o.sni (o.id ++ "." ++ setup.domain) = some route ↔
        o.sni ≠ "@." ++ (o.id ++ "." ++ setup.domain))) ∧
    ∀ sni id route, tunnelId sni setup.domain = some id → routeName sni id setup.domain = some route →
      World.routeOf (id ++ "." ++ setup.domain) sni = some route := by
  constructor
  · have inv : (nameRules setup).inv cfg.shared := by
      refine (Reach.safe (R := nameRules setup) reach ?_ ?_ ?_).1
      · exact ⟨started.named named, started.routed, by simp⟩
      · rintro t _ s rfl _
        exact operation_named visits s
      · intro mv s s' _ inv moved
        exact ⟨move_named inv moved, fun _ => trivial⟩
    intro o listed
    obtain ⟨route, sound⟩ := inv.2.2 o listed
    exact ⟨route, sound.opened, sound.claimed, sound.tunnel, routeName_routeOf sound.valid sound.routed,
      routeForSni_iff sound.valid sound.routed⟩
  · intro sni id route _ located
    exact routeOf_routeName located

namespace Sample

/-- A client attaches the root route of tunnel `a`, and a visitor asks for this server name. -/
def visiting (sni : String) (t : Task) : Operation :=
  if t.number = 0 then .session "a" [⟨"secret", ["@"], none⟩] else .route "a" sni

/-- The session attaches, then the visitor is routed. -/
def visit (sni : String) : Option (Config Task Act Act.Ans (World × List Opened)) :=
  play ((running (setup false) (visiting sni)).withGhost (openings (setup false)))
    ([.start ⟨"m1", 0⟩ (visiting sni ⟨"m1", 0⟩)] ++ List.replicate 18 (.call ⟨"m1", 0⟩ plain) ++
      [.start ⟨"m1", 1⟩ (visiting sni ⟨"m1", 1⟩)] ++ List.replicate 6 (.call ⟨"m1", 1⟩ plain))
    (idle (world (db [tunnel "2027-04-15T08:00:00.000Z"]), []))

theorem visiting_visits {sni : String} (asked : tunnelId sni "opentunnel.test" = some "a") :
    Visits (setup false) (visiting sni) := by
  intro t id sni' is
  unfold visiting at is
  split at is
  · cases is
  · cases is
    exact asked

theorem db_named (expiry : String) (id : TunnelId) (row : Row) (found : (db [tunnel expiry]).row id = some row) :
    row.record.hostname = id ++ "." ++ (setup false).domain := by
  simp only [db, List.foldl_cons, List.foldl_nil, Db.row_putRow] at found
  split at found
  · rename_i here
    cases found
    rw [here]
    rfl
  · cases found

/-- The connections opened: tunnel, server name, whether the bridge claimed the root route, and the route. -/
def opened (sni : String) : Option (List (TunnelId × String × Bool × Option String)) :=
  (visit sni).map fun cfg => cfg.shared.2.map fun o => (o.id, o.sni, o.carrier.any (·.claims "@"), o.route)

end Sample

/-- For the hostname itself the client finds the route the connection was opened on. -/
theorem routes_agree_root :
    ∃ cfg, ((system (Sample.setup false)).withGhost (openings (Sample.setup false))).Reach
        ((running (Sample.setup false) (Sample.visiting "a.opentunnel.test")).withGhost (openings (Sample.setup false)))
        (idle (Sample.world (Sample.db [Sample.tunnel "2027-04-15T08:00:00.000Z"]), [])) cfg ∧
      ∃ o ∈ cfg.shared.2, o.route = some "@" ∧ routeForSni o.sni "a.opentunnel.test" = some "@" := by
  have seen : Sample.opened "a.opentunnel.test" = some [("a", "a.opentunnel.test", true, some "@")] := by
    decide +kernel
  obtain ⟨cfg, ran, seen⟩ := Option.map_eq_some_iff.mp seen
  have reach := reach_of_play ran
  have visits : Visits (Sample.setup false) (Sample.visiting "a.opentunnel.test") := Sample.visiting_visits (by decide)
  obtain ⟨agree, -⟩ := routes_agree _ _ visits (Sample.started _) (Sample.db_named _) reach
  obtain ⟨o, rest, listed, is, -⟩ := List.map_eq_cons_iff.mp seen
  simp only [Prod.mk.injEq] at is
  obtain ⟨id, sni, -, route⟩ := is
  have member : o ∈ cfg.shared.2 := by simp [listed]
  obtain ⟨found, same, -, -, -, client⟩ := agree o member
  rw [route] at same
  cases same
  refine ⟨cfg, reach, o, member, route, ?_⟩
  have plain : o.sni ≠ "@." ++ (o.id ++ "." ++ (Sample.setup false).domain) := by
    rw [id, sni]
    decide
  have answer := client.mpr plain
  rw [id] at answer
  exact answer

/-- A connection for a label `@` before the hostname is opened on the root route, which the client does not find. -/
theorem at_label_disagrees :
    ∃ cfg, ((system (Sample.setup false)).withGhost (openings (Sample.setup false))).Reach
        ((running (Sample.setup false) (Sample.visiting "@.a.opentunnel.test")).withGhost (openings (Sample.setup false)))
        (idle (Sample.world (Sample.db [Sample.tunnel "2027-04-15T08:00:00.000Z"]), [])) cfg ∧
      ∃ o ∈ cfg.shared.2, o.route = some "@" ∧ o.carrier.any (·.claims "@") = true ∧
        tunnelId o.sni "opentunnel.test" = some "a" ∧ routeForSni o.sni "a.opentunnel.test" = none := by
  have seen : Sample.opened "@.a.opentunnel.test" = some [("a", "@.a.opentunnel.test", true, some "@")] := by
    decide +kernel
  obtain ⟨cfg, ran, seen⟩ := Option.map_eq_some_iff.mp seen
  obtain ⟨o, rest, listed, is, -⟩ := List.map_eq_cons_iff.mp seen
  simp only [Prod.mk.injEq] at is
  obtain ⟨-, sni, claims, route⟩ := is
  refine ⟨cfg, reach_of_play ran, o, by simp [listed], route, claims, ?_, ?_⟩
  · rw [sni]
    decide
  · rw [sni]
    decide

end OpenTunnel
