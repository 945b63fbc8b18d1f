/-
Module: OpenTunnel.Proofs.Orders
Layer: Proofs
Purpose: What the runner orders. `check_tunnel_names` accepts exactly the lists that hold a tunnel's hostname and at most
  its wildcard beside it, each once; `check_tunnel_request` compares a request's names with such a list by their number
  and one inclusion, which decides equality of the two as sets unless the request spells one name twice.
Imports: OpenTunnel.Proofs.Footprint, OpenTunnel.Model.Sample
Trusted boundary: none (fully proved)
Main exports: SameName, checkTunnelNames_ok, checkTunnelRequest_ok, permitted_tunnel, OwnNames, Respelled, Nameless,
  orders_own_names
Open obligations: none
-/
import OpenTunnel.Proofs.Footprint
import OpenTunnel.Model.Sample

namespace OpenTunnel

open Tasks

/-! ### Names -/

/-- The same name but for the case of ASCII letters. -/
def SameName (a b : String) : Prop := eqIgnoreAsciiCase a b = true

instance (a b : String) : Decidable (SameName a b) := inferInstanceAs (Decidable (_ = true))

section Names

variable {a b c : String}

theorem sameName_iff : SameName a b ↔ toAsciiLowercase a = toAsciiLowercase b := by
  unfold SameName eqIgnoreAsciiCase toAsciiLowercase
  rw [decide_eq_true_iff, String.ofList_inj]

theorem SameName.refl (a : String) : SameName a a := sameName_iff.mpr rfl

theorem SameName.symm (same : SameName a b) : SameName b a := sameName_iff.mpr (sameName_iff.mp same).symm

theorem SameName.trans (first : SameName a b) (second : SameName b c) : SameName a c :=
  sameName_iff.mpr ((sameName_iff.mp first).trans (sameName_iff.mp second))

theorem SameName.length (same : SameName a b) : a.toList.length = b.toList.length := by
  have lengths := congrArg (fun text => text.toList.length) (sameName_iff.mp same)
  simpa [toAsciiLowercase] using lengths

/-- A hostname and its wildcard differ. -/
theorem wildcard_differs (hostname : String) : ¬ SameName hostname ("*." ++ hostname) := by
  intro same
  have lengths := same.length
  simp only [String.toList_append, List.length_append] at lengths
  have two : "*.".toList.length = 2 := by decide
  omega

theorem toAsciiLower_twice (c : Char) : toAsciiLower (toAsciiLower c) = toAsciiLower c := by
  have lower : ∀ n < 91, 65 ≤ n → toAsciiLower (Char.ofNat (n + 32)) = Char.ofNat (n + 32) := by decide
  by_cases upper : ('A' ≤ c && c ≤ 'Z') = true
  · have is : toAsciiLower c = Char.ofNat (c.toNat + 32) := if_pos upper
    simp only [Bool.and_eq_true, decide_eq_true_eq] at upper
    rw [is]
    exact lower c.toNat (Nat.lt_succ_of_le upper.2) upper.1
  · have is : toAsciiLower c = c := if_neg upper
    rw [is, is]

theorem sameName_lowercase (a : String) : SameName (toAsciiLowercase a) a := by
  apply sameName_iff.mpr
  simp [toAsciiLowercase, Function.comp_def, toAsciiLower_twice]

theorem SameName.append {a' b' : String} (first : SameName a b) (second : SameName a' b') :
    SameName (a ++ a') (b ++ b') := by
  have first := sameName_iff.mp first
  have second := sameName_iff.mp second
  apply sameName_iff.mpr
  simp only [toAsciiLowercase, String.ofList_inj] at first second ⊢
  simp [first, second]

end Names

/-! ### Tunnel names -/

section TunnelNames

variable {X : Externals} {id domain hostname wildcard : String} {earlier identifiers : List String}

theorem bind_ok {β : Type} {e : Except String Unit} {f : Unit → Except String β} {b : β} :
    (e >>= f) = .ok b ↔ e = .ok () ∧ f () = .ok b := by
  cases e with
  | ok a => simp [bind, Except.bind]
  | error message => simp [bind, Except.bind]

/-- A check that stops with a message. -/
theorem check_ok {β : Type} {refuse : Bool} {message : String} {next : Except String β} {b : β} :
    (do
      if refuse then
        .error message
      next : Except String β) = .ok b ↔ refuse = false ∧ next = .ok b := by
  cases refuse with
  | true => simp [bind, Except.bind]
  | false => simp

theorem ite_ok {pass : Bool} {message : String} :
    (if pass then .ok () else .error message : Except String Unit) = .ok () ↔ pass = true := by
  cases pass <;> simp

theorem checkTunnelName_ok {name : String} :
    checkTunnelName X id hostname wildcard earlier name = .ok () ↔
      (SameName name hostname ∨ SameName name wildcard) ∧ ∀ other ∈ earlier, ¬ SameName other name := by
  unfold checkTunnelName SameName
  by_cases own : eqIgnoreAsciiCase name hostname = true ∨ eqIgnoreAsciiCase name wildcard = true
  · have passes : (!eqIgnoreAsciiCase name hostname && !eqIgnoreAsciiCase name wildcard) = false := by
      rcases own with same | same <;> simp [same]
    simp [passes, own]
  · have fails : (!eqIgnoreAsciiCase name hostname && !eqIgnoreAsciiCase name wildcard) = true := by
      simpa using own
    simp [fails, own]

theorem checkEachName_ok :
    checkEachName X id hostname wildcard earlier identifiers = .ok () ↔
      (∀ name ∈ identifiers, SameName name hostname ∨ SameName name wildcard) ∧
      (∀ name ∈ identifiers, ∀ other ∈ earlier, ¬ SameName other name) ∧
      identifiers.Pairwise fun a b => ¬ SameName a b := by
  induction identifiers generalizing earlier with
  | nil => simp [checkEachName]
  | cons name rest ih =>
      rw [checkEachName, bind_ok]
      simp only [ih, checkTunnelName_ok, List.mem_append, List.mem_cons, List.not_mem_nil, or_false, forall_eq_or_imp,
        List.pairwise_cons]
      constructor
      · rintro ⟨⟨own, fresh⟩, others, later, apart⟩
        refine ⟨⟨own, others⟩, ⟨fresh, ?_⟩, ?_, apart⟩
        · intro name' listed other before
          exact later name' listed other (Or.inl before)
        · intro name' listed
          exact later name' listed name (Or.inr rfl)
      · rintro ⟨⟨own, others⟩, ⟨fresh, later⟩, first, apart⟩
        refine ⟨⟨own, fresh⟩, others, ?_, apart⟩
        rintro name' listed other (before | rfl)
        · exact later name' listed other before
        · exact first name' listed

/-- The names a tunnel's certificate may have: its hostname, and at most its wildcard beside it. -/
structure TunnelNames (id domain : String) (identifiers : List String) : Prop where
  some : identifiers ≠ []
  own : ∀ name ∈ identifiers, SameName name (id ++ "." ++ domain) ∨ SameName name ("*." ++ (id ++ "." ++ domain))
  once : identifiers.Pairwise fun a b => ¬ SameName a b
  hostname : ∃ name ∈ identifiers, SameName name (id ++ "." ++ domain)

/-- Names that are each one of two, and no two of them the same, are two at most. -/
theorem two_names {a b : String} (own : ∀ name ∈ identifiers, SameName name a ∨ SameName name b)
    (once : identifiers.Pairwise fun a b => ¬ SameName a b) : identifiers.length ≤ 2 := by
  match identifiers, own, once with
  | [], _, _ => exact Nat.zero_le 2
  | [_], _, _ => exact Nat.le_succ 1
  | [_, _], _, _ => exact Nat.le_refl 2
  | x :: y :: z :: rest, own, once =>
      simp only [List.pairwise_cons, List.mem_cons, forall_eq_or_imp] at own once
      obtain ⟨⟨xy, xz, -⟩, ⟨yz, -⟩, -⟩ := once
      obtain ⟨ownX, ownY, ownZ, -⟩ := own
      rcases ownX with xa | xb <;> rcases ownY with ya | yb <;> rcases ownZ with za | zb
      · exact absurd (xa.trans ya.symm) xy
      · exact absurd (xa.trans ya.symm) xy
      · exact absurd (xa.trans za.symm) xz
      · exact absurd (yb.trans zb.symm) yz
      · exact absurd (ya.trans za.symm) yz
      · exact absurd (xb.trans zb.symm) xz
      · exact absurd (xb.trans yb.symm) xy
      · exact absurd (xb.trans yb.symm) xy

/-- `check_tunnel_names` accepts exactly those names. -/
theorem checkTunnelNames_ok :
    checkTunnelNames X id domain identifiers = .ok () ↔
      validTunnelId id = true ∧ TunnelNames id domain identifiers := by
  have any : (!identifiers.any fun identifier => eqIgnoreAsciiCase identifier (id ++ "." ++ domain)) = false ↔
      ∃ name ∈ identifiers, SameName name (id ++ "." ++ domain) := by
    simp [SameName]
  have last : (do
      if !identifiers.any fun identifier => eqIgnoreAsciiCase identifier (id ++ "." ++ domain) then
        .error (id ++ "." ++ domain ++ " is not requested") : Except String Unit) = .ok () ↔
      ∃ name ∈ identifiers, SameName name (id ++ "." ++ domain) := by
    rw [← any]
    cases !identifiers.any fun identifier => eqIgnoreAsciiCase identifier (id ++ "." ++ domain) with
    | true => simp
    | false => simp [pure, Except.pure]
  unfold checkTunnelNames
  rw [check_ok]
  dsimp only
  rw [check_ok, bind_ok]
  simp only [checkEachName_ok, last]
  constructor
  · rintro ⟨valid, sized, ⟨own, -, once⟩, hostname⟩
    refine ⟨by simpa using valid, ?_, own, once, hostname⟩
    rintro rfl
    simp at sized
  · rintro ⟨valid, names⟩
    refine ⟨by simpa using valid, ?_, ⟨names.own, by simp, names.once⟩, names.hostname⟩
    have few := two_names names.own names.once
    cases identifiers with
    | nil => exact absurd rfl names.some
    | cons name rest =>
        simpa using few

theorem TunnelNames.of_same {domain' : String} (names : TunnelNames id domain identifiers)
    (same : SameName domain domain') : TunnelNames id domain' identifiers := by
  have hostnames : SameName (id ++ "." ++ domain) (id ++ "." ++ domain') := (SameName.refl _).append same
  have wildcards : SameName ("*." ++ (id ++ "." ++ domain)) ("*." ++ (id ++ "." ++ domain')) :=
    (SameName.refl _).append hostnames
  refine ⟨names.some, ?_, names.once, ?_⟩
  · intro name listed
    exact (names.own name listed).imp (fun is => is.trans hostnames) fun is => is.trans wildcards
  · obtain ⟨name, listed, is⟩ := names.hostname
    exact ⟨name, listed, is.trans hostnames⟩

/-- The request is for the tunnel, asks for as many names as are listed, and only for such. -/
structure Matches (id domain : String) (identifiers : List String) (request : Request) : Prop where
  common : SameName request.hostname (id ++ "." ++ domain)
  as_many : request.identifiers.length = identifiers.length
  listed : ∀ name ∈ request.identifiers, ∃ identifier ∈ identifiers, SameName identifier name

theorem Matches.of_same {domain' : String} {request : Request} (meets : Matches id domain identifiers request)
    (same : SameName domain domain') : Matches id domain' identifiers request :=
  ⟨meets.common.trans ((SameName.refl _).append same), meets.as_many, meets.listed⟩

theorem checkTunnelRequest_ok {csr : String} :
    checkTunnelRequest X id domain identifiers csr = .ok () ↔
      validTunnelId id = true ∧ TunnelNames id domain identifiers ∧
        ∃ request, X.parseCsr csr = some request ∧ Matches id domain identifiers request := by
  unfold checkTunnelRequest
  rw [bind_ok, checkTunnelNames_ok, and_assoc]
  refine and_congr_right fun _ => and_congr_right fun _ => ?_
  cases parsed : X.parseCsr csr with
  | none => simp
  | some request =>
      have same : (request.identifiers.length == identifiers.length &&
          request.identifiers.all fun name => identifiers.any fun identifier => eqIgnoreAsciiCase identifier name) = true ↔
          request.identifiers.length = identifiers.length ∧
            ∀ name ∈ request.identifiers, ∃ identifier ∈ identifiers, SameName identifier name := by
        simp [SameName]
      simp only [Option.some.injEq, exists_eq_left']
      rw [check_ok]
      generalize (request.identifiers.length == identifiers.length &&
        request.identifiers.all fun name => identifiers.any fun identifier => eqIgnoreAsciiCase identifier name) = equal
        at same ⊢
      constructor
      · rintro ⟨common, rest⟩
        cases equal with
        | false => simp at rest
        | true =>
            obtain ⟨as_many, listed⟩ := same.mp rfl
            exact ⟨by simpa [SameName] using common, as_many, listed⟩
      · intro meets
        have equals := same.mpr ⟨meets.as_many, meets.listed⟩
        have common : eqIgnoreAsciiCase request.hostname (id ++ "." ++ domain) = true := meets.common
        simp [equals, common, pure, Except.pure]

end TunnelNames

/-! ### Requests -/

/-- The subject's common names, as `parse` joins them. -/
def Csr.commonName (csr : Csr) : String := String.intercalate "," (csr.commonNames.filterMap id)

section Requests

variable {X : Externals} {text : String} {csr : Csr}

/-- `parse` of a request with DNS names. -/
theorem parseCsr_names_of (read : X.readCsr text = some csr) (some_ : csr.dnsNames ≠ []) :
    X.parseCsr text = some ⟨csr.commonName, csr.dnsNames⟩ := by
  simp [Externals.parseCsr, read, some_, Csr.commonName]

/-- `parse` of a request without DNS names. -/
theorem parseCsr_nameless (read : X.readCsr text = some csr) (none : csr.dnsNames = []) :
    X.parseCsr text = some ⟨csr.commonName, [csr.commonName]⟩ := by
  simp [Externals.parseCsr, read, none, Csr.commonName]

/-- A request that `parse` accepts was read. -/
theorem parseCsr_read {request : Request} (parsed : X.parseCsr text = some request) :
    ∃ csr, X.readCsr text = some csr ∧ request.hostname = csr.commonName ∧
      (csr.dnsNames = [] ∧ request.identifiers = [csr.commonName] ∨
        csr.dnsNames ≠ [] ∧ request.identifiers = csr.dnsNames) := by
  cases read : X.readCsr text with
  | none => simp [Externals.parseCsr, read] at parsed
  | some csr =>
      by_cases none : csr.dnsNames = []
      · rw [parseCsr_nameless read none] at parsed
        cases parsed
        exact ⟨csr, rfl, rfl, Or.inl ⟨none, rfl⟩⟩
      · rw [parseCsr_names_of read none] at parsed
        cases parsed
        exact ⟨csr, rfl, rfl, Or.inr ⟨none, rfl⟩⟩

end Requests

/-! ### Jobs -/

section Jobs

variable (setup : Setup) (job : Job)

/-- The job orders a tunnel's own names and its request has exactly those DNS names; or the server's own. -/
inductive OwnNames : Prop where
  | tunnel (id : TunnelId) (csr : Csr) (kind : job.kind ≠ .server) (is : job.tunnelId = some id)
      (names : TunnelNames id setup.domain job.identifiers)
      (read : setup.externals.readCsr job.csr = some csr)
      (common : SameName csr.commonName (id ++ "." ++ setup.domain))
      (asked : ∀ identifier ∈ job.identifiers, ∃ name ∈ csr.dnsNames, SameName name identifier)
      (only : ∀ name ∈ csr.dnsNames, ∃ identifier ∈ job.identifiers, SameName name identifier)
  | server (name asked : String) (csr : Csr) (kind : job.kind = .server) (is : job.tunnelId = none)
      (names : job.identifiers = [name]) (same : SameName name setup.domain)
      (read : setup.externals.readCsr job.csr = some csr) (only : csr.dnsNames = [asked])
      (domain : SameName asked setup.domain)

/-- The job is for a tunnel's hostname and wildcard, and the DNS names of its request spell one of the two twice. -/
structure Respelled : Prop where
  kind : job.kind ≠ .server
  spelled : ∃ (id : TunnelId) (csr : Csr) (first second : String), job.tunnelId = some id ∧
    validTunnelId id = true ∧ TunnelNames id setup.domain job.identifiers ∧ job.identifiers.length = 2 ∧
    setup.externals.readCsr job.csr = some csr ∧ SameName csr.commonName (id ++ "." ++ setup.domain) ∧
    csr.dnsNames = [first, second] ∧ SameName first second ∧
    (SameName first (id ++ "." ++ setup.domain) ∨ SameName first ("*." ++ (id ++ "." ++ setup.domain)))

/-- The job is for a tunnel's hostname only, or for the server's, and its request has that for its common name and no DNS
    names. -/
inductive Nameless : Prop where
  | tunnel (id : TunnelId) (csr : Csr) (name : String) (kind : job.kind ≠ .server) (is : job.tunnelId = some id)
      (valid : validTunnelId id = true) (names : job.identifiers = [name])
      (same : SameName name (id ++ "." ++ setup.domain)) (read : setup.externals.readCsr job.csr = some csr)
      (common : SameName csr.commonName (id ++ "." ++ setup.domain)) (none : csr.dnsNames = [])
  | server (csr : Csr) (name : String) (kind : job.kind = .server) (is : job.tunnelId = none)
      (names : job.identifiers = [name]) (same : SameName name setup.domain)
      (read : setup.externals.readCsr job.csr = some csr) (common : SameName csr.commonName setup.domain)
      (none : csr.dnsNames = [])

variable {setup : Setup} {job : Job}

/-- `permitted` of a tunnel's job; the domain's own letters do not matter. -/
theorem permitted_tunnel {id : TunnelId} (kind : job.kind ≠ .server) (is : job.tunnelId = some id) :
    permitted setup job = .ok () ↔
      validTunnelId id = true ∧ TunnelNames id setup.domain job.identifiers ∧
        ∃ request, setup.externals.parseCsr job.csr = some request ∧
          Matches id setup.domain job.identifiers request := by
  have lower := sameName_lowercase setup.domain
  have checked : permitted setup job =
      checkTunnelRequest setup.externals id (toAsciiLowercase setup.domain) job.identifiers job.csr := by
    unfold permitted
    cases of : job.kind with
    | issue => simp [is]
    | renew => simp [is]
    | server => exact absurd of kind
  rw [checked, checkTunnelRequest_ok]
  constructor
  · rintro ⟨valid, names, request, parsed, meets⟩
    exact ⟨valid, names.of_same lower, request, parsed, meets.of_same lower⟩
  · rintro ⟨valid, names, request, parsed, meets⟩
    exact ⟨valid, names.of_same lower.symm, request, parsed, meets.of_same lower.symm⟩

/-- `permitted` of the server's own job. -/
theorem permitted_server (kind : job.kind = .server) (is : job.tunnelId = none) :
    permitted setup job = .ok () ↔
      ∃ name asked request, job.identifiers = [name] ∧ SameName name setup.domain ∧
        setup.externals.parseCsr job.csr = some request ∧ request.identifiers = [asked] ∧
        SameName asked setup.domain := by
  have lower := sameName_lowercase setup.domain
  have own (name : String) : eqIgnoreAsciiCase name (toAsciiLowercase setup.domain) = true ↔ SameName name setup.domain := by
    have same : SameName name (toAsciiLowercase setup.domain) ↔ SameName name setup.domain :=
      ⟨fun same => same.trans lower, fun same => same.trans lower.symm⟩
    simpa [SameName] using same
  unfold permitted
  simp only [kind, is]
  cases parsed : setup.externals.parseCsr job.csr with
  | none => simp
  | some request =>
      simp only [Option.some.injEq]
      rw [ite_ok, Bool.and_eq_true]
      constructor
      · rintro ⟨listed, requested⟩
        split at listed
        · rename_i name names
          split at requested
          · rename_i asked asks
            exact ⟨name, asked, request, names, (own name).mp listed, rfl, asks, (own asked).mp requested⟩
          · cases requested
        · cases listed
      · rintro ⟨name, asked, _, names, same, rfl, asks, domain⟩
        simp only [names, asks]
        exact ⟨(own name).mpr same, (own asked).mpr domain⟩

/-- Two names of a tunnel are its hostname and its wildcard. -/
theorem TunnelNames.both {id domain : String} {identifiers : List String} (names : TunnelNames id domain identifiers)
    (two : identifiers.length = 2) {name : String}
    (own : SameName name (id ++ "." ++ domain) ∨ SameName name ("*." ++ (id ++ "." ++ domain))) :
    ∃ identifier ∈ identifiers, SameName identifier name := by
  rcases own with hostname | wildcard
  · obtain ⟨identifier, listed, is⟩ := names.hostname
    exact ⟨identifier, listed, is.trans hostname.symm⟩
  · match identifiers, two, names with
    | [a, b], _, names =>
        have apart : ¬ SameName a b := by simpa using names.once
        rcases names.own a (by simp) with ha | wa
        · rcases names.own b (by simp) with hb | wb
          · exact absurd (ha.trans hb.symm) apart
          · exact ⟨b, by simp, wb.trans wildcard.symm⟩
        · exact ⟨a, by simp, wa.trans wildcard.symm⟩

/-- A request that asks for as many names as are listed, and only for such, asks for all of them unless it spells one
    of them twice. -/
theorem Matches.asked {id domain : String} {identifiers : List String} {request : Request}
    (names : TunnelNames id domain identifiers) (meets : Matches id domain identifiers request) :
    (∀ identifier ∈ identifiers, ∃ name ∈ request.identifiers, SameName name identifier) ∨
      ∃ first second, identifiers.length = 2 ∧ request.identifiers = [first, second] ∧ SameName first second := by
  have few := two_names names.own names.once
  have sized := meets.as_many
  have listed := meets.listed
  match identifiers, request.identifiers, few, sized, listed with
  | [], _, _, _, _ => exact absurd rfl names.some
  | [a], [x], _, _, listed =>
      left
      have same : SameName a x := by simpa using listed x (by simp)
      simpa using same.symm
  | [a, b], [x, y], _, _, listed =>
      obtain ⟨forX, inX, sameX⟩ := listed x (by simp)
      obtain ⟨forY, inY, sameY⟩ := listed y (by simp)
      simp only [List.mem_cons, List.not_mem_nil, or_false] at inX inY
      rcases inX with rfl | rfl <;> rcases inY with rfl | rfl
      · exact Or.inr ⟨x, y, rfl, rfl, sameX.symm.trans sameY⟩
      · left
        simp only [List.mem_cons, List.not_mem_nil, or_false, forall_eq_or_imp, forall_eq]
        exact ⟨⟨x, Or.inl rfl, sameX.symm⟩, ⟨y, Or.inr rfl, sameY.symm⟩⟩
      · left
        simp only [List.mem_cons, List.not_mem_nil, or_false, forall_eq_or_imp, forall_eq]
        exact ⟨⟨y, Or.inr rfl, sameY.symm⟩, ⟨x, Or.inl rfl, sameX.symm⟩⟩
      · exact Or.inr ⟨x, y, rfl, rfl, sameX.symm.trans sameY⟩

/-- One name of a tunnel is its hostname. -/
theorem TunnelNames.single {id domain name : String} (names : TunnelNames id domain [name]) :
    SameName name (id ++ "." ++ domain) := by
  obtain ⟨hostname, listed, same⟩ := names.hostname
  rw [← List.mem_singleton.mp listed]
  exact same

theorem TunnelNames.of_single {id domain name : String} (same : SameName name (id ++ "." ++ domain)) :
    TunnelNames id domain [name] where
  some := List.cons_ne_nil name []
  own := by simpa using Or.inl same
  once := List.pairwise_singleton _ name
  hostname := ⟨name, List.mem_singleton_self name, same⟩

theorem own_of_permitted (passed : permitted setup job = .ok ()) (apart : ¬ Respelled setup job)
    (named : ¬ Nameless setup job) : OwnNames setup job := by
  by_cases kind : job.kind = .server
  · cases is : job.tunnelId with
    | none =>
        obtain ⟨name, asked, request, names, same, parsed, only, domain⟩ := (permitted_server kind is).mp passed
        obtain ⟨csr, read, -, ⟨none, asks⟩ | ⟨-, asks⟩⟩ := parseCsr_read parsed
        · rw [asks, List.cons.injEq] at only
          rw [← only.1] at domain
          exact absurd (.server csr name kind is names same read domain none) named
        · exact .server name asked csr kind is names same read (asks.symm.trans only) domain
    | some id => simp [permitted, kind, is] at passed
  · cases is : job.tunnelId with
    | none =>
        unfold permitted at passed
        cases of : job.kind with
        | server => exact absurd of kind
        | issue => simp [of, is] at passed
        | renew => simp [of, is] at passed
    | some id =>
        obtain ⟨valid, names, request, parsed, meets⟩ := (permitted_tunnel kind is).mp passed
        have only : ∀ name ∈ request.identifiers, ∃ identifier ∈ job.identifiers, SameName name identifier := by
          intro name asks
          obtain ⟨identifier, listed, same⟩ := meets.listed name asks
          exact ⟨identifier, listed, same.symm⟩
        have common := meets.common
        obtain ⟨csr, read, hostname, ⟨none, asks⟩ | ⟨-, asks⟩⟩ := parseCsr_read parsed
        · have single : job.identifiers.length = 1 := by rw [← meets.as_many, asks, List.length_singleton]
          obtain ⟨name, listed⟩ := List.length_eq_one_iff.mp single
          rw [listed] at names
          rw [hostname] at common
          exact absurd (.tunnel id csr name kind is valid listed names.single read common none) named
        · rcases meets.asked names with asked | ⟨first, second, two, spelled, same⟩
          · rw [asks] at asked only
            rw [hostname] at common
            exact .tunnel id csr kind is names read common asked only
          · have own : SameName first (id ++ "." ++ setup.domain) ∨
                SameName first ("*." ++ (id ++ "." ++ setup.domain)) := by
              obtain ⟨identifier, listed, is⟩ := only first (by simp [spelled])
              exact (names.own identifier listed).imp (fun own => is.trans own) fun own => is.trans own
            rw [hostname] at common
            exact absurd ⟨kind, id, csr, first, second, is, valid, names, two, read, common, asks.symm.trans spelled,
              same, own⟩ apart

/-- The runner's check passes a request that spells one name twice. -/
theorem Respelled.permitted (respelled : Respelled setup job) : permitted setup job = .ok () := by
  obtain ⟨kind, id, csr, first, second, is, valid, names, two, read, common, asks, same, own⟩ := respelled
  have parsed := parseCsr_names_of read (by simp [asks])
  apply (permitted_tunnel kind is).mpr
  refine ⟨valid, names, _, parsed, common, by simp [asks, two], ?_⟩
  have covered := names.both two own
  intro name asked
  simp only [asks, List.mem_cons, List.not_mem_nil, or_false] at asked
  rcases asked with rfl | rfl
  · exact covered
  · obtain ⟨identifier, listed, is⟩ := covered
    exact ⟨identifier, listed, is.trans same⟩

theorem Respelled.not_own (respelled : Respelled setup job) : ¬ OwnNames setup job := by
  obtain ⟨kind, id, csr, first, second, is, valid, names, two, read, common, asks, same, own⟩ := respelled
  intro owns
  cases owns with
  | server _ _ _ server => exact kind server
  | tunnel _ csr' _ _ _ read' _ asked _ =>
      have requests : csr = csr' := Option.some.inj (read.symm.trans read')
      subst requests
      -- Both identifiers are the one name the request has.
      have one : ∀ identifier ∈ job.identifiers, SameName first identifier := by
        intro identifier listed
        obtain ⟨name, inside, is⟩ := asked identifier listed
        simp only [asks, List.mem_cons, List.not_mem_nil, or_false] at inside
        rcases inside with rfl | rfl
        · exact is
        · exact same.trans is
      have once := names.once
      rcases of : job.identifiers with - | ⟨a, - | ⟨b, rest⟩⟩
      · simp [of] at two
      · simp [of] at two
      · rw [of] at one once
        exact (List.rel_of_pairwise_cons once (by simp)) ((one a (by simp)).symm.trans (one b (by simp)))

/-- The runner's check takes the common name for the names of a request without any. -/
theorem Nameless.permitted (nameless : Nameless setup job) : permitted setup job = .ok () := by
  cases nameless with
  | tunnel id csr name kind is valid names same read common none =>
      have listed : ∀ asked ∈ [csr.commonName], ∃ identifier ∈ [name], SameName identifier asked := by
        simpa using same.trans common.symm
      apply (permitted_tunnel kind is).mpr
      rw [names]
      exact ⟨valid, .of_single same, _, parseCsr_nameless read none, common, rfl, listed⟩
  | server csr name kind is names same read common none =>
      exact (permitted_server kind is).mpr ⟨name, csr.commonName, _, names, same, parseCsr_nameless read none, rfl, common⟩

theorem Nameless.not_own (nameless : Nameless setup job) : ¬ OwnNames setup job := by
  intro owns
  obtain ⟨csr, read, none⟩ : ∃ csr, setup.externals.readCsr job.csr = some csr ∧ csr.dnsNames = [] := by
    cases nameless with
    | tunnel _ csr _ _ _ _ _ _ read _ none => exact ⟨csr, read, none⟩
    | server csr _ _ _ _ _ read _ none => exact ⟨csr, read, none⟩
  cases owns with
  | tunnel id csr' _ _ names read' _ asked _ =>
      cases read.symm.trans read'
      obtain ⟨identifier, listed, -⟩ := names.hostname
      obtain ⟨name, inside, -⟩ := asked identifier listed
      rw [none] at inside
      cases inside
  | server name asked csr' _ _ _ _ read' only _ =>
      cases read.symm.trans read'
      rw [none] at only
      cases only

/-- An order is the job's own: its identifiers and its request, which are its tunnel's. -/
def Act.OwnOrders (setup : Setup) (job : Job) : Act → Prop
  | .placeOrder identifiers csr => identifiers = job.identifiers ∧ csr = job.csr ∧ OwnNames setup job
  | _ => True

instance orders_load {id : TunnelId} : ObeysE (Act.OwnOrders setup job) (load id) := by
  unfold load
  exact .of_rules

instance orders_lock {id : TunnelId} : ObeysE (Act.OwnOrders setup job) (lock id) := by
  unfold lock
  exact .of_rules

instance orders_refresh {id : TunnelId} {e : Entry} : Obeys (Act.OwnOrders setup job) (refresh id e) := by
  unfold refresh
  exact .of_rules

instance orders_lockFresh {m : MachineId} {id : TunnelId} :
    ObeysE (Act.OwnOrders setup job) (lockFresh setup m id) := by
  unfold lockFresh
  exact .of_rules

instance orders_unlocks : Unlocks (Act.OwnOrders setup job) := ⟨fun _ => trivial⟩

instance orders_scheduleRenewal {record : StoredTunnel} :
    ObeysE (Act.OwnOrders setup job) (scheduleRenewal setup record) := by
  unfold scheduleRenewal
  exact .of_rules

instance orders_updateCertificate {m : MachineId} {id : TunnelId} {c : CertificateId} {input : CertificateState} :
    ObeysE (Act.OwnOrders setup job) (updateCertificate setup m id c input) := by
  unfold updateCertificate updateRenewal updateCurrent
  exact .of_rules

instance orders_wanted {m : MachineId} : Obeys (Act.OwnOrders setup job) (wanted setup m job) := by
  unfold wanted wantsCertificate
  exact .of_rules

instance orders_finish {status : JobStatus} {error : Option String} {now : Nat} :
    ObeysE (Act.OwnOrders setup job) (finish job status error now) := by
  unfold finish
  exact .of_rules

theorem issue_own {m : MachineId} (own : OwnNames setup job) :
    Obeys (Act.OwnOrders setup job) (issue setup m job) := by
  have orders : Obeys (Act.OwnOrders setup job) (act (.placeOrder job.identifiers job.csr)) :=
    obeys_act ⟨rfl, rfl, own⟩
  unfold issue showChallenge
  exact .of_rules

theorem execute_own {m : MachineId} (apart : ¬ Respelled setup job) (named : ¬ Nameless setup job) :
    ObeysE (Act.OwnOrders setup job) (execute setup m job) := by
  unfold execute
  cases passed : permitted setup job with
  | error reason =>
      unfold refuse
      exact .of_rules
  | ok _ =>
      have issues := issue_own (m := m) (own_of_permitted passed apart named)
      unfold recordIssued recordFailure abandon
      exact .of_rules

/-- A job that passes the check can be ordered: the server's own is always wanted, and a tunnel's certificate counts as
    wanted while its record cannot be read. -/
theorem execute_orders {P : Act → Prop} {m : MachineId} (passed : permitted setup job = .ok ())
    (all : Prog.All P (execute setup m job).run) : P (.placeOrder job.identifiers job.csr) := by
  unfold execute at all
  rw [passed] at all
  unfold wanted at all
  cases is : job.tunnel with
  | none =>
      simp only [is] at all
      exact all.1
  | some id =>
      rw [is] at all
      cases clustered : setup.clustered m with
      | false =>
          simp only [wantsCertificate, lockFresh, clustered] at all
          exact ((((all.2 ()).2 {}).2 (.error .unavailable)).2 ()).1
      | true =>
          simp only [wantsCertificate, lockFresh, clustered] at all
          exact (((((((all.2 ()).2 {}).2 ()).2 ()).2 {}).2 (.error .unavailable)).2 ()).1

/-- A job that passes the check without being for its own names is ordered all the same. -/
theorem execute_not_own {m : MachineId} (passed : permitted setup job = .ok ()) (foreign : ¬ OwnNames setup job) :
    ¬ Prog.All (Act.OwnOrders setup job) (execute setup m job).run := by
  intro all
  obtain ⟨-, -, own⟩ := execute_orders passed all
  exact foreign own

/-- A job orders a tunnel's own names, with a request for exactly those, unless that request spells one of the two
    names twice or has no DNS names at all. -/
theorem orders_own_names (setup : Setup) (m : MachineId) (job : Job) :
    Prog.All (Act.OwnOrders setup job) (execute setup m job).run ↔ ¬ Respelled setup job ∧ ¬ Nameless setup job := by
  constructor
  · intro all
    exact ⟨fun respelled => execute_not_own respelled.permitted respelled.not_own all,
      fun nameless => execute_not_own nameless.permitted nameless.not_own all⟩
  · intro own
    exact (execute_own own.1 own.2).all

end Jobs

/-! ### A name spelled twice -/

namespace Sample

/-- A certificate request for `a.opentunnel.test`, with the names `a.opentunnel.test` and `A.opentunnel.test`. -/
def respelledCsr : String :=
  "MIIBGTCBwAIBADAcMRowGAYDVQQDDBFhLm9wZW50dW5uZWwudGVzdDBZMBMGByqGSM49AgEGCCqGSM49AwEHA0IABCGqBDWF" ++
  "iVuBJlKzkVMo0D6tmFMxpTR+IVnuT5juSqoeiwk+tsRRCNbXcwa+QxuD7wk1D5oLlpGv7a0o+VuY19WgQjBABgkqhkiG9w0B" ++
  "CQ4xMzAxMC8GA1UdEQQoMCaCEWEub3BlbnR1bm5lbC50ZXN0ghFBLm9wZW50dW5uZWwudGVzdDAKBggqhkjOPQQDAgNIADBF" ++
  "AiBNEx1FG7ZUCP3rbfJZt3rQ9zg8IgrZgtdDuhhIFtlTdQIhANQc2RpjwyhX5Bi5epwIH2NsNRUHsW9yJ/loAKQhfMK9"

def respelledSetup : Setup :=
  { setup false with
    externals := { externals with
      readCsr := fun text =>
        if text = respelledCsr then
          some ⟨[some "a.opentunnel.test"], [[.dns "a.opentunnel.test", .dns "A.opentunnel.test"]]⟩
        else none } }

/-- The hostname and the wildcard are listed, and the request spells the hostname twice. -/
def respelledJob : Job where
  certificateId := "cert_1"
  tunnelId := some "a"
  kind := .issue
  identifiers := ["a.opentunnel.test", "*.a.opentunnel.test"]
  csr := respelledCsr
  attempts := 0
  createdAt := start

/-- A certificate request for `a.opentunnel.test` without alternative names. -/
def namelessCsr : String :=
  "MIHXMH4CAQAwHDEaMBgGA1UEAwwRYS5vcGVudHVubmVsLnRlc3QwWTATBgcqhkjOPQIBBggqhkjOPQMBBwNCAAQ9YnATTJoJ" ++
  "FFO3/hcXTiatKFUuhCnlnQDpJXeV33hxh8Yyx8CIyEaUctP7cW90QJMIFlX7MvVH8g6CjoyTMmjVoAAwCgYIKoZIzj0EAwID" ++
  "SQAwRgIhANo8A+gRpBZKK3aBPxt/mRkXPAwAUmcyf2EKsc33FkhuAiEAz4gU2UbRo01SiNbdNy2165IBQII4yZpz7C5J3voz" ++
  "pRk="

def namelessSetup : Setup :=
  { setup false with
    externals := { externals with
      readCsr := fun text => if text = namelessCsr then some ⟨[some "a.opentunnel.test"], []⟩ else none } }

/-- The hostname is listed, and the request has it for its common name only. -/
def namelessJob : Job := { respelledJob with identifiers := ["a.opentunnel.test"], csr := namelessCsr }

/-- Both are ordered, though the one request does not ask for the wildcard and the other has no DNS name. -/
theorem respelled_request_ordered :
    ¬ Prog.All (Act.OwnOrders respelledSetup respelledJob) (execute respelledSetup "m" respelledJob).run ∧
    ¬ Prog.All (Act.OwnOrders namelessSetup namelessJob) (execute namelessSetup "m" namelessJob).run := by
  constructor
  · have passed : permitted respelledSetup respelledJob = .ok () := by decide +kernel
    obtain ⟨valid, names, -⟩ := (permitted_tunnel (by decide) rfl).mp passed
    have respelled : Respelled respelledSetup respelledJob :=
      ⟨by decide, "a", ⟨[some "a.opentunnel.test"], [[.dns "a.opentunnel.test", .dns "A.opentunnel.test"]]⟩,
        "a.opentunnel.test", "A.opentunnel.test", rfl, valid, names, rfl, by decide +kernel, by decide +kernel,
        by decide +kernel, by decide, by decide⟩
    exact execute_not_own passed respelled.not_own
  · have nameless : Nameless namelessSetup namelessJob :=
      .tunnel "a" ⟨[some "a.opentunnel.test"], []⟩ "a.opentunnel.test" (by decide) rfl (by decide) rfl (by decide)
        (by decide +kernel) (by decide +kernel) rfl
    exact execute_not_own nameless.permitted nameless.not_own

end Sample

end OpenTunnel
