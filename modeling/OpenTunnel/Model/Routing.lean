/-
Module: OpenTunnel.Model.Routing
Layer: Model
Purpose: The names of public connections (`relay.rs`, and the client's `protocol/names.rs`): which tunnel and route a
  server name asks for, on the machine the visitor reached and in the client. The machine that holds the bridge
  decides with `World.routeOf`.
Imports: OpenTunnel.Model.Act
Trusted boundary: none (fully proved)
Main exports: stripSuffix, tunnelId, routeName, routeForSni
Open obligations: none
-/
import OpenTunnel.Model.Act

namespace OpenTunnel

/-- `strip_suffix` -/
def stripSuffix (text suffix : String) : Option String :=
  if suffix.toList.isSuffixOf text.toList then
    some (String.ofList (text.toList.take (text.toList.length - suffix.toList.length)))
  else none

/-! ### The server -/

/-- `tunnel_id`: the tunnel ID in `<id>.<domain>` or `<route>.<id>.<domain>`. -/
def tunnelId (hostname domain : String) : Option String := do
  let labels ← stripSuffix (← stripSuffix hostname domain) "."
  let labels := labels.toList.splitOn '.'
  if labels.isEmpty || labels.length > 2 then none
  else
    let id ← labels.getLast?
    if !id.isEmpty then some (String.ofList id) else none

/-- `route_name`: the route in `<id>.<domain>` (`@`) or `<route>.<id>.<domain>`. -/
def routeName (hostname id domain : String) : Option String := do
  let labels ← stripSuffix (← stripSuffix hostname domain) "."
  if labels = id then some "@"
  else
    let route ← stripSuffix (← stripSuffix labels id) "."
    if !route.isEmpty && !route.toList.contains '.' then some route else none

/-! ### The client -/

/-- `route_for_sni` -/
def routeForSni (sni hostname : String) : Option String :=
  let sni := toAsciiLowercase sni
  let hostname := toAsciiLowercase hostname
  if sni = hostname then some "@"
  else do
    let label ← stripSuffix (← stripSuffix sni hostname) "."
    if isLabel label then some label else none

/-! ### Suffixes -/

theorem stripSuffix_eq_some {text suffix rest : String} :
    stripSuffix text suffix = some rest ↔ text = rest ++ suffix := by
  unfold stripSuffix
  constructor
  · intro stripped
    split at stripped
    · rename_i ends
      obtain ⟨front, is⟩ := List.isSuffixOf_iff_suffix.mp ends
      cases stripped
      apply String.toList_inj.mp
      simp [← is]
    · cases stripped
  · rintro rfl
    simp

@[simp] theorem stripSuffix_append (rest suffix : String) : stripSuffix (rest ++ suffix) suffix = some rest :=
  stripSuffix_eq_some.mpr rfl

/-- The route a machine finds for a server name. -/
theorem routeOf_eq_some {hostname sni route : String} :
    World.routeOf hostname sni = some route ↔
      (sni = hostname ∧ route = "@") ∨ (sni ≠ hostname ∧ sni = route ++ ("." ++ hostname)) := by
  have strips : World.routeOf hostname sni = if sni = hostname then some "@" else stripSuffix sni ("." ++ hostname) := rfl
  rw [strips]
  by_cases root : sni = hostname
  · simp [root, eq_comm]
  · simp [root, stripSuffix_eq_some]

end OpenTunnel
