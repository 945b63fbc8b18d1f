/-
Module: OpenTunnel.Model.JsNames
Layer: Model
Purpose: The names and targets of the TypeScript client (`names.ts`). Strings are those of Unicode scalar values; where the
  source cuts one, it cuts between two of them.
Imports: OpenTunnel.Formats.Numerals, OpenTunnel.Formats.Pattern, OpenTunnel.Formats.Split
Trusted boundary: `lower`, the lowercasing of `toLowerCase`
Main exports: JsNames.label, JsNames.isValidRoute, JsNames.isValidProfile, JsNames.routeForSni, JsNames.parseTarget
Open obligations: none
-/
import OpenTunnel.Formats.Numerals
import OpenTunnel.Formats.Pattern
import OpenTunnel.Formats.Split

namespace OpenTunnel.JsNames

open Formats

def rootRoute : List Char := ['@']

/-- `[a-z0-9]` -/
def labelEnd (c : Char) : Bool := ('a' ≤ c && c ≤ 'z') || ('0' ≤ c && c ≤ '9')

/-- `/^[a-z0-9](?:[a-z0-9-]{0,61}[a-z0-9])?$/` -/
def label : Pattern Char :=
  .seq (.one labelEnd) (.optional (.seq (.times 0 61 (.one fun c => labelEnd c || c == '-')) (.one labelEnd)))

def isValidRoute (value : List Char) : Bool := value == rootRoute || label.test value

def isValidProfile (value : List Char) : Bool := label.test value

def routeForSni (lower : List Char → List Char) (sni hostname : List Char) : Option (List Char) :=
  let name := lower sni
  let host := lower hostname
  if name = host then some rootRoute
  else
    let suffix := '.' :: host
    if !suffix.isSuffixOf name then none
    else
      let route := name.take (name.length - suffix.length)
      if label.test route then some route else none

/-- `/^\d{1,5}$/` -/
def portPattern : Pattern Char := .times 1 5 (.one fun c => '0' ≤ c && c ≤ '9')

/-- `[A-Za-z0-9.\-:_]` -/
def hostClass (c : Char) : Bool :=
  ('A' ≤ c && c ≤ 'Z') || ('a' ≤ c && c ≤ 'z') || ('0' ≤ c && c ≤ '9') || c == '.' || c == '-' || c == ':' || c == '_'

/-- `/^[A-Za-z0-9.\-:_]+$/`, of a text with no more than `most` characters. -/
def hostPattern (most : Nat) : Pattern Char := .times 1 most (.one hostClass)

def parseTarget (value : List Char) : Option (List Char × Nat) := do
  let (host, portText) ← rsplitOnce ':' value
  if !portPattern.test portText then none
  else
    let port := numeral 10 portText
    if port < 1 || port > 65535 then none
    else do
      let host ← if host.head? = some '[' then if host.getLast? ≠ some ']' then none else some (host.drop 1).dropLast
        else some host
      if host.isEmpty || !(hostPattern host.length).test host then none else some (host, port)

end OpenTunnel.JsNames
