import OAuthRedirect.Json.Basic
import OAuthRedirect.Text.Casing
import OAuthRedirect.Text.Split

/-!
# Sanitising log data

Before data is logged, values under the names of secrets are replaced, and texts under the
names of one-time values are cut to ten characters, enough to tell them apart. A name belongs
to a class when its lower-case form holds one of the words of the class; the first class wins.
-/

namespace OAuthRedirect.Log

/-- Words in the names of values that are never shown. -/
def secretWords : List String := ["password", "secret", "key"]

/-- Words in the names of one-time values. -/
def oneTimeWords : List String := ["token", "code", "challenge", "verifier", "state"]

/-- Does the lower-case form of a name hold one of some words? -/
def mentions (words : List String) (name : String) : Bool :=
  let lowered := Text.lower name.toList
  words.any fun word => Text.contains word.toList lowered

/-- How many characters of a one-time value are shown. -/
def shownLength : Nat := 10

/-- A text of which at most `shownLength` characters are shown. -/
def shorten (s : String) : String :=
  if shownLength < s.toList.length then String.ofList (s.toList.take shownLength) ++ "..." else s

/-- The same of a string that is no text; what is shown of it may be one. -/
def shortenBroken (codes : List Nat) : Json :=
  if shownLength < codes.length then
    .ofCodes (codes.take shownLength ++ "...".toList.map Char.toNat)
  else .broken codes

/-- What is logged for a value under a name. -/
def sanitizeValue (name : String) (value : Json) : Json :=
  if mentions secretWords name then .str "[REDACTED]"
  else if mentions oneTimeWords name then
    match value with
    | .str s => .str (shorten s)
    | .broken codes => shortenBroken codes
    | _ => value
  else value

/-- What is logged for some data. -/
def sanitize (data : Members) : Members :=
  data.map fun member => (member.1, sanitizeValue member.1 member.2)

end OAuthRedirect.Log
