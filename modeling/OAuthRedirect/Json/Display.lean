import OAuthRedirect.Decimal.Real
import OAuthRedirect.WideString

/-!
# Values in messages

How a value reads in a log line or a query parameter: a string as it is, `None`, `True` and
`False` for null and the truth values, and lists and objects in brackets with the strings inside
them quoted.

A string on its own keeps its surrogates (`Json.shown`), so that it may be no text. The text of a
value (`Json.display`) is what a console shows of it, with an escape for each of them. Integers are
written with all their digits, also where an interpreter with a limit on them would refuse to.
-/

namespace OAuthRedirect.Json

mutual

/-- The text of a value inside a list or an object. -/
def inspect : Json → String
  | null => "None"
  | bool true => "True"
  | bool false => "False"
  | int n => toString n
  | real x => Decimal.realText Decimal.messageStyle x
  | str s => Text.quoted s
  | broken codes => String.ofList (Text.quotedCodes codes)
  | arr items => "[" ++ String.intercalate ", " (inspectItems items) ++ "]"
  | obj members => "\x7b" ++ String.intercalate ", " (inspectMembers members) ++ "\x7d"

/-- The texts of the items of a list. -/
def inspectItems : List Json → List String
  | [] => []
  | item :: rest => inspect item :: inspectItems rest

/-- The texts of the members of an object. -/
def inspectMembers : List (String × Json) → List String
  | [] => []
  | (name, value) :: rest => (Text.quoted name ++ ": " ++ inspect value) :: inspectMembers rest

end

/-- How a code point of a broken string stands on its own: a surrogate as its escape. -/
def displayCode (code : Nat) : List Char :=
  if isSurrogate code then Text.escapedCode code else [Char.ofNat code]

/-- The text of a value on its own: a string stands as it is, but for an escape in the place of
each surrogate. -/
def display : Json → String
  | str s => s
  | broken codes => String.ofList (codes.flatMap displayCode)
  | value => inspect value

/-- A value on its own, as it is: with its surrogates when it is a broken string. -/
def shown : Json → WideString
  | broken codes => .ofCodes codes
  | value => .text value.display

theorem shown_str (s : String) : shown (str s) = .text s := rfl

end OAuthRedirect.Json

namespace OAuthRedirect

/-- A string as a console shows it. -/
def WideString.escaped (w : WideString) : String :=
  w.toJson.display

end OAuthRedirect
