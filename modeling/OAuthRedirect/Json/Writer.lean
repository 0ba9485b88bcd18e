import OAuthRedirect.Decimal.Real
import OAuthRedirect.Text.Hex
import OAuthRedirect.WideString

/-!
# Writing JSON

The compact form of a value: no white space, characters beyond ASCII as they are, and inside
strings only the quote, the backslash and the ASCII controls escaped. A surrogate stands as it is,
too, so that the form may be no text (`Json.compact`); in the text of a value it is an escape
(`Json.write`).
-/

namespace OAuthRedirect.Json

/-- How a character is written inside a string. -/
def escapeChar (c : Char) : List Char :=
  if c = '"' then ['\\', '"']
  else if c = '\\' then ['\\', '\\']
  else if c = '\n' then ['\\', 'n']
  else if c = '\r' then ['\\', 'r']
  else if c = '\t' then ['\\', 't']
  else if c.toNat = 8 then ['\\', 'b']
  else if c.toNat = 12 then ['\\', 'f']
  else if c.toNat < 32 then '\\' :: 'u' :: Text.Hex.padded 4 c.toNat
  else [c]

/-- A string between its quotes. -/
def writeString (s : String) : String :=
  String.ofList ('"' :: s.toList.flatMap escapeChar ++ ['"'])

/-- How a code point of a broken string is written: a surrogate as its escape. -/
def escapeCode (code : Nat) : List Char :=
  if 0xD800 ≤ code ∧ code < 0xE000 then '\\' :: 'u' :: Text.Hex.padded 4 code
  else escapeChar (Char.ofNat code)

mutual

/-- The compact text of a value. -/
def write : Json → String
  | null => "null"
  | bool true => "true"
  | bool false => "false"
  | int n => toString n
  | real x => Decimal.realText Decimal.documentStyle x
  | str s => writeString s
  | broken codes => String.ofList ('"' :: codes.flatMap escapeCode ++ ['"'])
  | arr items => "[" ++ String.intercalate "," (writeItems items) ++ "]"
  | obj members => "\x7b" ++ String.intercalate "," (writeMembers members) ++ "\x7d"

/-- The compact texts of the items of a list. -/
def writeItems : List Json → List String
  | [] => []
  | item :: rest => write item :: writeItems rest

/-- The compact texts of the members of an object. -/
def writeMembers : List (String × Json) → List String
  | [] => []
  | (name, value) :: rest => (writeString name ++ ":" ++ write value) :: writeMembers rest

end

/-- How a code point is written when surrogates stand as they are. -/
def compactCode (code : Nat) : List Nat :=
  if isSurrogate code then [code] else (escapeChar (Char.ofNat code)).map Char.toNat

mutual

/-- The code points of the compact form of a value. -/
def compactCodes : Json → List Nat
  | broken codes => '"'.toNat :: codes.flatMap compactCode ++ ['"'.toNat]
  | arr items => '['.toNat :: ([','.toNat].intercalate (compactItems items) ++ [']'.toNat])
  | obj members =>
    '\x7b'.toNat :: ([','.toNat].intercalate (compactMembers members) ++ ['\x7d'.toNat])
  | value => value.write.toList.map Char.toNat

/-- The code points of the items of a list. -/
def compactItems : List Json → List (List Nat)
  | [] => []
  | item :: rest => compactCodes item :: compactItems rest

/-- The code points of the members of an object. -/
def compactMembers : List (String × Json) → List (List Nat)
  | [] => []
  | (name, value) :: rest =>
    ((writeString name).toList.map Char.toNat ++ ':'.toNat :: compactCodes value) ::
      compactMembers rest

end

theorem compactCodes_str (s : String) :
    compactCodes (.str s) = (writeString s).toList.map Char.toNat := by
  simp [compactCodes, write]

/-- The compact form of a value. -/
def compact (value : Json) : WideString :=
  .ofCodes value.compactCodes

end OAuthRedirect.Json
