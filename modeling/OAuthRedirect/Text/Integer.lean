import OAuthRedirect.Text.Ascii
import OAuthRedirect.Text.Blank
import OAuthRedirect.Text.DecimalDigit
import OAuthRedirect.Text.Quoted

/-!
# Integers as text

An integer is read from optional white space, an optional sign, decimal digits of any script
with single underscores between them, and optional white space. More than `digitLimit` digits
are refused before anything after them is looked at.
-/

namespace OAuthRedirect.Text

/-- The most digits that an integer may be written with. -/
def digitLimit : Nat := 4300

/-- Why a text is no integer. -/
inductive IntegerError where
  /-- The text does not have the form of an integer. -/
  | malformed (text : String)
  /-- The text has more than `digitLimit` digits. -/
  | tooLong (digits : Nat)
  deriving DecidableEq, Repr

/-- The message on an integer of too many digits. -/
def tooLongMessage (digits : Nat) : String :=
  s!"Exceeds the limit ({digitLimit} digits) for integer string conversion: value has {digits}"
    ++ " digits; use sys.set_int_max_str_digits() to increase the limit"

/-- The most characters of a malformed text, quoted, that are shown. -/
def shownLimit : Nat := 200

/-- What an error says. -/
def IntegerError.message : IntegerError → String
  | malformed text =>
    "invalid literal for int() with base 10: "
      ++ String.ofList ((quoted text).toList.take shownLimit)
  | tooLong digits => tooLongMessage digits

/-- White space around an integer, once the text is in ASCII. -/
def isIntegerSpace (c : Char) : Bool :=
  (9 ≤ c.toNat && c.toNat ≤ 13) || c == ' '

/-- A character of an integer in ASCII: digits of every script become `0` to `9` and white space
beyond ASCII the space, and whatever else lies beyond ASCII cannot stand in an integer. -/
def asciiInteger (c : Char) : Char :=
  if c.toNat < 127 then c
  else if isBlank c then ' '
  else match decimalDigit? c with
    | some d => Char.ofNat ('0'.toNat + d)
    | none => '?'

/-- Reads the unsigned digits, with what stands after them; `none` when an underscore stands
elsewhere than between two digits, or when there is no digit. -/
def digitGroups? (cs : List Char) : Option (List Char × List Char) :=
  let isBody := fun c : Char => c.isDigit || c == '_'
  let groups := (cs.takeWhile isBody).splitOn '_'
  if groups.any (·.isEmpty) then none else some (groups.flatten, cs.dropWhile isBody)

/-- Reads an integer. -/
def readInteger (text : String) : Except IntegerError Int :=
  let cs := (text.toList.map asciiInteger).dropWhile isIntegerSpace
  let (negative, unsigned) := match cs with
    | '-' :: rest => (true, rest)
    | '+' :: rest => (false, rest)
    | _ => (false, cs)
  match digitGroups? unsigned with
  | none => .error (.malformed text)
  | some (digits, rest) =>
    -- The number of digits counts before what stands after them does.
    if digits.length > digitLimit then .error (.tooLong digits.length)
    else if rest.all isIntegerSpace then
      .ok (if negative then -(digitsValue digits : Int) else digitsValue digits)
    else .error (.malformed text)

end OAuthRedirect.Text
