import OAuthRedirect.Decimal.Real
import OAuthRedirect.Json.Basic
import OAuthRedirect.Text.Hex
import OAuthRedirect.Text.Integer

/-!
# Reading JSON

`Json.read` reads a document. Beyond the grammar of JSON it accepts `NaN`, `Infinity` and
`-Infinity`, and surrogate escapes without a partner. Errors name what was expected and the
offset where it was, in characters; `Place.of` turns an offset into line and column.

Every reading function takes the offset of its input in the document and gives back the rest
of the input with its offset.
-/

namespace OAuthRedirect.Json

/-! ### Errors -/

/-- What is wrong with a document at some offset. -/
inductive Fault where
  | expectingValue
  | expectingName
  | expectingColon
  | expectingComma
  | unterminatedString
  | controlCharacter
  | badEscape
  | badCodeEscape
  | extraData
  | byteOrderMark
  deriving DecidableEq, Repr

/-- What a fault says. -/
def Fault.message : Fault → String
  | expectingValue => "Expecting value"
  | expectingName => "Expecting property name enclosed in double quotes"
  | expectingColon => "Expecting ':' delimiter"
  | expectingComma => "Expecting ',' delimiter"
  | unterminatedString => "Unterminated string starting at"
  | controlCharacter => "Invalid control character at"
  | badEscape => "Invalid \\escape"
  | badCodeEscape => "Invalid \\uXXXX escape"
  | extraData => "Extra data"
  | byteOrderMark => "Unexpected UTF-8 BOM (decode using utf-8-sig)"

/-- Why a document cannot be read. -/
inductive ReadError where
  | malformed (fault : Fault) (offset : Nat)
  /-- An integer has more than `Text.digitLimit` digits. -/
  | numberTooLong (digits : Nat)
  /-- Lists and objects are nested more than `nestingLimit` deep. -/
  | tooDeep (container : String)
  deriving DecidableEq, Repr

/-- A position in a text, as line and column counted from one. -/
structure Place where
  line : Nat
  column : Nat
  deriving DecidableEq, Repr

/-- The line and column of an offset: one more than the line feeds before it, and the distance
from the last of them. -/
def Place.of (text : List Char) (offset : Nat) : Place :=
  let before := text.take offset
  ⟨before.count '\n' + 1, (before.reverse.takeWhile (· ≠ '\n')).length + 1⟩

/-- The message of an error in a text. -/
def ReadError.message (text : String) : ReadError → String
  | malformed fault offset =>
    let place := Place.of text.toList offset
    s!"{fault.message}: line {place.line} column {place.column} (char {offset})"
  | numberTooLong digits => Text.tooLongMessage digits
  | tooDeep container =>
    s!"maximum recursion depth exceeded while decoding a JSON {container} from a unicode string"

/-- How deep lists and objects may be nested. -/
def nestingLimit : Nat := 990

/-- A value with the offset and the text after it, or an error. -/
abbrev Parsed (α : Type) := Except ReadError (α × Nat × List Char)

/-! ### Leaves -/

/-- Space, tab, line feed and carriage return. -/
def isSpace (c : Char) : Bool :=
  c == ' ' || c == '\t' || c == '\n' || c == '\r'

/-- Skips white space. -/
def skipSpace (offset : Nat) : List Char → Nat × List Char
  | [] => (offset, [])
  | c :: cs => if isSpace c then skipSpace (offset + 1) cs else (offset, c :: cs)

/-- The value of four hexadecimal digits. -/
def codeUnit? : List Char → Option Nat
  | [a, b, c, d] => do
    let a ← Text.Hex.value? a
    let b ← Text.Hex.value? b
    let c ← Text.Hex.value? c
    let d ← Text.Hex.value? d
    pure (4096 * a + 256 * b + 16 * c + d)
  | _ => none

/-- The character that a one-letter escape stands for. -/
def simpleEscape? : Char → Option Nat
  | '"' => some 0x22
  | '\\' => some 0x5C
  | '/' => some 0x2F
  | 'b' => some 8
  | 'f' => some 12
  | 'n' => some 10
  | 'r' => some 13
  | 't' => some 9
  | _ => none

/-- Reads a hexadecimal escape after its `\u`, the `u` standing at `offset`: a code point, and
how many characters were used. Two escapes that form a surrogate pair are one code point. At
least one character has to follow each escape, since the string still has to be closed. -/
def codeEscape (offset : Nat) (cs : List Char) : Except ReadError (Nat × Nat) :=
  if (cs.take 5).length < 5 then .error (.malformed .badCodeEscape offset)
  else match codeUnit? (cs.take 4) with
    | none => .error (.malformed .badCodeEscape offset)
    | some high =>
      let after := cs.drop 4
      -- A high surrogate looks for its partner only where a closing quote can still follow it.
      if 0xD800 ≤ high ∧ high < 0xDC00 ∧ after.take 2 = ['\\', 'u'] ∧ 7 ≤ (after.take 7).length then
        match codeUnit? ((after.drop 2).take 4) with
        | none => .error (.malformed .badCodeEscape (offset + 6))
        | some low =>
          if 0xDC00 ≤ low ∧ low < 0xE000 then
            .ok (0x10000 + 0x400 * (high - 0xD800) + (low - 0xDC00), 10)
          else .ok (high, 4)
      else .ok (high, 4)

/-- Reads an escape after its backslash, which stands at `offset`, in a string that opens at
`start`: a code point, and how many characters were used. -/
def escape (start offset : Nat) : List Char → Except ReadError (Nat × Nat)
  | [] => .error (.malformed .unterminatedString start)
  | 'u' :: cs => (codeEscape (offset + 1) cs).map fun (code, used) => (code, used + 1)
  | c :: _ =>
    match simpleEscape? c with
    | some code => .ok (code, 1)
    | none => .error (.malformed .badEscape offset)

/-- Reads the code points of a string that opens at `start`, up to its closing quote. -/
def stringBody (start offset : Nat) : List Char → Parsed (List Nat)
  | [] => .error (.malformed .unterminatedString start)
  | c :: cs =>
    if c = '"' then .ok ([], offset + 1, cs)
    else if c = '\\' then
      match escape start offset cs with
      | .error e => .error e
      | .ok (code, used) =>
        (stringBody start (offset + 1 + used) (cs.drop used)).map fun (codes, rest) =>
          (code :: codes, rest)
    else if c.toNat < 32 then .error (.malformed .controlCharacter offset)
    else (stringBody start (offset + 1) cs).map fun (codes, rest) => (c.toNat :: codes, rest)
termination_by cs => cs.length
decreasing_by
  · simp only [List.length_drop, List.length_cons]; omega
  · simp

/-- A number in its parts, before it is given a value. -/
structure Numeral where
  negative : Bool
  whole : List Char
  /-- The digits after the point; empty when there is no point. -/
  fraction : List Char
  /-- The sign and the digits of the exponent; no digits when there is no exponent. -/
  exponentNegative : Bool
  exponent : List Char

/-- The digits of the whole part: a zero stands alone. -/
def wholeDigits : List Char → List Char
  | '0' :: _ => ['0']
  | cs => cs.takeWhile Char.isDigit

/-- The digits after a point, with the text after them. A point without a digit is no part of
the number. -/
def fractionDigits : List Char → List Char × List Char
  | '.' :: cs =>
    let digits := cs.takeWhile Char.isDigit
    if digits.isEmpty then ([], '.' :: cs) else (digits, cs.drop digits.length)
  | cs => ([], cs)

/-- Sign, digits and length of an exponent; without a digit it is no part of the number. -/
def exponentDigits : List Char → Bool × List Char × Nat
  | [] => (false, [], 0)
  | e :: cs =>
    if e = 'e' ∨ e = 'E' then
      let (negative, signLength) := match cs with
        | '-' :: _ => (true, 1)
        | '+' :: _ => (false, 1)
        | _ => (false, 0)
      let digits := (cs.drop signLength).takeWhile Char.isDigit
      if digits.isEmpty then (false, [], 0) else (negative, digits, 1 + signLength + digits.length)
    else (false, [], 0)

/-- Reads the longest number at the front of a text, with its length. -/
def numeral? (cs : List Char) : Option (Numeral × Nat) :=
  let (negative, unsigned) := match cs with
    | '-' :: rest => (true, rest)
    | _ => (false, cs)
  let whole := wholeDigits unsigned
  if whole.isEmpty then none
  else
    let afterWhole := unsigned.drop whole.length
    let (fraction, afterFraction) := fractionDigits afterWhole
    let (exponentNegative, exponent, exponentLength) := exponentDigits afterFraction
    let fractionLength := if fraction.isEmpty then 0 else fraction.length + 1
    some (⟨negative, whole, fraction, exponentNegative, exponent⟩,
      (if negative then 1 else 0) + whole.length + fractionLength + exponentLength)

/-- The value of a number: a double when it has a fraction or an exponent, an integer
otherwise. -/
def Numeral.value (n : Numeral) : Except ReadError Json :=
  if n.fraction.isEmpty && n.exponent.isEmpty then
    if n.whole.length > Text.digitLimit then .error (.numberTooLong n.whole.length)
    else
      let magnitude : Int := Text.digitsValue n.whole
      .ok (int (if n.negative then -magnitude else magnitude))
  else
    let power : Int := Text.digitsValue n.exponent
    let magnitude := Decimal.realOfDecimal (Text.digitsValue (n.whole ++ n.fraction))
      ((if n.exponentNegative then -power else power) - n.fraction.length)
    .ok (real (if n.negative then -magnitude else magnitude))

/-- The words that stand for a value. -/
def words : List (List Char × Json) :=
  [("null".toList, null), ("true".toList, bool true), ("false".toList, bool false),
    ("NaN".toList, real (0.0 / 0.0)), ("Infinity".toList, real (1.0 / 0.0)),
    ("-Infinity".toList, real (-1.0 / 0.0))]

/-- Reads a word or a number. -/
def atom (offset : Nat) (cs : List Char) : Parsed Json :=
  match words.find? fun word => word.1.isPrefixOf cs with
  | some (word, value) => .ok (value, offset + word.length, cs.drop word.length)
  | none =>
    match numeral? cs with
    | none => .error (.malformed .expectingValue offset)
    | some (n, length) => n.value.map fun value => (value, offset + length, cs.drop length)

/-! ### Values -/

mutual

/-- Reads a value. Each call uses one unit of `fuel`; `nesting` is how deep containers may
still be opened. -/
def value : (fuel nesting offset : Nat) → List Char → Parsed Json
  | 0, _, offset, _ => .error (.malformed .expectingValue offset)
  | fuel + 1, nesting, offset, cs =>
    match cs with
    | '"' :: rest =>
      (stringBody offset (offset + 1) rest).map fun (codes, after) => (ofCodes codes, after)
    | '[' :: rest =>
      match nesting, skipSpace (offset + 1) rest with
      | 0, _ => .error (.tooDeep "array")
      | _ + 1, (offset, ']' :: rest) => .ok (arr [], offset + 1, rest)
      | nesting + 1, (offset, rest) =>
        (elements fuel nesting offset rest).map fun (items, after) => (arr items, after)
    | '\x7b' :: rest =>
      match nesting, skipSpace (offset + 1) rest with
      | 0, _ => .error (.tooDeep "object")
      | _ + 1, (offset, '\x7d' :: rest) => .ok (obj [], offset + 1, rest)
      | nesting + 1, (offset, rest) =>
        (members fuel nesting [] offset rest).map fun (found, after) => (obj found, after)
    | cs => atom offset cs

/-- Reads the items of a list and its closing bracket. -/
def elements : (fuel nesting offset : Nat) → List Char →
    Except ReadError (List Json × Nat × List Char)
  | 0, _, offset, _ => .error (.malformed .expectingValue offset)
  | fuel + 1, nesting, offset, cs => do
    let (item, offset, cs) ← value fuel nesting offset cs
    match skipSpace offset cs with
    | (offset, ']' :: rest) => pure ([item], offset + 1, rest)
    | (offset, ',' :: rest) =>
      let (offset, rest) := skipSpace (offset + 1) rest
      let (items, after) ← elements fuel nesting offset rest
      pure (item :: items, after)
    | (offset, _) => throw (.malformed .expectingComma offset)

/-- Reads the members of an object and its closing brace, after the members `found`. A member
whose name is no text is left out. -/
def members : (fuel nesting : Nat) → (found : Members) → (offset : Nat) → List Char →
    Except ReadError (Members × Nat × List Char)
  | 0, _, _, offset, _ => .error (.malformed .expectingName offset)
  | fuel + 1, nesting, found, offset, cs =>
    match cs with
    | '"' :: rest => do
      let (name, offset, cs) ← stringBody offset (offset + 1) rest
      match skipSpace offset cs with
      | (offset, ':' :: rest) =>
        let (offset, rest) := skipSpace (offset + 1) rest
        let (item, offset, cs) ← value fuel nesting offset rest
        let found := match textOfCodes? name with
          | some name => found.put name item
          | none => found
        match skipSpace offset cs with
        | (offset, '\x7d' :: rest) => pure (found, offset + 1, rest)
        | (offset, ',' :: rest) =>
          let (offset, rest) := skipSpace (offset + 1) rest
          members fuel nesting found offset rest
        | (offset, _) => throw (.malformed .expectingComma offset)
      | (offset, _) => throw (.malformed .expectingColon offset)
    | _ => .error (.malformed .expectingName offset)

end

/-- Reads a document: one value with white space around it. Every call of the reading
functions but the last uses a character, so the fuel is enough. -/
def read (text : String) : Except ReadError Json :=
  let cs := text.toList
  if cs.head? = some (Char.ofNat 0xFEFF) then .error (.malformed .byteOrderMark 0)
  else do
    let (offset, rest) := skipSpace 0 cs
    let (result, offset, rest) ← value (2 * cs.length + 2) nestingLimit offset rest
    match skipSpace offset rest with
    | (_, []) => pure result
    | (offset, _) => throw (.malformed .extraData offset)

end OAuthRedirect.Json
