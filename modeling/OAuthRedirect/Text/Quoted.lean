import OAuthRedirect.Text.Hex
import OAuthRedirect.Text.Printable

/-!
# Quoted text

A text is quoted in `'`, or in `"` when it holds the first and not the second. Inside, the
quote in use and the backslash are escaped by a backslash, tab and line breaks are written as
`\t`, `\n` and `\r`, and a code point that is not printable is written in hexadecimal with
two, four or eight digits.
-/

namespace OAuthRedirect.Text

/-- The escape that names a code point by its hexadecimal digits, as few of two, four and
eight as are enough. -/
def escapedCode (code : Nat) : List Char :=
  if code < 0x100 then '\\' :: 'x' :: Hex.padded 2 code
  else if code < 0x10000 then '\\' :: 'u' :: Hex.padded 4 code
  else '\\' :: 'U' :: Hex.padded 8 code

/-- How a code point is written inside quotes of the given kind. -/
def quotedCode (quote : Char) (code : Nat) : List Char :=
  if code = quote.toNat ∨ code = '\\'.toNat then ['\\', Char.ofNat code]
  else if code = '\t'.toNat then ['\\', 't']
  else if code = '\n'.toNat then ['\\', 'n']
  else if code = '\r'.toNat then ['\\', 'r']
  else if isPrintable code then [Char.ofNat code]
  else escapedCode code

/-- The quote that a text is put in. -/
def quoteFor (codes : List Nat) : Char :=
  if codes.contains '\''.toNat && !codes.contains '"'.toNat then '"' else '\''

/-- Quoted form of a list of code points. -/
def quotedCodes (codes : List Nat) : List Char :=
  quoteFor codes :: codes.flatMap (quotedCode (quoteFor codes)) ++ [quoteFor codes]

/-- Quoted form of a text. -/
def quoted (s : String) : String :=
  String.ofList (quotedCodes (s.toList.map Char.toNat))

/-- The message on a run of code points, beginning with `code`, that an encoding does not have. -/
def encodingMessage (encoding : String) (code position length : Nat) (reason : String) : String :=
  let place :=
    if length = 1 then
      s!"character '{String.ofList (escapedCode code)}' in position {position}"
    else s!"characters in position {position}-{position + length - 1}"
  s!"'{encoding}' codec can't encode {place}: {reason}"

end OAuthRedirect.Text
