import OAuthRedirect.Text.Ascii
import OAuthRedirect.Text.Hex
import OAuthRedirect.Text.Utf8

/-!
# Percent-encoding

`encode` writes each byte of the UTF-8 form of a character as `%` and two hexadecimal digits
in upper case, except for letters, digits, `_ . - ~` and the characters that the caller keeps.
`decode` reads the escapes of each maximal run of ASCII characters as UTF-8, with `U+FFFD` for
bytes that are none; a `%` without two hexadecimal digits stands for itself.
-/

namespace OAuthRedirect.Uri.Percent

/-- A character that never has to be escaped. -/
def isUnreserved (c : Char) : Bool :=
  Text.isLetter c || c.isDigit || c == '_' || c == '.' || c == '-' || c == '~'

/-- The escape of a byte. -/
def escapeByte (b : UInt8) : List Char :=
  ['%', Text.Hex.upper (b.toNat / 16), Text.Hex.upper (b.toNat % 16)]

/-- How a character is written when those in `keep` stay. -/
def encodeChar (keep : Char → Bool) (c : Char) : List Char :=
  if isUnreserved c || keep c then [c] else (Text.Utf8.encodeChar c).flatMap escapeByte

/-- The percent-encoded form of a text. -/
def encode (keep : Char → Bool) (cs : List Char) : List Char :=
  cs.flatMap (encodeChar keep)

/-- The byte that an escape after its `%` stands for. -/
def byte? (high low : Char) : Option UInt8 := do
  let h ← Text.Hex.value? high
  let l ← Text.Hex.value? low
  pure (UInt8.ofNat (16 * h + l))

/-- The bytes of a run of ASCII characters, escapes resolved. -/
def bytes : List Char → List UInt8
  | '%' :: high :: low :: rest =>
    match byte? high low with
    | some b => b :: bytes rest
    | none => UInt8.ofNat '%'.toNat :: bytes (high :: low :: rest)
  | c :: rest => UInt8.ofNat c.toNat :: bytes rest
  | [] => []
termination_by cs => cs.length

/-- The text that a percent-encoded text stands for. -/
def decode : List Char → List Char
  | [] => []
  | c :: cs =>
    if Text.isAscii c then
      Text.Utf8.decodeLossy (bytes (c :: cs.takeWhile Text.isAscii))
        ++ decode (cs.dropWhile Text.isAscii)
    else c :: decode cs
termination_by cs => cs.length
decreasing_by
  · have := (cs.dropWhile_sublist Text.isAscii).length_le
    simp only [List.length_cons]
    omega
  · simp

end OAuthRedirect.Uri.Percent
