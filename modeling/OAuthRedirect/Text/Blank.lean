import OAuthRedirect.Text.Ranges
import OAuthRedirect.Text.Split

/-!
# White space

A character is **blank** when it is one of 29 code points: the ASCII controls `U+0009` to
`U+000D` and `U+001C` to `U+001F`, the space, and every other space, line or paragraph
separator of Unicode.
-/

namespace OAuthRedirect.Text

/-- The blank code points. -/
def blankRanges : Ranges :=
  [(0x9, 0xD), (0x1C, 0x20), (0x85, 0x85), (0xA0, 0xA0), (0x1680, 0x1680), (0x2000, 0x200A),
    (0x2028, 0x2029), (0x202F, 0x202F), (0x205F, 0x205F), (0x3000, 0x3000)]

/-- White space in the sense of Unicode. -/
def isBlank (c : Char) : Bool :=
  blankRanges.mem c.toNat

/-- A text is blank when every character of it is. -/
def isAllBlank (cs : List Char) : Bool :=
  cs.all isBlank

end OAuthRedirect.Text
