/-!
# Sets of code points as tables of ranges

The data of a character property is a list of closed intervals of code points, in increasing
order. `Ranges.mem` looks a code point up.
-/

namespace OAuthRedirect.Text

/-- A set of code points, as closed intervals. -/
abbrev Ranges := List (Nat × Nat)

/-- Membership of a code point in a table of intervals. -/
def Ranges.mem (table : Ranges) (code : Nat) : Bool :=
  table.any fun range => range.1 ≤ code && code ≤ range.2

end OAuthRedirect.Text
