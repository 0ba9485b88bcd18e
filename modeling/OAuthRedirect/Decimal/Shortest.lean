/-!
# The shortest decimal of a binary fraction

A positive double `m · 2^q` stands for all reals that round to it, an interval around it that
includes its ends exactly when `m` is even. `shortest` finds the decimal in that interval with
the fewest digits, and of those the nearest: for one digit, two digits and so on it tests the
two neighbours of the value on that decimal grid, in exact arithmetic, and stops at the first
grid that has one in the interval.
-/

namespace OAuthRedirect.Decimal

/-- The positive number `mantissa · 2^exponent`; `lowerGapHalved` when the next smaller double
is only half as far away as the next larger one. -/
structure Binary where
  mantissa : Nat
  exponent : Int
  lowerGapHalved : Bool

/-- The number `digits · 10^exponent`. -/
structure Scaled where
  digits : Nat
  exponent : Int
  deriving DecidableEq, Repr

/-- How many decimal digits a number is written with. -/
def digitCount (n : Nat) : Nat :=
  (Nat.toDigits 10 n).length

/-- An interval of rationals with one denominator, and the value inside it. -/
structure Rounding where
  low : Nat
  value : Nat
  high : Nat
  denominator : Nat
  /-- Do the ends belong to the interval? -/
  closed : Bool

/-- The reals that round to a binary fraction, in quarters of its last place. -/
def Binary.rounding (b : Binary) : Rounding :=
  let scale := Nat.pow 2 (b.exponent - 2).toNat
  { low := (4 * b.mantissa - if b.lowerGapHalved then 1 else 2) * scale
    value := 4 * b.mantissa * scale
    high := (4 * b.mantissa + 2) * scale
    denominator := Nat.pow 2 (2 - b.exponent).toNat
    closed := b.mantissa % 2 == 0 }

/-- The exponent of the leading decimal digit of `value / denominator`. -/
def Rounding.leading (r : Rounding) : Int :=
  if r.denominator ≤ r.value then digitCount (r.value / r.denominator) - 1
  else -(digitCount ((r.denominator + r.value - 1) / r.value - 1) : Int)

/-- The nearest number of the interval on the grid of multiples of `10^exponent`, a tie going
to the even one; `none` when the grid has no point in the interval. -/
def Rounding.nearestOnGrid? (r : Rounding) (exponent : Int) : Option Scaled :=
  let up := Nat.pow 10 (-exponent).toNat
  let unit := r.denominator * Nat.pow 10 exponent.toNat
  let below := r.value * up / unit
  let remainder := r.value * up % unit
  let above := below + 1
  -- The value lies between the two neighbours, so only one end of the interval matters to each.
  let belowIn := if r.closed then r.low * up ≤ below * unit else r.low * up < below * unit
  let aboveIn := if r.closed then above * unit ≤ r.high * up else above * unit < r.high * up
  let belowNearer := 2 * remainder < unit ∨ (2 * remainder = unit ∧ below % 2 = 0)
  if belowIn ∧ (belowNearer ∨ ¬ aboveIn) then some ⟨below, exponent⟩
  else if aboveIn then some ⟨above, exponent⟩
  else none

/-- A number without its trailing zeros; `fuel` bounds how many are taken off. -/
def Scaled.trimmed : (fuel : Nat) → Scaled → Scaled
  | 0, s => s
  | fuel + 1, s =>
    if s.digits % 10 = 0 ∧ s.digits ≠ 0 then trimmed fuel ⟨s.digits / 10, s.exponent + 1⟩ else s

/-- The shortest decimal that rounds to the value, and of those of its length the nearest. -/
def Binary.shortest (b : Binary) : Scaled :=
  let r := b.rounding
  let leading := r.leading
  let grids := (List.range 17).map fun (places : Nat) => leading - (places : Int)
  ((grids.findSome? r.nearestOnGrid?).getD ⟨b.mantissa, b.exponent⟩).trimmed 20

end OAuthRedirect.Decimal
