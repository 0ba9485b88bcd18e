import OAuthRedirect.Decimal.Shortest

/-!
# Doubles as text

`realText` writes a double with the fewest digits that read back, by `Style`: positional
while the leading digit stands for `10^-4` to `10^15`, with an exponent of two digits or more
otherwise. `realOfDecimal` reads `digits · 10^exponent`, rounded to the nearest double.
-/

namespace OAuthRedirect.Decimal

/-- The decisions of a printer of doubles. -/
structure Style where
  /-- The least exponent of the leading digit that is written positionally. -/
  leastPositional : Int
  /-- The greatest exponent of the leading digit that is written positionally. -/
  greatestPositional : Int
  /-- How a positional number without fraction ends. -/
  wholeTail : String
  /-- The least number of digits of an exponent. -/
  exponentDigits : Nat
  infinity : String
  negativeInfinity : String
  notANumber : String

/-- Doubles in messages: `1.0`, `0.0001`, `1e-05`, `1e+16`, `inf`, `nan`. -/
def messageStyle : Style :=
  { leastPositional := -4
    greatestPositional := 15
    wholeTail := ".0"
    exponentDigits := 2
    infinity := "inf"
    negativeInfinity := "-inf"
    notANumber := "nan" }

/-- Doubles in documents, which differ from those in messages where there is no number. -/
def documentStyle : Style :=
  { messageStyle with
    infinity := "Infinity"
    negativeInfinity := "-Infinity"
    notANumber := "NaN" }

/-- The text of `digits · 10^exponent`. -/
def Scaled.text (style : Style) (s : Scaled) : String :=
  let digits := Nat.toDigits 10 s.digits
  let leading := s.exponent + digits.length - 1
  if style.leastPositional ≤ leading ∧ leading ≤ style.greatestPositional then
    if leading < 0 then
      "0." ++ String.ofList (List.replicate (-leading - 1).toNat '0' ++ digits)
    else
      let whole := leading.toNat + 1
      if digits.length ≤ whole then
        String.ofList (digits ++ List.replicate (whole - digits.length) '0') ++ style.wholeTail
      else
        String.ofList (digits.take whole) ++ "." ++ String.ofList (digits.drop whole)
  else
    let fraction := digits.drop 1
    let magnitude := Nat.toDigits 10 leading.natAbs
    String.ofList (digits.take 1)
      ++ (if fraction.isEmpty then "" else "." ++ String.ofList fraction)
      ++ (if leading < 0 then "e-" else "e+")
      ++ String.ofList (List.replicate (style.exponentDigits - magnitude.length) '0' ++ magnitude)

/-- The leading bit of the 53-bit mantissa of a double, which its 52 fraction bits leave out. -/
def implicitBit : Nat := 4503599627370496

/-- The text of a double. -/
def realText (style : Style) (x : Float) : String :=
  let bits : Nat := x.toBits.toNat
  let negative := bits / implicitBit / 2048 = 1
  let biased : Nat := bits / implicitBit % 2048
  let fraction : Nat := bits % implicitBit
  if biased = 2047 then
    if fraction ≠ 0 then style.notANumber
    else if negative then style.negativeInfinity else style.infinity
  else
    let magnitude : String :=
      if biased = 0 then
        if fraction = 0 then Scaled.text style ⟨0, 0⟩
        else (Binary.shortest ⟨fraction, -1074, false⟩).text style
      else
        (Binary.shortest ⟨implicitBit + fraction, (biased : Int) - 1075,
          fraction == 0 && biased > 1⟩).text style
    if negative then "-" ++ magnitude else magnitude

/-- The double nearest to `digits · 10^exponent`. Beyond `10^310` every value is infinite and
below `10^-330` every value is zero, so the exact arithmetic stays small. -/
def realOfDecimal (digits : Nat) (exponent : Int) : Float :=
  let magnitude := exponent + digitCount digits
  if digits = 0 ∨ magnitude < -330 then 0.0
  else if 310 < magnitude then 1.0 / 0.0
  else Float.ofScientific digits (exponent < 0) exponent.natAbs

end OAuthRedirect.Decimal
