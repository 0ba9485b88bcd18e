/-!
# Timestamps

The time of a log line, to the millisecond.
-/

namespace OAuthRedirect.Log

/-- A date and a time of day. -/
structure Timestamp where
  year : Nat
  month : Nat
  day : Nat
  hour : Nat
  minute : Nat
  second : Nat
  microsecond : Nat
  deriving DecidableEq, Repr

/-- A number with zeros in front, so that it has at least `width` digits. -/
def zeroPadded (width n : Nat) : String :=
  let digits := Nat.toDigits 10 n
  String.ofList (List.replicate (width - digits.length) '0' ++ digits)

/-- Year, month and day, and the time with three places of the second, cut and not rounded. -/
def Timestamp.text (t : Timestamp) : String :=
  toString t.year ++ "-" ++ zeroPadded 2 t.month ++ "-" ++ zeroPadded 2 t.day ++ " "
    ++ zeroPadded 2 t.hour ++ ":" ++ zeroPadded 2 t.minute ++ ":" ++ zeroPadded 2 t.second ++ "."
    ++ zeroPadded 3 (t.microsecond / 1000)

end OAuthRedirect.Log
