/-!
# Hexadecimal digits

`lower` and `upper` write a value below sixteen, `value?` reads a digit of either case.
`value?_upper` and `value?_lower` are the two round trips.
-/

namespace OAuthRedirect.Text.Hex

/-- The digit of a value below sixteen, letters in upper case. -/
def upper (n : Nat) : Char :=
  if n < 10 then Char.ofNat (48 + n) else Char.ofNat (55 + n)

/-- The digit of a value below sixteen, letters in lower case. -/
def lower (n : Nat) : Char :=
  if n < 10 then Char.ofNat (48 + n) else Char.ofNat (87 + n)

/-- The value of a hexadecimal digit of either case. -/
def value? (c : Char) : Option Nat :=
  let n := c.toNat
  if 48 ≤ n ∧ n ≤ 57 then some (n - 48)
  else if 65 ≤ n ∧ n ≤ 70 then some (n - 55)
  else if 97 ≤ n ∧ n ≤ 102 then some (n - 87)
  else none

/-- Is the character a hexadecimal digit? -/
def isDigit (c : Char) : Bool :=
  (value? c).isSome

/-- The last `width` hexadecimal digits of `n`, in lower case. -/
def padded : (width : Nat) → (n : Nat) → List Char
  | 0, _ => []
  | width + 1, n => padded width (n / 16) ++ [lower (n % 16)]

theorem value?_upper : ∀ n < 16, value? (upper n) = some n := by decide

theorem value?_lower : ∀ n < 16, value? (lower n) = some n := by decide

theorem length_padded (width n : Nat) : (padded width n).length = width := by
  induction width generalizing n with
  | zero => rfl
  | succ width ih => simp [padded, ih]

theorem le_toNat_lower : ∀ n < 16, 48 ≤ (lower n).toNat := by decide

theorem le_of_mem_padded {width n : Nat} {c : Char} (h : c ∈ padded width n) : 48 ≤ c.toNat := by
  induction width generalizing n with
  | zero => cases h
  | succ width ih =>
    obtain h | h := List.mem_append.mp h
    · exact ih h
    · obtain rfl := List.mem_singleton.mp h
      exact le_toNat_lower _ (Nat.mod_lt n (by decide))

/-- The bytes that a text of hexadecimal digit pairs stands for. -/
def bytes? : List Char → Option (List UInt8)
  | [] => some []
  | [_] => none
  | high :: low :: rest => do
    let h ← value? high
    let l ← value? low
    let bytes ← bytes? rest
    pure (UInt8.ofNat (16 * h + l) :: bytes)

end OAuthRedirect.Text.Hex
