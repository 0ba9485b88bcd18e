import OAuthRedirect.Text.Split

/-!
# Base64 with the URL-safe alphabet

`encode` writes bytes in groups of three as four letters of `A-Z a-z 0-9 - _`; a shorter last
group is completed by `=` signs, which can be left out. `decode` reads the completed form, and
`restorePadding` completes a text without its `=` signs. `decode_encodePadded` is the round
trip.
-/

namespace OAuthRedirect.Base64Url

/-- The letter of a value below 64. -/
def letter (n : Nat) : Char :=
  if n < 26 then Char.ofNat (65 + n)
  else if n < 52 then Char.ofNat (71 + n)
  else if n < 62 then Char.ofNat (n - 4)
  else if n = 62 then '-' else '_'

/-- The value of a letter. -/
def value? (c : Char) : Option Nat :=
  let n := c.toNat
  if 65 ≤ n ∧ n ≤ 90 then some (n - 65)
  else if 97 ≤ n ∧ n ≤ 122 then some (n - 71)
  else if 48 ≤ n ∧ n ≤ 57 then some (n + 4)
  else if c = '-' then some 62
  else if c = '_' then some 63
  else none

/-- The padded form of some bytes. -/
def encodePadded : List UInt8 → List Char
  | b₀ :: b₁ :: b₂ :: rest =>
    letter (b₀.toNat / 4) :: letter (b₀.toNat % 4 * 16 + b₁.toNat / 16)
      :: letter (b₁.toNat % 16 * 4 + b₂.toNat / 64) :: letter (b₂.toNat % 64)
      :: encodePadded rest
  | [b₀, b₁] =>
    [letter (b₀.toNat / 4), letter (b₀.toNat % 4 * 16 + b₁.toNat / 16),
      letter (b₁.toNat % 16 * 4), '=']
  | [b₀] => [letter (b₀.toNat / 4), letter (b₀.toNat % 4 * 16), '=', '=']
  | [] => []

/-- A text without the `=` signs at its end. -/
def dropPadding (cs : List Char) : List Char :=
  Text.dropTrailing (· == '=') cs

/-- The letters of some bytes, with or without the `=` signs at the end. -/
def encode (padding : Bool) (bytes : List UInt8) : List Char :=
  if padding then encodePadded bytes else dropPadding (encodePadded bytes)

/-- Completes a text to whole groups of four by `=` signs. -/
def restorePadding (cs : List Char) : List Char :=
  cs ++ List.replicate ((4 - cs.length % 4) % 4) '='

/-- The bytes of a padded text. -/
def decode : List Char → Option (List UInt8)
  | [] => some []
  | [c₀, c₁, '=', '='] => do
    let v₀ ← value? c₀
    let v₁ ← value? c₁
    pure [UInt8.ofNat (v₀ * 4 + v₁ / 16)]
  | [c₀, c₁, c₂, '='] => do
    let v₀ ← value? c₀
    let v₁ ← value? c₁
    let v₂ ← value? c₂
    pure [UInt8.ofNat (v₀ * 4 + v₁ / 16), UInt8.ofNat (v₁ % 16 * 16 + v₂ / 4)]
  | c₀ :: c₁ :: c₂ :: c₃ :: rest => do
    let v₀ ← value? c₀
    let v₁ ← value? c₁
    let v₂ ← value? c₂
    let v₃ ← value? c₃
    let bytes ← decode rest
    pure (UInt8.ofNat (v₀ * 4 + v₁ / 16) :: UInt8.ofNat (v₁ % 16 * 16 + v₂ / 4)
      :: UInt8.ofNat (v₂ % 4 * 64 + v₃) :: bytes)
  | _ => none

/-! ### Laws -/

theorem value?_letter : ∀ n < 64, value? (letter n) = some n := by decide

theorem letter_ne_pad : ∀ n < 64, letter n ≠ '=' := by decide

/-- Four letters are read as three bytes. -/
theorem decode_letters {v₀ v₁ v₂ v₃ : Nat} (h₀ : v₀ < 64) (h₁ : v₁ < 64) (h₂ : v₂ < 64)
    (h₃ : v₃ < 64) (rest : List Char) :
    decode (letter v₀ :: letter v₁ :: letter v₂ :: letter v₃ :: rest) =
      (decode rest).map fun bytes => UInt8.ofNat (v₀ * 4 + v₁ / 16)
        :: UInt8.ofNat (v₁ % 16 * 16 + v₂ / 4) :: UInt8.ofNat (v₂ % 4 * 64 + v₃) :: bytes := by
  rw [decode]
  · rw [value?_letter _ h₀, value?_letter _ h₁, value?_letter _ h₂, value?_letter _ h₃]
    cases decode rest <;> rfl
  · intro _ hpad
    exact absurd hpad (letter_ne_pad v₃ h₃)
  · intro hpad
    exact absurd hpad (letter_ne_pad v₃ h₃)

/-- The padded form of some bytes is read back. -/
theorem decode_encodePadded (bytes : List UInt8) : decode (encodePadded bytes) = some bytes := by
  fun_induction encodePadded bytes with
  | case1 b₀ b₁ b₂ rest ih =>
    have := b₀.toNat_lt
    have := b₁.toNat_lt
    have := b₂.toNat_lt
    rw [decode_letters (by omega) (by omega) (by omega) (by omega), ih]
    simp only [Option.map_some, Option.some.injEq, List.cons.injEq, and_true, ← UInt8.toNat_inj,
      UInt8.toNat_ofNat']
    omega
  | case2 b₀ b₁ =>
    have := b₀.toNat_lt
    have := b₁.toNat_lt
    rw [decode]
    · simp [value?_letter, -UInt8.ofNat_add, -UInt8.ofNat_mul, ← UInt8.toNat_inj,
        show b₀.toNat / 4 < 64 by omega, show b₀.toNat % 4 * 16 + b₁.toNat / 16 < 64 by omega,
        show b₁.toNat % 16 * 4 < 64 by omega]
      omega
    · intro h
      exact absurd h (letter_ne_pad _ (by omega))
  | case3 b₀ =>
    have := b₀.toNat_lt
    simp [decode, value?_letter, -UInt8.ofNat_add, -UInt8.ofNat_mul, ← UInt8.toNat_inj,
      show b₀.toNat / 4 < 64 by omega, show b₀.toNat % 4 * 16 < 64 by omega]
    omega
  | case4 => rfl

end OAuthRedirect.Base64Url
