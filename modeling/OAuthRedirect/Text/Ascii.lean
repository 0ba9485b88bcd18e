/-!
# ASCII characters

The classes of ASCII characters that the grammars of this library are written in, and the value
of a list of decimal digits.
-/

namespace OAuthRedirect.Text

/-- Is the character one of ASCII? -/
def isAscii (c : Char) : Bool :=
  c.toNat < 0x80

/-- An ASCII letter. -/
def isLetter (c : Char) : Bool :=
  ('a' ≤ c && c ≤ 'z') || ('A' ≤ c && c ≤ 'Z')

/-- The value of ASCII decimal digits, most significant first. -/
def digitsValue (digits : List Char) : Nat :=
  digits.foldl (fun value c => 10 * value + (c.toNat - '0'.toNat)) 0

/-- The bytes of ASCII characters. -/
def asciiBytes (cs : List Char) : List UInt8 :=
  cs.map fun c => UInt8.ofNat c.toNat

/-! ### Laws -/

/-- What holds of the first 128 code points holds of every ASCII character. -/
theorem of_isAscii (p : Char → Prop) (h : ∀ n < 128, p (Char.ofNat n)) {c : Char}
    (hc : isAscii c) : p c := by
  have hp := h c.toNat (by simpa [isAscii] using hc)
  rwa [Char.ofNat_toNat] at hp

theorem isAscii_of_isLetter {c : Char} (h : isLetter c) : isAscii c := by
  simp only [isLetter, Bool.or_eq_true, Bool.and_eq_true, decide_eq_true_eq, Char.le_def,
    UInt32.le_iff_toNat_le] at h
  simp only [isAscii, Char.toNat, decide_eq_true_eq]
  have hz : 'z'.val.toNat = 122 := rfl
  have hZ : 'Z'.val.toNat = 90 := rfl
  omega

theorem isAscii_of_isDigit {c : Char} (h : c.isDigit) : isAscii c := by
  simp only [Char.isDigit, Bool.and_eq_true, decide_eq_true_eq, UInt32.le_iff_toNat_le] at h
  simp only [isAscii, Char.toNat, decide_eq_true_eq]
  have hnine : '9'.val.toNat = 57 := rfl
  omega

end OAuthRedirect.Text
