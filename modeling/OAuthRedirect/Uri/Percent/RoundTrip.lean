import OAuthRedirect.Text.Utf8.RoundTrip
import OAuthRedirect.Uri.Percent

/-!
# Reading back percent-encoded text

A text whose characters are all in ASCII is read as one run of bytes (`decode_of_ascii`), and
what `encode` writes is such a text, whose bytes are the UTF-8 form of the text encoded
(`bytes_encode`). So `decode` inverts `encode` (`decode_encode`) for every choice of kept
characters in ASCII that leaves out the percent sign.
-/

namespace OAuthRedirect.Uri.Percent

open Text

/-! ### Reading escapes -/

theorem byte?_upper (b : UInt8) :
    byte? (Hex.upper (b.toNat / 16)) (Hex.upper (b.toNat % 16)) = some b := by
  have := b.toNat_lt
  rw [byte?, Hex.value?_upper _ (by omega), Hex.value?_upper _ (by omega)]
  simp [← UInt8.toNat_inj, -UInt8.ofNat_add, -UInt8.ofNat_mul]
  omega

theorem bytes_escapeByte_append (b : UInt8) (rest : List Char) :
    bytes (escapeByte b ++ rest) = b :: bytes rest := by
  simp only [escapeByte, List.cons_append, List.nil_append]
  rw [bytes, byte?_upper]

theorem bytes_cons_of_ne {c : Char} (h : c ≠ '%') (rest : List Char) :
    bytes (c :: rest) = UInt8.ofNat c.toNat :: bytes rest := by
  rw [bytes]
  rintro high low tail rfl
  exact absurd rfl h

theorem bytes_flatMap_escapeByte_append (bs : List UInt8) (rest : List Char) :
    bytes (bs.flatMap escapeByte ++ rest) = bs ++ bytes rest := by
  induction bs with
  | nil => rfl
  | cons b bs ih =>
    rw [List.flatMap_cons, List.append_assoc, bytes_escapeByte_append, ih, List.cons_append]

/-- A text of ASCII characters alone is one run. -/
theorem decode_of_ascii {cs : List Char} (h : ∀ c ∈ cs, isAscii c) :
    decode cs = Utf8.decodeLossy (bytes cs) := by
  cases cs with
  | nil => simp [decode, bytes, Utf8.decodeLossy]
  | cons c cs =>
    rw [List.forall_mem_cons] at h
    have ht : cs.takeWhile isAscii = cs := by
      rw [← List.append_nil cs, List.takeWhile_append_of_pos h.2, List.takeWhile_nil]
    have hd : cs.dropWhile isAscii = [] := by
      rw [← List.append_nil cs, List.dropWhile_append_of_pos h.2, List.dropWhile_nil]
    rw [decode, if_pos h.1, hd, ht, decode, List.append_nil]

/-! ### What is written -/

theorem isAscii_of_isUnreserved {c : Char} (h : isUnreserved c) : isAscii c := by
  simp only [isUnreserved, Bool.or_eq_true, beq_iff_eq] at h
  obtain ((((h | h) | rfl) | rfl) | rfl) | rfl := h
  · exact isAscii_of_isLetter h
  · exact isAscii_of_isDigit h
  all_goals rfl

theorem isUnreserved_upper : ∀ n < 16, isUnreserved (Hex.upper n) := by decide

/-- Nothing is written but unreserved characters, those that are kept, and the percent sign. -/
theorem cases_of_mem_encode {keep : Char → Bool} {cs : List Char} {c : Char}
    (h : c ∈ encode keep cs) : isUnreserved c ∨ keep c ∨ c = '%' := by
  simp only [encode, List.mem_flatMap, encodeChar] at h
  obtain ⟨d, -, hd⟩ := h
  split at hd
  · rename_i hs
    rw [List.mem_singleton] at hd
    subst hd
    rw [Bool.or_eq_true] at hs
    exact hs.imp_right .inl
  · obtain ⟨b, -, hb⟩ := List.mem_flatMap.1 hd
    have := b.toNat_lt
    simp only [escapeByte, List.mem_cons, List.not_mem_nil, or_false] at hb
    obtain rfl | rfl | rfl := hb
    · exact .inr (.inr rfl)
    · exact .inl (isUnreserved_upper _ (by omega))
    · exact .inl (isUnreserved_upper _ (by omega))

/-- Everything that is written is ASCII, if what is kept is. -/
theorem isAscii_of_mem_encode {keep : Char → Bool} (hk : ∀ c, keep c → isAscii c)
    {cs : List Char} {c : Char} (h : c ∈ encode keep cs) : isAscii c := by
  obtain h | h | rfl := cases_of_mem_encode h
  · exact isAscii_of_isUnreserved h
  · exact hk c h
  · rfl

theorem encodeChar_of_isAscii {c : Char} (h : isAscii c) :
    Utf8.encodeChar c = [UInt8.ofNat c.toNat] := by
  simp only [isAscii, decide_eq_true_eq] at h
  simp [Utf8.encodeChar, h]

/-! ### Round trip -/

/-- Reading the escapes gives the bytes of the text. -/
theorem bytes_encode {keep : Char → Bool} (hk : ∀ c, keep c → isAscii c) (hp : keep '%' = false)
    (cs : List Char) : bytes (encode keep cs) = Utf8.encode cs := by
  induction cs with
  | nil => rw [encode, List.flatMap_nil, bytes]; rfl
  | cons c cs ih =>
    rw [encode, List.flatMap_cons, Utf8.encode, List.flatMap_cons, ← encode, ← Utf8.encode,
      encodeChar]
    split
    · rename_i hs
      rw [Bool.or_eq_true] at hs
      have hne : c ≠ '%' := by
        rintro rfl
        simp [hp, isUnreserved, isLetter] at hs
      have ha : isAscii c := hs.elim isAscii_of_isUnreserved (hk c)
      rw [List.singleton_append, bytes_cons_of_ne hne, ih, encodeChar_of_isAscii ha,
        List.singleton_append]
    · rw [bytes_flatMap_escapeByte_append, ih]

/-- What is written is read back, if ASCII characters other than `%` are kept. -/
theorem decode_encode {keep : Char → Bool} (hk : ∀ c, keep c → isAscii c) (hp : keep '%' = false)
    (cs : List Char) : decode (encode keep cs) = cs := by
  rw [decode_of_ascii fun c => isAscii_of_mem_encode hk, bytes_encode hk hp,
    Utf8.decodeLossy_encode]

end OAuthRedirect.Uri.Percent
