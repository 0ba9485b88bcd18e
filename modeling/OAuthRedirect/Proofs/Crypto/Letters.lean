import Mathlib.Data.List.TakeWhile
import OAuthRedirect.Crypto.Base64Url

/-!
# The letters of base64

What base64 writes for some bytes are letters, one for every six bits of the bytes, and behind them
an `=` sign for every byte that is missing in the last group (`exists_letters`). Without its `=`
signs the text is these letters (`encodePadded_eq_append`), so that none of them is lost with the
signs (`length_encode_unpadded`).
-/

namespace OAuthRedirect.Base64Url

open Text

/-- How many `=` signs complete the last group. -/
def padCount (bytes : List UInt8) : Nat :=
  2 - (bytes.length + 2) % 3

/-- **Letters first, `=` signs behind them.** -/
theorem exists_letters (bytes : List UInt8) :
    ∃ values : List Nat, (∀ v ∈ values, v < 64) ∧
      values.length = (4 * bytes.length + 2) / 3 ∧
      encodePadded bytes = values.map letter ++ List.replicate (padCount bytes) '=' := by
  fun_induction encodePadded bytes with
  | case1 b₀ b₁ b₂ rest ih =>
    obtain ⟨values, hlt, hlength, heq⟩ := ih
    have := b₀.toNat_lt
    have := b₁.toNat_lt
    have := b₂.toNat_lt
    refine ⟨b₀.toNat / 4 :: (b₀.toNat % 4 * 16 + b₁.toNat / 16)
      :: (b₁.toNat % 16 * 4 + b₂.toNat / 64) :: (b₂.toNat % 64) :: values, ?_, ?_, ?_⟩
    · simp only [List.forall_mem_cons]
      exact ⟨by omega, by omega, by omega, by omega, hlt⟩
    · simp only [List.length_cons, hlength]
      omega
    · -- a whole group more leaves the last one as it is
      have hpad : padCount (b₀ :: b₁ :: b₂ :: rest) = padCount rest := by
        simp only [padCount, List.length_cons]
        omega
      simp only [List.map_cons, List.cons_append, heq, hpad]
  | case2 b₀ b₁ =>
    have := b₀.toNat_lt
    have := b₁.toNat_lt
    refine ⟨[b₀.toNat / 4, b₀.toNat % 4 * 16 + b₁.toNat / 16, b₁.toNat % 16 * 4], ?_, by simp,
      by simp [padCount]⟩
    simp only [List.forall_mem_cons]
    exact ⟨by omega, by omega, by omega, by simp⟩
  | case3 b₀ =>
    have := b₀.toNat_lt
    refine ⟨[b₀.toNat / 4, b₀.toNat % 4 * 16], ?_, by simp, by simp [padCount]⟩
    simp only [List.forall_mem_cons]
    exact ⟨by omega, by omega, by simp⟩
  | case4 => exact ⟨[], by simp, rfl, rfl⟩

/-- Without its `=` signs a text is its letters. -/
theorem exists_letters_unpadded (bytes : List UInt8) :
    ∃ values : List Nat, (∀ v ∈ values, v < 64) ∧
      values.length = (4 * bytes.length + 2) / 3 ∧ encode false bytes = values.map letter ∧
      encodePadded bytes = values.map letter ++ List.replicate (padCount bytes) '=' := by
  obtain ⟨values, hlt, hlength, heq⟩ := exists_letters bytes
  refine ⟨values, hlt, hlength, ?_, heq⟩
  change dropTrailing (· == '=') (encodePadded bytes) = _
  rw [heq]
  refine dropTrailing_append (fun c hc => ?_) fun c hc => ?_
  · simpa using List.eq_of_mem_replicate hc
  · obtain ⟨v, hv, rfl⟩ := List.mem_map.mp (List.mem_of_getLast? hc)
    simpa using letter_ne_pad v (hlt v hv)

theorem encodePadded_eq_append (bytes : List UInt8) :
    encodePadded bytes = encode false bytes ++ List.replicate (padCount bytes) '=' := by
  obtain ⟨values, -, -, hletters, heq⟩ := exists_letters_unpadded bytes
  rw [hletters, heq]

theorem exists_letter_of_mem {bytes : List UInt8} {c : Char} (h : c ∈ encode false bytes) :
    ∃ v < 64, c = letter v := by
  obtain ⟨values, hlt, -, hletters, -⟩ := exists_letters_unpadded bytes
  rw [hletters] at h
  obtain ⟨v, hv, rfl⟩ := List.mem_map.mp h
  exact ⟨v, hlt v hv, rfl⟩

theorem cases_of_mem_encode {padding : Bool} {bytes : List UInt8} {c : Char}
    (h : c ∈ encode padding bytes) : (∃ v < 64, c = letter v) ∨ padding = true ∧ c = '=' := by
  cases padding with
  | false => exact .inl (exists_letter_of_mem h)
  | true =>
    change c ∈ encodePadded bytes at h
    rw [encodePadded_eq_append] at h
    obtain h | h := List.mem_append.mp h
    · exact .inl (exists_letter_of_mem h)
    · exact .inr ⟨rfl, List.eq_of_mem_replicate h⟩

/-- **No letter is lost with the `=` signs**: the letters are as many as the bits of the bytes
need at six bits a letter. -/
theorem length_encode_unpadded (bytes : List UInt8) :
    (encode false bytes).length = (4 * bytes.length + 2) / 3 := by
  obtain ⟨values, -, hlength, hletters, -⟩ := exists_letters_unpadded bytes
  rw [hletters, List.length_map, hlength]

theorem length_encodePadded (bytes : List UInt8) :
    (encodePadded bytes).length = (bytes.length + 2) / 3 * 4 := by
  rw [encodePadded_eq_append, List.length_append, length_encode_unpadded, List.length_replicate,
    padCount]
  omega

end OAuthRedirect.Base64Url
