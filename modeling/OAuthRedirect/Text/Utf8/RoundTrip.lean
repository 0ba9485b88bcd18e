import OAuthRedirect.Text.Utf8

/-!
# Reading back UTF-8

What `encode` writes is read back by each way of reading: `scan_encodeChar` for one character
at the front of any bytes, `decode_encode` for bytes that have to be UTF-8, and
`decodeLossy_encode` for bytes that may be anything.
-/

namespace OAuthRedirect.Text.Utf8

/-! ### One character -/

/-- A continuation byte in its range adds its six bits to the value. -/
theorem continuation_cons {value width bits : Nat} {range : Continuation}
    {ranges : List Continuation} (hb : bits < 64) (hl : range.low ≤ 0x80 + bits)
    (hh : 0x80 + bits ≤ range.high) (rest : List UInt8) :
    continuation value width (range :: ranges) (UInt8.ofNat (0x80 + bits) :: rest) =
      continuation (64 * value + bits) (width + 1) ranges rest := by
  have hn : (UInt8.ofNat (0x80 + bits)).toNat = 0x80 + bits := by
    rw [UInt8.toNat_ofNat']
    omega
  rw [continuation, hn, if_pos ⟨hl, hh⟩, Nat.add_sub_cancel_left]

/-- A character whose bytes stand at the front is read back. -/
theorem scan_encodeChar (c : Char) (rest : List UInt8) :
    ∃ lead more, encodeChar c = lead :: more ∧ scan lead (more ++ rest) = (.char c, rest) := by
  have hn : c.toNat < 0xD800 ∨ (0xDFFF < c.toNat ∧ c.toNat < 0x110000) := c.valid
  have hc := Char.ofNat_toNat c
  simp only [encodeChar]
  generalize c.toNat = n at hn hc
  split
  · refine ⟨_, _, rfl, ?_⟩
    have hlead : (UInt8.ofNat n).toNat = n := by rw [UInt8.toNat_ofNat']; omega
    rw [scan, hlead]
    simp [*]
  · split
    · refine ⟨_, _, rfl, ?_⟩
      have hlead : (UInt8.ofNat (0xC0 + n / 64)).toNat = 0xC0 + n / 64 := by
        rw [UInt8.toNat_ofNat']; omega
      rw [scan, hlead]
      simp only [List.cons_append, List.nil_append]
      rw [if_neg (by omega), if_neg (by omega), if_pos (by omega),
        continuation_cons (by omega) (by simp) (by simp; omega), continuation,
        show 64 * (0xC0 + n / 64 - 0xC0) + n % 64 = n by omega, hc]
    · split
      · refine ⟨_, _, rfl, ?_⟩
        have hlead : (UInt8.ofNat (0xE0 + n / 4096)).toNat = 0xE0 + n / 4096 := by
          rw [UInt8.toNat_ofNat']; omega
        rw [scan, hlead]
        simp only [List.cons_append, List.nil_append]
        rw [if_neg (by omega), if_neg (by omega), if_neg (by omega)]
        split
        · rw [continuation_cons (by omega) (by simp; omega) (by simp; omega),
            continuation_cons (by omega) (by simp) (by simp; omega), continuation,
            show 64 * (64 * 0 + n / 64 % 64) + n % 64 = n by omega, hc]
        · split
          · rw [continuation_cons (by omega) (by simp) (by simp; omega),
              continuation_cons (by omega) (by simp) (by simp; omega), continuation,
              show 64 * (64 * 0xD + n / 64 % 64) + n % 64 = n by omega, hc]
          · rw [if_pos (by omega), continuation_cons (by omega) (by simp) (by simp; omega),
              continuation_cons (by omega) (by simp) (by simp; omega), continuation,
              show 64 * (64 * (0xE0 + n / 4096 - 0xE0) + n / 64 % 64) + n % 64 = n by omega, hc]
      · refine ⟨_, _, rfl, ?_⟩
        have hlead : (UInt8.ofNat (0xF0 + n / 262144)).toNat = 0xF0 + n / 262144 := by
          rw [UInt8.toNat_ofNat']; omega
        rw [scan, hlead]
        simp only [List.cons_append, List.nil_append]
        rw [if_neg (by omega), if_neg (by omega), if_neg (by omega), if_neg (by omega),
          if_neg (by omega), if_neg (by omega)]
        split
        · rw [continuation_cons (by omega) (by simp; omega) (by simp; omega),
            continuation_cons (by omega) (by simp) (by simp; omega),
            continuation_cons (by omega) (by simp) (by simp; omega), continuation,
            show 64 * (64 * (64 * 0 + n / 4096 % 64) + n / 64 % 64) + n % 64 = n by omega, hc]
        · split
          · rw [continuation_cons (by omega) (by simp) (by simp; omega),
              continuation_cons (by omega) (by simp) (by simp; omega),
              continuation_cons (by omega) (by simp) (by simp; omega), continuation,
              show 64 * (64 * (64 * (0xF0 + n / 262144 - 0xF0) + n / 4096 % 64) + n / 64 % 64)
                + n % 64 = n by omega, hc]
          · rw [if_pos (by omega), continuation_cons (by omega) (by simp) (by simp; omega),
              continuation_cons (by omega) (by simp) (by simp; omega),
              continuation_cons (by omega) (by simp) (by simp; omega), continuation,
              show 64 * (64 * (64 * 4 + n / 4096 % 64) + n / 64 % 64) + n % 64 = n by omega, hc]

/-! ### Texts -/

theorem decodeLossy_encode_append (cs : List Char) (rest : List UInt8) :
    decodeLossy (encode cs ++ rest) = cs ++ decodeLossy rest := by
  induction cs with
  | nil => rfl
  | cons c cs ih =>
    obtain ⟨lead, more, he, hs⟩ := scan_encodeChar c (encode cs ++ rest)
    rw [encode, List.flatMap_cons, he, ← encode, List.append_assoc, List.cons_append,
      decodeLossy, hs, ih, List.cons_append]

theorem decodeLossy_encode (cs : List Char) : decodeLossy (encode cs) = cs := by
  simpa [decodeLossy] using decodeLossy_encode_append cs []

theorem decodeFrom_encode (position : Nat) (cs : List Char) :
    decodeFrom position (encode cs) = .ok cs := by
  induction cs generalizing position with
  | nil => rw [encode, List.flatMap_nil, decodeFrom]
  | cons c cs ih =>
    obtain ⟨lead, more, he, hs⟩ := scan_encodeChar c (encode cs)
    rw [encode, List.flatMap_cons, he, ← encode, List.cons_append, decodeFrom, hs]
    simp [ih, Except.map]

theorem decode_encode (cs : List Char) : decode (encode cs) = .ok cs :=
  decodeFrom_encode 0 cs

end OAuthRedirect.Text.Utf8
