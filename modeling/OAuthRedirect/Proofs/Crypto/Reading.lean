import Mathlib.Algebra.Order.Floor.Div
import OAuthRedirect.Crypto.KeyGenerator
import OAuthRedirect.Proofs.Crypto.Letters

/-!
# Reading base64 back

The `=` signs of a text are determined by the number of its letters, so that a text without them is
completed to the text that had them (`Base64Url.restorePadding_encode`), and the bytes are read from
either one. Nothing is lost, then, when bytes are written as a key (`Base64Url.encode_lossless`):
keys of different bytes are different (`KeyGenerator.key_injective`), and but for `=` signs at the
end they hold no character that a URL would have to escape.
-/

namespace OAuthRedirect

namespace Base64Url

/-- The characters `A-Z a-z 0-9 - _`, in the order of the values that they stand for. -/
def alphabet : List Char :=
  "ABCDEFGHIJKLMNOPQRSTUVWXYZabcdefghijklmnopqrstuvwxyz0123456789-_".toList

theorem getElem?_alphabet : ∀ n < 64, alphabet[n]? = some (letter n) := by decide

/-- A text with its `=` signs or without them is completed to the one with them. -/
theorem restorePadding_encode (padding : Bool) (bytes : List UInt8) :
    restorePadding (encode padding bytes) = encode true bytes := by
  cases padding with
  | true =>
    have hlength : (encode true bytes).length = (bytes.length + 2) / 3 * 4 :=
      length_encodePadded bytes
    have hwhole : (4 - (encode true bytes).length % 4) % 4 = 0 := by omega
    rw [restorePadding, hwhole, List.replicate_zero, List.append_nil]
  | false =>
    -- with its `=` signs, fewer than four, the text is whole groups of four
    have hwhole : (encode false bytes).length + padCount bytes = (bytes.length + 2) / 3 * 4 := by
      rw [← length_encodePadded, encodePadded_eq_append, List.length_append, List.length_replicate]
    have hfew : padCount bytes < 4 := Nat.lt_of_le_of_lt (Nat.sub_le 2 _) (by decide)
    have hgap : (4 - (encode false bytes).length % 4) % 4 = padCount bytes := by omega
    rw [restorePadding, hgap]
    exact (encodePadded_eq_append bytes).symm

/-- **Bytes are read back** from their completed text. -/
theorem decode_restorePadding_encode (padding : Bool) (bytes : List UInt8) :
    decode (restorePadding (encode padding bytes)) = some bytes := by
  rw [restorePadding_encode]
  exact decode_encodePadded bytes

theorem encode_injective (padding : Bool) : Function.Injective (encode padding) := by
  intro bytes bytes' h
  have hread : some bytes = some bytes' := by
    rw [← decode_restorePadding_encode padding bytes, h, decode_restorePadding_encode]
  exact Option.some_inj.mp hread

/-- **Writing bytes as text loses nothing.** The bytes are read back from their text, whether its
`=` signs were kept or have to be restored, so that different bytes have different texts. Without
`=` signs a text is of the characters `A-Z a-z 0-9 - _` alone, one for every six bits that are
begun. The text with them is the same characters and, behind them, what completes the last group of
four; there is one group for every three bytes that are begun. -/
theorem encode_lossless (padding : Bool) (bytes : List UInt8) :
    decode (restorePadding (encode padding bytes)) = some bytes ∧
      Function.Injective (encode padding) ∧
      (∀ c ∈ encode false bytes, c ∈ alphabet) ∧
      encode true bytes = restorePadding (encode false bytes) ∧
      (encode true bytes).length = 4 * (bytes.length ⌈/⌉ 3) ∧
      (encode false bytes).length = (4 * bytes.length) ⌈/⌉ 3 := by
  refine ⟨decode_restorePadding_encode padding bytes, encode_injective padding, fun c hc => ?_,
    (restorePadding_encode false bytes).symm, ?_, ?_⟩
  · obtain ⟨v, hv, rfl⟩ := exists_letter_of_mem hc
    exact List.mem_of_getElem? (getElem?_alphabet v hv)
  · have hlength : (encode true bytes).length = (bytes.length + 2) / 3 * 4 :=
      length_encodePadded bytes
    rw [hlength, Nat.ceilDiv_eq_add_pred_div]
    omega
  · rw [length_encode_unpadded, Nat.ceilDiv_eq_add_pred_div]
    omega

/-- Four bytes whose text has both of the characters that are no letter or digit, and a last group
that is almost empty. -/
theorem encode_lossless_marks :
    String.ofList (encode true [0xFB, 0xFF, 0xBF, 0xFE]) = "-_-__g==" ∧
      decode (restorePadding (encode false [0xFB, 0xFF, 0xBF, 0xFE])) =
        some [0xFB, 0xFF, 0xBF, 0xFE] ∧
      '-' ∈ encode false [0xFB, 0xFF, 0xBF, 0xFE] ∧ '-' ∈ alphabet ∧
      (encode false [0xFB, 0xFF, 0xBF, 0xFE]).length = (4 * 4) ⌈/⌉ 3 := by
  obtain ⟨hread, -, hsafe, -, -, hlength⟩ := encode_lossless false [0xFB, 0xFF, 0xBF, 0xFE]
  have hmem : '-' ∈ encode false [0xFB, 0xFF, 0xBF, 0xFE] := by decide
  exact ⟨by decide, hread, hmem, hsafe '-' hmem, hlength⟩

end Base64Url

/-- **Keys of different bytes are different**, whatever generator makes them. -/
theorem KeyGenerator.key_injective (g : KeyGenerator) : Function.Injective g.key := fun _ _ h =>
  Base64Url.encode_injective g.padding (String.ofList_injective h)

end OAuthRedirect
