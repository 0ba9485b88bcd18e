import OAuthRedirect.Proofs.Crypto.Transformation

/-!
# The length of keys

A key has at least 32 bytes, so its text has at least 43 characters
(`KeyGenerator.le_length_generate`), and so has the `S256` challenge of a verifier
(`Pkce.length_s256`).
-/

namespace OAuthRedirect

/-- The length of a key is up to its generator, not to the bytes that are drawn. -/
theorem KeyGenerator.length_generate (g : KeyGenerator) (source : Entropy) :
    (g.generate source).1.toList.length =
      if g.padding then (g.keyLength + 2) / 3 * 4 else (4 * g.keyLength + 2) / 3 := by
  have hbytes : (source.draw g.keyLength).1.length = g.keyLength := source.length_block _ _
  rw [toList_generate]
  cases g.padding with
  | true =>
    change (Base64Url.encodePadded _).length = _
    rw [Base64Url.length_encodePadded, hbytes, if_pos rfl]
  | false => rw [Base64Url.length_encode_unpadded, hbytes, if_neg Bool.false_ne_true]

/-- **A key has at least 43 characters**, whatever generator made it. -/
theorem KeyGenerator.le_length_generate (g : KeyGenerator) (source : Entropy) :
    43 ≤ (g.generate source).1.toList.length := by
  have henough : 32 ≤ g.keyLength := g.enough
  rw [length_generate]
  split
  all_goals omega

/-- No shorter text is a key. -/
theorem KeyGenerator.generate_ne {g : KeyGenerator} {source : Entropy} {text : String}
    (hshort : text.toList.length < 43) : (g.generate source).1 ≠ text := by
  rintro rfl
  exact absurd (g.le_length_generate source) (Nat.not_le.mpr hshort)

theorem Pkce.length_s256 (verifier : String) : (s256 verifier).toList.length = 43 := by
  rw [s256, String.toList_ofList, Base64Url.length_encode_unpadded, Sha256.length_digest]

/-- **A proof key has at least 43 characters on both sides**, when its verifier was made by a
generator, and the hash alone decides about its method. -/
theorem Pkce.le_length_generate (g : KeyGenerator) (sha256 : Bool) (source : Entropy) :
    let p := (generate (.random g) sha256 source).1
    43 ≤ p.verifier.toList.length ∧ 43 ≤ p.challenge.toList.length ∧
      p.method = if sha256 then some .s256 else none := by
  intro p
  have hp : p = if sha256 then
      ⟨(g.generate source).1, s256 (g.generate source).1, some .s256⟩
    else ⟨(g.generate source).1, (g.generate source).1, none⟩ :=
    ofVerifier_of_isAscii (fun _ hc => KeyGenerator.isAscii_of_mem_generate hc) sha256
  have hverifier := g.le_length_generate source
  rw [hp]
  cases sha256 with
  | true => exact ⟨hverifier, (length_s256 _).ge, rfl⟩
  | false => exact ⟨hverifier, hverifier, rfl⟩

end OAuthRedirect
