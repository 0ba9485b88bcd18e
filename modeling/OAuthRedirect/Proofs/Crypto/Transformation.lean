import OAuthRedirect.Crypto.Pkce
import OAuthRedirect.Proofs.Crypto.Letters
import OAuthRedirect.Strings

/-!
# Transformations of code verifiers

The server of RFC 7636 transforms the verifier that it is shown and compares the result with the
challenge that it was sent (`Pkce.redeems`). A verifier that was made by a key generator is
ASCII, whatever the generator and the bytes drawn, so that its challenge is its `S256`
transformation exactly when the hash is there (`Pkce.ofVerifier_of_isAscii`): the fallback for
verifiers that are not ASCII is never taken.
-/

namespace OAuthRedirect

open Text

/-! ### Keys are ASCII -/

namespace Base64Url

theorem isAscii_letter : ∀ n < 64, isAscii (letter n) = true := by decide

theorem isAscii_of_mem_encode {padding : Bool} {bytes : List UInt8} {c : Char}
    (h : c ∈ encode padding bytes) : isAscii c = true := by
  obtain ⟨v, hv, rfl⟩ | ⟨-, rfl⟩ := cases_of_mem_encode h
  · exact isAscii_letter v hv
  · rfl

end Base64Url

theorem KeyGenerator.toList_generate (g : KeyGenerator) (source : Entropy) :
    (g.generate source).1.toList = Base64Url.encode g.padding (source.draw g.keyLength).1 :=
  String.toList_ofList

/-- **A key is ASCII**, whatever generator made it. -/
theorem KeyGenerator.isAscii_of_mem_generate {g : KeyGenerator} {source : Entropy} {c : Char}
    (h : c ∈ (g.generate source).1.toList) : isAscii c = true := by
  rw [toList_generate] at h
  exact Base64Url.isAscii_of_mem_encode h

/-! ### Challenges -/

theorem encodeAscii_of_isAscii {text : String} (h : ∀ c ∈ text.toList, isAscii c = true) :
    encodeAscii text = .ok (asciiBytes text.toList) := by
  have hnone : text.toList.dropWhile isAscii = [] := List.dropWhile_eq_nil_iff.mpr h
  rw [encodeAscii, hnone]

namespace Pkce

/-- The transformation `S256` of RFC 7636: the hash of the verifier's ASCII bytes in base64url
without padding. -/
def s256 (verifier : String) : String :=
  String.ofList (Base64Url.encode false (Sha256.digest (asciiBytes verifier.toList)))

theorem verifier_ofVerifier (sha256 : Bool) (verifier : String) :
    (ofVerifier sha256 verifier).verifier = verifier := by
  unfold ofVerifier
  split <;> rfl

/-- **The challenge of an ASCII verifier** is hashed when the hash is there, and the verifier
itself only when it is not. -/
theorem ofVerifier_of_isAscii {verifier : String} (h : ∀ c ∈ verifier.toList, isAscii c = true)
    (sha256 : Bool) :
    ofVerifier sha256 verifier =
      if sha256 then ⟨verifier, s256 verifier, some .s256⟩ else ⟨verifier, verifier, none⟩ := by
  have hhashed : hashedChallenge verifier = .ok (s256 verifier) := by
    rw [hashedChallenge, encodeAscii_of_isAscii h]
    rfl
  cases sha256 with
  | true =>
    unfold ofVerifier
    rw [hhashed]
    rfl
  | false => rfl

/-- The example of RFC 7636. -/
example : ofVerifier true "dBjftJeZ4CVP-mB92K27uhbUJU1p1r_wW1gFWFOEjXk" =
    ⟨"dBjftJeZ4CVP-mB92K27uhbUJU1p1r_wW1gFWFOEjXk",
      "E9Melhoa2OwvFrEMTJguCHaoeK1t8URWbuGJSstw-cM", some .s256⟩ := by
  decide +kernel

/-! ### The server -/

/-- The check of the server: challenge and method are read off the parameters that were sent,
where no method stands for `plain`, and the verifier that is shown now is accepted when its
transformation by that method is the challenge. -/
def redeems {τ : Type} [Strings τ] (sent : List (String × τ)) (verifier : String) : Bool :=
  match (sent.lookup "code_challenge").map Strings.toJson,
    (sent.lookup "code_challenge_method").map Strings.toJson with
  | some (.str challenge), some (.str "S256") => s256 verifier == challenge
  | some (.str challenge), some (.str "plain") => verifier == challenge
  | some (.str challenge), none => verifier == challenge
  | _, _ => false

end Pkce

end OAuthRedirect
