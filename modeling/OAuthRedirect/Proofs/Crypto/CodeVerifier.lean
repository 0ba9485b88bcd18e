import OAuthRedirect.Proofs.Crypto.KeyLength
import OAuthRedirect.Uri.Percent

/-!
# Which keys are code verifiers

A code verifier of RFC 7636 has 43 to 128 characters, all of them unreserved (`IsCodeVerifier`). A
key is never too short for it, and it holds nothing else but letters of base64 and the `=` signs
that it may end with. It is a code verifier when its generator takes at most 96 bytes and leaves no
`=` sign behind (`Pkce.isCodeVerifier_generate_iff`). Neither is checked when a generator is made or
handed to proof keys, so that generators of longer keys, and the usual ones of states, are taken for
verifiers as well (`Pkce.not_isCodeVerifier_padded`).
-/

namespace OAuthRedirect

open Uri.Percent (isUnreserved)

/-- A code verifier of RFC 7636. -/
structure IsCodeVerifier (text : String) : Prop where
  least : 43 ≤ text.toList.length
  most : text.toList.length ≤ 128
  isUnreserved : ∀ c ∈ text.toList, isUnreserved c = true

/-! ### Characters of keys -/

theorem Base64Url.isUnreserved_letter : ∀ n < 64, isUnreserved (letter n) = true := by decide

/-- A key ends with `=` signs when they are kept and its last group of bytes is not whole. -/
theorem Base64Url.pad_mem_encode_iff {padding : Bool} {bytes : List UInt8} :
    '=' ∈ encode padding bytes ↔ padding = true ∧ ¬ 3 ∣ bytes.length := by
  have hletters : '=' ∉ encode false bytes := fun h => by
    obtain ⟨v, hv, heq⟩ := exists_letter_of_mem h
    exact letter_ne_pad v hv heq.symm
  cases padding with
  | false => simpa using hletters
  | true =>
    change '=' ∈ encodePadded bytes ↔ _
    rw [encodePadded_eq_append, List.mem_append, List.mem_replicate, padCount]
    simp only [hletters, false_or, true_and, and_true]
    omega

namespace KeyGenerator

variable {length : Int} {padding : Bool} {g : KeyGenerator}

/-- A generator of keys of a length is one with that many bytes. -/
theorem ofLength_eq_ok_iff : ofLength length padding = .ok g ↔
    32 ≤ length ∧ (g.keyLength : Int) = length ∧ g.padding = padding := by
  obtain ⟨keyLength, kept, henough⟩ := g
  have hleast : 32 ≤ keyLength := henough
  change _ ↔ 32 ≤ length ∧ (keyLength : Int) = length ∧ kept = padding
  rw [ofLength]
  split
  · rename_i h
    have hlength : 32 ≤ length.toNat := h
    rw [Except.ok.injEq, mk.injEq]
    constructor
    · rintro ⟨rfl, rfl⟩
      exact ⟨by omega, by omega, rfl⟩
    · rintro ⟨-, hkey, rfl⟩
      exact ⟨by omega, rfl⟩
  · rename_i h
    have hlength : ¬ 32 ≤ length.toNat := h
    simp only [reduceCtorEq, false_iff]
    rintro ⟨hlong, -⟩
    omega

/-- What a key is written with: unreserved characters, and `=` signs when they are kept. -/
theorem isUnreserved_or_pad {source : Entropy} {c : Char}
    (h : c ∈ (g.generate source).1.toList) :
    isUnreserved c = true ∨ g.padding = true ∧ c = '=' := by
  rw [toList_generate] at h
  obtain ⟨v, hv, rfl⟩ | hpad := Base64Url.cases_of_mem_encode h
  · exact .inl (Base64Url.isUnreserved_letter v hv)
  · exact .inr hpad

theorem pad_mem_generate_iff {source : Entropy} :
    '=' ∈ (g.generate source).1.toList ↔ g.padding = true ∧ ¬ 3 ∣ g.keyLength := by
  have hbytes : (source.draw g.keyLength).1.length = g.keyLength := source.length_block _ _
  rw [toList_generate, Base64Url.pad_mem_encode_iff, hbytes]

/-- **Keys that are code verifiers** are those of at most 96 bytes that end with no `=` sign. -/
theorem isCodeVerifier_iff (g : KeyGenerator) (source : Entropy) :
    IsCodeVerifier (g.generate source).1 ↔
      g.keyLength ≤ 96 ∧ (g.padding = true → 3 ∣ g.keyLength) := by
  have hlength := g.length_generate source
  constructor
  · intro h
    have hpad : g.padding = true → 3 ∣ g.keyLength := fun hkept => by
      by_contra hgroup
      exact absurd (h.isUnreserved '=' (pad_mem_generate_iff.mpr ⟨hkept, hgroup⟩)) (by decide)
    have hmost := h.most
    rw [hlength] at hmost
    refine ⟨?_, hpad⟩
    split at hmost
    all_goals omega
  · rintro ⟨hbytes, hpad⟩
    refine ⟨g.le_length_generate source, ?_, fun c hc => ?_⟩
    · rw [hlength]
      split
      all_goals omega
    · refine (isUnreserved_or_pad hc).resolve_right ?_
      rintro ⟨hkept, rfl⟩
      exact (pad_mem_generate_iff.mp hc).2 (hpad hkept)

/-- The generator that is made for verifiers keeps to RFC 7636. -/
theorem isCodeVerifier_forVerifiers (source : Entropy) :
    IsCodeVerifier (forVerifiers.generate source).1 :=
  (isCodeVerifier_iff _ _).mpr (by decide)

end KeyGenerator

namespace Pkce

/-- **Verifiers and RFC 7636.** Let the verifiers of proof keys come from a generator that is
accepted for some key length, with its `=` signs or without them. Whatever the random bytes are,
and with the hash or without it, a verifier has at least 43 characters, and they are unreserved but
for `=` signs that are kept. It is a code verifier of RFC 7636 exactly when the key length is at
most 96, and divisible by three if the `=` signs are kept. -/
theorem isCodeVerifier_generate_iff {length : Int} {padding : Bool} {g : KeyGenerator}
    (haccepted : KeyGenerator.ofLength length padding = .ok g) (sha256 : Bool)
    (source : Entropy) :
    let verifier := (generate (.random g) sha256 source).1.verifier
    43 ≤ verifier.toList.length ∧
      (∀ c ∈ verifier.toList, isUnreserved c = true ∨ padding = true ∧ c = '=') ∧
      (IsCodeVerifier verifier ↔ length ≤ 96 ∧ (padding = true → 3 ∣ length)) := by
  intro verifier
  obtain ⟨-, rfl, rfl⟩ := KeyGenerator.ofLength_eq_ok_iff.mp haccepted
  have hverifier : verifier = (g.generate source).1 := verifier_ofVerifier sha256 _
  rw [hverifier]
  refine ⟨g.le_length_generate source, fun c => KeyGenerator.isUnreserved_or_pad, ?_⟩
  rw [g.isCodeVerifier_iff]
  norm_cast

/-- The longest keys that are code verifiers, with their `=` signs, of which there are none. -/
theorem isCodeVerifier_generate_iff_longest :
    ∃ g, KeyGenerator.ofLength 96 true = .ok g ∧
      ∀ sha256 source, IsCodeVerifier (generate (.random g) sha256 source).1.verifier := by
  have haccepted : KeyGenerator.ofLength 96 true = .ok ⟨96, true, by decide⟩ := rfl
  refine ⟨_, haccepted, fun sha256 source => ?_⟩
  have h := isCodeVerifier_generate_iff haccepted sha256 source
  exact h.2.2.mpr ⟨by decide, fun _ => by decide⟩

/-- **The usual keys are no code verifiers**: a generator of 32 bytes that keeps its `=` sign is
accepted and may make verifiers, but an `=` sign is not unreserved. Without the sign, keys of 97
bytes are accepted as well and are too long. -/
theorem not_isCodeVerifier_padded :
    (∃ g, KeyGenerator.ofLength 32 true = .ok g ∧
      ¬ IsCodeVerifier (generate (.random g) true (Entropy.seeded 0)).1.verifier) ∧
    ∃ g, KeyGenerator.ofLength 97 false = .ok g ∧
      ¬ IsCodeVerifier (generate (.random g) true (Entropy.seeded 0)).1.verifier := by
  have hverifier (g : KeyGenerator) :
      (generate (.random g) true (Entropy.seeded 0)).1.verifier =
        (g.generate (Entropy.seeded 0)).1 := verifier_ofVerifier true _
  constructor
  · refine ⟨.forStates, rfl, ?_⟩
    rw [hverifier, KeyGenerator.isCodeVerifier_iff]
    decide
  · refine ⟨⟨97, false, by decide⟩, rfl, ?_⟩
    rw [hverifier, KeyGenerator.isCodeVerifier_iff]
    decide

end Pkce

end OAuthRedirect
