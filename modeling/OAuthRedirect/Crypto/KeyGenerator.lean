import OAuthRedirect.Crypto.Base64Url
import OAuthRedirect.Crypto.Entropy

/-!
# Random keys

A key is a number of random bytes, at least 32, written in URL-safe base64. A `KeySource` is
what a component takes its keys from: a generator, or one text that is given out every time.
-/

namespace OAuthRedirect

/-- The least number of random bytes in a key, and the number when none is given. -/
def defaultKeyLength : Nat := 32

/-- How keys are made. -/
structure KeyGenerator where
  /-- How many random bytes a key has. -/
  keyLength : Nat
  /-- Are the `=` signs at the end kept? -/
  padding : Bool
  enough : defaultKeyLength ≤ keyLength

/-- A key length below the least one. -/
inductive KeyLengthError where
  | tooShort
  deriving DecidableEq, Repr

/-- What the error says. -/
def KeyLengthError.message : KeyLengthError → String
  | tooShort => s!"key_length must be greater than or equal to {defaultKeyLength}"

namespace KeyGenerator

/-- The generator of keys of a length, when the length is enough. -/
def ofLength (length : Int) (padding : Bool) : Except KeyLengthError KeyGenerator :=
  if h : defaultKeyLength ≤ length.toNat then .ok ⟨length.toNat, padding, h⟩
  else .error .tooShort

/-- Keys of 32 bytes with their `=` signs: the generator of states. -/
def forStates : KeyGenerator := ⟨defaultKeyLength, true, Nat.le_refl _⟩

/-- Keys of 96 bytes without `=` signs, 128 characters: the generator of code verifiers. -/
def forVerifiers : KeyGenerator := ⟨96, false, by decide⟩

/-- The key of some bytes. -/
def key (g : KeyGenerator) (bytes : List UInt8) : String :=
  String.ofList (Base64Url.encode g.padding bytes)

/-- Draws the bytes of a new key. -/
def generate (g : KeyGenerator) (source : Entropy) : String × Entropy :=
  let (bytes, source) := source.draw g.keyLength
  (g.key bytes, source)

/-- Draws `count` keys, one after another. -/
def generateMany (g : KeyGenerator) : (count : Nat) → Entropy → List String × Entropy
  | 0, source => ([], source)
  | count + 1, source =>
    let (key, source) := g.generate source
    let (keys, source) := generateMany g count source
    (key :: keys, source)

end KeyGenerator

/-- Where a component takes its keys from. -/
inductive KeySource where
  | random (generator : KeyGenerator)
  /-- The same text every time. -/
  | fixed (text : String)

/-- The next key of a source. -/
def KeySource.next : KeySource → Entropy → String × Entropy
  | random generator, source => generator.generate source
  | fixed text, source => (text, source)

end OAuthRedirect
