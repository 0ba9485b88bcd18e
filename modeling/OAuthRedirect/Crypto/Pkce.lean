import OAuthRedirect.Crypto.KeyGenerator
import OAuthRedirect.Crypto.Sha256
import OAuthRedirect.Text.Ascii
import OAuthRedirect.Text.Quoted

/-!
# Proof key for code exchange

The client side of RFC 7636. A **code verifier** is a random key that the client keeps, and
the **code challenge** sent in its place is the unpadded base64url text of the SHA-256 hash of
its ASCII bytes. Where the hash is unavailable, or the verifier is not ASCII, the challenge is
the verifier itself and no challenge method is named, which a server takes as the plain method.
-/

namespace OAuthRedirect

/-- How a challenge is derived from its verifier, when not by leaving it as it is. -/
inductive ChallengeMethod where
  | s256
  deriving DecidableEq, Repr

/-- The name of a method in a request. -/
def ChallengeMethod.name : ChallengeMethod → String
  | s256 => "S256"

/-- The first run of characters beyond ASCII in a text that has to be ASCII. -/
structure NotAscii where
  /-- The first character of the run. -/
  char : Char
  position : Nat
  length : Nat
  deriving DecidableEq, Repr

/-- The message on a text that is not ASCII. -/
def NotAscii.message (e : NotAscii) : String :=
  Text.encodingMessage "ascii" e.char.toNat e.position e.length "ordinal not in range(128)"

/-- The bytes of a text that has to be ASCII. -/
def encodeAscii (text : String) : Except NotAscii (List UInt8) :=
  let cs := text.toList
  match cs.dropWhile Text.isAscii with
  | [] => .ok (Text.asciiBytes cs)
  | c :: rest =>
    .error ⟨c, (cs.takeWhile Text.isAscii).length, 1 + (rest.takeWhile (!Text.isAscii ·)).length⟩

/-- The hashed challenge of a verifier. -/
def hashedChallenge (verifier : String) : Except NotAscii String :=
  (encodeAscii verifier).map fun bytes =>
    String.ofList (Base64Url.encode false (Sha256.digest bytes))

/-- A verifier, the challenge sent for it, and the method that is named. -/
structure Pkce where
  verifier : String
  challenge : String
  method : Option ChallengeMethod
  deriving DecidableEq, Repr

namespace Pkce

/-- The parameters of a verifier, with the hash available or not. -/
def ofVerifier (sha256 : Bool) (verifier : String) : Pkce :=
  match sha256, hashedChallenge verifier with
  | true, .ok hashed => ⟨verifier, hashed, some .s256⟩
  | _, _ => ⟨verifier, verifier, none⟩

/-- Takes a verifier from a key source and derives the parameters. -/
def generate (source : KeySource) (sha256 : Bool) (entropy : Entropy) : Pkce × Entropy :=
  let (verifier, entropy) := source.next entropy
  (ofVerifier sha256 verifier, entropy)

/-- One generation for each entry of `sha256`, in order. -/
def generateMany (source : KeySource) : (sha256 : List Bool) → Entropy → List Pkce × Entropy
  | [], entropy => ([], entropy)
  | available :: rest, entropy =>
    let (first, entropy) := generate source available entropy
    let (others, entropy) := generateMany source rest entropy
    (first :: others, entropy)

end Pkce

end OAuthRedirect
