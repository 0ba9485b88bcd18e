import OAuthRedirect.Text.Split
import OAuthRedirect.Uri.Percent

/-!
# Query strings

A query is a list of named values. `Query.encode` writes the pairs as `name=value` with `&`
between them, everything but unreserved characters escaped. `Query.decode` reads them back,
and reads more: a `+` is a space, a piece without `=` has the empty value, and empty pieces
are passed over.
-/

namespace OAuthRedirect.Uri.Query

/-- A name or a value as it is written. -/
def encodeText (s : String) : List Char :=
  Percent.encode (fun _ => false) s.toList

/-- A pair as it is written. -/
def encodePair (pair : String × String) : List Char :=
  encodeText pair.1 ++ '=' :: encodeText pair.2

/-- The query of some pairs. -/
def encode (pairs : List (String × String)) : String :=
  String.ofList (['&'].intercalate (pairs.map encodePair))

/-- A name or a value as it is read. -/
def decodeText (cs : List Char) : String :=
  String.ofList (Percent.decode (cs.map fun c => if c = '+' then ' ' else c))

/-- The pair that a piece between two `&` stands for. -/
def decodePair (piece : List Char) : String × String :=
  let (name, value) := Text.cut '=' piece
  (decodeText name, decodeText (value.getD []))

/-- The pairs of a query. -/
def decode (query : String) : List (String × String) :=
  ((query.toList.splitOn '&').filter fun piece => !piece.isEmpty).map decodePair

/-- The value of the last pair of a name. -/
def last? (name : String) (pairs : List (String × String)) : Option String :=
  pairs.reverse.lookup name

end OAuthRedirect.Uri.Query
