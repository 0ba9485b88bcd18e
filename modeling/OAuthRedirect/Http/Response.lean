import OAuthRedirect.Json.Writer
import OAuthRedirect.Text.Utf8
import OAuthRedirect.Uri.Percent

/-!
# Responses

An answer to a request: a status, headers in the order in which they are sent, and a body. The
names of headers are in lower case.
-/

namespace OAuthRedirect

/-- An answer to a request. -/
structure Response where
  status : Nat
  headers : List (String × String)
  body : String
  deriving DecidableEq, Repr

namespace Response

/-- The header with the number of bytes of a body. -/
def contentLength (body : String) : String × String :=
  ("content-length", toString (Text.Utf8.encode body.toList).length)

/-- A body of JSON text after some headers. -/
def jsonText (status : Nat) (headers : List (String × String)) (body : String) : Response :=
  ⟨status, headers ++ [contentLength body, ("content-type", "application/json")], body⟩

/-- A value as a JSON body, which has to be a text. -/
def json (status : Nat) (value : Json) : Except WideString.EncodeError Response :=
  value.compact.toText.map (jsonText status [])

/-- The characters of a location that stay as they are, besides the unreserved ones. -/
def locationKeeps (c : Char) : Bool :=
  ":/%#?=@[]!$&'()*+,;".toList.contains c

/-- A reference as it is written in a `Location` header. -/
def location (uri : String) : String :=
  String.ofList (Uri.Percent.encode locationKeeps uri.toList)

/-- A redirect. -/
def redirect (status : Nat) (uri : String) : Response :=
  ⟨status, [contentLength "", ("location", location uri)], ""⟩

/-- An answer whose body says what the matter is. -/
def detail (status : Nat) (headers : List (String × String)) (text : String) : Response :=
  jsonText status headers (Json.obj [("detail", .str text)]).write

/-- The answer to a request that broke off. -/
def internalError : Response :=
  let body := "Internal Server Error"
  ⟨500, [contentLength body, ("content-type", "text/plain; charset=utf-8")], body⟩

/-- Gives a header its value: in the place of its first occurrence, the others removed, or at
the end when there is none. -/
def setHeader (name value : String) : List (String × String) → List (String × String)
  | [] => [(name, value)]
  | header :: rest =>
    if header.1 = name then (name, value) :: rest.filter fun other => other.1 != name
    else header :: setHeader name value rest

/-- Sets some headers, one after another. -/
def withHeaders (r : Response) (headers : List (String × String)) : Response :=
  { r with headers := headers.foldl (fun acc h => setHeader h.1 h.2 acc) r.headers }

end Response

end OAuthRedirect
