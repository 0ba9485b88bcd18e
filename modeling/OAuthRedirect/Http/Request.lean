import OAuthRedirect.PathMatcher
import OAuthRedirect.Text.Ascii
import OAuthRedirect.Text.Utf8
import OAuthRedirect.Uri.Basic
import OAuthRedirect.Uri.Query

/-!
# Requests

An incoming request as the server hands it over, and what is read off it: its URL, the path
inside the application, the base URL of the application and the parameters of its query.

The URL is built from the scheme, the path, the query and the authority. The authority is the
`Host` header when that has the form of one (`isHostHeader`), the socket address of the server
otherwise, and missing when there is neither.
-/

namespace OAuthRedirect

/-- An incoming request. -/
structure Request where
  method : String
  /-- The path with its escapes resolved, the context path included. -/
  path : Option String
  /-- The path that the application is mounted under. -/
  rootPath : Option String
  /-- The first `Host` header. -/
  host : Option String
  /-- Host and port of the socket; a socket may have no port. -/
  server : Option (String × Option Int)
  scheme : String
  /-- The bytes of the query string. -/
  query : List UInt8

/-- Why a request has no URL, or no port. -/
inductive UrlError where
  | noPath
  /-- There is no default port to compare the port of the socket with. -/
  | noDefaultPort (scheme : String)
  | query (e : Text.Utf8.DecodeError)
  | uri (e : UriError)
  deriving DecidableEq, Repr

/-- What is wrong with some bytes. -/
def Text.Utf8.Fault.message : Text.Utf8.Fault → String
  | invalidStart => "invalid start byte"
  | invalidContinuation => "invalid continuation byte"
  | unexpectedEnd => "unexpected end of data"

/-- What is wrong with some bytes, and where. -/
def Text.Utf8.DecodeError.message (e : Text.Utf8.DecodeError) : String :=
  let place :=
    if e.width = 1 then
      s!"byte 0x{String.ofList (Text.Hex.padded 2 e.first.toNat)} in position {e.position}"
    else s!"bytes in position {e.position}-{e.position + e.width - 1}"
  s!"'utf-8' codec can't decode {place}: {e.fault.message}"

/-- What an error says. -/
def UrlError.message : UrlError → String
  | noPath => Text.quoted "path"
  | noDefaultPort scheme => Text.quoted scheme
  | query e => e.message
  | uri e => e.message

/-! ### Host headers -/

/-- A character of a host name in a header. -/
def isHostChar (c : Char) : Bool :=
  Text.isLetter c || c.isDigit || "._~%!$&'()*+,;=-".toList.contains c

/-- A port in a header: nothing, or a colon and digits, not too many to be read, for a number up
to 65535. -/
def isHostPort : List Char → Bool
  | [] => true
  | ':' :: digits =>
    !digits.isEmpty && digits.all Char.isDigit && digits.length ≤ Text.digitLimit
      && Text.digitsValue digits ≤ 65535
  | _ => false

/-- A bracketed address in a header: an IPv6 address without zone, or a future address. -/
def isHostAddress (cs : List Char) : Bool :=
  match cs with
  | 'v' :: rest =>
    let version := rest.takeWhile Text.Hex.isDigit
    match rest.drop version.length with
    | '.' :: name =>
      !version.isEmpty && !name.isEmpty
        && name.all fun c => (isHostChar c && c != '%') || c == ':'
    | _ => false
  | _ => cs.all (fun c => Text.Hex.isDigit c || c == ':' || c == '.') && Uri.Address.isV6 cs

/-- Does a header have the form of a host with an optional port? -/
def isHostHeader (header : String) : Bool :=
  match header.toList with
  | '[' :: rest =>
    match Text.cut ']' rest with
    | (address, some after) => isHostAddress address && isHostPort after
    | (_, none) => false
  | cs =>
    let name := cs.takeWhile isHostChar
    !name.isEmpty && isHostPort (cs.drop name.length)

/-! ### Ports -/

/-- The port that a scheme implies, for comparison with the port of a socket. -/
def socketPort? : String → Option Int
  | "http" | "ws" => some 80
  | "https" | "wss" => some 443
  | _ => none

/-- The port that is left out of a base URL. -/
def defaultPort? : String → Option Nat
  | "http" => some 80
  | "https" => some 443
  | _ => none

namespace Request

/-! ### The URL -/

/-- The authority of a socket address, with its port unless the scheme implies it. -/
def socketAuthority (scheme : String) (server : String × Option Int) : Except UrlError String :=
  let (host, port) := server
  let cs := host.toList
  let host := if cs.contains ':' && cs.head? != some '[' then "[" ++ host ++ "]" else host
  match socketPort? scheme with
  | none => .error (.noDefaultPort scheme)
  | some implied =>
    match port with
    | some port =>
      .ok (if port = implied then host else host ++ ":" ++ toString port)
    -- A socket without a port is written with the word for nothing in its place.
    | none => .ok (host ++ ":None")

/-- The authority of a request; `none` without a well-formed header and without a socket. -/
def authority (r : Request) : Except UrlError (Option String) :=
  match r.host, r.server with
  | some header, server =>
    if isHostHeader header then .ok (some header)
    else match server with
      | some server => (socketAuthority r.scheme server).map some
      | none => .ok none
  | none, some server => (socketAuthority r.scheme server).map some
  | none, none => .ok none

/-- How a character of the path is written in the URL: the delimiters of query and fragment
and the backslash as escapes, all else as it is. -/
def pathChar (c : Char) : List Char :=
  if c = '?' then ['%', '3', 'F']
  else if c = '#' then ['%', '2', '3']
  else if c = '\\' then ['%', '5', 'C']
  else [c]

/-- A path without authority in front of it must not begin like one. -/
def withoutAuthority (text : String) : String :=
  match text.toList with
  | '/' :: '/' :: rest => String.ofList ('/' :: '%' :: '2' :: 'F' :: rest)
  | _ => text

/-- The text of the URL. -/
def urlText (r : Request) : Except UrlError String := do
  let some path := r.path | throw .noPath
  let path := String.ofList (path.toList.flatMap pathChar)
  let authority ← r.authority
  let query ← (Text.Utf8.decode r.query).mapError .query
  let query := String.ofList query
  match authority with
  | some authority => pure (Uri.text ⟨r.scheme, authority, path, query, ""⟩)
  | none => pure (withoutAuthority (if query == "" then path else path ++ "?" ++ query))

/-- The URL. -/
def url (r : Request) : Except UrlError Uri := do
  (Uri.split (← r.urlText)).mapError .uri

/-! ### Paths -/

/-- The context path, without trailing slashes. -/
def contextPath (r : Request) : String :=
  dropTrailingSlashes (r.rootPath.getD "")

/-- The path after `root`, when it is `root` or goes on with a slash after it. -/
def below? (root path : List Char) : Option (List Char) :=
  (Text.stripFront? root path).filter fun rest => rest.isEmpty || rest.head? == some '/'

/-- The path inside the application: without the context path, when it is below that. -/
def applicationPath (r : Request) : String :=
  let path := r.path.getD ""
  let root := r.contextPath.toList
  if root.isEmpty then path
  else ((below? root path.toList).map String.ofList).getD path

/-- Scheme, host, port and context path; a port that the scheme implies is left out. -/
def baseUrl (r : Request) : Except UrlError String := do
  let url ← r.url
  let host := url.host.getD ""
  let host := if host.toList.contains ':' then "[" ++ host ++ "]" else host
  let port ← url.port.mapError .uri
  let site := match port with
    | some port =>
      if defaultPort? url.scheme = some port then host else host ++ ":" ++ toString port
    | none => host
  pure (url.scheme ++ "://" ++ site ++ r.contextPath)

/-! ### Parameters -/

/-- The parameters of the query, each byte of it taken as one character. -/
def parameters (r : Request) : List (String × String) :=
  Uri.Query.decode (String.ofList (r.query.map fun b => Char.ofNat b.toNat))

/-- The last value of the parameter `action`. -/
def action? (r : Request) : Option String :=
  Uri.Query.last? "action" r.parameters

end Request

/-- The id in the path of a request. -/
def PathMatcher.matchRequest (m : PathMatcher) (r : Request) : Option String :=
  m.matchPath r.applicationPath

end OAuthRedirect
