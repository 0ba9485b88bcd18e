import OAuthRedirect.Text.Casing
import OAuthRedirect.Text.Integer
import OAuthRedirect.Uri.Address

/-!
# URI references

A reference in its five parts. `Uri.split` takes a text apart and `Uri.text` puts the parts
together again. Splitting refuses an authority whose brackets do not hold an IP address, or
that would hold a delimiter once its compatibility characters are decomposed; host and port
are read off the authority on demand, and only then is the port checked.
-/

namespace OAuthRedirect

/-- A URI reference; a part that is absent is empty. -/
structure Uri where
  scheme : String
  authority : String
  path : String
  query : String
  fragment : String
  deriving DecidableEq, Repr

/-- Why a text is no URI reference, or has no port. -/
inductive UriError where
  /-- Brackets that do not pair, or text beside them. -/
  | brackets
  /-- A bracketed host that begins like a future address and is none. -/
  | futureAddress
  /-- A bracketed host that is no address. -/
  | notAddress (host : String)
  /-- A bracketed host that is an IPv4 address. -/
  | bracketedV4
  /-- An authority that holds a delimiter in disguise. -/
  | compatibility (authority : String)
  | portNotNumber (port : String)
  /-- A port of more digits than a number is read from. -/
  | portTooLong (digits : Nat)
  | portOutOfRange
  deriving DecidableEq, Repr

/-- What an error says. -/
def UriError.message : UriError → String
  | brackets => "Invalid IPv6 URL"
  | futureAddress => "IPvFuture address is invalid"
  | notAddress host => Text.quoted host ++ " does not appear to be an IPv4 or IPv6 address"
  | bracketedV4 => "An IPv4 address cannot be in brackets"
  | compatibility authority =>
    "netloc '" ++ authority ++ "' contains invalid characters under NFKC normalization"
  | portNotNumber port => "Port could not be cast to integer value as " ++ Text.quoted port
  | portTooLong digits => Text.tooLongMessage digits
  | portOutOfRange => "Port out of range 0-65535"

namespace Uri

/-! ### Characters -/

/-- A character of a scheme. -/
def isSchemeChar (c : Char) : Bool :=
  Text.isLetter c || c.isDigit || c == '+' || c == '.' || c == '-'

/-- A character that ends the authority. -/
def endsAuthority (c : Char) : Bool :=
  c == '/' || c == '?' || c == '#'

/-- The characters beyond ASCII whose compatibility decomposition holds one of `/ ? # @ :`. -/
def disguisedDelimiters : List Nat :=
  [
    0x2047, 0x2048, 0x2049, 0x2100, 0x2101, 0x2105, 0x2106, 0x2A74, 0xFE13,
    0xFE16, 0xFE55, 0xFE56, 0xFE5F, 0xFE6B, 0xFF03, 0xFF0F, 0xFF1A, 0xFF1F,
    0xFF20]

/-! ### Splitting -/

/-- A text without the control characters and spaces at its front, and without any tab or line
break. -/
def clean (cs : List Char) : List Char :=
  (cs.dropWhile fun c => c.toNat ≤ 0x20).filter fun c => c != '\t' && c != '\n' && c != '\r'

/-- The scheme in lower case, and the text after its colon. A text that does not begin with a
scheme has the empty one. -/
def splitScheme (cs : List Char) : List Char × List Char :=
  match Text.cut ':' cs with
  | (first :: rest, some after) =>
    if Text.isLetter first && (first :: rest).all isSchemeChar then
      ((first :: rest).map Char.toLower, after)
    else ([], cs)
  | _ => ([], cs)

/-- The authority after `//`, and the text after it. -/
def splitAuthority : List Char → List Char × List Char
  | '/' :: '/' :: rest =>
    (rest.takeWhile (!endsAuthority ·), rest.dropWhile (!endsAuthority ·))
  | cs => ([], cs)

/-- The host and the text after it that a port may stand in, from an authority without user
information. The host is what the brackets hold when there is a bracket, and ends at the first
colon otherwise. -/
def hostAndRest (cs : List Char) : List Char × List Char :=
  match Text.cut '[' cs with
  | (_, some inside) =>
    let (host, after) := Text.cut ']' inside
    (host, after.getD [])
  | (_, none) =>
    let (host, after) := Text.cut ':' cs
    (host, (after.map (':' :: ·)).getD [])

/-- Checks the host of an authority that has brackets. -/
def checkBracketedHost (host : List Char) : Except UriError Unit :=
  match host with
  | 'v' :: rest =>
    let version := rest.takeWhile Text.Hex.isDigit
    match rest.drop version.length with
    | '.' :: _ :: _ => if version.isEmpty then .error .futureAddress else .ok ()
    | _ => .error .futureAddress
  | _ =>
    if Address.isV4 host then .error .bracketedV4
    else if Address.isV6 host then .ok ()
    else .error (.notAddress (String.ofList host))

/-- Checks that brackets stand in an authority only around an IP address that is the whole
host. -/
def checkBrackets (authority : List Char) : Except UriError Unit :=
  let opens := authority.contains '['
  let closes := authority.contains ']'
  if opens != closes then .error .brackets
  else if !opens then .ok ()
  else
    -- Brackets in the user information put the host to the test as well.
    let site := Text.afterLast '@' authority
    let (before, inside) := Text.cut '[' site
    let (host, rest) := hostAndRest site
    if inside.isSome && !(before.isEmpty && (rest.isEmpty || rest.head? == some ':')) then
      .error .brackets
    else checkBracketedHost host

/-- Checks that an authority holds no delimiter in disguise. -/
def checkCompatibility (authority : List Char) : Except UriError Unit :=
  if authority.any fun c => disguisedDelimiters.contains c.toNat then
    .error (.compatibility (String.ofList authority))
  else .ok ()

/-- Takes a reference apart. -/
def split (text : String) : Except UriError Uri := do
  let (scheme, rest) := splitScheme (clean text.toList)
  let (authority, rest) := splitAuthority rest
  checkBrackets authority
  let (rest, fragment) := Text.cut '#' rest
  let (path, query) := Text.cut '?' rest
  checkCompatibility authority
  pure
    { scheme := String.ofList scheme
      authority := String.ofList authority
      path := String.ofList path
      query := String.ofList (query.getD [])
      fragment := String.ofList (fragment.getD []) }

/-! ### Putting together -/

/-- The schemes whose references have an authority, be it empty. -/
def authoritySchemes : List String :=
  ["ftp", "http", "gopher", "nntp", "telnet", "imap", "wais", "file", "mms", "https", "shttp",
    "snews", "prospero", "rtsp", "rtspu", "rsync", "svn", "svn+ssh", "sftp", "nfs", "git",
    "git+ssh", "ws", "wss"]

/-- Authority and path, with a slash between them when the path has none of its own. -/
def hierarchy (scheme authority path : String) : String :=
  if authority != "" || (authoritySchemes.contains scheme && path.toList.take 2 != ['/', '/']) then
    let rooted := if path == "" || path.toList.head? == some '/' then path else "/" ++ path
    "//" ++ authority ++ rooted
  else path

/-- The text of a reference. -/
def text (u : Uri) : String :=
  (if u.scheme == "" then "" else u.scheme ++ ":") ++ hierarchy u.scheme u.authority u.path
    ++ (if u.query == "" then "" else "?" ++ u.query)
    ++ (if u.fragment == "" then "" else "#" ++ u.fragment)

/-! ### Host and port -/

/-- The host without brackets, in lower case up to a zone; `none` when it is empty. -/
def host (u : Uri) : Option String :=
  let name := (hostAndRest (Text.afterLast '@' u.authority.toList)).1
  let (address, zone) := Text.cut '%' name
  if name.isEmpty then none
  else some (String.ofList (Text.lower address ++ ((zone.map ('%' :: ·)).getD [])))

/-- The port; `none` when there is none, or an empty one. -/
def port (u : Uri) : Except UriError (Option Nat) :=
  let rest := (hostAndRest (Text.afterLast '@' u.authority.toList)).2
  match (Text.cut ':' rest).2 with
  | none | some [] => .ok none
  | some digits =>
    if digits.all Char.isDigit then
      if digits.length > Text.digitLimit then .error (.portTooLong digits.length)
      else if Text.digitsValue digits ≤ 65535 then .ok (some (Text.digitsValue digits))
      else .error .portOutOfRange
    else .error (.portNotNumber (String.ofList digits))

end Uri

end OAuthRedirect
