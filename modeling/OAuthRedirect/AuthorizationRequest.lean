import OAuthRedirect.Grant
import OAuthRedirect.Strings
import OAuthRedirect.Uri.Basic
import OAuthRedirect.Uri.Query

/-!
# Authorization requests

A request that the user is redirected to the provider with. Its parameters go into the query of
the authorization endpoint, after those that the endpoint has already; its attributes stay with
the client, which needs them when the user comes back.

The endpoint and the client id are texts. The other strings may be wide strings
(`AuthorizationRequest.widen`); then there is nothing to redirect to when a parameter is no text
(`AuthorizationRequest.sentUri`).
-/

namespace OAuthRedirect

/-- A reference with parameters after those of its own query. -/
def Uri.withParameters (u : Uri) (parameters : List (String × String)) : Uri :=
  { u with query := Query.encode (Query.decode u.query ++ parameters) }

namespace Uri

variable (u : Uri) (parameters : List (String × String))

-- `rfl` would compare the two references first, and so their queries
theorem withParameters_scheme : (u.withParameters parameters).scheme = u.scheme := by
  simp only [withParameters]

theorem withParameters_authority : (u.withParameters parameters).authority = u.authority := by
  simp only [withParameters]

theorem withParameters_path : (u.withParameters parameters).path = u.path := by
  simp only [withParameters]

theorem withParameters_query : (u.withParameters parameters).query =
    Query.encode (Query.decode u.query ++ parameters) := by
  simp only [withParameters]

theorem withParameters_fragment : (u.withParameters parameters).fragment = u.fragment := by
  simp only [withParameters]

end Uri

/-- An authorization request, ready to be sent. -/
structure AuthorizationRequest (τ : Type := String) [LT τ] where
  authorizationUri : String
  grant : RedirectGrant
  clientId : String
  redirectUri : Option τ
  scopes : Scopes τ
  state : Option τ
  /-- Sent along with the standard parameters. -/
  additionalParameters : Members
  /-- Kept by the client. -/
  attributes : Members
  authorizationUri_ne_empty : authorizationUri ≠ ""
  clientId_ne_empty : clientId ≠ ""

namespace AuthorizationRequest

section Strings

variable {τ : Type} [LT τ]

/-- The response type, which the grant decides. -/
def responseType (r : AuthorizationRequest τ) : ResponseType :=
  r.grant.responseType

/-- The id of the registration that the request was made for. -/
def registrationId (r : AuthorizationRequest τ) : Json :=
  (r.attributes.lookup "registration_id").getD .null

/-- The code verifier that the client keeps. -/
def codeVerifier (r : AuthorizationRequest τ) : Json :=
  (r.attributes.lookup "code_verifier").getD .null

variable [Inhabited τ] [DecidableEq τ] [Strings τ]

omit [LT τ] [Strings τ] in
/-- A parameter that is left out when it has no value or an empty one. -/
def nonEmptyParameter (name : String) (value : Option τ) : List (String × τ) :=
  match value with
  | none => []
  | some value => if value = default then [] else [(name, value)]

/-- The parameters in the order in which they are sent. -/
def parameters (r : AuthorizationRequest τ) : List (String × τ) :=
  [("response_type", Strings.ofText r.responseType.name), ("client_id", Strings.ofText r.clientId)]
    ++ (if r.scopes.names.isEmpty then [] else [("scope", Strings.spaced r.scopes.names)])
    ++ nonEmptyParameter "state" r.state
    ++ nonEmptyParameter "redirect_uri" r.redirectUri
    ++ r.additionalParameters.map fun member => (member.1, Strings.shown member.2)

end Strings

/-- The reference that the user is redirected to: the endpoint with the parameters after those
of its own query. -/
def target (r : AuthorizationRequest) : Except UriError Uri := do
  let endpoint ← Uri.split r.authorizationUri
  pure (endpoint.withParameters r.parameters)

/-- The text of the reference that the user is redirected to. An additional value is in it as a
console shows it, which is what is sent if it is a text (`sentUri_widen`). -/
def uri (r : AuthorizationRequest) : Except UriError String :=
  r.target.map Uri.text

/-! ### Requests of wide strings -/

/-- A request of texts as one of wide strings. -/
@[coe] def widen (r : AuthorizationRequest) : AuthorizationRequest WideString where
  authorizationUri := r.authorizationUri
  grant := r.grant
  clientId := r.clientId
  redirectUri := r.redirectUri.map .text
  scopes := r.scopes.widen
  state := r.state.map .text
  additionalParameters := r.additionalParameters
  attributes := r.attributes
  authorizationUri_ne_empty := r.authorizationUri_ne_empty
  clientId_ne_empty := r.clientId_ne_empty

instance : Coe AuthorizationRequest (AuthorizationRequest WideString) := ⟨widen⟩

/-- Why there is nothing to redirect to. -/
inductive SendError where
  /-- The endpoint is no URI reference. -/
  | endpoint (e : UriError)
  /-- A parameter is no text. -/
  | encoding (e : WideString.EncodeError)
  deriving DecidableEq, Repr

/-- Parameters as texts; the first that is none is an error. -/
def textParameters :
    List (String × WideString) → Except WideString.EncodeError (List (String × String))
  | [] => .ok []
  | (name, value) :: rest => do
    let value ← value.toText
    let rest ← textParameters rest
    pure ((name, value) :: rest)

/-- The text of the reference that the user is redirected to. The endpoint is looked at before the
parameters. -/
def sentUri (r : AuthorizationRequest WideString) : Except SendError String := do
  let endpoint ← (Uri.split r.authorizationUri).mapError .endpoint
  let parameters ← (textParameters r.parameters).mapError .encoding
  pure (endpoint.withParameters parameters).text

/-! ### Requests as data -/

/-- The fields of a request whose values are valid one by one. -/
structure Draft where
  authorizationUri : { s : String // s ≠ "" }
  grant : Grant
  responseType : ResponseType
  clientId : { s : String // s ≠ "" }
  redirectUri : Option WideString
  scopes : Scopes WideString
  state : Option WideString
  additionalParameters : Members
  attributes : Members

/-- Checks the endpoint that is given for a request. -/
def checkEndpoint (value : Json) : Checked { s : String // s ≠ "" } :=
  (Check.nonEmptyText value).under (.field "authorization_uri")

/-- Checks the fields one by one. -/
def checkFields (members : Members) : Checked Draft :=
  Draft.mk
    <$> Check.required members "authorization_uri" Check.nonEmptyText
    <*> Check.required members "grant_type" (Check.oneOf Grant.named)
    <*> Check.required members "response_type" (Check.oneOf ResponseType.named)
    <*> Check.required members "client_id" Check.nonEmptyText
    <*> Check.optional members "redirect_uri" none Check.stringOrNull
    <*> Check.optional members "scopes" Scopes.empty Scopes.checkList
    <*> Check.optional members "state" none Check.stringOrNull
    <*> Check.optional members "additional_parameters" [] Check.object
    <*> Check.optional members "attributes" [] Check.object

/-- Checks that the grant has a redirect and that the response type belongs to it. -/
def ofDraft (d : Draft) : Checked (AuthorizationRequest WideString) :=
  match d.grant.redirect? with
  | none =>
    .fault (.inconsistent
      ("Unsupported grant type for authorization request: " ++ d.grant.name))
  | some grant =>
    if d.responseType = grant.responseType then
      .valid
        { authorizationUri := d.authorizationUri.val
          grant := grant
          clientId := d.clientId.val
          redirectUri := d.redirectUri
          scopes := d.scopes
          state := d.state
          additionalParameters := d.additionalParameters
          attributes := d.attributes
          authorizationUri_ne_empty := d.authorizationUri.property
          clientId_ne_empty := d.clientId.property }
    else
      .fault (.inconsistent
        ("response_type '" ++ d.responseType.name ++ "' does not match grant type '"
          ++ grant.name ++ "'"))

/-- The request that some data describes. Fields of other names are passed over. -/
def ofJson : Json → Checked (AuthorizationRequest WideString)
  | .obj members => (checkFields members).andThen ofDraft
  | _ => .fault (.notRecord "AuthorizationRequest")

end AuthorizationRequest

end OAuthRedirect
