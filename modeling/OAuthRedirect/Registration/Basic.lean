import OAuthRedirect.Grant
import OAuthRedirect.Strings

/-!
# Client registrations

What a client agreed on with a provider. The ids of a registration are never empty, and a
registration for a grant with a redirect has the endpoint to redirect to and the template of
the address to come back to; both facts are part of the type.

Ids are texts. The other strings of a registration are texts, or wide strings where they come from
data, which may hold surrogates. A registration of texts is one of wide strings as well
(`Registration.widen`), and `Registration.text?` tells which registrations are such.
-/

namespace OAuthRedirect

/-- A client's registration with a provider. -/
structure Registration (τ : Type := String) [Inhabited τ] [LT τ] where
  id : String
  clientId : String
  clientSecret : Option τ
  authentication : ClientAuthentication
  grant : Grant
  authorizationUri : Option τ
  redirectTemplate : Option τ
  scopes : Scopes τ
  clientName : Option τ
  id_ne_empty : id ≠ ""
  clientId_ne_empty : clientId ≠ ""
  endpoints : ∀ g, grant.redirect? = some g →
    authorizationUri.getD default ≠ default ∧ redirectTemplate.getD default ≠ default
  deriving DecidableEq

namespace Registration

section Strings

variable {τ : Type} [Inhabited τ] [LT τ]

/-- The endpoint that the user is sent to; empty only for grants without a redirect. -/
def authorizationEndpoint (r : Registration τ) : τ :=
  r.authorizationUri.getD default

/-- The template of the address to come back to; empty only for grants without a redirect. -/
def callbackTemplate (r : Registration τ) : τ :=
  r.redirectTemplate.getD default

/-- A client that does not authenticate at the token endpoint. -/
def isPublic (r : Registration τ) : Bool :=
  r.authentication == .none

/-- Does the client prove possession of a code verifier? Public clients with the
authorization code grant do. -/
def usesPkce (r : Registration τ) : Bool :=
  r.grant == .authorizationCode && r.isPublic

end Strings

/-- The name that is shown for the client: its own, or else its id. -/
def displayName (r : Registration WideString) : WideString :=
  match r.clientName with
  | some (.text "") | none => r.id
  | some name => name

/-! ### Registrations of texts -/

/-- A registration of texts as one of wide strings. -/
@[coe] def widen (r : Registration) : Registration WideString where
  id := r.id
  clientId := r.clientId
  clientSecret := r.clientSecret.map .text
  authentication := r.authentication
  grant := r.grant
  authorizationUri := r.authorizationUri.map .text
  redirectTemplate := r.redirectTemplate.map .text
  scopes := r.scopes.widen
  clientName := r.clientName.map .text
  id_ne_empty := r.id_ne_empty
  clientId_ne_empty := r.clientId_ne_empty
  endpoints g hg := by
    simp only [ne_eq, WideString.getD_map_text_eq_default_iff]
    exact r.endpoints g hg

instance : Coe Registration (Registration WideString) := ⟨widen⟩

instance : Coe (List Registration) (List (Registration WideString)) := ⟨List.map widen⟩

/-! ### Registrations as data -/

/-- The fields of a registration as the members of an object. -/
def fields (r : Registration WideString) : Members :=
  [("registration_id", .str r.id),
    ("client_id", .str r.clientId),
    ("client_secret", Strings.orNull r.clientSecret),
    ("client_authentication_method", .str r.authentication.name),
    ("authorization_grant_type", .str r.grant.name),
    ("authorization_uri", Strings.orNull r.authorizationUri),
    ("redirect_uri_template", Strings.orNull r.redirectTemplate),
    ("scopes", .arr (r.scopes.names.map WideString.toJson)),
    ("client_name", Strings.orNull r.clientName)]

/-- The fields of a registration whose values are valid one by one. -/
structure Draft where
  id : { s : String // s ≠ "" }
  clientId : { s : String // s ≠ "" }
  clientSecret : Option WideString
  authentication : ClientAuthentication
  grant : Grant
  authorizationUri : Option WideString
  redirectTemplate : Option WideString
  scopes : Scopes WideString
  clientName : Option WideString

/-- The method of a client whose data names none: the secret is sent if there is one. -/
def defaultAuthentication (members : Members) : ClientAuthentication :=
  match members.lookup "client_secret" with
  | some secret => if secret.isTruthy then .secretBasic else .none
  | none => .none

/-- The authentication method; absent and null stand for the default. -/
def checkAuthentication (members : Members) : Checked ClientAuthentication :=
  match members.lookup "client_authentication_method" with
  | none | some .null => .valid (defaultAuthentication members)
  | some value =>
    (Check.oneOf ClientAuthentication.named value).under (.field "client_authentication_method")

/-- Checks the fields one by one. -/
def checkFields (members : Members) : Checked Draft :=
  Draft.mk
    <$> Check.required members "registration_id" Check.nonEmptyText
    <*> Check.required members "client_id" Check.nonEmptyText
    <*> Check.optional members "client_secret" none Check.stringOrNull
    <*> checkAuthentication members
    <*> Check.required members "authorization_grant_type" (Check.oneOf Grant.named)
    <*> Check.optional members "authorization_uri" none Check.stringOrNull
    <*> Check.optional members "redirect_uri_template" (some ↑Template.standard) Check.stringOrNull
    <*> Check.optional members "scopes" Scopes.empty Scopes.check
    <*> Check.optional members "client_name" none Check.stringOrNull

/-- Checks that a grant with a redirect has its endpoint and its template. -/
def ofDraft (d : Draft) : Checked (Registration WideString) :=
  let register endpoints : Checked (Registration WideString) :=
    .valid
      { id := d.id.val
        clientId := d.clientId.val
        clientSecret := d.clientSecret
        authentication := d.authentication
        grant := d.grant
        authorizationUri := d.authorizationUri
        redirectTemplate := d.redirectTemplate
        scopes := d.scopes
        clientName := d.clientName
        id_ne_empty := d.id.property
        clientId_ne_empty := d.clientId.property
        endpoints := endpoints }
  match h : d.grant.redirect? with
  | none => register (by simp [h])
  | some _ =>
    if hu : d.authorizationUri.getD default = default then
      .fault (.inconsistent "authorization_uri is required for redirect-based grants")
    else if ht : d.redirectTemplate.getD default = default then
      .fault (.inconsistent "redirect_uri_template is required for redirect-based grants")
    else register fun _ _ => ⟨hu, ht⟩

/-- The registration that some data describes. Fields of other names are passed over. -/
def ofJson : Json → Checked (Registration WideString)
  | .obj members => (checkFields members).andThen ofDraft
  | _ => .fault (.notRecord "ClientRegistration")

/-- The registrations that a list of data describes; any fault in any of them is a fault of
the list. -/
def listOfJson : Json → Checked (List (Registration WideString))
  | .arr items => Checked.items ofJson 0 items
  | _ => .fault .notList

end Registration

end OAuthRedirect
