/-!
# Grants, response types and client authentication

The closed vocabularies of OAuth 2.0 that a registration is written in. Two of the five grants
redirect the user to the provider (`RedirectGrant`), and each of these has its response type.
-/

namespace OAuthRedirect

/-- How a client obtains a token. -/
inductive Grant where
  | authorizationCode
  | implicit
  | refreshToken
  | clientCredentials
  | password
  deriving DecidableEq, Repr

/-- The grants that begin with a redirect to the provider. -/
inductive RedirectGrant where
  | authorizationCode
  | implicit
  deriving DecidableEq, Repr

/-- What the provider answers a redirect with. -/
inductive ResponseType where
  | code
  | token
  deriving DecidableEq, Repr

/-- How a client authenticates at the token endpoint. -/
inductive ClientAuthentication where
  | secretBasic
  | secretPost
  | none
  deriving DecidableEq, Repr

/-- The name of a grant. -/
def Grant.name : Grant → String
  | authorizationCode => "authorization_code"
  | implicit => "implicit"
  | refreshToken => "refresh_token"
  | clientCredentials => "client_credentials"
  | password => "password"

/-- The grants with their names. -/
def Grant.named : List (String × Grant) :=
  [Grant.authorizationCode, .implicit, .refreshToken, .clientCredentials, .password].map
    fun g => (g.name, g)

/-- The redirect grant that a grant is; `none` for the grants without a redirect. -/
def Grant.redirect? : Grant → Option RedirectGrant
  | authorizationCode => some .authorizationCode
  | implicit => some .implicit
  | _ => .none

/-- A redirect grant among all grants. -/
def RedirectGrant.toGrant : RedirectGrant → Grant
  | authorizationCode => .authorizationCode
  | implicit => .implicit

/-- The name of a redirect grant. -/
def RedirectGrant.name (g : RedirectGrant) : String :=
  g.toGrant.name

/-- The response type that belongs to a redirect grant. -/
def RedirectGrant.responseType : RedirectGrant → ResponseType
  | authorizationCode => .code
  | implicit => .token

/-- The name of a response type. -/
def ResponseType.name : ResponseType → String
  | code => "code"
  | token => "token"

/-- The response types with their names. -/
def ResponseType.named : List (String × ResponseType) :=
  [ResponseType.code, .token].map fun r => (r.name, r)

/-- The name of a client authentication method. -/
def ClientAuthentication.name : ClientAuthentication → String
  | secretBasic => "client_secret_basic"
  | secretPost => "client_secret_post"
  | none => "none"

/-- The client authentication methods with their names. -/
def ClientAuthentication.named : List (String × ClientAuthentication) :=
  [ClientAuthentication.secretBasic, .secretPost, .none].map fun m => (m.name, m)

theorem RedirectGrant.redirect?_toGrant (g : RedirectGrant) : g.toGrant.redirect? = some g := by
  cases g <;> rfl

theorem Grant.toGrant_of_redirect? {g : Grant} {r : RedirectGrant} (h : g.redirect? = some r) :
    r.toGrant = g := by
  cases g <;> simp [redirect?] at h <;> subst h <;> rfl

/-- The grants without a redirect are those of neither kind. -/
theorem Grant.redirect?_eq_none_iff {g : Grant} :
    g.redirect? = none ↔ g ≠ .authorizationCode ∧ g ≠ .implicit := by
  cases g <;> simp [redirect?]

theorem Grant.exists_redirect? {g : Grant} (h : g = .authorizationCode ∨ g = .implicit) :
    ∃ grant, g.redirect? = some grant := by
  obtain rfl | rfl := h
  · exact ⟨_, rfl⟩
  · exact ⟨_, rfl⟩

end OAuthRedirect
