import OAuthRedirect.AuthorizationRequest
import OAuthRedirect.Crypto.Pkce
import OAuthRedirect.Http.Request
import OAuthRedirect.Log.Event
import OAuthRedirect.Registration.Repository

/-!
# Resolving authorization requests

`Resolver.resolve` takes an incoming request to the authorization request that its user is to
be redirected with. The id of the registration comes from the caller, or from a path below the
base of the resolver; a request with neither is not for the resolver and is passed by.

Resolving runs in a `Session`, which holds the random bytes that are left and the events logged
so far. Both outlive a failure: what was drawn or logged before it stays drawn and logged.

A resolver may ask for registrations of texts or for registrations of wide strings. It takes the
same steps for both; only the latter may have an endpoint that no authorization request can have.
-/

namespace OAuthRedirect

/-! ### Failures -/

/-- Why a request is refused: its registration is unknown or cannot be used for a redirect. -/
inductive Refusal (τ : Type := String) where
  | unknownRegistration (id : String)
  | unsupportedGrant (id : String) (grant : Grant)
  | badTemplate (e : Template.UnknownVariable τ) (id : String)
  deriving DecidableEq, Repr

/-- The code of every refusal in an error body. -/
def Refusal.errorCode {τ : Type} (_ : Refusal τ) : String := "invalid_request"

/-- What a refusal says. -/
def Refusal.message {τ : Type} [Strings τ] : Refusal τ → τ
  | unknownRegistration id => Strings.ofText ("Invalid Client Registration with Id: " ++ id)
  | unsupportedGrant id grant =>
    Strings.ofText ("Invalid Authorization Grant Type (" ++ grant.name
      ++ ") for Client Registration with Id: " ++ id)
  | badTemplate e _ => Strings.unknownVariable e

/-- The id that a refusal is about. -/
def Refusal.registrationId {τ : Type} : Refusal τ → String
  | unknownRegistration id => id
  | unsupportedGrant id _ => id
  | badTemplate _ id => id

/-- Why a request is not resolved. -/
inductive Failure (τ : Type := String) where
  | refused (r : Refusal τ)
  /-- The URL of the request is needed and cannot be had. -/
  | url (e : UrlError)
  /-- The registrations could not be asked. -/
  | lookup (e : LookupError)
  /-- The registration makes no authorization request. -/
  | invalid (faults : List Fault)
  deriving DecidableEq, Repr

/-! ### Sessions -/

/-- What resolving uses up and leaves behind. -/
structure Session where
  entropy : Entropy
  /-- The events logged so far, oldest first. -/
  log : List Log.Event

/-- A step of resolving. -/
abbrev Resolution (τ : Type) := ExceptT (Failure τ) (StateM Session)

/-- A party to a redirect, as it is named in the log. -/
inductive Party where
  | client
  | userAgent
  deriving DecidableEq, Repr

/-- The name of a party. -/
def Party.name : Party → String
  | client => "CLIENT"
  | userAgent => "USER-AGENT"

namespace Resolution

variable {τ α : Type}

/-- Logs an event. -/
def note (e : Log.Event) : Resolution τ Unit :=
  modify fun s => { s with log := s.log ++ [e] }

/-- Draws from the random bytes. -/
def draw (f : Entropy → α × Entropy) : Resolution τ α :=
  modifyGet fun s => ((f s.entropy).1, { s with entropy := (f s.entropy).2 })

/-- Something about the request that may have an error of the URL. -/
def ofUrl (x : Except UrlError α) : Resolution τ α :=
  match x with
  | .ok a => pure a
  | .error e => throw (.url e)

/-- The answer to a look-up. -/
def ofLookup (x : Except LookupError α) : Resolution τ α :=
  match x with
  | .ok a => pure a
  | .error e => throw (.lookup e)

/-- A check of what a request is made of. -/
def ofChecked (x : Checked α) : Resolution τ α :=
  match x with
  | .valid a => pure a
  | .invalid faults => throw (.invalid faults)

/-- Logs a refusal and refuses. -/
def refuse (r : Refusal τ) (errorType : String) (message : Json) (details : Members) :
    Resolution τ α := do
  note (.failureOf Party.client.name errorType message details)
  throw (.refused r)

end Resolution

/-! ### Resolvers -/

/-- The parts that a resolver works with. -/
structure Resolver (τ : Type := String) [Inhabited τ] [LT τ] where
  /-- The registration with an id. -/
  registrations : String → Except LookupError (Option (Registration τ))
  matcher : PathMatcher
  stateKeys : KeySource
  verifierKeys : KeySource

/-- The registrations of a repository, as a resolver asks for them. -/
def Repository.ask {τ : Type} [Inhabited τ] [LT τ] (repository : Repository τ) (id : String) :
    Except LookupError (Option (Registration τ)) :=
  repository.lookup (some id)

/-- Why a resolver cannot be made. -/
inductive ResolverError where
  | noRegistrations
  | blankBase
  deriving DecidableEq, Repr

/-- What an error says. -/
def ResolverError.message : ResolverError → String
  | noRegistrations => "client_registration_repository cannot be None"
  | blankBase => BlankBase.blank.message

namespace Resolver

variable {τ : Type} [Inhabited τ] [LT τ]

/-- Makes a resolver, which needs registrations to ask and a base that is not blank. -/
def make (registrations : Option (String → Except LookupError (Option (Registration τ))))
    (base : String) (stateKeys verifierKeys : KeySource) : Except ResolverError (Resolver τ) :=
  match registrations with
  | none => .error .noRegistrations
  | some registrations =>
    match PathMatcher.ofBase base with
    | .error .blank => .error .blankBase
    | .ok matcher => .ok ⟨registrations, matcher, stateKeys, verifierKeys⟩

/-- A resolver with the usual keys: states of 32 bytes, verifiers of 96. -/
def usual (registrations : String → Except LookupError (Option (Registration τ)))
    (matcher : PathMatcher) : Resolver τ :=
  ⟨registrations, matcher, .random .forStates, .random .forVerifiers⟩

/-! ### Proof keys -/

/-- The entry of a registration id in the log. -/
def idEntry (id : String) : String × Json :=
  ("registration_id", .str id)

/-- What a proof key adds to the parameters of a request. -/
def pkceParameters (p : Pkce) : Members :=
  ("code_challenge", .str p.challenge)
    :: match p.method with
      | some m => [("code_challenge_method", .str m.name)]
      | none => []

/-- The event of a new proof key; one without the hash is a failure. -/
def pkceEvent (p : Pkce) : Log.Event :=
  match p.method with
  | some m =>
    .internal Party.client.name .pkceGeneration
      [("code_verifier", .str p.verifier), ("code_challenge", .str p.challenge),
        ("code_challenge_method", .str m.name)] true
  | none =>
    .internal Party.client.name .pkceFallback
      [("reason", .str "SHA-256 unavailable, sending plain code challenge"),
        ("code_challenge", .str p.challenge)] false

/-- Makes a proof key and logs it. -/
def newProofKey (resolver : Resolver τ) (sha256 : Bool) : Resolution τ Pkce := do
  let p ← Resolution.draw (Pkce.generate resolver.verifierKeys sha256)
  Resolution.note (pkceEvent p)
  pure p

/-- The proof key of a request: public clients that ask for a code need one. -/
def proofKey (resolver : Resolver τ) (sha256 : Bool) (registration : Registration τ) :
    RedirectGrant → Resolution τ (Option Pkce)
  | .authorizationCode =>
    if registration.isPublic then some <$> resolver.newProofKey sha256 else pure none
  | .implicit => pure none

/-! ### Redirect URIs -/

/-- The values of the placeholders of a redirect URI template. -/
def templateVariables (baseUrl action id : String) : List (String × String) :=
  [("baseUrl", baseUrl), ("action", action), ("registrationId", id)]

section Strings

variable [Strings τ]

/-- The address that the user comes back to. -/
def redirectUri (request : Request) (registration : Registration τ) (action : String) :
    Resolution τ τ := do
  let baseUrl ← Resolution.ofUrl request.baseUrl
  match Strings.expand registration.callbackTemplate
      (templateVariables baseUrl action registration.id) with
  | .ok uri => pure uri
  | .error e =>
    Resolution.refuse (.badTemplate e registration.id) "template_expansion"
      (Strings.toJson (Strings.unknownVariable e)) [idEntry registration.id]

/-! ### Resolving -/

/-- The endpoint of a registration as that of an authorization request, which has to be a text. -/
def sentEndpoint (registration : Registration τ) : Checked { s : String // s ≠ "" } :=
  AuthorizationRequest.checkEndpoint (Strings.toJson registration.authorizationEndpoint)

/-- The authorization request of a registration whose grant has a redirect. -/
def build (registration : Registration τ) (grant : RedirectGrant)
    (endpoint : { s : String // s ≠ "" }) (pkce : Option Pkce) (redirectUri : τ) (state : String) :
    AuthorizationRequest τ where
  authorizationUri := endpoint.val
  grant := grant
  clientId := registration.clientId
  redirectUri := some redirectUri
  scopes := registration.scopes
  state := some (Strings.ofText state)
  additionalParameters :=
    match pkce with
    | some p => pkceParameters p
    | none => []
  attributes :=
    idEntry registration.id
      :: match pkce with
        | some p => [("code_verifier", .str p.verifier)]
        | none => []
  authorizationUri_ne_empty := endpoint.property
  clientId_ne_empty := registration.clientId_ne_empty

/-- The event of a redirect. -/
def redirectEvent (id : String) (r : AuthorizationRequest τ) : Log.Event where
  source := Party.client.name
  destination := Party.userAgent.name
  kind := Log.EventKind.redirect.name
  data :=
    [idEntry id,
      ("grant_type", .str r.grant.name),
      ("client_id", .str r.clientId),
      ("authorization_uri", .str r.authorizationUri),
      ("redirect_uri", Strings.orNull r.redirectUri),
      ("scope", Strings.toJson (Strings.spaced r.scopes.names)),
      ("state", Strings.orNull r.state),
      ("pkce", .bool (r.additionalParameters.lookup "code_challenge").isSome)]
  success := true

/-- Refuses an id that no registration has, once the path of the request is known. -/
def refuseUnknown {α : Type} (request : Request) (id message : String) : Resolution τ α := do
  let url ← Resolution.ofUrl request.url
  Resolution.refuse (.unknownRegistration id) "unknown_registration" (.str message)
    [idEntry id, ("path", .str url.path)]

/-- Resolves a request for the registration that an id was looked up to. -/
def resolveFor (resolver : Resolver τ) (sha256 : Bool) (request : Request) (id action : String)
    (registration : Registration τ) : Resolution τ (AuthorizationRequest τ) :=
  match registration.grant.redirect? with
  | none =>
    Resolution.refuse (.unsupportedGrant registration.id registration.grant) "invalid_grant_type"
      (.str "Grant type is not supported for authorization requests")
      [idEntry id, ("grant_type", .str registration.grant.name)]
  | some grant => do
    -- The verifier is drawn before the URL of the request is needed, and the state after it.
    let pkce ← resolver.proofKey sha256 registration grant
    let redirectUri ← redirectUri request registration action
    let state ← Resolution.draw resolver.stateKeys.next
    let endpoint ← Resolution.ofChecked (sentEndpoint registration)
    let result := build registration grant endpoint pkce redirectUri state
    Resolution.note (redirectEvent registration.id result)
    pure result

/-- Resolves a request for an id. -/
def resolveId (resolver : Resolver τ) (sha256 : Bool) (request : Request) (id action : String) :
    Resolution τ (AuthorizationRequest τ) := do
  match ← Resolution.ofLookup (resolver.registrations id) with
  | none => refuseUnknown request id "No client registration found"
  | some registration => resolver.resolveFor sha256 request id action registration

/-- Resolves a request. The id is `explicit`, or else the one in the path, and the action is
that of the query, or else `authorize` for an explicit id and `login` for one in the path. -/
def resolve (resolver : Resolver τ) (sha256 : Bool) (request : Request)
    (explicit : Option String) : Resolution τ (Option (AuthorizationRequest τ)) :=
  match explicit with
  | some id =>
    if id = "" then refuseUnknown request id "Registration id cannot be empty"
    else some <$> resolver.resolveId sha256 request id (request.action?.getD "authorize")
  | none =>
    match resolver.matcher.matchRequest request with
    | none => pure none
    | some id => some <$> resolver.resolveId sha256 request id (request.action?.getD "login")

/-- Resolves a request in a session. -/
def run (resolver : Resolver τ) (sha256 : Bool) (request : Request) (explicit : Option String)
    (session : Session) : Except (Failure τ) (Option (AuthorizationRequest τ)) × Session :=
  (resolver.resolve sha256 request explicit).run.run session

/-- A call of the resolver: is SHA-256 there, for which request, and with which id? -/
structure Call where
  sha256 : Bool
  request : Request
  explicit : Option String

/-- Resolves some calls, one after another in one session, each with the session after it. -/
def runAll (resolver : Resolver τ) :
    List Call → Session → List (Except (Failure τ) (Option (AuthorizationRequest τ)) × Session)
  | [], _ => []
  | call :: rest, session =>
    let result := resolver.run call.sha256 call.request call.explicit session
    result :: runAll resolver rest result.2

end Strings

end Resolver

end OAuthRedirect
