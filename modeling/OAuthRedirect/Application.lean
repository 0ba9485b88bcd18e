import OAuthRedirect.ErrorBody
import OAuthRedirect.Http.Response
import OAuthRedirect.Http.Route
import OAuthRedirect.Registration.File
import OAuthRedirect.Resolver
import OAuthRedirect.SecurityHeaders

/-!
# The application

Every request goes to the resolver first. One that it resolves is answered with a redirect, one
that it refuses with an error body, and one that it passes by with a page; each of these
answers carries the security headers. A request whose URL cannot be had, whose registration has
an endpoint that is no URI, or whose answer would hold a string that is no text, breaks off.
-/

namespace OAuthRedirect

/-! ### Starting -/

/-- Why the application cannot start. -/
inductive StartError where
  | port (e : Text.IntegerError)
  | registrations (e : LoadError)
  | repository (e : RepositoryError)
  | base (e : BlankBase)

/-- The application, ready for requests. -/
structure Application where
  settings : Settings
  repository : Repository WideString
  matcher : PathMatcher

namespace Application

/-- The name of the application. -/
def title : String := "OAuth 2.0 Client"

/-- The version of the application. -/
def version : String := "1.0.0"

/-- Starts the application with some registrations. -/
def startWith (settings : Settings) (registrations : List (Registration WideString)) :
    Except StartError Application := do
  let repository ← (Repository.ofList registrations).mapError .repository
  let matcher ← (PathMatcher.ofBase settings.base).mapError .base
  pure ⟨settings, repository, matcher⟩

/-- Starts the application. -/
def start (env : Environment) (files : Files) (frameworkPages : FrameworkPages) :
    Except StartError Application := do
  let settings ← (Settings.ofEnvironment env frameworkPages).mapError .port
  let registrations ← (loadRegistrations env settings files none).mapError .registrations
  startWith settings registrations

/-- The resolver of the application. -/
def resolver (app : Application) : Resolver WideString :=
  .usual app.repository.ask app.matcher

/-- What is said on the console when the application has started. -/
def startupText (app : Application) : WideString :=
  Log.startupText Party.client.name (.int app.settings.port)
    [("authorization_request_base_uri", .str app.settings.base),
      ("registrations", .int app.repository.size)]

end Application

/-! ### Answers -/

/-- Why a request breaks off. -/
inductive Crash where
  | url (e : UrlError)
  | lookup (e : LookupError)
  /-- The registration makes no authorization request. -/
  | invalid (faults : List Fault)
  /-- The endpoint of the registration is no URI reference. -/
  | endpoint (e : UriError)
  /-- Something that is to be sent is no text. -/
  | encoding (e : WideString.EncodeError)
  deriving DecidableEq, Repr

/-- A step of answering. -/
abbrev Answering := ExceptT Crash (StateM Session)

/-- The outcome of resolving, as far as it can be answered. -/
inductive Resolved where
  | request (r : AuthorizationRequest WideString)
  | refusal (r : Refusal WideString)
  | passedBy

/-- The redirect of an authorization request. -/
def redirectAnswer (r : AuthorizationRequest WideString) : Except Crash Response :=
  match r.sentUri with
  | .ok uri => .ok (.redirect 302 uri)
  | .error (.endpoint e) => .error (.endpoint e)
  | .error (.encoding e) => .error (.encoding e)

/-- An answer with a JSON body. -/
def jsonAnswer (status : Nat) (value : Json) : Except Crash Response :=
  (Response.json status value).mapError .encoding

/-- The body of a refusal. -/
def Refusal.body (r : Refusal WideString) : ErrorBody :=
  { error := r.errorCode, description := some r.message }

/-- The error answer of a refusal. -/
def refusalAnswer (r : Refusal WideString) : Except Crash Response :=
  jsonAnswer 400 (.obj r.body.members)

namespace Application

/-! ### Pages -/

/-- The entry of a registration on the index page. -/
def indexEntry (base : String) (r : Registration WideString) : Json :=
  .obj
    [("registration_id", .str r.id),
      ("client_name", r.displayName.toJson),
      ("grant_type", .str r.grant.name),
      ("pkce", .bool r.usesPkce),
      ("authorization_link", .str (base ++ "/" ++ r.id))]

/-- The index page: the registrations and their authorization links. -/
def indexPage (app : Application) : Json :=
  .obj
    [("service", .str title),
      ("registrations", .arr (app.repository.registrations.map (indexEntry app.matcher.base)))]

/-- The health page. -/
def healthPage : Json :=
  .obj [("status", .str "healthy"), ("service", .str "oauth-client")]

/-! ### Answering -/

/-- Resolves a request, with a refusal as an outcome of its own. -/
def resolve (app : Application) (sha256 : Bool) (request : Request) (explicit : Option String) :
    Answering Resolved := do
  match ← (modifyGet (app.resolver.run sha256 request explicit) : StateM Session _) with
  | .ok (some r) => pure (.request r)
  | .ok none => pure .passedBy
  | .error (.refused r) => pure (.refusal r)
  | .error (.url e) => throw (.url e)
  | .error (.lookup e) => throw (.lookup e)
  | .error (.invalid faults) => throw (.invalid faults)

/-- The answer to a resolved or refused request, or else the answer `other`. -/
def answer (resolved : Resolved) (other : Answering Response) : Answering Response :=
  match resolved with
  | .request r => ExceptT.mk (pure (redirectAnswer r))
  | .refusal r => ExceptT.mk (pure (refusalAnswer r))
  | .passedBy => other

/-- The answer of a page. -/
def page (app : Application) (sha256 : Bool) (request : Request) : Route → Answering Response
  | .index => ExceptT.mk (pure (jsonAnswer 200 app.indexPage))
  | .health => ExceptT.mk (pure (jsonAnswer 200 healthPage))
  | .authorize id => do
    answer (← app.resolve sha256 request (some id)) (pure (.detail 404 [] "Not Found"))

/-- Something about the URL of a request. -/
def ofUrl {α : Type} (x : Except UrlError α) : Answering α :=
  ExceptT.mk (pure (x.mapError .url))

/-- Is there a page at a path, be it one of the framework? -/
def hasPage (app : Application) (path : String) : Bool :=
  (app.settings.frameworkPages path).isSome || (Route.ofPath? path).isSome

/-- The answer to a request that the resolver passes by: the page at its path, where those of the
framework come first; a redirect to the path with its trailing slashes removed or one added, when
a page is there; or that nothing is found. -/
def passBy (app : Application) (sha256 : Bool) (request : Request) : Answering Response := do
  let path ← ofUrl request.routePath
  match app.settings.frameworkPages path, Route.ofPath? path with
  | some page, _ => pure (page request)
  | none, some route =>
    if request.method = "GET" then app.page sha256 request route
    else pure (.detail 405 [("allow", "GET")] "Method Not Allowed")
  | none, none =>
    -- The root has no other spelling to be redirected to.
    let toggled := request.toggleSlash path
    if path ≠ "/" ∧ app.hasPage (← ofUrl toggled.routePath) then
      pure (.redirect 307 (← ofUrl toggled.urlText))
    else pure (.detail 404 [] "Not Found")

/-- The security headers, as they are sent. -/
def sentSecurityHeaders : List (String × String) :=
  securityHeaders.map fun header => (String.ofList (Text.lower header.1.toList), header.2)

/-- The answer to a request, unless it breaks off. -/
def respond (app : Application) (sha256 : Bool) (request : Request) : Answering Response := do
  let response ← answer (← app.resolve sha256 request none) (app.passBy sha256 request)
  pure (response.withHeaders sentSecurityHeaders)

/-- The answer to a request, and why it broke off if it did. -/
def handle (app : Application) (sha256 : Bool) (request : Request) (session : Session) :
    (Response × Option Crash) × Session :=
  match (app.respond sha256 request).run.run session with
  | (.ok response, session) => ((response, none), session)
  | (.error crash, session) => ((.internalError, some crash), session)

/-- The answers to some requests, one after another in one session, each with the session after
it. -/
def handleAll (app : Application) :
    List (Bool × Request) → Session → List ((Response × Option Crash) × Session)
  | [], _ => []
  | (sha256, request) :: rest, session =>
    let answered := app.handle sha256 request session
    answered :: handleAll app rest answered.2

end Application

end OAuthRedirect
