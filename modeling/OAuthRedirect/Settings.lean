import OAuthRedirect.Http.Request
import OAuthRedirect.Http.Response
import OAuthRedirect.Registration.Basic
import OAuthRedirect.Text.Integer

/-!
# Settings

What the application is configured with, and the registrations that demonstrate each supported
flow when none are configured. Both are read from environment variables, except for the pages that
the framework under the application adds to it.
-/

namespace OAuthRedirect

/-- The environment variables that are set. -/
abbrev Environment := List (String × String)

/-- The value of a variable, or another one when it is not set. -/
def Environment.get (env : Environment) (name fallback : String) : String :=
  (env.lookup name).getD fallback

/-- The pages that a framework adds to an application, such as the documentation of its
interface, by the paths that they are at. A page answers requests of every method. -/
abbrev FrameworkPages := String → Option (Request → Response)

/-- The configuration of the application. -/
structure Settings where
  /-- The base of the paths that are redirected. -/
  base : String
  host : String
  port : Int
  registrationsFile : Option String
  /-- The provider of the demonstration. -/
  authorizationServer : String
  frameworkPages : FrameworkPages

namespace Settings

/-- Reads the settings. -/
def ofEnvironment (env : Environment) (frameworkPages : FrameworkPages) :
    Except Text.IntegerError Settings := do
  let port ← Text.readInteger (env.get "CLIENT_PORT" "8080")
  pure
    { base := env.get "AUTHORIZATION_REQUEST_BASE_URI" defaultBase
      host := env.get "CLIENT_HOST" "0.0.0.0"
      port := port
      registrationsFile := env.lookup "CLIENT_REGISTRATIONS_FILE"
      authorizationServer := env.get "AUTHORIZATION_SERVER_URL" "http://localhost:8081"
      frameworkPages := frameworkPages }

end Settings

/-- The first text that is given and not empty. -/
def firstNonEmpty (preferred : Option String) (fallback : String) : String :=
  match preferred with
  | none | some "" => fallback
  | some s => s

/-- The data of the demonstration: a public client with a proof key, a confidential client, and
a client with the implicit grant. -/
def demoData (env : Environment) (authorizationServer : String) : List Json :=
  [.obj
    [("registration_id", .str "demo-client"),
      ("client_id", .str "demo-client"),
      ("client_name", .str "OAuth Learning Authorization Server"),
      ("authorization_grant_type", .str Grant.authorizationCode.name),
      ("authorization_uri", .str (authorizationServer ++ "/authorize")),
      ("redirect_uri_template", .str Template.standard),
      ("scopes", .arr [.str "read"])],
  .obj
    [("registration_id", .str "github"),
      ("client_id", .str (env.get "GITHUB_CLIENT_ID" "github-client-id")),
      ("client_secret", .str (env.get "GITHUB_CLIENT_SECRET" "github-client-secret")),
      ("client_name", .str "GitHub"),
      ("authorization_grant_type", .str Grant.authorizationCode.name),
      ("authorization_uri", .str "https://github.com/login/oauth/authorize"),
      ("redirect_uri_template", .str Template.standard),
      ("scopes", .arr [.str "read:user"])],
  .obj
    [("registration_id", .str "legacy-implicit"),
      ("client_id", .str "legacy-implicit"),
      ("client_name", .str "Legacy Implicit Client"),
      ("authorization_grant_type", .str Grant.implicit.name),
      ("authorization_uri", .str (authorizationServer ++ "/authorize")),
      ("redirect_uri_template", .str "\x7bbaseUrl\x7d/authorized"),
      ("scopes", .arr [.str "read"])]]

/-- The registrations of the demonstration; the first that is not valid is the error. -/
def demoRegistrations (env : Environment) (settings : Settings)
    (authorizationServer : Option String) :
    Except (List Fault) (List (Registration WideString)) :=
  (demoData env (firstNonEmpty authorizationServer settings.authorizationServer)).mapM fun data =>
    (Registration.ofJson data).toExcept

end OAuthRedirect
