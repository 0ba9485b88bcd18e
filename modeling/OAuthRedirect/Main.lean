import OAuthRedirect.Application

/-!
# The program

Starts the application with the environment variables of the process and says on the console
where it is reached. A server at that address hands each request to `Application.handle`. The
application stands alone here, without pages of a framework.
-/

namespace OAuthRedirect

/-! ### Input -/

/-- The environment variables that configure the application. -/
def configuringVariables : List String :=
  ["AUTHORIZATION_REQUEST_BASE_URI", "CLIENT_HOST", "CLIENT_PORT", "CLIENT_REGISTRATIONS_FILE",
    "AUTHORIZATION_SERVER_URL", "GITHUB_CLIENT_ID", "GITHUB_CLIENT_SECRET"]

/-- The configuring variables that are set in the process. -/
def readEnvironment : IO Environment :=
  configuringVariables.filterMapM fun name => do
    pure ((← IO.getEnv name).map fun value => (name, value))

/-- The bytes of a file, unless it cannot be read. -/
def readBytes? (path : String) : IO (Option (List UInt8)) := do
  try
    pure (some (← IO.FS.readBinFile path).toList)
  catch _ => pure none

/-! ### Output -/

/-- A fault on a line of its own, after the place where it stands. -/
def Fault.line (f : Fault) : String :=
  let step : Step → String
    | .field name => name
    | .index i => toString i
  ".".intercalate (f.place.map step) ++ ": " ++ f.kind.message

/-- What an error says. -/
def LoadError.message : LoadError → String
  | missingFile => "The registrations file cannot be read"
  | notUtf8 e => e.message
  | notJson text e => e.message text
  | invalid faults => "\n".intercalate (faults.map Fault.line)

/-- What an error says. -/
def StartError.message : StartError → String
  | port e => e.message
  | registrations e => e.message
  | repository e => e.message
  | base e => e.message

/-- Starts the application; the exit code is 1 when it cannot start. -/
def startProgram : IO UInt32 := do
  let env ← readEnvironment
  let file := env.get "CLIENT_REGISTRATIONS_FILE" ""
  let content ← if file = "" then pure none else readBytes? file
  match Application.start env (fun _ => content) fun _ => none with
  | .ok app =>
    IO.eprintln app.startupText.escaped
    IO.println (app.settings.host ++ ":" ++ toString app.settings.port)
    pure 0
  | .error e =>
    IO.eprintln e.message
    pure 1

end OAuthRedirect

/-- Runs the program. -/
def main : IO UInt32 := OAuthRedirect.startProgram
