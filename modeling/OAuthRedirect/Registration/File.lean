import OAuthRedirect.Json.Reader
import OAuthRedirect.Settings
import OAuthRedirect.Text.Utf8

/-!
# Registrations from a file

A registrations file is a JSON document in UTF-8 that holds a list of registrations. Loading it
is all or nothing. Line ends of any kind count as one line feed. Without a file the
registrations of the demonstration are loaded.
-/

namespace OAuthRedirect

/-- Why registrations cannot be loaded. -/
inductive LoadError where
  | missingFile
  | notUtf8 (e : Text.Utf8.DecodeError)
  | notJson (text : String) (e : Json.ReadError)
  | invalid (faults : List Fault)

/-- The files that can be read, as bytes by path. -/
abbrev Files := String → Option (List UInt8)

/-- A text in which every line ends with a line feed alone. -/
def unifyLineEnds : List Char → List Char
  | '\r' :: '\n' :: rest => '\n' :: unifyLineEnds rest
  | '\r' :: rest => '\n' :: unifyLineEnds rest
  | c :: rest => c :: unifyLineEnds rest
  | [] => []

/-- The registrations in the text of a file. -/
def registrationsOfText (text : String) : Except LoadError (List (Registration WideString)) := do
  let data ← (Json.read text).mapError (.notJson text)
  (Registration.listOfJson data).toExcept.mapError .invalid

/-- The registrations in the bytes of a file. -/
def registrationsOfBytes (bytes : List UInt8) :
    Except LoadError (List (Registration WideString)) := do
  let cs ← (Text.Utf8.decode bytes).mapError .notUtf8
  registrationsOfText (String.ofList (unifyLineEnds cs))

/-- Loads the registrations of the file at `path`, or at the configured path when none is
given, or of the demonstration when there is neither. -/
def loadRegistrations (env : Environment) (settings : Settings) (files : Files)
    (path : Option String) : Except LoadError (List (Registration WideString)) :=
  match firstNonEmpty path (settings.registrationsFile.getD "") with
  | "" => (demoRegistrations env settings none).mapError .invalid
  | path =>
    match files path with
    | none => .error .missingFile
    | some bytes => registrationsOfBytes bytes

end OAuthRedirect
