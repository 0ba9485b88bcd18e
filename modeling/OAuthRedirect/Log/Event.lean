import OAuthRedirect.Json.Display
import OAuthRedirect.Log.Sanitize
import OAuthRedirect.Log.Timestamp
import OAuthRedirect.Text.Quoted

/-!
# Log events

An event is what happened between two parties, with data about it. `Event.render` gives it as
a block of coloured lines: a header with the time and the parties, the kind of the event, one
line for each entry of the sanitised data, and a separator. The block keeps the surrogates of the
values that it shows.
-/

namespace OAuthRedirect.Log

/-! ### Colours -/

/-- The terminal code with a number. -/
def code (number : String) : String :=
  "\x1b[" ++ number ++ "m"

/-- The end of a colour. -/
def reset : String := code "0"

/-- The colours by the name of a party or a role. -/
def colours : List (String × String) :=
  [("CLIENT", code "34" ++ code "1"),
    ("USER-AGENT", code "36" ++ code "1"),
    ("ERROR", code "31" ++ code "1"),
    ("SUCCESS", code "32" ++ code "1"),
    ("INFO", code "36"),
    ("HEADER", code "37" ++ code "1"),
    ("SEPARATOR", code "37" ++ code "2"),
    ("RESET", reset)]

/-- The colour of a name in upper case; names without one have the colour of `INFO`. -/
def colour (name : String) : String :=
  (colours.lookup name).getD (code "36")

/-- The colour of a party, in whatever case it is written. -/
def partyColour (party : String) : String :=
  colour (String.ofList (Text.upper party.toList))

/-- The line at the end of a block. -/
def separator : String :=
  colour "SEPARATOR" ++ String.ofList (List.replicate 60 '-') ++ reset

/-! ### Events -/

/-- How grave a record is. -/
inductive Level where
  | info
  | error
  deriving DecidableEq, Repr

/-- The name of a level. -/
def Level.name : Level → String
  | info => "INFO"
  | error => "ERROR"

/-- The rank of a level among all levels. -/
def Level.rank : Level → Int
  | info => 20
  | error => 40

/-- The kinds of events that this library logs itself. -/
inductive EventKind where
  | error
  | pkceGeneration
  | pkceFallback
  | redirect
  deriving DecidableEq, Repr

/-- The name of a kind. -/
def EventKind.name : EventKind → String
  | error => "ERROR"
  | pkceGeneration => "PKCE-GENERATION"
  | pkceFallback => "PKCE-FALLBACK"
  | redirect => "REDIRECT"

/-- A name of no kind of event. -/
structure UnknownKind where
  name : String
  deriving DecidableEq, Repr

/-- What the error says. -/
def UnknownKind.message (e : UnknownKind) : String :=
  Text.quoted e.name ++ " is not a valid MessageType"

/-- The kind with a name. -/
def EventKind.ofName (name : String) : Except UnknownKind EventKind :=
  match [EventKind.error, .pkceGeneration, .pkceFallback, .redirect].find? (·.name == name) with
  | some kind => .ok kind
  | none => .error ⟨name⟩

/-- Something that happened between two parties. -/
structure Event where
  source : String
  destination : String
  kind : String
  data : Members
  success : Bool

namespace Event

/-- The level of an event: failures are errors. -/
def level (e : Event) : Level :=
  if e.success then .info else .error

/-- The colour of the kind. -/
def kindColour (e : Event) : String :=
  if !e.success then colour "ERROR"
  else if e.kind == EventKind.redirect.name then colour "SUCCESS"
  else colour "INFO"

/-- The first line. -/
def header (e : Event) (now : Timestamp) : String :=
  colour "HEADER" ++ "[" ++ now.text ++ "] " ++ partyColour e.source ++ e.source ++ reset ++ " → "
    ++ partyColour e.destination ++ e.destination ++ reset

/-- The line of an entry of the data. -/
def entryLine (entry : String × Json) : WideString :=
  .text ("  " ++ colour "INFO" ++ entry.1 ++ ":" ++ reset ++ " ") ++ entry.2.shown

/-- The second line. -/
def kindLine (e : Event) : String :=
  e.kindColour ++ e.kind ++ ":" ++ reset

/-- The lines of the block. -/
def lines (e : Event) (now : Timestamp) : List WideString :=
  .text (e.header now) :: .text e.kindLine :: (sanitize e.data).map entryLine ++ [.text separator]

/-- The block. -/
def render (e : Event) (now : Timestamp) : WideString :=
  .join "\n" (e.lines now)

/-- A failure of a component: its kind and a message, and details that may replace both. The
message is a string, as a value. -/
def failureOf (component errorType : String) (message : Json) (details : Members) : Event :=
  { source := component
    destination := "ERROR-HANDLER"
    kind := EventKind.error.name
    data := Members.putAll [("error_type", .str errorType), ("message", message)] details
    success := false }

/-- A failure with a text as its message. -/
def failure (component errorType message : String) (details : Members) : Event :=
  failureOf component errorType (.str message) details

/-- An event of a component alone. -/
def internal (component : String) (kind : EventKind) (data : Members) (success : Bool) : Event :=
  ⟨component, component, kind.name, data, success⟩

end Event

/-- The block that says that a component has started; its entries are not sanitised. -/
def startupText (component : String) (port : Json) (entries : Members) : WideString :=
  let first : WideString :=
    .text (colour "SUCCESS" ++ "🚀 " ++ component ++ " started on port ") ++ port.shown
      ++ .text reset
  let entry (member : String × Json) := .text ("   " ++ member.1 ++ ": ") ++ member.2.shown
  .join "\n" (first :: entries.map entry ++ [.text separator])

end OAuthRedirect.Log
