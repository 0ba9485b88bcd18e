import OAuthRedirect.Log.Event
import OAuthRedirect.Text.Quoted

/-!
# Loggers

A logger belongs to a component and has a level, the rank below which it keeps silent. A logger
of level zero takes the level of the nearest logger above it, where the names of loggers form a
hierarchy by their dots, and the level of warnings when there is none. Records that pass the
logger go to its one handler, which has a level of its own.
-/

namespace OAuthRedirect.Log

/-! ### Levels by name -/

/-- The ranks of the levels by name. -/
def ranks : List (String × Int) :=
  [("CRITICAL", 50), ("FATAL", 50), ("ERROR", 40), ("WARN", 30), ("WARNING", 30), ("INFO", 20),
    ("DEBUG", 10), ("NOTSET", 0)]

/-- A level as it is configured: by rank, or by name. -/
inductive Threshold where
  | rank (n : Int)
  | name (s : String)
  deriving DecidableEq, Repr

/-- A level name that nobody knows. -/
structure UnknownLevel where
  name : String
  deriving DecidableEq, Repr

/-- What the error says. -/
def UnknownLevel.message (e : UnknownLevel) : String :=
  "Unknown level: " ++ Text.quoted e.name

/-- The rank of a level. -/
def Threshold.resolve : Threshold → Except UnknownLevel Int
  | rank n => .ok n
  | name s =>
    match ranks.lookup s with
    | some n => .ok n
    | none => .error ⟨s⟩

/-! ### The hierarchy -/

/-- The loggers made so far, with their levels; each name occurs once. -/
abbrev Hierarchy := List (String × Int)

/-- The level of a logger that has none of its own and none above it. -/
def rootRank : Int := 30

/-- The text before the last dot. -/
def beforeLastDot? (cs : List Char) : Option (List Char) :=
  match cs.reverse.dropWhile (· ≠ '.') with
  | [] => none
  | _ :: rest => some rest.reverse

theorem length_of_beforeLastDot? {cs before : List Char} (h : beforeLastDot? cs = some before) :
    before.length < cs.length := by
  have hle := (cs.reverse.dropWhile_sublist (· ≠ '.')).length_le
  rw [beforeLastDot?] at h
  split at h
  · contradiction
  · rename_i hd
    injection h with h
    rw [hd, List.length_reverse] at hle
    simp only [← h, List.length_reverse]
    simp only [List.length_cons] at hle
    omega

/-- The names above a name, nearest first. A dot right before the dot that ends a name is no
end of the next one. -/
def namesAbove (cs : List Char) : List (List Char) :=
  match _h : beforeLastDot? cs with
  | none | some [] => []
  | some (c :: before) => (c :: before) :: namesAbove (c :: before).dropLast
termination_by cs.length
decreasing_by
  have := length_of_beforeLastDot? _h
  simp only [List.length_dropLast]
  omega

/-- The level that counts for a logger: the nearest one that is not zero on the way up, which
has fewer steps than `fuel`. -/
def Hierarchy.effective (hierarchy : Hierarchy) : (fuel : Nat) → (name : String) → Int
  | 0, _ => rootRank
  | fuel + 1, name =>
    match hierarchy.lookup name with
    -- Level zero is no level of its own.
    | some (.ofNat 0) | none =>
      match ((namesAbove name.toList).map String.ofList).find? (hierarchy.lookup · |>.isSome) with
      | some parent => effective hierarchy fuel parent
      | none => rootRank
    | some rank => rank

/-- Gives a logger a level. -/
def Hierarchy.set (name : String) (rank : Int) : Hierarchy → Hierarchy
  | [] => [(name, rank)]
  | entry :: rest =>
    if entry.1 = name then (name, rank) :: rest else entry :: set name rank rest

/-! ### Loggers -/

/-- The logger of a component. -/
structure Logger where
  /-- The component, in upper case. -/
  component : String
  /-- The name in the hierarchy. -/
  name : String
  /-- The least rank that the logger lets pass. -/
  rank : Int
  /-- The least ranks that its handlers let pass. -/
  handlerRanks : List Int
  /-- Are records passed on to the loggers above? -/
  propagates : Bool

/-- A record that was written. -/
structure Record where
  level : Level
  text : WideString
  deriving DecidableEq, Repr

/-- The name of the logger of a component. -/
def loggerName (component : String) : String :=
  "oauth." ++ String.ofList (Text.lower component.toList)

/-- Makes the logger of a component, or gives it a new level. -/
def Hierarchy.make (hierarchy : Hierarchy) (component : String) (threshold : Threshold) :
    Except UnknownLevel (Logger × Hierarchy) := do
  let rank ← threshold.resolve
  let name := loggerName component
  let hierarchy := hierarchy.set name rank
  pure
    ({ component := String.ofList (Text.upper component.toList)
       name := name
       rank := hierarchy.effective (hierarchy.length + 1) name
       handlerRanks := [rank]
       propagates := false }, hierarchy)

namespace Logger

/-- Is a record of this level written? -/
def admits (l : Logger) (level : Level) : Bool :=
  l.rank ≤ level.rank && l.handlerRanks.any (· ≤ level.rank)

/-- The records that are written for a text. -/
def records (l : Logger) (level : Level) (text : WideString) : List Record :=
  if l.admits level then [⟨level, text⟩] else []

/-- The records that are written for an event. -/
def eventRecords (l : Logger) (now : Timestamp) (e : Event) : List Record :=
  l.records e.level (e.render now)

/-- The records that are written when the component has started. -/
def startupRecords (l : Logger) (port : Json) (entries : Members) : List Record :=
  l.records .info (startupText l.component port entries)

end Logger

/-- What the console shows of some records. -/
def console (records : List Record) : String :=
  String.join (records.map fun r => r.text.escaped ++ "\n")

end OAuthRedirect.Log
