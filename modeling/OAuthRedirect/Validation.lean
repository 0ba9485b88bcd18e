import OAuthRedirect.WideString

/-!
# Checking data against a form

Data that comes from outside is checked field by field, and every fault is reported with the
place it was found at. A `Checked` value is a valid value or a list of faults; checks of
several fields are joined by `<*>`, which keeps the faults of both sides in order
(`Checked.faults_seq`).
-/

namespace OAuthRedirect

/-- One step on the way to a place inside a value. -/
inductive Step where
  | field (name : String)
  | index (i : Nat)
  deriving DecidableEq, Repr

/-- What is wrong at a place. -/
inductive FaultKind where
  | missing
  | notString
  | emptyString
  /-- A string that has to be a text and holds a surrogate without a partner. -/
  | brokenString
  /-- None of the values that are allowed. -/
  | notOneOf (allowed : List String)
  | notSet
  | notObject
  | notList
  /-- A value that is no record of the given form at all. -/
  | notRecord (form : String)
  /-- The fields are valid one by one, but not together. -/
  | inconsistent (reason : String)
  deriving DecidableEq, Repr

/-- A fault and where it is. -/
structure Fault where
  kind : FaultKind
  place : List Step
  deriving DecidableEq, Repr

/-- The short name of a kind of fault. -/
def FaultKind.code : FaultKind → String
  | missing => "missing"
  | notString => "string_type"
  | emptyString => "string_too_short"
  | brokenString => "string_unicode"
  | notOneOf _ => "enum"
  | notSet => "frozen_set_type"
  | notObject => "dict_type"
  | notList => "list_type"
  | notRecord _ => "model_type"
  | inconsistent _ => "value_error"

/-- Choices in a sentence: commas between them, and `or` before the last. -/
def choices : List String → String
  | [] => ""
  | [last] => "'" ++ last ++ "'"
  | [first, last] => "'" ++ first ++ "' or '" ++ last ++ "'"
  | first :: rest => "'" ++ first ++ "', " ++ choices rest

/-- What a fault says. -/
def FaultKind.message : FaultKind → String
  | missing => "Field required"
  | notString => "Input should be a valid string"
  | emptyString => "String should have at least 1 character"
  | brokenString =>
    "Input should be a valid string, unable to parse raw data as a unicode string"
  | notOneOf allowed => "Input should be " ++ choices allowed
  | notSet => "Input should be a valid frozenset"
  | notObject => "Input should be a valid dictionary"
  | notList => "Input should be a valid list"
  | notRecord form => "Input should be a valid dictionary or instance of " ++ form
  | inconsistent reason => "Value error, " ++ reason

/-- The same fault in a value that stands under `step`. -/
def Fault.under (step : Step) (f : Fault) : Fault :=
  { f with place := step :: f.place }

/-! ### Checked values -/

/-- A valid value, or the faults that were found. -/
inductive Checked (α : Type) where
  | valid (value : α)
  | invalid (faults : List Fault)

namespace Checked

variable {α β : Type}

/-- The faults of a check. -/
def faults : Checked α → List Fault
  | valid _ => []
  | invalid fs => fs

/-- Applies a function to a valid value. -/
def map (f : α → β) : Checked α → Checked β
  | valid a => valid (f a)
  | invalid fs => invalid fs

/-- Both checks, with the faults of both. -/
def seq (f : Checked (α → β)) (x : Checked α) : Checked β :=
  match f, x with
  | valid f, valid a => valid (f a)
  | f, x => invalid (f.faults ++ x.faults)

instance : Applicative Checked where
  pure := valid
  map := map
  seq f x := seq f (x ())

/-- A second check of a valid value. -/
def andThen (x : Checked α) (f : α → Checked β) : Checked β :=
  match x with
  | valid a => f a
  | invalid fs => invalid fs

/-- The check of a value that stands under `step`. -/
def under (step : Step) : Checked α → Checked α
  | valid a => valid a
  | invalid fs => invalid (fs.map (·.under step))

/-- A check with one fault at the place that is checked. -/
def fault (kind : FaultKind) : Checked α :=
  invalid [⟨kind, []⟩]

/-- The checks of the items of a list from position `start` on, faults under their positions. -/
def items (check : Json → Checked α) (start : Nat) : List Json → Checked (List α)
  | [] => pure []
  | item :: rest =>
    (· :: ·) <$> (check item).under (.index start) <*> items check (start + 1) rest

/-- A check as a result or an error. -/
def toExcept : Checked α → Except (List Fault) α
  | valid a => .ok a
  | invalid fs => .error fs

@[simp] theorem faults_map (f : α → β) (x : Checked α) : (x.map f).faults = x.faults := by
  cases x <;> rfl

@[simp] theorem faults_seq (f : Checked (α → β)) (x : Checked α) :
    (f.seq x).faults = f.faults ++ x.faults := by
  cases f <;> cases x <;> simp [seq, faults]

theorem seq_eq_valid_iff {f : Checked (α → β)} {x : Checked α} {b : β} :
    f.seq x = valid b ↔ ∃ g a, f = valid g ∧ x = valid a ∧ g a = b := by
  cases f <;> cases x <;> simp [seq]

theorem ap_eq_valid_iff {f : Checked (α → β)} {x : Checked α} {b : β} :
    f <*> x = valid b ↔ ∃ g a, f = valid g ∧ x = valid a ∧ g a = b :=
  seq_eq_valid_iff

theorem map_eq_valid_iff {f : α → β} {x : Checked α} {b : β} :
    f <$> x = valid b ↔ ∃ a, x = valid a ∧ f a = b := by
  cases x <;> simp [Functor.map, map]

theorem andThen_eq_valid_iff {x : Checked α} {f : α → Checked β} {b : β} :
    x.andThen f = valid b ↔ ∃ a, x = valid a ∧ f a = valid b := by
  cases x <;> simp [andThen]

theorem under_eq_valid_iff {x : Checked α} {step : Step} {a : α} :
    x.under step = valid a ↔ x = valid a := by
  cases x <;> simp [under]

end Checked

/-! ### Checks of one field -/

namespace Check

/-- A string. -/
def string (value : Json) : Checked WideString :=
  match value.string? with
  | some s => .valid s
  | none => .fault .notString

/-- A string that is a text and not empty. -/
def nonEmptyText (value : Json) : Checked { s : String // s ≠ "" } :=
  match value.string? with
  | some (.text s) => if h : s = "" then .fault .emptyString else .valid ⟨s, h⟩
  | some (.broken _ _) => .fault .brokenString
  | none => .fault .notString

/-- A string or null. -/
def stringOrNull : Json → Checked (Option WideString)
  | .null => .valid none
  | value => some <$> string value

/-- One of the values with a name. -/
def oneOf {α : Type} (named : List (String × α)) (value : Json) : Checked α :=
  match value.string? with
  | some (.text s) =>
    match named.lookup s with
    | some a => .valid a
    | none => .fault (.notOneOf (named.map Prod.fst))
  | some (.broken _ _) => .fault .brokenString
  | none => .fault (.notOneOf (named.map Prod.fst))

/-- An object. -/
def object : Json → Checked Members
  | .obj members => .valid members
  | _ => .fault .notObject

/-- The field `name` of a record, which has to be there. -/
def required {α : Type} (members : Members) (name : String) (check : Json → Checked α) :
    Checked α :=
  match members.lookup name with
  | some value => (check value).under (.field name)
  | none => .invalid [⟨.missing, [.field name]⟩]

/-- The field `name` of a record; `absent` when it is not there. -/
def optional {α : Type} (members : Members) (name : String) (absent : α)
    (check : Json → Checked α) : Checked α :=
  match members.lookup name with
  | some value => (check value).under (.field name)
  | none => .valid absent

end Check

end OAuthRedirect
