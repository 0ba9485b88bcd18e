import OAuthRedirect.WideString

/-!
# Redirect URI templates

A template is a text with placeholders: a name between braces, where the name holds no brace
and may be empty. `Template.pieces` scans it from the left, so that braces which do not
enclose such a name are ordinary text. `Template.expand` puts values in the places of the
placeholders; the values are not scanned again.

The template of a registration need not be a text. It is scanned in the same way then, by its code
points, and a name with a surrogate is one that nobody has a value for (`Template.expandWide`).
-/

namespace OAuthRedirect.Template

/-! ### Scanning -/

/-- What templates are written in: characters, or code points where a template is no text. -/
class Alphabet (α : Type) where
  openBrace : α
  closeBrace : α

export Alphabet (openBrace closeBrace)

instance : Alphabet Char := ⟨'\x7b', '\x7d'⟩

instance : Alphabet Nat := ⟨0x7b, 0x7d⟩

/-- A piece of a template. -/
inductive Piece (α : Type := Char) where
  /-- A character that stands for itself. -/
  | literal (c : α)
  /-- The place of the value of a name. -/
  | placeholder (name : List α)
  deriving DecidableEq, Repr

section Scanning

variable {α : Type} [DecidableEq α] [Alphabet α]

/-- After an opening brace: the name up to the closing brace, and the text after it, when no
brace comes before that. -/
def name? : List α → Option (List α × List α)
  | [] => none
  | c :: cs =>
    if c = closeBrace then some ([], cs)
    else if c = openBrace then none
    else (name? cs).map fun found => (c :: found.1, found.2)

theorem length_of_name? {cs : List α} {found : List α × List α}
    (h : name? cs = some found) : found.2.length < cs.length := by
  induction cs generalizing found with
  | nil => simp [name?] at h
  | cons c cs ih =>
    rw [name?] at h
    split at h
    · injection h with h
      simp [← h]
    · split at h
      · contradiction
      · obtain ⟨inner, hi, rfl⟩ := Option.map_eq_some_iff.1 h
        have := ih hi
        simp only [List.length_cons]
        omega

/-- The pieces of a template, from the left. -/
def pieces : List α → List (Piece α)
  | [] => []
  | c :: cs =>
    if c = openBrace then
      match _h : name? cs with
      | some found => .placeholder found.1 :: pieces found.2
      | none => .literal c :: pieces cs
    else .literal c :: pieces cs
termination_by cs => cs.length
decreasing_by
  · have := length_of_name? _h
    simp only [List.length_cons]
    omega
  · simp
  · simp

end Scanning

/-! ### Expanding -/

/-- What a piece is replaced by; a name without a value is an error. -/
def Piece.expand (bindings : List (String × String)) : Piece → Except String (List Char)
  | literal c => .ok [c]
  | placeholder name =>
    match bindings.lookup (String.ofList name) with
    | some value => .ok value.toList
    | none => .error (String.ofList name)

/-- The expansions of some pieces, one after another; the first name without a value is an
error. -/
def expandPieces (bindings : List (String × String)) : List Piece → Except String (List Char)
  | [] => .ok []
  | piece :: rest => do
    let front ← piece.expand bindings
    let back ← expandPieces bindings rest
    pure (front ++ back)

/-- A template that names a value nobody has. -/
structure UnknownVariable (τ : Type := String) where
  template : τ
  variableName : τ
  deriving DecidableEq, Repr

/-- What the error says. -/
def UnknownVariable.message (e : UnknownVariable) : String :=
  "Redirect URI template '" ++ e.template ++ "' references unknown variable '" ++ e.variableName
    ++ "'"

/-- Expands a template. -/
def expand (template : String) (bindings : List (String × String)) :
    Except UnknownVariable String :=
  match expandPieces bindings (pieces template.toList) with
  | .ok cs => .ok (String.ofList cs)
  | .error name => .error ⟨template, name⟩

/-! ### Expanding templates that need not be texts -/

/-- What the error says. -/
def UnknownVariable.wideMessage (e : UnknownVariable WideString) : WideString :=
  .text "Redirect URI template '" ++ e.template ++ .text "' references unknown variable '"
    ++ e.variableName ++ .text "'"

/-- The name of a placeholder. -/
def Piece.wideName? : Piece Nat → Option WideString
  | literal _ => none
  | placeholder name => some (.ofCodes name)

/-- The names of the placeholders of a template, from the left. -/
def widePlaceholders (template : WideString) : List WideString :=
  (pieces template.codes).filterMap Piece.wideName?

/-- The value of a name. Names with values are texts. -/
def valueOf? (bindings : List (String × String)) (name : WideString) : Option String :=
  name.text?.bind (bindings.lookup ·)

/-- What stands in the place of a piece once the values are put in. -/
def Piece.wideFill (bindings : List (String × String)) : Piece Nat → List Nat
  | literal code => [code]
  | placeholder name => ((valueOf? bindings (.ofCodes name)).getD "").toList.map Char.toNat

/-- A template with the values in the places of its placeholders. -/
def wideFilled (bindings : List (String × String)) (template : WideString) : WideString :=
  .ofCodes ((pieces template.codes).flatMap (Piece.wideFill bindings))

/-- Expands a template; the leftmost name without a value is an error. -/
def expandWide (template : WideString) (bindings : List (String × String)) :
    Except (UnknownVariable WideString) WideString :=
  match (widePlaceholders template).find? fun name => (valueOf? bindings name).isNone with
  | some name => .error ⟨template, name⟩
  | none => .ok (wideFilled bindings template)

/-! ### The usual template -/

/-- The template that is used when a registration has none of its own. -/
def standard : String := "\x7bbaseUrl\x7d/\x7baction\x7d/oauth2/code/\x7bregistrationId\x7d"

end OAuthRedirect.Template
