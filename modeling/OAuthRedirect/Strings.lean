import OAuthRedirect.Json.Display
import OAuthRedirect.RedirectTemplate
import OAuthRedirect.Scopes

/-!
# Strings of either kind

A registration is written in texts or in wide strings, and a request is resolved in the same way
for both. `Strings` collects what is done with the strings on the way: they are shown, joined, and
expanded where they are templates.
-/

namespace OAuthRedirect

/-- What is done with strings of a kind. -/
class Strings (τ : Type) where
  /-- A text as a string. -/
  ofText : String → τ
  /-- A string as a value. -/
  toJson : τ → Json
  /-- A value on its own. -/
  shown : Json → τ
  /-- Strings with single spaces between them. -/
  spaced : List τ → τ
  /-- The expansion of a template. -/
  expand : τ → List (String × String) → Except (Template.UnknownVariable τ) τ
  /-- What is said about a template that names a value nobody has. -/
  unknownVariable : Template.UnknownVariable τ → τ
  /-- A text is shown as it is. -/
  shown_str : ∀ s : String, shown (.str s) = ofText s
  toJson_ofText : ∀ s : String, toJson (ofText s) = .str s

instance : Strings String where
  ofText s := s
  toJson := .str
  shown := Json.display
  spaced := " ".intercalate
  expand := Template.expand
  unknownVariable := Template.UnknownVariable.message
  shown_str _ := rfl
  toJson_ofText _ := rfl

instance : Strings WideString where
  ofText := .text
  toJson := WideString.toJson
  shown := Json.shown
  spaced := .join " "
  expand := Template.expandWide
  unknownVariable := Template.UnknownVariable.wideMessage
  shown_str _ := rfl
  toJson_ofText _ := rfl

namespace Strings

@[simp] theorem ofText_string (s : String) : (ofText s : String) = s := rfl

@[simp] theorem toJson_string (s : String) : toJson s = .str s := rfl

@[simp] theorem shown_string (value : Json) : (shown value : String) = value.display := rfl

@[simp] theorem spaced_string (names : List String) : spaced names = " ".intercalate names := rfl

/-- A text that is shown is read as that text. -/
theorem toJson_shown_str {τ : Type} [Strings τ] (s : String) :
    toJson (shown (.str s) : τ) = .str s := by
  rw [shown_str, toJson_ofText]

/-- A string that may be absent, as null when it is. -/
def orNull {τ : Type} [Strings τ] : Option τ → Json
  | some s => toJson s
  | none => .null

end Strings

end OAuthRedirect
