import OAuthRedirect.Text.Blank
import OAuthRedirect.Validation

/-!
# Sets of scopes

A set of scopes is a list of names in strictly increasing order by code points, so that equal
sets are equal values and the text that is sent, the names with single spaces between them, is
canonical. `mem_ofList` says that `ofList` neither adds nor loses a name.

The names are texts, or wide strings where they come from data. A set of texts is a set of wide
strings as well (`Scopes.widen`).
-/

namespace OAuthRedirect

-- the order of texts, by name: a set of texts is the same value whatever other orders are in scope
instance instTrichotomousString : Std.Trichotomous (α := String) (· < ·) where
  trichotomous _ _ hlt hgt := String.le_antisymm hgt hlt

instance instTransString : Trans (α := String) (· < ·) (· < ·) (· < ·) where
  trans h h' := String.lt_trans h h'

/-- A set of scope names. -/
structure Scopes (τ : Type := String) [LT τ] where
  names : List τ
  increasing : names.Pairwise (· < ·)
  deriving DecidableEq

namespace Scopes

section Sets

variable {τ : Type} [LT τ] [DecidableLT τ] [DecidableEq τ]

/-- Puts a name into its place in an increasing list. -/
def insertName (name : τ) : List τ → List τ
  | [] => [name]
  | head :: rest =>
    if name < head then name :: head :: rest
    else if name = head then head :: rest
    else head :: insertName name rest

theorem mem_insertName {name other : τ} {names : List τ} :
    other ∈ insertName name names ↔ other = name ∨ other ∈ names := by
  induction names with
  | nil => simp [insertName]
  | cons head rest ih =>
    rw [insertName]
    split
    · simp
    · split
      · rename_i h
        simp [h]
      · simp only [List.mem_cons, ih]
        exact or_left_comm

variable [Std.Trichotomous (α := τ) (· < ·)] [Trans (α := τ) (· < ·) (· < ·) (· < ·)]

theorem pairwise_insertName {name : τ} {names : List τ}
    (h : names.Pairwise (· < ·)) : (insertName name names).Pairwise (· < ·) := by
  induction names with
  | nil => simp [insertName]
  | cons head rest ih =>
    rw [List.pairwise_cons] at h
    rw [insertName]
    split
    · rename_i hlt
      refine List.pairwise_cons.2 ⟨fun other hm => ?_, List.pairwise_cons.2 h⟩
      obtain rfl | hm := List.mem_cons.1 hm
      · exact hlt
      · exact Trans.trans hlt (h.1 other hm)
    · split
      · exact List.pairwise_cons.2 h
      · rename_i hnlt hne
        refine List.pairwise_cons.2 ⟨fun other hm => ?_, ih h.2⟩
        obtain rfl | hm := mem_insertName.1 hm
        · exact (Std.lt_trichotomy other head).resolve_left hnlt |>.resolve_left hne
        · exact h.1 other hm

/-- A set with one more name. -/
def insert (name : τ) (s : Scopes τ) : Scopes τ :=
  ⟨insertName name s.names, pairwise_insertName s.increasing⟩

/-- The set without a name. -/
def empty : Scopes τ := ⟨[], .nil⟩

/-- The set of the names in a list. -/
def ofList (names : List τ) : Scopes τ :=
  names.foldr insert empty

theorem mem_ofList {name : τ} {names : List τ} :
    name ∈ (ofList names).names ↔ name ∈ names := by
  induction names with
  | nil => simp [ofList, empty]
  | cons head rest ih =>
    simp only [ofList, List.foldr_cons, insert, mem_insertName, List.mem_cons]
    exact or_congr Iff.rfl ih

end Sets

/-! ### Wide names -/

/-- A set of texts as one of wide strings. -/
def widen (s : Scopes) : Scopes WideString where
  names := s.names.map .text
  increasing := List.pairwise_map.2 (s.increasing.imp WideString.text_lt_text_iff.2)

/-! ### Data -/

/-- Is a character one that separates scopes in a text: white space or a comma? -/
def separates (c : Char) : Bool :=
  c == ',' || Text.isBlank c

/-- Is a code point one that separates scopes? Surrogates do not. -/
def separatesCode (code : Nat) : Bool :=
  !Json.isSurrogate code && separates (Char.ofNat code)

/-- The runs of a string between separators. -/
def runs (written : WideString) : List WideString :=
  (Text.runs separatesCode written.codes).map .ofCodes

/-- The scopes of a list of strings. -/
def checkList : Json → Checked (Scopes WideString)
  | .arr items => (ofList ·) <$> Checked.items Check.string 0 items
  | _ => .fault .notSet

/-- The scopes of a list of strings, or of one string in which white space and commas separate
them. -/
def check (value : Json) : Checked (Scopes WideString) :=
  match value.string? with
  | some written => .valid (ofList (runs written))
  | none => checkList value

end Scopes

end OAuthRedirect
