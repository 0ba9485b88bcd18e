import OAuthRedirect.Json.Basic
import OAuthRedirect.Text.Quoted
import OAuthRedirect.Text.Split

/-!
# Wide strings

A string from outside is a list of code points, and some of them may be surrogates without a
partner. Such a string is **broken**: it can be compared, cut and joined like any other, but it is
no text and has no encoding. A wide string is a text or a broken string, and which of the two is
decided by its code points (`WideString.ofCodes_codes`).
-/

namespace OAuthRedirect

/-- A string of code points: a text, or code points with a surrogate among them. -/
inductive WideString where
  | text (s : String)
  | broken (codes : List Nat) (h : codes.any Json.isSurrogate = true)
  deriving DecidableEq, Repr

namespace WideString

instance : Coe String WideString := ⟨text⟩

instance : Inhabited WideString := ⟨text ""⟩

/-- The code points. -/
def codes : WideString → List Nat
  | text s => s.toList.map Char.toNat
  | broken codes _ => codes

/-- The string of some code points. -/
def ofCodes (codes : List Nat) : WideString :=
  if h : codes.any Json.isSurrogate = true then broken codes h
  else text (String.ofList (codes.map Char.ofNat))

/-- The text that a string is. -/
def text? : WideString → Option String
  | text s => some s
  | broken _ _ => none

/-- A string as a value. -/
def toJson : WideString → Json
  | text s => .str s
  | broken codes _ => .broken codes

/-! ### Code points -/

theorem ofCodes_of_text {cs : List Nat} (h : cs.any Json.isSurrogate = false) :
    ofCodes cs = text (String.ofList (cs.map Char.ofNat)) := by
  rw [ofCodes, dif_neg (by simp [h])]

theorem ofCodes_of_surrogate {cs : List Nat} (h : cs.any Json.isSurrogate = true) :
    ofCodes cs = broken cs h :=
  dif_pos h

theorem any_isSurrogate_toNat (cs : List Char) :
    (cs.map Char.toNat).any Json.isSurrogate = false := by
  rw [List.any_map, List.any_eq_false]
  intro c _
  simp [Json.isSurrogate_toNat]

theorem ofCodes_toNat (cs : List Char) : ofCodes (cs.map Char.toNat) = text (String.ofList cs) := by
  rw [ofCodes_of_text (any_isSurrogate_toNat cs), List.map_map]
  congr 2
  exact (List.map_congr_left fun c _ => Char.ofNat_toNat c).trans (List.map_id _)

/-- **A string is that of its code points.** -/
theorem ofCodes_codes (w : WideString) : ofCodes w.codes = w := by
  cases w with
  | text s => rw [codes, ofCodes_toNat, String.ofList_toList]
  | broken cs h => exact ofCodes_of_surrogate h

theorem codes_injective {v w : WideString} (h : v.codes = w.codes) : v = w := by
  rw [← ofCodes_codes v, h, ofCodes_codes]

/-! ### Strings that may be absent -/

theorem getD_map_text (value : Option String) :
    (value.map text).getD default = text (value.getD default) := by
  cases value <;> rfl

theorem getD_map_text_eq_default_iff {value : Option String} :
    (value.map text).getD default = default ↔ value.getD default = default := by
  rw [getD_map_text]
  exact ⟨text.inj, congrArg text⟩

/-! ### Order -/

/-- Strings are ordered by their code points. -/
instance : LT WideString := ⟨fun v w => v.codes < w.codes⟩

instance (v w : WideString) : Decidable (v < w) :=
  inferInstanceAs (Decidable (v.codes < w.codes))

instance : Std.Trichotomous (α := WideString) (· < ·) where
  trichotomous v w hlt hgt :=
    codes_injective (Std.Trichotomous.trichotomous (r := (· < ·)) v.codes w.codes hlt hgt)

instance : Trans (α := WideString) (· < ·) (· < ·) (· < ·) where
  trans {_ _ _} h h' := List.lt_trans h h'

/-- Texts are ordered as texts. -/
theorem text_lt_text_iff {s t : String} : text s < text t ↔ s < t := by
  have hmono {s t : String} (h : s < t) : text s < text t := List.map_lt (fun _ _ hlt => hlt) h
  refine ⟨fun h => ?_, hmono⟩
  rcases Std.lt_trichotomy s t with hlt | rfl | hgt
  · exact hlt
  · exact absurd h (List.lt_irrefl _)
  · exact absurd h (List.lt_asymm (hmono hgt))

/-! ### Joining -/

instance : Append WideString := ⟨fun v w => ofCodes (v.codes ++ w.codes)⟩

/-- Strings with a text between them. -/
def join (sep : String) (strings : List WideString) : WideString :=
  ofCodes ((sep.toList.map Char.toNat).intercalate (strings.map codes))

theorem text_append (s t : String) : text s ++ text t = text (s ++ t) := by
  change ofCodes (s.toList.map Char.toNat ++ t.toList.map Char.toNat) = _
  rw [← List.map_append, ofCodes_toNat, String.ofList_append, String.ofList_toList,
    String.ofList_toList]

theorem join_text (sep : String) (texts : List String) :
    join sep (texts.map text) = text (sep.intercalate texts) := by
  have hcodes : (texts.map text).map codes =
      (texts.map String.toList).map (List.map Char.toNat) := by
    rw [List.map_map, List.map_map]
    rfl
  rw [join, hcodes, ← Text.map_intercalate, ← String.toList_intercalate, ofCodes_toNat,
    String.ofList_toList]

/-! ### Encoding -/

/-- The first run of surrogates in a string that has to be a text. -/
structure EncodeError where
  /-- The first surrogate of the run. -/
  code : Nat
  position : Nat
  length : Nat
  deriving DecidableEq, Repr

/-- The message on a string that is no text. -/
def EncodeError.message (e : EncodeError) : String :=
  Text.encodingMessage "utf-8" e.code e.position e.length "surrogates not allowed"

/-- The first run of surrogates among some code points. -/
def firstSurrogates (cs : List Nat) : EncodeError where
  code := (cs.find? Json.isSurrogate).getD 0
  position := (cs.takeWhile (!Json.isSurrogate ·)).length
  length := ((cs.dropWhile (!Json.isSurrogate ·)).takeWhile Json.isSurrogate).length

/-- The text to encode; a broken string has none. -/
def toText : WideString → Except EncodeError String
  | text s => .ok s
  | broken codes _ => .error (firstSurrogates codes)

end WideString

/-- The string that a value is. -/
def Json.string? : Json → Option WideString
  | str s => some (.text s)
  | broken codes => some (.ofCodes codes)
  | _ => none

theorem Json.string?_toJson (w : WideString) : w.toJson.string? = some w := by
  cases w with
  | text s => rfl
  | broken codes h => exact congrArg some (WideString.ofCodes_of_surrogate h)

end OAuthRedirect
