import OAuthRedirect.RedirectTemplate

/-!
# When templates expand

A template that names only values somebody has is expanded by putting each value in the place
of its placeholder (`Template.filled`). Any other template is refused for the leftmost
placeholder without a value. The two cases are `Template.expand_eq_ok_iff` and
`Template.expand_eq_error_iff`, or `Template.expandWide_eq_ok_iff` and
`Template.expandWide_eq_error_iff` for templates that need not be texts.
-/

namespace OAuthRedirect.Template

/-- The name of a placeholder. -/
def Piece.name? : Piece → Option String
  | literal _ => none
  | placeholder name => some (String.ofList name)

/-- The names of the placeholders of a template, from the left. -/
def placeholders (template : String) : List String :=
  (pieces template.toList).filterMap Piece.name?

/-- A name without a value. -/
def isUnbound (bindings : List (String × String)) (name : String) : Bool :=
  (bindings.lookup name).isNone

/-- The leftmost placeholder without a value. -/
def firstUnbound? (bindings : List (String × String)) (template : String) : Option String :=
  (placeholders template).find? (isUnbound bindings)

/-- What stands in the place of a piece once the values are put in. -/
def Piece.fill (bindings : List (String × String)) : Piece → List Char
  | literal c => [c]
  | placeholder name => ((bindings.lookup (String.ofList name)).getD "").toList

/-- A template with the values in the places of its placeholders. -/
def filled (bindings : List (String × String)) (template : String) : String :=
  String.ofList ((pieces template.toList).flatMap (Piece.fill bindings))

theorem isUnbound_eq_not_contains (bindings : List (String × String)) (name : String) :
    isUnbound bindings name = !(bindings.map Prod.fst).contains name := by
  rw [isUnbound, Bool.eq_iff_iff, Option.isNone_iff_eq_none, List.lookup_eq_none_iff,
    Bool.not_eq_true', ← Bool.not_eq_true, List.contains_iff_mem, List.mem_map]
  constructor
  · rintro hall ⟨binding, hmem, rfl⟩
    simpa using hall binding hmem
  · intro hnone binding hmem
    have hne : name ≠ binding.1 := fun heq => hnone ⟨binding, hmem, heq.symm⟩
    simpa using hne

/-! ### Pieces -/

variable {bindings : List (String × String)}

theorem expandPieces_eq_ok {ps : List Piece}
    (h : (ps.filterMap Piece.name?).find? (isUnbound bindings) = none) :
    expandPieces bindings ps = .ok (ps.flatMap (Piece.fill bindings)) := by
  induction ps with
  | nil => rfl
  | cons piece rest ih =>
    cases piece with
    | literal c =>
      rw [expandPieces, ih h]
      rfl
    | placeholder name =>
      -- the first name has a value, and the rest decides about the rest
      have hnames : (String.ofList name :: rest.filterMap Piece.name?).find?
          (isUnbound bindings) = none := h
      cases hvalue : bindings.lookup (String.ofList name) with
      | none =>
        rw [List.find?_cons_of_pos (by simp [isUnbound, hvalue])] at hnames
        contradiction
      | some value =>
        rw [List.find?_cons_of_neg (by simp [isUnbound, hvalue])] at hnames
        have hfill : Piece.fill bindings (.placeholder name) = value.toList := by
          rw [Piece.fill, hvalue, Option.getD_some]
        rw [expandPieces, Piece.expand, hvalue, ih hnames, List.flatMap_cons, hfill]
        rfl

theorem expandPieces_eq_error {ps : List Piece} {name : String}
    (h : (ps.filterMap Piece.name?).find? (isUnbound bindings) = some name) :
    expandPieces bindings ps = .error name := by
  induction ps with
  | nil => contradiction
  | cons piece rest ih =>
    cases piece with
    | literal c =>
      rw [expandPieces, ih h]
      rfl
    | placeholder other =>
      -- the first name is the one without a value, or the rest holds it
      have hnames : (String.ofList other :: rest.filterMap Piece.name?).find?
          (isUnbound bindings) = some name := h
      rw [expandPieces, Piece.expand]
      cases hvalue : bindings.lookup (String.ofList other) with
      | none =>
        rw [List.find?_cons_of_pos (by simp [isUnbound, hvalue])] at hnames
        rw [Option.some_inj.mp hnames]
        rfl
      | some value =>
        rw [List.find?_cons_of_neg (by simp [isUnbound, hvalue])] at hnames
        rw [ih hnames]
        rfl

/-! ### Templates -/

variable {template : String}

theorem expand_eq_ok (h : firstUnbound? bindings template = none) :
    expand template bindings = .ok (filled bindings template) := by
  rw [expand, expandPieces_eq_ok h]
  rfl

theorem expand_eq_error {name : String} (h : firstUnbound? bindings template = some name) :
    expand template bindings = .error ⟨template, name⟩ := by
  rw [expand, expandPieces_eq_error h]

/-- **A template expands** when all its placeholders have values, and to nothing else than its
text with the values in it. -/
theorem expand_eq_ok_iff {uri : String} :
    expand template bindings = .ok uri ↔
      firstUnbound? bindings template = none ∧ uri = filled bindings template := by
  cases h : firstUnbound? bindings template with
  | none => simp [expand_eq_ok h, eq_comm]
  | some name => simp [expand_eq_error h]

/-- **A template is refused** for the leftmost placeholder without a value. -/
theorem expand_eq_error_iff {e : UnknownVariable} :
    expand template bindings = .error e ↔
      ∃ name, firstUnbound? bindings template = some name ∧ e = ⟨template, name⟩ := by
  cases h : firstUnbound? bindings template with
  | none => simp [expand_eq_ok h]
  | some name => simp [expand_eq_error h, eq_comm]

/-! ### Templates that need not be texts -/

variable {wide : WideString}

/-- The leftmost placeholder without a value, with what stands on either side of it. -/
theorem firstWideUnbound_iff {name : WideString} :
    ((widePlaceholders wide).find? fun name => (valueOf? bindings name).isNone) = some name ↔
      ∃ before after, widePlaceholders wide = before ++ name :: after ∧
        (∀ earlier ∈ before, valueOf? bindings earlier ≠ none) ∧ valueOf? bindings name = none := by
  rw [List.find?_eq_some_iff_append]
  constructor
  · rintro ⟨hname, before, after, hnames, hbefore⟩
    exact ⟨before, after, hnames, by simpa [Option.isSome_iff_ne_none] using hbefore,
      by simpa using hname⟩
  · rintro ⟨before, after, hnames, hbefore, hname⟩
    exact ⟨by simpa using hname, before, after, hnames,
      by simpa [Option.isSome_iff_ne_none] using hbefore⟩

/-- **A wide string expands** when all its placeholders have values. -/
theorem expandWide_eq_ok_iff {uri : WideString} :
    expandWide wide bindings = .ok uri ↔
      (∀ name ∈ widePlaceholders wide, valueOf? bindings name ≠ none) ∧
        uri = wideFilled bindings wide := by
  have hnone : (∀ name ∈ widePlaceholders wide, valueOf? bindings name ≠ none) ↔
      ((widePlaceholders wide).find? fun name => (valueOf? bindings name).isNone) = none := by
    simp
  rw [hnone, expandWide]
  split
  · rename_i hname
    simp [hname]
  · rename_i hname
    simp [hname, eq_comm]

/-- **A wide string is refused** for the leftmost placeholder without a value. -/
theorem expandWide_eq_error_iff {e : UnknownVariable WideString} :
    expandWide wide bindings = .error e ↔
      ∃ before name after, widePlaceholders wide = before ++ name :: after ∧
        (∀ earlier ∈ before, valueOf? bindings earlier ≠ none) ∧ valueOf? bindings name = none ∧
        e = ⟨wide, name⟩ := by
  have hfirst : expandWide wide bindings = .error e ↔
      ∃ name, ((widePlaceholders wide).find? fun name => (valueOf? bindings name).isNone) =
        some name ∧ e = ⟨wide, name⟩ := by
    rw [expandWide]
    split
    · rename_i hname
      simp [hname, eq_comm]
    · rename_i hname
      simp [hname]
  rw [hfirst]
  simp only [firstWideUnbound_iff]
  constructor
  · rintro ⟨name, ⟨before, after, hnames, hbefore, hname⟩, heq⟩
    exact ⟨before, name, after, hnames, hbefore, hname, heq⟩
  · rintro ⟨before, name, after, hnames, hbefore, hname, heq⟩
    exact ⟨name, ⟨before, after, hnames, hbefore, hname⟩, heq⟩

/-! ### Texts among the templates -/

/-- A piece of a text by its code points. -/
def Piece.codes : Piece → Piece Nat
  | literal c => .literal c.toNat
  | placeholder name => .placeholder (name.map Char.toNat)

theorem name?_codes (cs : List Char) :
    name? (cs.map Char.toNat) =
      (name? cs).map fun found => (found.1.map Char.toNat, found.2.map Char.toNat) := by
  induction cs with
  | nil => rfl
  | cons c cs ih =>
    have hclose : c.toNat = closeBrace ↔ c = closeBrace := Char.toNat_inj (d := '\x7d')
    have hopen : c.toNat = openBrace ↔ c = openBrace := Char.toNat_inj (d := '\x7b')
    rw [List.map_cons, name?, name?, ih]
    by_cases h : c = closeBrace
    · rw [if_pos h, if_pos (hclose.mpr h)]
      rfl
    · rw [if_neg h, if_neg (mt hclose.mp h)]
      by_cases h' : c = openBrace
      · rw [if_pos h', if_pos (hopen.mpr h')]
        rfl
      · rw [if_neg h', if_neg (mt hopen.mp h')]
        cases name? cs <;> rfl

section Scanning

variable {α : Type} [DecidableEq α] [Alphabet α] {cs : List α}

theorem pieces_of_name?_eq_some {found : List α × List α} (h : name? cs = some found) :
    pieces (openBrace :: cs) = .placeholder found.1 :: pieces found.2 := by
  rw [pieces, if_pos rfl]
  split
  · rename_i other hother
    obtain rfl := Option.some_inj.mp (h.symm.trans hother)
    rfl
  · rename_i hnone
    rw [h] at hnone
    contradiction

theorem pieces_of_name?_eq_none (h : name? cs = none) :
    pieces (openBrace :: cs) = .literal openBrace :: pieces cs := by
  rw [pieces, if_pos rfl]
  split
  · rename_i found hfound
    rw [h] at hfound
    contradiction
  · rfl

theorem pieces_of_ne_openBrace {c : α} (h : c ≠ openBrace) :
    pieces (c :: cs) = .literal c :: pieces cs := by
  rw [pieces, if_neg h]

/-- After an opening brace stand a name and a closing brace. -/
theorem eq_append_of_name? {found : List α × List α} (h : name? cs = some found) :
    cs = found.1 ++ closeBrace :: found.2 := by
  fun_induction name? cs generalizing found with
  | case1 => contradiction
  | case2 cs =>
    obtain rfl := Option.some_inj.mp h
    rfl
  | case3 => contradiction
  | case4 c cs hclose hopen ih =>
    obtain ⟨inner, hinner, rfl⟩ := Option.map_eq_some_iff.mp h
    exact congrArg (c :: ·) (ih hinner)

/-- A placeholder is written in what the template is written in. -/
theorem mem_of_mem_placeholder {name : List α} {c : α} (hname : .placeholder name ∈ pieces cs)
    (hc : c ∈ name) : c ∈ cs := by
  fun_induction pieces cs with
  | case1 => contradiction
  | case2 cs found hfound ih =>
    rw [eq_append_of_name? hfound]
    obtain heq | hrest := List.mem_cons.mp hname
    · obtain rfl := Piece.placeholder.inj heq
      exact List.mem_cons_of_mem _ (List.mem_append_left _ hc)
    · exact List.mem_cons_of_mem _ (List.mem_append_right _ (List.mem_cons_of_mem _ (ih hrest)))
  | case3 cs _ ih =>
    exact List.mem_cons_of_mem _ (ih ((List.mem_cons.mp hname).resolve_left (by simp)))
  | case4 d cs _ ih =>
    exact List.mem_cons_of_mem _ (ih ((List.mem_cons.mp hname).resolve_left (by simp)))

end Scanning

/-- A text is scanned by its code points as by its characters. -/
theorem pieces_codes (cs : List Char) :
    pieces (cs.map Char.toNat) = (pieces cs).map Piece.codes := by
  have hbrace : (openBrace : Char).toNat = openBrace := rfl
  fun_induction pieces cs with
  | case1 => rw [List.map_nil, pieces, List.map_nil]
  | case2 cs found hname ih =>
    have hcodes : name? (cs.map Char.toNat) =
        some (found.1.map Char.toNat, found.2.map Char.toNat) := by
      rw [name?_codes, hname, Option.map_some]
    rw [List.map_cons, hbrace, pieces_of_name?_eq_some hcodes, ih, List.map_cons, Piece.codes]
  | case3 cs hname ih =>
    have hcodes : name? (cs.map Char.toNat) = none := by rw [name?_codes, hname, Option.map_none]
    rw [List.map_cons, hbrace, pieces_of_name?_eq_none hcodes, ih, List.map_cons, Piece.codes,
      hbrace]
  | case4 c cs hc ih =>
    have hcode : c.toNat ≠ openBrace := mt (Char.toNat_inj (d := '\x7b')).mp hc
    rw [List.map_cons, pieces_of_ne_openBrace hcode, ih, List.map_cons, Piece.codes]

theorem widePlaceholders_text (template : String) :
    widePlaceholders ↑template = (placeholders template).map .text := by
  rw [widePlaceholders, WideString.codes, pieces_codes, List.filterMap_map, placeholders,
    List.map_filterMap]
  congr 1
  funext piece
  cases piece with
  | literal c => rfl
  | placeholder name => exact congrArg some (WideString.ofCodes_toNat name)

theorem wideFilled_text (template : String) :
    wideFilled bindings ↑template = ↑(filled bindings template) := by
  have hfill : ∀ piece : Piece,
      piece.codes.wideFill bindings = (piece.fill bindings).map Char.toNat := by
    rintro (c | name)
    · rfl
    · rw [Piece.codes, Piece.wideFill, WideString.ofCodes_toNat, Piece.fill]
      rfl
  rw [wideFilled, WideString.codes, pieces_codes, List.flatMap_map]
  simp only [hfill]
  rw [← List.map_flatMap, WideString.ofCodes_toNat, filled]

/-- **A text expands as a wide string** as it does as a text, or is refused for the same name. -/
theorem expandWide_text (template : String) :
    expandWide ↑template bindings =
      ((expand template bindings).map WideString.text).mapError fun e =>
        ⟨↑e.template, ↑e.variableName⟩ := by
  have hfirst : ((widePlaceholders ↑template).find? fun name => (valueOf? bindings name).isNone) =
      (firstUnbound? bindings template).map .text := by
    rw [widePlaceholders_text, List.find?_map, firstUnbound?]
    rfl
  rw [expandWide, hfirst]
  cases h : firstUnbound? bindings template with
  | none =>
    rw [expand_eq_ok h]
    exact congrArg Except.ok (wideFilled_text template)
  | some name =>
    rw [expand_eq_error h]
    rfl

end OAuthRedirect.Template
