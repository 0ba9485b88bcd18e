import OAuthRedirect.Json.Display
import OAuthRedirect.Json.Writer
import OAuthRedirect.Proofs.Text.Lines

/-!
# What surrogates do to a string

Putting strings together keeps their surrogates, and so does writing them as JSON. What is put
together is a text exactly when all its parts are (`WideString.isBroken_append`,
`WideString.isBroken_join`), and a document that holds a broken string is none
(`WideString.any_isSurrogate_compactCodes`).

Lines are counted by the line feeds among the code points. Strings that are joined by line feeds
make as many lines as there are strings exactly when each of them is on one line
(`WideString.lineCount_join_iff`).
-/

namespace OAuthRedirect

/-! ### Lists between separators -/

theorem any_intercalate {α : Type} (p : α → Bool) {sep : List α} (hsep : sep.any p = false)
    (pieces : List (List α)) : (sep.intercalate pieces).any p = pieces.any (List.any · p) := by
  induction pieces with
  | nil => rfl
  | cons piece rest ih =>
    cases rest with
    | nil => simp
    | cons next rest =>
      rw [List.intercalate_cons_cons, List.any_append, List.any_append, ih, hsep, Bool.or_false]
      rfl

namespace WideString

/-! ### Broken strings -/

/-- Is a string no text? -/
def isBroken : WideString → Bool
  | text _ => false
  | broken _ _ => true

theorem isBroken_eq_false_iff {w : WideString} : w.isBroken = false ↔ ∃ s, w = text s := by
  cases w <;> simp [isBroken]

/-- A broken string has no encoding. -/
theorem toText_of_isBroken {w : WideString} (h : w.isBroken = true) : ∃ e, w.toText = .error e := by
  cases w with
  | text s => contradiction
  | broken codes hcodes => exact ⟨_, rfl⟩

theorem any_isSurrogate_codes (w : WideString) : w.codes.any Json.isSurrogate = w.isBroken := by
  cases w with
  | text s => exact any_isSurrogate_toNat s.toList
  | broken codes h => exact h

theorem isBroken_ofCodes (cs : List Nat) : (ofCodes cs).isBroken = cs.any Json.isSurrogate := by
  cases h : cs.any Json.isSurrogate with
  | true => rw [ofCodes_of_surrogate h, isBroken]
  | false => rw [ofCodes_of_text h, isBroken]

/-- Two strings make a text when both are texts. -/
theorem isBroken_append (v w : WideString) : (v ++ w).isBroken = (v.isBroken || w.isBroken) := by
  change (ofCodes (v.codes ++ w.codes)).isBroken = _
  rw [isBroken_ofCodes, List.any_append, any_isSurrogate_codes, any_isSurrogate_codes]

/-- Strings with a text between them make a text when all of them are texts. -/
theorem isBroken_join (sep : String) (strings : List WideString) :
    (join sep strings).isBroken = strings.any isBroken := by
  rw [join, isBroken_ofCodes, any_intercalate _ (any_isSurrogate_toNat sep.toList), List.any_map]
  congr 1
  funext w
  exact any_isSurrogate_codes w

/-- Strings are texts when none of them is broken. -/
theorem any_isBroken_eq_false_iff {strings : List WideString} :
    strings.any isBroken = false ↔ ∃ texts : List String, strings = texts.map text := by
  constructor
  · intro h
    induction strings with
    | nil => exact ⟨[], rfl⟩
    | cons w rest ih =>
      rw [List.any_cons, Bool.or_eq_false_iff] at h
      obtain ⟨s, rfl⟩ := isBroken_eq_false_iff.mp h.1
      obtain ⟨texts, rfl⟩ := ih h.2
      exact ⟨s :: texts, rfl⟩
  · rintro ⟨texts, rfl⟩
    simp [isBroken]

/-! ### Code points of what is put together -/

theorem codes_join (sep : String) (strings : List WideString) :
    (join sep strings).codes = (sep.toList.map Char.toNat).intercalate (strings.map codes) := by
  cases h : strings.any isBroken with
  | true =>
    rw [← isBroken_join sep, join, isBroken_ofCodes] at h
    rw [join, ofCodes_of_surrogate h, codes]
  | false =>
    obtain ⟨texts, rfl⟩ := any_isBroken_eq_false_iff.mp h
    have hcodes : (texts.map text).map codes =
        (texts.map String.toList).map (List.map Char.toNat) := by
      rw [List.map_map, List.map_map]
      rfl
    rw [join_text, codes, String.toList_intercalate, Text.map_intercalate, hcodes]

theorem codes_append (v w : WideString) : (v ++ w).codes = v.codes ++ w.codes := by
  cases h : (v ++ w).isBroken with
  | true =>
    change (ofCodes (v.codes ++ w.codes)).isBroken = true at h
    rw [isBroken_ofCodes] at h
    change (ofCodes (v.codes ++ w.codes)).codes = _
    rw [ofCodes_of_surrogate h, codes]
  | false =>
    rw [isBroken_append, Bool.or_eq_false_iff] at h
    obtain ⟨s, rfl⟩ := isBroken_eq_false_iff.mp h.1
    obtain ⟨t, rfl⟩ := isBroken_eq_false_iff.mp h.2
    rw [text_append, codes, codes, codes, String.toList_append, List.map_append]

/-- A string has no code points but those it is made from, and the one of what is none. -/
theorem mem_of_mem_codes_ofCodes {cs : List Nat} {code : Nat} (hne : code ≠ 0)
    (h : code ∈ (ofCodes cs).codes) : code ∈ cs := by
  cases hsurrogate : cs.any Json.isSurrogate with
  | true => rwa [ofCodes_of_surrogate hsurrogate] at h
  | false =>
    rw [ofCodes_of_text hsurrogate, codes, String.toList_ofList, List.map_map] at h
    obtain ⟨c, hc, rfl⟩ := List.mem_map.mp h
    rw [Function.comp_apply] at hne ⊢
    rwa [← Text.eq_of_ofNat_eq rfl hne]

/-- A string in a document has a surrogate there when it is no text. -/
theorem any_isSurrogate_compactCodes (w : WideString) :
    w.toJson.compactCodes.any Json.isSurrogate = w.isBroken := by
  cases w with
  | text s =>
    rw [toJson, Json.compactCodes_str, any_isSurrogate_toNat, isBroken]
  | broken codes h =>
    have hcodes : (codes.flatMap Json.compactCode).any Json.isSurrogate = true := by
      obtain ⟨code, hcode, hsurrogate⟩ := List.any_eq_true.mp h
      refine List.any_eq_true.mpr ⟨code, List.mem_flatMap.mpr ⟨code, hcode, ?_⟩, hsurrogate⟩
      rw [Json.compactCode, if_pos hsurrogate]
      exact List.mem_singleton_self code
    rw [toJson, Json.compactCodes, List.any_append, List.any_cons, hcodes]
    simp [isBroken]

/-! ### Strings as values -/

theorem toJson_ofCodes (cs : List Nat) : (ofCodes cs).toJson = Json.ofCodes cs := by
  cases h : cs.any Json.isSurrogate with
  | true => rw [ofCodes_of_surrogate h, Json.ofCodes_of_surrogate h, toJson]
  | false => rw [ofCodes_of_text h, Json.ofCodes_of_text h, toJson]

/-- A string is shown as it is. -/
theorem shown_toJson (w : WideString) : w.toJson.shown = w := by
  cases w with
  | text s => rfl
  | broken codes h => exact ofCodes_of_surrogate h

theorem shown_ofCodes (cs : List Nat) : (Json.ofCodes cs).shown = ofCodes cs := by
  rw [← toJson_ofCodes, shown_toJson]

/-! ### Lines -/

/-- The code point of the line feed. -/
def lineFeed : Nat := 10

/-- A string without a line feed. -/
def OneLine (w : WideString) : Prop :=
  lineFeed ∉ w.codes

instance (w : WideString) : Decidable w.OneLine :=
  inferInstanceAs (Decidable (lineFeed ∉ w.codes))

/-- The number of lines of a string that is split at its line feeds. -/
def lineCount (w : WideString) : Nat :=
  (w.codes.splitOn lineFeed).length

@[simp]
theorem oneLine_text_iff {s : String} : (text s).OneLine ↔ Text.OneLine s := by
  have hfeed : lineFeed = '\n'.toNat := rfl
  simp only [OneLine, codes, hfeed, List.mem_map, Char.toNat_inj, exists_eq_right, Text.OneLine]

@[simp]
theorem oneLine_append_iff {v w : WideString} : (v ++ w).OneLine ↔ v.OneLine ∧ w.OneLine := by
  rw [OneLine, codes_append, List.mem_append, not_or, OneLine, OneLine]

theorem oneLine_ofCodes_iff {cs : List Nat} : (ofCodes cs).OneLine ↔ lineFeed ∉ cs := by
  refine not_congr ⟨mem_of_mem_codes_ofCodes (by decide), fun h => ?_⟩
  cases hsurrogate : cs.any Json.isSurrogate with
  | true => rwa [ofCodes_of_surrogate hsurrogate, codes]
  | false =>
    rw [ofCodes_of_text hsurrogate, codes, String.toList_ofList, List.map_map]
    exact List.mem_map.mpr ⟨lineFeed, h, rfl⟩

/-- **Strings that are joined** are as many lines exactly when each of them is on one line. -/
theorem lineCount_join_iff {strings : List WideString} (hne : strings ≠ []) :
    (join "\n" strings).lineCount = strings.length ↔ ∀ w ∈ strings, w.OneLine := by
  have hpieces : strings.map codes ≠ [] := by simpa using hne
  have hcount := Text.length_splitOn_intercalate_iff lineFeed hpieces
  rw [List.length_map, List.forall_mem_map] at hcount
  rw [lineCount, codes_join]
  exact hcount

end WideString

end OAuthRedirect
