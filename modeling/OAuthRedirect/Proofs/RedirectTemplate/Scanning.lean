import OAuthRedirect.Proofs.RedirectTemplate

/-!
# How templates are scanned

A placeholder is a name between braces that holds no brace itself. A template is scanned by
taking its leftmost placeholder, then the leftmost one of the text behind that, and so on until
no placeholder is left (`Template.Scan`). This says nothing about how placeholders are found.
`scan_iff` says that there is one way to scan a template, and that `Template.pieces` finds it;
`expand_iff_scan` says what expansion makes of the template scanned in that way. Characters and code
points are scanned alike, so that this holds for templates that need not be texts as well.
-/

namespace OAuthRedirect.Template

section Alphabets

variable {α : Type} [Alphabet α]

/-! ### Placeholders in a text -/

/-- A name that a placeholder may have: no brace stands in it. -/
def IsName (name : List α) : Prop :=
  openBrace ∉ name ∧ closeBrace ∉ name

/-- A placeholder as it is written. -/
def written (name : List α) : List α :=
  openBrace :: (name ++ [closeBrace])

/-- A placeholder in a text, with the text on either side of it. -/
structure Occurs (cs before name after : List α) : Prop where
  isName : IsName name
  eq : cs = before ++ (written name ++ after)

/-- The leftmost placeholder of a text: no other one begins before it. -/
structure IsLeftmost (cs before name after : List α) : Prop
    extends Occurs cs before name after where
  le : ∀ {before' name' after'}, Occurs cs before' name' after' → before.length ≤ before'.length

theorem IsName.nil : IsName ([] : List α) := ⟨List.not_mem_nil, List.not_mem_nil⟩

theorem isName_cons_iff {c : α} {name : List α} :
    IsName (c :: name) ↔ c ≠ openBrace ∧ c ≠ closeBrace ∧ IsName name := by
  simp only [IsName, List.mem_cons, not_or, ne_eq, eq_comm (b := c), and_assoc]
  exact and_congr_right fun _ => and_left_comm

theorem occurs_cons_iff {c d : α} {cs before name after : List α} :
    Occurs (c :: cs) (d :: before) name after ↔ d = c ∧ Occurs cs before name after := by
  constructor
  · rintro ⟨hname, heq⟩
    obtain ⟨rfl, rfl⟩ := List.cons.inj heq
    exact ⟨rfl, hname, rfl⟩
  · rintro ⟨rfl, hname, rfl⟩
    exact ⟨hname, rfl⟩

theorem not_occurs_nil (before name after : List α) : ¬ Occurs [] before name after := by
  rintro ⟨-, heq⟩
  simp [written] at heq

section Reading

variable [DecidableEq α]

theorem name?_append {name : List α} (h : IsName name) (after : List α) :
    name? (name ++ closeBrace :: after) = some (name, after) := by
  induction name with
  | nil => rw [List.nil_append, name?, if_pos rfl]
  | cons c name ih =>
    obtain ⟨hopen, hclose, hname⟩ := isName_cons_iff.mp h
    rw [List.cons_append, name?, if_neg hclose, if_neg hopen, ih hname, Option.map_some]

theorem isName_of_name? {cs : List α} {found : List α × List α}
    (h : name? cs = some found) : IsName found.1 := by
  fun_induction name? cs generalizing found with
  | case1 => contradiction
  | case2 cs =>
    obtain rfl := Option.some_inj.mp h
    exact .nil
  | case3 => contradiction
  | case4 c cs hclose hopen ih =>
    obtain ⟨inner, hinner, rfl⟩ := Option.map_eq_some_iff.mp h
    exact isName_cons_iff.mpr ⟨hopen, hclose, ih hinner⟩

/-- What is read after an opening brace: a name and the closing brace after it. -/
theorem name?_eq_some_iff {cs name after : List α} :
    name? cs = some (name, after) ↔ IsName name ∧ cs = name ++ closeBrace :: after := by
  refine ⟨fun h => ⟨isName_of_name? h, eq_append_of_name? h⟩, ?_⟩
  rintro ⟨hname, rfl⟩
  exact name?_append hname after

/-- The placeholder at the very front of a text. -/
theorem occurs_nil_iff {c : α} {cs name after : List α} :
    Occurs (c :: cs) [] name after ↔ c = openBrace ∧ name? cs = some (name, after) := by
  rw [name?_eq_some_iff]
  constructor
  · rintro ⟨hname, heq⟩
    obtain ⟨rfl, rfl⟩ := List.cons.inj heq
    exact ⟨rfl, hname, by simp⟩
  · rintro ⟨rfl, hname, rfl⟩
    exact ⟨hname, by simp [written]⟩

/-- At one place of a text there is one placeholder at most. -/
theorem Occurs.unique {cs before name after name' after' : List α}
    (h : Occurs cs before name after) (h' : Occurs cs before name' after') :
    name = name' ∧ after = after' := by
  have heq : written name ++ after = written name' ++ after' :=
    List.append_cancel_left (h.eq.symm.trans h'.eq)
  have htail : name ++ closeBrace :: after = name' ++ closeBrace :: after' := by
    simpa [written] using heq
  have hfound := name?_eq_some_iff.mpr ⟨h.isName, htail.symm⟩
  rw [name?_eq_some_iff.mpr ⟨h'.isName, rfl⟩] at hfound
  obtain ⟨rfl, rfl⟩ := Prod.mk.inj (Option.some_inj.mp hfound)
  exact ⟨rfl, rfl⟩

theorem IsLeftmost.unique {cs before name after before' name' after' : List α}
    (h : IsLeftmost cs before name after) (h' : IsLeftmost cs before' name' after') :
    before = before' ∧ name = name' ∧ after = after' := by
  have hlength : before.length = before'.length :=
    Nat.le_antisymm (h.le h'.toOccurs) (h'.le h.toOccurs)
  obtain ⟨rfl, -⟩ := List.append_inj (h.eq.symm.trans h'.eq) hlength
  exact ⟨rfl, h.toOccurs.unique h'.toOccurs⟩

end Reading

/-! ### Scanning -/

/-- A placeholder with the text between it and the next one. -/
structure Stretch (α : Type := Char) where
  name : List α
  text : List α
  deriving DecidableEq, Repr

/-- **Scanning a text** from the left: the text in front of its leftmost placeholder, and each
placeholder with the text behind it. -/
inductive Scan : List α → List α → List (Stretch α) → Prop where
  /-- No placeholder is left. -/
  | last {cs : List α} (h : ∀ before name after, ¬ Occurs cs before name after) :
    Scan cs cs []
  /-- The text behind the leftmost placeholder is scanned in the same way. -/
  | next {cs before name after text : List α} {stretches : List (Stretch α)}
    (h : IsLeftmost cs before name after) (hafter : Scan after text stretches) :
    Scan cs before (⟨name, text⟩ :: stretches)

/-- A character at which no placeholder begins makes the text in front longer. -/
theorem Scan.cons {c : α} {cs text : List α} {stretches : List (Stretch α)}
    (hc : ∀ name after, ¬ Occurs (c :: cs) [] name after) (h : Scan cs text stretches) :
    Scan (c :: cs) (c :: text) stretches := by
  cases h with
  | last hnone =>
    refine .last fun before name after hoccurs => ?_
    cases before with
    | nil => exact hc name after hoccurs
    | cons d before => exact hnone _ _ _ (occurs_cons_iff.mp hoccurs).2
  | next hleftmost hafter =>
    refine .next ⟨occurs_cons_iff.mpr ⟨rfl, hleftmost.toOccurs⟩, fun {before'} _ _ hoccurs => ?_⟩
      hafter
    cases before' with
    | nil => exact absurd hoccurs (hc _ _)
    | cons d before' =>
      exact Nat.succ_le_succ (hleftmost.le (occurs_cons_iff.mp hoccurs).2)

/-- **A text is scanned in one way only.** -/
theorem Scan.unique [DecidableEq α] {cs text text' : List α}
    {stretches stretches' : List (Stretch α)} (h : Scan cs text stretches)
    (h' : Scan cs text' stretches') :
    text = text' ∧ stretches = stretches' := by
  induction h generalizing text' stretches' with
  | last hnone =>
    cases h' with
    | last _ => exact ⟨rfl, rfl⟩
    | next hleftmost _ => exact absurd hleftmost.toOccurs (hnone _ _ _)
  | next hleftmost _ ih =>
    cases h' with
    | last hnone => exact absurd hleftmost.toOccurs (hnone _ _ _)
    | next hleftmost' hafter' =>
      obtain ⟨rfl, rfl, rfl⟩ := hleftmost.unique hleftmost'
      obtain ⟨rfl, rfl⟩ := ih hafter'
      exact ⟨rfl, rfl⟩

/-- Scanning loses nothing. -/
theorem Scan.append_eq {cs text : List α} {found : List (Stretch α)} (h : Scan cs text found) :
    text ++ found.flatMap (fun s => written s.name ++ s.text) = cs := by
  induction h with
  | last _ => simp
  | next hleftmost _ ih =>
    rw [List.flatMap_cons, List.append_assoc (written _), ih]
    exact hleftmost.eq.symm

/-- **The scan of a text**: the only way to scan it, in which nothing of it is lost. -/
structure IsScan (cs text : List α) (found : List (Stretch α)) : Prop where
  iff : ∀ text' found', Scan cs text' found' ↔ text' = text ∧ found' = found
  append_eq : text ++ found.flatMap (fun s => written s.name ++ s.text) = cs

theorem Scan.isScan [DecidableEq α] {cs text : List α} {found : List (Stretch α)}
    (h : Scan cs text found) : IsScan cs text found where
  iff text' found' := by
    constructor
    · intro h'
      exact h'.unique h
    · rintro ⟨rfl, rfl⟩
      exact h
  append_eq := h.append_eq

/-! ### Pieces -/

/-- The stretches that some pieces make up, after the text in front of them. -/
def stretches : List (Piece α) → List α × List (Stretch α)
  | [] => ([], [])
  | .literal c :: rest => (c :: (stretches rest).1, (stretches rest).2)
  | .placeholder name :: rest => ([], ⟨name, (stretches rest).1⟩ :: (stretches rest).2)

/-- The pieces of a text are what scanning finds. -/
theorem scan_pieces [DecidableEq α] (cs : List α) :
    Scan cs (stretches (pieces cs)).1 (stretches (pieces cs)).2 := by
  fun_induction pieces cs with
  | case1 => exact .last not_occurs_nil
  | case2 cs found hname ih =>
    have hfront : Occurs (openBrace :: cs) [] found.1 found.2 := occurs_nil_iff.mpr ⟨rfl, hname⟩
    exact .next ⟨hfront, fun _ => Nat.zero_le _⟩ ih
  | case3 cs hname ih =>
    refine Scan.cons (fun name after hoccurs => ?_) ih
    rw [occurs_nil_iff, hname] at hoccurs
    exact absurd hoccurs.2 (by simp)
  | case4 c cs hopen ih =>
    exact Scan.cons (fun name after hoccurs => hopen (occurs_nil_iff.mp hoccurs).1) ih

/-- **There is one way to scan a text**, and its pieces are found in that way. -/
theorem scan_iff [DecidableEq α] {cs text : List α} {found : List (Stretch α)} :
    Scan cs text found ↔ stretches (pieces cs) = (text, found) := by
  constructor
  · intro h
    obtain ⟨htext, hfound⟩ := (scan_pieces cs).unique h
    exact Prod.ext htext hfound
  · intro h
    have hscan := scan_pieces cs
    rwa [h] at hscan

end Alphabets

/-! ### What is put in the places of the placeholders -/

/-- Pieces of which only the placeholders are replaced, by what was scanned. -/
theorem flatMap_stretches {α : Type} {fill : Piece α → List α}
    (hliteral : ∀ c, fill (.literal c) = [c]) (ps : List (Piece α)) :
    ps.flatMap fill = (stretches ps).1 ++
      (stretches ps).2.flatMap fun s => fill (.placeholder s.name) ++ s.text := by
  induction ps with
  | nil => rfl
  | cons piece rest ih =>
    cases piece with
    | literal c => simp [stretches, hliteral, ih]
    | placeholder name => simp [stretches, ih]

/-- The names of the placeholders, by what was scanned. -/
theorem filterMap_stretches {α β : Type} (name? : Piece α → Option β) {nameOf : List α → β}
    (hliteral : ∀ c, name? (.literal c) = none)
    (hname : ∀ name, name? (.placeholder name) = some (nameOf name)) (ps : List (Piece α)) :
    ps.filterMap name? = (stretches ps).2.map fun s => nameOf s.name := by
  induction ps with
  | nil => rfl
  | cons piece rest ih =>
    cases piece with
    | literal c => simp [stretches, hliteral, ih]
    | placeholder name => simp [stretches, hname, ih]

/-! ### Expanding what was scanned -/

section Texts

variable {template : String} {text : List Char} {found : List Stretch}
  {bindings : List (String × String)} (h : Scan template.toList text found)

include h

theorem Scan.filled_eq :
    filled bindings template = String.ofList (text ++ found.flatMap fun s =>
      ((bindings.lookup (String.ofList s.name)).getD "").toList ++ s.text) := by
  rw [filled, flatMap_stretches (fun _ => rfl), scan_iff.mp h]
  rfl

theorem Scan.placeholders_eq :
    placeholders template = found.map fun s => String.ofList s.name := by
  rw [placeholders, filterMap_stretches Piece.name? (fun _ => rfl) (fun _ => rfl), scan_iff.mp h]

/-- All placeholders have values. -/
theorem Scan.expand_eq_ok_iff {uri : String} : expand template bindings = .ok uri ↔
    (∀ s ∈ found, ∃ value, bindings.lookup (String.ofList s.name) = some value) ∧
      uri = String.ofList (text ++ found.flatMap fun s =>
        ((bindings.lookup (String.ofList s.name)).getD "").toList ++ s.text) := by
  rw [Template.expand_eq_ok_iff, firstUnbound?, h.placeholders_eq, h.filled_eq, List.find?_eq_none]
  simp only [List.forall_mem_map, isUnbound, Bool.not_eq_true, Option.isNone_eq_false_iff,
    Option.isSome_iff_exists]

/-- The leftmost placeholder without a value. -/
theorem Scan.expand_eq_error_iff {e : UnknownVariable} : expand template bindings = .error e ↔
    ∃ before s after, found = before ++ s :: after ∧
      (∀ earlier ∈ before, ∃ value,
        bindings.lookup (String.ofList earlier.name) = some value) ∧
      bindings.lookup (String.ofList s.name) = none ∧ e = ⟨template, String.ofList s.name⟩ := by
  rw [Template.expand_eq_error_iff, firstUnbound?, h.placeholders_eq]
  simp only [List.find?_map, Option.map_eq_some_iff, List.find?_eq_some_iff_append,
    Function.comp_apply, isUnbound, Option.isNone_iff_eq_none, Bool.not_eq_true',
    Option.isNone_eq_false_iff, Option.isSome_iff_exists]
  constructor
  · rintro ⟨_, ⟨s, ⟨hnone, before, after, hfound, hbefore⟩, rfl⟩, he⟩
    exact ⟨before, s, after, hfound, hbefore, hnone, he⟩
  · rintro ⟨before, s, after, hfound, hbefore, hnone, he⟩
    exact ⟨_, ⟨s, ⟨hnone, before, after, hfound, hbefore⟩, rfl⟩, he⟩

end Texts

section Wide

variable {template : WideString} {text : List Nat} {found : List (Stretch Nat)}
  {bindings : List (String × String)} (h : Scan template.codes text found)

include h

theorem Scan.wideFilled_eq :
    wideFilled bindings template = .ofCodes (text ++ found.flatMap fun s =>
      ((valueOf? bindings (.ofCodes s.name)).getD "").toList.map Char.toNat ++ s.text) := by
  rw [wideFilled, flatMap_stretches (fun _ => rfl), scan_iff.mp h]
  rfl

theorem Scan.widePlaceholders_eq :
    widePlaceholders template = found.map fun s => .ofCodes s.name := by
  rw [widePlaceholders, filterMap_stretches Piece.wideName? (fun _ => rfl) (fun _ => rfl),
    scan_iff.mp h]

/-- All placeholders have values. -/
theorem Scan.expandWide_eq_ok_iff {uri : WideString} : expandWide template bindings = .ok uri ↔
    (∀ s ∈ found, ∃ value, valueOf? bindings (.ofCodes s.name) = some value) ∧
      uri = .ofCodes (text ++ found.flatMap fun s =>
        ((valueOf? bindings (.ofCodes s.name)).getD "").toList.map Char.toNat ++ s.text) := by
  rw [Template.expandWide_eq_ok_iff, h.widePlaceholders_eq, h.wideFilled_eq]
  simp only [List.forall_mem_map, Option.ne_none_iff_exists']

/-- The leftmost placeholder without a value. -/
theorem Scan.expandWide_eq_error_iff {e : UnknownVariable WideString} :
    expandWide template bindings = .error e ↔
      ∃ before s after, found = before ++ s :: after ∧
        (∀ earlier ∈ before, ∃ value, valueOf? bindings (.ofCodes earlier.name) = some value) ∧
        valueOf? bindings (.ofCodes s.name) = none ∧ e = ⟨template, .ofCodes s.name⟩ := by
  rw [Template.expandWide_eq_error_iff, h.widePlaceholders_eq]
  simp only [Option.ne_none_iff_exists']
  constructor
  · rintro ⟨_, _, _, hsplit, hbefore, hnone, he⟩
    obtain ⟨before, rest, rfl, rfl, hrest⟩ := List.map_eq_append_iff.mp hsplit
    obtain ⟨s, after, rfl, rfl, rfl⟩ := List.map_eq_cons_iff.mp hrest
    exact ⟨before, s, after, rfl, fun earlier hmem => hbefore _ (List.mem_map_of_mem hmem),
      hnone, he⟩
  · rintro ⟨before, s, after, rfl, hbefore, hnone, he⟩
    exact ⟨_, _, _, by rw [List.map_append, List.map_cons], List.forall_mem_map.mpr hbefore, hnone,
      he⟩

end Wide

/-! ### Names that have values -/

section Names

variable {bindings bindings' : List (String × String)}
  (h : ∀ name, name ∈ bindings.map Prod.fst ↔ name ∈ bindings'.map Prod.fst)

include h

/-- The values have no part in which names have none. -/
theorem isUnbound_congr (name : String) : isUnbound bindings name = isUnbound bindings' name := by
  rw [isUnbound_eq_not_contains, isUnbound_eq_not_contains, Bool.eq_iff_iff]
  simp only [Bool.not_eq_true', ← Bool.not_eq_true, List.contains_iff_mem, h name]

theorem expand_eq_error_congr {template : String} (e : UnknownVariable) :
    expand template bindings = .error e ↔ expand template bindings' = .error e := by
  rw [expand_eq_error_iff, expand_eq_error_iff, firstUnbound?, firstUnbound?,
    funext (isUnbound_congr h)]

theorem valueOf?_eq_none_congr (name : WideString) :
    valueOf? bindings name = none ↔ valueOf? bindings' name = none := by
  cases name with
  | text s =>
    have hunbound := isUnbound_congr h s
    rwa [isUnbound, isUnbound, Bool.eq_iff_iff, Option.isNone_iff_eq_none,
      Option.isNone_iff_eq_none] at hunbound
  | broken codes hcodes => exact Iff.rfl

theorem expandWide_eq_error_congr {template : WideString} (e : UnknownVariable WideString) :
    expandWide template bindings = .error e ↔ expandWide template bindings' = .error e := by
  simp only [expandWide_eq_error_iff, ne_eq, valueOf?_eq_none_congr h]

end Names

/-- **Expansion is up to the scan.** Every template is scanned in one way, into the text in front
of its placeholders and the placeholders with the text behind each, and nothing of it is lost.

* When every placeholder has a value, the template expands to these texts as they are, with the
  values as they are in the places of the placeholders.
* When one has none, the template is refused as a whole for the leftmost such placeholder.
* Which of the two happens, and for which placeholder, is up to the names that have values and
  not to the values.

Templates that need not be texts are scanned by their code points, and expand in the same way. A
name that is no text has no value there. -/
theorem expand_iff_scan :
    (∀ template : String, ∃ text found, IsScan template.toList text found ∧
      ∀ bindings : List (String × String),
        (∀ uri, expand template bindings = .ok uri ↔
          (∀ s ∈ found, ∃ value, bindings.lookup (String.ofList s.name) = some value) ∧
            uri = String.ofList (text ++ found.flatMap fun s =>
              ((bindings.lookup (String.ofList s.name)).getD "").toList ++ s.text)) ∧
        (∀ e, expand template bindings = .error e ↔
          ∃ before s after, found = before ++ s :: after ∧
            (∀ earlier ∈ before, ∃ value,
              bindings.lookup (String.ofList earlier.name) = some value) ∧
            bindings.lookup (String.ofList s.name) = none ∧
            e = ⟨template, String.ofList s.name⟩) ∧
        ∀ bindings' : List (String × String),
          (∀ name, name ∈ bindings.map Prod.fst ↔ name ∈ bindings'.map Prod.fst) →
            ∀ e, expand template bindings = .error e ↔ expand template bindings' = .error e) ∧
    ∀ template : WideString, ∃ text found, IsScan template.codes text found ∧
      ∀ bindings : List (String × String),
        (∀ uri, expandWide template bindings = .ok uri ↔
          (∀ s ∈ found, ∃ value, valueOf? bindings (.ofCodes s.name) = some value) ∧
            uri = .ofCodes (text ++ found.flatMap fun s =>
              ((valueOf? bindings (.ofCodes s.name)).getD "").toList.map Char.toNat ++ s.text)) ∧
        (∀ e, expandWide template bindings = .error e ↔
          ∃ before s after, found = before ++ s :: after ∧
            (∀ earlier ∈ before, ∃ value,
              valueOf? bindings (.ofCodes earlier.name) = some value) ∧
            valueOf? bindings (.ofCodes s.name) = none ∧ e = ⟨template, .ofCodes s.name⟩) ∧
        ∀ bindings' : List (String × String),
          (∀ name, name ∈ bindings.map Prod.fst ↔ name ∈ bindings'.map Prod.fst) →
            ∀ e, expandWide template bindings = .error e ↔
              expandWide template bindings' = .error e := by
  refine ⟨fun template => ?_, fun template => ?_⟩
  · have h := scan_pieces template.toList
    exact ⟨_, _, h.isScan, fun bindings => ⟨fun uri => h.expand_eq_ok_iff,
      fun e => h.expand_eq_error_iff, fun _ hnames e => expand_eq_error_congr hnames e⟩⟩
  · have h := scan_pieces template.codes
    exact ⟨_, _, h.isScan, fun bindings => ⟨fun uri => h.expandWide_eq_ok_iff,
      fun e => h.expandWide_eq_error_iff, fun _ hnames e => expandWide_eq_error_congr hnames e⟩⟩

/-- Braces around a placeholder, a brace inside another one, and one that is never closed; a value
that looks like a placeholder stays a value, also in front of a surrogate. -/
theorem expand_iff_scan_nested :
    Scan "\x7b\x7ba\x7d\x7bb\x7bc\x7d\x7d\x7b".toList "\x7b".toList
        [⟨"a".toList, "\x7bb".toList⟩, ⟨"c".toList, "\x7d\x7b".toList⟩] ∧
      expand "\x7b\x7ba\x7d\x7bb\x7bc\x7d\x7d\x7b" [("a", "\x7bc\x7d"), ("c", "")] =
        .ok "\x7b\x7bc\x7d\x7bb\x7d\x7b" ∧
      (∀ value, expand "\x7b\x7ba\x7d\x7bb\x7bc\x7d\x7d\x7b" [("c", value)] =
        .error ⟨"\x7b\x7ba\x7d\x7bb\x7bc\x7d\x7d\x7b", "a"⟩) ∧
      expandWide (.ofCodes [0x7b, 0x61, 0x7d, 0xD800]) [("a", "\x7ba\x7d")] =
        .ok (.ofCodes [0x7b, 0x61, 0x7d, 0xD800]) := by
  have hscan : Scan "\x7b\x7ba\x7d\x7bb\x7bc\x7d\x7d\x7b".toList "\x7b".toList
      [⟨"a".toList, "\x7bb".toList⟩, ⟨"c".toList, "\x7d\x7b".toList⟩] :=
    scan_iff.mpr (by decide +kernel)
  have hwide : Scan (WideString.ofCodes [0x7b, 0x61, 0x7d, 0xD800]).codes []
      [⟨[0x61], [0xD800]⟩] := scan_iff.mpr (by decide +kernel)
  obtain ⟨htexts, hwides⟩ := expand_iff_scan
  obtain ⟨text, found, honly, hexpand⟩ := htexts "\x7b\x7ba\x7d\x7bb\x7bc\x7d\x7d\x7b"
  obtain ⟨rfl, rfl⟩ := (honly.iff _ _).mp hscan
  obtain ⟨_, _, honlyWide, hexpandWide⟩ := hwides (.ofCodes [0x7b, 0x61, 0x7d, 0xD800])
  obtain ⟨rfl, rfl⟩ := (honlyWide.iff _ _).mp hwide
  refine ⟨hscan, (hexpand _).1 _ |>.mpr ⟨?_, rfl⟩, fun value => ?_,
    (hexpandWide _).1 _ |>.mpr ⟨?_, rfl⟩⟩
  · rw [List.forall_mem_cons, List.forall_mem_singleton]
    exact ⟨⟨_, rfl⟩, ⟨_, rfl⟩⟩
  · exact (hexpand _).2.1 _ |>.mpr ⟨[], _, _, rfl, by simp, rfl, rfl⟩
  · rw [List.forall_mem_singleton]
    exact ⟨_, rfl⟩

end OAuthRedirect.Template
