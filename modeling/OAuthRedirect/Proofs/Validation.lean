import Mathlib.Data.List.Forall2
import OAuthRedirect.Strings
import OAuthRedirect.Validation

/-!
# What checks accept and report

For each check the values that it accepts, with what they are read as. A check reports some faults
when it fails with them, or succeeds because there are none (`Checked.Reports`); checks that are
joined report the faults of both in order (`Checked.Reports.ap`), and the check of a list those of
all its entries (`Checked.reports_items`).
-/

namespace OAuthRedirect

/-! ### Reported faults -/

namespace Checked

/-- A check **reports** faults: it succeeds when there are none, and fails with them otherwise. -/
inductive Reports {α : Type} : Checked α → List Fault → Prop
  | valid (a : α) : Reports (.valid a) []
  | invalid {faults : List Fault} (h : faults ≠ []) : Reports (.invalid faults) faults

variable {α β : Type} {x : Checked α} {f : Checked (α → β)} {faults more : List Fault}

theorem reports_fault (kind : FaultKind) : (fault kind : Checked α).Reports [⟨kind, []⟩] :=
  .invalid (List.cons_ne_nil _ _)

theorem Reports.map (h : x.Reports faults) (g : α → β) : (g <$> x).Reports faults := by
  cases h with
  | valid a => exact .valid (g a)
  | invalid hne => exact .invalid hne

theorem Reports.ap (hf : f.Reports faults) (hx : x.Reports more) :
    (f <*> x).Reports (faults ++ more) := by
  cases hf with
  | valid g =>
    cases hx with
    | valid a => exact .valid (g a)
    | invalid hne => exact .invalid hne
  | invalid hne =>
    have hjoined : faults ++ more ≠ [] := fun h => hne (List.append_eq_nil_iff.mp h).1
    cases hx with
    | valid a => exact .invalid hjoined
    | invalid => exact .invalid hjoined

theorem Reports.under (h : x.Reports faults) (step : Step) :
    (x.under step).Reports (faults.map (·.under step)) := by
  cases h with
  | valid a => exact .valid a
  | invalid hne => exact .invalid (by simpa using hne)

/-- Nothing is reported when the check succeeds, and only then. -/
theorem Reports.eq_nil_iff (h : x.Reports faults) : faults = [] ↔ ∃ a, x = .valid a := by
  cases h with
  | valid a => simp
  | invalid hne => simpa using hne

theorem Reports.eq_invalid (h : x.Reports faults) (hne : faults ≠ []) : x = .invalid faults := by
  cases h with
  | valid a => exact absurd rfl hne
  | invalid => rfl

/-! ### Lists of items -/

variable {check : Json → Checked α}

/-- A list is valid when all its items are, each as the value at its position. -/
theorem items_eq_valid_iff {start : Nat} {data : List Json} {values : List α} :
    items check start data = .valid values ↔
      List.Forall₂ (fun item value => check item = .valid value) data values := by
  induction data generalizing start values with
  | nil =>
    change valid [] = valid values ↔ _
    rw [List.forall₂_nil_left_iff, valid.injEq, eq_comm]
  | cons item rest ih =>
    simp only [items, ap_eq_valid_iff, map_eq_valid_iff, under_eq_valid_iff, ih,
      List.forall₂_cons_left_iff]
    constructor
    · rintro ⟨_, others, ⟨first, hfirst, rfl⟩, hrest, rfl⟩
      exact ⟨first, others, hfirst, hrest, rfl⟩
    · rintro ⟨first, others, hfirst, hrest, rfl⟩
      exact ⟨_, others, ⟨first, hfirst, rfl⟩, hrest, rfl⟩

/-- The faults of the entries of a list, one entry after another, each under its position. -/
def entryFaults (faults : Json → List Fault) (start : Nat) (data : List Json) : List Fault :=
  (data.zipIdx start).flatMap fun entry => (faults entry.1).map (·.under (.index entry.2))

/-- **The check of a list** goes on behind an entry with faults, and reports those of all. -/
theorem reports_items {faults : Json → List Fault} (h : ∀ item, (check item).Reports (faults item))
    (start : Nat) (data : List Json) :
    (items check start data).Reports (entryFaults faults start data) := by
  induction data generalizing start with
  | nil => exact .valid []
  | cons item rest ih =>
    rw [entryFaults, List.zipIdx_cons, List.flatMap_cons]
    exact (((h item).under (.index start)).map _).ap (ih (start + 1))

end Checked

/-! ### Accepted values -/

namespace Check

variable {value : Json}

theorem string_eq_valid_iff {w : WideString} :
    string value = .valid w ↔ value.string? = some w := by
  cases h : value.string? <;> simp [string, h, Checked.fault]

theorem nonEmptyText_eq_valid_iff {s : { s : String // s ≠ "" }} :
    nonEmptyText value = .valid s ↔ value.string? = some ↑s.val := by
  rw [nonEmptyText]
  split
  · rename_i found hfound
    rw [hfound, Option.some_inj, WideString.text.injEq]
    split
    · rename_i hempty
      simp [Checked.fault, hempty, s.property.symm]
    · rw [Checked.valid.injEq, Subtype.ext_iff]
  · rename_i hfound
    simp [hfound, Checked.fault]
  · rename_i hfound
    simp [hfound, Checked.fault]

theorem nonEmptyText_str {s : String} (h : s ≠ "") : nonEmptyText (.str s) = .valid ⟨s, h⟩ :=
  nonEmptyText_eq_valid_iff.mpr rfl

theorem stringOrNull_eq_valid_iff {found : Option WideString} :
    stringOrNull value = .valid found ↔
      value = .null ∧ found = none ∨ ∃ w, value.string? = some w ∧ some w = found := by
  cases value with
  | null => simp [stringOrNull, Json.string?, eq_comm]
  | _ => simp [stringOrNull, Checked.map_eq_valid_iff, string_eq_valid_iff]

theorem stringOrNull_orNull (found : Option WideString) :
    stringOrNull (Strings.orNull found) = .valid found := by
  cases found with
  | none => rfl
  | some w => exact stringOrNull_eq_valid_iff.mpr (.inr ⟨w, Json.string?_toJson w, rfl⟩)

theorem oneOf_eq_valid_iff {α : Type} {named : List (String × α)} {a : α} :
    oneOf named value = .valid a ↔
      ∃ s : String, value.string? = some ↑s ∧ named.lookup s = some a := by
  rw [oneOf]
  split
  · rename_i s hfound
    cases h : named.lookup s <;> simp [hfound, h, Checked.fault]
  · rename_i hfound
    simp [hfound, Checked.fault]
  · rename_i hfound
    simp [hfound, Checked.fault]

theorem items_string_eq_valid_iff {items : List Json} {names : List WideString} {start : Nat} :
    Checked.items string start items = .valid names ↔
      List.Forall₂ (fun item name => item.string? = some name) items names := by
  simp only [Checked.items_eq_valid_iff, string_eq_valid_iff]

/-- Every item of a list is related to something when a whole list is related to it. -/
theorem exists_forall₂_iff {α β : Type} {R : α → β → Prop} {xs : List α} :
    (∃ ys, List.Forall₂ R xs ys) ↔ ∀ x ∈ xs, ∃ y, R x y := by
  induction xs with
  | nil => simp
  | cons x rest ih =>
    rw [List.forall_mem_cons, ← ih]
    constructor
    · rintro ⟨_, _ | ⟨hx, hrest⟩⟩
      exact ⟨⟨_, hx⟩, _, hrest⟩
    · rintro ⟨⟨y, hy⟩, ys, hys⟩
      exact ⟨y :: ys, .cons hy hys⟩

/-- The strings of a list of values are those that some item is. -/
theorem mem_iff_of_forall₂_string? {items : List Json} {names : List WideString}
    (h : List.Forall₂ (fun item name => item.string? = some name) items names) (name : WideString) :
    name ∈ names ↔ ∃ item ∈ items, item.string? = some name := by
  induction h with
  | nil => simp
  | cons hitem _ ih => simp [hitem, ih, eq_comm]

/-- Strings, as values, are read as they are. -/
theorem forall₂_string?_toJson (names : List WideString) :
    List.Forall₂ (fun item name => item.string? = some name) (names.map WideString.toJson) names :=
  List.forall₂_map_left_iff.mpr (List.forall₂_same.mpr fun w _ => Json.string?_toJson w)

/-! ### Accepted fields -/

variable {α : Type} {members : Members} {name : String} {absent a : α} {check : Json → Checked α}

theorem required_eq_valid_iff : required members name check = .valid a ↔
    ∃ value, members.lookup name = some value ∧ check value = .valid a := by
  cases h : members.lookup name <;> simp [required, h, Checked.under_eq_valid_iff]

theorem optional_eq_valid_iff : optional members name absent check = .valid a ↔
    members.lookup name = none ∧ a = absent ∨
      ∃ value, members.lookup name = some value ∧ check value = .valid a := by
  cases h : members.lookup name with
  | none => simp [optional, h, eq_comm]
  | some value => simp [optional, h, Checked.under_eq_valid_iff]

theorem required_of_lookup (hlookup : members.lookup name = some value)
    (hcheck : check value = .valid a) : required members name check = .valid a :=
  required_eq_valid_iff.mpr ⟨value, hlookup, hcheck⟩

theorem optional_of_lookup (hlookup : members.lookup name = some value)
    (hcheck : check value = .valid a) : optional members name absent check = .valid a :=
  optional_eq_valid_iff.mpr (.inr ⟨value, hlookup, hcheck⟩)

end Check

end OAuthRedirect
