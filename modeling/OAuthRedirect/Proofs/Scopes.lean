import Mathlib.Data.List.Sort
import OAuthRedirect.Proofs.Text.Runs
import OAuthRedirect.Proofs.Validation
import OAuthRedirect.Scopes

/-!
# Sets of scopes as sets

A set of scopes is determined by its names (`Scopes.eq_of_mem_iff`), so that a list of names makes
a set when it has the names of that set, in any order and as often as one likes
(`Scopes.ofList_eq_iff`). The data of a set is such a list, or one string, and then the names are
the runs of the string between white space and commas (`Scopes.check_eq_valid_iff`).
-/

namespace OAuthRedirect

instance : Std.Irrefl (α := WideString) (· < ·) where
  irrefl w := List.lt_irrefl w.codes

instance : Std.Antisymm (α := WideString) (· < ·) where
  antisymm _ _ h h' := absurd h' (List.lt_asymm h)

namespace Scopes

section Sets

variable {τ : Type} [LT τ] [Std.Irrefl (α := τ) (· < ·)] {s : Scopes τ}

theorem nodup_names (s : Scopes τ) : s.names.Nodup := by
  refine s.increasing.imp fun {first second} hlt heq => ?_
  exact Std.Irrefl.irrefl (r := (· < ·)) second (heq ▸ hlt)

variable [Std.Antisymm (α := τ) (· < ·)]

/-- **Sets with the same names are equal.** -/
theorem eq_of_mem_iff {other : Scopes τ} (h : ∀ name, name ∈ s.names ↔ name ∈ other.names) :
    s = other := by
  obtain ⟨names, hincreasing⟩ := s
  obtain ⟨names', hincreasing'⟩ := other
  obtain rfl : names = names' := hincreasing.eq_of_mem_iff hincreasing' h
  rfl

variable [DecidableLT τ] [DecidableEq τ] [Std.Trichotomous (α := τ) (· < ·)]
  [Trans (α := τ) (· < ·) (· < ·) (· < ·)]

/-- A list makes the set that has the names of the list. -/
theorem ofList_eq_iff {names : List τ} :
    ofList names = s ↔ ∀ name, name ∈ names ↔ name ∈ s.names := by
  constructor
  · rintro rfl name
    exact mem_ofList.symm
  · exact fun h => eq_of_mem_iff fun name => mem_ofList.trans (h name)

/-- A set of scopes is the set of its names. -/
theorem ofList_names (s : Scopes τ) : ofList s.names = s :=
  ofList_eq_iff.mpr fun _ => Iff.rfl

end Sets

/-! ### Data of a set -/

variable {s : Scopes WideString} {value : Json}

/-- Does some data name a scope: as an item of a list, or as a run of a string? -/
inductive Names (name : WideString) : Json → Prop
  | item {items : List Json} {item : Json} (hmem : item ∈ items)
    (hitem : item.string? = some name) : Names name (.arr items)
  | run {value : Json} {written : WideString} {run : List Nat}
    (hwritten : value.string? = some written) (hrun : Text.IsRun separatesCode written.codes run)
    (hname : name = .ofCodes run) : Names name value

theorem names_arr_iff {name : WideString} {items : List Json} :
    Names name (.arr items) ↔ ∃ item ∈ items, item.string? = some name := by
  constructor
  · intro h
    cases h with
    | item hmem hitem => exact ⟨_, hmem, hitem⟩
    | run hwritten => cases hwritten
  · rintro ⟨item, hmem, hitem⟩
    exact .item hmem hitem

/-- A string names its runs. -/
theorem names_iff_of_string? {name written : WideString} (hwritten : value.string? = some written) :
    Names name value ↔ name ∈ runs written := by
  rw [runs, List.mem_map]
  simp only [Text.mem_runs_iff]
  constructor
  · intro h
    cases h with
    | item => cases hwritten
    | run hwritten' hrun hname =>
      obtain rfl := Option.some_inj.mp (hwritten.symm.trans hwritten')
      exact ⟨_, hrun, hname.symm⟩
  · rintro ⟨run, hrun, rfl⟩
    exact .run hwritten hrun rfl

theorem checkList_eq_valid_iff : checkList value = .valid s ↔
    ∃ items names, value = .arr items ∧
      List.Forall₂ (fun item name => item.string? = some name) items names ∧ s = ofList names := by
  cases value with
  | arr items =>
    simp only [checkList, Checked.map_eq_valid_iff, Check.items_string_eq_valid_iff,
      Json.arr.injEq, exists_and_left, exists_eq_left']
    exact exists_congr fun names => and_congr_right fun _ => eq_comm
  | _ => simp [checkList, Checked.fault]

/-- Strings in a list are the names of a set. -/
theorem checkList_map_toJson (names : List WideString) :
    checkList (.arr (names.map WideString.toJson)) = .valid (ofList names) :=
  checkList_eq_valid_iff.mpr ⟨_, names, rfl, Check.forall₂_string?_toJson names, rfl⟩

theorem checkList_names (s : Scopes WideString) :
    checkList (.arr (s.names.map WideString.toJson)) = .valid s := by
  rw [checkList_map_toJson, ofList_names]

theorem check_of_string? {written : WideString} (h : value.string? = some written) :
    check value = .valid (ofList (runs written)) := by
  rw [check, h]

theorem check_of_string?_eq_none (h : value.string? = none) : check value = checkList value := by
  rw [check, h]

/-- **The data of a set of scopes** is one string or a list of strings, and names the scopes. -/
theorem check_eq_valid_iff : check value = .valid s ↔
    ((∃ written, value.string? = some written) ∨
        ∃ items, value = .arr items ∧ ∀ item ∈ items, ∃ name, item.string? = some name) ∧
      ∀ name, name ∈ s.names ↔ Names name value := by
  cases hwritten : value.string? with
  | some written =>
    rw [check_of_string? hwritten, Checked.valid.injEq, ofList_eq_iff]
    simp only [Option.some_inj, exists_eq', true_or, true_and, names_iff_of_string? hwritten]
    exact forall_congr' fun name => iff_comm
  | none =>
    rw [check_of_string?_eq_none hwritten, checkList_eq_valid_iff]
    simp only [reduceCtorEq, exists_false, false_or]
    constructor
    · rintro ⟨items, names, rfl, hnames, rfl⟩
      have hmem := Check.mem_iff_of_forall₂_string? hnames
      refine ⟨⟨items, rfl, Check.exists_forall₂_iff.mp ⟨names, hnames⟩⟩, fun name => ?_⟩
      rw [mem_ofList, hmem, names_arr_iff]
    · rintro ⟨⟨items, rfl, hitems⟩, h⟩
      obtain ⟨names, hnames⟩ := Check.exists_forall₂_iff.mpr hitems
      refine ⟨items, names, rfl, hnames, (ofList_eq_iff.mpr fun name => ?_).symm⟩
      rw [h name, names_arr_iff, Check.mem_iff_of_forall₂_string? hnames]

/-- A string or a list of strings makes a set. -/
theorem exists_check_of_strings (h : (∃ written, value.string? = some written) ∨
    ∃ items, value = .arr items ∧ ∀ item ∈ items, ∃ name, item.string? = some name) :
    ∃ s, check value = .valid s := by
  obtain ⟨written, hwritten⟩ | ⟨items, rfl, hitems⟩ := h
  · exact ⟨_, check_of_string? hwritten⟩
  · obtain ⟨names, hnames⟩ := Check.exists_forall₂_iff.mpr hitems
    exact ⟨_, checkList_eq_valid_iff.mpr ⟨items, names, rfl, hnames, rfl⟩⟩

end Scopes

end OAuthRedirect
