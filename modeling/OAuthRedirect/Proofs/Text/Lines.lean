import OAuthRedirect.Text.Casing

/-!
# Lines of a text

A text is on one line when it holds no line feed (`Text.OneLine`). What is split has one part more
than it has separators (`Text.length_splitOn`), so that lists that are joined come apart into as
many as they were exactly when none of them holds the separator
(`Text.length_splitOn_intercalate_iff`). The lower-case form of a text has no line feed that the
text has not.
-/

namespace OAuthRedirect.Text

/-- A text without a line feed. -/
def OneLine (s : String) : Prop :=
  '\n' ∉ s.toList

instance (s : String) : Decidable (OneLine s) :=
  inferInstanceAs (Decidable ('\n' ∉ s.toList))

@[simp]
theorem oneLine_append_iff {s t : String} : OneLine (s ++ t) ↔ OneLine s ∧ OneLine t := by
  simp [OneLine]

/-! ### Counting lines -/

section Counting

variable {α : Type} [DecidableEq α] (sep : α)

theorem length_splitOn (cs : List α) : (cs.splitOn sep).length = cs.count sep + 1 := by
  induction cs with
  | nil => rfl
  | cons d cs ih =>
    rw [List.splitOn_cons_eq_if_modifyHead, List.count_cons]
    split
    · rw [List.length_cons, ih]
    · rw [List.length_modifyHead, ih, Nat.add_zero]

/-- Lists that are joined by a separator have one between any two of them, and their own. -/
theorem count_intercalate_cons (piece : List α) (rest : List (List α)) :
    ([sep].intercalate (piece :: rest)).count sep =
      (piece :: rest).flatten.count sep + rest.length := by
  induction rest generalizing piece with
  | nil => rw [List.intercalate_singleton, List.flatten_singleton, List.length_nil, Nat.add_zero]
  | cons next rest ih =>
    rw [List.intercalate_cons_cons, List.count_append, List.count_append, ih]
    simp only [List.count_singleton_self, List.flatten_cons, List.count_append, List.length_cons]
    omega

/-- **Lists that are joined** are split into as many exactly when none of them holds the
separator. -/
theorem length_splitOn_intercalate_iff {pieces : List (List α)} (hne : pieces ≠ []) :
    (([sep].intercalate pieces).splitOn sep).length = pieces.length ↔
      ∀ piece ∈ pieces, sep ∉ piece := by
  obtain ⟨first, rest, rfl⟩ := List.exists_cons_of_ne_nil hne
  have hzero : (first :: rest).flatten.count sep = 0 ↔ ∀ piece ∈ first :: rest, sep ∉ piece := by
    simp only [List.count_eq_zero, List.mem_flatten, not_exists, not_and]
  rw [length_splitOn, count_intercalate_cons, ← hzero, List.length_cons]
  omega

end Counting

/-! ### Numerals -/

theorem oneLine_ofList_of_isDigit {cs : List Char} (h : ∀ c ∈ cs, c.isDigit = true) :
    OneLine (String.ofList cs) := fun hline => by
  rw [String.toList_ofList] at hline
  exact absurd (h '\n' hline) (by decide)

theorem oneLine_toString (n : Nat) : OneLine (toString n) := by
  rw [Nat.toString_eq_ofList_toDigits]
  exact oneLine_ofList_of_isDigit fun c => Nat.isDigit_of_mem_toDigits (by decide) (by decide)

/-- Only the first of all characters stands in the place of numbers that have none. -/
theorem eq_of_ofNat_eq {n : Nat} {c : Char} (h : Char.ofNat n = c) (hne : c.toNat ≠ 0) :
    n = c.toNat := by
  by_cases hvalid : n.isValidChar
  · rw [Char.ofNat, dif_pos hvalid] at h
    exact congrArg Char.toNat h
  · rw [Char.ofNat, dif_neg hvalid] at h
    exact absurd (congrArg Char.toNat h).symm hne

/-! ### Lower case -/

/-- All that moves in lower case moves to letters beyond the line feed. -/
theorem eq_of_mapCase_lowerRuns {n : Nat} (h : mapCase lowerRuns n = 10) : n = 10 := by
  have hbeyond : ∀ run ∈ lowerRuns, 10 < (run.first : Int) + run.shift := by decide +kernel
  rw [mapCase] at h
  split at h
  · rename_i run hfound
    have hrun := hbeyond run (List.mem_of_find?_eq_some hfound)
    have hcovers := List.find?_some hfound
    simp only [CaseRun.covers, Bool.and_eq_true, decide_eq_true_eq] at hcovers
    omega
  · exact h

/-- No other character has a line feed in its lower-case form. -/
theorem eq_of_mem_lowerChar {c : Char} (h : '\n' ∈ lowerChar c) : c = '\n' := by
  have hexpansions : ∀ entry ∈ lowerExpansions, '\n' ∉ entry.2.map Char.ofNat := by decide
  rw [lowerChar_eq] at h
  cases hfound : lowerExpansions.lookup c.toNat with
  | some codes =>
    rw [hfound, Option.elim_some] at h
    obtain ⟨before, after, happend, -⟩ := List.lookup_eq_some_iff.mp hfound
    exact absurd h (hexpansions (c.toNat, codes) (by simp [happend]))
  | none =>
    rw [hfound, Option.elim_none] at h
    have hmoved := eq_of_ofNat_eq (List.mem_singleton.mp h).symm (by decide)
    have hcode := eq_of_mapCase_lowerRuns hmoved
    rw [← Char.ofNat_toNat c, hcode]

theorem not_mem_lowerAfter {cs : List Char} (h : '\n' ∉ cs) (afterCased : Bool) :
    '\n' ∉ lowerAfter afterCased cs := by
  induction cs generalizing afterCased with
  | nil => exact List.not_mem_nil
  | cons c cs ih =>
    rw [List.mem_cons, not_or] at h
    rw [lowerAfter, List.mem_append, not_or]
    refine ⟨?_, ih h.2 _⟩
    split
    · split
      · decide
      · decide
    · exact fun hmem => h.1 (eq_of_mem_lowerChar hmem).symm

/-- **Lower case** makes no line feed. -/
theorem not_mem_lower {cs : List Char} (h : '\n' ∉ cs) : '\n' ∉ lower cs :=
  not_mem_lowerAfter h false

end OAuthRedirect.Text
