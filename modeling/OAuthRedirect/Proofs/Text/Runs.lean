import OAuthRedirect.Text.Split

/-!
# Maximal runs

A run of a text is a piece of it that is not empty, holds no separator and cannot be made longer
(`Text.IsRun`). These are what is left when a text is cut at its separators and the empty pieces
are dropped (`Text.mem_runs_iff`).
-/

namespace OAuthRedirect.Text

variable {α : Type} {sep : α → Bool} {xs piece : List α}

/-- A piece without separators, between two of them or an end of the list. -/
structure IsPiece (sep : α → Bool) (xs piece : List α) : Prop where
  free : ∀ x ∈ piece, sep x = false
  bounded : ∃ before after, xs = before ++ piece ++ after ∧
    (∀ x, before.getLast? = some x → sep x = true) ∧ ∀ x, after.head? = some x → sep x = true

/-- A maximal run without separators. -/
structure IsRun (sep : α → Bool) (xs run : List α) : Prop extends IsPiece sep xs run where
  ne_nil : run ≠ []

/-! ### Pieces of two parts -/

theorem IsPiece.append_right (h : IsPiece sep xs piece) {s : α} (hs : sep s = true)
    (ys : List α) : IsPiece sep (xs ++ s :: ys) piece := by
  obtain ⟨before, after, rfl, hbefore, hafter⟩ := h.bounded
  refine ⟨h.free, before, after ++ s :: ys, by simp, hbefore, fun x hx => ?_⟩
  cases after with
  | nil => exact Option.some.inj hx ▸ hs
  | cons first rest => exact hafter x hx

theorem IsPiece.append_left {ys : List α} (h : IsPiece sep ys piece) {s : α} (hs : sep s = true)
    (xs : List α) : IsPiece sep (xs ++ s :: ys) piece := by
  obtain ⟨before, after, rfl, hbefore, hafter⟩ := h.bounded
  refine ⟨h.free, xs ++ s :: before, after, by simp, fun x hx => ?_, hafter⟩
  rw [List.getLast?_append, List.getLast?_cons, Option.some_or, Option.some.injEq] at hx
  cases hlast : before.getLast? with
  | none => simpa [hlast, ← hx] using hs
  | some last => exact hbefore x (by simpa [hlast] using hx)

/-! ### Cutting at separators -/

theorem isPiece_of_mem_splitOnP (h : piece ∈ xs.splitOnP sep) : IsPiece sep xs piece := by
  -- a list with a separator is two shorter lists with the separator between them
  induction hlength : xs.length using Nat.strongRecOn generalizing xs with
  | _ n ih =>
    by_cases hfree : ∀ x ∈ xs, sep x = false
    · rw [List.splitOnP_eq_singleton hfree, List.mem_singleton] at h
      subst h
      exact ⟨hfree, [], [], by simp, by simp, by simp⟩
    · simp only [Classical.not_forall, Bool.not_eq_false] at hfree
      obtain ⟨s, hmem, hs⟩ := hfree
      obtain ⟨front, back, rfl⟩ := List.append_of_mem hmem
      rw [List.splitOnP_append_cons front back hs] at h
      rw [List.length_append, List.length_cons] at hlength
      obtain h | h := List.mem_append.mp h
      · exact (ih front.length (by omega) h rfl).append_right hs back
      · exact (ih back.length (by omega) h rfl).append_left hs front

theorem IsPiece.mem_splitOnP (h : IsPiece sep xs piece) : piece ∈ xs.splitOnP sep := by
  obtain ⟨before, after, rfl, hbefore, hafter⟩ := h.bounded
  have hpiece : piece ∈ (piece ++ after).splitOnP sep := by
    cases after with
    | nil => simp [List.splitOnP_eq_singleton h.free]
    | cons s rest => simp [List.splitOnP_append_cons_of_forall_mem h.free s (hafter s rfl)]
  obtain rfl | ⟨front, s, rfl⟩ := before.eq_nil_or_concat
  · exact hpiece
  · have hs : sep s = true := hbefore s (by simp)
    rw [List.concat_eq_append, List.append_assoc, List.append_assoc, List.singleton_append,
      List.splitOnP_append_cons _ _ hs]
    exact List.mem_append_right _ hpiece

/-- Cutting at the separators gives the pieces between them. -/
theorem mem_splitOnP_iff : piece ∈ xs.splitOnP sep ↔ IsPiece sep xs piece :=
  ⟨isPiece_of_mem_splitOnP, IsPiece.mem_splitOnP⟩

theorem not_mem_of_mem_splitOn [DecidableEq α] {x : α} {piece : List α} (h : piece ∈ xs.splitOn x) :
    x ∉ piece := fun hx => by
  rw [List.splitOn_eq_splitOnP, mem_splitOnP_iff] at h
  simpa using h.free x hx

/-- **The runs of a text** are its maximal pieces without separators. -/
theorem mem_runs_iff {run : List α} : run ∈ runs sep xs ↔ IsRun sep xs run := by
  rw [runs, List.mem_filter, mem_splitOnP_iff, Bool.not_eq_true', List.isEmpty_eq_false_iff]
  exact ⟨fun ⟨hpiece, hne⟩ => ⟨hpiece, hne⟩, fun h => ⟨h.toIsPiece, h.ne_nil⟩⟩

end OAuthRedirect.Text
