/-!
# Cutting text at separators

The pieces every grammar of this library is made of, on lists of characters: the part before
the first separator (`cut`), the part after the last one (`afterLast`), the part after a known
beginning (`stripFront?`), the maximal runs free of separators (`runs`), and a list without its
trailing separators (`dropTrailing`).

Nothing is lost by `cut` and `stripFront?`: `append_of_cut` and `stripFront?_eq_some_iff` put
the text together again.
-/

namespace OAuthRedirect.Text

/-- The text before the first `sep`, and the text after it when there is one. -/
def cut (sep : Char) : List Char → List Char × Option (List Char)
  | [] => ([], none)
  | c :: cs => if c = sep then ([], some cs) else (c :: (cut sep cs).1, (cut sep cs).2)

/-- The text after the last `sep`, or the whole text when it holds none. -/
def afterLast (sep : Char) (cs : List Char) : List Char :=
  (cs.reverse.takeWhile (· ≠ sep)).reverse

/-- The text without the longest tail of characters that satisfy `p`. -/
def dropTrailing (p : Char → Bool) (cs : List Char) : List Char :=
  (cs.reverse.dropWhile p).reverse

/-- The maximal non-empty runs of elements that do not satisfy `sep`, in order. -/
def runs {α : Type} (sep : α → Bool) (xs : List α) : List (List α) :=
  (xs.splitOnP sep).filter fun run => !run.isEmpty

/-- The text after `front`, when it begins with that. -/
def stripFront? (front cs : List Char) : Option (List Char) :=
  if front.isPrefixOf cs then some (cs.drop front.length) else none

/-- Does `word` occur somewhere in the text as a contiguous piece? -/
def contains (word : List Char) : List Char → Bool
  | [] => word.isEmpty
  | c :: cs => word.isPrefixOf (c :: cs) || contains word cs

/-! ### Laws of `cut` -/

theorem cut_of_not_mem {sep : Char} {cs : List Char} (h : sep ∉ cs) : cut sep cs = (cs, none) := by
  induction cs with
  | nil => rfl
  | cons c cs ih =>
    rw [List.mem_cons, not_or] at h
    simp [cut, Ne.symm h.1, ih h.2]

theorem cut_append {sep : Char} {cs : List Char} (h : sep ∉ cs) (rest : List Char) :
    cut sep (cs ++ sep :: rest) = (cs, some rest) := by
  induction cs with
  | nil => simp [cut]
  | cons c cs ih =>
    rw [List.mem_cons, not_or] at h
    simp [cut, Ne.symm h.1, ih h.2]

/-- A text without separators in front makes the part before the first one longer. -/
theorem cut_append_of_not_mem {sep : Char} {cs : List Char} (h : sep ∉ cs) (ds : List Char) :
    cut sep (cs ++ ds) = (cs ++ (cut sep ds).1, (cut sep ds).2) := by
  induction cs with
  | nil => rfl
  | cons c cs ih =>
    rw [List.mem_cons, not_or] at h
    simp [cut, Ne.symm h.1, ih h.2]

/-- What stands after the first separator makes the part after it longer. -/
theorem cut_append_of_mem {sep : Char} {cs : List Char} (h : sep ∈ cs) (ds : List Char) :
    cut sep (cs ++ ds) = ((cut sep cs).1, (cut sep cs).2.map (· ++ ds)) := by
  induction cs with
  | nil => simp at h
  | cons c cs ih =>
    by_cases hc : c = sep
    · simp [cut, hc]
    · have hmem : sep ∈ cs := (List.mem_cons.1 h).resolve_left (Ne.symm hc)
      simp [cut, hc, ih hmem]

theorem prefix_cut_fst (sep : Char) (cs : List Char) : (cut sep cs).1 <+: cs := by
  induction cs with
  | nil => exact List.prefix_refl []
  | cons c cs ih =>
    rw [cut]
    split
    · exact List.nil_prefix
    · exact List.cons_prefix_cons.2 ⟨rfl, ih⟩

theorem not_mem_cut_fst (sep : Char) (cs : List Char) : sep ∉ (cut sep cs).1 := by
  induction cs with
  | nil => simp [cut]
  | cons c cs ih =>
    rw [cut]
    split
    · simp
    · rename_i h
      simp [ih, Ne.symm h]

theorem cut_snd_eq_none_iff {sep : Char} {cs : List Char} :
    (cut sep cs).2 = none ↔ sep ∉ cs := by
  induction cs with
  | nil => simp [cut]
  | cons c cs ih =>
    rw [cut]
    split
    · rename_i h
      simp [h]
    · rename_i h
      simp [ih, Ne.symm h]

/-- The two parts of a cut, with the separator between them, are the text. -/
theorem append_of_cut {sep : Char} {cs rest : List Char} (h : (cut sep cs).2 = some rest) :
    (cut sep cs).1 ++ sep :: rest = cs := by
  induction cs with
  | nil => simp [cut] at h
  | cons c cs ih =>
    rw [cut] at h ⊢
    split at h
    · rename_i hc
      simp_all
    · rename_i hc
      simp_all

theorem mem_of_mem_cut_fst {sep c : Char} {cs : List Char} (h : c ∈ (cut sep cs).1) :
    c ∈ cs :=
  (prefix_cut_fst sep cs).subset h

theorem mem_of_mem_cut_snd {sep c : Char} {cs : List Char} (h : c ∈ (cut sep cs).2.getD []) :
    c ∈ cs := by
  cases hcut : (cut sep cs).2 with
  | none => simp [hcut] at h
  | some after =>
    rw [hcut, Option.getD_some] at h
    rw [← append_of_cut hcut]
    exact List.mem_append_right _ (List.mem_cons_of_mem _ h)

/-- Without a separator the whole text stands after the last one. -/
theorem afterLast_of_not_mem {sep : Char} {cs : List Char} (h : sep ∉ cs) :
    afterLast sep cs = cs := by
  have hall : ∀ c ∈ cs.reverse, decide (c ≠ sep) = true := fun c hc => by
    have hne : c ≠ sep := fun heq => h (heq ▸ List.mem_reverse.1 hc)
    simpa using hne
  rw [afterLast, ← List.append_nil cs.reverse, List.takeWhile_append_of_pos hall]
  simp

/-! ### Laws of `stripFront?` -/

/-- What is left after a beginning is what has to follow it. -/
theorem stripFront?_eq_some_iff {front cs rest : List Char} :
    stripFront? front cs = some rest ↔ cs = front ++ rest := by
  rw [stripFront?]
  split
  · rename_i h
    obtain ⟨tail, rfl⟩ := List.isPrefixOf_iff_prefix.1 h
    simp [eq_comm]
  · rename_i h
    refine ⟨fun hn => by simp at hn, fun heq => absurd ?_ h⟩
    exact List.isPrefixOf_iff_prefix.2 ⟨rest, heq.symm⟩

/-! ### Laws of `dropTrailing` and `takeWhile` -/

/-- What is left is all that stands in front of the tail. -/
theorem dropTrailing_append {p : Char → Bool} {stem tail : List Char}
    (htail : ∀ c ∈ tail, p c = true) (hstem : ∀ c, stem.getLast? = some c → p c = false) :
    dropTrailing p (stem ++ tail) = stem := by
  have hreverse : ∀ c ∈ tail.reverse, p c = true := fun c hc => htail c (List.mem_reverse.1 hc)
  rw [dropTrailing, List.reverse_append, List.dropWhile_append_of_pos hreverse]
  cases hlast : stem.reverse with
  | nil => simpa using hlast.symm
  | cons c cs =>
    have hc : p c = false := hstem c (by rw [← List.head?_reverse, hlast]; rfl)
    rw [List.dropWhile_cons_of_neg (by simp [hc]), ← hlast, List.reverse_reverse]

theorem exists_dropTrailing (p : Char → Bool) (cs : List Char) :
    ∃ tail, cs = dropTrailing p cs ++ tail ∧ (∀ c ∈ tail, p c = true) ∧
      ∀ c, (dropTrailing p cs).getLast? = some c → p c = false := by
  refine ⟨(cs.reverse.takeWhile p).reverse, ?_, fun c hc => ?_, fun c hc => ?_⟩
  · rw [dropTrailing, ← List.reverse_append, List.takeWhile_append_dropWhile, List.reverse_reverse]
  · exact List.all_eq_true.1 List.all_takeWhile c (List.mem_reverse.1 hc)
  · rw [dropTrailing, List.getLast?_reverse] at hc
    have hhead := List.head?_dropWhile_not p cs.reverse
    rwa [hc] at hhead

theorem prefix_dropTrailing (p : Char → Bool) (cs : List Char) : dropTrailing p cs <+: cs := by
  obtain ⟨tail, happend, -⟩ := exists_dropTrailing p cs
  exact ⟨tail, happend.symm⟩

theorem drop_length_takeWhile (p : Char → Bool) (cs : List Char) :
    cs.drop (cs.takeWhile p).length = cs.dropWhile p := by
  have h : (cs.takeWhile p ++ cs.dropWhile p).drop (cs.takeWhile p).length = cs.dropWhile p :=
    List.drop_left
  rwa [List.takeWhile_append_dropWhile] at h

/-! ### Law of `contains` -/

theorem contains_iff {word cs : List Char} : contains word cs = true ↔ word <:+: cs := by
  induction cs with
  | nil => rw [contains, List.isEmpty_iff, List.infix_nil]
  | cons c cs ih =>
    rw [contains, Bool.or_eq_true, List.isPrefixOf_iff_prefix, ih, List.infix_cons_iff]

/-! ### Texts between separators -/

theorem map_intercalate {α β : Type} (f : α → β) (sep : List α) (pieces : List (List α)) :
    (sep.intercalate pieces).map f = (sep.map f).intercalate (pieces.map (List.map f)) := by
  induction pieces with
  | nil => rfl
  | cons piece rest ih =>
    cases rest with
    | nil => simp only [List.map_cons, List.map_nil, List.intercalate_singleton]
    | cons next rest =>
      rw [List.intercalate_cons_cons, List.map_append, List.map_append, ih, List.map_cons,
        List.map_cons, List.map_cons, List.intercalate_cons_cons]

theorem mem_of_mem_intercalate {sep c : Char} {pieces : List (List Char)}
    (h : c ∈ [sep].intercalate pieces) : c = sep ∨ ∃ piece ∈ pieces, c ∈ piece := by
  induction pieces with
  | nil => simp at h
  | cons piece rest ih =>
    cases rest with
    | nil =>
      rw [List.intercalate_singleton] at h
      exact .inr ⟨piece, List.mem_cons_self, h⟩
    | cons next rest =>
      rw [List.intercalate_cons_cons, List.append_assoc] at h
      obtain h | h := List.mem_append.1 h
      · exact .inr ⟨piece, List.mem_cons_self, h⟩
      · obtain h | h := List.mem_cons.1 h
        · exact .inl h
        · obtain h | ⟨found, hmem, hc⟩ := ih h
          · exact .inl h
          · exact .inr ⟨found, List.mem_cons_of_mem _ hmem, hc⟩

/-- A character other than the separator stands in one of the pieces. -/
theorem exists_mem_splitOn {sep c : Char} {cs : List Char} (h : c ∈ cs) (hne : c ≠ sep) :
    ∃ piece ∈ cs.splitOn sep, c ∈ piece := by
  have hjoin : [sep].intercalate (cs.splitOn sep) = cs := List.intercalate_splitOn sep
  rw [← hjoin] at h
  exact (mem_of_mem_intercalate h).resolve_left hne

end OAuthRedirect.Text
