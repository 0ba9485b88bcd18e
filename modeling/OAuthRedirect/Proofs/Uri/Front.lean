import OAuthRedirect.Proofs.Uri.Reassembly

/-!
# What the front of a text decides

The text of a reference with an authority begins with a scheme, two slashes and the authority.
Whatever stands in their places, scheme or not, what splitting finds as scheme and as authority is
found in this front of the text, and so is every fault (`splitFront_append`). So the other parts of
a reference have no part in what is read as its scheme and its authority, nor in why they are
refused (`origin_text`). Whether an authority is found in its place at all is up to the scheme
(`splitFront_cases`).
-/

namespace OAuthRedirect.Uri

/-! ### Cleaning -/

theorem mem_clean {cs : List Char} {c : Char} (hc : c ∈ cs) (h : 0x20 < c.toNat) :
    c ∈ clean cs := by
  rw [← List.takeWhile_append_dropWhile (p := fun c => decide (c.toNat ≤ 0x20)) (l := cs),
    List.mem_append] at hc
  rw [clean_eq_strip, strip, List.mem_filter]
  refine ⟨hc.resolve_left fun htake => ?_, by simp [isDropped_of_lt h]⟩
  have hblank := List.mem_takeWhile_imp htake
  simp only [decide_eq_true_eq] at hblank
  omega

/-- A text with a printing character in it has its front cleaned alone. -/
theorem clean_append {cs : List Char} {c : Char} (hc : c ∈ cs) (h : 0x20 < c.toNat)
    (rest : List Char) : clean (cs ++ rest) = clean cs ++ strip rest := by
  have hne : cs.dropWhile (fun c => decide (c.toNat ≤ 0x20)) ≠ [] := by
    intro hnil
    have := List.dropWhile_eq_nil_iff.mp hnil c hc
    simp only [decide_eq_true_eq] at this
    omega
  rw [clean_eq_strip, clean_eq_strip, List.dropWhile_append, if_neg (by simpa using hne),
    strip_append]

/-! ### Scheme and authority -/

theorem splitScheme_append_of_mem {cs : List Char} (h : ':' ∈ cs) (rest : List Char) :
    splitScheme (cs ++ rest) = ((splitScheme cs).1, (splitScheme cs).2 ++ rest) := by
  obtain ⟨after, hafter⟩ := Option.ne_none_iff_exists'.mp fun hnone =>
    Text.cut_snd_eq_none_iff.mp hnone h
  have hcut : Text.cut ':' cs = ((Text.cut ':' cs).1, some after) := Prod.ext rfl hafter
  generalize (Text.cut ':' cs).1 = before at hcut
  have happend : Text.cut ':' (cs ++ rest) = (before, some (after ++ rest)) := by
    rw [Text.cut_append_of_mem h, hcut, Option.map_some]
  rw [splitScheme, splitScheme, happend, hcut]
  cases before with
  | nil => rfl
  | cons first tail =>
    dsimp only
    split <;> rfl

/-- Behind a colon a text may hold anything, as far as its scheme goes. -/
theorem splitScheme_clean_append {before : List Char} (h : ':' ∈ before) (cs : List Char) :
    splitScheme (clean (before ++ cs)) =
      ((splitScheme (clean before)).1, (splitScheme (clean before)).2 ++ strip cs) := by
  rw [clean_append h (by decide), splitScheme_append_of_mem (mem_clean h (by decide))]

theorem splitAuthority_fst_append {cs rest : List Char} (hlength : 2 ≤ cs.length)
    (hr : FollowsAuthority rest) : (splitAuthority (cs ++ rest)).1 = (splitAuthority cs).1 := by
  by_cases hslashes : cs.take 2 = ['/', '/']
  · obtain ⟨after, rfl⟩ : ∃ after, cs = '/' :: '/' :: after :=
      ⟨cs.drop 2, by rw [← List.take_append_drop 2 cs, hslashes]; rfl⟩
    simp only [List.cons_append, splitAuthority, List.takeWhile_append, hr.takeWhile_eq_nil,
      List.append_nil]
    split
    · rename_i hall
      exact ((List.takeWhile_prefix _).eq_of_length hall).symm
    · rfl
  · have happend : (cs ++ rest).take 2 ≠ ['/', '/'] := by
      rwa [List.take_append_of_le_length hlength]
    rw [splitAuthority_of_take hslashes, splitAuthority_of_take happend]

/-- What splitting finds as scheme and as authority. -/
def splitFront (cs : List Char) : List Char × List Char :=
  ((splitScheme (clean cs)).1, (splitAuthority (splitScheme (clean cs)).2).1)

/-- Two slashes after a colon keep the text behind the authority out of both. -/
theorem splitFront_append_of_mem {before authority rest : List Char} (h : ':' ∈ before)
    (hr : FollowsAuthority rest) :
    splitFront (before ++ ('/' :: '/' :: authority ++ rest)) =
      splitFront (before ++ '/' :: '/' :: authority) := by
  have hlength :
      2 ≤ ((splitScheme (clean before)).2 ++ strip ('/' :: '/' :: authority)).length := by
    have hslashes : strip ('/' :: '/' :: authority) = '/' :: '/' :: strip authority := rfl
    rw [hslashes]
    simp only [List.length_append, List.length_cons]
    omega
  rw [splitFront, splitFront, splitScheme_clean_append h, splitScheme_clean_append h, strip_append,
    ← List.append_assoc, splitAuthority_fst_append hlength hr.strip]

/-- **The front decides.** -/
theorem splitFront_append (scheme : List Char) {authority rest : List Char}
    (hr : FollowsAuthority rest) :
    splitFront (front scheme ++ '/' :: '/' :: authority ++ rest) =
      splitFront (front scheme ++ '/' :: '/' :: authority) := by
  rw [List.append_assoc]
  by_cases hscheme : scheme = []
  · -- without a scheme the slashes come first, so that no colon after them counts
    have hread : ∀ cs, splitScheme (clean ('/' :: '/' :: cs)) = ([], '/' :: '/' :: strip cs) :=
      fun cs => by
        rw [clean_cons (by decide), strip_cons_of_not_isDropped (by decide), splitScheme_slash]
    have hfirst : splitAuthority ('/' :: '/' :: strip (authority ++ rest)) =
        splitAuthority ('/' :: '/' :: strip authority ++ strip rest) := by
      rw [strip_append, List.cons_append, List.cons_append]
    have hlength : 2 ≤ ('/' :: '/' :: strip authority).length := by simp
    rw [hscheme, front, if_pos rfl, List.nil_append, List.nil_append, splitFront, splitFront,
      List.cons_append, List.cons_append, hread, hread, hfirst,
      splitAuthority_fst_append hlength hr.strip]
  · rw [front, if_neg hscheme]
    exact splitFront_append_of_mem (by simp) hr

/-- **An authority is found, or it is out of reach.** Behind some schemes every authority without
delimiters is found, behind all others the same one is found whatever stands there. -/
theorem splitFront_cases (scheme : List Char) :
    (∃ found, ∀ authority, (∀ c ∈ authority, endsAuthority c = false ∧ isDropped c = false) →
      splitFront (front scheme ++ '/' :: '/' :: authority) = (found, authority)) ∨
    ∃ found, ∀ authority, splitFront (front scheme ++ '/' :: '/' :: authority) = found := by
  have hplain : ∀ authority : List Char,
      (∀ c ∈ authority, endsAuthority c = false ∧ isDropped c = false) →
        (splitAuthority ('/' :: '/' :: strip authority)).1 = authority := fun authority h => by
    have hall : ∀ c ∈ authority, (!endsAuthority c) = true := fun c hc => by simp [(h c hc).1]
    rw [strip_eq_self fun c hc => (h c hc).2, splitAuthority]
    simp [List.takeWhile_eq_self_iff.mpr hall]
  by_cases hscheme : scheme = []
  · refine .inl ⟨[], fun authority h => ?_⟩
    rw [hscheme, front, if_pos rfl, List.nil_append, splitFront, clean_cons (by decide),
      strip_cons_of_not_isDropped (by decide), splitScheme_slash, hplain authority h]
  · -- the colon keeps what is read in front of it apart from what stands behind
    have hcolon : ':' ∈ front scheme := by simp [front, hscheme]
    have hread : ∀ authority, splitScheme (clean (front scheme ++ '/' :: '/' :: authority)) =
        ((splitScheme (clean (front scheme))).1,
          (splitScheme (clean (front scheme))).2 ++ '/' :: '/' :: strip authority) :=
      fun authority => splitScheme_clean_append hcolon ('/' :: '/' :: authority)
    generalize splitScheme (clean (front scheme)) = before at hread
    by_cases hrest : before.2 = []
    · refine .inl ⟨before.1, fun authority h => ?_⟩
      rw [splitFront, hread, hrest, List.nil_append, hplain authority h]
    · refine .inr ⟨(before.1, (splitAuthority (before.2 ++ ['/'])).1), fun authority => ?_⟩
      have hlength : 2 ≤ (before.2 ++ ['/']).length := by
        have hpos := List.length_pos_iff.mpr hrest
        rw [List.length_append, List.length_singleton]
        omega
      have hsplit := splitAuthority_fst_append hlength (followsAuthority_slash (strip authority))
      rw [List.append_assoc, List.singleton_append] at hsplit
      rw [splitFront, hread, hsplit]

/-! ### Splitting -/

/-- Scheme and authority of a text, or what is wrong with its authority. -/
def origin (text : String) : Except UriError (String × String) :=
  (split text).map fun u => (u.scheme, u.authority)

/-- Checks the authority that was found in front. -/
def checkFront (found : List Char × List Char) : Except UriError (String × String) := do
  checkBrackets found.2
  checkCompatibility found.2
  pure (String.ofList found.1, String.ofList found.2)

theorem IsSound.checkFront {authority : List Char} (h : IsSound authority) (scheme : List Char) :
    checkFront (scheme, authority) = .ok (String.ofList scheme, String.ofList authority) := by
  rw [Uri.checkFront, h.brackets, h.compatibility]
  rfl

/-- What is found in front is all that the origin of a text depends on. -/
theorem origin_eq_checkFront (text : String) :
    origin text = checkFront (splitFront text.toList) := by
  rw [origin, split, checkFront, splitFront]
  simp only
  cases checkBrackets (splitAuthority (splitScheme (clean text.toList)).2).1 with
  | error e => rfl
  | ok _ =>
    cases checkCompatibility (splitAuthority (splitScheme (clean text.toList)).2).1 with
    | error e => rfl
    | ok _ => rfl

/-- The origin of a reference with an authority is found in its scheme and its authority. -/
theorem origin_text {u : Uri} (hne : u.authority ≠ "") :
    origin u.text =
      checkFront (splitFront (front u.scheme.toList ++ '/' :: '/' :: u.authority.toList)) := by
  rw [origin_eq_checkFront, toList_text (.inl hne), splitFront_append _ u.followsAuthority_rest]

end OAuthRedirect.Uri
