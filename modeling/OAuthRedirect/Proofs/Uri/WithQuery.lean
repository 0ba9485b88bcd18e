import OAuthRedirect.Proofs.Uri.Reassembly

/-!
# References with another query

A reference is sent with a longer query than the one it had, and whoever takes its text apart
again should find the scheme, the authority and the path that it had. With an authority that is
so. Without one, the text can be read in another way: a path that begins with two slashes looks
like an authority, and a scheme whose references have an authority puts a slash in front of a path
that has none. References in which neither happens are **steady** (`Uri.IsSteady`), and those are
the ones that keep their parts (`split_withQuery_iff`).

The parts of a reference without an authority are described by `Uri.Bare`, as `Uri.Canonical`
describes those of a reference with one.
-/

namespace OAuthRedirect.Uri

/-! ### Paths and what follows them -/

/-- A path as splitting leaves it: no character in it ends a path or is taken out. -/
def IsPath (cs : List Char) : Prop :=
  ∀ c ∈ cs, c ≠ '?' ∧ c ≠ '#' ∧ isDropped c = false

theorem IsPath.strip_eq {cs : List Char} (h : IsPath cs) : strip cs = cs :=
  strip_eq_self fun c hc => (h c hc).2.2

theorem IsPath.cons {c : Char} (hc : c ≠ '?' ∧ c ≠ '#' ∧ isDropped c = false) {cs : List Char}
    (h : IsPath cs) : IsPath (c :: cs) :=
  List.forall_mem_cons.mpr ⟨hc, h⟩

theorem IsPath.of_cons {c : Char} {cs : List Char} (h : IsPath (c :: cs)) : IsPath cs :=
  (List.forall_mem_cons.mp h).2

/-- What may follow a path: nothing, or a text that begins with `?` or `#`. -/
def FollowsPath (cs : List Char) : Prop :=
  cs = [] ∨ ∃ mark rest, (mark = '?' ∨ mark = '#') ∧ cs = mark :: rest

theorem FollowsPath.strip {tail : List Char} (h : FollowsPath tail) :
    FollowsPath (strip tail) := by
  rcases h with rfl | ⟨mark, rest, hmark, rfl⟩
  · exact .inl rfl
  · have hdropped : isDropped mark = false := by rcases hmark with rfl | rfl <;> rfl
    exact .inr ⟨mark, _, hmark, strip_cons_of_not_isDropped hdropped rest⟩

theorem followsPath_announced (query fragment : List Char) :
    FollowsPath (announced '?' query ++ announced '#' fragment) := by
  unfold announced
  split
  · split
    · exact .inl rfl
    · exact .inr ⟨'#', _, .inr rfl, rfl⟩
  · exact .inr ⟨'?', _, .inl rfl, rfl⟩

/-- A path ends where the text after it begins. -/
theorem path_ofRest_append {path tail : List Char} (hpath : IsPath path)
    (htail : FollowsPath tail) (scheme authority : List Char) :
    (ofRest scheme authority (path ++ tail)).path = String.ofList path := by
  have hsharp : '#' ∉ path := fun hc => (hpath _ hc).2.1 rfl
  have hmark : '?' ∉ path := fun hc => (hpath _ hc).1 rfl
  have hnothing : (Text.cut '?' (Text.cut '#' tail).1).1 = [] := by
    rcases htail with rfl | ⟨_, rest, rfl | rfl, rfl⟩
    · rfl
    · simp [Text.cut]
    · simp [Text.cut]
  simp only [ofRest, Text.cut_append_of_not_mem hsharp, Text.cut_append_of_not_mem hmark, hnothing,
    List.append_nil]

/-! ### Texts without a scheme -/

/-- A text that begins with a scheme and its colon. -/
def HasScheme (cs : List Char) : Prop :=
  ∃ scheme rest, IsScheme scheme ∧ cs = scheme ++ ':' :: rest

theorem splitScheme_of_not_hasScheme {cs : List Char} (h : ¬ HasScheme cs) :
    splitScheme cs = ([], cs) := by
  unfold splitScheme
  split
  · rename_i first rest after heq
    split
    · rename_i hfits
      rw [Bool.and_eq_true, List.all_eq_true] at hfits
      have hafter : (Text.cut ':' cs).2 = some after := by rw [heq]
      have happend : first :: rest ++ ':' :: after = cs := by
        have hcut := Text.append_of_cut hafter
        rwa [heq] at hcut
      exact absurd ⟨first :: rest, after, ⟨⟨first, rest, rfl, hfits.1⟩, hfits.2⟩,
        happend.symm⟩ h
    · rfl
  · rfl

theorem not_hasScheme_of_splitScheme {cs : List Char} (h : (splitScheme cs).1 = []) :
    ¬ HasScheme cs := by
  rintro ⟨scheme, rest, hscheme, rfl⟩
  obtain ⟨first, tail, rfl, -⟩ := hscheme.head
  rw [splitScheme_append hscheme] at h
  contradiction

/-- What follows a path does not make its beginning a scheme. -/
theorem not_hasScheme_append {path tail : List Char} (h : ¬ HasScheme path)
    (htail : FollowsPath tail) : ¬ HasScheme (path ++ tail) := by
  rintro ⟨scheme, rest, hscheme, heq⟩
  -- no mark is a colon or part of a scheme, so the scheme and its colon stand in the path
  have hmark : ∀ cs, (∀ c ∈ cs, isSchemeChar c = true) → tail ≠ cs ++ ':' :: rest := by
    rintro cs hall rfl
    rcases htail with hnil | ⟨mark, more, hmark, hcons⟩
    · simp at hnil
    · cases cs with
      | nil =>
        obtain ⟨rfl, -⟩ : ':' = mark ∧ _ := by simpa using hcons
        simp at hmark
      | cons c cs =>
        obtain ⟨rfl, -⟩ : c = mark ∧ _ := by simpa using hcons
        have hnot : isSchemeChar c = false := by rcases hmark with rfl | rfl <;> rfl
        simp [hall c List.mem_cons_self] at hnot
  rcases List.append_eq_append_iff.mp heq with ⟨middle, hsplit, htail'⟩ | ⟨middle, hsplit, hrest⟩
  · exact hmark middle (fun c hc => hscheme.all c (by simp [hsplit, hc])) htail'
  · cases middle with
    | nil => exact hmark [] (by simp) hrest.symm
    | cons c middle =>
      obtain ⟨rfl, -⟩ : ':' = c ∧ _ := by simpa using hrest
      exact h ⟨scheme, middle, hscheme, hsplit⟩

theorem splitScheme_snd_of_fst {cs : List Char} (h : (splitScheme cs).1 = []) :
    (splitScheme cs).2 = cs := by
  rw [splitScheme_of_not_hasScheme (not_hasScheme_of_splitScheme h)]

/-! ### Texts without an authority -/

theorem take_append_ne {path tail : List Char} (h : path.take 2 ≠ ['/', '/'])
    (htail : FollowsPath tail) : (path ++ tail).take 2 ≠ ['/', '/'] := by
  rcases htail with rfl | ⟨mark, rest, hmark, rfl⟩
  · simpa using h
  · have hslash : mark ≠ '/' := by rcases hmark with rfl | rfl <;> decide
    match path with
    | [] => simp [hslash]
    | [c] => simp [hslash]
    | c :: d :: path => simpa using h

theorem isSound_nil : IsSound [] := ⟨rfl, rfl⟩

/-! ### Texts that are left whole -/

/-- A text that nothing is taken off the front of, no space and no scheme. -/
structure Unmarked (cs : List Char) : Prop where
  scheme : ¬ HasScheme cs
  printing : ∀ c, cs.head? = some c → 0x20 < c.toNat

theorem Unmarked.of_front {cs ds : List Char} (h : Unmarked ds) (hfront : cs <+: ds) :
    Unmarked cs := by
  obtain ⟨more, rfl⟩ := hfront
  constructor
  case scheme =>
    rintro ⟨scheme, rest, hscheme, rfl⟩
    exact h.scheme ⟨scheme, rest ++ more, hscheme, by simp⟩
  case printing =>
    intro c hc
    exact h.printing c (by simp [hc])

theorem Unmarked.append {path tail : List Char} (h : Unmarked path) (htail : FollowsPath tail) :
    Unmarked (path ++ tail) where
  scheme := not_hasScheme_append h.scheme htail
  printing c hc := by
    cases path with
    | cons d path => exact h.printing c hc
    | nil =>
      rcases htail with rfl | ⟨mark, rest, hmark, rfl⟩
      · simp at hc
      · obtain rfl : mark = c := by simpa using hc
        rcases hmark with rfl | rfl <;> decide

/-- A path that is rooted or empty is left whole. -/
theorem unmarked_of_rooted {cs : List Char} (h : cs = [] ∨ cs.head? = some '/') :
    Unmarked cs := by
  rcases h with rfl | h
  · exact ⟨fun ⟨_, _, _, heq⟩ => by simp at heq, fun c hc => by simp at hc⟩
  · obtain ⟨tail, rfl⟩ := List.head?_eq_some_iff.mp h
    refine ⟨not_hasScheme_of_splitScheme (by rw [splitScheme_slash]), fun c hc => ?_⟩
    obtain rfl : '/' = c := by simpa using hc
    decide

/-- A cleaned text is left whole when no scheme is found in it. -/
theorem unmarked_clean {cs : List Char} (h : (splitScheme (clean cs)).1 = []) :
    Unmarked (clean cs) where
  scheme := not_hasScheme_of_splitScheme h
  printing c hc := by
    cases hfront : cs.dropWhile (fun c => decide (c.toNat ≤ 0x20)) with
    | nil =>
      rw [clean_eq_strip, hfront] at hc
      contradiction
    | cons d ds =>
      have hnot := List.head_dropWhile_not (fun c : Char => decide (c.toNat ≤ 0x20))
        (l := cs) (by simp [hfront])
      have hd : 0x20 < d.toNat := by simpa [hfront] using hnot
      rw [clean_eq_strip, hfront, strip_cons_of_not_isDropped (isDropped_of_lt hd)] at hc
      obtain rfl : d = c := by simpa using hc
      exact hd

/-! ### References without an authority -/

/-- A reference without an authority whose scheme and path are as splitting leaves them. -/
structure Bare (u : Uri) : Prop where
  scheme : u.scheme.toList = [] ∨
    IsScheme u.scheme.toList ∧ u.scheme.toList.map Char.toLower = u.scheme.toList
  authority : u.authority = ""
  path : IsPath u.path.toList
  unmarked : u.scheme.toList = [] → Unmarked u.path.toList

/-- Two slashes with no authority after them are taken off. -/
theorem splitAuthority_slashes_snd {rest : List Char}
    (h : (splitAuthority ('/' :: '/' :: rest)).1 = []) :
    (splitAuthority ('/' :: '/' :: rest)).2 = rest := by
  simp only [splitAuthority] at h ⊢
  have happend : rest.takeWhile (!endsAuthority ·) ++ rest.dropWhile (!endsAuthority ·) = rest :=
    List.takeWhile_append_dropWhile
  rwa [h] at happend

/-- A text without an authority stands behind the scheme as it is, or behind two slashes. -/
theorem rest_of_splitAuthority_fst {cs : List Char} (h : (splitAuthority cs).1 = []) :
    (splitAuthority cs).2 = cs ∨
      cs = '/' :: '/' :: (splitAuthority cs).2 ∧ FollowsAuthority (splitAuthority cs).2 := by
  rcases splitAuthority_cases cs with hnone | ⟨happend, -, hfollows⟩
  · exact .inl (congrArg Prod.snd hnone)
  · rw [h] at happend
    exact .inr ⟨happend, hfollows⟩

/-- **Splitting leaves a bare reference** where it finds no authority. -/
theorem bare_of_split {s : String} {u : Uri} (h : split s = .ok u) (hnone : u.authority = "") :
    u.Bare := by
  obtain ⟨-, rfl⟩ := split_eq_ok_iff.mp h
  have hscheme := splitScheme_fst (clean s.toList)
  have hkept : ∀ c ∈ (splitScheme (clean s.toList)).2, isDropped c = false :=
    fun c hc => isDropped_of_mem_clean ((splitScheme_snd_suffix _).subset hc)
  have hwhole : (splitScheme (clean s.toList)).1 = [] →
      Unmarked (splitScheme (clean s.toList)).2 := fun hnil => by
    rw [splitScheme_snd_of_fst hnil]
    exact unmarked_clean hnil
  generalize (splitScheme (clean s.toList)).1 = scheme at *
  generalize (splitScheme (clean s.toList)).2 = hier at *
  have hauthority : (splitAuthority hier).1 = [] := by simpa [ofRest] using hnone
  have hrest := rest_of_splitAuthority_fst hauthority
  rw [hauthority]
  generalize (splitAuthority hier).2 = rest at *
  have hsubset : rest ⊆ hier := by
    rcases hrest with rfl | ⟨rfl, -⟩
    · exact List.Subset.refl rest
    · exact fun c hc => List.mem_cons_of_mem _ (List.mem_cons_of_mem _ hc)
  constructor
  case scheme => simpa [ofRest] using hscheme
  case authority => rfl
  case path =>
    intro c hc
    rw [ofRest, String.toList_ofList] at hc
    have hbefore := Text.mem_of_mem_cut_fst hc
    refine ⟨?_, ?_, hkept c (hsubset (Text.mem_of_mem_cut_fst hbefore))⟩
    · rintro rfl
      exact Text.not_mem_cut_fst '?' _ hc
    · rintro rfl
      exact Text.not_mem_cut_fst '#' _ hbefore
  case unmarked =>
    intro hempty
    obtain rfl : scheme = [] := by simpa [ofRest] using hempty
    rw [ofRest, String.toList_ofList]
    rcases hrest with rfl | ⟨-, hfollows⟩
    · exact (hwhole rfl).of_front ((Text.prefix_cut_fst _ _).trans (Text.prefix_cut_fst _ _))
    · exact unmarked_of_rooted hfollows.rooted

/-! ### Splitting the texts of bare references -/

/-- **Splitting a text without an authority.** The scheme and the path come out as they were put
in, and what follows the path makes up the other parts. -/
theorem split_ofList_bare {scheme path tail : List Char} (hs : scheme = [] ∨ IsScheme scheme)
    (hpath : IsPath path) (hslashes : path.take 2 ≠ ['/', '/'])
    (hwhole : scheme = [] → Unmarked path) (htail : FollowsPath tail) :
    split (String.ofList (front scheme ++ path ++ tail)) =
      .ok (ofRest (scheme.map Char.toLower) [] (path ++ strip tail)) := by
  have hunmarked : scheme = [] → Unmarked (path ++ tail) := fun hnil =>
    (hwhole hnil).append htail
  have hclean : clean (front scheme ++ (path ++ tail)) = front scheme ++ (path ++ strip tail) := by
    rw [clean_front hs fun hnil => (hunmarked hnil).printing, strip_append, hpath.strip_eq]
  have hscheme : splitScheme (front scheme ++ (path ++ strip tail)) =
      (scheme.map Char.toLower, path ++ strip tail) :=
    splitScheme_front hs fun hnil => splitScheme_of_not_hasScheme
      ((hwhole hnil).append htail.strip).scheme
  rw [split_eq_ok_iff, String.toList_ofList, List.append_assoc, hclean, hscheme,
    splitAuthority_of_take (take_append_ne hslashes htail.strip)]
  exact ⟨isSound_nil, rfl⟩

/-- The text of a reference behind its path. -/
def afterPath (u : Uri) : List Char :=
  announced '?' u.query.toList ++ announced '#' u.fragment.toList

theorem followsPath_afterPath (u : Uri) : FollowsPath u.afterPath :=
  followsPath_announced u.query.toList u.fragment.toList

/-- Behind two slashes a path is read back, with a slash in front if it has none of its own. -/
theorem path_ofRest_rest {u : Uri} (h : IsPath u.path.toList) (scheme authority : List Char) :
    (ofRest scheme authority (strip u.rest)).path =
      if u.path = "" ∨ u.path.toList.head? = some '/' then u.path else "/" ++ u.path := by
  have hread : ∀ path : List Char, IsPath path →
      (ofRest scheme authority (strip (path ++ u.afterPath))).path = String.ofList path := by
    intro path hpath
    rw [strip_append, hpath.strip_eq]
    exact path_ofRest_append hpath u.followsPath_afterPath.strip scheme authority
  rw [rest, List.append_assoc, ← afterPath]
  by_cases hrooted : u.path = "" ∨ u.path.toList.head? = some '/'
  · rw [if_pos hrooted, if_pos (by simpa using hrooted), hread _ h, String.ofList_toList]
  · rw [if_neg hrooted, if_neg (by simpa using hrooted), hread _ (h.cons (by decide))]
    exact String.toList_inj.mp (by simp)

/-! ### Keeping the endpoint -/

/-- Two references that differ in query and fragment only. -/
structure SameEndpoint (u v : Uri) : Prop where
  scheme : u.scheme = v.scheme
  authority : u.authority = v.authority
  path : u.path = v.path

/-- A reference whose text cannot be read in another way up to its path: it has an authority, or its
path does not begin with two slashes and is empty or rooted where the scheme wants an authority. -/
def IsSteady (u : Uri) : Prop :=
  u.authority ≠ "" ∨
    u.path.toList.take 2 ≠ ['/', '/'] ∧
      (u.scheme ∈ authoritySchemes → u.path = "" ∨ u.path.toList.head? = some '/')

instance : DecidablePred IsSteady := fun u =>
  inferInstanceAs (Decidable (u.authority ≠ "" ∨
    u.path.toList.take 2 ≠ ['/', '/'] ∧
      (u.scheme ∈ authoritySchemes → u.path = "" ∨ u.path.toList.head? = some '/')))

namespace Bare

variable {u : Uri}

theorem isScheme (h : u.Bare) : u.scheme.toList = [] ∨ IsScheme u.scheme.toList :=
  h.scheme.imp_right And.left

/-- The path of a bare reference that is not written with two slashes follows the scheme. -/
theorem toList_text (h : u.Bare)
    (hpath : u.scheme ∈ authoritySchemes → u.path.toList.take 2 = ['/', '/']) :
    u.text.toList = front u.scheme.toList ++ u.path.toList ++ u.afterPath := by
  have hhierarchy : hierarchy u.scheme u.authority u.path = u.path := by
    rw [hierarchy, if_neg (by simpa [h.authority] using hpath)]
  rw [toList_text_eq, hhierarchy, afterPath, List.append_assoc]

/-- A scheme that wants an authority gets two slashes, and puts a slash before the path. -/
theorem sameEndpoint_of_mem (h : u.Bare) (hscheme : u.scheme ∈ authoritySchemes)
    (hslashes : u.path.toList.take 2 ≠ ['/', '/']) :
    (∃ v, split u.text = .ok v ∧ v.SameEndpoint u) ↔
      u.path = "" ∨ u.path.toList.head? = some '/' := by
  have hsplit : split u.text =
      .ok (ofRest u.scheme.toList u.authority.toList (strip u.rest)) := by
    have hnil : u.authority.toList = [] := by simp [h.authority]
    rw [split_text_eq h.isScheme (.inr ⟨hscheme, hslashes⟩) (by simp [hnil])
      (by rw [hnil]; exact isSound_nil), map_toLower_eq_self h.scheme]
  have hpath := path_ofRest_rest h.path u.scheme.toList u.authority.toList
  rw [hsplit]
  constructor
  · rintro ⟨_, hv, hsame⟩
    obtain rfl := Except.ok.inj hv
    by_contra hrooted
    rw [if_neg hrooted] at hpath
    have hlength := congrArg String.length (hpath.symm.trans hsame.path)
    simp at hlength
  · intro hrooted
    rw [if_pos hrooted] at hpath
    exact ⟨_, rfl, ⟨String.ofList_toList, String.ofList_toList, hpath⟩⟩

/-- A path that follows the scheme and does not look like an authority is read back. -/
theorem sameEndpoint_of_not_mem (h : u.Bare) (hscheme : u.scheme ∉ authoritySchemes)
    (hslashes : u.path.toList.take 2 ≠ ['/', '/']) :
    ∃ v, split u.text = .ok v ∧ v.SameEndpoint u := by
  have hsplit := split_ofList_bare h.isScheme h.path hslashes h.unmarked u.followsPath_afterPath
  rw [← h.toList_text fun hmem => absurd hmem hscheme, String.ofList_toList,
    map_toLower_eq_self h.scheme] at hsplit
  refine ⟨_, hsplit, String.ofList_toList, h.authority.symm, ?_⟩
  rw [path_ofRest_append h.path u.followsPath_afterPath.strip, String.ofList_toList]

/-- A path that looks like an authority is read as one. -/
theorem split_text_of_slashes (h : u.Bare) {path : List Char}
    (hpath : u.path.toList = '/' :: '/' :: path) {v : Uri} :
    split u.text = .ok v ↔
      IsSound (splitAuthority ('/' :: '/' :: (path ++ strip u.afterPath))).1 ∧
        v = ofRest u.scheme.toList (splitAuthority ('/' :: '/' :: (path ++ strip u.afterPath))).1
          (splitAuthority ('/' :: '/' :: (path ++ strip u.afterPath))).2 := by
  have hplain : ∀ c ∈ path, isDropped c = false := fun c hc =>
    (h.path c (by simp [hpath, hc])).2.2
  have hscheme : splitScheme (front u.scheme.toList ++ '/' :: '/' :: path ++ strip u.afterPath) =
      (u.scheme.toList, '/' :: '/' :: (path ++ strip u.afterPath)) := by
    rw [List.append_assoc, List.cons_append, List.cons_append,
      splitScheme_front h.isScheme fun _ => splitScheme_slash _, map_toLower_eq_self h.scheme]
  rw [split_eq_ok_iff, h.toList_text fun _ => by rw [hpath]; rfl, hpath,
    clean_front_append h.isScheme hplain, hscheme]

/-- So it is not read back: it loses two slashes at least. -/
theorem not_sameEndpoint_of_slashes (h : u.Bare) {path : List Char}
    (hpath : u.path.toList = '/' :: '/' :: path) {v : Uri} (hsplit : split u.text = .ok v) :
    ¬ v.SameEndpoint u := by
  intro hsame
  obtain ⟨-, rfl⟩ := (h.split_text_of_slashes hpath).mp hsplit
  have hleft : IsPath path := (hpath ▸ h.path).of_cons.of_cons
  -- without an authority, the two slashes are gone and the path is what is left of it
  have hnone : (splitAuthority ('/' :: '/' :: (path ++ strip u.afterPath))).1 = [] := by
    simpa [ofRest, h.authority] using hsame.authority
  have hshort := hsame.path
  rw [splitAuthority_slashes_snd hnone,
    path_ofRest_append hleft u.followsPath_afterPath.strip] at hshort
  have hlength : path.length = u.path.toList.length := by rw [← hshort, String.toList_ofList]
  simp only [hpath, List.length_cons] at hlength
  omega

/-- **A bare reference keeps its endpoint** when it is steady, and only then. -/
theorem sameEndpoint_iff (h : u.Bare) :
    (∃ v, split u.text = .ok v ∧ v.SameEndpoint u) ↔ u.IsSteady := by
  rw [IsSteady, or_iff_right (by simp [h.authority])]
  by_cases hslashes : u.path.toList.take 2 = ['/', '/']
  · obtain ⟨path, hpath⟩ : ∃ path, u.path.toList = '/' :: '/' :: path := by
      obtain ⟨path, hpath⟩ := List.take_prefix 2 u.path.toList
      exact ⟨path, by rw [← hpath, hslashes]; rfl⟩
    refine ⟨fun ⟨v, hsplit, hsame⟩ => ?_, fun hsteady => absurd hslashes hsteady.1⟩
    exact absurd hsame (h.not_sameEndpoint_of_slashes hpath hsplit)
  · by_cases hscheme : u.scheme ∈ authoritySchemes
    · rw [h.sameEndpoint_of_mem hscheme hslashes]
      simp [hslashes, hscheme]
    · simp [h.sameEndpoint_of_not_mem hscheme hslashes, hslashes, hscheme]

end Bare

/-- A reference with an authority keeps its endpoint. -/
theorem Canonical.sameEndpoint {u : Uri} (h : u.Canonical) (query : String) :
    ∃ v, split ({ u with query := query } : Uri).text = .ok v ∧
      v.SameEndpoint { u with query := query } := by
  have hscheme : u.scheme.toList = [] ∨ IsScheme u.scheme.toList := h.scheme.imp_right And.left
  have hsplit := split_text_eq (u := { u with query := query }) hscheme (.inl h.authority_ne_empty)
    h.authority h.sound
  refine ⟨_, hsplit, ?_, String.ofList_toList, ?_⟩
  · rw [ofRest, map_toLower_eq_self h.scheme, String.ofList_toList]
  · have hpath := path_ofRest_rest (u := { u with query := query }) h.path
      (u.scheme.toList.map Char.toLower) u.authority.toList
    rwa [if_pos (by simpa using h.rooted)] at hpath

/-- The query has no part in the endpoint. -/
theorem sameEndpoint_withQuery {u v : Uri} (query : String) :
    v.SameEndpoint { u with query := query } ↔ v.SameEndpoint u :=
  ⟨fun h => ⟨h.scheme, h.authority, h.path⟩, fun h => ⟨h.scheme, h.authority, h.path⟩⟩

/-- **Keeping the endpoint.** Give a reference another query, and take the text of that apart.
Scheme, authority and path are those of the reference exactly when it is steady. -/
theorem split_withQuery_iff {s : String} {u : Uri} (h : split s = .ok u) (query : String) :
    (∃ v, split ({ u with query := query } : Uri).text = .ok v ∧ v.SameEndpoint u) ↔
      u.IsSteady := by
  simp only [← sameEndpoint_withQuery (u := u) query]
  by_cases hne : u.authority = ""
  · have hbare := bare_of_split h hne
    have hbare' : ({ u with query := query } : Uri).Bare :=
      ⟨hbare.scheme, hbare.authority, hbare.path, hbare.unmarked⟩
    exact hbare'.sameEndpoint_iff
  · exact ⟨fun _ => .inl hne, fun _ => (canonical_of_split h hne).sameEndpoint query⟩

end OAuthRedirect.Uri
