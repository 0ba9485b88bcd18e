import Mathlib.Logic.Basic
import OAuthRedirect.Http.Request

/-!
# Paths below a context path

The path of a request may or may not have the context path in front: servers differ in what they
report. A path that is below the context path (`IsBelow`) is read without it and any other path as
it is, so that a matcher accepts just those two spellings of `base/id`
(`PathMatcher.matchRequest_ofBase_iff`). No choice can suit both kinds of servers, because a path
of the application may be below the context path itself. Such a path is taken for one that was
reported with the context path in front, and that is the only case in which it matters what the
server reports (`PathMatcher.matchRequest_reported_iff`).
-/

namespace OAuthRedirect

/-! ### Trailing slashes -/

/-- A text with all the slashes at its end taken off. -/
structure IsStem (stem text : String) : Prop where
  append : ∃ n, text = stem ++ String.ofList (List.replicate n '/')
  bare : stem.toList.getLast? ≠ some '/'

/-- **There is one stem**, and it is what is left without the trailing slashes. -/
theorem isStem_iff {stem text : String} : IsStem stem text ↔ dropTrailingSlashes text = stem := by
  constructor
  · rintro ⟨⟨n, rfl⟩, hbare⟩
    have hslashes : ∀ c ∈ List.replicate n '/', (c == '/') = true := fun c hc => by
      simp [List.eq_of_mem_replicate hc]
    have hlast : ∀ c, stem.toList.getLast? = some c → (c == '/') = false := fun c hc => by
      rw [beq_eq_false_iff_ne]
      rintro rfl
      exact hbare hc
    rw [dropTrailingSlashes, String.toList_append, String.toList_ofList,
      Text.dropTrailing_append hslashes hlast, String.ofList_toList]
  · rintro rfl
    obtain ⟨tail, htext, htail, hlast⟩ := Text.exists_dropTrailing (· == '/') text.toList
    refine ⟨⟨tail.length, ?_⟩, fun hslash => ?_⟩
    · have hslashes : tail = List.replicate tail.length '/' :=
        List.eq_replicate_iff.mpr ⟨rfl, fun c hc => by simpa using htail c hc⟩
      rw [← String.toList_inj, ← hslashes, dropTrailingSlashes]
      simpa using htext
    · rw [dropTrailingSlashes, String.toList_ofList] at hslash
      simpa using hlast _ hslash

/-! ### Below a path -/

/-- A text that a path may go on with: none, or one that begins with a slash. -/
def GoesOn (rest : String) : Prop :=
  rest = "" ∨ rest.toList.head? = some '/'

/-- A path that is the root itself, or begins with the root and a slash. -/
def IsBelow (root path : String) : Prop :=
  path = root ∨ (root ++ "/").toList <+: path.toList

instance (root path : String) : Decidable (IsBelow root path) :=
  inferInstanceAs (Decidable (_ ∨ _))

theorem isBelow_iff {root path : String} :
    IsBelow root path ↔ ∃ rest, path = root ++ rest ∧ GoesOn rest := by
  constructor
  · rintro (rfl | ⟨tail, htail⟩)
    · exact ⟨"", by simp, .inl rfl⟩
    · refine ⟨"/" ++ String.ofList tail, ?_, .inr (by simp)⟩
      rw [← String.toList_inj, ← htail]
      simp
  · rintro ⟨rest, rfl, rfl | hslash⟩
    · exact .inl (by simp)
    · obtain ⟨tail, htail⟩ := List.head?_eq_some_iff.mp hslash
      exact .inr ⟨tail, by simp [htail]⟩

namespace Request

theorem below?_eq_some_iff {root path rest : List Char} :
    below? root path = some rest ↔ path = root ++ rest ∧ GoesOn (String.ofList rest) := by
  rw [below?, Option.filter_eq_some_iff, Text.stripFront?_eq_some_iff, GoesOn,
    String.toList_ofList]
  simp

variable {r : Request} {context : String}

/-- The context path is taken off a path that is below it. -/
theorem applicationPath_of_append (hcontext : IsStem context (r.rootPath.getD ""))
    (hne : context ≠ "") {rest : String} (hpath : r.path.getD "" = context ++ rest)
    (hrest : GoesOn rest) : r.applicationPath = rest := by
  have hbelow : below? context.toList (context ++ rest).toList = some rest.toList :=
    below?_eq_some_iff.mpr ⟨String.toList_append, by rwa [String.ofList_toList]⟩
  have hfull : context.toList.isEmpty = false := by simpa using hne
  rw [applicationPath, contextPath, isStem_iff.mp hcontext, hpath]
  simp only [hfull, hbelow, Bool.false_eq_true, if_false, Option.map_some, String.ofList_toList,
    Option.getD_some]

/-- Any other path stays as it is. -/
theorem applicationPath_of_not_isBelow (hcontext : IsStem context (r.rootPath.getD ""))
    (h : context = "" ∨ ¬ IsBelow context (r.path.getD "")) :
    r.applicationPath = r.path.getD "" := by
  rw [applicationPath, contextPath, isStem_iff.mp hcontext]
  rcases h with rfl | hbelow
  · rfl
  · have hnone : below? context.toList (r.path.getD "").toList = none := by
      refine Option.eq_none_iff_forall_ne_some.mpr fun rest hrest => hbelow ?_
      obtain ⟨hpath, hrest⟩ := below?_eq_some_iff.mp hrest
      refine isBelow_iff.mpr ⟨_, ?_, hrest⟩
      rw [← String.toList_inj, hpath]
      simp
    simp [hnone]

end Request

/-! ### Matching -/

namespace PathMatcher

variable {m : PathMatcher} {r : Request} {context : String}

/-- A path with the context path in front is matched as it is without. -/
theorem matchRequest_of_append (hcontext : IsStem context (r.rootPath.getD "")) (hne : context ≠ "")
    {rest : String} (hpath : r.path.getD "" = context ++ rest) (hrest : GoesOn rest) :
    m.matchRequest r = m.matchPath rest := by
  rw [matchRequest, Request.applicationPath_of_append hcontext hne hpath hrest]

theorem matchRequest_of_not_isBelow (hcontext : IsStem context (r.rootPath.getD ""))
    (h : context = "" ∨ ¬ IsBelow context (r.path.getD "")) :
    m.matchRequest r = m.matchPath (r.path.getD "") := by
  rw [matchRequest, Request.applicationPath_of_not_isBelow hcontext h]

/-- A base that begins with a slash is that of a matcher, and its trailing slashes do not count. -/
theorem ofBase_of_isStem {base stem : String} (hblank : Text.isAllBlank base.toList = false)
    (hstem : IsStem stem base) : ofBase base = .ok ⟨stem⟩ := by
  rw [ofBase, hblank, isStem_iff.mp hstem]
  rfl

theorem isAllBlank_of_rooted {base : String} (h : base.toList.head? = some '/') :
    Text.isAllBlank base.toList = false := by
  obtain ⟨tail, htail⟩ := List.head?_eq_some_iff.mp h
  rw [htail, Text.isAllBlank, List.all_cons]
  rfl

/-- What stands behind a context path in a matched path begins with a slash. -/
theorem goesOn_matched {base stem : String} (hrooted : base.toList.head? = some '/')
    (hstem : IsStem stem base) (id : String) : GoesOn (stem ++ "/" ++ id) := by
  obtain ⟨n, rfl⟩ := hstem.append
  refine .inr ?_
  rw [String.toList_append, List.head?_append] at hrooted
  rw [String.append_assoc, String.toList_append, List.head?_append]
  cases hhead : stem.toList.head? with
  | none => simp
  | some c => simpa [hhead] using hrooted

/-- **The paths that are matched.** A base that begins with a slash has a matcher, the same one for
all bases that differ from it in trailing slashes only. It finds an id, one that is not empty and
holds no slash, in a path which is the context path, the base without its trailing slashes, a slash
and the id; and in that path without the context path in front, unless that is itself below the
context path. In these paths the base is a text like any other, and so are context path and id. -/
theorem matchRequest_ofBase_iff {base stem : String} (hrooted : base.toList.head? = some '/')
    (hstem : IsStem stem base) :
    ∃ m, ofBase base = .ok m ∧
      (∀ base', Text.isAllBlank base'.toList = false → IsStem stem base' → ofBase base' = .ok m) ∧
      ∀ (r : Request) (context id : String), IsStem context (r.rootPath.getD "") →
        (m.matchRequest r = some id ↔
          id ≠ "" ∧ '/' ∉ id.toList ∧
            (context ≠ "" ∧ r.path.getD "" = context ++ stem ++ "/" ++ id ∨
              r.path.getD "" = stem ++ "/" ++ id ∧
                (context = "" ∨ ¬ IsBelow context (r.path.getD "")))) := by
  refine ⟨⟨stem⟩, ofBase_of_isStem (isAllBlank_of_rooted hrooted) hstem,
    fun _ => ofBase_of_isStem, fun r context id hcontext => ?_⟩
  have hgoesOn := goesOn_matched hrooted hstem id
  by_cases hbelow : context ≠ "" ∧ IsBelow context (r.path.getD "")
  · obtain ⟨hne, hbelow⟩ := hbelow
    obtain ⟨rest, hpath, hrest⟩ := isBelow_iff.mp hbelow
    rw [matchRequest_of_append hcontext hne hpath hrest, matchPath_eq_some_iff]
    refine and_congr_right fun _ => and_congr_right fun _ => ?_
    have hcancel : r.path.getD "" = context ++ stem ++ "/" ++ id ↔ rest = stem ++ "/" ++ id := by
      rw [hpath, String.append_assoc, String.append_assoc, String.append_right_inj,
        String.append_assoc]
    simp [hne, hbelow, hcancel]
  · have hplain : context = "" ∨ ¬ IsBelow context (r.path.getD "") := by
      rwa [not_and_or, not_not] at hbelow
    rw [matchRequest_of_not_isBelow hcontext hplain, matchPath_eq_some_iff]
    refine and_congr_right fun _ => and_congr_right fun _ => ?_
    have hnot : ¬ (context ≠ "" ∧ r.path.getD "" = context ++ stem ++ "/" ++ id) := by
      rintro ⟨hne, hpath⟩
      refine hbelow ⟨hne, isBelow_iff.mpr ⟨stem ++ "/" ++ id, ?_, hgoesOn⟩⟩
      rw [hpath, String.append_assoc, String.append_assoc, String.append_assoc]
    simp [hnot, hplain]

/-- A base of characters that mean something in a pattern, and a line break. -/
private def patternBase : String := "/a.(b)+*\n[^c]//"

/-- A path with the context path in front, and an id that ends in a line break. -/
private def patternRequest : Request where
  method := "GET"
  path := some "/a.(b)/a.(b)+*\n[^c]/käse \n"
  rootPath := some "/a.(b)/"
  host := none
  server := none
  scheme := "https"
  query := []

/-- A path that begins like the context path, and is not below it. -/
private def neighbourRequest : Request :=
  { patternRequest with path := some "/a.(b)+*\n[^c]/käse \n" }

theorem matchRequest_ofBase_iff_pattern :
    patternBase.toList.head? = some '/' ∧ IsStem "/a.(b)+*\n[^c]" patternBase ∧
      IsStem "/a.(b)" "/a.(b)/" ∧
      ∃ m, ofBase patternBase = .ok m ∧ ofBase "/a.(b)+*\n[^c]" = .ok m ∧
        m.matchRequest patternRequest = some "käse \n" ∧
        m.matchRequest neighbourRequest = some "käse \n" := by
  obtain ⟨hrooted, hblank⟩ : patternBase.toList.head? = some '/' ∧
      Text.isAllBlank "/a.(b)+*\n[^c]".toList = false := by decide
  have hstem : IsStem "/a.(b)+*\n[^c]" patternBase := isStem_iff.mpr (by decide)
  have hstem' : IsStem "/a.(b)+*\n[^c]" "/a.(b)+*\n[^c]" := isStem_iff.mpr (by decide)
  have hcontext : IsStem "/a.(b)" "/a.(b)/" := isStem_iff.mpr (by decide)
  obtain ⟨m, hm, hsame, hmatch⟩ := matchRequest_ofBase_iff hrooted hstem
  exact ⟨hrooted, hstem, hcontext, m, hm, hsame _ hblank hstem',
    (hmatch patternRequest "/a.(b)" "käse \n" hcontext).mpr (by decide),
    (hmatch neighbourRequest "/a.(b)" "käse \n" hcontext).mpr (by decide)⟩

/-! ### With and without the context path -/

/-- A path and what it is without the context path are not both matched, unless there is none. -/
theorem matchPath_append_eq_iff {rest : String} (hne : context ≠ "") :
    m.matchPath (context ++ rest) = m.matchPath rest ↔
      m.matchPath (context ++ rest) = none ∧ m.matchPath rest = none := by
  constructor
  · intro heq
    cases hrest : m.matchPath rest with
    | none => exact ⟨heq.trans hrest, rfl⟩
    | some id =>
      -- both would be the base, a slash and the same id
      obtain ⟨-, -, hpath⟩ := matchPath_eq_some_iff.mp hrest
      obtain ⟨-, -, hpath'⟩ := matchPath_eq_some_iff.mp (heq.trans hrest)
      exact absurd (String.append_eq_right_iff.mp (hpath'.trans hpath.symm)) hne
  · rintro ⟨hnone, hnone'⟩
    rw [hnone, hnone']

/-- **What the server reports.** Take a path of the application, one that begins with a slash. With
the context path in front it is matched as it is without. Reported as it is, it is matched in the
same way unless it is below the context path itself. In that case the path says no more than a path
of the other kind, and is matched without the context path; so the two requests agree only if
neither the path nor what is left of it is matched. -/
theorem matchRequest_reported_iff (m : PathMatcher) {path : String}
    (hcontext : IsStem context (r.rootPath.getD "")) (hpath : path.toList.head? = some '/') :
    let reported := m.matchRequest { r with path := some (context ++ path) }
    let bare := m.matchRequest { r with path := some path }
    reported = m.matchPath path ∧
      (context = "" ∨ ¬ IsBelow context path → reported = bare) ∧
      ∀ rest, context ≠ "" → path = context ++ rest → GoesOn rest →
        bare = m.matchPath rest ∧
          (reported = bare ↔ m.matchPath path = none ∧ m.matchPath rest = none) := by
  intro reported bare
  have hreported : reported = m.matchPath path := by
    by_cases hne : context = ""
    · subst hne
      have hplain : reported = m.matchPath ("" ++ path) := matchRequest_of_not_isBelow
        (r := { r with path := some ("" ++ path) }) hcontext (.inl rfl)
      rw [hplain, String.empty_append]
    · exact matchRequest_of_append (r := { r with path := some (context ++ path) }) hcontext hne rfl
        (.inr hpath)
  refine ⟨hreported, fun h => ?_, fun rest hne hrest hgoesOn => ?_⟩
  · rw [hreported]
    exact (matchRequest_of_not_isBelow (r := { r with path := some path }) hcontext h).symm
  · have hbare : bare = m.matchPath rest :=
      matchRequest_of_append (r := { r with path := some path }) hcontext hne hrest hgoesOn
    refine ⟨hbare, ?_⟩
    rw [hreported, hbare, hrest]
    exact matchPath_append_eq_iff hne

/-- A request below a context path, whatever its path is. -/
private def portalRequest : Request where
  method := "GET"
  path := none
  rootPath := some "/portal/"
  host := none
  server := none
  scheme := "http"
  query := []

theorem matchRequest_reported_iff_portal :
    IsStem "/portal" (portalRequest.rootPath.getD "") ∧
      "/start/tea".toList.head? = some '/' ∧
      (matchRequest ⟨"/start"⟩ { portalRequest with path := some "/portal/start/tea" } =
        matchRequest ⟨"/start"⟩ { portalRequest with path := some "/start/tea" }) ∧
      "/portal/start/tea".toList.head? = some '/' ∧
      (matchRequest ⟨"/start"⟩ { portalRequest with path := some "/portal/portal/start/tea" } ≠
        matchRequest ⟨"/start"⟩ { portalRequest with path := some "/portal/start/tea" }) := by
  have hcontext : IsStem "/portal" (portalRequest.rootPath.getD "") := isStem_iff.mpr (by decide)
  obtain ⟨hrooted, hplain, hrooted', hsplit, hmatch⟩ :
      "/start/tea".toList.head? = some '/' ∧ ¬ IsBelow "/portal" "/start/tea" ∧
      "/portal/start/tea".toList.head? = some '/' ∧
      "/portal/start/tea" = "/portal" ++ "/start/tea" ∧
      matchPath ⟨"/start"⟩ "/start/tea" = some "tea" := by decide
  obtain ⟨-, hagree, -⟩ := matchRequest_reported_iff ⟨"/start"⟩ hcontext hrooted
  obtain ⟨-, -, hbelow⟩ := matchRequest_reported_iff ⟨"/start"⟩ hcontext hrooted'
  obtain ⟨-, hiff⟩ := hbelow "/start/tea" (by decide) hsplit (.inr hrooted)
  refine ⟨hcontext, hrooted, hagree (.inr hplain), hrooted', fun heq => ?_⟩
  rw [(hiff.mp heq).2] at hmatch
  contradiction

/-- **A path may be read in two ways.** Below a context path that the usual base begins with, a path
of the application is matched when the context path is reported in front of it, and not when it is
left out. -/
theorem matchRequest_reported_ne :
    let request : Request := ⟨"GET", none, some "/oauth2", some "app.example", none, "https", []⟩
    ofBase defaultBase = .ok ⟨defaultBase⟩ ∧ IsStem "/oauth2" (request.rootPath.getD "") ∧
      matchRequest ⟨defaultBase⟩
        { request with path := some ("/oauth2" ++ "/oauth2/authorization/shop") } = some "shop" ∧
      matchRequest ⟨defaultBase⟩ { request with path := some "/oauth2/authorization/shop" } =
        none :=
  ⟨by rfl, isStem_iff.mpr (by decide), by decide, by decide⟩

end PathMatcher

end OAuthRedirect
