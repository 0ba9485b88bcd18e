import OAuthRedirect.Text.Blank

/-!
# Matching request paths

A matcher accepts the paths `base/id`, where `id` is one non-empty segment: it may hold any
character but `/`. Every character of the base stands for itself, and its trailing slashes do
not count. `matchPath_eq_some_iff` says which paths are matched.
-/

namespace OAuthRedirect

/-- The paths below a base. -/
structure PathMatcher where
  /-- The base, without trailing slashes. -/
  base : String
  deriving DecidableEq, Repr

/-- A base that is missing or blank. -/
inductive BlankBase where
  | blank
  deriving DecidableEq, Repr

/-- What the error says. -/
def BlankBase.message : BlankBase → String
  | blank => "authorization_request_base_uri cannot be empty"

/-- The base that is used when none is configured. -/
def defaultBase : String := "/oauth2/authorization"

/-- A text without its trailing slashes. -/
def dropTrailingSlashes (s : String) : String :=
  String.ofList (Text.dropTrailing (· == '/') s.toList)

namespace PathMatcher

/-- The matcher of a base, which has to hold a character that is not blank. -/
def ofBase (base : String) : Except BlankBase PathMatcher :=
  if Text.isAllBlank base.toList then .error .blank else .ok ⟨dropTrailingSlashes base⟩

/-- The segment of a text that begins with a slash and holds no other one. -/
def segment? : List Char → Option String
  | '/' :: id => if id.isEmpty || id.contains '/' then none else some (String.ofList id)
  | _ => none

/-- The id in a path below the base. -/
def matchPath (m : PathMatcher) (path : String) : Option String :=
  (Text.stripFront? m.base.toList path.toList).bind segment?

/-! ### Laws -/

theorem segment?_eq_some_iff {cs : List Char} {id : String} :
    segment? cs = some id ↔ id ≠ "" ∧ '/' ∉ id.toList ∧ cs = '/' :: id.toList := by
  fun_cases segment? cs with
  | case1 rest h =>
    simp only [Bool.or_eq_true, List.isEmpty_iff, List.contains_iff_mem] at h
    refine ⟨fun hn => by simp at hn, ?_⟩
    rintro ⟨hne, hmem, heq⟩
    injection heq with _ heq
    subst heq
    simp_all
  | case2 rest h =>
    simp only [Bool.or_eq_true, List.isEmpty_iff, List.contains_iff_mem, not_or] at h
    constructor
    · intro heq
      injection heq with heq
      subst heq
      simpa using h
    · rintro ⟨-, -, heq⟩
      injection heq with _ heq
      simp [heq]
  | case3 cs h =>
    refine ⟨fun hn => by simp at hn, fun hcs => absurd hcs.2.2 (h _)⟩

/-- The paths that are matched: the base, a slash and an id that is one segment. -/
theorem matchPath_eq_some_iff {m : PathMatcher} {path id : String} :
    m.matchPath path = some id ↔
      id ≠ "" ∧ '/' ∉ id.toList ∧ path = m.base ++ "/" ++ id := by
  simp only [matchPath, Option.bind_eq_some_iff, Text.stripFront?_eq_some_iff, segment?_eq_some_iff]
  constructor
  · rintro ⟨rest, hpath, hne, hmem, rfl⟩
    refine ⟨hne, hmem, ?_⟩
    rw [← String.toList_inj]
    simp [hpath]
  · rintro ⟨hne, hmem, rfl⟩
    exact ⟨'/' :: id.toList, by simp, hne, hmem, rfl⟩

end PathMatcher

end OAuthRedirect
