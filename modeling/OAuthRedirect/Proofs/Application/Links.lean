import Mathlib.Data.List.Forall2
import OAuthRedirect.Application
import OAuthRedirect.Proofs.Registration.Repository

/-!
# Authorization links

The index page lists the registrations, each with a link: the base of the matcher, a slash and the
id. A link leads back to its registration exactly when the id holds no slash itself
(`Application.link_matches_iff`), because the id in a path is one segment, and every id that is
not empty is accepted. The link of any other registration leads nowhere.
-/

namespace OAuthRedirect

namespace PathMatcher

/-- The path below the base of a matcher that an id is put into. -/
def link (m : PathMatcher) (id : String) : String :=
  m.base ++ "/" ++ id

variable {m : PathMatcher} {id : String}

/-- No link is matched as that of another id. -/
theorem eq_of_matchPath_link {other : String} (h : m.matchPath (m.link id) = some other) :
    other = id := by
  obtain ⟨-, -, heq⟩ := matchPath_eq_some_iff.mp h
  have hlists : (m.base ++ "/").toList ++ id.toList = (m.base ++ "/").toList ++ other.toList := by
    rw [← String.toList_append, ← String.toList_append, ← heq]
    rfl
  exact (String.toList_inj.mp (List.append_cancel_left hlists)).symm

theorem matchPath_link_eq_some_iff (hne : id ≠ "") :
    m.matchPath (m.link id) = some id ↔ '/' ∉ id.toList := by
  rw [matchPath_eq_some_iff]
  constructor
  · rintro ⟨-, hslash, -⟩
    exact hslash
  · intro hslash
    exact ⟨hne, hslash, rfl⟩

theorem matchPath_link_eq_none (h : '/' ∈ id.toList) : m.matchPath (m.link id) = none := by
  cases hmatch : m.matchPath (m.link id) with
  | none => rfl
  | some other =>
    -- the match would be the id itself, which is no segment
    obtain ⟨-, hslash, -⟩ := matchPath_eq_some_iff.mp hmatch
    rw [eq_of_matchPath_link hmatch] at hslash
    contradiction

end PathMatcher

namespace Application

/-- **Links and what they lead to.** Take registrations with distinct ids, at least one, and a base
that is not blank. The application starts, and its index page has one entry for each registration,
in the same order. An entry names the id of its registration, which finds that registration in the
repository, and has a link. The path matcher takes the link back to the id when the id holds no
slash; otherwise it takes the link to nothing. -/
theorem link_matches_iff {settings : Settings}
    {registrations : List (Registration WideString)}
    (hne : registrations ≠ []) (hdistinct : (registrations.map (·.id)).Nodup)
    (hbase : Text.isAllBlank settings.base.toList = false) :
    ∃ app entries, startWith settings registrations = .ok app ∧
      app.indexPage.field? "registrations" = some (.arr entries) ∧
      List.Forall₂ (fun registration entry =>
        entry.field? "registration_id" = some (.str registration.id) ∧
        app.repository.lookup (some registration.id) = .ok (some registration) ∧
        ∃ link, entry.field? "authorization_link" = some (.str link) ∧
          (app.matcher.matchPath link = some registration.id ↔ '/' ∉ registration.id.toList) ∧
          ('/' ∈ registration.id.toList → app.matcher.matchPath link = none))
        registrations entries := by
  obtain ⟨repository, hrepository⟩ := Repository.exists_ofList_iff.mpr ⟨hne, hdistinct⟩
  have hmatcher : PathMatcher.ofBase settings.base = .ok ⟨dropTrailingSlashes settings.base⟩ := by
    rw [PathMatcher.ofBase, hbase]
    rfl
  have hlist := Repository.registrations_of_ofList hrepository
  refine ⟨⟨settings, repository, ⟨dropTrailingSlashes settings.base⟩⟩, _, ?_, rfl, ?_⟩
  · rw [startWith, hrepository, hmatcher]
    rfl
  · rw [hlist, List.forall₂_map_right_iff, List.forall₂_same]
    intro registration hmem
    have hfind : repository.find? registration.id = some registration :=
      Repository.find?_eq_some_iff.mpr ⟨hlist ▸ hmem, rfl⟩
    refine ⟨rfl, ?_, _, rfl, PathMatcher.matchPath_link_eq_some_iff registration.id_ne_empty,
      PathMatcher.matchPath_link_eq_none⟩
    rw [repository.lookup_of_ne_empty registration.id_ne_empty, hfind]

/-- The data of a client with an id of two segments. -/
private def teamData : Json :=
  .obj [("registration_id", .str "team/forum"), ("client_id", .str "forum-1"),
    ("authorization_grant_type", .str "implicit"),
    ("authorization_uri", .str "https://forum.example/authorize")]

private def team : Registration WideString where
  id := "team/forum"
  clientId := "forum-1"
  clientSecret := none
  authentication := .none
  grant := .implicit
  authorizationUri := some ↑"https://forum.example/authorize"
  redirectTemplate := some ↑Template.standard
  scopes := .empty
  clientName := none
  id_ne_empty := by decide
  clientId_ne_empty := by decide
  endpoints _ _ := by decide

/-- The same client with an id of one segment. -/
private def forum : Registration WideString :=
  { team with id := "forum", id_ne_empty := by decide }

private def forumSettings : Settings :=
  ⟨"/login/", "localhost", 8080, none, "https://forum.example", fun _ => none⟩

theorem link_matches_iff_forum :
    [forum, team] ≠ [] ∧ ([forum, team].map (·.id)).Nodup ∧
      Text.isAllBlank forumSettings.base.toList = false ∧
      ∃ app, startWith forumSettings [forum, team] = .ok app ∧
        app.matcher.matchPath "/login/forum" = some "forum" ∧
        app.matcher.matchPath "/login/team/forum" = none := by
  have hdistinct : ([forum, team].map (·.id)).Nodup := by decide
  have hbase : Text.isAllBlank forumSettings.base.toList = false := by decide
  obtain ⟨app, entries, hstart, hpage, hentries⟩ :=
    link_matches_iff (List.cons_ne_nil _ _) hdistinct hbase
  refine ⟨List.cons_ne_nil _ _, hdistinct, hbase, app, hstart, ?_, ?_⟩
  all_goals
    obtain rfl := Except.ok.inj hstart
    obtain rfl := Json.arr.inj (Option.some_inj.mp hpage)
    obtain ⟨⟨-, -, _, hlink, hmatch, -⟩, hrest⟩ := List.forall₂_cons.mp hentries
    obtain ⟨⟨-, -, _, hlink', -, hnone⟩, -⟩ := List.forall₂_cons.mp hrest
  · obtain rfl := Json.str.inj (Option.some_inj.mp hlink)
    exact hmatch.mpr (by decide)
  · obtain rfl := Json.str.inj (Option.some_inj.mp hlink')
    exact hnone (by decide)

/-- **A published link may lead nowhere.** The data of the client is accepted, the application
starts with it and publishes its link, and finds nothing at that link. -/
theorem link_not_matched_team :
    Registration.ofJson teamData = .valid team ∧
      ∃ app entry, startWith forumSettings [team] = .ok app ∧
        app.indexPage.field? "registrations" = some (.arr [entry]) ∧
        entry.field? "registration_id" = some (.str "team/forum") ∧
        entry.field? "authorization_link" = some (.str "/login/team/forum") ∧
        app.repository.lookup (some "team/forum") = .ok (some team) ∧
        app.matcher.matchPath "/login/team/forum" = none ∧
        (app.handle true
          ⟨"GET", some "/login/team/forum", none, some "app.example", none, "https", []⟩
          ⟨⟨fun _ => 0, 0⟩, []⟩).1.1.status = 404 := by
  refine ⟨rfl, _, _, rfl, rfl, rfl, rfl, rfl, ?_, ?_⟩
  · decide +kernel
  · decide +kernel

end Application

end OAuthRedirect
