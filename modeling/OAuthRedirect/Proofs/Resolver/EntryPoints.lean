import OAuthRedirect.Proofs.Resolver.History
import OAuthRedirect.Proofs.Resolver.Outcome

/-!
# Two ways to a registration

A registration is asked for by the path of a request, or by an id that comes with any request. Two
requests that are alike (`Request.Alike`) have the same base URL, or lack one for the same reason,
whatever their paths are. So the two ways differ in the default action alone, and where that
has no part in the redirect URI they have the same outcome and use up the same random bytes
(`Resolver.run_explicit_eq`). Only the log tells them apart, for it may hold the path.
-/

namespace OAuthRedirect

/-! ### Templates without a placeholder -/

namespace Template

/-- A value that no placeholder stands for makes no difference. -/
theorem expandWide_congr {bindings bindings' : List (String × String)} {template : WideString}
    (h : ∀ name ∈ widePlaceholders template, valueOf? bindings name = valueOf? bindings' name) :
    expandWide template bindings = expandWide template bindings' := by
  have hfirst : ((widePlaceholders template).find? fun name => (valueOf? bindings name).isNone) =
      (widePlaceholders template).find? fun name => (valueOf? bindings' name).isNone := by
    rw [← List.head?_filter, ← List.head?_filter,
      List.filter_congr fun name hname => by rw [h name hname]]
  have hfilled : wideFilled bindings template = wideFilled bindings' template := by
    rw [wideFilled, wideFilled]
    congr 1
    refine List.flatMap_congr fun piece hpiece => ?_
    cases piece with
    | literal code => rfl
    | placeholder codes =>
      have hname : WideString.ofCodes codes ∈ widePlaceholders template :=
        List.mem_filterMap.mpr ⟨_, hpiece, rfl⟩
      rw [Piece.wideFill, Piece.wideFill, h _ hname]
  rw [expandWide, expandWide, hfirst, hfilled]

end Template

/-! ### Requests that are alike -/

/-- Two requests that differ in method, path and socket at most, with a well-formed host
header. -/
structure Request.Alike (r r' : Request) : Prop where
  scheme : r.scheme = r'.scheme
  host : r.host = r'.host
  accepted : ∃ header, r.host = some header ∧ isHostHeader header = true
  rootPath : r.rootPath = r'.rootPath
  query : r.query = r'.query

namespace Request.Alike

variable {r r' : Request}

theorem action? (h : r.Alike r') : r.action? = r'.action? := by
  rw [Request.action?, Request.action?, parameters, parameters, h.query]

theorem origin (h : r.Alike r') (hpath : r.path ≠ none) (hpath' : r'.path ≠ none) :
    r.origin = r'.origin :=
  origin_congr hpath hpath' h.scheme h.host h.accepted (by rw [h.query])

theorem baseUrl (h : r.Alike r') (hpath : r.path ≠ none) (hpath' : r'.path ≠ none) :
    r.baseUrl = r'.baseUrl :=
  baseUrl_of_origin (h.origin hpath hpath') h.rootPath

end Request.Alike

namespace Resolver

variable {resolver : Resolver WideString} {first second : Request} {id : String}

/-- A path is there when an id is found in it. -/
theorem path_ne_none_of_matchRequest {matcher : PathMatcher}
    (h : matcher.matchRequest first = some id) : first.path ≠ none := by
  intro hnone
  have hempty : first.applicationPath = "" := by
    rw [Request.applicationPath, hnone]
    simp only [Option.getD_none]
    split
    · rfl
    · cases hbelow : Request.below? first.contextPath.toList "".toList with
      | none => rfl
      | some rest =>
        -- nothing is below a context path in an empty path
        have hstrip := Text.stripFront?_eq_some_iff.mp (Option.filter_eq_some_iff.mp hbelow).1
        obtain ⟨-, rfl⟩ : _ ∧ rest = [] := by simpa using hstrip
        rfl
  obtain ⟨-, -, hpath⟩ := PathMatcher.matchPath_eq_some_iff.mp h
  have hslash : '/' ∈ first.applicationPath.toList := by simp [hpath]
  simp [hempty] at hslash

theorem callback_congr_action {registration : Registration WideString}
    (h : ↑"action" ∉ Template.widePlaceholders registration.callbackTemplate)
    (baseUrl action action' : String) :
    callback registration baseUrl action = callback registration baseUrl action' := by
  refine Template.expandWide_congr fun name hmem => ?_
  cases name with
  | broken codes hcodes => rfl
  | text s =>
    have hne : (s == "action") = false := beq_false_of_ne fun heq => h (heq ▸ hmem)
    change (templateVariables baseUrl action registration.id).lookup s =
      (templateVariables baseUrl action' registration.id).lookup s
    simp only [templateVariables, List.lookup_cons, hne]

section EntryPoints

variable {sha256 : Bool} (h : first.Alike second) (hpath : second.path ≠ none)
  (hmatch : resolver.matcher.matchRequest first = some id)

include h

/-- The default action is all that the two ways can differ in. -/
theorem callback_eq_of_alike {registration : Registration WideString}
    (haction : first.action? ≠ none ∨
      ↑"action" ∉ Template.widePlaceholders registration.callbackTemplate) (baseUrl : String) :
    callback registration baseUrl (requestedAction second (some id)) =
      callback registration baseUrl (requestedAction first none) := by
  rcases haction with hgiven | hunused
  · obtain ⟨action, haction⟩ := Option.ne_none_iff_exists'.mp hgiven
    rw [requestedAction, requestedAction, ← h.action?, haction]
    rfl
  · exact callback_congr_action hunused _ _ _

include hpath hmatch

/-- The request with the id beside it takes the course of the request with the id in its path. -/
theorem exists_run_explicit
    (haction : first.action? ≠ none ∨ ∀ registration,
      resolver.registrations id = .ok (some registration) →
        ↑"action" ∉ Template.widePlaceholders registration.callbackTemplate) (session : Session) :
    ∃ log, resolver.run sha256 second (some id) session =
      ((resolver.run sha256 first none session).1,
        ⟨(resolver.run sha256 first none session).2.entropy, log⟩) := by
  have hpath' : first.path ≠ none := path_ne_none_of_matchRequest hmatch
  have hfirst : resolver.requestedId first none = some id := hmatch
  have hsecond : resolver.requestedId second (some id) = resolver.requestedId first none :=
    hfirst.symm
  have hurl := Request.urlsAlike_of_origin (h.origin hpath' hpath)
  refine exists_run_congr hsecond hurl (h.baseUrl hpath' hpath).symm ?_ sha256 session
  intro other registration hother hfind baseUrl
  obtain rfl := Option.some_inj.mp (hfirst.symm.trans hother)
  refine callback_eq_of_alike h (haction.imp_right fun hunused => hunused registration ?_) baseUrl
  rwa [find, if_neg (PathMatcher.matchPath_eq_some_iff.mp hmatch).1] at hfind

end EntryPoints

/-- **The two entry points agree.** Let a request have an id in its path, and let another one differ
from it in method, path and socket at most. If the query names an action, or if the template of the
registration with the id holds no placeholder for one, then resolving the first request and
resolving the other one with that id have the same outcome, from the same random bytes, and leave
the same ones over. -/
theorem run_explicit_eq {resolver : Resolver WideString} {first second : Request}
    {id : String} (h : first.Alike second) (hpath : second.path ≠ none)
    (hmatch : resolver.matcher.matchRequest first = some id)
    (haction : first.action? ≠ none ∨ ∀ registration,
      resolver.registrations id = .ok (some registration) →
        ↑"action" ∉ Template.widePlaceholders registration.callbackTemplate)
    (sha256 : Bool) (entropy : Entropy) (log log' : List Log.Event) :
    (resolver.run sha256 first none ⟨entropy, log⟩).1 =
        (resolver.run sha256 second (some id) ⟨entropy, log'⟩).1 ∧
      (resolver.run sha256 first none ⟨entropy, log⟩).2.entropy =
        (resolver.run sha256 second (some id) ⟨entropy, log'⟩).2.entropy := by
  rw [run_frame log, run_frame log']
  obtain ⟨_, hrun⟩ := exists_run_explicit h hpath hmatch haction ⟨entropy, []⟩
  rw [hrun]
  exact ⟨rfl, rfl⟩

/-- A public client whose template holds no placeholder for the action, with a scope that is no
text. -/
private def salon : Registration WideString where
  id := "salon"
  clientId := "salon-1"
  clientSecret := none
  authentication := .none
  grant := .authorizationCode
  authorizationUri := some ↑"https://login.provider.example/authorize"
  redirectTemplate := some ↑"\x7bbaseUrl\x7d/back/\x7bregistrationId\x7d"
  scopes := .ofList [↑"openid", .ofCodes [0xDC00]]
  clientName := none
  id_ne_empty := by decide
  clientId_ne_empty := by decide
  endpoints _ _ := by decide

private def salonRepository : Repository WideString := ⟨[salon], by decide, by decide⟩

private def salonResolver : Resolver WideString :=
  ⟨salonRepository.ask, ⟨defaultBase⟩, .random .forStates, .random .forVerifiers⟩

/-- A request with the id in its path. -/
private def byPath : Request where
  method := "GET"
  path := some "/hair/oauth2/authorization/salon"
  rootPath := some "/hair"
  host := some "[2001:db8::1]:8080"
  server := none
  scheme := "http"
  query := Text.asciiBytes "lang=de".toList

/-- A request with another path, which the id has to be added to. -/
private def byId : Request :=
  { byPath with
    method := "POST", path := some "/hair/authorize//salon", server := some ("x", none) }

theorem run_explicit_eq_salon :
    byPath.Alike byId ∧ byId.path ≠ none ∧
      salonResolver.matcher.matchRequest byPath = some "salon" ∧
      ↑"action" ∉ Template.widePlaceholders salon.callbackTemplate ∧
      ∃ result, result.redirectUri = some ↑"http://[2001:db8::1]:8080/hair/back/salon" ∧
        (salonResolver.run true byPath none ⟨Entropy.seeded 3, []⟩).1 = .ok (some result) ∧
        (salonResolver.run true byId (some "salon") ⟨Entropy.seeded 3, []⟩).1 =
          .ok (some result) := by
  have halike : byPath.Alike byId := ⟨rfl, rfl, ⟨_, rfl, by decide +kernel⟩, rfl, rfl⟩
  have hpath : byId.path ≠ none := by decide
  have hmatch : salonResolver.matcher.matchRequest byPath = some "salon" := by decide +kernel
  have hunused : ↑"action" ∉ Template.widePlaceholders salon.callbackTemplate := by decide +kernel
  have hunused' : ∀ registration, salonResolver.registrations "salon" = .ok (some registration) →
      ↑"action" ∉ Template.widePlaceholders registration.callbackTemplate := by
    intro registration hfound
    obtain rfl : salon = registration := Option.some_inj.mp (Except.ok.inj hfound)
    exact hunused
  obtain ⟨heq, -⟩ := run_explicit_eq halike hpath hmatch (.inr hunused') true (Entropy.seeded 3) []
    []
  have hbase : byPath.baseUrl = .ok "http://[2001:db8::1]:8080/hair" := by decide +kernel
  have hcallback : callback salon "http://[2001:db8::1]:8080/hair" (requestedAction byPath none) =
      .ok ↑"http://[2001:db8::1]:8080/hair/back/salon" := by decide +kernel
  have hendpoint : sentEndpoint salon =
      .valid ⟨"https://login.provider.example/authorize", by decide⟩ := rfl
  have hid : salonResolver.requestedId byPath none = some "salon" := hmatch
  have hcourse : salonResolver.Course true byPath none ⟨Entropy.seeded 3, []⟩ _ _ :=
    .resolved hid rfl rfl hbase hcallback hendpoint rfl
  have hresult := congrArg Prod.fst hcourse.run_eq
  exact ⟨halike, hpath, hmatch, hunused, _, rfl, hresult, heq.symm.trans hresult⟩

end Resolver

end OAuthRedirect
