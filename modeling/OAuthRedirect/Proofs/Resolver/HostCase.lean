import OAuthRedirect.Proofs.Http.HostCase
import OAuthRedirect.Proofs.Resolver.History
import OAuthRedirect.Proofs.Resolver.Outcome

/-!
# Resolving for a host header in another case

A client may write the host of a request in upper and lower case as it likes. Where two host headers
in the same letters agree behind the first percent sign, resolvers make no difference between them:
every run has the same outcome and uses up the same random bytes, with the same redirect URI
therefore. Where they do not agree, the base URLs differ, and so do the redirect URIs that begin
with them (`Resolver.recased_host_iff`).
-/

namespace OAuthRedirect.Resolver

open Text

section Runs

variable {τ : Type} [Inhabited τ] [LT τ]

theorem requestedId_withHost (resolver : Resolver τ) (request : Request) (header : String)
    (explicit : Option String) :
    resolver.requestedId (request.withHost header) explicit =
      resolver.requestedId request explicit := rfl

variable [Strings τ]

/-- A request takes the same course with another header that gives it the same base URL. -/
theorem exists_run_withHost {request : Request} {header header' : String}
    (hhost : request.host = some header) (haccepted : isHostHeader header = true)
    (haccepted' : isHostHeader header' = true)
    (hbase : request.baseUrl = (request.withHost header').baseUrl) (resolver : Resolver τ)
    (sha256 : Bool) (explicit : Option String) (session : Session) :
    ∃ log, resolver.run sha256 (request.withHost header') explicit session =
      ((resolver.run sha256 request explicit session).1,
        ⟨(resolver.run sha256 request explicit session).2.entropy, log⟩) := by
  have hurl : request.UrlsAlike (request.withHost header') := by
    rcases Request.origin_withHost_cases hhost haccepted haccepted' with
      horigin | ⟨_, horigin, horigin'⟩
    · exact Request.urlsAlike_of_origin horigin
    · obtain ⟨url, hurl, -⟩ := Request.url_of_origin horigin
      obtain ⟨url', hurl', -⟩ := Request.url_of_origin horigin'
      exact .inr ⟨⟨url, hurl⟩, url', hurl'⟩
  exact exists_run_congr (requestedId_withHost _ _ _ _) hurl hbase.symm (fun _ _ _ _ _ => rfl)
    sha256 session

end Runs

/-- **Host headers in another case.** Let two requests be equal but for their host headers, both
well-formed and in the same letters.

* If the headers agree behind the first percent sign, or have none, the requests have the same base
  URL, and resolving them has the same outcome, from the same random bytes, and leaves the same ones
  over.
* If they do not agree there and the first request is addressable, the base URLs differ. -/
theorem recased_host_iff {request : Request} {header header' : String}
    (hhost : request.host = some header) (haccepted : isHostHeader header = true)
    (haccepted' : isHostHeader header' = true)
    (hletters : SameLetters header.toList header'.toList) :
    ((cut '%' header.toList).2 = (cut '%' header'.toList).2 →
      request.baseUrl = (request.withHost header').baseUrl ∧
      ∀ (resolver : Resolver WideString) (sha256 : Bool) (explicit : Option String)
        (entropy : Entropy) (log log' : List Log.Event),
        (resolver.run sha256 request explicit ⟨entropy, log⟩).1 =
            (resolver.run sha256 (request.withHost header') explicit ⟨entropy, log'⟩).1 ∧
          (resolver.run sha256 request explicit ⟨entropy, log⟩).2.entropy =
            (resolver.run sha256 (request.withHost header') explicit ⟨entropy, log'⟩).2.entropy) ∧
    (request.Addressable →
      (request.baseUrl = (request.withHost header').baseUrl ↔
        (cut '%' header.toList).2 = (cut '%' header'.toList).2)) := by
  refine ⟨fun hbehind => ?_, fun haddressable =>
    haddressable.baseUrl_recased_iff haccepted haccepted' hletters hhost⟩
  have hbase := Request.baseUrl_recased haccepted haccepted' hletters hhost hbehind
  refine ⟨hbase, fun resolver sha256 explicit entropy log log' => ?_⟩
  obtain ⟨_, hrun⟩ :=
    exists_run_withHost hhost haccepted haccepted' hbase resolver sha256 explicit ⟨entropy, []⟩
  rw [run_frame log, run_frame log', hrun]
  exact ⟨rfl, rfl⟩

private def museum : Registration WideString where
  id := "museum"
  clientId := "museum-7"
  clientSecret := some ↑"museum-secret"
  authentication := .secretPost
  grant := .authorizationCode
  authorizationUri := some ↑"https://tickets.example/authorize"
  redirectTemplate := some ↑"\x7bbaseUrl\x7d/\x7bregistrationId\x7d"
  scopes := .empty
  clientName := none
  id_ne_empty := by decide
  clientId_ne_empty := by decide
  endpoints _ _ := by decide

private def museumResolver : Resolver WideString :=
  ⟨fun _ => .ok (some museum), ⟨defaultBase⟩, .random .forStates, .random .forVerifiers⟩

private def museumRequest : Request where
  method := "GET"
  path := some "/tour/oauth2/authorization/museum"
  rootPath := some "/tour/"
  host := none
  server := some ("127.0.0.1", some 8000)
  scheme := "https"
  query := []

private theorem addressable_museumRequest {header : String} (h : isHostHeader header = true) :
    (museumRequest.withHost header).Addressable :=
  .of_https rfl rfl rfl h rfl

/-- The request is resolved for each host that gives it a base URL. -/
private theorem exists_run_museum {header base : String} {uri : WideString}
    (hbase : (museumRequest.withHost header).baseUrl = .ok base)
    (hcallback : callback museum base (requestedAction museumRequest none) = .ok uri) :
    ∃ result,
      (museumResolver.run true (museumRequest.withHost header) none ⟨Entropy.seeded 7, []⟩).1 =
        .ok (some result) ∧
      result.redirectUri = some uri := by
  have hmatch : (PathMatcher.mk defaultBase).matchRequest museumRequest = some "museum" := by
    decide +kernel
  have hid : museumResolver.requestedId (museumRequest.withHost header) none = some "museum" := by
    rw [requestedId_withHost, requestedId, Option.none_or]
    exact hmatch
  have hendpoint : sentEndpoint museum = .valid ⟨"https://tickets.example/authorize", by decide⟩ :=
    rfl
  obtain ⟨result, hresult, hanswers⟩ :=
    outcome_answered true ⟨Entropy.seeded 7, []⟩ hid rfl rfl hbase hcallback hendpoint
  exact ⟨result, hresult, hanswers.redirectUri⟩

theorem recased_host_iff_museum :
    let header := "Museum.City%2DWest:8443"
    let header' := "MUSEUM.city%2DWest:8443"
    let request := museumRequest.withHost header
    (isHostHeader header = true ∧ isHostHeader header' = true ∧
      SameLetters header.toList header'.toList ∧
      (cut '%' header.toList).2 = (cut '%' header'.toList).2) ∧
    request.Addressable ∧ request.baseUrl = (request.withHost header').baseUrl ∧
    ∃ result, result.redirectUri = some ↑"https://museum.city%2DWest:8443/tour/museum" ∧
      (museumResolver.run true request none ⟨Entropy.seeded 7, []⟩).1 = .ok (some result) ∧
      (museumResolver.run true (request.withHost header') none ⟨Entropy.seeded 7, []⟩).1 =
        .ok (some result) := by
  intro header header' request
  have hheaders : isHostHeader header = true ∧ isHostHeader header' = true ∧
      SameLetters header.toList header'.toList ∧
      (cut '%' header.toList).2 = (cut '%' header'.toList).2 := by decide +kernel
  obtain ⟨haccepted, haccepted', hletters, hbehind⟩ := hheaders
  have hhost : request.host = some header := rfl
  obtain ⟨hagree, hiff⟩ := recased_host_iff hhost haccepted haccepted' hletters
  obtain ⟨-, hrun⟩ := hagree hbehind
  have haddressable := addressable_museumRequest haccepted
  obtain ⟨hbase, hcallback⟩ : request.baseUrl = .ok "https://museum.city%2DWest:8443/tour" ∧
      callback museum "https://museum.city%2DWest:8443/tour" (requestedAction museumRequest none) =
        .ok ↑"https://museum.city%2DWest:8443/tour/museum" := by decide +kernel
  obtain ⟨result, hresult, hredirect⟩ := exists_run_museum hbase hcallback
  have hresult' := (hrun museumResolver true none (Entropy.seeded 7) [] []).1.symm.trans hresult
  exact ⟨⟨haccepted, haccepted', hletters, hbehind⟩, haddressable,
    (hiff haddressable).mpr hbehind, result, hredirect, hresult, hresult'⟩

/-- **A host may be sent as it was written.** Two well-formed host headers in the same letters lead
to two redirect URIs, and the first of them has the host in upper and lower case. -/
theorem redirectUri_keeps_case :
    let header := "caf%C3%A9.Example"
    let header' := "CAF%c3%a9.example"
    (isHostHeader header = true ∧ isHostHeader header' = true ∧
      SameLetters header.toList header'.toList) ∧
    (museumRequest.withHost header).baseUrl = .ok "https://caf%C3%A9.Example/tour" ∧
    (museumRequest.withHost header').baseUrl = .ok "https://caf%c3%a9.example/tour" ∧
    ∃ result result',
      (museumResolver.run true (museumRequest.withHost header) none ⟨Entropy.seeded 7, []⟩).1 =
        .ok (some result) ∧
      (museumResolver.run true (museumRequest.withHost header') none ⟨Entropy.seeded 7, []⟩).1 =
        .ok (some result') ∧
      result.redirectUri = some ↑"https://caf%C3%A9.Example/tour/museum" ∧
      result'.redirectUri = some ↑"https://caf%c3%a9.example/tour/museum" := by
  intro header header'
  have hheaders : isHostHeader header = true ∧ isHostHeader header' = true ∧
      SameLetters header.toList header'.toList := by decide +kernel
  obtain ⟨hbase, hbase'⟩ :
      (museumRequest.withHost header).baseUrl = .ok "https://caf%C3%A9.Example/tour" ∧
      (museumRequest.withHost header').baseUrl = .ok "https://caf%c3%a9.example/tour" := by
    decide +kernel
  obtain ⟨hcallback, hcallback'⟩ :
      callback museum "https://caf%C3%A9.Example/tour" (requestedAction museumRequest none) =
        .ok ↑"https://caf%C3%A9.Example/tour/museum" ∧
      callback museum "https://caf%c3%a9.example/tour" (requestedAction museumRequest none) =
        .ok ↑"https://caf%c3%a9.example/tour/museum" := by decide +kernel
  obtain ⟨result, hresult, hredirect⟩ := exists_run_museum hbase hcallback
  obtain ⟨result', hresult', hredirect'⟩ := exists_run_museum hbase' hcallback'
  exact ⟨hheaders, hbase, hbase', result, result', hresult, hresult', hredirect, hredirect'⟩

end OAuthRedirect.Resolver
