import OAuthRedirect.Proofs.AuthorizationRequest.Target
import OAuthRedirect.Proofs.Resolver.SentTexts
import OAuthRedirect.Proofs.Resolver.WideOutcome
import OAuthRedirect.Proofs.Uri.WithQuery

/-!
# Where resolved requests are sent

A request that was resolved names the endpoint of its registration, and a registration may name
any text as its endpoint that is not empty. The user is sent there as long as the endpoint is a
reference that keeps its parts when its query grows (`Resolver.sent_to_endpoint_iff`). There is no
redirect for an endpoint that is no reference, and the redirect for one that is not steady leads to
another place, if to any.
-/

namespace OAuthRedirect

namespace AuthorizationRequest

variable {r : AuthorizationRequest WideString}

/-- There is no redirect with the fault of the endpoint exactly when that is no reference. -/
theorem sentUri_eq_endpoint_error_iff {e : UriError} :
    r.sentUri = .error (.endpoint e) ↔ Uri.split r.authorizationUri = .error e := by
  rw [sentUri]
  cases Uri.split r.authorizationUri with
  | error e' => simp [Except.mapError, bind, Except.bind]
  | ok endpoint =>
    cases textParameters r.parameters <;>
      simp [Except.mapError, bind, Except.bind, pure, Except.pure]

/-- The user is sent to the endpoint: the text of the redirect and the text of the endpoint are
references of the same scheme, authority and path. -/
def IsSentToEndpoint (r : AuthorizationRequest WideString) : Prop :=
  ∃ text sent endpoint, r.sentUri = .ok text ∧ Uri.split text = .ok sent ∧
    Uri.split r.authorizationUri = .ok endpoint ∧ sent.SameEndpoint endpoint

theorem isSentToEndpoint_iff :
    r.IsSentToEndpoint ↔
      (∃ endpoint, Uri.split r.authorizationUri = .ok endpoint ∧ endpoint.IsSteady) ∧
        ∃ parameters, r.parameters = widened parameters := by
  constructor
  · rintro ⟨text, sent, endpoint, htext, hsent, hendpoint, hsame⟩
    obtain ⟨endpoint', parameters, hendpoint', hparameters, rfl⟩ := sentUri_eq_ok_iff.mp htext
    obtain rfl := Except.ok.inj (hendpoint.symm.trans hendpoint')
    exact ⟨⟨endpoint, hendpoint, (Uri.split_withQuery_iff hendpoint _).mp ⟨sent, hsent, hsame⟩⟩,
      parameters, hparameters⟩
  · rintro ⟨⟨endpoint, hendpoint, hsteady⟩, parameters, hparameters⟩
    obtain ⟨sent, hsent, hsame⟩ := (Uri.split_withQuery_iff hendpoint _).mpr hsteady
    exact ⟨_, sent, endpoint,
      sentUri_eq_ok_iff.mpr ⟨endpoint, parameters, hendpoint, hparameters, rfl⟩,
      hsent, hendpoint, hsame⟩

end AuthorizationRequest

namespace Resolver

/-- **Which requests are sent to the endpoint.** A resolved request belongs to a registration that
was found for it and names the endpoint of that. The redirect fails with a fault of the endpoint
exactly when the endpoint is no reference. There is one, and it is read as a reference with the
scheme, the authority and the path of the endpoint, exactly when the endpoint is a steady reference
and what is sent with it is texts. The endpoint is steady when it has an authority, or its path does
not begin with two slashes and is empty or rooted if the scheme wants an authority. -/
theorem sent_to_endpoint_iff {resolver : Resolver WideString} {sha256 : Bool} {request : Request}
    {explicit : Option String} {session session' : Session}
    {result : AuthorizationRequest WideString}
    (h : resolver.run sha256 request explicit session = (.ok (some result), session')) :
    ∃ id registration endpoint, resolver.requestedId request explicit = some id ∧
      resolver.find id = .ok (some registration) ∧
      registration.authorizationUri = some (.text endpoint) ∧
      (∀ e, result.sentUri = .error (.endpoint e) ↔ Uri.split endpoint = .error e) ∧
      ((∃ text sent parts, result.sentUri = .ok text ∧ Uri.split text = .ok sent ∧
          Uri.split endpoint = .ok parts ∧ sent.SameEndpoint parts) ↔
        (∃ parts, Uri.split endpoint = .ok parts ∧ parts.IsSteady) ∧
          (∀ name ∈ registration.scopes.names, ∃ s, name = .text s) ∧
          ∃ s, result.redirectUri = some (.text s)) := by
  obtain ⟨id, registration, callback, hid, hfind, hanswers⟩ := exists_answers_of_run_eq h
  refine ⟨id, registration, _, hid, hfind, hanswers.wideAuthorizationUri,
    fun e => AuthorizationRequest.sentUri_eq_endpoint_error_iff,
    AuthorizationRequest.isSentToEndpoint_iff.trans (and_congr_right' ?_)⟩
  rw [hanswers.exists_widened_iff, hanswers.redirectUri]
  simp only [Option.some_inj]

/-- A registration whose endpoint belongs to an application on the user's device. -/
private def native : Registration WideString where
  id := "native"
  clientId := "native-1"
  clientSecret := none
  authentication := .none
  grant := .authorizationCode
  authorizationUri := some ↑"com.provider.app:/authorize?tenant=a#top"
  redirectTemplate := some ↑Template.standard
  scopes := .ofList [.text "profile"]
  clientName := none
  id_ne_empty := by decide
  clientId_ne_empty := by decide
  endpoints _ _ := by decide

/-- A registration whose endpoint has a bracket too few. -/
private def unclosed : Registration WideString where
  id := "unclosed"
  clientId := "unclosed-1"
  clientSecret := some "secret"
  authentication := .secretBasic
  grant := .implicit
  authorizationUri := some ↑"https://[::1/authorize"
  redirectTemplate := some ↑Template.standard
  scopes := .empty
  clientName := none
  id_ne_empty := by decide
  clientId_ne_empty := by decide
  endpoints _ _ := by decide

/-- A registration whose endpoint has two slashes too many, and so no authority. -/
private def slashed : Registration WideString where
  id := "slashed"
  clientId := "slashed-1"
  clientSecret := some "secret"
  authentication := .secretBasic
  grant := .implicit
  authorizationUri := some ↑"https:////provider.example/authorize"
  redirectTemplate := some ↑Template.standard
  scopes := .empty
  clientName := none
  id_ne_empty := by decide
  clientId_ne_empty := by decide
  endpoints _ _ := by decide

private def endpointRepository : Repository WideString :=
  ⟨[native, unclosed, slashed], by decide, by decide⟩

private def endpointResolver : Resolver WideString :=
  ⟨endpointRepository.ask, ⟨defaultBase⟩, .random .forStates, .random .forVerifiers⟩

private def endpointRequest : Request where
  method := "GET"
  path := some "/"
  rootPath := some ""
  host := some "app.example"
  server := none
  scheme := "https"
  query := []

private theorem addressable_endpointRequest : endpointRequest.Addressable :=
  .of_https rfl rfl rfl (by decide) rfl

/-- All three are resolved. -/
private theorem exists_run_endpoint (registration : Registration WideString) {grant : RedirectGrant}
    {uri : String} (hfind : endpointResolver.find registration.id = .ok (some registration))
    (hgrant : registration.grant.redirect? = some grant)
    (htemplate : registration.redirectTemplate = some ↑Template.standard)
    (huri : registration.authorizationUri = some ↑uri)
    (hscopes : ∀ name ∈ registration.scopes.names, ∃ s : String, name = ↑s) :
    ∃ result session',
      endpointResolver.run true endpointRequest (some registration.id) ⟨Entropy.seeded 0, []⟩ =
        (.ok (some result), session') ∧
      result.authorizationUri = uri ∧ (∃ s, result.redirectUri = some (.text s)) ∧
      ∃ parameters, result.parameters = AuthorizationRequest.widened parameters := by
  obtain ⟨_, hbase⟩ := addressable_endpointRequest.exists_baseUrl
  have hid : endpointResolver.requestedId endpointRequest (some registration.id) =
      some registration.id := rfl
  have hnames : ∀ name ∈ Template.widePlaceholders registration.callbackTemplate,
      Template.IsSupported name := by
    rw [Registration.callbackTemplate, htemplate]
    exact Template.isSupported_of_mem_standard
  obtain ⟨result, hresult, hanswers, -⟩ := (outcome_wideAnswer_iff true
    ⟨Entropy.seeded 0, []⟩ hid hfind hgrant hbase).mpr ⟨hnames, uri, huri⟩
  have hfilled (bindings : List (String × String)) :
      Template.wideFilled bindings registration.callbackTemplate =
        ↑(Template.filled bindings Template.standard) := by
    rw [Registration.callbackTemplate, htemplate]
    exact Template.wideFilled_text Template.standard
  rw [hfilled] at hanswers
  exact ⟨result, _, Prod.ext hresult rfl,
    WideString.text.inj (Option.some_inj.mp (hanswers.wideAuthorizationUri.symm.trans huri)),
    ⟨_, hanswers.redirectUri⟩, hanswers.exists_widened_iff.mpr ⟨hscopes, _, rfl⟩⟩

theorem sent_to_endpoint_iff_native :
    ∃ result session',
      endpointResolver.run true endpointRequest (some "native") ⟨Entropy.seeded 0, []⟩ =
        (.ok (some result), session') ∧
      ∃ text sent, result.sentUri = .ok text ∧ Uri.split text = .ok sent ∧
        sent.scheme = "com.provider.app" ∧ sent.authority = "" ∧ sent.path = "/authorize" := by
  have hscopes : ∀ name ∈ native.scopes.names, ∃ s : String, name = ↑s := fun _ hname =>
    ⟨"profile", List.mem_singleton.mp hname⟩
  obtain ⟨result, session', hrun, -, hcallback, -⟩ :=
    exists_run_endpoint native rfl rfl rfl rfl hscopes
  have hsplit : Uri.split "com.provider.app:/authorize?tenant=a#top" =
      .ok ⟨"com.provider.app", "", "/authorize", "tenant=a", "top"⟩ := by
    decide +kernel
  obtain ⟨id, registration, endpoint, hid, hfind, hendpoint, -, hiff⟩ := sent_to_endpoint_iff hrun
  obtain rfl : "native" = id := Option.some_inj.mp hid
  obtain rfl : native = registration := Option.some_inj.mp (Except.ok.inj hfind)
  obtain rfl := WideString.text.inj (Option.some_inj.mp hendpoint)
  obtain ⟨text, sent, parts, htext, hsent, hparts, hsame⟩ :=
    hiff.mpr ⟨⟨_, hsplit, by decide⟩, hscopes, hcallback⟩
  obtain rfl := Except.ok.inj (hsplit.symm.trans hparts)
  exact ⟨result, session', hrun, text, sent, htext, hsent, hsame.scheme, hsame.authority,
    hsame.path⟩

/-- The host that the path of the endpoint begins with is read as the authority. -/
private theorem split_slashed (query : String) :
    ∃ sent, Uri.split (Uri.text ⟨"https", "", "//provider.example/authorize", query, ""⟩) =
      .ok sent ∧ sent.authority = "provider.example" := by
  obtain ⟨hsplit, hslashes, happend, hbrackets, hcompatibility⟩ :
      Uri.split "https:////provider.example/authorize" =
          .ok ⟨"https", "", "//provider.example/authorize", "", ""⟩ ∧
        "//provider.example/authorize".toList =
          '/' :: '/' :: "provider.example/authorize".toList ∧
        "provider.example/authorize".toList =
          "provider.example".toList ++ '/' :: "authorize".toList ∧
        Uri.checkBrackets "provider.example".toList = .ok () ∧
        Uri.checkCompatibility "provider.example".toList = .ok () := by
    decide +kernel
  have hplain : ∀ c ∈ "provider.example".toList, Uri.endsAuthority c = false := by
    simp [Uri.endsAuthority]
  obtain ⟨hscheme, -, hpath, hunmarked⟩ := Uri.bare_of_split hsplit rfl
  have hbare : (⟨"https", "", "//provider.example/authorize", query, ""⟩ : Uri).Bare :=
    ⟨hscheme, rfl, hpath, hunmarked⟩
  have hauthority : ∀ more, Uri.splitAuthority
      ('/' :: '/' :: ("provider.example/authorize".toList ++ more)) =
        ("provider.example".toList, '/' :: ("authorize".toList ++ more)) := by
    intro more
    have hfollows : Uri.FollowsAuthority ('/' :: ("authorize".toList ++ more)) := by
      intro c hc
      obtain rfl : '/' = c := Option.some_inj.mp hc
      rfl
    rw [happend, List.append_assoc]
    exact Uri.splitAuthority_append hplain hfollows
  have hread := fun v => hbare.split_text_of_slashes hslashes (v := v)
  simp only [hauthority] at hread
  exact ⟨_, (hread _).mpr ⟨⟨hbrackets, hcompatibility⟩, rfl⟩, String.ofList_toList⟩

/-- **Not every registration that is accepted leads to its endpoint.** One that names no reference
is resolved and has no redirect. One whose endpoint begins with four slashes is resolved, and the
user is sent to the host that its path begins with. -/
theorem not_sent_to_endpoint :
    Registration.ofJson (.obj unclosed.fields) = .valid unclosed ∧
    Registration.ofJson (.obj slashed.fields) = .valid slashed ∧
      (∃ result session',
        endpointResolver.run true endpointRequest (some "unclosed") ⟨Entropy.seeded 0, []⟩ =
          (.ok (some result), session') ∧
        unclosed.authorizationUri = some (.text result.authorizationUri) ∧
        result.sentUri = .error (.endpoint .brackets)) ∧
      ∃ result session' text sent parts,
        endpointResolver.run true endpointRequest (some "slashed") ⟨Entropy.seeded 0, []⟩ =
          (.ok (some result), session') ∧
        slashed.authorizationUri = some (.text result.authorizationUri) ∧
        result.sentUri = .ok text ∧ Uri.split text = .ok sent ∧
        Uri.split result.authorizationUri = .ok parts ∧
        parts.authority = "" ∧ sent.authority = "provider.example" := by
  refine ⟨rfl, rfl, ?_, ?_⟩
  · obtain ⟨result, session', hrun, huri, -, -⟩ :=
      exists_run_endpoint unclosed rfl rfl rfl rfl fun _ hname => absurd hname List.not_mem_nil
    refine ⟨result, session', hrun, huri ▸ rfl,
      AuthorizationRequest.sentUri_eq_endpoint_error_iff.mpr ?_⟩
    rw [huri]
    decide +kernel
  · obtain ⟨result, session', hrun, huri, -, parameters, hparameters⟩ :=
      exists_run_endpoint slashed rfl rfl rfl rfl fun _ hname => absurd hname List.not_mem_nil
    have hsplit : Uri.split result.authorizationUri =
        .ok ⟨"https", "", "//provider.example/authorize", "", ""⟩ := by
      rw [huri]
      decide +kernel
    obtain ⟨sent, hsent, hauthority⟩ := split_slashed _
    exact ⟨result, session', _, sent, _, hrun, huri ▸ rfl,
      AuthorizationRequest.sentUri_eq_ok_iff.mpr ⟨_, parameters, hsplit, hparameters, rfl⟩, hsent,
      hsplit, rfl, hauthority⟩

end Resolver

end OAuthRedirect
