import OAuthRedirect.Proofs.Http.Headers
import OAuthRedirect.Proofs.Json.RoundTrip
import OAuthRedirect.Proofs.Resolver.Answered
import OAuthRedirect.Proofs.Resolver.Texts
import OAuthRedirect.Proofs.Uri.QueryPart
import OAuthRedirect.Proofs.WideString

/-!
# What a request is answered with

The application stands in front of its pages (`Application.inFront`). What the resolver makes of a
request decides who answers it: a request that is resolved is answered with a redirect, one that
is refused with an error body, and one that is passed by is left to the pages. Whoever answers, the
security headers are laid over the answer and change nothing else in it
(`Application.answer_contract`).

A refusal quotes the template that it is about. When that is no text, no error body can be made, and
the request breaks off without an answer of its own and without the headers
(`Application.refusal_without_body`).
-/

namespace OAuthRedirect

open Text

/-! ### Redirects and refusals -/

/-- The query in a location is that of the reference that is redirected to, and what splitting finds
in that reference. -/
theorem AuthorizationRequest.query_of_location {r : AuthorizationRequest WideString} {uri : String}
    (h : r.sentUri = .ok uri) :
    ∃ query, Uri.queryPart? uri.toList = some query ∧
      Uri.queryPart? (Response.location uri).toList = some query ∧
      ∀ sent, Uri.split uri = .ok sent → sent.query.toList = query := by
  obtain ⟨endpoint, parameters, -, -, hquery⟩ := queryPart?_sentUri h
  refine ⟨_, hquery, Uri.queryPart?_location hquery, fun sent hsent => ?_⟩
  rw [Uri.query_of_split_encode hquery hsent]

/-- The one location of a redirect stays with the security headers. -/
theorem Response.Secures.named_location {status : Nat} {uri : String} {sent : Response}
    (h : Secures (redirect status uri) sent) :
    named (· == "location") sent.headers = [("location", location uri)] := by
  refine h.named_eq fun name hname => ?_
  rw [isSecurityName, sentSecurityHeaders_eq, eq_of_beq hname]
  decide

/-- The members of the body of a refusal. -/
theorem Refusal.members_body (refusal : Refusal WideString) :
    refusal.body.members =
      [("error", .str "invalid_request"), ("error_description", refusal.message.toJson)] := rfl

/-- A refusal whose message is a text is answered with a body that is read as its error code and
what it says. -/
theorem exists_refusalAnswer {refusal : Refusal WideString} {message : String}
    (h : refusal.message = ↑message) :
    ∃ answer, refusalAnswer refusal = .ok answer ∧ answer.status = 400 ∧
      Json.read answer.body = .ok (.obj [("error", .str "invalid_request"),
        ("error_description", .str message)]) := by
  have hmembers : refusal.body.members =
      Json.texts [("error", "invalid_request"), ("error_description", message)] := by
    rw [refusal.members_body, h]
    rfl
  refine ⟨.jsonText 400 [] (Json.obj (Json.texts
    [("error", "invalid_request"), ("error_description", message)])).write, ?_, rfl,
    Json.read_write_texts (List.cons_ne_nil _ _) (by simp)⟩
  rw [refusalAnswer, jsonAnswer, Response.json, hmembers, Json.compact_texts]
  rfl

/-- A refusal whose message is no text has no answer. -/
theorem refusalAnswer_of_isBroken {refusal : Refusal WideString}
    (h : refusal.message.isBroken = true) : ∃ e, refusalAnswer refusal = .error (.encoding e) := by
  have hbody : (Json.obj refusal.body.members).compact.isBroken = true := by
    rw [refusal.members_body]
    simp [Json.compact, Json.compactCodes, Json.compactMembers, WideString.isBroken_ofCodes,
      WideString.any_isSurrogate_compactCodes, h]
  obtain ⟨e, he⟩ := WideString.toText_of_isBroken hbody
  refine ⟨e, ?_⟩
  rw [refusalAnswer, jsonAnswer, Response.json, he]
  rfl

namespace Application

/-! ### Standing in front -/

/-- The answer to a request whose other answers come from elsewhere. -/
def inFront (app : Application) (sha256 : Bool) (request : Request)
    (inner : Answering Response) : Answering Response := do
  let response ← answer (← app.resolve sha256 request none) inner
  pure (response.withHeaders sentSecurityHeaders)

section InFront

variable {app : Application} {sha256 : Bool} {request : Request} {session : Session}

/-- The application stands in front of its own pages. -/
theorem respond_eq_inFront (app : Application) (sha256 : Bool) (request : Request) :
    app.respond sha256 request = app.inFront sha256 request (app.passBy sha256 request) := rfl

theorem handle_of_run_inFront {sent : Response} {later : Session}
    (h : (app.inFront sha256 request (app.passBy sha256 request)).run.run session =
      (.ok sent, later)) :
    app.handle sha256 request session = ((sent, none), later) := by
  rw [handle, respond_eq_inFront, h]

theorem handle_of_run_inFront_error {crash : Crash} {later : Session}
    (h : (app.inFront sha256 request (app.passBy sha256 request)).run.run session =
      (.error crash, later)) :
    app.handle sha256 request session = ((.internalError, some crash), later) := by
  rw [handle, respond_eq_inFront, h]

section Outcome

variable {inner : Answering Response} {resolved : Resolved} {later : Session}
  (h : Resolved.ofOutcome (app.resolver.run sha256 request none session).1 = .ok resolved)

include h

/-- The security headers are laid over whatever answer there is. -/
theorem run_inFront :
    (app.inFront sha256 request inner).run.run session =
      (((answer resolved inner).run.run (app.resolver.run sha256 request none session).2).1.map
          (·.withHeaders sentSecurityHeaders),
        ((answer resolved inner).run.run (app.resolver.run sha256 request none session).2).2) := by
  rw [inFront, ExceptT.run_bind, StateT.run_bind, run_resolve, h]
  change (answer resolved inner >>= fun response =>
    pure (response.withHeaders sentSecurityHeaders) : Answering Response).run.run _ = _
  rw [ExceptT.run_bind, StateT.run_bind]
  rcases (answer resolved inner).run.run (app.resolver.run sha256 request none session).2 with
    ⟨_ | _, _⟩ <;> rfl

theorem exists_run_inFront {response : Response}
    (hanswer : (answer resolved inner).run.run (app.resolver.run sha256 request none session).2 =
      (.ok response, later)) :
    ∃ sent, (app.inFront sha256 request inner).run.run session = (.ok sent, later) ∧
      Response.Secures response sent := by
  refine ⟨response.withHeaders sentSecurityHeaders, ?_, Response.secures_withHeaders response⟩
  rw [run_inFront h, hanswer]
  rfl

/-- An answer that breaks off is not secured. -/
theorem run_inFront_error {crash : Crash}
    (hanswer : (answer resolved inner).run.run (app.resolver.run sha256 request none session).2 =
      (.error crash, later)) :
    (app.inFront sha256 request inner).run.run session = (.error crash, later) := by
  rw [run_inFront h, hanswer]
  rfl

end Outcome

end InFront

/-- **What a request is answered with.** Let the application stand in front of any other one.

* A request that is resolved, to an authorization request that has a URI, is answered with a
  redirect by status 302. Its one location has the query of that URI, character by character, which
  is also what splitting finds there.
* A request that is refused with a text is answered with status 400 and a JSON document that is read
  as the error code and the text of the refusal, and nothing else. A refusal that says something
  that is no text breaks off.
* A request that is passed by is answered as the other application answers it, with the same status
  and the same body, and breaks off where that breaks off.

Each answer has each security header once and with its value, and all other headers of the redirect,
of the error answer or of the other answer. The application itself stands in front of its own pages
in this way, and answers what breaks off with an internal error. -/
theorem answer_contract (app : Application) (sha256 : Bool) (request : Request)
    (inner : Answering Response) (session : Session) :
    let outcome := app.resolver.run sha256 request none session
    let answered := (app.inFront sha256 request inner).run.run session
    (∀ r uri, outcome.1 = .ok (some r) → r.sentUri = .ok uri →
      ∃ sent location query, answered = (.ok sent, outcome.2) ∧ sent.status = 302 ∧
        Response.named (· == "location") sent.headers = [("location", location)] ∧
        Uri.queryPart? uri.toList = some query ∧ Uri.queryPart? location.toList = some query ∧
        (∀ parts, Uri.split uri = .ok parts → parts.query.toList = query) ∧
        Response.Secures (.redirect 302 uri) sent) ∧
    (∀ refusal, outcome.1 = .error (.refused refusal) →
      (∀ message : String, refusal.message = ↑message →
        ∃ underlying sent, refusalAnswer refusal = .ok underlying ∧
          answered = (.ok sent, outcome.2) ∧ sent.status = 400 ∧
          Json.read sent.body = .ok (.obj [("error", .str "invalid_request"),
            ("error_description", .str message)]) ∧
          Response.Secures underlying sent) ∧
      ((∀ message : String, refusal.message ≠ ↑message) →
        ∃ e, answered = (.error (.encoding e), outcome.2))) ∧
    (outcome.1 = .ok none →
      (∀ other later, inner.run.run outcome.2 = (.ok other, later) →
        ∃ sent, answered = (.ok sent, later) ∧ sent.status = other.status ∧
          sent.body = other.body ∧ Response.Secures other sent) ∧
      ∀ crash later, inner.run.run outcome.2 = (.error crash, later) →
        answered = (.error crash, later)) ∧
    (∀ sent later, (app.inFront sha256 request (app.passBy sha256 request)).run.run session =
        (.ok sent, later) →
      app.handle sha256 request session = ((sent, none), later)) ∧
    ∀ crash later, (app.inFront sha256 request (app.passBy sha256 request)).run.run session =
        (.error crash, later) →
      app.handle sha256 request session = ((.internalError, some crash), later) := by
  intro outcome answered
  refine ⟨fun r uri hrun huri => ?_, fun refusal hrun => ⟨fun message hmessage => ?_,
    fun hmessage => ?_⟩, fun hrun => ⟨?_, ?_⟩, fun sent later => handle_of_run_inFront,
    fun crash later => handle_of_run_inFront_error⟩
  · have hresolved : Resolved.ofOutcome outcome.1 = .ok (.request r) := by rw [hrun]; rfl
    have hanswer : (answer (.request r) inner).run.run outcome.2 =
        (.ok (.redirect 302 uri), outcome.2) := by
      rw [answer, redirectAnswer, huri]
      rfl
    obtain ⟨sent, hsent, hsecures⟩ := exists_run_inFront hresolved hanswer
    obtain ⟨query, hquery, hlocation, hsplit⟩ := r.query_of_location huri
    exact ⟨sent, _, query, hsent, hsecures.status, hsecures.named_location, hquery, hlocation,
      hsplit, hsecures⟩
  · have hresolved : Resolved.ofOutcome outcome.1 = .ok (.refusal refusal) := by rw [hrun]; rfl
    obtain ⟨underlying, hunderlying, hstatus, hbody⟩ := exists_refusalAnswer hmessage
    have hanswer : (answer (.refusal refusal) inner).run.run outcome.2 =
        (.ok underlying, outcome.2) := by
      rw [answer, hunderlying]
      rfl
    obtain ⟨sent, hsent, hsecures⟩ := exists_run_inFront hresolved hanswer
    refine ⟨underlying, sent, hunderlying, hsent, hsecures.status.trans hstatus, ?_, hsecures⟩
    rw [hsecures.body]
    exact hbody
  · have hresolved : Resolved.ofOutcome outcome.1 = .ok (.refusal refusal) := by rw [hrun]; rfl
    have hbroken : refusal.message.isBroken = true := by
      rw [← Bool.not_eq_false, WideString.isBroken_eq_false_iff]
      exact fun ⟨message, h⟩ => hmessage message h
    obtain ⟨e, he⟩ := refusalAnswer_of_isBroken hbroken
    have hanswer : (answer (.refusal refusal) inner).run.run outcome.2 =
        (.error (.encoding e), outcome.2) := by
      rw [answer, he]
      rfl
    exact ⟨e, run_inFront_error hresolved hanswer⟩
  all_goals
    have hresolved : Resolved.ofOutcome outcome.1 = .ok .passedBy := by rw [hrun]; rfl
  · intro other later hinner
    obtain ⟨sent, hsent, hsecures⟩ := exists_run_inFront hresolved hinner
    exact ⟨sent, hsent, hsecures.status, hsecures.body, hsecures⟩
  · exact fun crash later hinner => run_inFront_error hresolved hinner

private def depot : Registration where
  id := "depot"
  clientId := "d-1"
  clientSecret := some "d-secret"
  authentication := .secretBasic
  grant := .authorizationCode
  authorizationUri := some "https://depot-login.example/sign in?lang=%2A#top"
  redirectTemplate := some Template.standard
  scopes := .empty
  clientName := none
  id_ne_empty := by decide
  clientId_ne_empty := by decide
  endpoints _ _ := by decide

private def depots : Repository := ⟨[depot], by decide, by decide⟩

private def depotApp : Application :=
  ⟨⟨defaultBase, "localhost", 8080, none, "https://depot-login.example", fun _ => none⟩, ↑depots,
    ⟨defaultBase⟩⟩

private def depotRequest (path : String) : Request where
  method := "GET"
  path := some path
  rootPath := none
  host := some "depot.example"
  server := none
  scheme := "https"
  query := []

private theorem addressable_depotRequest (path : String) : (depotRequest path).Addressable :=
  .of_https rfl rfl rfl (by decide) rfl

/-- One request for the registration, one for another id, and one for a page. -/
private theorem outcomes_depot (session : Session) :
    (∃ r uri, (depotApp.resolver.run true (depotRequest "/oauth2/authorization/depot") none
        session).1 = .ok (some r) ∧ r.sentUri = .ok uri) ∧
      (depotApp.resolver.run true (depotRequest "/oauth2/authorization/nobody") none session).1 =
        .error (.refused (.unknownRegistration "nobody")) ∧
      depotApp.resolver.run true (depotRequest "/health") none session = (.ok none, session) := by
  have hreads : depotApp.resolver.ReadsAs (.usual depots.ask ⟨defaultBase⟩) :=
    Resolver.readsAs_of_repository depots ⟨defaultBase⟩ _ _
  obtain ⟨hid, hnobody, hnone, hname, hunknown⟩ :
      Resolver.requestedId (.usual depots.ask ⟨defaultBase⟩)
          (depotRequest "/oauth2/authorization/depot") none = some "depot" ∧
      depotApp.resolver.requestedId (depotRequest "/oauth2/authorization/nobody") none =
        some "nobody" ∧
      depotApp.resolver.requestedId (depotRequest "/health") none = none ∧
      Template.firstUnsupported? depot.callbackTemplate = none ∧
      depotApp.resolver.find "nobody" = .ok none := by decide +kernel
  have hfind : Resolver.find (.usual depots.ask ⟨defaultBase⟩) "depot" = .ok (some depot) := rfl
  refine ⟨?_, ?_, (Resolver.Course.passedBy hnone).run_eq⟩
  · obtain ⟨_, hbase⟩ := (addressable_depotRequest _).exists_baseUrl
    obtain ⟨r, hr, hanswers⟩ := Resolver.outcome_resolved hid hfind rfl hbase hname
    have hsplit : Uri.split r.authorizationUri =
        .ok ⟨"https", "depot-login.example", "/sign in", "lang=%2A", "top"⟩ := by
      rw [← Option.some_inj.mp hanswers.authorizationUri]
      decide +kernel
    obtain ⟨uri, hsent⟩ : ∃ uri, r.widen.sentUri = .ok uri := by
      rw [AuthorizationRequest.sentUri_widen hanswers.shown_additionalParameters,
        AuthorizationRequest.uri_of_split_ok hsplit]
      exact ⟨_, rfl⟩
    refine ⟨r.widen, uri, ?_, hsent⟩
    rw [Resolver.run_of_readsAs hreads, hr]
    rfl
  · obtain ⟨url, hurl, -, -⟩ := (addressable_depotRequest "/oauth2/authorization/nobody").url rfl
    exact (Resolver.outcome_unknown_iff hurl).mpr ⟨hnobody, hunknown⟩

theorem answer_contract_depot :
    (∃ sent later, depotApp.handle true (depotRequest "/oauth2/authorization/depot")
        ⟨Entropy.seeded 4, []⟩ = ((sent, none), later) ∧ sent.status = 302 ∧
      Response.named (· == "expires") sent.headers = [("expires", "0")]) ∧
    (∃ sent later, depotApp.handle true (depotRequest "/oauth2/authorization/nobody")
        ⟨Entropy.seeded 4, []⟩ = ((sent, none), later) ∧ sent.status = 400 ∧
      Json.read sent.body = .ok (.obj [("error", .str "invalid_request"),
        ("error_description", .str "Invalid Client Registration with Id: nobody")])) ∧
    ∃ sent later, depotApp.handle true (depotRequest "/health") ⟨Entropy.seeded 4, []⟩ =
        ((sent, none), later) ∧ sent.status = 200 ∧ sent.body = healthPage.write ∧
      Response.named (· == "pragma") sent.headers = [("pragma", "no-cache")] := by
  have hheader : ("expires", "0") ∈ sentSecurityHeaders ∧
      ("pragma", "no-cache") ∈ sentSecurityHeaders := by
    rw [Response.sentSecurityHeaders_eq]
    decide
  obtain ⟨⟨r, uri, hrun, huri⟩, hrefused, hpassed⟩ := outcomes_depot ⟨Entropy.seeded 4, []⟩
  refine ⟨?_, ?_, ?_⟩
  · obtain ⟨hresolved, -, -, hhandle, -⟩ := answer_contract depotApp true
      (depotRequest "/oauth2/authorization/depot") (depotApp.passBy true _) ⟨Entropy.seeded 4, []⟩
    obtain ⟨sent, _, _, hanswered, hstatus, -, -, -, -, hsecures⟩ := hresolved r uri hrun huri
    exact ⟨sent, _, hhandle _ _ hanswered, hstatus, hsecures.once _ hheader.1⟩
  · obtain ⟨-, hrefusal, -, hhandle, -⟩ := answer_contract depotApp true
      (depotRequest "/oauth2/authorization/nobody") (depotApp.passBy true _)
      ⟨Entropy.seeded 4, []⟩
    obtain ⟨-, sent, -, hanswered, hstatus, hbody, -⟩ := (hrefusal _ hrefused).1 _ rfl
    exact ⟨sent, _, hhandle _ _ hanswered, hstatus, hbody⟩
  · obtain ⟨-, -, hother, hhandle, -⟩ := answer_contract depotApp true
      (depotRequest "/health") (depotApp.passBy true _) ⟨Entropy.seeded 4, []⟩
    have hpage : (depotApp.passBy true (depotRequest "/health")).run.run ⟨Entropy.seeded 4, []⟩ =
        (.ok (.jsonText 200 [] healthPage.write), ⟨Entropy.seeded 4, []⟩) := by
      have hbody : jsonAnswer 200 healthPage = .ok (.jsonText 200 [] healthPage.write) := by
        have htext : healthPage.compact = .text healthPage.write :=
          Json.compact_texts [("status", "healthy"), ("service", "oauth-client")]
        rw [jsonAnswer, Response.json, htext]
        rfl
      have hroute : depotApp.passBy true (depotRequest "/health") =
          depotApp.page true (depotRequest "/health") .health := by
        rfl
      rw [hroute, page, hbody]
      rfl
    rw [hpassed] at hother
    obtain ⟨sent, hanswered, hstatus, hbody, hsecures⟩ := (hother rfl).1 _ _ hpage
    exact ⟨sent, _, hhandle _ _ hanswered, hstatus, hbody, hsecures.once _ hheader.2⟩

/-- A template with a placeholder that nobody fills in, and a surrogate behind it. -/
private def tornTemplate : List Nat := "{tenant}".toList.map Char.toNat ++ [0xD800]

private def tornData : Members :=
  [("registration_id", .str "torn"), ("client_id", .str "torn-1"), ("client_secret", .str "secret"),
    ("authorization_grant_type", .str "authorization_code"),
    ("authorization_uri", .str "https://provider.example/authorize"),
    ("redirect_uri_template", .broken tornTemplate)]

private def torn : Registration WideString where
  id := "torn"
  clientId := "torn-1"
  clientSecret := some "secret"
  authentication := .secretBasic
  grant := .authorizationCode
  authorizationUri := some ↑"https://provider.example/authorize"
  redirectTemplate := some (.broken tornTemplate (by decide))
  scopes := .empty
  clientName := none
  id_ne_empty := by decide
  clientId_ne_empty := by decide
  endpoints _ _ := by decide

private def tornApp : Application :=
  ⟨depotApp.settings, ⟨[torn], by decide, by decide⟩, ⟨defaultBase⟩⟩

/-- **A refusal that cannot be said is not answered.** The registration is accepted, its template is
refused for the placeholder, and what is sent is an internal error: no JSON document, and none of
the security headers. -/
theorem refusal_without_body :
    let request := depotRequest "/oauth2/authorization/torn"
    let session : Session := ⟨Entropy.seeded 4, []⟩
    Registration.ofJson (.obj tornData) = .valid torn ∧
      startWith depotApp.settings [torn] = .ok tornApp ∧ request.Addressable ∧
      (∃ refusal, (tornApp.resolver.run true request none session).1 = .error (.refused refusal)) ∧
      (∃ e, (tornApp.handle true request session).1 = (.internalError, some (.encoding e))) ∧
      Response.internalError.status ≠ 400 ∧
      (Json.read Response.internalError.body).toOption = none ∧
      ∀ header ∈ sentSecurityHeaders,
        Response.named (· == header.1) Response.internalError.headers = [] := by
  intro request session
  obtain ⟨hid, hcallback⟩ : tornApp.resolver.requestedId request none = some torn.id ∧
      Resolver.callback torn "https://depot.example" (Resolver.requestedAction request none) =
        .error ⟨.broken tornTemplate (by decide), ↑"tenant"⟩ := by decide +kernel
  have hbase : request.baseUrl = .ok "https://depot.example" := by decide +kernel
  have hrefused : (tornApp.resolver.run true request none session).1 = .error (.refused
      (.badTemplate ⟨.broken tornTemplate (by decide), ↑"tenant"⟩ "torn")) :=
    (Resolver.outcome_refusedTemplate_iff hid rfl rfl hbase).mpr hcallback
  have hresolved : Resolved.ofOutcome (tornApp.resolver.run true request none session).1 =
      .ok (.refusal (.badTemplate ⟨.broken tornTemplate (by decide), ↑"tenant"⟩ "torn")) := by
    rw [hrefused]
    rfl
  have hbroken : (Refusal.badTemplate ⟨.broken tornTemplate (by decide), ↑"tenant"⟩ "torn" :
      Refusal WideString).message.isBroken = true := by decide +kernel
  obtain ⟨e, he⟩ := refusalAnswer_of_isBroken hbroken
  have hrun : (tornApp.inFront true request (tornApp.passBy true request)).run.run session =
      (.error (.encoding e), _) :=
    run_inFront_error hresolved (by rw [answer, he]; rfl)
  refine ⟨rfl, rfl, addressable_depotRequest _, ⟨_, hrefused⟩, ⟨e, ?_⟩, by decide,
    by decide +kernel, ?_⟩
  · rw [handle_of_run_inFront_error hrun]
  · rw [Response.sentSecurityHeaders_eq]
    decide

end Application

end OAuthRedirect
