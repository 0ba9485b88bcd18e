import OAuthRedirect.Application
import OAuthRedirect.Proofs.Resolver.WideOutcome

/-!
# Which requests are answered

Resolving a request is meant to end in a value or in a refusal, and the application has an answer
to both. A hosted request may bring any bytes as its query, and there is one thing that can go
wrong with it: the bytes are not UTF-8, so that the request has no URL, and the URL is needed
(`Resolver.NeedsUrl`). Then resolving breaks off with the fault of the query, although the
parameters of the same query could be read. With any other query there is one thing that can be
wrong with the registration: its endpoint is no text, and resolving comes to it
(`Resolver.MeetsBrokenEndpoint`). All other requests are answered (`Resolver.answered_iff`).
-/

namespace OAuthRedirect

namespace Resolver

section Strings

variable {τ : Type} [Inhabited τ] [LT τ] {resolver : Resolver τ} {sha256 : Bool}
  {request : Request} {explicit : Option String} {session : Session}

/-- Resolving a request needs its URL when an id is asked for, unless the registration with the id
has a grant without a redirect. -/
def NeedsUrl (resolver : Resolver τ) (request : Request) (explicit : Option String) : Prop :=
  ∃ id, resolver.requestedId request explicit = some id ∧
    ∀ registration, resolver.find id = .ok (some registration) →
      ∃ grant, registration.grant.redirect? = some grant

omit [Inhabited τ] in
/-- An outcome that can be answered: a value or a refusal. -/
def IsAnswered (outcome : Except (Failure τ) (Option (AuthorizationRequest τ))) : Prop :=
  (∃ value, outcome = .ok value) ∨ ∃ refusal, outcome = .error (.refused refusal)

omit [Inhabited τ] in
theorem not_isAnswered_url (e : UrlError) :
    ¬ IsAnswered (.error (.url e) : Except (Failure τ) (Option (AuthorizationRequest τ))) := by
  simp [IsAnswered]

omit [Inhabited τ] in
theorem not_isAnswered_invalid (faults : List Fault) :
    ¬ IsAnswered (.error (.invalid faults) :
      Except (Failure τ) (Option (AuthorizationRequest τ))) := by
  simp [IsAnswered]

/-! ### Queries that are not UTF-8 -/

variable [Strings τ]

/-- A query that is not UTF-8 is the failure of every request whose URL is needed. -/
theorem run_eq_query_error (hfind : ∀ id, ∃ found, resolver.find id = .ok found)
    (h : request.Hosted) (hneeds : resolver.NeedsUrl request explicit)
    {d : Text.Utf8.DecodeError} (hquery : Text.Utf8.decode request.query = .error d) :
    (resolver.run sha256 request explicit session).1 = .error (.url (.query d)) := by
  obtain ⟨id, hid, hredirect⟩ := hneeds
  obtain ⟨found, hfound⟩ := hfind id
  have hurl : request.url = .error (.query d) := h.url_eq_error_iff.mpr ⟨d, hquery, rfl⟩
  have hbase : request.baseUrl = .error (.query d) := h.baseUrl_eq_error_iff.mpr ⟨d, hquery, rfl⟩
  cases found with
  | none => rw [(Course.unknownNoUrl hid hfound hurl).run_eq]
  | some registration =>
    obtain ⟨grant, hgrant⟩ := hredirect registration hfound
    rw [(Course.noBaseUrl hid hfound hgrant hbase).run_eq]

/-- Nothing else keeps a hosted request from being answered, but for its endpoint. -/
theorem isAnswered_or_query_error (hfind : ∀ id, ∃ found, resolver.find id = .ok found)
    (h : request.Hosted) (hvalid : ∀ faults,
      (resolver.run sha256 request explicit session).1 ≠ .error (.invalid faults)) :
    IsAnswered (resolver.run sha256 request explicit session).1 ∨
      resolver.NeedsUrl request explicit ∧
        ∃ d, Text.Utf8.decode request.query = .error d := by
  generalize houtcome : (resolver.run sha256 request explicit session).1 = outcome at hvalid ⊢
  obtain ⟨_, hcourse⟩ := course_of_outcome houtcome
  cases hcourse with
  | passedBy => exact .inl (.inl ⟨_, rfl⟩)
  | resolved => exact .inl (.inl ⟨_, rfl⟩)
  | unknown => exact .inl (.inr ⟨_, rfl⟩)
  | unsupported => exact .inl (.inr ⟨_, rfl⟩)
  | badTemplate => exact .inl (.inr ⟨_, rfl⟩)
  | invalid => exact absurd rfl (hvalid _)
  | lookup hid hfailed =>
    obtain ⟨found, hfound⟩ := hfind _
    rw [hfound] at hfailed
    contradiction
  | @unknownNoUrl id e hid hnone hurl =>
    obtain ⟨d, hquery, -⟩ := h.url_eq_error_iff.mp hurl
    refine .inr ⟨⟨id, hid, fun registration hsome => ?_⟩, d, hquery⟩
    exact absurd (Except.ok.inj (hnone.symm.trans hsome)) (by simp)
  | @noBaseUrl id registration grant e hid hsome hgrant hbase =>
    obtain ⟨d, hquery, -⟩ := h.baseUrl_eq_error_iff.mp hbase
    refine .inr ⟨⟨id, hid, fun other hother => ⟨grant, ?_⟩⟩, d, hquery⟩
    rw [found_unique hid hsome hid hother]
    exact hgrant

theorem isAnswered_iff (hfind : ∀ id, ∃ found, resolver.find id = .ok found)
    (h : request.Hosted) :
    IsAnswered (resolver.run sha256 request explicit session).1 ↔
      (resolver.NeedsUrl request explicit → ∃ cs, Text.Utf8.decode request.query = .ok cs) ∧
        ∀ faults, (resolver.run sha256 request explicit session).1 ≠ .error (.invalid faults) := by
  constructor
  · refine fun hanswered => ⟨fun hneeds => ?_, fun faults hinvalid => ?_⟩
    · cases hquery : Text.Utf8.decode request.query with
      | ok cs => exact ⟨cs, rfl⟩
      | error d =>
        rw [run_eq_query_error hfind h hneeds hquery] at hanswered
        exact absurd hanswered (not_isAnswered_url _)
    · rw [hinvalid] at hanswered
      exact absurd hanswered (not_isAnswered_invalid _)
  · rintro ⟨hreadable, hvalid⟩
    rcases isAnswered_or_query_error hfind h hvalid with hanswered | ⟨hneeds, d, hquery⟩
    · exact hanswered
    · obtain ⟨cs, hcs⟩ := hreadable hneeds
      rw [hquery] at hcs
      contradiction

end Strings

/-! ### Endpoints that are no texts -/

/-- Resolving comes to an endpoint that is no text: the registration with the id has such an
endpoint, a grant with a redirect and a template with supported placeholders only. -/
def MeetsBrokenEndpoint (resolver : Resolver WideString) (request : Request)
    (explicit : Option String) : Prop :=
  ∃ id registration grant, resolver.requestedId request explicit = some id ∧
    resolver.find id = .ok (some registration) ∧ registration.grant.redirect? = some grant ∧
    (∀ name ∈ Template.widePlaceholders registration.callbackTemplate,
      Template.IsSupported name) ∧
    ∀ uri : String, registration.authorizationUri ≠ some ↑uri

section Wide

variable {resolver : Resolver WideString} {sha256 : Bool} {request : Request}
  {explicit : Option String} {session : Session}

/-- A request for such a registration asks for the URL. -/
theorem MeetsBrokenEndpoint.needsUrl (h : resolver.MeetsBrokenEndpoint request explicit) :
    resolver.NeedsUrl request explicit := by
  obtain ⟨id, registration, grant, hid, hfind, hgrant, -, -⟩ := h
  refine ⟨id, hid, fun other hother => ⟨grant, ?_⟩⟩
  rw [found_unique hid hfind hid hother]
  exact hgrant

theorem MeetsBrokenEndpoint.outcome (h : resolver.MeetsBrokenEndpoint request explicit)
    {baseUrl : String} (hbase : request.baseUrl = .ok baseUrl) :
    (resolver.run sha256 request explicit session).1 =
      .error (.invalid [⟨.brokenString, [.field "authorization_uri"]⟩]) := by
  obtain ⟨id, registration, grant, hid, hfind, hgrant, hnames, hbroken⟩ := h
  exact (outcome_brokenEndpoint_iff sha256 session hid hfind hgrant hbase).mpr ⟨hnames, hbroken⟩

/-- Nothing but such an endpoint is found fault with. -/
theorem meetsBrokenEndpoint_of_outcome {faults : List Fault}
    (h : (resolver.run sha256 request explicit session).1 = .error (.invalid faults)) :
    resolver.MeetsBrokenEndpoint request explicit := by
  obtain ⟨_, hcourse⟩ := course_of_outcome h
  cases hcourse with
  | invalid hid hfind hgrant _ hcallback hendpoint =>
    refine ⟨_, _, _, hid, hfind, hgrant, ((wideCallback_eq_ok_iff _ _).mp hcallback).1,
      fun uri huri => ?_⟩
    obtain ⟨endpoint, hvalid⟩ := exists_wideEndpoint hgrant huri
    rw [hvalid] at hendpoint
    cases hendpoint

theorem isAnswered_wide_iff (hfind : ∀ id, ∃ found, resolver.find id = .ok found)
    (h : request.Hosted) :
    IsAnswered (resolver.run sha256 request explicit session).1 ↔
      (resolver.NeedsUrl request explicit → ∃ cs, Text.Utf8.decode request.query = .ok cs) ∧
        ¬ resolver.MeetsBrokenEndpoint request explicit := by
  rw [isAnswered_iff hfind h]
  refine and_congr_right fun hreadable => ?_
  constructor
  · intro hvalid hmeets
    obtain ⟨cs, hquery⟩ := hreadable hmeets.needsUrl
    obtain ⟨baseUrl, hbase⟩ := (h.addressable hquery).exists_baseUrl
    exact hvalid _ (hmeets.outcome hbase)
  · exact fun hnot faults hinvalid => hnot (meetsBrokenEndpoint_of_outcome hinvalid)

end Wide

end Resolver

/-! ### Answers of the application -/

/-- How the application goes on from an outcome of resolving. -/
def Resolved.ofOutcome : Except (Failure WideString) (Option (AuthorizationRequest WideString)) →
    Except Crash Resolved
  | .ok (some r) => .ok (.request r)
  | .ok none => .ok .passedBy
  | .error (.refused r) => .ok (.refusal r)
  | .error (.url e) => .error (.url e)
  | .error (.lookup e) => .error (.lookup e)
  | .error (.invalid faults) => .error (.invalid faults)

namespace Application

theorem run_resolve (app : Application) (sha256 : Bool) (request : Request)
    (explicit : Option String) (session : Session) :
    (app.resolve sha256 request explicit).run.run session =
      (Resolved.ofOutcome (app.resolver.run sha256 request explicit session).1,
        (app.resolver.run sha256 request explicit session).2) := by
  have hstep : (liftM (modifyGet (app.resolver.run sha256 request explicit) : StateM Session _) :
      Answering _).run.run session =
        (.ok (app.resolver.run sha256 request explicit session).1,
          (app.resolver.run sha256 request explicit session).2) := rfl
  rw [resolve, ExceptT.run_bind, StateT.run_bind, hstep]
  rcases (app.resolver.run sha256 request explicit session).1 with
    (_ | _ | _ | _) | (_ | _) <;> rfl

/-- The application goes on with whatever is answered, and with nothing else. -/
theorem exists_resolved_iff (app : Application) (sha256 : Bool) (request : Request)
    (explicit : Option String) (session : Session) :
    (∃ resolved, ((app.resolve sha256 request explicit).run.run session).1 = .ok resolved) ↔
      Resolver.IsAnswered (app.resolver.run sha256 request explicit session).1 := by
  rw [run_resolve]
  rcases (app.resolver.run sha256 request explicit session).1 with
    (_ | _ | _ | _) | (_ | _) <;> simp [Resolver.IsAnswered, Resolved.ofOutcome]

end Application

namespace Resolver

/-- **Which requests are answered.** Let a resolver ask a repository. A hosted request, whatever
bytes its query has, ends in a value or in a refusal exactly when its URL is not needed or its
query is UTF-8, and resolving does not come to an endpoint that is no text. A query that is not
UTF-8 breaks resolving off with the fault of the query, and such an endpoint does so with its own.
Where the application resolves a request, it has something to answer in the same cases. -/
theorem answered_iff {request : Request} (h : request.Hosted) (repository : Repository WideString)
    (matcher : PathMatcher) (stateKeys verifierKeys : KeySource) (sha256 : Bool)
    (explicit : Option String) (session : Session) :
    let resolver : Resolver WideString := ⟨repository.ask, matcher, stateKeys, verifierKeys⟩
    let outcome := (resolver.run sha256 request explicit session).1
    (((∃ value, outcome = .ok value) ∨ ∃ refusal, outcome = .error (.refused refusal)) ↔
      (resolver.NeedsUrl request explicit → ∃ cs, Text.Utf8.decode request.query = .ok cs) ∧
        ¬ resolver.MeetsBrokenEndpoint request explicit) ∧
    (∀ d, Text.Utf8.decode request.query = .error d → resolver.NeedsUrl request explicit →
      outcome = .error (.url (.query d))) ∧
    (∀ cs, Text.Utf8.decode request.query = .ok cs →
      resolver.MeetsBrokenEndpoint request explicit →
      outcome = .error (.invalid [⟨.brokenString, [.field "authorization_uri"]⟩])) ∧
    ∀ settings : Settings,
      let app : Application := ⟨settings, repository, matcher⟩
      (∃ resolved, ((app.resolve sha256 request explicit).run.run session).1 = .ok resolved) ↔
        (resolver.NeedsUrl request explicit → ∃ cs, Text.Utf8.decode request.query = .ok cs) ∧
          ¬ resolver.MeetsBrokenEndpoint request explicit := by
  intro resolver outcome
  have hfind : ∀ id, ∃ found, resolver.find id = .ok found :=
    fun id => ⟨_, find_ask repository matcher stateKeys verifierKeys id⟩
  refine ⟨isAnswered_wide_iff hfind h,
    fun d hquery hneeds => run_eq_query_error hfind h hneeds hquery,
    fun cs hquery hmeets => ?_, fun settings => ?_⟩
  · obtain ⟨baseUrl, hbase⟩ := (h.addressable hquery).exists_baseUrl
    exact hmeets.outcome hbase
  · -- the application draws its keys from other sources, which makes no difference to what is found
    exact (Application.exists_resolved_iff _ sha256 request explicit session).trans
      (isAnswered_wide_iff hfind h)

private def kiosk : Registration WideString where
  id := "kiosk"
  clientId := "k-1"
  clientSecret := some "secret"
  authentication := .secretPost
  grant := .implicit
  authorizationUri := some "https://provider.example/authorize"
  redirectTemplate := some Template.standard
  scopes := .empty
  clientName := none
  id_ne_empty := by decide
  clientId_ne_empty := by decide
  endpoints _ _ := by decide

private def kiosks : Repository WideString := ⟨[kiosk], by decide, by decide⟩

private def kioskResolver : Resolver WideString :=
  ⟨kiosks.ask, ⟨defaultBase⟩, .random .forStates, .random .forVerifiers⟩

/-- A request whose query is one byte that is no UTF-8. -/
private def crooked : Request where
  method := "GET"
  path := some "/"
  rootPath := some ""
  host := some "app.example"
  server := none
  scheme := "https"
  query := [0xFF]

private theorem hosted_crooked : crooked.Hosted where
  path := by decide
  scheme := .inr Uri.isScheme_https
  host := ⟨_, rfl, by decide⟩

/-- The byte does no harm to a request that no id is asked for. -/
theorem answered_iff_crooked :
    crooked.Hosted ∧
      ((∃ value, (kioskResolver.run true crooked none ⟨Entropy.seeded 1, []⟩).1 = .ok value) ∨
        ∃ refusal, (kioskResolver.run true crooked none ⟨Entropy.seeded 1, []⟩).1 =
          .error (.refused refusal)) := by
  obtain ⟨hiff, -, -⟩ := answered_iff hosted_crooked kiosks ⟨defaultBase⟩ (.random .forStates)
    (.random .forVerifiers) true none ⟨Entropy.seeded 1, []⟩
  have hnone : ∀ id, kioskResolver.requestedId crooked none ≠ some id := by
    have heq : kioskResolver.requestedId crooked none = none := by decide +kernel
    simp [heq]
  refine ⟨hosted_crooked, hiff.mpr ⟨?_, ?_⟩⟩
  · rintro ⟨id, hid, -⟩
    exact absurd hid (hnone id)
  · rintro ⟨id, -, -, hid, -⟩
    exact absurd hid (hnone id)

/-- With an id that no registration has, it leads past all refusals: the fault of the query comes
out, though the parameters of that query are there. -/
theorem not_answered_crooked :
    crooked.Hosted ∧ crooked.parameters = [("ÿ", "")] ∧
      (kioskResolver.run true crooked (some "nobody") ⟨Entropy.seeded 1, []⟩).1 =
        .error (.url (.query ⟨.invalidStart, 0xFF, 0, 1⟩)) ∧
      ¬ ((∃ value, (kioskResolver.run true crooked (some "nobody") ⟨Entropy.seeded 1, []⟩).1 =
          .ok value) ∨
        ∃ refusal, (kioskResolver.run true crooked (some "nobody") ⟨Entropy.seeded 1, []⟩).1 =
          .error (.refused refusal)) := by
  have hfind : ∀ id, ∃ found, kioskResolver.find id = .ok found :=
    fun id => ⟨_, find_ask kiosks _ _ _ id⟩
  have hneeds : kioskResolver.NeedsUrl crooked (some "nobody") := by
    refine ⟨"nobody", rfl, fun registration hsome => ?_⟩
    have hnone : kioskResolver.find "nobody" = .ok none := by decide +kernel
    exact absurd (Except.ok.inj (hnone.symm.trans hsome)) (by simp)
  have hrun : (kioskResolver.run true crooked (some "nobody") ⟨Entropy.seeded 1, []⟩).1 =
      .error (.url (.query ⟨.invalidStart, 0xFF, 0, 1⟩)) :=
    run_eq_query_error hfind hosted_crooked hneeds (by decide +kernel)
  refine ⟨hosted_crooked, by decide +kernel, hrun, ?_⟩
  rw [hrun]
  exact not_isAnswered_url _

end Resolver

end OAuthRedirect
