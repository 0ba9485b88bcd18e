import OAuthRedirect.Proofs.Http.BaseUrl
import OAuthRedirect.Proofs.RedirectTemplate
import OAuthRedirect.Proofs.Registration.Repository
import OAuthRedirect.Proofs.Resolver.Course

/-!
# Outcomes of resolving

Which outcome resolving has for a request with a base URL depends on the id that is asked for and on
its registration alone: no id at all, an id without registration, a grant without redirect, a
template that is not expanded, an endpoint that is no text, and else an authorization request that
answers for the registration (`AuthorizationRequest.Answers`). Each outcome is characterised on its
own, for resolvers of texts and of wide strings alike.

The endpoints of a registration of texts are texts, and its template is expanded unless it holds an
unsupported placeholder (`Template.firstUnsupported?`), so that the last outcome can be told from
the placeholders alone there (`Resolver.outcome_resolved`).
-/

namespace OAuthRedirect

/-! ### Supported placeholders -/

namespace Template

/-- The names that the templates of registrations may hold. -/
def supportedNames : List String := ["baseUrl", "action", "registrationId"]

/-- The leftmost placeholder of another name. -/
def firstUnsupported? (template : String) : Option String :=
  (placeholders template).find? fun name => !supportedNames.contains name

theorem firstUnsupported?_eq_none_iff {template : String} :
    firstUnsupported? template = none ↔
      ∀ name ∈ placeholders template, name ∈ supportedNames := by
  simp [firstUnsupported?]

theorem firstUnbound?_templateVariables (baseUrl action id template : String) :
    firstUnbound? (Resolver.templateVariables baseUrl action id) template =
      firstUnsupported? template := by
  rw [firstUnbound?, firstUnsupported?]
  congr 1
  funext name
  exact isUnbound_eq_not_contains _ name

end Template

namespace Resolver

variable {registration : Registration}

theorem callback_eq_ok (h : Template.firstUnsupported? registration.callbackTemplate = none)
    (baseUrl action : String) :
    callback registration baseUrl action =
      .ok (Template.filled (templateVariables baseUrl action registration.id)
        registration.callbackTemplate) := by
  rw [callback]
  exact Template.expand_eq_ok (by rw [Template.firstUnbound?_templateVariables, h])

end Resolver

/-! ### Answers -/

/-- A request that answers for a registration: what the registration says, the response type of
its grant, the callback and the state that it is given, and the proof key if there is one, with
the verifier among the attributes and the challenge among the parameters. -/
structure AuthorizationRequest.Answers {τ : Type} [Inhabited τ] [LT τ] [Strings τ]
    (result : AuthorizationRequest τ) (registration : Registration τ) (callback : τ)
    (state : String) (pkce : Option Pkce) : Prop where
  endpoint :
    (Strings.toJson registration.authorizationEndpoint).string? = some ↑result.authorizationUri
  clientId : result.clientId = registration.clientId
  scopes : result.scopes = registration.scopes
  grant : result.grant.toGrant = registration.grant
  code : registration.grant = .authorizationCode → result.responseType = .code
  token : registration.grant = .implicit → result.responseType = .token
  redirectUri : result.redirectUri = some callback
  state : result.state = some (Strings.ofText state)
  attributes : result.attributes = ("registration_id", .str registration.id) ::
    pkce.toList.map fun p => ("code_verifier", .str p.verifier)
  additionalParameters :
    result.additionalParameters = pkce.toList.flatMap Resolver.pkceParameters

/-- A request that answers for a registration of texts goes to its endpoint. -/
theorem AuthorizationRequest.Answers.authorizationUri {result : AuthorizationRequest}
    {registration : Registration} {callback state : String} {pkce : Option Pkce}
    (h : result.Answers registration callback state pkce) :
    registration.authorizationUri = some result.authorizationUri := by
  have hendpoint : registration.authorizationEndpoint = result.authorizationUri :=
    WideString.text.inj (Option.some_inj.mp h.endpoint)
  rw [Registration.authorizationEndpoint] at hendpoint
  cases huri : registration.authorizationUri with
  | none =>
    rw [huri] at hendpoint
    exact absurd hendpoint.symm result.authorizationUri_ne_empty
  | some uri =>
    rw [huri] at hendpoint
    exact congrArg some hendpoint

/-- The additional parameters of a request that answers for a registration are texts. -/
theorem AuthorizationRequest.Answers.shown_additionalParameters {τ : Type} [Inhabited τ] [LT τ]
    [Strings τ] {result : AuthorizationRequest τ} {registration : Registration τ} {callback : τ}
    {state : String} {pkce : Option Pkce} (h : result.Answers registration callback state pkce) :
    ∀ member ∈ result.additionalParameters, member.2.shown = ↑member.2.display := by
  intro member hmember
  rw [h.additionalParameters, List.mem_flatMap] at hmember
  obtain ⟨p, -, hmember⟩ := hmember
  rw [Resolver.pkceParameters] at hmember
  obtain rfl | hmember := List.mem_cons.mp hmember
  · rfl
  · split at hmember
    · rw [List.mem_singleton.mp hmember]
      rfl
    · cases hmember

namespace Resolver

section Strings

variable {τ : Type} [Inhabited τ] [LT τ] [Strings τ]

/-- An endpoint that is sent is a text, and not empty. -/
theorem sentEndpoint_eq_valid_iff {registration : Registration τ}
    {endpoint : { s : String // s ≠ "" }} :
    sentEndpoint registration = .valid endpoint ↔
      (Strings.toJson registration.authorizationEndpoint).string? = some ↑endpoint.val := by
  rw [sentEndpoint, AuthorizationRequest.checkEndpoint, Checked.under_eq_valid_iff,
    Check.nonEmptyText_eq_valid_iff]

/-- What is built for a registration answers for it. -/
theorem answers_build {registration : Registration τ} {grant : RedirectGrant}
    (hgrant : registration.grant.redirect? = some grant) {endpoint : { s : String // s ≠ "" }}
    (hendpoint : sentEndpoint registration = .valid endpoint) (pkce : Option Pkce) (callback : τ)
    (state : String) :
    (build registration grant endpoint pkce callback state).Answers registration callback state
      pkce where
  endpoint := sentEndpoint_eq_valid_iff.mp hendpoint
  clientId := rfl
  scopes := rfl
  grant := Grant.toGrant_of_redirect? hgrant
  code hcode := by
    rw [hcode] at hgrant
    obtain rfl := Option.some_inj.mp hgrant
    rfl
  token htoken := by
    rw [htoken] at hgrant
    obtain rfl := Option.some_inj.mp hgrant
    rfl
  redirectUri := rfl
  state := rfl
  attributes := by cases pkce <;> rfl
  additionalParameters := by cases pkce <;> simp [build]

/-! ### The outcomes -/

section Outcomes

variable {resolver : Resolver τ} {sha256 : Bool} {request : Request} {explicit : Option String}
  {session : Session} {id : String}

/-- The course that ends in an outcome. -/
theorem course_of_outcome {outcome : Except (Failure τ) (Option (AuthorizationRequest τ))}
    (h : (resolver.run sha256 request explicit session).1 = outcome) :
    ∃ session', resolver.Course sha256 request explicit session outcome session' :=
  ⟨_, course_iff_run_eq.mpr (Prod.ext h rfl)⟩

/-- A request is passed by when no id is asked for. -/
theorem outcome_passedBy_iff :
    (resolver.run sha256 request explicit session).1 = .ok none ↔
      resolver.requestedId request explicit = none := by
  constructor
  · intro h
    obtain ⟨_, hcourse⟩ := course_of_outcome h
    cases hcourse with
    | passedBy hid => exact hid
  · intro hid
    rw [(Course.passedBy hid).run_eq]

/-- An id is unknown when nothing is found for it, given a URL to log. -/
theorem outcome_unknown_iff {url : Uri} (hurl : request.url = .ok url) :
    (resolver.run sha256 request explicit session).1 =
        .error (.refused (.unknownRegistration id)) ↔
      resolver.requestedId request explicit = some id ∧ resolver.find id = .ok none := by
  constructor
  · intro h
    obtain ⟨_, hcourse⟩ := course_of_outcome h
    cases hcourse with
    | unknown hid hfind _ => exact ⟨hid, hfind⟩
  · rintro ⟨hid, hfind⟩
    rw [(Course.unknown hid hfind hurl).run_eq]

/-- **A resolved request answers for the registration that was asked for**, with its proof key and
with the state that was drawn after that. -/
theorem exists_answers_of_run_eq {session' : Session} {result : AuthorizationRequest τ}
    (h : resolver.run sha256 request explicit session = (.ok (some result), session')) :
    ∃ id registration callback, resolver.requestedId request explicit = some id ∧
      resolver.find id = .ok (some registration) ∧
      result.Answers registration callback
        (resolver.stateKeys.next (resolver.keyed sha256 registration session).2.entropy).1
        (resolver.keyed sha256 registration session).1 := by
  cases course_iff_run_eq.mpr h with
  | @resolved id _ callback registration _ _ _ hid hfind hgrant _ _ hendpoint hresult =>
    refine ⟨id, registration, callback, hid, hfind, ?_⟩
    rw [hresult]
    exact answers_build hgrant hendpoint _ _ _

variable {registration : Registration τ} (hid : resolver.requestedId request explicit = some id)
  (hfind : resolver.find id = .ok (some registration))

include hid hfind

omit [Strings τ] in
/-- The registration of every course that ends in one is the one that was found. -/
theorem found_unique {id' : String} {registration' : Registration τ}
    (hid' : resolver.requestedId request explicit = some id')
    (hfind' : resolver.find id' = .ok (some registration')) : registration' = registration := by
  obtain rfl := Option.some_inj.mp (hid.symm.trans hid')
  exact Option.some_inj.mp (Except.ok.inj (hfind'.symm.trans hfind))

/-- A grant is unsupported when it has no redirect. -/
theorem outcome_unsupported_iff :
    (resolver.run sha256 request explicit session).1 =
        .error (.refused (.unsupportedGrant registration.id registration.grant)) ↔
      registration.grant.redirect? = none := by
  constructor
  · intro h
    -- the outcome names an id and a grant, which are those of the registration found
    generalize hrid : registration.id = rid at h
    generalize hrgrant : registration.grant = grant at h ⊢
    obtain ⟨_, hcourse⟩ := course_of_outcome h
    cases hcourse with
    | unsupported hid' hfind' hgrant =>
      rw [← hrgrant, ← found_unique hid hfind hid' hfind']
      exact hgrant
  · intro hgrant
    rw [(Course.unsupported hid hfind hgrant).run_eq]

variable {baseUrl : String} {grant : RedirectGrant}
  (hgrant : registration.grant.redirect? = some grant) (hbase : request.baseUrl = .ok baseUrl)

include hgrant hbase

/-- A template is refused when it is not expanded. -/
theorem outcome_refusedTemplate_iff {e : Template.UnknownVariable τ} :
    (resolver.run sha256 request explicit session).1 =
        .error (.refused (.badTemplate e registration.id)) ↔
      callback registration baseUrl (requestedAction request explicit) = .error e := by
  constructor
  · intro h
    generalize hrid : registration.id = rid at h
    obtain ⟨_, hcourse⟩ := course_of_outcome h
    cases hcourse with
    | badTemplate hid' hfind' _ hbase' hcallback =>
      obtain rfl := Except.ok.inj (hbase.symm.trans hbase')
      rwa [found_unique hid hfind hid' hfind'] at hcallback
  · intro hcallback
    rw [(Course.badTemplate hid hfind hgrant hbase hcallback).run_eq]

variable {uri : τ}
  (hcallback : callback registration baseUrl (requestedAction request explicit) = .ok uri)

include hcallback

/-- Once there is a redirect URI, the endpoint is what may be wrong. -/
theorem outcome_invalid_iff {faults : List Fault} :
    (resolver.run sha256 request explicit session).1 = .error (.invalid faults) ↔
      sentEndpoint registration = .invalid faults := by
  constructor
  · intro h
    obtain ⟨_, hcourse⟩ := course_of_outcome h
    cases hcourse with
    | invalid hid' hfind' _ _ _ hendpoint => rwa [found_unique hid hfind hid' hfind'] at hendpoint
  · intro hendpoint
    rw [(Course.invalid hid hfind hgrant hbase hcallback hendpoint).run_eq]

variable (sha256 session) in
/-- With an endpoint that is sent, the request is answered. -/
theorem outcome_answered {endpoint : { s : String // s ≠ "" }}
    (hendpoint : sentEndpoint registration = .valid endpoint) :
    ∃ result, (resolver.run sha256 request explicit session).1 = .ok (some result) ∧
      result.Answers registration uri
        (resolver.stateKeys.next (resolver.keyed sha256 registration session).2.entropy).1
        (resolver.keyed sha256 registration session).1 := by
  have hcourse : resolver.Course sha256 request explicit session _ _ :=
    .resolved hid hfind hgrant hbase hcallback hendpoint rfl
  exact ⟨_, congrArg Prod.fst hcourse.run_eq, answers_build hgrant hendpoint _ _ _⟩

end Outcomes

end Strings

/-! ### Registrations of texts -/

section Texts

variable {resolver : Resolver} {sha256 : Bool} {request : Request} {explicit : Option String}
  {session : Session} {id : String} {registration : Registration}
  (hid : resolver.requestedId request explicit = some id)
  (hfind : resolver.find id = .ok (some registration)) {baseUrl : String} {grant : RedirectGrant}
  (hgrant : registration.grant.redirect? = some grant) (hbase : request.baseUrl = .ok baseUrl)

include hid hfind hgrant hbase

/-- A template is refused for its leftmost unsupported placeholder. -/
theorem outcome_badTemplate_iff {name : String} :
    (resolver.run sha256 request explicit session).1 =
        .error (.refused (.badTemplate ⟨registration.callbackTemplate, name⟩ registration.id)) ↔
      Template.firstUnsupported? registration.callbackTemplate = some name := by
  rw [outcome_refusedTemplate_iff hid hfind hgrant hbase, ← Template.firstUnbound?_templateVariables
    baseUrl (requestedAction request explicit) registration.id]
  refine Template.expand_eq_error_iff.trans ?_
  constructor
  · rintro ⟨other, hother, heq⟩
    obtain ⟨-, rfl⟩ := Template.UnknownVariable.mk.inj heq
    exact hother
  · exact fun hname => ⟨name, hname, rfl⟩

/-- A template with supported placeholders only is filled in, and the request is answered. -/
theorem outcome_resolved (hname : Template.firstUnsupported? registration.callbackTemplate = none) :
    ∃ result, (resolver.run sha256 request explicit session).1 = .ok (some result) ∧
      result.Answers registration
        (Template.filled
          (templateVariables baseUrl (requestedAction request explicit) registration.id)
          registration.callbackTemplate)
        (resolver.stateKeys.next (resolver.keyed sha256 registration session).2.entropy).1
        (resolver.keyed sha256 registration session).1 :=
  outcome_answered sha256 session hid hfind hgrant hbase
    (callback_eq_ok hname baseUrl (requestedAction request explicit))
    (sentEndpoint_of_redirect hgrant)

end Texts

/-! ### Repositories -/

/-- A resolver finds what its repository finds. -/
theorem find_ask {τ : Type} [Inhabited τ] [LT τ] (repository : Repository τ) (matcher : PathMatcher)
    (stateKeys verifierKeys : KeySource) (id : String) :
    find ⟨repository.ask, matcher, stateKeys, verifierKeys⟩ id = .ok (repository.find? id) := by
  rw [find]
  split
  · rename_i hid
    rw [hid, Repository.find?_empty]
  · rename_i hid
    exact repository.lookup_of_ne_empty hid

end Resolver

end OAuthRedirect
