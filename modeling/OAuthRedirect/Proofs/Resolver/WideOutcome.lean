import OAuthRedirect.Proofs.AuthorizationRequest.Data
import OAuthRedirect.Proofs.Resolver.Outcome

/-!
# Outcomes for registrations that need not be texts

A resolver that asks a repository of accepted registrations has six outcomes for a request with a
base URL (`Resolver.outcome_iff`). Five of them are a pass, three refusals and an authorization
request that answers for the registration and passes its own checks. The sixth is no refusal. It is
the fault of a registration whose endpoint is no text: such a registration is accepted, but makes no
authorization request (`Resolver.not_answered_broken_endpoint`).
-/

namespace OAuthRedirect

/-! ### Supported placeholders -/

namespace Template

/-- Is a name one of those that the templates of registrations may hold? -/
def IsSupported (name : WideString) : Prop := ∃ s ∈ supportedNames, name = ↑s

theorem valueOf?_templateVariables_ne_none_iff (baseUrl action id : String) {name : WideString} :
    valueOf? (Resolver.templateVariables baseUrl action id) name ≠ none ↔ IsSupported name := by
  cases name with
  | text s =>
    have hbound := isUnbound_eq_not_contains (Resolver.templateVariables baseUrl action id) s
    have hnames : (Resolver.templateVariables baseUrl action id).map Prod.fst = supportedNames :=
      rfl
    rw [isUnbound, hnames, Bool.eq_iff_iff, Option.isNone_iff_eq_none, Bool.not_eq_true',
      ← Bool.not_eq_true, List.contains_iff_mem] at hbound
    have hvalue : valueOf? (Resolver.templateVariables baseUrl action id) ↑s =
        (Resolver.templateVariables baseUrl action id).lookup s := rfl
    rw [hvalue, ne_eq, hbound, not_not, IsSupported]
    simp only [WideString.text.injEq, exists_eq_right']
  | broken codes h => simp [valueOf?, WideString.text?, IsSupported]

/-- The template that is used when a registration has none of its own holds all of them. -/
theorem isSupported_of_mem_standard : ∀ name ∈ widePlaceholders ↑standard, IsSupported name := by
  have hnames : widePlaceholders ↑standard = supportedNames.map .text := by decide +kernel
  rw [hnames, List.forall_mem_map]
  exact fun s hs => ⟨s, hs, rfl⟩

end Template

namespace Resolver

section Endpoints

variable {registration : Registration WideString}

theorem wideCallback_eq_ok_iff (baseUrl action : String) {uri : WideString} :
    callback registration baseUrl action = .ok uri ↔
      (∀ name ∈ Template.widePlaceholders registration.callbackTemplate,
        Template.IsSupported name) ∧
        uri = Template.wideFilled (templateVariables baseUrl action registration.id)
          registration.callbackTemplate := by
  refine Template.expandWide_eq_ok_iff.trans ?_
  simp only [Template.valueOf?_templateVariables_ne_none_iff]

theorem wideCallback_eq_error_iff (baseUrl action : String)
    {e : Template.UnknownVariable WideString} :
    callback registration baseUrl action = .error e ↔
      ∃ before name after,
        Template.widePlaceholders registration.callbackTemplate = before ++ name :: after ∧
        (∀ earlier ∈ before, Template.IsSupported earlier) ∧ ¬ Template.IsSupported name ∧
        e = ⟨registration.callbackTemplate, name⟩ := by
  refine Template.expandWide_eq_error_iff.trans ?_
  simp only [← Template.valueOf?_templateVariables_ne_none_iff baseUrl action registration.id,
    not_not]

/-! ### Endpoints -/

theorem wideEndpoint_eq_valid_iff {endpoint : { s : String // s ≠ "" }} :
    sentEndpoint registration = .valid endpoint ↔
      registration.authorizationEndpoint = ↑endpoint.val := by
  have hstring : (Strings.toJson registration.authorizationEndpoint).string? =
      some registration.authorizationEndpoint := Json.string?_toJson _
  rw [sentEndpoint_eq_valid_iff, hstring, Option.some_inj]

variable {grant : RedirectGrant} (hgrant : registration.grant.redirect? = some grant)

include hgrant

/-- An endpoint that is a text is sent. -/
theorem exists_wideEndpoint {uri : String} (huri : registration.authorizationUri = some ↑uri) :
    ∃ endpoint, sentEndpoint registration = .valid endpoint := by
  have hendpoint : registration.authorizationEndpoint = ↑uri := by
    rw [Registration.authorizationEndpoint, huri, Option.getD_some]
  have hne : uri ≠ "" := by
    rintro rfl
    exact (registration.endpoints grant hgrant).1 hendpoint
  exact ⟨⟨uri, hne⟩, wideEndpoint_eq_valid_iff.mpr hendpoint⟩

/-- An endpoint that is no text is a fault. -/
theorem wideEndpoint_of_broken
    (hbroken : ∀ uri : String, registration.authorizationUri ≠ some ↑uri) :
    sentEndpoint registration = .invalid [⟨.brokenString, [.field "authorization_uri"]⟩] := by
  have hne := (registration.endpoints grant hgrant).1
  cases huri : registration.authorizationUri with
  | none =>
    rw [huri] at hne
    exact absurd rfl hne
  | some uri =>
    cases uri with
    | text s => exact absurd huri (hbroken s)
    | broken codes h =>
      have hendpoint : registration.authorizationEndpoint = .broken codes h := by
        rw [Registration.authorizationEndpoint, huri, Option.getD_some]
      have hstring : (Json.broken codes).string? = some (.broken codes h) :=
        congrArg some (WideString.ofCodes_of_surrogate h)
      have hjson : Strings.toJson registration.authorizationEndpoint = .broken codes := by
        rw [hendpoint]
        rfl
      rw [sentEndpoint, hjson, AuthorizationRequest.checkEndpoint, Check.nonEmptyText, hstring]
      rfl

end Endpoints

/-! ### The outcomes of a redirect -/

section Outcomes

variable {resolver : Resolver WideString} (sha256 : Bool) {request : Request}
  {explicit : Option String} (session : Session) {id : String}
  {registration : Registration WideString}
  (hid : resolver.requestedId request explicit = some id)
  (hfind : resolver.find id = .ok (some registration)) {baseUrl : String} {grant : RedirectGrant}
  (hgrant : registration.grant.redirect? = some grant) (hbase : request.baseUrl = .ok baseUrl)

include hid hfind hgrant hbase

/-- A template is refused for its leftmost unsupported placeholder. -/
theorem outcome_unsupportedPlaceholder_iff {name : WideString} :
    (resolver.run sha256 request explicit session).1 =
        .error (.refused (.badTemplate ⟨registration.callbackTemplate, name⟩ registration.id)) ↔
      ∃ before after,
        Template.widePlaceholders registration.callbackTemplate = before ++ name :: after ∧
        (∀ earlier ∈ before, Template.IsSupported earlier) ∧ ¬ Template.IsSupported name := by
  rw [outcome_refusedTemplate_iff hid hfind hgrant hbase, wideCallback_eq_error_iff]
  constructor
  · rintro ⟨before, other, after, hnames, hbefore, hother, heq⟩
    obtain ⟨-, rfl⟩ := Template.UnknownVariable.mk.inj heq
    exact ⟨before, after, hnames, hbefore, hother⟩
  · rintro ⟨before, after, hnames, hbefore, hname⟩
    exact ⟨before, name, after, hnames, hbefore, hname, rfl⟩

/-- With an unsupported placeholder, a registration is refused whatever its endpoint is. -/
theorem outcome_of_unsupportedPlaceholder (hnames :
      ¬ ∀ name ∈ Template.widePlaceholders registration.callbackTemplate,
        Template.IsSupported name) :
    ∃ refusal, (resolver.run sha256 request explicit session).1 = .error (.refused refusal) := by
  cases hcallback : callback registration baseUrl (requestedAction request explicit) with
  | error e => exact ⟨_, (outcome_refusedTemplate_iff hid hfind hgrant hbase).mpr hcallback⟩
  | ok uri => exact absurd ((wideCallback_eq_ok_iff _ _).mp hcallback).1 hnames

/-- Supported placeholders and an endpoint that is no text are found fault with. -/
theorem outcome_brokenEndpoint_iff :
    (resolver.run sha256 request explicit session).1 =
        .error (.invalid [⟨.brokenString, [.field "authorization_uri"]⟩]) ↔
      (∀ name ∈ Template.widePlaceholders registration.callbackTemplate,
        Template.IsSupported name) ∧
      ∀ uri : String, registration.authorizationUri ≠ some ↑uri := by
  by_cases hnames : ∀ name ∈ Template.widePlaceholders registration.callbackTemplate,
      Template.IsSupported name
  · have hcallback := (wideCallback_eq_ok_iff baseUrl (requestedAction request explicit)).mpr
      ⟨hnames, rfl⟩
    rw [outcome_invalid_iff hid hfind hgrant hbase hcallback, and_iff_right hnames]
    constructor
    · intro hinvalid uri huri
      obtain ⟨endpoint, hvalid⟩ := exists_wideEndpoint hgrant huri
      rw [hvalid] at hinvalid
      cases hinvalid
    · exact wideEndpoint_of_broken hgrant
  · obtain ⟨refusal, hrefused⟩ := outcome_of_unsupportedPlaceholder sha256 session hid
      hfind hgrant hbase hnames
    simp [hrefused, hnames]

/-- Supported placeholders and an endpoint that is a text are answered. -/
theorem outcome_wideAnswer_iff :
    (∃ result, (resolver.run sha256 request explicit session).1 = .ok (some result) ∧
        result.Answers registration
          (Template.wideFilled
            (templateVariables baseUrl (requestedAction request explicit) registration.id)
            registration.callbackTemplate)
          (resolver.stateKeys.next (resolver.keyed sha256 registration session).2.entropy).1
          (resolver.keyed sha256 registration session).1 ∧
        AuthorizationRequest.ofJson (.obj result.fields) = .valid result) ↔
      (∀ name ∈ Template.widePlaceholders registration.callbackTemplate,
        Template.IsSupported name) ∧
      ∃ uri : String, registration.authorizationUri = some ↑uri := by
  constructor
  · rintro ⟨result, hresult, -⟩
    by_cases hnames : ∀ name ∈ Template.widePlaceholders registration.callbackTemplate,
        Template.IsSupported name
    · refine ⟨hnames, ?_⟩
      by_contra hbroken
      have hinvalid := (outcome_brokenEndpoint_iff sha256 session hid hfind hgrant hbase).mpr
        ⟨hnames, not_exists.mp hbroken⟩
      rw [hresult] at hinvalid
      cases hinvalid
    · obtain ⟨refusal, hrefused⟩ := outcome_of_unsupportedPlaceholder sha256 session hid
        hfind hgrant hbase hnames
      rw [hresult] at hrefused
      cases hrefused
  · rintro ⟨hnames, uri, huri⟩
    obtain ⟨endpoint, hendpoint⟩ := exists_wideEndpoint hgrant huri
    obtain ⟨result, hresult, hanswers⟩ := outcome_answered sha256 session
      hid hfind hgrant hbase ((wideCallback_eq_ok_iff _ _).mpr ⟨hnames, rfl⟩) hendpoint
    exact ⟨result, hresult, hanswers, AuthorizationRequest.ofJson_fields result⟩

end Outcomes

/-! ### The outcomes of resolving -/

/-- **Outcomes of resolving.** Addressable requests have a base URL. For every request that has
one, a resolver that asks the repository of a list of registrations

* passes the request by when no id is given and none is in the path, and only then;
* refuses the id when it is empty or no registration has it, and only then;
* refuses the registration with the id when its grant has no redirect, and only then;
* refuses, among the registrations whose grant has a redirect, those whose template holds an
  unsupported placeholder, for the leftmost one;
* finds fault with the endpoint of those among the others whose endpoint is no text;
* answers for all others, with the template filled in by the base URL of the request, the action
  and the id, and with a request that passes its own checks. -/
theorem outcome_iff {registrations : List (Registration WideString)}
    {repository : Repository WideString}
    (hrepository : Repository.ofList registrations = .ok repository) (matcher : PathMatcher)
    (stateKeys verifierKeys : KeySource) (sha256 : Bool) (request : Request)
    (explicit : Option String) (session : Session) :
    let resolver : Resolver WideString := ⟨repository.ask, matcher, stateKeys, verifierKeys⟩
    let outcome := (resolver.run sha256 request explicit session).1
    (request.Addressable → ∃ baseUrl, request.baseUrl = .ok baseUrl) ∧
    ∀ baseUrl, request.baseUrl = .ok baseUrl →
      (outcome = .ok none ↔ explicit = none ∧ matcher.matchRequest request = none) ∧
      ∀ id, explicit.or (matcher.matchRequest request) = some id →
        (outcome = .error (.refused (.unknownRegistration id)) ↔
          id = "" ∨ ∀ r ∈ registrations, r.id ≠ id) ∧
        ∀ registration ∈ registrations, registration.id = id →
          (outcome = .error (.refused (.unsupportedGrant id registration.grant)) ↔
            registration.grant ≠ .authorizationCode ∧ registration.grant ≠ .implicit) ∧
          (registration.grant = .authorizationCode ∨ registration.grant = .implicit →
            (∀ name,
              outcome =
                  .error (.refused (.badTemplate ⟨registration.callbackTemplate, name⟩ id)) ↔
                ∃ before after,
                  Template.widePlaceholders registration.callbackTemplate =
                    before ++ name :: after ∧
                  (∀ earlier ∈ before, Template.IsSupported earlier) ∧
                  ¬ Template.IsSupported name) ∧
            (outcome = .error (.invalid [⟨.brokenString, [.field "authorization_uri"]⟩]) ↔
              (∀ name ∈ Template.widePlaceholders registration.callbackTemplate,
                Template.IsSupported name) ∧
              ∀ uri : String, registration.authorizationUri ≠ some ↑uri) ∧
            ((∃ result, outcome = .ok (some result) ∧
                result.Answers registration
                  (Template.wideFilled
                    (templateVariables baseUrl (requestedAction request explicit) id)
                    registration.callbackTemplate)
                  (stateKeys.next (resolver.keyed sha256 registration session).2.entropy).1
                  (resolver.keyed sha256 registration session).1 ∧
                AuthorizationRequest.ofJson (.obj result.fields) = .valid result) ↔
              (∀ name ∈ Template.widePlaceholders registration.callbackTemplate,
                Template.IsSupported name) ∧
              ∃ uri : String, registration.authorizationUri = some ↑uri)) := by
  intro resolver outcome
  refine ⟨Request.Addressable.exists_baseUrl, fun baseUrl hbase => ?_⟩
  obtain ⟨url, hurl⟩ := Request.exists_url_of_baseUrl hbase
  refine ⟨?_, fun id hid => ⟨?_, fun registration hmem hrid => ⟨?_, ?_⟩⟩⟩
  · rw [outcome_passedBy_iff, requestedId, Option.or_eq_none_iff]
  · rw [outcome_unknown_iff hurl, find_ask, Except.ok.injEq, Repository.find?_eq_none_iff,
      Repository.registrations_of_ofList hrepository]
    constructor
    · rintro ⟨-, hnone⟩
      exact .inr hnone
    · rintro (rfl | hnone)
      · exact ⟨hid, fun r _ => r.id_ne_empty⟩
      · exact ⟨hid, hnone⟩
  -- from here on the id has a registration, which is the one that is found
  all_goals
    subst hrid
    change resolver.requestedId request explicit = some registration.id at hid
    have hfind : resolver.find registration.id = .ok (some registration) := by
      rw [find_ask, Repository.find?_eq_some_iff.mpr]
      rw [Repository.registrations_of_ofList hrepository]
      exact ⟨hmem, rfl⟩
  · rw [outcome_unsupported_iff hid hfind, Grant.redirect?_eq_none_iff]
  · intro hredirect
    obtain ⟨grant, hgrant⟩ := Grant.exists_redirect? hredirect
    exact ⟨fun name => outcome_unsupportedPlaceholder_iff sha256 session hid hfind hgrant hbase,
      outcome_brokenEndpoint_iff sha256 session hid hfind hgrant hbase,
      outcome_wideAnswer_iff sha256 session hid hfind hgrant hbase⟩

/-- A public client with a name that is no text. -/
private def mobile : Registration WideString where
  id := "mobile"
  clientId := "m-1"
  clientSecret := none
  authentication := .none
  grant := .authorizationCode
  authorizationUri := some ↑"https://provider.example/authorize"
  redirectTemplate := some ↑Template.standard
  scopes := .ofList ["profile", "openid"]
  clientName := some (.ofCodes [0xD800])
  id_ne_empty := by decide
  clientId_ne_empty := by decide
  endpoints _ _ := by decide

private def mobiles : Repository WideString := ⟨[mobile], by decide, by decide⟩

/-- A request for it, below a context path and with an action of its own. -/
private def joining : Request where
  method := "GET"
  path := some "/shop/oauth2/authorization/mobile"
  rootPath := some "/shop/"
  host := some "App.Example:443"
  server := none
  scheme := "https"
  query := Text.asciiBytes "action=join%2Fnow".toList

private theorem addressable_joining : joining.Addressable where
  path := by decide
  scheme := .inr Uri.isScheme_https
  host := ⟨_, rfl, by decide⟩
  query := ⟨"action=join%2Fnow".toList, by decide +kernel⟩

theorem outcome_iff_joining :
    Repository.ofList [mobile] = .ok mobiles ∧ joining.Addressable ∧
      joining.baseUrl = .ok "https://app.example/shop" ∧
      ∃ result,
        (run ⟨mobiles.ask, ⟨"/oauth2/authorization"⟩, .random .forStates, .random .forVerifiers⟩
          true joining none ⟨Entropy.seeded 1, []⟩).1 = .ok (some result) ∧
        result.clientId = "m-1" ∧ result.responseType = .code ∧
        result.redirectUri = some "https://app.example/shop/join/now/oauth2/code/mobile" := by
  have hrepository : Repository.ofList [mobile] = .ok mobiles := rfl
  have hid : (none : Option String).or
      (PathMatcher.matchRequest ⟨"/oauth2/authorization"⟩ joining) = some "mobile" := by
    decide +kernel
  have hbase : joining.baseUrl = .ok "https://app.example/shop" := by decide +kernel
  obtain ⟨-, houtcome⟩ :=
    outcome_iff hrepository ⟨"/oauth2/authorization"⟩ (.random .forStates) (.random .forVerifiers)
      true joining none ⟨Entropy.seeded 1, []⟩
  obtain ⟨-, hfound⟩ := houtcome _ hbase
  obtain ⟨-, hanswer⟩ := (hfound "mobile" hid).2 mobile List.mem_cons_self rfl
  obtain ⟨result, hresult, hanswers, -⟩ :=
    (hanswer (.inl rfl)).2.2.mpr ⟨Template.isSupported_of_mem_standard, _, rfl⟩
  refine ⟨hrepository, addressable_joining, hbase, result, hresult, hanswers.clientId,
    hanswers.code rfl, hanswers.redirectUri.trans ?_⟩
  decide +kernel

/-- The endpoint of a provider with a surrogate in its path. -/
private def ruinedEndpoint : List Nat :=
  "https://provider.example/".toList.map Char.toNat ++ [0xD800]

private def ruinData : Members :=
  [("registration_id", .str "ruin"), ("client_id", .str "r-1"), ("client_secret", .str "secret"),
    ("authorization_grant_type", .str "authorization_code"),
    ("authorization_uri", .broken ruinedEndpoint)]

private def ruin : Registration WideString where
  id := "ruin"
  clientId := "r-1"
  clientSecret := some "secret"
  authentication := .secretBasic
  grant := .authorizationCode
  authorizationUri := some (.broken ruinedEndpoint (by decide))
  redirectTemplate := some ↑Template.standard
  scopes := .empty
  clientName := none
  id_ne_empty := by decide
  clientId_ne_empty := by decide
  endpoints _ _ := by decide

private def ruins : Repository WideString := ⟨[ruin], by decide, by decide⟩

/-- **An endpoint that is no text leads past all refusals.** The registration is accepted and its
template holds supported placeholders only; the request is addressable and asks for its id. -/
theorem not_answered_broken_endpoint :
    Registration.ofJson (.obj ruinData) = .valid ruin ∧ Repository.ofList [ruin] = .ok ruins ∧
      joining.Addressable ∧
      (run ⟨ruins.ask, ⟨defaultBase⟩, .random .forStates, .random .forVerifiers⟩ true joining
          (some "ruin") ⟨Entropy.seeded 1, []⟩).1 =
        .error (.invalid [⟨.brokenString, [.field "authorization_uri"]⟩]) ∧
      ¬ ((∃ value, (run ⟨ruins.ask, ⟨defaultBase⟩, .random .forStates, .random .forVerifiers⟩ true
            joining (some "ruin") ⟨Entropy.seeded 1, []⟩).1 = .ok value) ∨
        ∃ refusal, (run ⟨ruins.ask, ⟨defaultBase⟩, .random .forStates, .random .forVerifiers⟩ true
            joining (some "ruin") ⟨Entropy.seeded 1, []⟩).1 = .error (.refused refusal)) := by
  have hbase : joining.baseUrl = .ok "https://app.example/shop" := by decide +kernel
  have hid (resolver : Resolver WideString) :
      resolver.requestedId joining (some "ruin") = some "ruin" := rfl
  have hrun : (run ⟨ruins.ask, ⟨defaultBase⟩, .random .forStates, .random .forVerifiers⟩ true
      joining (some "ruin") ⟨Entropy.seeded 1, []⟩).1 = .error (.invalid _) :=
    (outcome_brokenEndpoint_iff _ _ (hid _) (show find _ "ruin" = .ok (some ruin) from rfl) rfl
      hbase).mpr ⟨Template.isSupported_of_mem_standard, fun uri h => by cases h⟩
  refine ⟨rfl, rfl, addressable_joining, hrun, ?_⟩
  rw [hrun]
  simp

end Resolver

end OAuthRedirect
