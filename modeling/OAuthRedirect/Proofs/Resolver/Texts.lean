import OAuthRedirect.Proofs.RedirectTemplate
import OAuthRedirect.Proofs.Resolver.Course

/-!
# Resolvers of texts among the resolvers

Resolving reads neither the secret of a registration nor its name. A registration of wide strings
**reads as** one of texts when everything else in it is the same text (`Registration.ReadsAs`). A
resolver whose registrations read as those of a resolver of texts takes the same course for every
request: it comes to the same outcome, logs the same events and uses up the same random bytes
(`Resolver.run_of_readsAs`). What is proved of resolvers of texts therefore holds for every resolver
whose registrations have texts where resolving looks.
-/

namespace OAuthRedirect

/-! ### Outcomes -/

/-- An outcome of a resolver of texts as one of a resolver of wide strings. -/
def Template.UnknownVariable.widen (e : UnknownVariable) : UnknownVariable WideString :=
  ⟨↑e.template, ↑e.variableName⟩

/-- A refusal as one of wide strings. -/
def Refusal.widen : Refusal → Refusal WideString
  | unknownRegistration id => .unknownRegistration id
  | unsupportedGrant id grant => .unsupportedGrant id grant
  | badTemplate e id => .badTemplate e.widen id

/-- A failure as one of wide strings. -/
def Failure.widen : Failure → Failure WideString
  | refused r => .refused r.widen
  | url e => .url e
  | lookup e => .lookup e
  | invalid faults => .invalid faults

/-- An outcome as one of wide strings. -/
def widenOutcome :
    Except Failure (Option AuthorizationRequest) →
      Except (Failure WideString) (Option (AuthorizationRequest WideString))
  | .ok result => .ok (result.map (·.widen))
  | .error e => .error e.widen

theorem Template.UnknownVariable.wideMessage_widen (e : UnknownVariable) :
    e.widen.wideMessage = ↑e.message := by
  unfold wideMessage widen message
  rw [WideString.text_append, WideString.text_append, WideString.text_append,
    WideString.text_append]

/-! ### Registrations -/

/-- A registration of wide strings that resolving cannot tell from one of texts. -/
structure Registration.ReadsAs (wide : Registration WideString) (r : Registration) : Prop where
  id : wide.id = r.id
  clientId : wide.clientId = r.clientId
  authentication : wide.authentication = r.authentication
  grant : wide.grant = r.grant
  authorizationUri : wide.authorizationUri = r.authorizationUri.map .text
  redirectTemplate : wide.redirectTemplate = r.redirectTemplate.map .text
  scopes : wide.scopes = r.scopes.widen

theorem Registration.readsAs_widen (r : Registration) : r.widen.ReadsAs r :=
  ⟨rfl, rfl, rfl, rfl, rfl, rfl, rfl⟩

namespace Resolver

/-- Look-ups with registrations that read the same, or with the same answer otherwise. -/
inductive FoundAs : Except LookupError (Option (Registration WideString)) →
    Except LookupError (Option Registration) → Prop
  | error (e : LookupError) : FoundAs (.error e) (.error e)
  | none : FoundAs (.ok none) (.ok none)
  | some {wide : Registration WideString} {r : Registration} (h : wide.ReadsAs r) :
    FoundAs (.ok (some wide)) (.ok (some r))

/-- A resolver whose registrations read as those of a resolver of texts. -/
structure ReadsAs (wide : Resolver WideString) (resolver : Resolver) : Prop where
  registrations : ∀ id, FoundAs (wide.registrations id) (resolver.registrations id)
  matcher : wide.matcher = resolver.matcher
  stateKeys : wide.stateKeys = resolver.stateKeys
  verifierKeys : wide.verifierKeys = resolver.verifierKeys

section Parts

variable {wide : Registration WideString} {r : Registration} (h : wide.ReadsAs r)

include h

theorem callback_of_readsAs (baseUrl action : String) :
    callback wide baseUrl action =
      ((callback r baseUrl action).map WideString.text).mapError (·.widen) := by
  have htemplate : wide.callbackTemplate = ↑r.callbackTemplate := by
    rw [Registration.callbackTemplate, h.redirectTemplate, WideString.getD_map_text]
    rfl
  rw [callback, htemplate, h.id]
  exact Template.expandWide_text r.callbackTemplate

theorem callback_eq_ok_of_readsAs {baseUrl action uri : String}
    (hcallback : callback r baseUrl action = .ok uri) :
    callback wide baseUrl action = .ok ↑uri := by
  rw [callback_of_readsAs h, hcallback]
  rfl

theorem callback_eq_error_of_readsAs {baseUrl action : String} {e : Template.UnknownVariable}
    (hcallback : callback r baseUrl action = .error e) :
    callback wide baseUrl action = .error e.widen := by
  rw [callback_of_readsAs h, hcallback]
  rfl

theorem sentEndpoint_of_readsAs : sentEndpoint wide = sentEndpoint r := by
  have hendpoint : wide.authorizationEndpoint = ↑r.authorizationEndpoint := by
    rw [Registration.authorizationEndpoint, h.authorizationUri, WideString.getD_map_text]
    rfl
  rw [sentEndpoint, sentEndpoint, hendpoint]
  rfl

theorem build_of_readsAs (grant : RedirectGrant) (endpoint : { s : String // s ≠ "" })
    (pkce : Option Pkce) (uri state : String) :
    build wide grant endpoint pkce (↑uri : WideString) state =
      (build r grant endpoint pkce uri state).widen := by
  simp only [build, AuthorizationRequest.widen, h.id, h.clientId, h.scopes]
  rfl

theorem badTemplateEvent_of_readsAs (e : Template.UnknownVariable) :
    badTemplateEvent wide.id e.widen = badTemplateEvent r.id e := by
  have hmessage : Strings.toJson (Strings.unknownVariable e.widen) = .str e.message :=
    congrArg WideString.toJson e.wideMessage_widen
  rw [badTemplateEvent, hmessage, h.id]
  rfl

theorem keyed_of_readsAs {wideResolver : Resolver WideString} {resolver : Resolver}
    (hresolver : wideResolver.ReadsAs resolver) (sha256 : Bool) (session : Session) :
    wideResolver.keyed sha256 wide session = resolver.keyed sha256 r session := by
  have huses : wide.usesPkce = r.usesPkce := by
    rw [Registration.usesPkce, Registration.isPublic, h.grant, h.authentication]
    rfl
  rw [keyed, keyed, huses, hresolver.verifierKeys]

end Parts

theorem orNull_map_text (value : Option String) :
    Strings.orNull (value.map WideString.text) = Strings.orNull value := by
  cases value <;> rfl

/-- The event of a redirect shows texts. -/
theorem redirectEvent_widen (id : String) (result : AuthorizationRequest) :
    redirectEvent id result.widen = redirectEvent id result := by
  have hscopes : Strings.spaced result.widen.scopes.names =
      (↑(Strings.spaced result.scopes.names : String) : WideString) :=
    WideString.join_text " " result.scopes.names
  have hredirectUri : Strings.orNull result.widen.redirectUri = Strings.orNull result.redirectUri :=
    orNull_map_text result.redirectUri
  have hstate : Strings.orNull result.widen.state = Strings.orNull result.state :=
    orNull_map_text result.state
  rw [redirectEvent, hscopes, hredirectUri, hstate]
  rfl

/-- A repository of texts is asked as one of wide strings. -/
theorem foundAs_ask (repository : Repository) (id : String) :
    FoundAs (Repository.ask (↑repository) id) (repository.ask id) := by
  have hfind (id : String) : (Repository.widen repository).find? id =
      (repository.find? id).map Registration.widen := by
    rw [Repository.find?, Repository.find?, Repository.widen, List.find?_map]
    rfl
  unfold Repository.ask Repository.lookup
  split
  · exact .error _
  · exact .error _
  · rw [hfind]
    cases repository.find? _ with
    | none => exact .none
    | some r => exact .some r.readsAs_widen

theorem readsAs_of_repository (repository : Repository) (matcher : PathMatcher)
    (stateKeys verifierKeys : KeySource) :
    ReadsAs ⟨Repository.ask ↑repository, matcher, stateKeys, verifierKeys⟩
      ⟨repository.ask, matcher, stateKeys, verifierKeys⟩ where
  registrations := foundAs_ask repository
  matcher := rfl
  stateKeys := rfl
  verifierKeys := rfl

/-! ### Runs -/

variable {wide : Resolver WideString} {resolver : Resolver} (h : wide.ReadsAs resolver)

include h

theorem find_of_readsAs (id : String) : FoundAs (wide.find id) (resolver.find id) := by
  unfold find
  split
  · exact .none
  · exact h.registrations id

theorem find_eq_error_of_readsAs {id : String} {e : LookupError}
    (hfind : resolver.find id = .error e) : wide.find id = .error e := by
  have hfound := find_of_readsAs h id
  rw [hfind] at hfound
  generalize wide.find id = found at hfound ⊢
  cases hfound
  rfl

theorem find_eq_none_of_readsAs {id : String} (hfind : resolver.find id = .ok none) :
    wide.find id = .ok none := by
  have hfound := find_of_readsAs h id
  rw [hfind] at hfound
  generalize wide.find id = found at hfound ⊢
  cases hfound
  rfl

theorem exists_find_of_readsAs {id : String} {r : Registration}
    (hfind : resolver.find id = .ok (some r)) :
    ∃ registration : Registration WideString,
      wide.find id = .ok (some registration) ∧ registration.ReadsAs r := by
  have hfound := find_of_readsAs h id
  rw [hfind] at hfound
  generalize wide.find id = found at hfound ⊢
  cases hfound with
  | some hreads => exact ⟨_, rfl, hreads⟩

theorem requestedId_of_readsAs (request : Request) (explicit : Option String) :
    wide.requestedId request explicit = resolver.requestedId request explicit := by
  rw [requestedId, requestedId, h.matcher]

/-- **Resolving reads no more than the texts.** -/
theorem run_of_readsAs (sha256 : Bool) (request : Request) (explicit : Option String)
    (session : Session) :
    wide.run sha256 request explicit session =
      (widenOutcome (resolver.run sha256 request explicit session).1,
        (resolver.run sha256 request explicit session).2) := by
  have hrequested := requestedId_of_readsAs h request explicit
  obtain ⟨_, _, hcourse⟩ := exists_course resolver sha256 request explicit session
  rw [hcourse.run_eq]
  -- each course is open to the other resolver, with the registration that it finds
  cases hcourse with
  | passedBy hid => exact (Course.passedBy (hrequested.trans hid)).run_eq
  | lookup hid hfind =>
    exact (Course.lookup (hrequested.trans hid) (find_eq_error_of_readsAs h hfind)).run_eq
  | unknownNoUrl hid hfind hurl =>
    exact (Course.unknownNoUrl (hrequested.trans hid) (find_eq_none_of_readsAs h hfind) hurl).run_eq
  | unknown hid hfind hurl =>
    exact (Course.unknown (hrequested.trans hid) (find_eq_none_of_readsAs h hfind) hurl).run_eq
  | unsupported hid hfind hgrant =>
    obtain ⟨registration, hfind', hreads⟩ := exists_find_of_readsAs h hfind
    rw [(Course.unsupported (hrequested.trans hid) hfind' (hreads.grant ▸ hgrant)).run_eq,
      hreads.id, hreads.grant]
    rfl
  | noBaseUrl hid hfind hgrant hbase =>
    obtain ⟨registration, hfind', hreads⟩ := exists_find_of_readsAs h hfind
    rw [(Course.noBaseUrl (hrequested.trans hid) hfind' (hreads.grant ▸ hgrant) hbase).run_eq,
      keyed_of_readsAs hreads h]
    rfl
  | badTemplate hid hfind hgrant hbase hcallback =>
    obtain ⟨registration, hfind', hreads⟩ := exists_find_of_readsAs h hfind
    rw [(Course.badTemplate (hrequested.trans hid) hfind' (hreads.grant ▸ hgrant) hbase
        (callback_eq_error_of_readsAs hreads hcallback)).run_eq,
      keyed_of_readsAs hreads h, badTemplateEvent_of_readsAs hreads, hreads.id]
    rfl
  | invalid hid hfind hgrant hbase hcallback hendpoint =>
    exact absurd hendpoint (sentEndpoint_ne_invalid hgrant _)
  | resolved hid hfind hgrant hbase hcallback hendpoint hresult =>
    obtain ⟨registration, hfind', hreads⟩ := exists_find_of_readsAs h hfind
    rw [(Course.resolved (hrequested.trans hid) hfind' (hreads.grant ▸ hgrant) hbase
        (callback_eq_ok_of_readsAs hreads hcallback)
        ((sentEndpoint_of_readsAs hreads).trans hendpoint) rfl).run_eq,
      keyed_of_readsAs hreads h, h.stateKeys, build_of_readsAs hreads, ← hresult,
      redirectEvent_widen, hreads.id]
    rfl

end Resolver

end OAuthRedirect
