import OAuthRedirect.Proofs.Validation
import OAuthRedirect.Resolver

/-!
# The courses of a resolution

`Resolver.Course` lists the ways in which resolving a request can go, from the id that is asked
for to the result and the session it leaves behind: what was looked up, whether the URL of the
request was needed and could be had, which keys were drawn and which events were logged.
`course_iff_run_eq` says that every run takes one of these courses, so that a law of all runs is
a case analysis over nine courses and never unfolds the steps of the resolver again. A resolver of
texts takes only eight of them, since its registrations have texts for their endpoints
(`sentEndpoint_of_redirect`).

The parts of a course are functions of their own: `requestedId` and `requestedAction` for what
is asked, `find` for the look-up, `keyed` for the proof key that is made first. What a request
comes to by them is its registration (`registrationFor`) and its proof key (`madeKey`).
-/

namespace OAuthRedirect

/-- A session with one more event. -/
def Session.logged (session : Session) (e : Log.Event) : Session :=
  { session with log := session.log ++ [e] }

/-! ### Running the steps -/

namespace Resolution

variable {τ α β : Type}

/-- A step after another one starts where that one ended, unless that one failed. -/
theorem run_bind (x : Resolution τ α) (f : α → Resolution τ β) (s : Session) :
    (x >>= f).run.run s =
      match x.run.run s with
      | (.ok a, s') => (f a).run.run s'
      | (.error e, s') => (.error e, s') := by
  simp only [ExceptT.run_bind, StateT.run_bind]
  change (match x.run.run s with | (r, s') => _) = _
  rcases x.run.run s with ⟨_ | _, s'⟩ <;> rfl

theorem run_map (f : α → β) (x : Resolution τ α) (s : Session) :
    (f <$> x).run.run s = ((x.run.run s).1.map f, (x.run.run s).2) := by
  rw [map_eq_pure_bind, run_bind]
  rcases x.run.run s with ⟨_ | _, s'⟩ <;> rfl

theorem run_pure (a : α) (s : Session) : (pure a : Resolution τ α).run.run s = (.ok a, s) := rfl

theorem run_refuse (r : Refusal τ) (errorType : String) (message : Json) (details : Members)
    (s : Session) :
    (refuse r errorType message details : Resolution τ α).run.run s =
      (.error (.refused r),
        s.logged (.failureOf Party.client.name errorType message details)) := rfl

theorem run_ofUrl_ok {x : Except UrlError α} {a : α} (h : x = .ok a) (s : Session) :
    (ofUrl x : Resolution τ α).run.run s = (.ok a, s) := by
  subst h
  rfl

theorem run_ofUrl_error {x : Except UrlError α} {e : UrlError} (h : x = .error e)
    (s : Session) : (ofUrl x : Resolution τ α).run.run s = (.error (.url e), s) := by
  subst h
  rfl

end Resolution

namespace Resolver

section Parts

variable {τ : Type} [Inhabited τ] [LT τ]

/-! ### What is asked for -/

/-- The id that a request is resolved for: the explicit one, or else the one in its path. -/
def requestedId (resolver : Resolver τ) (request : Request) (explicit : Option String) :
    Option String :=
  explicit.or (resolver.matcher.matchRequest request)

/-- The action when the query names none. -/
def defaultAction (explicit : Option String) : String :=
  if explicit.isSome then "authorize" else "login"

/-- The action that a request is resolved with. -/
def requestedAction (request : Request) (explicit : Option String) : String :=
  request.action?.getD (defaultAction explicit)

/-- What is found for an id; nothing is ever found for the empty one. -/
def find (resolver : Resolver τ) (id : String) : Except LookupError (Option (Registration τ)) :=
  if id = "" then .ok none else resolver.registrations id

/-- The proof key of a registration that uses one, and the session after it is made. -/
def keyed (resolver : Resolver τ) (sha256 : Bool) (registration : Registration τ)
    (session : Session) : Option Pkce × Session :=
  if registration.usesPkce then
    let made := Pkce.generate resolver.verifierKeys sha256 session.entropy
    (some made.1, ⟨made.2, session.log ++ [pkceEvent made.1]⟩)
  else (none, session)

/-- The registration that is found for a request. -/
def registrationFor (resolver : Resolver τ) (request : Request) (explicit : Option String) :
    Option (Registration τ) :=
  (resolver.requestedId request explicit).bind fun id =>
    match resolver.find id with
    | .ok found => found
    | .error _ => none

/-- The proof key that is made for a request, whatever becomes of the request then. -/
def madeKey (resolver : Resolver τ) (sha256 : Bool) (request : Request) (explicit : Option String)
    (session : Session) : Option Pkce :=
  (resolver.registrationFor request explicit).bind fun registration =>
    (resolver.keyed sha256 registration session).1

/-- Why an id is unknown, as it is logged. -/
def unknownMessage (id : String) : String :=
  if id = "" then "Registration id cannot be empty" else "No client registration found"

/-- The event of an unknown id. -/
def unknownEvent (id path : String) : Log.Event :=
  .failure Party.client.name "unknown_registration" (unknownMessage id)
    [idEntry id, ("path", .str path)]

/-- The event of a grant without a redirect. -/
def unsupportedEvent (id : String) (grant : Grant) : Log.Event :=
  .failure Party.client.name "invalid_grant_type"
    "Grant type is not supported for authorization requests"
    [idEntry id, ("grant_type", .str grant.name)]

theorem keyed_of_usesPkce {resolver : Resolver τ} {sha256 : Bool} {registration : Registration τ}
    {session : Session} (h : registration.usesPkce = true) :
    resolver.keyed sha256 registration session =
      (some (Pkce.generate resolver.verifierKeys sha256 session.entropy).1,
        ⟨(Pkce.generate resolver.verifierKeys sha256 session.entropy).2,
          session.log ++
            [pkceEvent (Pkce.generate resolver.verifierKeys sha256 session.entropy).1]⟩) := by
  simp [keyed, h]

theorem keyed_of_not_usesPkce {resolver : Resolver τ} {sha256 : Bool}
    {registration : Registration τ} {session : Session} (h : registration.usesPkce = false) :
    resolver.keyed sha256 registration session = (none, session) := by
  simp [keyed, h]

theorem registrationFor_of_requestedId_eq_none {resolver : Resolver τ} {request : Request}
    {explicit : Option String} (hid : resolver.requestedId request explicit = none) :
    resolver.registrationFor request explicit = none := by
  rw [registrationFor, hid, Option.bind_none]

theorem registrationFor_of_find_eq_error {resolver : Resolver τ} {request : Request}
    {explicit : Option String} {id : String} {e : LookupError}
    (hid : resolver.requestedId request explicit = some id)
    (hfind : resolver.find id = .error e) : resolver.registrationFor request explicit = none := by
  rw [registrationFor, hid, Option.bind_some, hfind]

theorem registrationFor_of_find {resolver : Resolver τ} {request : Request}
    {explicit : Option String} {id : String} {found : Option (Registration τ)}
    (hid : resolver.requestedId request explicit = some id)
    (hfind : resolver.find id = .ok found) : resolver.registrationFor request explicit = found := by
  rw [registrationFor, hid, Option.bind_some, hfind]

theorem madeKey_of_find {resolver : Resolver τ} {sha256 : Bool} {request : Request}
    {explicit : Option String} {session : Session} {id : String} {registration : Registration τ}
    (hid : resolver.requestedId request explicit = some id)
    (hfind : resolver.find id = .ok (some registration)) :
    resolver.madeKey sha256 request explicit session =
      (resolver.keyed sha256 registration session).1 := by
  rw [madeKey, registrationFor_of_find hid hfind, Option.bind_some]

end Parts

section Strings

variable {τ : Type} [Inhabited τ] [LT τ] [Strings τ]

/-- The event of a template that names a value nobody has. -/
def badTemplateEvent (id : String) (e : Template.UnknownVariable τ) : Log.Event :=
  .failureOf Party.client.name "template_expansion" (Strings.toJson (Strings.unknownVariable e))
    [idEntry id]

/-- The redirect URI that a registration's template stands for. -/
def callback (registration : Registration τ) (baseUrl action : String) :
    Except (Template.UnknownVariable τ) τ :=
  Strings.expand registration.callbackTemplate
    (templateVariables baseUrl action registration.id)

/-! ### Courses -/

/-- **The courses of a resolution**, with the result and the session that each ends in. -/
inductive Course (resolver : Resolver τ) (sha256 : Bool) (request : Request)
    (explicit : Option String) (session : Session) :
    Except (Failure τ) (Option (AuthorizationRequest τ)) → Session → Prop
  /-- No id is given and none is in the path. -/
  | passedBy (hid : resolver.requestedId request explicit = none) :
    Course resolver sha256 request explicit session (.ok none) session
  /-- The registrations cannot be asked. -/
  | lookup {id : String} {e : LookupError}
    (hid : resolver.requestedId request explicit = some id)
    (hfind : resolver.find id = .error e) :
    Course resolver sha256 request explicit session (.error (.lookup e)) session
  /-- No registration has the id, and there is no URL to log. -/
  | unknownNoUrl {id : String} {e : UrlError}
    (hid : resolver.requestedId request explicit = some id)
    (hfind : resolver.find id = .ok none) (hurl : request.url = .error e) :
    Course resolver sha256 request explicit session (.error (.url e)) session
  /-- No registration has the id. -/
  | unknown {id : String} {url : Uri}
    (hid : resolver.requestedId request explicit = some id)
    (hfind : resolver.find id = .ok none) (hurl : request.url = .ok url) :
    Course resolver sha256 request explicit session
      (.error (.refused (.unknownRegistration id))) (session.logged (unknownEvent id url.path))
  /-- The grant of the registration has no redirect. -/
  | unsupported {id : String} {registration : Registration τ}
    (hid : resolver.requestedId request explicit = some id)
    (hfind : resolver.find id = .ok (some registration))
    (hgrant : registration.grant.redirect? = none) :
    Course resolver sha256 request explicit session
      (.error (.refused (.unsupportedGrant registration.id registration.grant)))
      (session.logged (unsupportedEvent id registration.grant))
  /-- There is no base URL. -/
  | noBaseUrl {id : String} {registration : Registration τ} {grant : RedirectGrant}
    {e : UrlError} (hid : resolver.requestedId request explicit = some id)
    (hfind : resolver.find id = .ok (some registration))
    (hgrant : registration.grant.redirect? = some grant) (hbase : request.baseUrl = .error e) :
    Course resolver sha256 request explicit session (.error (.url e))
      (resolver.keyed sha256 registration session).2
  /-- The template of the registration names a value nobody has. -/
  | badTemplate {id baseUrl : String} {registration : Registration τ} {grant : RedirectGrant}
    {e : Template.UnknownVariable τ} (hid : resolver.requestedId request explicit = some id)
    (hfind : resolver.find id = .ok (some registration))
    (hgrant : registration.grant.redirect? = some grant)
    (hbase : request.baseUrl = .ok baseUrl)
    (hcallback : callback registration baseUrl (requestedAction request explicit) = .error e) :
    Course resolver sha256 request explicit session
      (.error (.refused (.badTemplate e registration.id)))
      ((resolver.keyed sha256 registration session).2.logged
        (badTemplateEvent registration.id e))
  /-- The endpoint of the registration is no text. -/
  | invalid {id baseUrl : String} {uri : τ} {registration : Registration τ}
    {grant : RedirectGrant} {faults : List Fault}
    (hid : resolver.requestedId request explicit = some id)
    (hfind : resolver.find id = .ok (some registration))
    (hgrant : registration.grant.redirect? = some grant)
    (hbase : request.baseUrl = .ok baseUrl)
    (hcallback : callback registration baseUrl (requestedAction request explicit) = .ok uri)
    (hendpoint : sentEndpoint registration = .invalid faults) :
    Course resolver sha256 request explicit session (.error (.invalid faults))
      ⟨(resolver.stateKeys.next (resolver.keyed sha256 registration session).2.entropy).2,
        (resolver.keyed sha256 registration session).2.log⟩
  /-- The request is resolved. -/
  | resolved {id baseUrl : String} {uri : τ} {registration : Registration τ}
    {grant : RedirectGrant} {endpoint : { s : String // s ≠ "" }}
    {result : AuthorizationRequest τ} (hid : resolver.requestedId request explicit = some id)
    (hfind : resolver.find id = .ok (some registration))
    (hgrant : registration.grant.redirect? = some grant)
    (hbase : request.baseUrl = .ok baseUrl)
    (hcallback : callback registration baseUrl (requestedAction request explicit) = .ok uri)
    (hendpoint : sentEndpoint registration = .valid endpoint)
    (hresult : result = build registration grant endpoint
      (resolver.keyed sha256 registration session).1 uri
      (resolver.stateKeys.next (resolver.keyed sha256 registration session).2.entropy).1) :
    Course resolver sha256 request explicit session (.ok (some result))
      ⟨(resolver.stateKeys.next (resolver.keyed sha256 registration session).2.entropy).2,
        (resolver.keyed sha256 registration session).2.log
          ++ [redirectEvent registration.id result]⟩

section Steps

variable (resolver : Resolver τ) (sha256 : Bool) (request : Request) (session : Session)

omit [Strings τ] in
/-- The grant and the authentication of a registration decide about its proof key as
`Registration.usesPkce` does. -/
theorem run_proofKey {registration : Registration τ} {grant : RedirectGrant}
    (hgrant : registration.grant.redirect? = some grant) :
    (resolver.proofKey sha256 registration grant).run.run session =
      (.ok (resolver.keyed sha256 registration session).1,
        (resolver.keyed sha256 registration session).2) := by
  have hcode := Grant.toGrant_of_redirect? hgrant
  cases grant with
  | implicit =>
    -- no key is made for this grant, and `usesPkce` asks for the other one
    have hnot : registration.usesPkce = false := by
      rw [Registration.usesPkce, ← hcode]
      rfl
    rw [keyed_of_not_usesPkce hnot]
    rfl
  | authorizationCode =>
    have huses : registration.usesPkce = registration.isPublic := by
      rw [Registration.usesPkce, ← hcode]
      rfl
    rw [proofKey]
    cases hpublic : registration.isPublic with
    | true =>
      rw [keyed_of_usesPkce (huses.trans hpublic)]
      rfl
    | false =>
      rw [keyed_of_not_usesPkce (huses.trans hpublic)]
      rfl

theorem run_redirectUri_ok {registration : Registration τ} {action baseUrl : String} {uri : τ}
    (hbase : request.baseUrl = .ok baseUrl)
    (hcallback : callback registration baseUrl action = .ok uri) :
    (redirectUri request registration action).run.run session = (.ok uri, session) := by
  rw [callback] at hcallback
  rw [redirectUri, Resolution.run_bind, Resolution.run_ofUrl_ok hbase]
  simp only [hcallback, Resolution.run_pure]

theorem run_redirectUri_badTemplate {registration : Registration τ} {action baseUrl : String}
    {e : Template.UnknownVariable τ} (hbase : request.baseUrl = .ok baseUrl)
    (hcallback : callback registration baseUrl action = .error e) :
    (redirectUri request registration action).run.run session =
      (.error (.refused (.badTemplate e registration.id)),
        session.logged (badTemplateEvent registration.id e)) := by
  rw [callback] at hcallback
  rw [redirectUri, Resolution.run_bind, Resolution.run_ofUrl_ok hbase]
  simp only [hcallback, Resolution.run_refuse, badTemplateEvent]

theorem run_redirectUri_noBaseUrl {registration : Registration τ} {action : String} {e : UrlError}
    (hbase : request.baseUrl = .error e) :
    (redirectUri request registration action).run.run session = (.error (.url e), session) := by
  rw [redirectUri, Resolution.run_bind, Resolution.run_ofUrl_error hbase]

omit [Inhabited τ] [LT τ] [Strings τ] in
theorem run_refuseUnknown_ok {α : Type} {id message : String} {url : Uri}
    (hurl : request.url = .ok url) :
    (refuseUnknown request id message : Resolution τ α).run.run session =
      (.error (.refused (.unknownRegistration id)),
        session.logged (.failure Party.client.name "unknown_registration" message
          [idEntry id, ("path", .str url.path)])) := by
  rw [refuseUnknown, Resolution.run_bind, Resolution.run_ofUrl_ok hurl]
  rfl

omit [Inhabited τ] [LT τ] [Strings τ] in
theorem run_refuseUnknown_error {α : Type} {id message : String} {e : UrlError}
    (hurl : request.url = .error e) :
    (refuseUnknown request id message : Resolution τ α).run.run session =
      (.error (.url e), session) := by
  rw [refuseUnknown, Resolution.run_bind, Resolution.run_ofUrl_error hurl]

omit [Inhabited τ] [LT τ] [Strings τ] in
/-- A refusal is the same whatever would have been done with an answer. -/
theorem run_map_refuseUnknown {α β : Type} (f : α → β) (id message : String) :
    (f <$> (refuseUnknown request id message : Resolution τ α)).run.run session =
      (refuseUnknown request id message).run.run session := by
  rw [Resolution.run_map]
  cases hurl : request.url with
  | error e =>
    rw [run_refuseUnknown_error request session hurl, run_refuseUnknown_error request session hurl]
    rfl
  | ok url =>
    rw [run_refuseUnknown_ok request session hurl, run_refuseUnknown_ok request session hurl]
    rfl

theorem run_resolveFor_unsupported {id action : String} {registration : Registration τ}
    (hgrant : registration.grant.redirect? = none) :
    (resolver.resolveFor sha256 request id action registration).run.run session =
      (.error (.refused (.unsupportedGrant registration.id registration.grant)),
        session.logged (unsupportedEvent id registration.grant)) := by
  unfold resolveFor
  split
  · rfl
  · rename_i grant h
    rw [hgrant] at h
    contradiction

/-- A grant with a redirect: the proof key first, then the redirect URI, then the state. -/
theorem run_resolveFor_redirect {id action : String} {registration : Registration τ}
    {grant : RedirectGrant} (hgrant : registration.grant.redirect? = some grant) :
    (resolver.resolveFor sha256 request id action registration).run.run session =
      (do
        let pkce ← resolver.proofKey sha256 registration grant
        let uri ← redirectUri request registration action
        let state ← Resolution.draw resolver.stateKeys.next
        let endpoint ← Resolution.ofChecked (sentEndpoint registration)
        let result := build registration grant endpoint pkce uri state
        Resolution.note (redirectEvent registration.id result)
        pure result : Resolution τ (AuthorizationRequest τ)).run.run session := by
  unfold resolveFor
  split
  · rename_i h
    rw [hgrant] at h
    contradiction
  · rename_i grant' h
    obtain rfl : grant' = grant := Option.some_inj.1 (h.symm.trans hgrant)
    rfl

end Steps

/-- A request that no id is asked for is passed by. -/
theorem run_of_requestedId_none {resolver : Resolver τ} {sha256 : Bool} {request : Request}
    {explicit : Option String} {session : Session}
    (hid : resolver.requestedId request explicit = none) :
    resolver.run sha256 request explicit session = (.ok none, session) := by
  obtain ⟨rfl, hmatch⟩ : explicit = none ∧ resolver.matcher.matchRequest request = none := by
    simpa [requestedId] using hid
  rw [run, resolve, hmatch]
  rfl

/-- A request that an id is asked for goes on with what is found for the id. -/
theorem run_of_requestedId_some {resolver : Resolver τ} {sha256 : Bool} {request : Request}
    {explicit : Option String} {session : Session} {id : String}
    (hid : resolver.requestedId request explicit = some id) :
    resolver.run sha256 request explicit session =
      (some <$> (do
        match ← Resolution.ofLookup (resolver.find id) with
        | none => refuseUnknown request id (unknownMessage id)
        | some registration =>
          resolver.resolveFor sha256 request id (requestedAction request explicit) registration :
        Resolution τ (AuthorizationRequest τ))).run.run session := by
  cases explicit with
  | some given =>
    obtain rfl : given = id := by simpa [requestedId] using hid
    rw [run, resolve]
    by_cases hempty : given = ""
    · simp only [hempty, if_true, find, unknownMessage]
      exact (run_map_refuseUnknown request session some _ _).symm
    · simp only [hempty, if_false, find, unknownMessage]
      rfl
  | none =>
    have hmatch : resolver.matcher.matchRequest request = some id := by
      simpa [requestedId] using hid
    have hne : id ≠ "" := (PathMatcher.matchPath_eq_some_iff.1 hmatch).1
    rw [run, resolve, hmatch]
    simp only [hne, if_false, find, unknownMessage]
    rfl

section Found

variable {resolver : Resolver τ} {sha256 : Bool} {request : Request} {explicit : Option String}
  {session : Session} {id : String}

theorem run_of_find_error {e : LookupError}
    (hid : resolver.requestedId request explicit = some id)
    (hfind : resolver.find id = .error e) :
    resolver.run sha256 request explicit session = (.error (.lookup e), session) := by
  rw [run_of_requestedId_some hid, hfind]
  rfl

theorem run_of_find_none (hid : resolver.requestedId request explicit = some id)
    (hfind : resolver.find id = .ok none) :
    resolver.run sha256 request explicit session =
      (refuseUnknown request id (unknownMessage id)).run.run session := by
  rw [run_of_requestedId_some hid, hfind]
  exact run_map_refuseUnknown request session some id (unknownMessage id)

theorem run_of_find_some {registration : Registration τ}
    (hid : resolver.requestedId request explicit = some id)
    (hfind : resolver.find id = .ok (some registration)) :
    resolver.run sha256 request explicit session =
      (some <$> resolver.resolveFor sha256 request id (requestedAction request explicit)
        registration).run.run session := by
  rw [run_of_requestedId_some hid, hfind]
  rfl

/-- A registration whose grant has a redirect: once the proof key is made, the redirect URI and
the state are left to do, and the endpoint to check. -/
theorem run_of_redirect {registration : Registration τ} {grant : RedirectGrant}
    (hid : resolver.requestedId request explicit = some id)
    (hfind : resolver.find id = .ok (some registration))
    (hgrant : registration.grant.redirect? = some grant) :
    resolver.run sha256 request explicit session =
      (some <$> (do
        let uri ← redirectUri request registration (requestedAction request explicit)
        let state ← Resolution.draw resolver.stateKeys.next
        let endpoint ← Resolution.ofChecked (sentEndpoint registration)
        let result := build registration grant endpoint
          (resolver.keyed sha256 registration session).1 uri state
        Resolution.note (redirectEvent registration.id result)
        pure result : Resolution τ (AuthorizationRequest τ))).run.run
          (resolver.keyed sha256 registration session).2 := by
  rw [run_of_find_some hid hfind, Resolution.run_map, Resolution.run_map,
    run_resolveFor_redirect resolver sha256 request session hgrant, Resolution.run_bind,
    run_proofKey resolver sha256 session hgrant]

end Found

section Runs

variable {resolver : Resolver τ} {sha256 : Bool} {request : Request} {explicit : Option String}
  {session session' : Session} {result : Except (Failure τ) (Option (AuthorizationRequest τ))}

/-- A course is what happens. -/
theorem Course.run_eq (h : resolver.Course sha256 request explicit session result session') :
    resolver.run sha256 request explicit session = (result, session') := by
  cases h with
  | passedBy hid => exact run_of_requestedId_none hid
  | lookup hid hfind => exact run_of_find_error hid hfind
  | unknownNoUrl hid hfind hurl =>
    rw [run_of_find_none hid hfind, run_refuseUnknown_error request session hurl]
  | unknown hid hfind hurl =>
    rw [run_of_find_none hid hfind, run_refuseUnknown_ok request session hurl]
    rfl
  | unsupported hid hfind hgrant =>
    rw [run_of_find_some hid hfind, Resolution.run_map,
      run_resolveFor_unsupported resolver sha256 request session hgrant]
    rfl
  | noBaseUrl hid hfind hgrant hbase =>
    rw [run_of_redirect hid hfind hgrant, Resolution.run_map, Resolution.run_bind,
      run_redirectUri_noBaseUrl request _ hbase]
    rfl
  | badTemplate hid hfind hgrant hbase hcallback =>
    rw [run_of_redirect hid hfind hgrant, Resolution.run_map, Resolution.run_bind,
      run_redirectUri_badTemplate request _ hbase hcallback]
    rfl
  | invalid hid hfind hgrant hbase hcallback hendpoint =>
    rw [run_of_redirect hid hfind hgrant, Resolution.run_map, Resolution.run_bind,
      run_redirectUri_ok request _ hbase hcallback, hendpoint]
    rfl
  | resolved hid hfind hgrant hbase hcallback hendpoint hresult =>
    rw [run_of_redirect hid hfind hgrant, Resolution.run_map, Resolution.run_bind,
      run_redirectUri_ok request _ hbase hcallback, hendpoint, hresult]
    rfl

variable (resolver sha256 request explicit session) in
/-- There is a course for every request. -/
theorem exists_course :
    ∃ result session', resolver.Course sha256 request explicit session result session' := by
  cases hid : resolver.requestedId request explicit with
  | none => exact ⟨_, _, .passedBy hid⟩
  | some id =>
    match hfind : resolver.find id with
    | .error e => exact ⟨_, _, .lookup hid hfind⟩
    | .ok none =>
      cases hurl : request.url with
      | error e => exact ⟨_, _, .unknownNoUrl hid hfind hurl⟩
      | ok url => exact ⟨_, _, .unknown hid hfind hurl⟩
    | .ok (some registration) =>
      cases hgrant : registration.grant.redirect? with
      | none => exact ⟨_, _, .unsupported hid hfind hgrant⟩
      | some grant =>
        cases hbase : request.baseUrl with
        | error e => exact ⟨_, _, .noBaseUrl hid hfind hgrant hbase⟩
        | ok baseUrl =>
          cases hcallback : callback registration baseUrl (requestedAction request explicit) with
          | error e => exact ⟨_, _, .badTemplate hid hfind hgrant hbase hcallback⟩
          | ok uri =>
            cases hendpoint : sentEndpoint registration with
            | invalid faults =>
              exact ⟨_, _, .invalid hid hfind hgrant hbase hcallback hendpoint⟩
            | valid endpoint =>
              exact ⟨_, _, .resolved hid hfind hgrant hbase hcallback hendpoint rfl⟩

/-- **Every run takes a course, and no other course but its own.** -/
theorem course_iff_run_eq :
    resolver.Course sha256 request explicit session result session' ↔
      resolver.run sha256 request explicit session = (result, session') := by
  constructor
  · exact Course.run_eq
  · intro hrun
    -- there is a course, and it is the one of this run since every course is what happens
    obtain ⟨_, _, hcourse⟩ := exists_course resolver sha256 request explicit session
    obtain ⟨rfl, rfl⟩ := Prod.mk.inj (hcourse.run_eq.symm.trans hrun)
    exact hcourse

end Runs

end Strings

/-! ### Registrations of texts -/

theorem authorizationEndpoint_ne_empty {registration : Registration} {grant : RedirectGrant}
    (hgrant : registration.grant.redirect? = some grant) :
    registration.authorizationEndpoint ≠ "" :=
  (registration.endpoints grant hgrant).1

/-- **The endpoint of a registration of texts** is sent as it is. -/
theorem sentEndpoint_of_redirect {registration : Registration} {grant : RedirectGrant}
    (hgrant : registration.grant.redirect? = some grant) :
    sentEndpoint registration =
      .valid ⟨registration.authorizationEndpoint, authorizationEndpoint_ne_empty hgrant⟩ := by
  rw [sentEndpoint, Strings.toJson_string, AuthorizationRequest.checkEndpoint,
    Check.nonEmptyText_str (authorizationEndpoint_ne_empty hgrant)]
  rfl

/-- No course of a resolver of texts ends with an endpoint that is no text. -/
theorem sentEndpoint_ne_invalid {registration : Registration} {grant : RedirectGrant}
    (hgrant : registration.grant.redirect? = some grant) (faults : List Fault) :
    sentEndpoint registration ≠ .invalid faults := by
  rw [sentEndpoint_of_redirect hgrant]
  simp

end Resolver

end OAuthRedirect
