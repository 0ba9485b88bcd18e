import OAuthRedirect.Proofs.Log.Records
import OAuthRedirect.Proofs.Resolver.LogLines
import OAuthRedirect.Proofs.Resolver.Outcome

/-!
# Which records resolving leaves

Every outcome of a request leaves its own records, in an order of their own
(`Resolver.headings`): none when the request is passed by; the one of the redirect at the end when
it is resolved; the one of the refusal at the end when it is refused. The record of a proof key is
in front of these when a proof key was made, be it for a redirect or for a template that could not
be filled in (`Resolver.records_of_run`).

The record of a refusal shows the id that the refusal is about, with one exception: when the
registration that was found has another id than was asked for, and its grant has no redirect, the
record shows what was asked for (`Resolver.alias_of_unsupported`). A repository never finds a
registration of another id.
-/

namespace OAuthRedirect

namespace Resolver

open Log (Heading)

/-! ### Headings -/

/-- The heading of a redirect. -/
def redirectHeading : Heading :=
  ⟨.info, "CLIENT", "USER-AGENT", "REDIRECT"⟩

/-- The heading of a refusal. -/
def refusalHeading : Heading :=
  ⟨.error, "CLIENT", "ERROR-HANDLER", "ERROR"⟩

/-- The heading of a proof key, made with the hash or without it. -/
def keyHeading (sha256 : Bool) : Heading :=
  if sha256 then ⟨.info, "CLIENT", "CLIENT", "PKCE-GENERATION"⟩
  else ⟨.error, "CLIENT", "CLIENT", "PKCE-FALLBACK"⟩

section Headings

variable {τ : Type} [Inhabited τ] [LT τ]

/-- The headings of what is logged before the redirect URI is known: that of the proof key of a
registration that uses one. -/
def keyHeadings (sha256 : Bool) (found : Option (Registration τ)) : List Heading :=
  if found.any (·.usesPkce) then [keyHeading sha256] else []

/-- **The headings of the records of a request**, by its outcome and the registration found. -/
def headings (sha256 : Bool) (found : Option (Registration τ)) :
    Except (Failure τ) (Option (AuthorizationRequest τ)) → List Heading
  | .ok none => []
  | .ok (some _) => keyHeadings sha256 found ++ [redirectHeading]
  | .error (.refused (.badTemplate _ _)) => keyHeadings sha256 found ++ [refusalHeading]
  | .error (.refused _) => [refusalHeading]
  | .error (.url _) | .error (.invalid _) => keyHeadings sha256 found
  | .error (.lookup _) => []

theorem heading_pkceEvent {p : Pkce} {sha256 : Bool}
    (h : p.method = if sha256 then some .s256 else none) :
    (pkceEvent p).heading = keyHeading sha256 := by
  rw [pkceEvent, h]
  cases sha256 <;> rfl

/-- A resolver whose code verifiers come from a generator. -/
def withVerifiers (resolver : Resolver τ) (verifiers : KeyGenerator) : Resolver τ :=
  { resolver with verifierKeys := .random verifiers }

/-- What is logged of a proof key. -/
theorem exists_heading_keyed (resolver : Resolver τ) (verifiers : KeyGenerator) (sha256 : Bool)
    (session : Session) (registration : Registration τ) :
    ∃ events, ((resolver.withVerifiers verifiers).keyed sha256 registration session).2.log =
        session.log ++ events ∧
      events.map (·.heading) = keyHeadings sha256 (some registration) := by
  rw [keyHeadings, Option.any_some]
  cases huses : registration.usesPkce with
  | false =>
    rw [keyed_of_not_usesPkce huses]
    exact ⟨[], by simp⟩
  | true =>
    rw [keyed_of_usesPkce huses]
    have hmethod := (Pkce.le_length_generate verifiers sha256 session.entropy).2.2
    exact ⟨_, rfl, congrArg (List.singleton ·) (heading_pkceEvent hmethod)⟩

end Headings

/-! ### Ids of refusals -/

/-- The record of a failure shows the id among its details. -/
theorem shown_failureOf (errorType : String) (message : Json) (id : String) {rest : Members}
    (hnames : ((idEntry id :: rest).map Prod.fst).Sublist detailNames) :
    (Log.Event.failureOf Party.client.name errorType message (idEntry id :: rest)).shown
      "registration_id" = some (.str id) := by
  have hplain : Log.IsPlainName "registration_id" := isPlainName_of_mem _ (by decide)
  rw [Log.Event.shown, data_failureOf errorType message hnames]
  simp [Log.sanitize, idEntry, hplain.sanitizeValue_eq, List.lookup_cons]

theorem shown_unknownEvent (id path : String) :
    (unknownEvent id path).shown "registration_id" = some (.str id) :=
  shown_failureOf _ _ _ (by decide : ["registration_id", "path"].Sublist detailNames)

theorem shown_unsupportedEvent (id : String) (grant : Grant) :
    (unsupportedEvent id grant).shown "registration_id" = some (.str id) :=
  shown_failureOf _ _ _ (by decide : ["registration_id", "grant_type"].Sublist detailNames)

theorem shown_badTemplateEvent {τ : Type} [Strings τ] (id : String)
    (e : Template.UnknownVariable τ) :
    (badTemplateEvent id e).shown "registration_id" = some (.str id) :=
  shown_failureOf _ _ _ (by decide : ["registration_id"].Sublist detailNames)

/-- A repository finds registrations of the id that is asked for. -/
theorem id_of_find_ask {τ : Type} [Inhabited τ] [LT τ] {resolver : Resolver τ}
    {repository : Repository τ} (hask : resolver.registrations = repository.ask) {id : String}
    {registration : Registration τ}
    (hfind : resolver.find id = .ok (some registration)) : registration.id = id := by
  obtain ⟨registrations, matcher, stateKeys, verifierKeys⟩ := resolver
  obtain rfl : registrations = repository.ask := hask
  rw [find_ask] at hfind
  exact (Repository.find?_eq_some_iff.mp (Except.ok.inj hfind)).2

/-! ### Runs -/

section Runs

variable {τ : Type} [Inhabited τ] [LT τ] [Strings τ] (resolver : Resolver τ)
  (verifiers : KeyGenerator) (sha256 : Bool) (request : Request) (explicit : Option String)
  (session : Session)

/-- What a run logs has the headings of its outcome. -/
theorem exists_headings_of_run :
    let result := (resolver.withVerifiers verifiers).run sha256 request explicit session
    ∃ events, result.2.log = session.log ++ events ∧
      events.map (·.heading) =
        headings sha256 (resolver.registrationFor request explicit) result.1 := by
  intro result
  obtain ⟨_, _, hcourse⟩ := exists_course (resolver.withVerifiers verifiers) sha256 request
    explicit session
  have hresult : result = (_, _) := hcourse.run_eq
  rw [hresult]
  have hfound {id : String} {found : Option (Registration τ)}
      (hid : (resolver.withVerifiers verifiers).requestedId request explicit = some id)
      (hfind : (resolver.withVerifiers verifiers).find id = .ok found) :
      resolver.registrationFor request explicit = found := registrationFor_of_find hid hfind
  cases hcourse with
  | passedBy => exact ⟨[], by simp, rfl⟩
  | lookup => exact ⟨[], by simp, rfl⟩
  | unknownNoUrl hid hfind =>
    rw [headings, hfound hid hfind]
    exact ⟨[], by simp, rfl⟩
  | unknown => exact ⟨_, rfl, rfl⟩
  | unsupported => exact ⟨_, rfl, rfl⟩
  | @noBaseUrl _ registration _ _ hid hfind =>
    rw [headings, hfound hid hfind]
    exact exists_heading_keyed resolver verifiers sha256 session registration
  | @badTemplate _ _ registration _ e hid hfind =>
    obtain ⟨events, hlog, hheadings⟩ :=
      exists_heading_keyed resolver verifiers sha256 session registration
    refine ⟨events ++ [badTemplateEvent registration.id e], ?_, ?_⟩
    · rw [Session.logged, hlog, List.append_assoc]
    · rw [headings, hfound hid hfind, List.map_append, hheadings]
      rfl
  | @invalid _ _ _ registration _ _ hid hfind =>
    rw [headings, hfound hid hfind]
    exact exists_heading_keyed resolver verifiers sha256 session registration
  | @resolved _ _ _ registration _ _ built hid hfind =>
    obtain ⟨events, hlog, hheadings⟩ :=
      exists_heading_keyed resolver verifiers sha256 session registration
    refine ⟨events ++ [redirectEvent registration.id built], ?_, ?_⟩
    · rw [hlog, List.append_assoc]
    · rw [headings, hfound hid hfind, List.map_append, hheadings]
      rfl

/-- What a refused run logs at last shows the id of the refusal or, if the grant of a registration
is refused, the id that was asked for. -/
theorem exists_last_of_refused {refusal : Refusal τ}
    (h : ((resolver.withVerifiers verifiers).run sha256 request explicit session).1 =
      .error (.refused refusal)) :
    ∃ front last id,
      ((resolver.withVerifiers verifiers).run sha256 request explicit session).2.log =
        session.log ++ (front ++ [last]) ∧
      last.shown "registration_id" = some (.str id) ∧
      ((∃ registration, resolver.requestedId request explicit = some id ∧
          resolver.find id = .ok (some registration) ∧
          refusal = .unsupportedGrant registration.id registration.grant) ∨
        id = refusal.registrationId ∧ ∀ id grant, refusal ≠ .unsupportedGrant id grant) := by
  obtain ⟨_, hcourse⟩ := course_of_outcome h
  rw [hcourse.run_eq]
  cases hcourse with
  | @unknown id url =>
    exact ⟨[], _, id, rfl, shown_unknownEvent id url.path, .inr ⟨rfl, by simp⟩⟩
  | @unsupported id registration hid hfind =>
    exact ⟨[], _, id, rfl, shown_unsupportedEvent id registration.grant,
      .inl ⟨registration, hid, hfind, rfl⟩⟩
  | @badTemplate _ _ registration _ e =>
    obtain ⟨events, hlog, -⟩ :=
      exists_heading_keyed resolver verifiers sha256 session registration
    refine ⟨events, _, registration.id, ?_, shown_badTemplateEvent registration.id e,
      .inr ⟨rfl, by simp⟩⟩
    rw [Session.logged, hlog, List.append_assoc]

/-- **Every resolution leaves its records.** Let a resolver take its code verifiers from a
generator, and let its logger be made with the usual level, whatever loggers there are. The logger
writes one record of every event that a run adds to the log, and the headings of these records are
those of the outcome. A refusal leaves its record at the end. It shows the id that the refusal is
about, unless the grant of a registration was refused that has another id than was asked for. A
repository finds no such registration, so that the id is always shown when one is asked. -/
theorem records_of_run (hierarchy : Log.Hierarchy) :
    let result := (resolver.withVerifiers verifiers).run sha256 request explicit session
    ∃ logger later events, hierarchy.make "CLIENT" (.rank 20) = .ok (logger, later) ∧
      result.2.log = session.log ++ events ∧
      (∀ now, events.flatMap (logger.eventRecords now) =
        events.map fun e => ⟨e.level, e.render now⟩) ∧
      events.map (·.heading) =
        headings sha256 (resolver.registrationFor request explicit) result.1 ∧
      ∀ refusal, result.1 = .error (.refused refusal) →
        ∃ front last, events = front ++ [last] ∧
          (last.shown "registration_id" = some (.str refusal.registrationId) ↔
            ∀ id grant, refusal = .unsupportedGrant id grant →
              resolver.requestedId request explicit = some id) ∧
          ∀ repository : Repository τ, resolver.registrations = repository.ask →
            last.shown "registration_id" = some (.str refusal.registrationId) := by
  intro result
  obtain ⟨logger, later, hmake, hrecords⟩ := Log.exists_make_info hierarchy "CLIENT"
  obtain ⟨events, hlog, hheadings⟩ :=
    exists_headings_of_run resolver verifiers sha256 request explicit session
  refine ⟨logger, later, events, hmake, hlog, fun now => hrecords now events, hheadings,
    fun refusal hrefused => ?_⟩
  obtain ⟨front, last, id, hlast, hshown, hid⟩ :=
    exists_last_of_refused resolver verifiers sha256 request explicit session hrefused
  have hevents : events = front ++ [last] := List.append_cancel_left (hlog.symm.trans hlast)
  obtain ⟨registration, hasked, hfind, rfl⟩ | ⟨rfl, hother⟩ := hid
  · refine ⟨front, last, hevents, ?_, fun repository hask => ?_⟩
    · rw [hshown, Option.some_inj, Json.str.injEq]
      constructor
      · rintro rfl _ _ heq
        rw [← (Refusal.unsupportedGrant.inj heq).1]
        exact hasked
      · intro h
        exact Option.some_inj.mp (hasked.symm.trans (h _ _ rfl))
    · rw [hshown, ← id_of_find_ask hask hfind]
      rfl
  · exact ⟨front, last, hevents, iff_of_true hshown fun _ _ heq => absurd heq (hother _ _),
      fun _ _ => hshown⟩

end Runs

/-- A client that logs in with passwords. -/
private def machine : Registration WideString where
  id := "machine"
  clientId := "machine-1"
  clientSecret := some "secret"
  authentication := .secretBasic
  grant := .password
  authorizationUri := none
  redirectTemplate := some Template.standard
  scopes := .empty
  clientName := none
  id_ne_empty := by decide
  clientId_ne_empty := by decide
  endpoints _ h := by cases h

/-- A resolver that finds the client by whatever name. -/
private def machineResolver : Resolver WideString :=
  withVerifiers (.usual (fun _ => .ok (some machine)) ⟨defaultBase⟩) .forVerifiers

private def aliasRequest : Request where
  method := "GET"
  path := some "/oauth2/authorization/alias"
  rootPath := none
  host := some "app.example"
  server := none
  scheme := "https"
  query := []

/-- **A refusal under another name.** A registration is found by an alias, and its grant has no
redirect. The refusal is about the registration, and its record shows the alias. -/
theorem alias_of_unsupported :
    (∃ url, aliasRequest.url = .ok url) ∧
      ∃ refusal session' last,
        machineResolver.run true aliasRequest none ⟨Entropy.seeded 3, []⟩ =
          (.error (.refused refusal), session') ∧
        session'.log = [last] ∧ last.heading = refusalHeading ∧
        refusal.registrationId = "machine" ∧
        last.shown "registration_id" = some (.str "alias") := by
  have haddressable : aliasRequest.Addressable := .of_https rfl rfl rfl (by decide) rfl
  obtain ⟨baseUrl, hbase⟩ := haddressable.exists_baseUrl
  have hid : machineResolver.requestedId aliasRequest none = some "alias" := by decide +kernel
  have hcourse : machineResolver.Course true aliasRequest none ⟨Entropy.seeded 3, []⟩ _ _ :=
    .unsupported hid rfl rfl
  exact ⟨Request.exists_url_of_baseUrl hbase, _, _, unsupportedEvent "alias" .password,
    hcourse.run_eq, rfl, rfl, rfl, shown_unsupportedEvent "alias" .password⟩

end Resolver

end OAuthRedirect
