import OAuthRedirect.Application

/-!
# Client secrets

The application keeps the secrets of its registrations and never uses them. Taking them out
(`Registration.withoutSecret`) commutes with every step from the list of registrations to the
answers: the repository of the list, what is found for an id, the resolution of a request, the
pages, and the answer to a request with all that it leaves behind. Two applications whose
registrations differ in secrets alone are therefore one application once the secrets are out, and
no sequence of requests tells them apart (`Application.handleAll_congr_secrets`).
-/

namespace OAuthRedirect

variable {τ : Type} [Inhabited τ] [LT τ]

/-! ### Registrations -/

/-- A registration with its secret taken out. The authentication method stays as it is. -/
def Registration.withoutSecret (r : Registration τ) : Registration τ :=
  { r with clientSecret := none }

namespace Repository

theorem map_id_withoutSecret (registrations : List (Registration τ)) :
    (registrations.map Registration.withoutSecret).map (·.id) = registrations.map (·.id) := by
  rw [List.map_map]
  rfl

/-- A builder with the secrets taken out. -/
def Builder.withoutSecrets (b : Builder τ) : Builder τ where
  registrations := b.registrations.map Registration.withoutSecret
  distinct := by
    rw [map_id_withoutSecret]
    exact b.distinct

/-- A repository with the secrets taken out. -/
def withoutSecrets (repository : Repository τ) : Repository τ where
  registrations := repository.registrations.map Registration.withoutSecret
  distinct := by
    rw [map_id_withoutSecret]
    exact repository.distinct
  ne_nil h := repository.ne_nil (List.map_eq_nil_iff.mp h)

/-! ### Building -/

/-- Whether a registration can be added is up to the ids. -/
theorem Builder.add_withoutSecret (b : Builder τ) (r : Registration τ) :
    b.withoutSecrets.add r.withoutSecret = (b.add r).map withoutSecrets := by
  have hids : b.withoutSecrets.registrations.map (·.id) = b.registrations.map (·.id) :=
    map_id_withoutSecret b.registrations
  by_cases h : r.id ∈ b.registrations.map (·.id)
  · have h' : r.withoutSecret.id ∈ b.withoutSecrets.registrations.map (·.id) := by
      rw [hids]
      exact h
    rw [add, add, dif_pos h, dif_pos h']
    rfl
  · have h' : r.withoutSecret.id ∉ b.withoutSecrets.registrations.map (·.id) := by
      rw [hids]
      exact h
    rw [add, add, dif_neg h, dif_neg h']
    simp [Except.map, withoutSecrets]

theorem Builder.foldlM_withoutSecret (registrations : List (Registration τ)) (b : Builder τ) :
    (registrations.map Registration.withoutSecret).foldlM add b.withoutSecrets =
      (registrations.foldlM add b).map withoutSecrets := by
  induction registrations generalizing b with
  | nil => rfl
  | cons r rest ih =>
    rw [List.map_cons, List.foldlM_cons, List.foldlM_cons, add_withoutSecret]
    cases b.add r with
    | error e => rfl
    | ok next => exact ih next

theorem Builder.finish_withoutSecrets (b : Builder τ) :
    b.withoutSecrets.finish = b.finish.map Repository.withoutSecrets := by
  by_cases h : b.registrations = []
  · have h' : b.withoutSecrets.registrations = [] := List.map_eq_nil_iff.mpr h
    rw [finish, finish, dif_pos h, dif_pos h']
    rfl
  · have h' : b.withoutSecrets.registrations ≠ [] := mt List.map_eq_nil_iff.mp h
    rw [finish, finish, dif_neg h, dif_neg h']
    rfl

/-- A list without secrets makes the repository without secrets, or the same error. -/
theorem ofList_withoutSecret (registrations : List (Registration τ)) :
    ofList (registrations.map Registration.withoutSecret) =
      (ofList registrations).map withoutSecrets := by
  have hfold : (registrations.map Registration.withoutSecret).foldlM Builder.add .start =
      (registrations.foldlM Builder.add .start).map Builder.withoutSecrets :=
    Builder.foldlM_withoutSecret registrations .start
  rw [ofList, ofList, hfold]
  cases registrations.foldlM Builder.add .start with
  | error e => rfl
  | ok b => exact b.finish_withoutSecrets

/-! ### Looking up -/

theorem find?_withoutSecrets (repository : Repository τ) (id : String) :
    repository.withoutSecrets.find? id =
      (repository.find? id).map Registration.withoutSecret := by
  rw [find?, find?, withoutSecrets, List.find?_map]
  rfl

theorem ask_withoutSecrets (repository : Repository τ) (id : String) :
    repository.withoutSecrets.ask id =
      (repository.ask id).map (Option.map Registration.withoutSecret) := by
  unfold ask lookup
  split
  · rfl
  · rfl
  · rw [find?_withoutSecrets]
    rfl

end Repository

/-! ### Resolving -/

namespace Resolver

variable [Strings τ] (repository : Repository τ) (matcher : PathMatcher)
  (stateKeys verifierKeys : KeySource) (sha256 : Bool) (request : Request)

/-- The registration that is found has a part in a resolution by its other fields alone. -/
theorem resolveId_withoutSecrets (id action : String) :
    resolveId ⟨repository.withoutSecrets.ask, matcher, stateKeys, verifierKeys⟩ sha256 request id
        action =
      resolveId ⟨repository.ask, matcher, stateKeys, verifierKeys⟩ sha256 request id action := by
  have hask := repository.ask_withoutSecrets id
  rw [resolveId, resolveId]
  simp only [hask]
  rcases repository.ask id with _ | _ | registration
  · rfl
  · rfl
  · rfl

theorem run_withoutSecrets (explicit : Option String) :
    run ⟨repository.withoutSecrets.ask, matcher, stateKeys, verifierKeys⟩ sha256 request explicit =
      run ⟨repository.ask, matcher, stateKeys, verifierKeys⟩ sha256 request explicit := by
  have hresolve : resolve ⟨repository.withoutSecrets.ask, matcher, stateKeys, verifierKeys⟩ sha256
        request explicit =
      resolve ⟨repository.ask, matcher, stateKeys, verifierKeys⟩ sha256 request explicit := by
    simp only [resolve, resolveId_withoutSecrets]
  funext session
  rw [run, run, hresolve]

end Resolver

/-! ### Answering -/

namespace Application

/-- An application with the secrets of its registrations taken out. -/
def withoutSecrets (app : Application) : Application :=
  { app with repository := app.repository.withoutSecrets }

theorem startWith_withoutSecret (settings : Settings)
    (registrations : List (Registration WideString)) :
    startWith settings (registrations.map Registration.withoutSecret) =
      (startWith settings registrations).map withoutSecrets := by
  rw [startWith, startWith, Repository.ofList_withoutSecret]
  cases Repository.ofList registrations with
  | error e => rfl
  | ok repository =>
    change (PathMatcher.ofBase settings.base).mapError _ >>= _ = Except.map _ (_ >>= _)
    cases PathMatcher.ofBase settings.base <;> rfl

variable (app : Application) (sha256 : Bool) (request : Request)

theorem indexPage_withoutSecrets : app.withoutSecrets.indexPage = app.indexPage := by
  rw [indexPage, indexPage, withoutSecrets, Repository.withoutSecrets, List.map_map]
  rfl

theorem startupText_withoutSecrets : app.withoutSecrets.startupText = app.startupText := by
  have hsize : app.withoutSecrets.repository.size = app.repository.size :=
    List.length_map _
  rw [startupText, startupText, hsize]
  rfl

theorem resolve_withoutSecrets (explicit : Option String) :
    app.withoutSecrets.resolve sha256 request explicit = app.resolve sha256 request explicit := by
  have hrun : app.withoutSecrets.resolver.run sha256 request explicit =
      app.resolver.run sha256 request explicit :=
    Resolver.run_withoutSecrets app.repository app.matcher _ _ sha256 request explicit
  rw [resolve, resolve, hrun]

theorem page_withoutSecrets (route : Route) :
    app.withoutSecrets.page sha256 request route = app.page sha256 request route := by
  cases route with
  | index => rw [page, page, indexPage_withoutSecrets]
  | health => rfl
  | authorize id => rw [page, page, resolve_withoutSecrets]

theorem passBy_withoutSecrets :
    app.withoutSecrets.passBy sha256 request = app.passBy sha256 request := by
  have hsettings : app.withoutSecrets.settings = app.settings := rfl
  have hpages : app.withoutSecrets.hasPage = app.hasPage := rfl
  simp only [passBy, page_withoutSecrets, hsettings, hpages]

/-- **An answer is the same without the secrets**, and so is the session that it leaves. -/
theorem handle_withoutSecrets (session : Session) :
    app.withoutSecrets.handle sha256 request session = app.handle sha256 request session := by
  have hrespond : app.withoutSecrets.respond sha256 request = app.respond sha256 request := by
    rw [respond, respond, resolve_withoutSecrets, passBy_withoutSecrets]
  rw [handle, handle, hrespond]

/-- Many answers are the same without the secrets, since each of them leaves the same session for
the next one. -/
theorem handleAll_withoutSecrets (requests : List (Bool × Request)) (session : Session) :
    app.withoutSecrets.handleAll requests session = app.handleAll requests session := by
  induction requests generalizing session with
  | nil => rfl
  | cons first rest ih =>
    rw [handleAll, handleAll, handle_withoutSecrets, ih]

/-- **Secrets do not show.** Let two lists of registrations be the same but for the secrets. Either
the application starts with neither of them, for the same reason, or it starts with both. Then it
says the same on starting and answers every sequence of requests with the same statuses, headers
and bodies, breaks off for the same requests, logs the same events and draws the same random
bytes. -/
theorem handleAll_congr_secrets {registrations registrations' : List (Registration WideString)}
    (h : registrations.map Registration.withoutSecret =
      registrations'.map Registration.withoutSecret) (settings : Settings) :
    (∃ e, startWith settings registrations = .error e ∧
      startWith settings registrations' = .error e) ∨
    ∃ app app', startWith settings registrations = .ok app ∧
      startWith settings registrations' = .ok app' ∧
      app.startupText = app'.startupText ∧
      ∀ (requests : List (Bool × Request)) (session : Session),
        app.handleAll requests session = app'.handleAll requests session := by
  have hstart : (startWith settings registrations).map withoutSecrets =
      (startWith settings registrations').map withoutSecrets := by
    rw [← startWith_withoutSecret, ← startWith_withoutSecret, h]
  match hs : startWith settings registrations, hs' : startWith settings registrations' with
  | .error e, .error e' =>
    rw [hs, hs'] at hstart
    obtain rfl : e = e' := Except.error.inj hstart
    exact .inl ⟨e, rfl, rfl⟩
  | .error e, .ok app' =>
    rw [hs, hs'] at hstart
    contradiction
  | .ok app, .error e' =>
    rw [hs, hs'] at hstart
    contradiction
  | .ok app, .ok app' =>
    rw [hs, hs'] at hstart
    have happ : app.withoutSecrets = app'.withoutSecrets := Except.ok.inj hstart
    refine .inr ⟨app, app', rfl, rfl, ?_, fun requests session => ?_⟩
    · rw [← startupText_withoutSecrets, happ, startupText_withoutSecrets]
    · rw [← handleAll_withoutSecrets, happ, handleAll_withoutSecrets]

/-- A confidential client with a secret. -/
private def vault (secret : WideString) : Registration WideString where
  id := "vault"
  clientId := "vault-1"
  clientSecret := some secret
  authentication := .secretPost
  grant := .authorizationCode
  authorizationUri := some ↑"https://vault.example/authorize"
  redirectTemplate := some ↑Template.standard
  scopes := .ofList ["open", "close"]
  clientName := none
  id_ne_empty := by decide
  clientId_ne_empty := by decide
  endpoints _ _ := by decide

/-- A secret that is no text. -/
private def brokenSecret : WideString := .ofCodes [0xD800]

private def vaultSettings : Settings :=
  ⟨defaultBase, "localhost", 8080, none, "https://vault.example", fun _ => none⟩

/-- Requests for the link of the client, for its id, for an id that nobody has, and for two pages
of which one is missing. -/
private def vaultRequests : List (Bool × Request) :=
  ["/oauth2/authorization/vault", "/authorize/vault", "/authorize/nobody", "/", "/nothing"].map
    fun path => (true, ⟨"GET", some path, none, some "app.example", none, "https", []⟩)

theorem handleAll_congr_secrets_vault :
    [vault "left"].map Registration.withoutSecret =
        [vault brokenSecret].map Registration.withoutSecret ∧
      vault "left" ≠ vault brokenSecret ∧
      ∃ app app', startWith vaultSettings [vault "left"] = .ok app ∧
        startWith vaultSettings [vault brokenSecret] = .ok app' ∧
        app.handleAll vaultRequests ⟨⟨fun _ => 0, 0⟩, []⟩ =
          app'.handleAll vaultRequests ⟨⟨fun _ => 0, 0⟩, []⟩ ∧
        (app.handleAll vaultRequests ⟨⟨fun _ => 0, 0⟩, []⟩).map (·.1.1.status) =
          [302, 302, 400, 200, 404] := by
  have hsame : [vault "left"].map Registration.withoutSecret =
      [vault brokenSecret].map Registration.withoutSecret := rfl
  refine ⟨hsame, by decide, ?_⟩
  rcases handleAll_congr_secrets hsame vaultSettings with ⟨e, he, -⟩ | ⟨app, app', h, h', -, hall⟩
  · contradiction
  · refine ⟨app, app', h, h', hall _ _, ?_⟩
    obtain rfl := Except.ok.inj h
    decide +kernel

end Application

end OAuthRedirect
