import OAuthRedirect.Proofs.Registration.Fields
import OAuthRedirect.Proofs.Resolver.SentScopes
import OAuthRedirect.Proofs.Uri.QueryPart

/-!
# One text for a set of scopes

The scopes of a registration may be written as a list, in any order and with repetitions, or as one
string with any white space and commas between them. However they are written, the registration is
the same (`Registration.ofJson_eq_of_sameButScopes`), and so is what is resolved for it. The text
that is sent has the scopes in increasing order by code points (`Resolver.scopes_canonical`).
-/

namespace OAuthRedirect

namespace Registration

/-! ### Ways of writing scopes -/

/-- Do the members of some data name a scope? -/
def NamesScope (members : Members) (name : WideString) : Prop :=
  ∃ value, members.lookup "scopes" = some value ∧ Scopes.Names name value

/-- Data that **differs only in how its scopes are written**: as strings or lists of strings that
name the same scopes. -/
structure SameButScopes (members members' : Members) : Prop where
  others : ∀ name, name ≠ "scopes" → members.lookup name = members'.lookup name
  form : ∀ value, members.lookup "scopes" = some value → Form.strings.Holds value
  form' : ∀ value, members'.lookup "scopes" = some value → Form.strings.Holds value
  namesScope_iff : ∀ name, NamesScope members name ↔ NamesScope members' name

variable {members members' : Members}

/-- The check of the scopes gives the set of those that are named. -/
theorem exists_scopes_of_form
    (h : ∀ value, members.lookup "scopes" = some value → Form.strings.Holds value) :
    ∃ s, Check.optional members "scopes" Scopes.empty Scopes.check = .valid s ∧
      ∀ name, name ∈ s.names ↔ NamesScope members name := by
  cases hlookup : members.lookup "scopes" with
  | none =>
    refine ⟨.empty, Check.optional_eq_valid_iff.mpr (.inl ⟨hlookup, rfl⟩), fun name => ?_⟩
    simp [NamesScope, hlookup, Scopes.empty]
  | some value =>
    obtain ⟨s, hs⟩ := Scopes.exists_check_of_strings (h value hlookup)
    refine ⟨s, Check.optional_of_lookup hlookup hs, fun name => ?_⟩
    simp [NamesScope, hlookup, (Scopes.check_eq_valid_iff.mp hs).2 name]

namespace SameButScopes

variable (h : SameButScopes members members')

include h

theorem required_eq {α : Type} {name : String} (hname : name ≠ "scopes")
    (check : Json → Checked α) :
    Check.required members name check = Check.required members' name check := by
  rw [Check.required, Check.required, h.others name hname]

theorem optional_eq {α : Type} {name : String} (hname : name ≠ "scopes") (absent : α)
    (check : Json → Checked α) :
    Check.optional members name absent check = Check.optional members' name absent check := by
  rw [Check.optional, Check.optional, h.others name hname]

theorem checkAuthentication_eq : checkAuthentication members = checkAuthentication members' := by
  rw [checkAuthentication, checkAuthentication, defaultAuthentication, defaultAuthentication,
    h.others "client_authentication_method" (by decide), h.others "client_secret" (by decide)]

theorem scopes_eq : Check.optional members "scopes" Scopes.empty Scopes.check =
    Check.optional members' "scopes" Scopes.empty Scopes.check := by
  obtain ⟨s, hs, hnames⟩ := exists_scopes_of_form h.form
  obtain ⟨s', hs', hnames'⟩ := exists_scopes_of_form h.form'
  have hsame : s = s' := Scopes.eq_of_mem_iff fun name =>
    (hnames name).trans ((h.namesScope_iff name).trans (hnames' name).symm)
  rw [hs, hs', hsame]

end SameButScopes

/-- **However its scopes are written, data is checked alike.** -/
theorem ofJson_eq_of_sameButScopes (h : SameButScopes members members') :
    ofJson (.obj members) = ofJson (.obj members') := by
  rw [ofJson, ofJson, checkFields, checkFields, h.required_eq (by decide),
    h.required_eq (by decide), h.optional_eq (by decide), h.checkAuthentication_eq,
    h.required_eq (by decide), h.optional_eq (by decide), h.optional_eq (by decide), h.scopes_eq,
    h.optional_eq (by decide)]

/-- The scopes of an accepted registration are those that its data names. -/
theorem mem_scopes_iff {registration : Registration WideString}
    (hform : ∀ value, members.lookup "scopes" = some value → Form.strings.Holds value)
    (h : ofJson (.obj members) = .valid registration) (name : WideString) :
    name ∈ registration.scopes.names ↔ NamesScope members name := by
  obtain ⟨s, hs, hnames⟩ := exists_scopes_of_form hform
  have hread : s = registration.scopes :=
    Checked.valid.inj (hs.symm.trans (fieldsRead_of_ofJson h).scopes)
  rw [← hread, hnames]

end Registration

/-! ### What is sent -/

namespace AuthorizationRequest.Answers

variable {result : AuthorizationRequest WideString} {registration : Registration WideString}
  {callback : WideString} {state : String} {pkce : Option Pkce}
  (h : result.Answers registration callback state pkce)

include h

/-- Without scopes there is no parameter for them. -/
theorem scopes_ne_nil_of_mem {value : WideString} (hmem : ("scope", value) ∈ result.parameters) :
    registration.scopes.names ≠ [] := by
  intro hempty
  rw [parameters_eq, List.mem_append, List.mem_append] at hmem
  rcases hmem with (hmem | hmem) | hmem
  · have hstate : ("scope", value) ∈ nonEmptyParameter "state" result.state := by
      simpa [leading, h.scopes, hempty] using hmem
    have hname : "scope" = "state" := fst_of_mem_nonEmptyParameter hstate
    contradiction
  · have hname : "scope" = "redirect_uri" := fst_of_mem_nonEmptyParameter hmem
    contradiction
  · have hname : "scope" ∈ keyNames := h.mem_keyNames (fst_of_mem_trailing hmem)
    exact absurd hname (by decide)

theorem mem_scope_iff (value : WideString) : ("scope", value) ∈ result.parameters ↔
    registration.scopes.names ≠ [] ∧ value = .join " " registration.scopes.names := by
  constructor
  · intro hmem
    have hne := h.scopes_ne_nil_of_mem hmem
    exact ⟨hne, (h.scope_mem_iff hne value).mp hmem⟩
  · rintro ⟨hne, hvalue⟩
    exact (h.scope_mem_iff hne value).mpr hvalue

end AuthorizationRequest.Answers

namespace Resolver

/-- **Scopes are sent in one way.** Let two objects of data differ only in how the scopes are
written, and let both be accepted. Then they describe the same registration. Resolvers that ask
repositories with the one and with the other in the same place make the same of every request, in
the same session, and so send the user to the same URI, or have none for the same reason. The
registration has the scopes that the data names, in strictly increasing order by code points. When a
request for it is resolved, they are sent in that order, with single spaces between them, if there
are any, and else no parameter has this name; and the query of the URI has these parameters behind
the pairs of the endpoint. -/
theorem scopes_canonical {members members' : Members}
    {registration registration' : Registration WideString}
    (hsame : Registration.SameButScopes members members')
    (haccepted : Registration.ofJson (.obj members) = .valid registration)
    (haccepted' : Registration.ofJson (.obj members') = .valid registration')
    {before after : List (Registration WideString)} {repository repository' : Repository WideString}
    (hrepository : Repository.ofList (before ++ registration :: after) = .ok repository)
    (hrepository' : Repository.ofList (before ++ registration' :: after) = .ok repository')
    (matcher : PathMatcher) (stateKeys verifierKeys : KeySource) (sha256 : Bool)
    (request : Request) (explicit : Option String) (session : Session) :
    let run (repository : Repository WideString) :=
      Resolver.run ⟨repository.ask, matcher, stateKeys, verifierKeys⟩ sha256 request explicit
        session
    registration = registration' ∧ run repository = run repository' ∧
    (∀ result result', (run repository).1 = .ok (some result) →
      (run repository').1 = .ok (some result') → result.sentUri = result'.sentUri) ∧
    (registration.scopes.names.map WideString.codes).Pairwise (· < ·) ∧
    (∀ name, name ∈ registration.scopes.names ↔ Registration.NamesScope members name) ∧
    ∀ result, (run repository).1 = .ok (some result) →
      explicit.or (matcher.matchRequest request) = some registration.id →
      (∀ value, ("scope", value) ∈ result.parameters ↔
        registration.scopes.names ≠ [] ∧ value = .join " " registration.scopes.names) ∧
      ∀ uri sent, result.sentUri = .ok uri → Uri.split uri = .ok sent →
        ∃ endpoint parameters, Uri.split result.authorizationUri = .ok endpoint ∧
          result.parameters = AuthorizationRequest.widened parameters ∧
          Uri.Query.decode sent.query = Uri.Query.decode endpoint.query ++ parameters := by
  intro run
  obtain rfl : registration = registration' := by
    rw [Registration.ofJson_eq_of_sameButScopes hsame, haccepted'] at haccepted
    exact (Checked.valid.inj haccepted).symm
  obtain rfl : repository = repository' := Except.ok.inj (hrepository.symm.trans hrepository')
  refine ⟨rfl, rfl, fun result result' hresult hresult' => ?_,
    List.pairwise_map.mpr registration.scopes.increasing,
    Registration.mem_scopes_iff hsame.form haccepted, fun result hresult hid => ⟨?_, ?_⟩⟩
  · obtain rfl := Option.some_inj.mp (Except.ok.inj (hresult.symm.trans hresult'))
    rfl
  · have hmem : registration ∈ repository.registrations := by
      rw [Repository.registrations_of_ofList hrepository]
      simp
    obtain ⟨id, found, callback, hid', hfind, hanswers⟩ :=
      exists_answers_of_run_eq (Prod.ext hresult rfl)
    obtain rfl : id = registration.id := Option.some_inj.mp (hid'.symm.trans hid)
    rw [find_ask, Repository.find?_eq_some_iff.mpr ⟨hmem, rfl⟩] at hfind
    obtain rfl := Option.some_inj.mp (Except.ok.inj hfind)
    exact hanswers.mem_scope_iff
  · intro uri sent huri hsent
    exact result.decode_query_of_sentUri huri hsent

/-- The data of a client, with scopes in the given form. -/
private def readerData (scopes : Json) : Members :=
  [("registration_id", .str "reader"), ("client_id", .str "reader-1"),
    ("authorization_grant_type", .str "implicit"),
    ("authorization_uri", .str "https://library.example/authorize?hl=en"), ("scopes", scopes)]

-- in UTF-16 the second name begins with a unit below U+FB01, and would come first
private def readerNames : List String := ["\uFB01", "𝔸", "openid", "\uFB01"]

private def readerText : String := "𝔸, openid,\t\uFB01 openid"

private def readerScopes : Scopes WideString := .ofList (readerNames.map .text)

private theorem sameButScopes_reader : Registration.SameButScopes (readerData (.str readerText))
    (readerData (.arr (readerNames.map .str))) where
  others name hname := by
    have hend : (name == "scopes") = false := beq_false_of_ne hname
    simp [readerData, List.lookup_cons, hend]
  form := by
    rintro _ ⟨rfl⟩
    exact .inl ⟨_, rfl⟩
  form' := by
    rintro _ ⟨rfl⟩
    exact .inr ⟨_, rfl, List.forall_mem_map.mpr fun name _ => ⟨_, rfl⟩⟩
  namesScope_iff name := by
    have hwritten : Scopes.check (.str readerText) = .valid readerScopes := by rfl
    have hlisted : Scopes.check (.arr (readerNames.map .str)) = .valid readerScopes := by rfl
    have hnamed : Scopes.Names name (.str readerText) ↔
        Scopes.Names name (.arr (readerNames.map .str)) :=
      ((Scopes.check_eq_valid_iff.mp hwritten).2 name).symm.trans
        ((Scopes.check_eq_valid_iff.mp hlisted).2 name)
    simpa [Registration.NamesScope, readerData, List.lookup_cons] using hnamed

private def reader : Registration WideString where
  id := "reader"
  clientId := "reader-1"
  clientSecret := none
  authentication := .none
  grant := .implicit
  authorizationUri := some ↑"https://library.example/authorize?hl=en"
  redirectTemplate := some ↑Template.standard
  scopes := readerScopes
  clientName := none
  id_ne_empty := by decide
  clientId_ne_empty := by decide
  endpoints _ _ := by decide

private def readers : Repository WideString := ⟨[reader], by decide, by decide⟩

private def readerResolver : Resolver WideString :=
  ⟨readers.ask, ⟨defaultBase⟩, .random .forStates, .random .forVerifiers⟩

private def readerRequest : Request where
  method := "GET"
  path := some "/oauth2/authorization/reader"
  rootPath := none
  host := some "readers.example"
  server := none
  scheme := "https"
  query := []

private def readerEndpoint : Uri := ⟨"https", "library.example", "/authorize", "hl=en", ""⟩

/-- The request is resolved, and there is something to redirect to. -/
private theorem exists_sentUri_reader :
    ∃ result uri sent, (readerResolver.run true readerRequest none ⟨Entropy.seeded 5, []⟩).1 =
        .ok (some result) ∧
      result.sentUri = .ok uri ∧ Uri.split uri = .ok sent := by
  obtain ⟨hid, hbase, hcallback⟩ : readerResolver.requestedId readerRequest none = some "reader" ∧
      readerRequest.baseUrl = .ok "https://readers.example" ∧
      callback reader "https://readers.example" (requestedAction readerRequest none) =
        .ok ↑"https://readers.example/login/oauth2/code/reader" := by decide +kernel
  have hendpoint : sentEndpoint reader =
      .valid ⟨"https://library.example/authorize?hl=en", by decide⟩ := rfl
  have hsplit : Uri.split "https://library.example/authorize?hl=en" = .ok readerEndpoint := by
    decide +kernel
  obtain ⟨result, hresult, hanswers⟩ :=
    outcome_answered true ⟨Entropy.seeded 5, []⟩ hid rfl rfl hbase hcallback hendpoint
  have hnames : ∀ name ∈ readerScopes.names, ∃ s : String, name = ↑s := fun name hname => by
    obtain ⟨s, -, hs⟩ := List.mem_map.mp (Scopes.mem_ofList.mp hname)
    exact ⟨s, hs.symm⟩
  obtain ⟨parameters, hparameters⟩ := hanswers.exists_widened_iff.mpr ⟨hnames, _, rfl⟩
  have huri : result.authorizationUri = "https://library.example/authorize?hl=en" :=
    (WideString.text.inj (Option.some_inj.mp hanswers.wideAuthorizationUri)).symm
  rw [← huri] at hsplit
  obtain ⟨uri, sent, hsentUri, hsent, -⟩ :=
    AuthorizationRequest.decode_query_of_widened hsplit (by decide) hparameters
  exact ⟨result, uri, sent, hresult, hsentUri, hsent⟩

theorem scopes_canonical_reader :
    Registration.SameButScopes (readerData (.str readerText))
        (readerData (.arr (readerNames.map .str))) ∧
      Registration.ofJson (.obj (readerData (.str readerText))) = .valid reader ∧
      Registration.ofJson (.obj (readerData (.arr (readerNames.map .str)))) = .valid reader ∧
      Repository.ofList ([] ++ reader :: []) = .ok readers ∧
      ∃ result uri sent, (readerResolver.run true readerRequest none ⟨Entropy.seeded 5, []⟩).1 =
          .ok (some result) ∧
        result.sentUri = .ok uri ∧ Uri.split uri = .ok sent ∧
        ("scope", "openid \uFB01 𝔸") ∈ Uri.Query.decode sent.query := by
  have hwritten : Registration.ofJson (.obj (readerData (.str readerText))) = .valid reader := by
    rfl
  have hlisted : Registration.ofJson (.obj (readerData (.arr (readerNames.map .str)))) =
      .valid reader := by rfl
  have hrepository : Repository.ofList ([] ++ reader :: []) = .ok readers := rfl
  have hid : (PathMatcher.mk defaultBase).matchRequest readerRequest = some "reader" := by
    decide +kernel
  obtain ⟨result, uri, sent, hresult, huri, hsent⟩ := exists_sentUri_reader
  obtain ⟨-, -, -, -, -, hscope⟩ := scopes_canonical sameButScopes_reader hwritten hlisted
    hrepository hrepository ⟨defaultBase⟩ (.random .forStates) (.random .forVerifiers) true
    readerRequest none ⟨Entropy.seeded 5, []⟩
  obtain ⟨hvalue, hquery⟩ := hscope result hresult hid
  obtain ⟨_, parameters, -, hparameters, hdecoded⟩ := hquery uri sent huri hsent
  refine ⟨sameButScopes_reader, hwritten, hlisted, hrepository, result, uri, sent, hresult, huri,
    hsent, ?_⟩
  have hmem : ("scope", ↑"openid \uFB01 𝔸") ∈ result.parameters :=
    (hvalue _).mpr ⟨by decide, by decide +kernel⟩
  rw [hparameters, AuthorizationRequest.mem_widened_iff] at hmem
  rw [hdecoded]
  exact List.mem_append_right _ hmem

end Resolver

end OAuthRedirect
