import OAuthRedirect.Proofs.Registration.Data
import OAuthRedirect.Proofs.Resolver.Occurrences

/-!
# Scopes as they are sent

The scopes of a registration are sent in one parameter, with single spaces between them, and the
provider reads it by cutting it at the spaces. It reads the scopes of the registration exactly when
no scope holds a space (`Scopes.readsFrom_spaced_iff`, `Resolver.scopes_sent_iff`). Scopes that are
configured as one string never do, because that is cut at white space itself; the strings of a list
are taken as they are, and a space in one of them makes two scopes of it
(`Resolver.scope_sent_as_two`).
-/

namespace OAuthRedirect

/-! ### Reading scopes back -/

namespace Scopes

/-- The code point of a space. -/
def spaceCode : Nat := ' '.toNat

/-- The names in a string: what stands between single spaces. -/
def namesIn (w : WideString) : List WideString :=
  (w.codes.splitOn spaceCode).map .ofCodes

/-- A string that is read as a set: each of its names is there once. -/
structure ReadsFrom (s : Scopes WideString) (w : WideString) : Prop where
  nodup : (namesIn w).Nodup
  mem_iff : ∀ name, name ∈ namesIn w ↔ name ∈ s.names

variable {s : Scopes WideString}

theorem space_not_mem_of_mem_namesIn {w name : WideString} (h : name ∈ namesIn w) :
    spaceCode ∉ name.codes := by
  obtain ⟨piece, hpiece, rfl⟩ := List.mem_map.mp h
  exact fun hspace => Text.not_mem_of_mem_splitOn hpiece
    (WideString.mem_of_mem_codes_ofCodes (by decide) hspace)

/-- Names without spaces are found again in what they are sent as, in the same order. -/
theorem namesIn_spaced (hne : s.names ≠ []) (h : ∀ name ∈ s.names, spaceCode ∉ name.codes) :
    namesIn (Strings.spaced s.names) = s.names := by
  have hpieces : ∀ piece ∈ s.names.map WideString.codes, spaceCode ∉ piece := by
    simpa using h
  have hcodes : (Strings.spaced s.names : WideString).codes =
      [spaceCode].intercalate (s.names.map WideString.codes) :=
    WideString.codes_join " " s.names
  rw [namesIn, hcodes, List.splitOn_intercalate _ hpieces (by simpa using hne), List.map_map]
  exact (List.map_congr_left fun name _ => name.ofCodes_codes).trans (List.map_id _)

/-- **A set is read back from what it is sent as** exactly when no name holds a space. -/
theorem readsFrom_spaced_iff (hne : s.names ≠ []) :
    s.ReadsFrom (Strings.spaced s.names) ↔ ∀ name ∈ s.names, spaceCode ∉ name.codes := by
  constructor
  · intro h name hname
    exact space_not_mem_of_mem_namesIn ((h.mem_iff name).mpr hname)
  · intro h
    have hnames := namesIn_spaced hne h
    refine ⟨?_, fun name => by rw [hnames]⟩
    rw [hnames]
    exact s.nodup_names

/-! ### Where scopes come from -/

/-- A string is cut at white space, so that no scope in it holds a space. -/
theorem space_not_mem_of_check {value : Json} {written : WideString}
    (hwritten : value.string? = some written) (h : check value = .valid s) :
    ∀ name ∈ s.names, spaceCode ∉ name.codes := by
  intro name hname hspace
  obtain ⟨run, hrun, rfl⟩ := List.mem_map.mp
    ((names_iff_of_string? hwritten).mp (((check_eq_valid_iff.mp h).2 name).mp hname))
  have hfree := (Text.mem_runs_iff.mp hrun).free _
    (WideString.mem_of_mem_codes_ofCodes (by decide) hspace)
  exact absurd hfree (by decide)

end Scopes

/-! ### Data that is accepted -/

namespace Registration

variable {members : Members} {registration : Registration WideString}

/-- The scopes of an accepted registration are those of its data. -/
theorem check_scopes {value : Json} (h : ofJson (.obj members) = .valid registration)
    (hlookup : members.lookup "scopes" = some value) :
    Scopes.check value = .valid registration.scopes := by
  obtain ⟨hnone, -⟩ | ⟨found, hfound, hcheck⟩ :=
    Check.optional_eq_valid_iff.mp (fieldsRead_of_ofJson h).scopes
  · rw [hlookup] at hnone
    cases hnone
  · rw [hlookup] at hfound
    obtain rfl := Option.some.inj hfound
    exact hcheck

end Registration

/-! ### The parameter that is sent -/

theorem AuthorizationRequest.scope_mem_parameters {r : AuthorizationRequest WideString}
    (hne : r.scopes.names ≠ []) : ("scope", Strings.spaced r.scopes.names) ∈ r.parameters := by
  rw [parameters_eq, leading]
  simp [hne]

/-- The scopes are the value of the only parameter of their name. -/
theorem AuthorizationRequest.Answers.scope_mem_iff {result : AuthorizationRequest WideString}
    {registration : Registration WideString} {callback : WideString} {state : String}
    {pkce : Option Pkce} (h : result.Answers registration callback state pkce)
    (hne : registration.scopes.names ≠ []) (value : WideString) :
    ("scope", value) ∈ result.parameters ↔ value = Strings.spaced registration.scopes.names := by
  have hscope : ("scope", Strings.spaced registration.scopes.names) ∈ result.parameters := by
    rw [← h.scopes] at hne ⊢
    exact scope_mem_parameters hne
  constructor
  · intro hvalue
    have hfirst := Pairs.lookup_of_mem_of_nodup h.nodup_parameters hvalue
    have hsecond := Pairs.lookup_of_mem_of_nodup h.nodup_parameters hscope
    exact Option.some_inj.mp (hfirst.symm.trans hsecond)
  · rintro rfl
    exact hscope

namespace Resolver

variable {resolver : Resolver WideString} {sha256 : Bool} {request : Request}
  {explicit : Option String} {session session' : Session}
  {result : AuthorizationRequest WideString}

/-- **Scopes on the wire.** Let a request be resolved for a registration that has scopes. One
parameter named `scope` is sent, and for an endpoint with an authority it is the last one of that
name in the query of the redirect, if the parameters are texts. Cut at single spaces, it reads as
the scopes of the registration, each of them once, exactly when no scope holds a space. So it does
whenever the scopes were configured as one string. -/
theorem scopes_sent_iff {id : String} {registration : Registration WideString}
    (hid : resolver.requestedId request explicit = some id)
    (hfind : resolver.find id = .ok (some registration))
    (hrun : resolver.run sha256 request explicit session = (.ok (some result), session'))
    (hne : registration.scopes.names ≠ []) :
    ∃ sentScopes, (∀ value, ("scope", value) ∈ result.parameters ↔ value = sentScopes) ∧
      (∀ endpoint parameters, Uri.split result.authorizationUri = .ok endpoint →
        endpoint.authority ≠ "" →
        result.parameters = AuthorizationRequest.widened parameters →
        ∃ uri sent text, result.sentUri = .ok uri ∧ Uri.split uri = .ok sent ∧
          sentScopes = .text text ∧
          Uri.Query.last? "scope" (Uri.Query.decode sent.query) = some text) ∧
      (registration.scopes.ReadsFrom sentScopes ↔
        ∀ name ∈ registration.scopes.names, Scopes.spaceCode ∉ name.codes) ∧
      ∀ members value written, Registration.ofJson (.obj members) = .valid registration →
        members.lookup "scopes" = some value → value.string? = some written →
        registration.scopes.ReadsFrom sentScopes := by
  obtain ⟨id', registration', callback, hid', hfind', hanswers⟩ := exists_answers_of_run_eq hrun
  obtain rfl := found_unique hid hfind hid' hfind'
  have hreads := Scopes.readsFrom_spaced_iff hne
  refine ⟨_, hanswers.scope_mem_iff hne, fun endpoint parameters hsplit hauthority htexts => ?_,
    hreads, fun members value written hdata hlookup hwritten => ?_⟩
  · obtain ⟨uri, sent, huri, hsent, hquery⟩ :=
      AuthorizationRequest.decode_query_of_widened hsplit hauthority htexts
    have hmem := (hanswers.scope_mem_iff hne _).mpr rfl
    rw [htexts] at hmem
    obtain ⟨⟨_, text⟩, htext, heq⟩ := List.mem_map.mp hmem
    obtain ⟨rfl, hvalue⟩ := Prod.mk.inj heq
    refine ⟨uri, sent, text, huri, hsent, hvalue.symm, ?_⟩
    rw [hquery]
    exact Uri.Query.last?_append_of_nodup (hanswers.nodup_of_widened htexts) htext
  · exact hreads.mpr
      (Scopes.space_not_mem_of_check hwritten (Registration.check_scopes hdata hlookup))

/-- The data of a client, with scopes in the given form. -/
private def galleryData (scopes : Json) : Members :=
  [("registration_id", .str "gallery"), ("client_id", .str "gallery-1"),
    ("authorization_grant_type", .str "implicit"),
    ("authorization_uri", .str "https://gallery.example/authorize"), ("scopes", scopes)]

private def gallery (scopes : Scopes WideString) : Registration WideString where
  id := "gallery"
  clientId := "gallery-1"
  clientSecret := none
  authentication := .none
  grant := .implicit
  authorizationUri := some ↑"https://gallery.example/authorize"
  redirectTemplate := some ↑Template.standard
  scopes := scopes
  clientName := none
  id_ne_empty := by decide
  clientId_ne_empty := by decide
  endpoints _ _ := by decide

private def galleryResolver (scopes : Scopes WideString) : Resolver WideString :=
  ⟨fun _ => .ok (some (gallery scopes)), ⟨defaultBase⟩, .random .forStates, .random .forVerifiers⟩

private def galleryRequest : Request where
  method := "GET"
  path := some "/oauth2/authorization/gallery"
  rootPath := none
  host := some "visitors.example"
  server := none
  scheme := "https"
  query := []

/-- The request is resolved, whatever the scopes are. -/
private theorem exists_run_gallery (scopes : Scopes WideString) :
    (galleryResolver scopes).requestedId galleryRequest none = some "gallery" ∧
      ∃ result session', (galleryResolver scopes).run true galleryRequest none
          ⟨Entropy.seeded 2, []⟩ = (.ok (some result), session') ∧ result.scopes = scopes := by
  obtain ⟨hid, hbase, hexpanded⟩ :
      (PathMatcher.mk defaultBase).matchRequest galleryRequest = some "gallery" ∧
      galleryRequest.baseUrl = .ok "https://visitors.example" ∧
      Template.expandWide ↑Template.standard (templateVariables "https://visitors.example"
          (requestedAction galleryRequest none) "gallery") =
        .ok ↑"https://visitors.example/login/oauth2/code/gallery" := by
    decide +kernel
  have hid' : (galleryResolver scopes).requestedId galleryRequest none = some "gallery" := by
    rw [requestedId, Option.none_or]
    exact hid
  have hcallback : callback (gallery scopes) "https://visitors.example"
      (requestedAction galleryRequest none) =
      .ok ↑"https://visitors.example/login/oauth2/code/gallery" := hexpanded
  have hendpoint : sentEndpoint (gallery scopes) =
      .valid ⟨"https://gallery.example/authorize", by decide⟩ := rfl
  obtain ⟨result, hresult, hanswers⟩ := outcome_answered true
    ⟨Entropy.seeded 2, []⟩ hid' rfl rfl hbase hcallback hendpoint
  exact ⟨hid', result, _, Prod.ext hresult rfl, hanswers.scopes⟩

theorem scopes_sent_iff_gallery :
    let scopes := Scopes.ofList [.text "profile", .text "openid", .text "e-mail"]
    Registration.ofJson (.obj (galleryData (.str "openid, profile\t e-mail openid"))) =
        .valid (gallery scopes) ∧
      scopes.names ≠ [] ∧
      ∃ result session' sentScopes, (galleryResolver scopes).run true galleryRequest none
          ⟨Entropy.seeded 2, []⟩ = (.ok (some result), session') ∧
        ("scope", sentScopes) ∈ result.parameters ∧ scopes.ReadsFrom sentScopes := by
  intro scopes
  have hdata : Registration.ofJson
      (.obj (galleryData (.str "openid, profile\t e-mail openid"))) = .valid (gallery scopes) := by
    rfl
  have hne : scopes.names ≠ [] := by decide
  obtain ⟨hid, result, session', hrun, -⟩ := exists_run_gallery scopes
  obtain ⟨sentScopes, hscope, -, -, hreads⟩ := scopes_sent_iff hid rfl hrun hne
  exact ⟨hdata, hne, result, session', sentScopes, hrun, (hscope _).mpr rfl,
    hreads _ _ _ hdata rfl rfl⟩

/-- **A scope may be sent as two.** A list with a scope that holds a space is accepted, and the
provider reads two scopes in what is sent, neither of which is a scope of the registration. -/
theorem scope_sent_as_two :
    let scopes := Scopes.ofList [.text "read write"]
    Registration.ofJson (.obj (galleryData (.arr [.str "read write"]))) = .valid (gallery scopes) ∧
      scopes.names = [↑"read write"] ∧
      ∃ result session', (galleryResolver scopes).run true galleryRequest none
          ⟨Entropy.seeded 2, []⟩ = (.ok (some result), session') ∧
        ("scope", ↑"read write") ∈ result.parameters ∧
        Scopes.namesIn ↑"read write" = [↑"read", ↑"write"] ∧
        ¬ scopes.ReadsFrom ↑"read write" := by
  intro scopes
  obtain ⟨hnames, hread⟩ : scopes.names = [.text "read write"] ∧
      Scopes.namesIn (.text "read write") = [.text "read", .text "write"] := by decide +kernel
  obtain ⟨-, result, session', hrun, hscopes⟩ := exists_run_gallery scopes
  refine ⟨by rfl, hnames, result, session', hrun, ?_, hread, fun h => ?_⟩
  · have hmem := AuthorizationRequest.scope_mem_parameters (r := result) (by simp [hscopes, hnames])
    rwa [hscopes, hnames] at hmem
  · have hfirst : .text "read" ∈ scopes.names := (h.mem_iff _).mp (by simp [hread])
    simp [hnames] at hfirst

end Resolver

end OAuthRedirect
