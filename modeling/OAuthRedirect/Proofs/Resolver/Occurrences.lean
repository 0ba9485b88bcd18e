import OAuthRedirect.Proofs.AuthorizationRequest.Target
import OAuthRedirect.Proofs.Crypto.KeyLength
import OAuthRedirect.Proofs.Pairs
import OAuthRedirect.Proofs.Resolver.ProofKey
import OAuthRedirect.Proofs.Resolver.SentTexts

/-!
# How often a parameter is sent

The parameters of a resolved request have distinct names
(`AuthorizationRequest.Answers.nodup_parameters`). They are sent after the pairs that the query of
the endpoint has already, and those stay, so that a name occurs once more than in the endpoint
and the resolver's value is the last one (`Resolver.occurrences_of_run_eq`). A name that the
endpoint has as well, be it written with escapes, is therefore sent more than once.
-/

namespace OAuthRedirect

/-! ### Pairs of distinct names -/

namespace Uri.Query

variable {pairs own : List (String × String)} {pair : String × String}

/-- A value among pairs of distinct names is the last one of its name, whatever comes before
them. -/
theorem last?_append_of_nodup (hnodup : (pairs.map Prod.fst).Nodup) (hmem : pair ∈ pairs) :
    last? pair.1 (own ++ pairs) = some pair.2 := by
  have hreverse : (pairs.reverse.map Prod.fst).Nodup := by
    rw [List.map_reverse, List.nodup_reverse]
    exact hnodup
  rw [last?, List.reverse_append, List.lookup_append,
    Pairs.lookup_of_mem_of_nodup hreverse (List.mem_reverse.mpr hmem), Option.some_or]

theorem count_append_of_nodup (hnodup : (pairs.map Prod.fst).Nodup) (hmem : pair ∈ pairs) :
    ((own ++ pairs).map Prod.fst).count pair.1 = (own.map Prod.fst).count pair.1 + 1 := by
  rw [List.map_append, List.count_append,
    List.count_eq_one_of_mem hnodup (List.mem_map_of_mem hmem)]

end Uri.Query

/-! ### The names of the parameters -/

namespace AuthorizationRequest

section Names

variable {τ : Type} [LT τ] [Inhabited τ] [DecidableEq τ] [Strings τ]

omit [LT τ] [Strings τ] in
theorem map_fst_nonEmptyParameter_sublist (name : String) (value : Option τ) :
    ((nonEmptyParameter name value).map Prod.fst).Sublist [name] := by
  unfold nonEmptyParameter
  split
  · exact List.nil_sublist _
  · split
    · exact List.nil_sublist _
    · exact List.Sublist.refl _

theorem map_fst_leading_sublist (r : AuthorizationRequest τ) :
    (r.leading.map Prod.fst).Sublist leadingNames := by
  have hscope :
      ((if r.scopes.names.isEmpty then [] else [("scope", Strings.spaced r.scopes.names)]).map
        Prod.fst).Sublist ["scope"] := by
    split
    · exact List.nil_sublist _
    · exact List.Sublist.refl _
  rw [leading, List.map_append, List.map_append]
  exact ((List.Sublist.refl ["response_type", "client_id"]).append hscope).append
    (map_fst_nonEmptyParameter_sublist "state" r.state)

theorem state_mem_parameters {r : AuthorizationRequest τ} {state : τ}
    (hstate : r.state = some state) (hne : state ≠ default) : ("state", state) ∈ r.parameters := by
  have hsent : nonEmptyParameter "state" r.state = [("state", state)] := by
    rw [hstate, nonEmptyParameter, if_neg hne]
  rw [parameters_eq, leading, hsent]
  simp

end Names

/-- What is sent, read as a query: the pairs of the endpoint and the parameters. -/
theorem decode_query_of_widened {r : AuthorizationRequest WideString} {endpoint : Uri}
    {parameters : List (String × String)} (hsplit : Uri.split r.authorizationUri = .ok endpoint)
    (hne : endpoint.authority ≠ "") (htexts : r.parameters = widened parameters) :
    ∃ text sent, r.sentUri = .ok text ∧ Uri.split text = .ok sent ∧
      Uri.Query.decode sent.query = Uri.Query.decode endpoint.query ++ parameters := by
  obtain ⟨text, htext, hsent⟩ := sentUri_of_split hsplit hne htexts
  exact ⟨text, _, htext, hsent, Uri.Query.decode_encode _⟩

namespace Answers

variable {τ : Type} [Inhabited τ] [LT τ] [Strings τ] {result : AuthorizationRequest τ}
  {registration : Registration τ} {callback : τ} {state : String} {pkce : Option Pkce}
  (h : result.Answers registration callback state pkce)

include h

theorem map_fst_trailing_sublist : (result.trailing.map Prod.fst).Sublist keyNames := by
  rw [trailing, h.additionalParameters]
  cases pkce with
  | none => exact List.nil_sublist _
  | some p =>
    obtain ⟨verifier, challenge, method⟩ := p
    cases method with
    | none => exact (List.nil_sublist ["code_challenge_method"]).cons_cons "code_challenge"
    | some m => exact List.Sublist.refl _

/-- **The parameters of a resolved request have distinct names.** -/
theorem nodup_parameters [DecidableEq τ] : (result.parameters.map Prod.fst).Nodup := by
  have hnames : (result.parameters.map Prod.fst).Sublist (standardNames ++ keyNames) := by
    rw [parameters_eq, List.map_append, List.map_append]
    exact ((map_fst_leading_sublist result).append
      (map_fst_nonEmptyParameter_sublist "redirect_uri" result.redirectUri)).append
        h.map_fst_trailing_sublist
  have hdistinct : (standardNames ++ keyNames).Nodup := by decide
  exact hdistinct.sublist hnames

end Answers

/-- Texts that are sent have distinct names, too. -/
theorem Answers.nodup_of_widened {result : AuthorizationRequest WideString}
    {registration : Registration WideString} {callback : WideString} {state : String}
    {pkce : Option Pkce} (h : result.Answers registration callback state pkce)
    {parameters : List (String × String)} (htexts : result.parameters = widened parameters) :
    (parameters.map Prod.fst).Nodup := by
  rw [← map_fst_widened, ← htexts]
  exact h.nodup_parameters

end AuthorizationRequest

namespace Resolver

variable {resolver : Resolver WideString} {sha256 : Bool} {request : Request}
  {explicit : Option String} {session session' : Session}
  {result : AuthorizationRequest WideString} {endpoint : Uri}

/-- **How often a parameter is sent.** Let a request be resolved for an endpoint that is a
reference with an authority. The names of its parameters are distinct, and they are sent when they
are texts. Each of the parameters is then among the pairs that the query of the redirect reads as,
once more than its name is among those of the endpoint's own query, and its value is the last one of
its name. So it is there once, and its value the only one, exactly when the endpoint does not have
that name. -/
theorem occurrences_of_run_eq
    (hrun : resolver.run sha256 request explicit session = (.ok (some result), session'))
    (hsplit : Uri.split result.authorizationUri = .ok endpoint) (hne : endpoint.authority ≠ "") :
    (result.parameters.map Prod.fst).Nodup ∧
    (∀ text, result.sentUri = .ok text →
      ∃ parameters, result.parameters = AuthorizationRequest.widened parameters) ∧
    ∀ parameters, result.parameters = AuthorizationRequest.widened parameters →
      ∃ text sent, result.sentUri = .ok text ∧ Uri.split text = .ok sent ∧
        ∀ parameter ∈ parameters,
          let own := Uri.Query.decode endpoint.query
          let pairs := Uri.Query.decode sent.query
          (pairs.map Prod.fst).count parameter.1 = (own.map Prod.fst).count parameter.1 + 1 ∧
          Uri.Query.last? parameter.1 pairs = some parameter.2 ∧
          ((pairs.map Prod.fst).count parameter.1 = 1 ↔ parameter.1 ∉ own.map Prod.fst) ∧
          (parameter.1 ∉ own.map Prod.fst → pairs.lookup parameter.1 = some parameter.2) := by
  obtain ⟨_, _, _, -, -, hanswers⟩ := exists_answers_of_run_eq hrun
  refine ⟨hanswers.nodup_parameters, fun text htext => ?_, fun parameters htexts => ?_⟩
  · obtain ⟨_, parameters, -, hparameters, -⟩ := AuthorizationRequest.sentUri_eq_ok_iff.mp htext
    exact ⟨parameters, hparameters⟩
  have hnodup := hanswers.nodup_of_widened htexts
  obtain ⟨text, sent, htext, hsent, hquery⟩ :=
    AuthorizationRequest.decode_query_of_widened hsplit hne htexts
  refine ⟨text, sent, htext, hsent, fun parameter hmem => ?_⟩
  intro own pairs
  have hpairs : pairs = own ++ parameters := hquery
  have hcount : (pairs.map Prod.fst).count parameter.1 =
      (own.map Prod.fst).count parameter.1 + 1 := by
    rw [hpairs]
    exact Uri.Query.count_append_of_nodup hnodup hmem
  refine ⟨hcount, ?_, ?_, fun hown => ?_⟩
  · rw [hpairs]
    exact Uri.Query.last?_append_of_nodup hnodup hmem
  · rw [hcount, Nat.add_eq_right, List.count_eq_zero]
  · -- nothing of that name comes before
    have hnone : own.lookup parameter.1 = none := by
      refine List.lookup_eq_none_iff.mpr fun other hother => ?_
      have hother : other.1 ≠ parameter.1 := fun heq => hown (heq ▸ List.mem_map_of_mem hother)
      simpa using hother.symm
    rw [hpairs, List.lookup_append, hnone, Option.none_or]
    exact Pairs.lookup_of_mem_of_nodup hnodup hmem

/-- A client whose endpoint has a state of its own, written with an escape. -/
private def tenant : Registration WideString where
  id := "tenant"
  clientId := "tenant-1"
  clientSecret := some "secret"
  authentication := .secretBasic
  grant := .authorizationCode
  authorizationUri := some ↑"https://provider.example/authorize?st%61te=fixed"
  redirectTemplate := some ↑Template.standard
  scopes := .empty
  clientName := none
  id_ne_empty := by decide
  clientId_ne_empty := by decide
  endpoints _ _ := by decide

private def tenantResolver : Resolver WideString :=
  ⟨fun _ => .ok (some tenant), ⟨defaultBase⟩, .random .forStates, .random .forVerifiers⟩

private def tenantRequest : Request where
  method := "GET"
  path := some "/oauth2/authorization/tenant"
  rootPath := none
  host := some "app.example"
  server := none
  scheme := "https"
  query := []

private def tenantEndpoint : Uri :=
  ⟨"https", "provider.example", "/authorize", "st%61te=fixed", ""⟩

private theorem decode_tenant :
    Uri.split "https://provider.example/authorize?st%61te=fixed" = .ok tenantEndpoint ∧
      Uri.Query.decode tenantEndpoint.query = [("state", "fixed")] := by
  decide +kernel

/-- The request is resolved, with a state that was drawn, and its parameters are texts. -/
private theorem exists_run_tenant :
    ∃ result session' state parameters,
      tenantResolver.run true tenantRequest none ⟨Entropy.seeded 0, []⟩ =
        (.ok (some result), session') ∧
      Uri.split result.authorizationUri = .ok tenantEndpoint ∧
      result.parameters = AuthorizationRequest.widened parameters ∧
      ("state", state) ∈ parameters ∧ state ≠ "fixed" ∧ ("client_id", "tenant-1") ∈ parameters := by
  obtain ⟨hid, hbase, hcallback⟩ : tenantResolver.requestedId tenantRequest none = some "tenant" ∧
      tenantRequest.baseUrl = .ok "https://app.example" ∧
      callback tenant "https://app.example" (requestedAction tenantRequest none) =
        .ok ↑"https://app.example/login/oauth2/code/tenant" := by
    decide +kernel
  have hendpoint : sentEndpoint tenant =
      .valid ⟨"https://provider.example/authorize?st%61te=fixed", by decide⟩ := rfl
  obtain ⟨result, hresult, hanswers⟩ := outcome_answered true
    ⟨Entropy.seeded 0, []⟩ hid rfl rfl hbase hcallback hendpoint
  obtain ⟨parameters, hparameters⟩ :=
    hanswers.exists_widened_iff.mpr ⟨fun _ hname => absurd hname List.not_mem_nil, _, rfl⟩
  have hstate := AuthorizationRequest.state_mem_parameters hanswers.state fun hempty =>
    KeyGenerator.generate_ne (by decide) (WideString.text.inj hempty)
  have hclient : ("client_id", Strings.ofText result.clientId) ∈ result.parameters :=
    List.mem_cons_of_mem _ List.mem_cons_self
  rw [hparameters] at hstate hclient
  rw [hanswers.clientId] at hclient
  refine ⟨result, _, _, parameters, Prod.ext hresult rfl, ?_, hparameters,
    AuthorizationRequest.mem_widened_iff.mp hstate, KeyGenerator.generate_ne (by decide),
    AuthorizationRequest.mem_widened_iff.mp hclient⟩
  rw [← WideString.text.inj (Option.some_inj.mp hanswers.wideAuthorizationUri)]
  exact decode_tenant.1

theorem occurrences_of_run_eq_tenant :
    ∃ result session' state,
      tenantResolver.run true tenantRequest none ⟨Entropy.seeded 0, []⟩ =
        (.ok (some result), session') ∧
      Uri.split result.authorizationUri = .ok tenantEndpoint ∧ tenantEndpoint.authority ≠ "" ∧
      ∃ parameters, result.parameters = AuthorizationRequest.widened parameters ∧
      ∃ text sent, result.sentUri = .ok text ∧ Uri.split text = .ok sent ∧
        ("state", state) ∈ parameters ∧
        ((Uri.Query.decode sent.query).map Prod.fst).count "state" = 2 ∧
        Uri.Query.last? "state" (Uri.Query.decode sent.query) = some state ∧
        ((Uri.Query.decode sent.query).map Prod.fst).count "client_id" = 1 := by
  obtain ⟨result, session', state, parameters, hrun, hsplit, htexts, hstate, -, hclient⟩ :=
    exists_run_tenant
  have hne : tenantEndpoint.authority ≠ "" := by decide
  obtain ⟨-, -, hsent⟩ := occurrences_of_run_eq hrun hsplit hne
  obtain ⟨text, sent, htext, hsent, hall⟩ := hsent parameters htexts
  obtain ⟨hcount, hlast, -, -⟩ := hall _ hstate
  obtain ⟨hcountClient, -, -, -⟩ := hall _ hclient
  rw [decode_tenant.2] at hcount hcountClient
  exact ⟨result, session', state, hrun, hsplit, hne, parameters, htexts, text, sent, htext, hsent,
    hstate, hcount, hlast, hcountClient⟩

/-- **A parameter may be sent twice**, and the first value is then the endpoint's. -/
theorem state_sent_twice :
    ∃ result session' state parameters text sent,
      tenantResolver.run true tenantRequest none ⟨Entropy.seeded 0, []⟩ =
        (.ok (some result), session') ∧
      Uri.split result.authorizationUri = .ok tenantEndpoint ∧
      tenantEndpoint.authority ≠ "" ∧
      result.parameters = AuthorizationRequest.widened parameters ∧
      result.sentUri = .ok text ∧ Uri.split text = .ok sent ∧
      ("state", state) ∈ parameters ∧ state ≠ "fixed" ∧
      ((Uri.Query.decode sent.query).map Prod.fst).count "state" = 2 ∧
      (Uri.Query.decode sent.query).lookup "state" = some "fixed" := by
  obtain ⟨result, session', state, parameters, hrun, hsplit, htexts, hstate, hfixed, -⟩ :=
    exists_run_tenant
  have hne : tenantEndpoint.authority ≠ "" := by decide
  obtain ⟨_, _, _, -, -, hanswers⟩ := exists_answers_of_run_eq hrun
  have hnodup := hanswers.nodup_of_widened htexts
  obtain ⟨text, sent, htext, hsent, hquery⟩ :=
    AuthorizationRequest.decode_query_of_widened hsplit hne htexts
  rw [decode_tenant.2] at hquery
  refine ⟨result, session', state, parameters, text, sent, hrun, hsplit, hne, htexts, htext, hsent,
    hstate, hfixed, ?_, ?_⟩
  · rw [hquery]
    exact Uri.Query.count_append_of_nodup hnodup hstate
  · rw [hquery]
    rfl

end Resolver

end OAuthRedirect
