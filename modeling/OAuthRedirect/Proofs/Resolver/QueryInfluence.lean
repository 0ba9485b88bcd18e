import OAuthRedirect.Proofs.AuthorizationRequest.Target
import OAuthRedirect.Proofs.Http.Form
import OAuthRedirect.Proofs.Resolver.ProofKey
import OAuthRedirect.Proofs.Resolver.SentTexts
import OAuthRedirect.Proofs.Resolver.WideOutcome

/-!
# What a query can change

The query of a request decides about one thing, the action that the template of the redirect
URI is filled with. Whatever pairs it is written from, the reference that the user is redirected
to has the same parts, and its query the same entries in the same places, but for the value of
`redirect_uri`, which is the expanded template character for character
(`Resolver.query_changes_redirectUri_only`).
-/

namespace OAuthRedirect

namespace Resolver

/-! ### What the log and the query leave alone -/

section Parts

variable {τ : Type} [Inhabited τ] [LT τ]

/-- The proof key depends on the random bytes, not on what was logged before. -/
theorem keyed_of_entropy (resolver : Resolver τ) (sha256 : Bool) (registration : Registration τ)
    (entropy : Entropy) (log : List Log.Event) :
    (resolver.keyed sha256 registration ⟨entropy, log⟩).1 =
        (resolver.keyed sha256 registration ⟨entropy, []⟩).1 ∧
      (resolver.keyed sha256 registration ⟨entropy, log⟩).2.entropy =
        (resolver.keyed sha256 registration ⟨entropy, []⟩).2.entropy := by
  rw [keyed, keyed]
  split
  · exact ⟨rfl, rfl⟩
  · exact ⟨rfl, rfl⟩

theorem requestedId_withForm {resolver : Resolver τ} (request : Request) (explicit : Option String)
    (plus : Bool) (pairs : List (String × String)) :
    resolver.requestedId (request.withForm plus pairs) explicit =
      resolver.requestedId request explicit :=
  rfl

theorem requestedAction_withForm (request : Request) (explicit : Option String) (plus : Bool)
    (pairs : List (String × String)) :
    requestedAction (request.withForm plus pairs) explicit =
      (Uri.Query.last? "action" pairs).getD (defaultAction explicit) := by
  rw [requestedAction, Request.action?_withForm]

end Parts

/-! ### The request that is built -/

section Built

variable (resolver : Resolver WideString) (sha256 : Bool) (registration : Registration WideString)
  (grant : RedirectGrant) (endpoint : { s : String // s ≠ "" }) (entropy : Entropy)

/-- The request for a registration with a redirect URI. But for that, it is up to the random
bytes alone. -/
def built (uri : WideString) : AuthorizationRequest WideString :=
  build registration grant endpoint (resolver.keyed sha256 registration ⟨entropy, []⟩).1 uri
    (resolver.stateKeys.next (resolver.keyed sha256 registration ⟨entropy, []⟩).2.entropy).1

/-- The parameters that are sent, with the redirect URI in its place among the others. -/
theorem parameters_built {uri : WideString} (huri : uri ≠ default) :
    (built resolver sha256 registration grant endpoint entropy uri).parameters =
      (built resolver sha256 registration grant endpoint entropy default).leading ++
        ("redirect_uri", uri) ::
          (built resolver sha256 registration grant endpoint entropy default).trailing := by
  have hsent : AuthorizationRequest.nonEmptyParameter "redirect_uri" (some uri) =
      [("redirect_uri", uri)] := by
    rw [AuthorizationRequest.nonEmptyParameter, if_neg huri]
  rw [AuthorizationRequest.parameters_eq]
  change _ ++ AuthorizationRequest.nonEmptyParameter "redirect_uri" (some uri) ++ _ = _
  rw [hsent, List.append_assoc]
  rfl

variable {registration grant endpoint} (hgrant : registration.grant.redirect? = some grant)
  (hendpoint : sentEndpoint registration = .valid endpoint)

include hgrant hendpoint

/-- The other parameters are texts with other names, when the scopes are texts. -/
theorem exists_widened_built
    (hscopes : ∀ name ∈ registration.scopes.names, ∃ s : String, name = ↑s) :
    ∃ before after, (∀ entry ∈ before ++ after, entry.1 ≠ "redirect_uri") ∧
      (built resolver sha256 registration grant endpoint entropy default).leading =
        AuthorizationRequest.widened before ∧
      (built resolver sha256 registration grant endpoint entropy default).trailing =
        AuthorizationRequest.widened after := by
  have hleading : ∀ name ∈ AuthorizationRequest.leadingNames, name ≠ "redirect_uri" := by
    decide
  have hkey : ∀ name ∈ AuthorizationRequest.Answers.keyNames, name ≠ "redirect_uri" := by
    decide
  have hanswers := answers_build hgrant hendpoint
    (resolver.keyed sha256 registration ⟨entropy, []⟩).1 default
    (resolver.stateKeys.next (resolver.keyed sha256 registration ⟨entropy, []⟩).2.entropy).1
  -- without a redirect URI the parameters are those before it and those behind it
  have htexts := AuthorizationRequest.any_isBroken_eq_false_iff.mpr
    (hanswers.exists_widened_iff.mpr ⟨hscopes, "", rfl⟩)
  rw [AuthorizationRequest.parameters_eq, List.any_append, List.any_append, Bool.or_eq_false_iff,
    Bool.or_eq_false_iff] at htexts
  obtain ⟨before, hbefore⟩ := AuthorizationRequest.any_isBroken_eq_false_iff.mp htexts.1.1
  obtain ⟨after, hafter⟩ := AuthorizationRequest.any_isBroken_eq_false_iff.mp htexts.2
  refine ⟨before, after, fun entry hmem => ?_, hbefore, hafter⟩
  rcases List.mem_append.mp hmem with hmem | hmem
  · have hsent := AuthorizationRequest.mem_widened_iff.mpr hmem
    rw [← hbefore] at hsent
    have hname := AuthorizationRequest.fst_of_mem_leading hsent
    exact hleading _ hname
  · have hsent := AuthorizationRequest.mem_widened_iff.mpr hmem
    rw [← hafter] at hsent
    have hname := hanswers.mem_keyNames (AuthorizationRequest.fst_of_mem_trailing hsent)
    exact hkey _ hname

variable {resolver} {id : String} {request : Request} {explicit : Option String}

/-- A request with a written query is resolved to that request, whatever was logged before. -/
theorem exists_run_withForm (hid : resolver.requestedId request explicit = some id)
    (hfind : resolver.find id = .ok (some registration)) {plus : Bool}
    {pairs : List (String × String)} {baseUrl : String} {uri : WideString}
    (hbase : (request.withForm plus pairs).baseUrl = .ok baseUrl)
    (hcallback : callback registration baseUrl
      ((Uri.Query.last? "action" pairs).getD (defaultAction explicit)) = .ok uri)
    (log : List Log.Event) :
    ∃ session', resolver.run sha256 (request.withForm plus pairs) explicit ⟨entropy, log⟩ =
      (.ok (some (built resolver sha256 registration grant endpoint entropy uri)), session') := by
  obtain ⟨hkey, hentropy⟩ := keyed_of_entropy resolver sha256 registration entropy log
  have hid' : resolver.requestedId (request.withForm plus pairs) explicit = some id :=
    (requestedId_withForm request explicit plus pairs).trans hid
  have haction : callback registration baseUrl
      (requestedAction (request.withForm plus pairs) explicit) = .ok uri := by
    rw [requestedAction_withForm, hcallback]
  have hresult : built resolver sha256 registration grant endpoint entropy uri =
      build registration grant endpoint (resolver.keyed sha256 registration ⟨entropy, log⟩).1 uri
        (resolver.stateKeys.next
          (resolver.keyed sha256 registration ⟨entropy, log⟩).2.entropy).1 := by
    rw [hkey, hentropy]
    rfl
  exact ⟨_, (Course.resolved hid' hfind hgrant hbase haction hendpoint hresult).run_eq⟩

end Built

/-- **A query changes the redirect URI only.** Let a request be for a registration whose endpoint
is a reference with an authority, and whose scopes are texts, so that it can be sent. There are
entries, none of them named `redirect_uri`, that go into the query of the redirect whatever the
query of the request is. For each query that a sender writes, from any pairs of names and values,
and that lets the template expand to a non-empty text, the request is resolved; the redirect has the
parts of the endpoint, and its query reads as the pairs of the endpoint, those entries, and between
them the redirect URI, which is the template expanded with the last action of the query, or with the
default action. The base URL that the template is expanded with is the same for all queries of an
addressable request. -/
theorem query_changes_redirectUri_only {resolver : Resolver WideString}
    {registration : Registration WideString} {id uri : String} {grant : RedirectGrant}
    {endpoint : Uri} {request : Request} {explicit : Option String}
    (hid : resolver.requestedId request explicit = some id)
    (hfind : resolver.find id = .ok (some registration))
    (hgrant : registration.grant.redirect? = some grant)
    (huri : registration.authorizationUri = some ↑uri) (hsplit : Uri.split uri = .ok endpoint)
    (hauthority : endpoint.authority ≠ "")
    (hscopes : ∀ name ∈ registration.scopes.names, ∃ s : String, name = ↑s) (sha256 : Bool)
    (entropy : Entropy) :
    (request.Addressable → ∃ baseUrl, ∀ (plus : Bool) (pairs : List (String × String)),
      (request.withForm plus pairs).baseUrl = .ok baseUrl) ∧
    ∃ before after : List (String × String),
      (∀ entry ∈ before ++ after, entry.1 ≠ "redirect_uri") ∧
      ∀ (log : List Log.Event) (plus : Bool) (pairs : List (String × String))
        (baseUrl callback : String),
        (request.withForm plus pairs).baseUrl = .ok baseUrl →
        Template.expandWide registration.callbackTemplate
            (templateVariables baseUrl
              ((Uri.Query.last? "action" pairs).getD (defaultAction explicit)) registration.id) =
          .ok ↑callback →
        callback ≠ "" →
        ∃ result session' text sent,
          resolver.run sha256 (request.withForm plus pairs) explicit ⟨entropy, log⟩ =
            (.ok (some result), session') ∧
          result.sentUri = .ok text ∧ Uri.split text = .ok sent ∧
          sent.scheme = endpoint.scheme ∧ sent.authority = endpoint.authority ∧
          sent.path = endpoint.path ∧ sent.fragment = endpoint.fragment ∧
          Uri.Query.decode sent.query = Uri.Query.decode endpoint.query ++ before ++
            ("redirect_uri", callback) :: after := by
  obtain ⟨⟨s, hs⟩, hendpoint⟩ := exists_wideEndpoint hgrant huri
  obtain ⟨before, after, hnames, hbefore, hafter⟩ :=
    exists_widened_built resolver sha256 entropy hgrant hendpoint hscopes
  refine ⟨Request.Addressable.exists_baseUrl_withForm, before, after, hnames, ?_⟩
  intro log plus pairs baseUrl callback hbase hcallback hne
  obtain ⟨session', hrun⟩ :=
    exists_run_withForm sha256 entropy hgrant hendpoint hid hfind hbase hcallback log
  have hne : (↑callback : WideString) ≠ default := fun h => hne (WideString.text.inj h)
  have hparameters :
      (built resolver sha256 registration grant ⟨s, hs⟩ entropy callback).parameters =
        AuthorizationRequest.widened (before ++ ("redirect_uri", callback) :: after) := by
    rw [parameters_built _ _ _ _ _ _ hne, hbefore, hafter]
    simp [AuthorizationRequest.widened]
  have hsent :
      (built resolver sha256 registration grant ⟨s, hs⟩ entropy callback).authorizationUri =
        uri := by
    have hvalue := wideEndpoint_eq_valid_iff.mp hendpoint
    rw [Registration.authorizationEndpoint, huri, Option.getD_some] at hvalue
    exact (WideString.text.inj hvalue).symm
  rw [← hsent] at hsplit
  obtain ⟨text, htext, hread⟩ := AuthorizationRequest.sentUri_of_split hsplit hauthority hparameters
  refine ⟨_, session', text, _, hrun, htext, hread, endpoint.withParameters_scheme _,
    endpoint.withParameters_authority _, endpoint.withParameters_path _,
    endpoint.withParameters_fragment _, ?_⟩
  rw [endpoint.withParameters_query, Uri.Query.decode_encode, List.append_assoc]

/-- A confidential client with a name that is no text. -/
private def shop : Registration WideString where
  id := "shop"
  clientId := "s-1"
  clientSecret := some "secret"
  authentication := .secretBasic
  grant := .authorizationCode
  authorizationUri := some ↑"https://provider.example/authorize?tenant=1#top"
  redirectTemplate := some ↑"\x7bbaseUrl\x7d/\x7baction\x7d/done"
  scopes := .ofList [.text "read"]
  clientName := some (.ofCodes [0xD800])
  id_ne_empty := by decide
  clientId_ne_empty := by decide
  endpoints _ _ := by decide

private def shopResolver : Resolver WideString :=
  ⟨fun _ => .ok (some shop), ⟨defaultBase⟩, .random .forStates, .random .forVerifiers⟩

private def shopRequest : Request where
  method := "GET"
  path := some "/"
  rootPath := none
  host := some "app.example"
  server := none
  scheme := "https"
  query := []

/-- An action that looks like the end of the redirect URI and more parameters. -/
private def hostile : List (String × String) :=
  [("action", "ignored"), ("action", "x?client_id=evil&redirect_uri=\x7bbaseUrl\x7d#")]

theorem query_changes_redirectUri_only_hostile :
    Uri.split "https://provider.example/authorize?tenant=1#top" =
        .ok ⟨"https", "provider.example", "/authorize", "tenant=1", "top"⟩ ∧
      ∃ before after : List (String × String),
        ∃ result session' text sent,
          shopResolver.run true (shopRequest.withForm true hostile) (some "shop")
              ⟨Entropy.seeded 1, []⟩ = (.ok (some result), session') ∧
            result.sentUri = .ok text ∧ Uri.split text = .ok sent ∧
            sent.authority = "provider.example" ∧ sent.fragment = "top" ∧
            Uri.Query.decode sent.query = [("tenant", "1")] ++ before ++ ("redirect_uri",
              "https://app.example/x?client_id=evil&redirect_uri=\x7bbaseUrl\x7d#/done") ::
                after := by
  obtain ⟨hsplit, hbase, hown⟩ :
      Uri.split "https://provider.example/authorize?tenant=1#top" =
          .ok ⟨"https", "provider.example", "/authorize", "tenant=1", "top"⟩ ∧
        (shopRequest.withForm true hostile).baseUrl = .ok "https://app.example" ∧
        Uri.Query.decode "tenant=1" = [("tenant", "1")] := by
    decide +kernel
  have hcallback : Template.expandWide shop.callbackTemplate
      (templateVariables "https://app.example"
        ((Uri.Query.last? "action" hostile).getD (defaultAction (some "shop"))) shop.id) =
      .ok ↑"https://app.example/x?client_id=evil&redirect_uri=\x7bbaseUrl\x7d#/done" := by
    decide +kernel
  have hscopes : ∀ name ∈ shop.scopes.names, ∃ s : String, name = ↑s := by
    intro name hname
    exact ⟨"read", List.mem_singleton.mp hname⟩
  have hid : shopResolver.requestedId shopRequest (some "shop") = some "shop" := rfl
  obtain ⟨-, before, after, -, hruns⟩ :=
    query_changes_redirectUri_only hid rfl rfl rfl hsplit (by decide) hscopes true
      (Entropy.seeded 1)
  obtain ⟨result, session', text, sent, hrun, htext, hsent, -, hauthority, -, hfragment, hquery⟩ :=
    hruns [] true hostile _ _ hbase hcallback (by decide)
  rw [hown] at hquery
  exact ⟨hsplit, before, after, result, session', text, sent, hrun, htext, hsent, hauthority,
    hfragment, hquery⟩

end Resolver

end OAuthRedirect
