import OAuthRedirect.AuthorizationRequest
import OAuthRedirect.Proofs.Uri.Reassembly
import OAuthRedirect.Uri.Query.RoundTrip

/-!
# Where an authorization request leads

The reference that a user is redirected to is the endpoint of the request with a longer query.
When the endpoint has an authority, its other parts stay as they are, and the query is read back
as the pairs of the endpoint's own query followed by the parameters of the request
(`uri_decodes`). No name and no value has to be free of reserved characters for that.

A request of wide strings is sent when its endpoint is a reference and its parameters are texts
(`sentUri_eq_ok_iff`).
-/

namespace OAuthRedirect

/-! ### Written queries in references -/

namespace Uri

/-- A query that was written may stand in a canonical reference. -/
theorem Canonical.withQuery {u : Uri} (h : u.Canonical) (pairs : List (String × String)) :
    ({ u with query := Query.encode pairs } : Uri).Canonical where
  scheme := h.scheme
  authority_ne_empty := h.authority_ne_empty
  authority := h.authority
  sound := h.sound
  rooted := h.rooted
  path := h.path
  query c hc := by
    rcases Query.cases_of_mem_encode hc with rfl | rfl | rfl | hc
    · exact ⟨by decide, rfl⟩
    · exact ⟨by decide, rfl⟩
    · exact ⟨by decide, rfl⟩
    · refine ⟨?_, isDropped_of_class Percent.isUnreserved hc rfl rfl rfl⟩
      rintro rfl
      contradiction
  fragment := h.fragment

end Uri

namespace AuthorizationRequest

section Redirects

variable {r : AuthorizationRequest}

theorem uri_of_split_ok {endpoint : Uri} (h : Uri.split r.authorizationUri = .ok endpoint) :
    r.uri = .ok (Uri.text { endpoint with
      query := Uri.Query.encode (Uri.Query.decode endpoint.query ++ r.parameters) }) := by
  rw [uri, target, h]
  rfl

end Redirects

/-! ### Requests of wide strings -/

/-- Parameters that are texts, as wide strings. -/
def widened (parameters : List (String × String)) : List (String × WideString) :=
  parameters.map fun parameter => (parameter.1, ↑parameter.2)

theorem map_fst_widened (parameters : List (String × String)) :
    (widened parameters).map Prod.fst = parameters.map Prod.fst := by
  rw [widened, List.map_map]
  rfl

theorem mem_widened_iff {parameters : List (String × String)} {name value : String} :
    (name, (↑value : WideString)) ∈ widened parameters ↔ (name, value) ∈ parameters := by
  simp [widened]

theorem nonEmptyParameter_widened (name : String) (value : Option String) :
    nonEmptyParameter name (value.map WideString.text) =
      widened (nonEmptyParameter name value) := by
  cases value with
  | none => rfl
  | some value =>
    by_cases hempty : value = default
    · rw [hempty]
      rfl
    · have hne : (↑value : WideString) ≠ default := fun h => hempty (WideString.text.inj h)
      rw [Option.map_some, nonEmptyParameter, nonEmptyParameter, if_neg hne, if_neg hempty]
      rfl

/-- The parameters of a request of texts are texts, when its additional ones are. -/
theorem parameters_widen {r : AuthorizationRequest}
    (h : ∀ member ∈ r.additionalParameters, member.2.shown = ↑member.2.display) :
    r.widen.parameters = widened r.parameters := by
  have hscope : (if r.widen.scopes.names.isEmpty then []
        else [("scope", Strings.spaced r.widen.scopes.names)]) =
      widened (if r.scopes.names.isEmpty then []
        else [("scope", Strings.spaced r.scopes.names)]) := by
    have hempty : r.widen.scopes.names.isEmpty = r.scopes.names.isEmpty := List.isEmpty_map
    have hspaced : Strings.spaced r.widen.scopes.names =
        (↑(Strings.spaced r.scopes.names : String) : WideString) :=
      WideString.join_text " " r.scopes.names
    rw [hempty, hspaced]
    split <;> rfl
  have hstate : nonEmptyParameter "state" r.widen.state =
      widened (nonEmptyParameter "state" r.state) := nonEmptyParameter_widened _ _
  have hredirectUri : nonEmptyParameter "redirect_uri" r.widen.redirectUri =
      widened (nonEmptyParameter "redirect_uri" r.redirectUri) := nonEmptyParameter_widened _ _
  have hadditional :
      (r.widen.additionalParameters.map fun member => (member.1, Strings.shown member.2)) =
        widened (r.additionalParameters.map fun member => (member.1, Strings.shown member.2)) := by
    rw [widened, List.map_map]
    exact List.map_congr_left fun member hmember => Prod.ext rfl (h member hmember)
  rw [parameters, parameters, hscope, hstate, hredirectUri, hadditional]
  simp only [widened, List.map_append]
  rfl

theorem textParameters_eq_ok_iff {parameters : List (String × WideString)}
    {texts : List (String × String)} :
    textParameters parameters = .ok texts ↔ parameters = widened texts := by
  induction parameters generalizing texts with
  | nil => cases texts <;> simp [textParameters, widened]
  | cons parameter rest ih =>
    obtain ⟨name, value⟩ := parameter
    cases value with
    | broken codes h =>
      have hbroken : textParameters ((name, .broken codes h) :: rest) =
          .error (WideString.firstSurrogates codes) := rfl
      cases texts <;> simp [hbroken, widened]
    | text s =>
      have hrest : textParameters ((name, .text s) :: rest) =
          (textParameters rest).map ((name, s) :: ·) := by
        rw [textParameters]
        cases textParameters rest <;> rfl
      rw [hrest]
      cases texts with
      | nil => cases textParameters rest <;> simp [widened, Except.map]
      | cons first others =>
        have hcons : (name, WideString.text s) :: rest = widened (first :: others) ↔
            (name, s) = first ∧ rest = widened others := by
          simp [widened, Prod.ext_iff]
        rw [hcons, ← ih]
        cases textParameters rest <;> simp [Except.map]

/-- **A request of texts is sent as a text**, when its additional parameters are texts. -/
theorem sentUri_widen {r : AuthorizationRequest}
    (h : ∀ member ∈ r.additionalParameters, member.2.shown = ↑member.2.display) :
    r.widen.sentUri = r.uri.mapError .endpoint := by
  have hendpoint : r.widen.authorizationUri = r.authorizationUri := rfl
  rw [sentUri, hendpoint, uri, target, parameters_widen h, textParameters_eq_ok_iff.mpr rfl]
  cases Uri.split r.authorizationUri <;> rfl

/-- **What is sent.** A request is sent when its endpoint is a reference and all its parameters are
texts, and then to the endpoint with these texts. -/
theorem sentUri_eq_ok_iff {r : AuthorizationRequest WideString} {uri : String} :
    r.sentUri = .ok uri ↔
      ∃ endpoint parameters, Uri.split r.authorizationUri = .ok endpoint ∧
        r.parameters = widened parameters ∧ uri = (endpoint.withParameters parameters).text := by
  simp only [← textParameters_eq_ok_iff]
  rw [sentUri]
  cases Uri.split r.authorizationUri with
  | error e => simp [Except.mapError, bind, Except.bind]
  | ok endpoint =>
    cases textParameters r.parameters with
    | error e => simp [Except.mapError, bind, Except.bind]
    | ok parameters => simp [Except.mapError, bind, Except.bind, pure, Except.pure, eq_comm]

/-- Texts that are sent to an endpoint with an authority: the reference is the endpoint but for
the query, and its text is split into it again. -/
theorem sentUri_of_split {r : AuthorizationRequest WideString} {endpoint : Uri}
    {parameters : List (String × String)} (hsplit : Uri.split r.authorizationUri = .ok endpoint)
    (hne : endpoint.authority ≠ "") (htexts : r.parameters = widened parameters) :
    ∃ text, r.sentUri = .ok text ∧ Uri.split text = .ok (endpoint.withParameters parameters) :=
  ⟨_, sentUri_eq_ok_iff.mpr ⟨endpoint, parameters, hsplit, htexts, rfl⟩,
    Uri.split_text ((Uri.canonical_of_split hsplit hne).withQuery _)⟩

/-- The reference of a request whose endpoint has an authority: it is the endpoint but for the
query, and its text is split into it again. -/
theorem uri_of_split {r : AuthorizationRequest} {endpoint : Uri}
    (hsplit : Uri.split r.authorizationUri = .ok endpoint) (hne : endpoint.authority ≠ "") :
    ∃ text, r.uri = .ok text ∧
      Uri.split text = .ok { endpoint with
        query := Uri.Query.encode (Uri.Query.decode endpoint.query ++ r.parameters) } :=
  ⟨_, uri_of_split_ok hsplit, Uri.split_text ((Uri.canonical_of_split hsplit hne).withQuery _)⟩

theorem nonEmptyParameter_eq (name : String) (value : Option String) :
    nonEmptyParameter name value =
      ((value.filter (· != "")).toList.map fun value => (name, value)) := by
  cases value with
  | none => rfl
  | some value =>
    by_cases hempty : value = ""
    · simp [nonEmptyParameter, Option.filter, hempty, show (default : String) = "" from rfl]
    · simp [nonEmptyParameter, Option.filter, hempty, show (default : String) = "" from rfl]

/-- **The redirect decodes to what was put in.** When the endpoint of a request is a reference
with an authority, the text that the user is redirected to is a reference of the same scheme,
authority, path and fragment. It is the one that is sent, as long as the additional values are
texts. The pairs of its query are those of the endpoint's query, and after them the response type,
the client, the scopes in increasing order with single spaces between them, the state and the
redirect URI, the last three only where there is something to send, and then the additional
parameters in their order, each with its value as text. -/
theorem uri_decodes {r : AuthorizationRequest} {endpoint : Uri}
    (hsplit : Uri.split r.authorizationUri = .ok endpoint) (hne : endpoint.authority ≠ "") :
    ∃ text sent, r.uri = .ok text ∧
      ((∀ member ∈ r.additionalParameters, member.2.shown = ↑member.2.display) →
        r.widen.sentUri = .ok text) ∧
      Uri.split text = .ok sent ∧
      sent.scheme = endpoint.scheme ∧ sent.authority = endpoint.authority ∧
      sent.path = endpoint.path ∧ sent.fragment = endpoint.fragment ∧
      Uri.Query.decode sent.query = Uri.Query.decode endpoint.query ++
        [("response_type", r.responseType.name), ("client_id", r.clientId)] ++
        (if r.scopes.names = [] then []
          else [("scope", " ".intercalate r.scopes.names)]) ++
        ((r.state.filter (· != "")).toList.map fun state => ("state", state)) ++
        ((r.redirectUri.filter (· != "")).toList.map fun uri => ("redirect_uri", uri)) ++
        r.additionalParameters.map fun member => (member.1, member.2.display) := by
  obtain ⟨text, htext, hsent⟩ := uri_of_split hsplit hne
  refine ⟨text, _, htext, fun htexts => ?_, hsent, rfl, rfl, rfl, rfl, ?_⟩
  · rw [sentUri_widen htexts, htext]
    rfl
  rw [Uri.Query.decode_encode, parameters, nonEmptyParameter_eq, nonEmptyParameter_eq]
  simp only [Strings.ofText_string, Strings.spaced_string, Strings.shown_string,
    List.isEmpty_iff, List.append_assoc]

/-- A request with reserved characters wherever they may stand. -/
private def reserved : AuthorizationRequest where
  authorizationUri := "HTTPS://u@[::1]:8443/a//b?x=%zz&=&a+b#top"
  grant := .implicit
  clientId := "a&b=c"
  redirectUri := some "https://app.example/?a=1#b"
  scopes := .ofList ["b", "a"]
  state := some ""
  additionalParameters := [("", .str ""), ("+%", .bool true)]
  attributes := []
  authorizationUri_ne_empty := by decide
  clientId_ne_empty := by decide

theorem uri_decodes_reserved :
    Uri.split reserved.authorizationUri =
        .ok ⟨"https", "u@[::1]:8443", "/a//b", "x=%zz&=&a+b", "top"⟩ ∧
      "u@[::1]:8443" ≠ "" ∧
      ∃ text sent, reserved.uri = .ok text ∧ reserved.widen.sentUri = .ok text ∧
        Uri.split text = .ok sent ∧ sent.authority = "u@[::1]:8443" ∧
        sent.fragment = "top" ∧
        Uri.Query.decode sent.query =
          [("x", "%zz"), ("", ""), ("a b", ""), ("response_type", "token"),
            ("client_id", "a&b=c"), ("scope", "a b"),
            ("redirect_uri", "https://app.example/?a=1#b"), ("", ""), ("+%", "True")] := by
  have hsplit : Uri.split reserved.authorizationUri =
      .ok ⟨"https", "u@[::1]:8443", "/a//b", "x=%zz&=&a+b", "top"⟩ := by
    decide +kernel
  have hown : Uri.Query.decode "x=%zz&=&a+b" = [("x", "%zz"), ("", ""), ("a b", "")] := by
    decide +kernel
  have hne : "u@[::1]:8443" ≠ "" := by decide
  obtain ⟨text, sent, htext, hsentUri, hsent, -, hauthority, -, hfragment, hquery⟩ :=
    uri_decodes hsplit hne
  have htexts : ∀ member ∈ reserved.additionalParameters,
      member.2.shown = ↑member.2.display := by decide
  refine ⟨hsplit, hne, text, sent, htext, hsentUri htexts, hsent, hauthority, hfragment,
    hquery.trans ?_⟩
  rw [hown]
  decide +kernel

end AuthorizationRequest

end OAuthRedirect
