import OAuthRedirect.Proofs.Http.UrlLines
import OAuthRedirect.Proofs.Log.Lines
import OAuthRedirect.Proofs.Pairs
import OAuthRedirect.Proofs.Resolver.LoggedKeys
import OAuthRedirect.Proofs.Resolver.WideOutcome

/-!
# Lines of what resolving logs

A request has a part in the lines of its log records only with what is logged as it stands: an id
that is asked for, the action, the context path, and what the registration says. The host, the
path that is logged and the keys that are drawn break no line (`Resolver.lineCount_iff_shownTexts`).
A line feed in one of those texts begins a line of its own, so that an id can show what no event
says (`Resolver.lineCount_forging`).
-/

namespace OAuthRedirect

open Text (OneLine oneLine_append_iff)

/-! ### Templates -/

namespace Template

variable {bindings bindings' : List (String × String)} {template : WideString}

/-- A name in a template breaks no line that the template does not break. -/
theorem oneLine_of_mem_widePlaceholders {name : WideString}
    (hname : name ∈ widePlaceholders template) (h : template.OneLine) : name.OneLine := by
  obtain ⟨piece, hpiece, hsome⟩ := List.mem_filterMap.mp hname
  cases piece with
  | literal code => contradiction
  | placeholder codes =>
    obtain rfl := Option.some_inj.mp hsome
    exact WideString.oneLine_ofCodes_iff.mpr fun hline => h (mem_of_mem_placeholder hpiece hline)

/-- What is said of an unknown name is on one line when the template is. -/
theorem oneLine_wideMessage_iff {e : UnknownVariable WideString}
    (h : expandWide template bindings = .error e) : e.wideMessage.OneLine ↔ template.OneLine := by
  obtain ⟨before, name, after, hnames, -, -, rfl⟩ := expandWide_eq_error_iff.mp h
  have hname : name ∈ widePlaceholders template := by simp [hnames]
  -- the words around the two strings are named, so that no literal is taken apart
  have hwords {front middle back : String} (hfront : OneLine front) (hmiddle : OneLine middle)
      (hback : OneLine back) :
      (.text front ++ template ++ .text middle ++ name ++ .text back : WideString).OneLine ↔
        template.OneLine ∧ name.OneLine := by
    simp only [WideString.oneLine_append_iff, WideString.oneLine_text_iff, hfront, hmiddle, hback,
      true_and, and_true]
  refine Iff.trans (hwords (by decide) (by decide) (by decide)) ?_
  exact and_iff_left_of_imp (oneLine_of_mem_widePlaceholders hname)

theorem oneLine_wideFilled_iff :
    (wideFilled bindings template).OneLine ↔
      ∀ piece ∈ pieces template.codes, WideString.lineFeed ∉ piece.wideFill bindings := by
  rw [wideFilled, WideString.oneLine_ofCodes_iff, List.mem_flatMap, not_exists]
  exact forall_congr' fun piece => not_and

/-- Whether a value has a line feed is all that counts of it. -/
theorem oneLine_wideFilled_congr
    (h : ∀ name, OneLine ((bindings.lookup name).getD "") ↔
      OneLine ((bindings'.lookup name).getD "")) :
    (wideFilled bindings template).OneLine ↔ (wideFilled bindings' template).OneLine := by
  rw [oneLine_wideFilled_iff, oneLine_wideFilled_iff]
  refine forall₂_congr fun piece _ => ?_
  cases piece with
  | literal code => rfl
  | placeholder codes =>
    rw [Piece.wideFill, Piece.wideFill, valueOf?, valueOf?]
    cases (WideString.ofCodes codes).text? with
    | none => rfl
    | some name => exact WideString.oneLine_text_iff.trans ((h name).trans
        WideString.oneLine_text_iff.symm)

end Template

/-! ### Keys -/

theorem Base64Url.not_mem_encode (padding : Bool) (bytes : List UInt8) :
    '\n' ∉ encode padding bytes := by
  have hletter : ∀ v < 64, letter v ≠ '\n' := by decide
  intro hline
  obtain ⟨v, hv, heq⟩ | ⟨-, heq⟩ := cases_of_mem_encode hline
  · exact hletter v hv heq.symm
  · exact absurd heq (by decide)

theorem KeyGenerator.oneLine_generate (g : KeyGenerator) (source : Entropy) :
    OneLine (g.generate source).1 := fun hline => by
  rw [toList_generate] at hline
  exact Base64Url.not_mem_encode g.padding _ hline

theorem Pkce.oneLine_generate (g : KeyGenerator) (sha256 : Bool) (source : Entropy) :
    OneLine (generate (.random g) sha256 source).1.verifier ∧
      OneLine (generate (.random g) sha256 source).1.challenge := by
  have hverifier := g.oneLine_generate source
  have hchallenge : OneLine (s256 (g.generate source).1) := fun hline => by
    rw [s256, String.toList_ofList] at hline
    exact Base64Url.not_mem_encode _ _ hline
  change OneLine (ofVerifier sha256 (g.generate source).1).verifier ∧
    OneLine (ofVerifier sha256 (g.generate source).1).challenge
  rw [ofVerifier_of_isAscii fun _ hc => KeyGenerator.isAscii_of_mem_generate hc]
  cases sha256 with
  | true => exact ⟨hverifier, hchallenge⟩
  | false => exact ⟨hverifier, hverifier⟩

/-! ### Events -/

namespace Resolver

open Log (IsPlainName)

/-- The names of what is logged as it is. -/
theorem isPlainName_of_mem : ∀ name ∈ ["error_type", "message", "registration_id", "path",
    "grant_type", "client_id", "authorization_uri", "redirect_uri", "scope"],
    IsPlainName name := by
  decide +kernel

/-- The names of the details of a failure. -/
def detailNames : List String := ["registration_id", "path", "grant_type"]

theorem data_failureOf (errorType : String) (message : Json) {details : Members}
    (hnames : (details.map Prod.fst).Sublist detailNames) :
    (Log.Event.failureOf Party.client.name errorType message details).data =
      ("error_type", .str errorType) :: ("message", message) :: details := by
  have hnodup : ("error_type" :: "message" :: detailNames).Nodup := by decide
  exact Members.putAll_of_nodup (hnodup.sublist ((hnames.cons_cons _).cons_cons _))

theorem oneLineEach_failureOf_iff {errorType : String} {message : Json} {details : Members}
    (hnames : (details.map Prod.fst).Sublist detailNames) (htype : OneLine errorType) :
    (Log.Event.failureOf Party.client.name errorType message details).OneLineEach ↔
      message.shown.OneLine ∧ ∀ entry ∈ details, entry.2.shown.OneLine := by
  have hdata := data_failureOf errorType message hnames
  have hparties : OneLine Party.client.name ∧ OneLine "ERROR-HANDLER" ∧
      OneLine Log.EventKind.error.name := by decide
  have hlines : ∀ name ∈ "error_type" :: "message" :: detailNames, OneLine name := by decide
  have hplain : ∀ name ∈ "error_type" :: "message" :: detailNames, IsPlainName name :=
    fun name hname => isPlainName_of_mem name (List.mem_append_left _ hname)
  have hmem : ∀ entry ∈ ("error_type", Json.str errorType) :: ("message", message) :: details,
      entry.1 ∈ "error_type" :: "message" :: detailNames := fun entry hentry =>
    ((hnames.cons_cons _).cons_cons _).subset (List.mem_map_of_mem hentry)
  refine Iff.trans (Log.Event.oneLineEach_iff hparties.1 hparties.2.1 hparties.2.2 ?_ ?_) ?_
  · exact hdata ▸ fun entry hentry => hlines _ (hmem entry hentry)
  · exact hdata ▸ fun entry hentry => .inl (hplain _ (hmem entry hentry))
  · rw [hdata]
    simp only [List.forall_mem_cons, Json.shown_str, WideString.oneLine_text_iff, htype, true_and]

theorem oneLineEach_unknownEvent_iff {id path : String} (hpath : OneLine path) :
    (unknownEvent id path).OneLineEach ↔ OneLine id := by
  have hnames : ["registration_id", "path"].Sublist detailNames := by decide
  have hmessage : OneLine (unknownMessage id) := by
    unfold unknownMessage
    split
    all_goals decide
  refine Iff.trans (oneLineEach_failureOf_iff hnames (by decide)) ?_
  simp [idEntry, Json.shown_str, hmessage, hpath]

theorem oneLineEach_unsupportedEvent_iff {id : String} (grant : Grant) :
    (unsupportedEvent id grant).OneLineEach ↔ OneLine id := by
  have hnames : ["registration_id", "grant_type"].Sublist detailNames := by decide
  have hmessage : OneLine "Grant type is not supported for authorization requests" := by decide
  have hgrant : OneLine grant.name := by
    cases grant
    all_goals decide
  refine Iff.trans (oneLineEach_failureOf_iff hnames (by decide)) ?_
  simp [idEntry, Json.shown_str, hmessage, hgrant]

theorem oneLineEach_badTemplateEvent_iff {id : String} {e : Template.UnknownVariable WideString} :
    (badTemplateEvent id e).OneLineEach ↔ OneLine id ∧ e.wideMessage.OneLine := by
  have hnames : ["registration_id"].Sublist detailNames := by decide
  have hmessage : (Strings.toJson (Strings.unknownVariable e)).shown = e.wideMessage :=
    WideString.shown_toJson _
  refine Iff.trans (oneLineEach_failureOf_iff hnames (by decide)) ?_
  simp [idEntry, Json.shown_str, hmessage, and_comm]

theorem oneLineEach_pkceEvent {p : Pkce} (hverifier : OneLine p.verifier)
    (hchallenge : OneLine p.challenge) : (pkceEvent p).OneLineEach := by
  have hclient : OneLine Party.client.name := by decide
  have hkinds : OneLine Log.EventKind.pkceGeneration.name ∧
      OneLine Log.EventKind.pkceFallback.name := by decide
  have hnames : ∀ name ∈ ["code_verifier", "code_challenge", "code_challenge_method", "reason"],
      OneLine name := by decide
  simp only [List.forall_mem_cons] at hnames
  unfold pkceEvent
  cases p.method with
  | none =>
    have hreason : OneLine "SHA-256 unavailable, sending plain code challenge" := by decide
    refine .of_data hclient hclient hkinds.2 ?_
    simp [Log.Event.internal, Json.shown_str, hnames, hreason, hchallenge]
  | some m =>
    have hmethod : OneLine m.name := by
      cases m
      decide
    refine .of_data hclient hclient hkinds.1 ?_
    simp [Log.Event.internal, Json.shown_str, hnames, hverifier, hchallenge, hmethod]

theorem oneLineEach_redirectEvent_iff {registration : Registration WideString}
    {grant : RedirectGrant} {endpoint : { s : String // s ≠ "" }}
    (hendpoint : sentEndpoint registration = .valid endpoint) {state : String}
    (hstate : OneLine state) (pkce : Option Pkce) (callback : WideString) :
    (redirectEvent registration.id
        (build registration grant endpoint pkce callback state)).OneLineEach ↔
      OneLine registration.id ∧ OneLine registration.clientId ∧
        registration.authorizationEndpoint.OneLine ∧ callback.OneLine ∧
        (WideString.join " " registration.scopes.names).OneLine := by
  have hparties : OneLine Party.client.name ∧ OneLine Party.userAgent.name ∧
      OneLine Log.EventKind.redirect.name := by decide
  have hnames : ∀ name ∈ ["registration_id", "grant_type", "client_id", "authorization_uri",
      "redirect_uri", "scope", "state", "pkce"], OneLine name := by decide
  have hgrantName : OneLine grant.name := by
    cases grant
    all_goals decide
  have hpkce (b : Bool) : (Json.bool b).shown.OneLine := by
    cases b
    all_goals decide
  have hcallback : (Strings.orNull (some callback)).shown = callback := WideString.shown_toJson _
  have hscope : (Strings.toJson (Strings.spaced registration.scopes.names)).shown =
      WideString.join " " registration.scopes.names := WideString.shown_toJson _
  have hstates : (Strings.orNull (some (Strings.ofText state : WideString))).shown = .text state :=
    rfl
  rw [wideEndpoint_eq_valid_iff.mp hendpoint]
  refine Iff.trans (Log.Event.oneLineEach_iff hparties.1 hparties.2.1 hparties.2.2 ?_ ?_) ?_
  · simpa [redirectEvent, idEntry] using hnames
  · have hplain := isPlainName_of_mem
    simp only [List.forall_mem_cons] at hplain
    simp [redirectEvent, idEntry, build, hplain, hstates, hstate, hpkce]
  · simp [redirectEvent, idEntry, build, hcallback, hscope, hstates, Json.shown_str, hgrantName,
      hstate, hpkce]

/-! ### Callbacks -/

/-- The address that the user comes back to, with the context path alone for the base URL. -/
def localCallback (request : Request) (registration : Registration WideString) (action : String) :
    WideString :=
  Template.wideFilled (templateVariables request.contextPath action registration.id)
    registration.callbackTemplate

/-- The line feeds of the base URL are those of the context path. -/
theorem oneLine_callback_iff {request : Request} {registration : Registration WideString}
    {baseUrl action : String} {uri : WideString} (hbase : request.baseUrl = .ok baseUrl)
    (hcallback : callback registration baseUrl action = .ok uri) :
    uri.OneLine ↔ (localCallback request registration action).OneLine := by
  obtain ⟨front, hfront, rfl⟩ := Request.exists_oneLine_front hbase
  obtain ⟨-, rfl⟩ := Template.expandWide_eq_ok_iff.mp hcallback
  refine Template.oneLine_wideFilled_congr fun name => ?_
  cases hname : name == "baseUrl" with
  | true =>
    simp only [templateVariables, List.lookup_cons, hname, Option.getD_some, oneLine_append_iff,
      hfront, true_and]
  | false => simp only [templateVariables, List.lookup_cons, hname]

/-! ### Runs -/

/-- **The strings that the log shows as they stand**, by the outcome of a request: an id that is
refused, a template that is refused, what the registration of a redirect says, and the callback but
for its host. -/
def shownTexts (resolver : Resolver WideString) (request : Request) (explicit : Option String) :
    Except (Failure WideString) (Option (AuthorizationRequest WideString)) → List WideString
  | .error (.refused (.unknownRegistration id)) => [↑id]
  | .error (.refused (.unsupportedGrant _ _)) =>
    (resolver.requestedId request explicit).toList.map .text
  | .error (.refused (.badTemplate e id)) => [↑id, e.template]
  | .error (.url _) | .error (.lookup _) | .error (.invalid _) | .ok none => []
  | .ok (some _) =>
    (resolver.registrationFor request explicit).toList.flatMap fun r =>
      [↑r.id, ↑r.clientId, r.authorizationEndpoint,
        localCallback request r (requestedAction request explicit), .join " " r.scopes.names]

/-- What is logged of a proof key breaks no line. -/
theorem exists_events_keyed (resolver : Resolver WideString) (states verifiers : KeyGenerator)
    (sha256 : Bool) (session : Session) (registration : Registration WideString) :
    ∃ events, ((resolver.withGenerators states verifiers).keyed sha256 registration session).2.log =
        session.log ++ events ∧ ∀ e ∈ events, e.OneLineEach := by
  cases huses : registration.usesPkce with
  | false =>
    rw [keyed_of_not_usesPkce huses]
    exact ⟨[], by simp⟩
  | true =>
    rw [keyed_of_usesPkce huses]
    obtain ⟨hverifier, hchallenge⟩ := Pkce.oneLine_generate verifiers sha256 session.entropy
    exact ⟨_, rfl, List.forall_mem_singleton.mpr (oneLineEach_pkceEvent hverifier hchallenge)⟩

/-- **The lines of what a run logs.** Each event that resolving logs has three lines more than
entries, at whatever time it is shown, exactly when the strings that it shows as they stand have no
line feed. The host, the path that is logged and the keys are not among these, and nor is anything
when nothing is logged. -/
theorem lineCount_iff_shownTexts (resolver : Resolver WideString)
    (states verifiers : KeyGenerator) (sha256 : Bool) (request : Request)
    (explicit : Option String) (session : Session) :
    let result := (resolver.withGenerators states verifiers).run sha256 request explicit session
    ∃ events, result.2.log = session.log ++ events ∧
      ∀ now, (∀ e ∈ events, (e.render now).lineCount = e.data.length + 3) ↔
        ∀ shown ∈ resolver.shownTexts request explicit result.1, shown.OneLine := by
  intro result
  suffices h : ∃ events, result.2.log = session.log ++ events ∧
      ((∀ e ∈ events, e.OneLineEach) ↔
        ∀ shown ∈ resolver.shownTexts request explicit result.1, shown.OneLine) by
    obtain ⟨events, hlog, hiff⟩ := h
    exact ⟨events, hlog, fun now => by simpa only [Log.Event.lineCount_render_iff] using hiff⟩
  obtain ⟨_, _, hcourse⟩ := exists_course (resolver.withGenerators states verifiers) sha256
    request explicit session
  have hresult : result = (_, _) := hcourse.run_eq
  rw [hresult]
  cases hcourse with
  | passedBy => exact ⟨[], by simp [shownTexts]⟩
  | lookup => exact ⟨[], by simp [shownTexts]⟩
  | unknownNoUrl => exact ⟨[], by simp [shownTexts]⟩
  | unknown hid hfind hurl =>
    refine ⟨_, rfl, ?_⟩
    rw [List.forall_mem_singleton, oneLineEach_unknownEvent_iff (Request.oneLine_of_url hurl).2.2]
    exact WideString.oneLine_text_iff.symm.trans List.forall_mem_singleton.symm
  | unsupported hid =>
    have hasked : resolver.requestedId request explicit = some _ := hid
    refine ⟨_, rfl, ?_⟩
    rw [List.forall_mem_singleton, oneLineEach_unsupportedEvent_iff, shownTexts, hasked]
    exact WideString.oneLine_text_iff.symm.trans List.forall_mem_singleton.symm
  | @noBaseUrl _ registration =>
    obtain ⟨events, hlog, hlines⟩ :=
      exists_events_keyed resolver states verifiers sha256 session registration
    exact ⟨events, hlog, iff_of_true hlines (by simp [shownTexts])⟩
  | @badTemplate _ _ registration _ e _ _ _ _ hcallback =>
    obtain ⟨events, hlog, hlines⟩ :=
      exists_events_keyed resolver states verifiers sha256 session registration
    refine ⟨events ++ [badTemplateEvent registration.id e], ?_, ?_⟩
    · simp [Session.logged, hlog]
    · obtain ⟨_, _, _, -, -, -, rfl⟩ := Template.expandWide_eq_error_iff.mp hcallback
      rw [List.forall_mem_append, and_iff_right hlines, List.forall_mem_singleton,
        oneLineEach_badTemplateEvent_iff, Template.oneLine_wideMessage_iff hcallback]
      simp [shownTexts]
  | @invalid _ _ _ registration =>
    obtain ⟨events, hlog, hlines⟩ :=
      exists_events_keyed resolver states verifiers sha256 session registration
    exact ⟨events, hlog, iff_of_true hlines (by simp [shownTexts])⟩
  | @resolved _ _ uri registration grant _ _ hid hfind hgrant hbase hcallback hendpoint hbuilt =>
    obtain ⟨events, hlog, hlines⟩ :=
      exists_events_keyed resolver states verifiers sha256 session registration
    have hfound : resolver.registrationFor request explicit = some registration :=
      registrationFor_of_find hid hfind
    have hstate (source : Entropy) :
        OneLine ((resolver.withGenerators states verifiers).stateKeys.next source).1 :=
      states.oneLine_generate source
    refine ⟨events ++ [_], by rw [hlog, List.append_assoc], ?_⟩
    rw [List.forall_mem_append, and_iff_right hlines, List.forall_mem_singleton, hbuilt,
      oneLineEach_redirectEvent_iff hendpoint (hstate _), oneLine_callback_iff hbase hcallback]
    simp [shownTexts, hfound]

/-- A resolver that no client has registered with. -/
private def vacant : Resolver WideString :=
  .usual (fun _ => .ok none) ⟨defaultBase⟩

/-- A request for an id that goes on with a line of its own. -/
private def forging : Request where
  method := "GET"
  path := some "/oauth2/authorization/nobody\n  message: resolved"
  rootPath := none
  host := some "app.example"
  server := none
  scheme := "https"
  query := []

private theorem requestedId_forging :
    vacant.requestedId forging none = some "nobody\n  message: resolved" := by
  decide +kernel

private theorem addressable_forging : forging.Addressable :=
  .of_https rfl rfl rfl (by decide) rfl

/-- **An id forges a line.** The refusal of an id in the path is one event with four entries, whose
block has another number of lines than seven. -/
theorem lineCount_forging :
    ∃ e, (vacant.run true forging none ⟨⟨fun _ => 0, 0⟩, []⟩).2.log = [e] ∧ e.data.length = 4 ∧
      ∀ now, (e.render now).lineCount ≠ 4 + 3 := by
  obtain ⟨baseUrl, hbase⟩ := addressable_forging.exists_baseUrl
  obtain ⟨url, hurl⟩ := Request.exists_url_of_baseUrl hbase
  have hcourse : vacant.Course true forging none ⟨⟨fun _ => 0, 0⟩, []⟩ _ _ :=
    .unknown requestedId_forging rfl hurl
  refine ⟨unknownEvent "nobody\n  message: resolved" url.path, ?_, rfl, fun now hlines => ?_⟩
  · rw [hcourse.run_eq]
    rfl
  · have heach := Log.Event.lineCount_render_iff.mp hlines
    rw [oneLineEach_unknownEvent_iff (Request.oneLine_of_url hurl).2.2] at heach
    exact absurd heach (by decide)

end Resolver

end OAuthRedirect
