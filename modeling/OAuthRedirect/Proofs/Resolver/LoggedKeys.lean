import OAuthRedirect.Proofs.Crypto.KeyLength
import OAuthRedirect.Proofs.Log.Likeness
import OAuthRedirect.Proofs.Resolver.ProofKey

/-!
# What the log shows of the keys of a request

State, code verifier and code challenge are one-time values, and every event that resolving logs
gives them under names that the log knows as such. Two runs for one request whose keys were drawn
from different bytes, or even by different generators, therefore leave the same records when these
keys agree in their first ten characters (`Resolver.records_eq_of_front_eq`): nothing else about
the keys is in the log, whether the request is resolved, refused or breaks off.
-/

namespace OAuthRedirect

open Log (LooksLike)

namespace Resolver

/-! ### Events of keys -/

/-- The log knows the names of keys as those of one-time values. -/
theorem mentions_oneTimeWords : ∀ name ∈ ["code_verifier", "code_challenge", "state"],
    Log.mentions Log.oneTimeWords name = true := by
  decide +kernel

theorem pkceEvent_looksLike {p q : Pkce} (hverifier : LooksLike p.verifier q.verifier)
    (hchallenge : LooksLike p.challenge q.challenge) (hmethod : p.method = q.method) :
    (pkceEvent p).LooksLike (pkceEvent q) := by
  have hverifiers := hverifier.sanitizeValue_eq (mentions_oneTimeWords "code_verifier" (by simp))
  have hchallenges :=
    hchallenge.sanitizeValue_eq (mentions_oneTimeWords "code_challenge" (by simp))
  unfold pkceEvent
  rw [hmethod]
  cases q.method with
  | none =>
    refine ⟨rfl, rfl, rfl, ?_, rfl⟩
    simp only [Log.Event.internal, Log.sanitize, List.map_cons, List.map_nil, hchallenges]
  | some m =>
    refine ⟨rfl, rfl, rfl, ?_, rfl⟩
    simp only [Log.Event.internal, Log.sanitize, List.map_cons, List.map_nil, hverifiers,
      hchallenges]

section Strings

variable {τ : Type} [Inhabited τ] [LT τ] [Strings τ]

/-- The event of a redirect shows of the keys the front of the state, and that there is a proof
key or not. -/
theorem redirectEvent_looksLike {registration : Registration τ} {grant : RedirectGrant}
    (hgrant : registration.grant.redirect? = some grant) {endpoint : { s : String // s ≠ "" }}
    (hendpoint : sentEndpoint registration = .valid endpoint) {pkce pkce' : Option Pkce}
    (hpkce : pkce.isSome = pkce'.isSome) {state state' : String} (hstate : LooksLike state state')
    (callback : τ) :
    (redirectEvent registration.id
        (build registration grant endpoint pkce callback state)).LooksLike
      (redirectEvent registration.id
        (build registration grant endpoint pkce' callback state')) := by
  have hstates := hstate.sanitizeValue_eq (mentions_oneTimeWords "state" (by simp))
  have hsome := (answers_build hgrant hendpoint pkce callback state).isSome_lookup_challenge
  have hsome' := (answers_build hgrant hendpoint pkce' callback state').isSome_lookup_challenge
  refine ⟨rfl, rfl, rfl, ?_, rfl⟩
  simp only [redirectEvent, hsome, hsome', hpkce, Log.sanitize, List.map_cons, List.map_nil]
  simp only [build, Strings.orNull, Strings.toJson_ofText, hstates]

/-! ### Two runs -/

omit [Strings τ] in
/-- A resolver with generators as the sources of its keys. -/
def withGenerators (resolver : Resolver τ) (states verifiers : KeyGenerator) : Resolver τ :=
  { resolver with stateKeys := .random states, verifierKeys := .random verifiers }

section TwoRuns

variable {resolver : Resolver τ} {states₁ states₂ verifiers₁ verifiers₂ : KeyGenerator}
  {sha256 : Bool} {request : Request} {explicit : Option String} {entropy₁ entropy₂ : Entropy}
  {log : List Log.Event}

/-- Keys that generators made look alike as soon as they have the same front. -/
theorem looksLike_generate {g₁ g₂ : KeyGenerator} {source₁ source₂ : Entropy}
    (h : (g₁.generate source₁).1.toList.take 10 = (g₂.generate source₂).1.toList.take 10) :
    LooksLike (g₁.generate source₁).1 (g₂.generate source₂).1 where
  long := Nat.lt_of_lt_of_le (by decide) (g₁.le_length_generate source₁)
  long' := Nat.lt_of_lt_of_le (by decide) (g₂.le_length_generate source₂)
  front := h

omit [Strings τ] in
/-- The proof keys that the two runs make leave the same records when they have the same fronts. -/
theorem sameRecords_keyed {id : String} {registration : Registration τ}
    (hid : resolver.requestedId request explicit = some id)
    (hfind : resolver.find id = .ok (some registration))
    (hkeys : ∀ p₁ p₂,
      (resolver.withGenerators states₁ verifiers₁).madeKey sha256 request explicit
        ⟨entropy₁, log⟩ = some p₁ →
      (resolver.withGenerators states₂ verifiers₂).madeKey sha256 request explicit
        ⟨entropy₂, log⟩ = some p₂ →
      p₁.verifier.toList.take 10 = p₂.verifier.toList.take 10 ∧
        p₁.challenge.toList.take 10 = p₂.challenge.toList.take 10) :
    Log.SameRecords
      ((resolver.withGenerators states₁ verifiers₁).keyed sha256 registration
        ⟨entropy₁, log⟩).2.log
      ((resolver.withGenerators states₂ verifiers₂).keyed sha256 registration
        ⟨entropy₂, log⟩).2.log := by
  have hmade (states verifiers : KeyGenerator) (session : Session) :
      (resolver.withGenerators states verifiers).madeKey sha256 request explicit session =
        ((resolver.withGenerators states verifiers).keyed sha256 registration session).1 :=
    madeKey_of_find hid hfind
  rw [hmade, hmade] at hkeys
  cases huses : registration.usesPkce with
  | false =>
    rw [keyed_of_not_usesPkce huses, keyed_of_not_usesPkce huses]
    exact .refl log
  | true =>
    rw [keyed_of_usesPkce huses, keyed_of_usesPkce huses] at hkeys ⊢
    obtain ⟨hverifier, hchallenge⟩ := hkeys _ _ rfl rfl
    obtain ⟨hv₁, hc₁, hm₁⟩ := Pkce.le_length_generate verifiers₁ sha256 entropy₁
    obtain ⟨hv₂, hc₂, hm₂⟩ := Pkce.le_length_generate verifiers₂ sha256 entropy₂
    have hlong : Log.shownLength < 43 := by decide
    exact (Log.SameRecords.refl log).append
      (pkceEvent_looksLike ⟨hlong.trans_le hv₁, hlong.trans_le hv₂, hverifier⟩
        ⟨hlong.trans_le hc₁, hlong.trans_le hc₂, hchallenge⟩ (hm₁.trans hm₂.symm))

/-- **The log shows ten characters of a key.** Take two runs for one request of resolvers that ask
the same registrations and match the same paths, each with generators and random bytes of its own
and both with the hash or both without it. Let the proof keys that they make, if they make any,
agree in the first ten characters of verifier and challenge, and the states, if both resolve the
request, in their first ten characters. Then the two runs leave the same records, whatever the
logger and the clock. -/
theorem records_eq_of_front_eq (logger : Log.Logger) (now : Log.Timestamp)
    (hkeys : ∀ p₁ p₂,
      (resolver.withGenerators states₁ verifiers₁).madeKey sha256 request explicit
        ⟨entropy₁, log⟩ = some p₁ →
      (resolver.withGenerators states₂ verifiers₂).madeKey sha256 request explicit
        ⟨entropy₂, log⟩ = some p₂ →
      p₁.verifier.toList.take 10 = p₂.verifier.toList.take 10 ∧
        p₁.challenge.toList.take 10 = p₂.challenge.toList.take 10)
    (hstates : ∀ r₁ r₂ state₁ state₂,
      ((resolver.withGenerators states₁ verifiers₁).run sha256 request explicit
        ⟨entropy₁, log⟩).1 = .ok (some r₁) →
      ((resolver.withGenerators states₂ verifiers₂).run sha256 request explicit
        ⟨entropy₂, log⟩).1 = .ok (some r₂) →
      r₁.state = some (Strings.ofText state₁) → r₂.state = some (Strings.ofText state₂) →
      state₁.toList.take 10 = state₂.toList.take 10) :
    ((resolver.withGenerators states₁ verifiers₁).run sha256 request explicit
        ⟨entropy₁, log⟩).2.log.flatMap (logger.eventRecords now) =
      ((resolver.withGenerators states₂ verifiers₂).run sha256 request explicit
        ⟨entropy₂, log⟩).2.log.flatMap (logger.eventRecords now) := by
  suffices hsame : Log.SameRecords
      ((resolver.withGenerators states₁ verifiers₁).run sha256 request explicit
        ⟨entropy₁, log⟩).2.log
      ((resolver.withGenerators states₂ verifiers₂).run sha256 request explicit
        ⟨entropy₂, log⟩).2.log from hsame logger now
  -- no key has a part in what is asked and found, so the two runs take courses of one kind
  have hrun₂ {outcome : Except (Failure τ) (Option (AuthorizationRequest τ))} {after : Session}
      (h : (resolver.withGenerators states₂ verifiers₂).Course sha256 request explicit
        ⟨entropy₂, log⟩ outcome after) :
      (resolver.withGenerators states₂ verifiers₂).run sha256 request explicit ⟨entropy₂, log⟩ =
        (outcome, after) := h.run_eq
  obtain ⟨_, _, hcourse⟩ := exists_course (resolver.withGenerators states₁ verifiers₁) sha256
    request explicit ⟨entropy₁, log⟩
  have hrun₁ := hcourse.run_eq
  cases hcourse with
  | passedBy hid =>
    rw [hrun₁, hrun₂ (.passedBy hid)]
    exact .refl log
  | lookup hid hfind =>
    rw [hrun₁, hrun₂ (.lookup hid hfind)]
    exact .refl log
  | unknownNoUrl hid hfind hurl =>
    rw [hrun₁, hrun₂ (.unknownNoUrl hid hfind hurl)]
    exact .refl log
  | unknown hid hfind hurl =>
    rw [hrun₁, hrun₂ (.unknown hid hfind hurl)]
    exact (Log.SameRecords.refl log).append (.refl _)
  | unsupported hid hfind hgrant =>
    rw [hrun₁, hrun₂ (.unsupported hid hfind hgrant)]
    exact (Log.SameRecords.refl log).append (.refl _)
  | noBaseUrl hid hfind hgrant hbase =>
    rw [hrun₁, hrun₂ (.noBaseUrl hid hfind hgrant hbase)]
    exact sameRecords_keyed hid hfind hkeys
  | badTemplate hid hfind hgrant hbase hcallback =>
    rw [hrun₁, hrun₂ (.badTemplate hid hfind hgrant hbase hcallback)]
    exact (sameRecords_keyed hid hfind hkeys).append (.refl _)
  | invalid hid hfind hgrant hbase hcallback hendpoint =>
    rw [hrun₁, hrun₂ (.invalid hid hfind hgrant hbase hcallback hendpoint)]
    exact sameRecords_keyed hid hfind hkeys
  | @resolved _ _ uri _ _ _ _ hid hfind hgrant hbase hcallback hendpoint hresult =>
    rw [hrun₁, hrun₂ (.resolved hid hfind hgrant hbase hcallback hendpoint rfl)] at hstates ⊢
    have hstate := hstates _ _ _ _ rfl rfl (by rw [hresult]; rfl) rfl
    rw [hresult]
    refine (sameRecords_keyed hid hfind hkeys).append
      (redirectEvent_looksLike hgrant hendpoint ?_ (looksLike_generate hstate) uri)
    rw [isSome_keyed_fst, isSome_keyed_fst]

end TwoRuns

end Strings

/-- A public client with a scope that is no text. -/
private def viewer : Registration WideString where
  id := "viewer"
  clientId := "v-1"
  clientSecret := none
  authentication := .none
  grant := .authorizationCode
  authorizationUri := some ↑"https://viewer.example/authorize"
  redirectTemplate := some ↑"\x7bbaseUrl\x7d/\x7baction\x7d"
  scopes := .ofList [.ofCodes [0xD800]]
  clientName := none
  id_ne_empty := by decide
  clientId_ne_empty := by decide
  endpoints _ _ := by decide

private def viewerResolver : Resolver WideString :=
  withGenerators (.usual (fun _ => .ok (some viewer)) ⟨defaultBase⟩) .forStates .forVerifiers

private def viewerRequest : Request where
  method := "GET"
  path := some "/"
  rootPath := none
  host := some "app.example"
  server := none
  scheme := "https"
  query := []

/-- Random bytes that are zero but for the last one of the verifier and the last one of the
state. -/
private def ending (last : UInt8) : Entropy where
  byteAt i := if i = 95 ∨ i = 127 then last else 0
  drawn := 0

private def viewerVerifier (last : UInt8) : String :=
  KeyGenerator.forVerifiers.key ((ending last).block 0 96)

private def viewerState (last : UInt8) : String :=
  KeyGenerator.forStates.key ((ending last).block 96 32)

/-- Without the hash the verifier is the challenge, too. -/
private theorem madeKey_viewer (last : UInt8) :
    viewerResolver.madeKey false viewerRequest (some "viewer") ⟨ending last, []⟩ =
      some ⟨viewerVerifier last, viewerVerifier last, none⟩ := by
  have huses : viewer.usesPkce = true := rfl
  rw [madeKey_of_find rfl rfl, keyed_of_usesPkce huses]
  rfl

/-- The keys differ in the end alone. -/
private theorem front_viewer :
    ((viewerVerifier 0).toList.take 10 = (viewerVerifier 1).toList.take 10 ∧
        (viewerState 0).toList.take 10 = (viewerState 1).toList.take 10) ∧
      viewerVerifier 0 ≠ viewerVerifier 1 ∧ viewerState 0 ≠ viewerState 1 := by
  simp only [viewerVerifier, viewerState, KeyGenerator.key, String.toList_ofList, ne_eq,
    String.ofList_inj]
  decide +kernel

private theorem exists_run_viewer (last : UInt8) :
    ∃ result session',
      viewerResolver.run false viewerRequest (some "viewer") ⟨ending last, []⟩ =
        (.ok (some result), session') ∧
      result.state = some ↑(viewerState last) ∧
      result.attributes.lookup "code_verifier" = some (.str (viewerVerifier last)) := by
  have hbase : viewerRequest.baseUrl = .ok "https://app.example" := by decide +kernel
  have hcallback : callback viewer "https://app.example" "authorize" =
      .ok ↑"https://app.example/authorize" := by decide +kernel
  have hendpoint : sentEndpoint viewer = .valid ⟨"https://viewer.example/authorize", by decide⟩ :=
    rfl
  have hcourse : viewerResolver.Course false viewerRequest (some "viewer") ⟨ending last, []⟩ _ _ :=
    .resolved rfl rfl rfl hbase hcallback hendpoint rfl
  exact ⟨_, _, hcourse.run_eq, rfl, rfl⟩

private theorem state_of_run_viewer {last : UInt8} {result : AuthorizationRequest WideString}
    {state : String}
    (hrun : (viewerResolver.run false viewerRequest (some "viewer") ⟨ending last, []⟩).1 =
      .ok (some result))
    (hstate : result.state = some ↑state) : state = viewerState last := by
  obtain ⟨_, _, hrun', hstate', -⟩ := exists_run_viewer last
  rw [hrun'] at hrun
  obtain rfl := Option.some_inj.mp (Except.ok.inj hrun)
  exact WideString.text.inj (Option.some_inj.mp (hstate.symm.trans hstate'))

theorem records_eq_of_front_eq_viewer :
    ∃ result₁ session₁ result₂ session₂, ∃ state₁ state₂ verifier₁ verifier₂ : String,
      viewerResolver.run false viewerRequest (some "viewer") ⟨ending 0, []⟩ =
        (.ok (some result₁), session₁) ∧
      viewerResolver.run false viewerRequest (some "viewer") ⟨ending 1, []⟩ =
        (.ok (some result₂), session₂) ∧
      result₁.state = some ↑state₁ ∧ result₂.state = some ↑state₂ ∧ state₁ ≠ state₂ ∧
      result₁.attributes.lookup "code_verifier" = some (.str verifier₁) ∧
      result₂.attributes.lookup "code_verifier" = some (.str verifier₂) ∧
      verifier₁ ≠ verifier₂ ∧
      ∀ (logger : Log.Logger) (now : Log.Timestamp),
        session₁.log.flatMap (logger.eventRecords now) =
          session₂.log.flatMap (logger.eventRecords now) := by
  obtain ⟨result₁, session₁, hrun₁, hstate₁, hverifier₁⟩ := exists_run_viewer 0
  obtain ⟨result₂, session₂, hrun₂, hstate₂, hverifier₂⟩ := exists_run_viewer 1
  refine ⟨result₁, session₁, result₂, session₂, _, _, _, _, hrun₁, hrun₂, hstate₁, hstate₂,
    front_viewer.2.2, hverifier₁, hverifier₂, front_viewer.2.1, fun logger now => ?_⟩
  have hlogs :
      (viewerResolver.run false viewerRequest (some "viewer") ⟨ending 0, []⟩).2.log.flatMap
          (logger.eventRecords now) =
        (viewerResolver.run false viewerRequest (some "viewer") ⟨ending 1, []⟩).2.log.flatMap
          (logger.eventRecords now) := by
    refine records_eq_of_front_eq logger now (fun p₁ p₂ hp₁ hp₂ => ?_)
      (fun r₁ r₂ state₁ state₂ hr₁ hr₂ hs₁ hs₂ => ?_)
    · obtain rfl := Option.some_inj.mp ((madeKey_viewer 0).symm.trans hp₁)
      obtain rfl := Option.some_inj.mp ((madeKey_viewer 1).symm.trans hp₂)
      exact ⟨front_viewer.1.1, front_viewer.1.1⟩
    · rw [state_of_run_viewer hr₁ hs₁, state_of_run_viewer hr₂ hs₂]
      exact front_viewer.1.2
  rw [hrun₁, hrun₂] at hlogs
  exact hlogs

end Resolver

end OAuthRedirect
