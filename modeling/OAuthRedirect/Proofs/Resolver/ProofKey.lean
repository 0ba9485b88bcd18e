import OAuthRedirect.Application
import OAuthRedirect.Proofs.AuthorizationRequest.Parameters
import OAuthRedirect.Proofs.Crypto.Transformation
import OAuthRedirect.Proofs.Resolver.Outcome

/-!
# Proof keys of resolved requests

The requests of public clients with the code grant carry a proof key, and no others do. With
keys from a generator, the challenge that is sent is one that the server redeems for the verifier
that is kept, with the hash and without it, and what is kept is never sent
(`Resolver.proofKey_of_run_eq`).
-/

namespace OAuthRedirect

/-! ### What is sent and what is kept -/

namespace AuthorizationRequest.Answers

/-- The names of the parameters that a proof key adds. -/
def keyNames : List String := ["code_challenge", "code_challenge_method"]

/-- The names of the attributes that may be kept for a registration. -/
def keptNames : List String := ["registration_id", "code_verifier"]

section Names

variable {τ : Type} [Inhabited τ] [LT τ] [Strings τ] {result : AuthorizationRequest τ}
  {registration : Registration τ} {callback : τ} {state : String} {pkce : Option Pkce}
  (h : result.Answers registration callback state pkce)

include h

theorem mem_keyNames {name : String} (hmem : name ∈ result.additionalParameters.map Prod.fst) :
    name ∈ keyNames := by
  rw [h.additionalParameters] at hmem
  cases pkce with
  | none => contradiction
  | some p =>
    obtain ⟨verifier, challenge, method⟩ := p
    cases method with
    | none =>
      obtain rfl : name = "code_challenge" := by simpa [Resolver.pkceParameters] using hmem
      exact List.mem_cons_self
    | some m => simpa [keyNames, Resolver.pkceParameters] using hmem

theorem mem_keptNames {name : String} (hmem : name ∈ result.attributes.map Prod.fst) :
    name ∈ keptNames := by
  rw [h.attributes] at hmem
  cases pkce with
  | none =>
    obtain rfl : name = "registration_id" := by simpa using hmem
    exact List.mem_cons_self
  | some p => simpa [keptNames] using hmem

/-- Nothing is sent under a name that something is kept under. -/
theorem not_mem_keptNames [DecidableEq τ] {parameter : String × τ}
    (hmem : parameter ∈ result.parameters) : parameter.1 ∉ keptNames := by
  have hstandard : ∀ name ∈ standardNames, name ∉ keptNames := by decide
  have hkey : ∀ name ∈ keyNames, name ∉ keptNames := by decide
  rcases fst_of_mem_parameters hmem with hname | hname
  · exact hstandard _ hname
  · exact hkey _ (h.mem_keyNames hname)

theorem challenge_mem_iff :
    "code_challenge" ∈ result.additionalParameters.map Prod.fst ↔ pkce.isSome = true := by
  rw [h.additionalParameters]
  cases pkce with
  | none => simp
  | some p => simp [Resolver.pkceParameters]

theorem verifier_mem_iff :
    "code_verifier" ∈ result.attributes.map Prod.fst ↔ pkce.isSome = true := by
  rw [h.attributes]
  cases pkce with
  | none => simp
  | some p => simp

theorem isSome_lookup_challenge :
    (result.additionalParameters.lookup "code_challenge").isSome = pkce.isSome := by
  rw [h.additionalParameters]
  cases pkce <;> rfl

theorem lookup_verifier_eq :
    result.attributes.lookup "code_verifier" = (pkce.map Pkce.verifier).map Json.str := by
  rw [h.attributes]
  cases pkce <;> rfl

end Names

/-! ### Keys that are there -/

section Keys

variable {τ : Type} [Inhabited τ] [LT τ] [Strings τ] {result : AuthorizationRequest τ}
  {registration : Registration τ} {callback : τ} {state : String} {p : Pkce}
  (h : result.Answers registration callback state (some p))

include h

theorem lookup_verifier : result.attributes.lookup "code_verifier" = some (.str p.verifier) := by
  rw [h.attributes]
  rfl

theorem lookup_challenge :
    result.additionalParameters.lookup "code_challenge" = some (.str p.challenge) := by
  rw [h.additionalParameters]
  rfl

theorem lookup_method :
    result.additionalParameters.lookup "code_challenge_method" =
      p.method.map fun m => .str m.name := by
  rw [h.additionalParameters]
  obtain ⟨verifier, challenge, method⟩ := p
  cases method <;> rfl

/-- The server redeems a key that was derived as the hash allowed it. -/
theorem redeems [DecidableEq τ] {verifier : String} {sha256 : Bool}
    (hp : p = if sha256 then ⟨verifier, Pkce.s256 verifier, some .s256⟩
      else ⟨verifier, verifier, none⟩) :
    Pkce.redeems result.parameters verifier = true := by
  have hchallenge : (result.parameters.lookup "code_challenge").map Strings.toJson =
      some (.str p.challenge) := by
    rw [lookup_parameters (by decide), h.lookup_challenge, Option.map_some, Option.map_some,
      Strings.toJson_shown_str]
  have hmethod : (result.parameters.lookup "code_challenge_method").map Strings.toJson =
      p.method.map fun m => .str m.name := by
    rw [lookup_parameters (by decide), h.lookup_method]
    cases p.method with
    | none => rfl
    | some m => rw [Option.map_some, Option.map_some, Option.map_some, Strings.toJson_shown_str]
  rw [Pkce.redeems, hchallenge, hmethod, hp]
  cases sha256 with
  | true => exact beq_self_eq_true (Pkce.s256 verifier)
  | false => exact beq_self_eq_true verifier

end Keys

end AuthorizationRequest.Answers

namespace Resolver

section Keyed

variable {τ : Type} [Inhabited τ] [LT τ] {resolver : Resolver τ} {sha256 : Bool}
  {registration : Registration τ} {session : Session}

theorem isSome_keyed_fst :
    (resolver.keyed sha256 registration session).1.isSome = registration.usesPkce := by
  cases huses : registration.usesPkce with
  | true => rw [keyed_of_usesPkce huses, Option.isSome_some]
  | false => rw [keyed_of_not_usesPkce huses, Option.isSome_none]

/-- The proof key of a registration that uses one, when verifiers come from a generator. -/
theorem keyed_fst_of_usesPkce {g : KeyGenerator} (hkeys : resolver.verifierKeys = .random g)
    (huses : registration.usesPkce = true) :
    ∃ verifier, (∀ c ∈ verifier.toList, Text.isAscii c = true) ∧
      (resolver.keyed sha256 registration session).1 =
        some (if sha256 then ⟨verifier, Pkce.s256 verifier, some .s256⟩
          else ⟨verifier, verifier, none⟩) := by
  have hascii : ∀ c ∈ (g.generate session.entropy).1.toList, Text.isAscii c = true :=
    fun c hc => KeyGenerator.isAscii_of_mem_generate hc
  refine ⟨(g.generate session.entropy).1, hascii, ?_⟩
  rw [keyed_of_usesPkce huses, hkeys, ← Pkce.ofVerifier_of_isAscii hascii]
  rfl

end Keyed

/-- **Proof keys of resolved requests.** Let the verifiers of a resolver come from a generator.
When it answers a request for a registration, with whatever random bytes, then

* a challenge is sent exactly when a verifier is kept, and exactly when the registration uses
  proof keys, which is also what the index page says of it;
* with the hash the method is `S256` and the challenge is that transformation of the verifier,
  an ASCII text; without the hash there is no method and the challenge is the verifier;
* a server redeems what was sent for the verifier that was kept;
* nothing is sent under the name of an attribute. -/
theorem proofKey_of_run_eq {resolver : Resolver WideString} {g : KeyGenerator}
    (hkeys : resolver.verifierKeys = .random g) {sha256 : Bool} {request : Request}
    {explicit : Option String} {session session' : Session}
    {result : AuthorizationRequest WideString}
    (hrun : resolver.run sha256 request explicit session = (.ok (some result), session')) :
    ∃ id registration, resolver.requestedId request explicit = some id ∧
      resolver.find id = .ok (some registration) ∧
      ("code_challenge" ∈ result.additionalParameters.map Prod.fst ↔
        registration.usesPkce = true) ∧
      ("code_verifier" ∈ result.attributes.map Prod.fst ↔ registration.usesPkce = true) ∧
      (∀ base, (Application.indexEntry base registration).field? "pkce" =
        some (.bool (result.additionalParameters.lookup "code_challenge").isSome)) ∧
      (registration.usesPkce = true →
        ∃ verifier challenge,
          result.attributes.lookup "code_verifier" = some (.str verifier) ∧
          result.additionalParameters.lookup "code_challenge" = some (.str challenge) ∧
          (∀ c ∈ verifier.toList, Text.isAscii c = true) ∧
          (sha256 = true →
            result.additionalParameters.lookup "code_challenge_method" = some (.str "S256") ∧
            challenge = String.ofList
              (Base64Url.encode false (Sha256.digest (Text.asciiBytes verifier.toList)))) ∧
          (sha256 = false →
            result.additionalParameters.lookup "code_challenge_method" = none ∧
            challenge = verifier) ∧
          Pkce.redeems result.parameters verifier = true) ∧
      ∀ parameter ∈ result.parameters,
        parameter.1 ∉ result.attributes.map Prod.fst ∧
        parameter.1 ≠ "code_verifier" ∧ parameter.1 ≠ "registration_id" := by
  cases course_iff_run_eq.mpr hrun with
  | @resolved id baseUrl uri registration grant _ _ hid hfind hgrant hbase hcallback hendpoint
      hresult =>
    have hanswers := answers_build hgrant hendpoint
      (resolver.keyed sha256 registration session).1 uri
      (resolver.stateKeys.next (resolver.keyed sha256 registration session).2.entropy).1
    rw [← hresult] at hanswers
    refine ⟨id, registration, hid, hfind, ?_, ?_, fun base => ?_, fun huses => ?_,
      fun parameter hmem => ?_⟩
    · rw [hanswers.challenge_mem_iff, isSome_keyed_fst]
    · rw [hanswers.verifier_mem_iff, isSome_keyed_fst]
    · rw [hanswers.isSome_lookup_challenge, isSome_keyed_fst]
      rfl
    · -- the verifier is ASCII, so that the hash alone decides about the challenge
      obtain ⟨verifier, hascii, hkey⟩ := keyed_fst_of_usesPkce hkeys huses
      rw [hkey] at hanswers
      refine ⟨verifier, _, ?_, hanswers.lookup_challenge, hascii, ?_, ?_, hanswers.redeems rfl⟩
      · rw [hanswers.lookup_verifier]
        cases sha256 <;> rfl
      · rintro rfl
        exact ⟨hanswers.lookup_method, rfl⟩
      · rintro rfl
        exact ⟨hanswers.lookup_method, rfl⟩
    · have hkept := hanswers.not_mem_keptNames hmem
      refine ⟨fun hname => hkept (hanswers.mem_keptNames hname), ?_, ?_⟩
      · rintro hname
        exact hkept (hname ▸ by decide)
      · rintro hname
        exact hkept (hname ▸ by decide)

/-- A public client that asks for a code, with a scope that is no text. -/
private def tablet : Registration WideString where
  id := "tablet"
  clientId := "t-1"
  clientSecret := none
  authentication := .none
  grant := .authorizationCode
  authorizationUri := some ↑"https://provider.example/authorize"
  redirectTemplate := some ↑"\x7bbaseUrl\x7d/\x7baction\x7d"
  scopes := .ofList [.ofCodes [0xDFFF]]
  clientName := none
  id_ne_empty := by decide
  clientId_ne_empty := by decide
  endpoints _ _ := by decide

private def tabletResolver : Resolver WideString where
  registrations _ := .ok (some tablet)
  matcher := ⟨defaultBase⟩
  stateKeys := .random .forStates
  verifierKeys := .random .forVerifiers

private def tabletRequest : Request where
  method := "GET"
  path := some "/"
  rootPath := none
  host := some "[::1]:8080"
  server := none
  scheme := "http"
  query := []

theorem proofKey_of_run_eq_tablet :
    tabletResolver.verifierKeys = .random .forVerifiers ∧
      ∃ result session',
        tabletResolver.run true tabletRequest (some "tablet") ⟨Entropy.seeded 1, []⟩ =
          (.ok (some result), session') ∧
        ∃ verifier, result.attributes.lookup "code_verifier" = some (.str verifier) ∧
          result.additionalParameters.lookup "code_challenge_method" = some (.str "S256") ∧
          Pkce.redeems result.parameters verifier = true := by
  have hbase : tabletRequest.baseUrl = .ok "http://[::1]:8080" := by decide +kernel
  have hcallback : callback tablet "http://[::1]:8080" "authorize" =
      .ok ↑"http://[::1]:8080/authorize" := by decide +kernel
  have hendpoint : sentEndpoint tablet =
      .valid ⟨"https://provider.example/authorize", by decide⟩ := rfl
  have hcourse : tabletResolver.Course true tabletRequest (some "tablet") ⟨Entropy.seeded 1, []⟩
      _ _ := .resolved rfl rfl rfl hbase hcallback hendpoint rfl
  obtain ⟨id, registration, hid, hfind, -, -, -, hkey, -⟩ :=
    proofKey_of_run_eq (g := .forVerifiers) rfl hcourse.run_eq
  obtain rfl : "tablet" = id := Option.some_inj.mp hid
  obtain rfl : tablet = registration := Option.some_inj.mp (Except.ok.inj hfind)
  obtain ⟨verifier, _, hverifier, -, -, hhashed, -, hredeems⟩ := hkey rfl
  exact ⟨rfl, _, _, hcourse.run_eq, verifier, hverifier, (hhashed rfl).1, hredeems⟩

end Resolver

end OAuthRedirect
