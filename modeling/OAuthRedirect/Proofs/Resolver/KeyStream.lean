import OAuthRedirect.Proofs.Crypto.KeyBlock
import OAuthRedirect.Proofs.Resolver.History
import OAuthRedirect.Proofs.Resolver.ProofKey

/-!
# The keys of a run

In a run, one resolver with generators of the usual lengths takes calls one after another, all of
them from one sequence of random bytes. `Step.Accounted` is the account of a step of the run: how
many bytes it takes, by what becomes of the request and by whether its registration uses proof
keys; which block of bytes each of its keys is the text of; and that the request, on its own from
the same byte on, would have gone the same way.

Every step of every run is accounted for, and the blocks of the run lie one after another, so that
no byte goes into two keys (`Resolver.keys_apart_of_runAll`). The bytes of a verifier stay used when
its request fails afterwards, and so do those of a state when the request is found fault with.
-/

namespace OAuthRedirect

namespace Resolver

section Strings

variable {τ : Type} [Inhabited τ] [LT τ] [Strings τ]

/-! ### What a step takes -/

/-- Is a proof key made for a request? -/
def needsKey (resolver : Resolver τ) (request : Request) (explicit : Option String) : Bool :=
  (resolver.registrationFor request explicit).any Registration.usesPkce

/-- Is a state drawn on the way to an outcome? One is for an authorization request, be it resolved
or found fault with. -/
def drawsState : Except (Failure τ) (Option (AuthorizationRequest τ)) → Bool
  | .ok (some _) | .error (.invalid _) => true
  | _ => false

namespace Step

/-- The request that a step resolves to. -/
def result? (step : Step τ) : Option (AuthorizationRequest τ) :=
  step.outcome.toOption.join

omit [Inhabited τ] [Strings τ] in
theorem result?_eq_some_iff {step : Step τ} {result : AuthorizationRequest τ} :
    step.result? = some result ↔ step.outcome = .ok (some result) := by
  obtain ⟨_, _, outcome, _⟩ := step
  cases outcome <;> simp [result?, Except.toOption]

/-- The proof key that is made in a step. -/
def pkce? (step : Step τ) (resolver : Resolver τ) : Option Pkce :=
  resolver.madeKey step.call.sha256 step.call.request step.call.explicit step.before

/-- The keys that are made in a step: a verifier, whatever becomes of the request then, and the
state of a resolved request. -/
def keys (step : Step τ) (resolver : Resolver τ) : List τ :=
  ((step.pkce? resolver).map fun p => Strings.ofText p.verifier).toList ++
    (step.result?.bind (·.state)).toList

/-- How many bytes go into the verifier of a step. -/
def verifierBytes (step : Step τ) (resolver : Resolver τ) : Nat :=
  if resolver.needsKey step.call.request step.call.explicit then 96 else 0

/-- The blocks for the keys of a step. -/
def blocks (step : Step τ) (resolver : Resolver τ) : List KeyBlock :=
  (if resolver.needsKey step.call.request step.call.explicit then
    [⟨.forVerifiers, step.before.entropy.drawn⟩] else []) ++
  (if step.result?.isSome then
    [⟨.forStates, step.before.entropy.drawn + step.verifierBytes resolver⟩] else [])

/-- A step takes the next `count` bytes. -/
def Takes (step : Step τ) (count : Nat) : Prop :=
  step.after.entropy = { step.before.entropy with drawn := step.before.entropy.drawn + count }

/-- **The account of a step**, for keys from some sequence of bytes. -/
structure Accounted (step : Step τ) (resolver : Resolver τ) (source : Entropy) : Prop where
  run_eq : resolver.run step.call.sha256 step.call.request step.call.explicit step.before =
    (step.outcome, step.after)
  byteAt : step.before.entropy.byteAt = source.byteAt
  passedBy : step.outcome = .ok none → step.Takes 0
  unknown (id : String) :
    step.outcome = .error (.refused (.unknownRegistration id)) → step.Takes 0
  unsupported (id : String) (grant : Grant) :
    step.outcome = .error (.refused (.unsupportedGrant id grant)) → step.Takes 0
  badTemplate (e : Template.UnknownVariable τ) (id : String) :
    step.outcome = .error (.refused (.badTemplate e id)) →
      ∃ registration,
        resolver.registrationFor step.call.request step.call.explicit = some registration ∧
        step.Takes (if registration.usesPkce then 96 else 0)
  /-- A request that is found fault with has got its state before. -/
  invalid (faults : List Fault) :
    step.outcome = .error (.invalid faults) →
      ∃ registration,
        resolver.registrationFor step.call.request step.call.explicit = some registration ∧
        step.Takes ((if registration.usesPkce then 96 else 0) + 32)
  resolved (result : AuthorizationRequest τ) :
    step.outcome = .ok (some result) →
      ∃ registration,
        resolver.registrationFor step.call.request step.call.explicit = some registration ∧
        step.Takes ((if registration.usesPkce then 96 else 0) + 32) ∧
        result.attributes.lookup "code_verifier" =
          (if registration.usesPkce then
            some (.str (KeyBlock.text ⟨.forVerifiers, step.before.entropy.drawn⟩ source))
          else none) ∧
        result.state = some (Strings.ofText (KeyBlock.text ⟨.forStates,
          step.before.entropy.drawn + if registration.usesPkce then 96 else 0⟩ source))
  /-- Each key is the text of its own block. -/
  keys_eq : step.keys resolver =
    (step.blocks resolver).map fun b => Strings.ofText (b.text source)
  /-- A verifier is on record, whatever becomes of the request. -/
  logged (p : Pkce) : step.pkce? resolver = some p → pkceEvent p ∈ step.after.log
  /-- On its own from the same byte on, the call has the same outcome and does the same. -/
  alone : ∃ events, step.after.log = step.before.log ++ events ∧
    ∀ log, resolver.run step.call.sha256 step.call.request step.call.explicit
      ⟨⟨source.byteAt, step.before.entropy.drawn⟩, log⟩ =
        (step.outcome, ⟨step.after.entropy, log ++ events⟩)

end Step

/-! ### When a proof key is made -/

omit [Strings τ] in
/-- A grant without a redirect has no proof key. -/
theorem usesPkce_of_redirect?_eq_none {registration : Registration τ}
    (h : registration.grant.redirect? = none) : registration.usesPkce = false := by
  have hne := (Grant.redirect?_eq_none_iff.mp h).1
  simp [Registration.usesPkce, hne]

omit [Strings τ] in
theorem needsKey_of_find {resolver : Resolver τ} {request : Request} {explicit : Option String}
    {id : String} {found : Option (Registration τ)}
    (hid : resolver.requestedId request explicit = some id)
    (hfind : resolver.find id = .ok found) :
    resolver.needsKey request explicit = found.any Registration.usesPkce := by
  rw [needsKey, registrationFor_of_find hid hfind]

section Refused

variable {resolver : Resolver τ} {sha256 : Bool} {request : Request} {explicit : Option String}
  {before after : Session}

theorem needsKey_of_run_eq_passedBy
    (hrun : resolver.run sha256 request explicit before = (.ok none, after)) :
    resolver.needsKey request explicit = false := by
  cases course_iff_run_eq.mpr hrun with
  | passedBy hid => rw [needsKey, registrationFor_of_requestedId_eq_none hid, Option.any_none]

theorem needsKey_of_run_eq_unknown {id : String}
    (hrun : resolver.run sha256 request explicit before =
      (.error (.refused (.unknownRegistration id)), after)) :
    resolver.needsKey request explicit = false := by
  cases course_iff_run_eq.mpr hrun with
  | unknown hid hfind => rw [needsKey_of_find hid hfind, Option.any_none]

theorem needsKey_of_run_eq_unsupported {id : String} {grant : Grant}
    (hrun : resolver.run sha256 request explicit before =
      (.error (.refused (.unsupportedGrant id grant)), after)) :
    resolver.needsKey request explicit = false := by
  cases course_iff_run_eq.mpr hrun with
  | unsupported hid hfind hgrant =>
    rw [needsKey_of_find hid hfind, Option.any_some, usesPkce_of_redirect?_eq_none hgrant]

theorem needsKey_of_run_eq_badTemplate {e : Template.UnknownVariable τ} {id : String}
    (hrun : resolver.run sha256 request explicit before =
      (.error (.refused (.badTemplate e id)), after)) :
    ∃ registration, resolver.registrationFor request explicit = some registration ∧
      resolver.needsKey request explicit = registration.usesPkce := by
  cases course_iff_run_eq.mpr hrun with
  | @badTemplate _ _ registration _ _ hid hfind =>
    exact ⟨registration, registrationFor_of_find hid hfind, needsKey_of_find hid hfind⟩

theorem needsKey_of_run_eq_invalid {faults : List Fault}
    (hrun : resolver.run sha256 request explicit before = (.error (.invalid faults), after)) :
    ∃ registration, resolver.registrationFor request explicit = some registration ∧
      resolver.needsKey request explicit = registration.usesPkce := by
  cases course_iff_run_eq.mpr hrun with
  | @invalid _ _ _ registration _ _ hid hfind =>
    exact ⟨registration, registrationFor_of_find hid hfind, needsKey_of_find hid hfind⟩

end Refused

/-! ### One run -/

section OneRun

variable {registrations : String → Except LookupError (Option (Registration τ))}
  {matcher : PathMatcher} {sha256 : Bool} {request : Request} {explicit : Option String}
  {before after : Session} {outcome : Except (Failure τ) (Option (AuthorizationRequest τ))}

omit [Strings τ] in
theorem keyed_entropy (registration : Registration τ) (session : Session) :
    ((usual registrations matcher).keyed sha256 registration session).2.entropy =
      { session.entropy with
        drawn := session.entropy.drawn + if registration.usesPkce then 96 else 0 } := by
  cases huses : registration.usesPkce with
  | true =>
    rw [keyed_of_usesPkce huses]
    rfl
  | false =>
    rw [keyed_of_not_usesPkce huses]
    rfl

/-- **The bytes of a run**: 96 of them for a proof key, when one is made, and 32 for a state. -/
theorem entropy_of_run_eq
    (hrun : (usual registrations matcher).run sha256 request explicit before = (outcome, after)) :
    after.entropy = { before.entropy with
      drawn := before.entropy.drawn +
        ((if (usual registrations matcher).needsKey request explicit then 96 else 0) +
          if drawsState outcome then 32 else 0) } := by
  cases course_iff_run_eq.mpr hrun with
  | passedBy hid =>
    rw [needsKey, registrationFor_of_requestedId_eq_none hid]
    rfl
  | lookup hid hfind =>
    rw [needsKey, registrationFor_of_find_eq_error hid hfind]
    rfl
  | unknownNoUrl hid hfind =>
    rw [needsKey_of_find hid hfind]
    rfl
  | unknown hid hfind =>
    rw [needsKey_of_find hid hfind]
    rfl
  | unsupported hid hfind hgrant =>
    rw [needsKey_of_find hid hfind, Option.any_some, usesPkce_of_redirect?_eq_none hgrant]
    rfl
  | noBaseUrl hid hfind =>
    rw [needsKey_of_find hid hfind, Option.any_some, keyed_entropy]
    rfl
  | badTemplate hid hfind =>
    rw [needsKey_of_find hid hfind, Option.any_some, Session.logged, keyed_entropy]
    rfl
  | invalid hid hfind =>
    rw [needsKey_of_find hid hfind, Option.any_some, keyed_entropy, ← Nat.add_assoc]
    rfl
  | resolved hid hfind =>
    rw [needsKey_of_find hid hfind, Option.any_some, keyed_entropy, ← Nat.add_assoc]
    rfl

theorem byteAt_eq_of_run_eq
    (hrun : (usual registrations matcher).run sha256 request explicit before = (outcome, after)) :
    after.entropy.byteAt = before.entropy.byteAt := by
  rw [entropy_of_run_eq hrun]

omit [Strings τ] in
/-- The verifier of a registration that uses proof keys is the text of the next 96 bytes. -/
theorem verifier_keyed (registration : Registration τ) (session : Session) :
    ((usual registrations matcher).keyed sha256 registration session).1.map Pkce.verifier =
      if registration.usesPkce then
        some (KeyBlock.text ⟨.forVerifiers, session.entropy.drawn⟩ session.entropy)
      else none := by
  cases huses : registration.usesPkce with
  | true =>
    rw [keyed_of_usesPkce huses, Option.map_some]
    exact congrArg some (Pkce.verifier_ofVerifier sha256 _)
  | false =>
    rw [keyed_of_not_usesPkce huses]
    rfl

omit [Strings τ] in
theorem verifier_madeKey (session : Session) :
    ((usual registrations matcher).madeKey sha256 request explicit session).map Pkce.verifier =
      if (usual registrations matcher).needsKey request explicit then
        some (KeyBlock.text ⟨.forVerifiers, session.entropy.drawn⟩ session.entropy)
      else none := by
  rw [madeKey, needsKey]
  cases (usual registrations matcher).registrationFor request explicit with
  | none => rfl
  | some registration => exact verifier_keyed registration session

omit [Strings τ] in
theorem pkceEvent_mem_keyed {resolver : Resolver τ} {registration : Registration τ}
    {session : Session} {p : Pkce} (h : (resolver.keyed sha256 registration session).1 = some p) :
    pkceEvent p ∈ (resolver.keyed sha256 registration session).2.log := by
  cases huses : registration.usesPkce with
  | true =>
    rw [keyed_of_usesPkce huses] at h ⊢
    obtain rfl := Option.some_inj.mp h
    exact List.mem_append_right _ List.mem_cons_self
  | false =>
    rw [keyed_of_not_usesPkce huses] at h
    contradiction

/-- **A proof key that is made is logged**, whatever becomes of the request. -/
theorem pkceEvent_mem_of_run_eq {resolver : Resolver τ} {p : Pkce}
    (hrun : resolver.run sha256 request explicit before = (outcome, after))
    (hmade : resolver.madeKey sha256 request explicit before = some p) :
    pkceEvent p ∈ after.log := by
  cases course_iff_run_eq.mpr hrun with
  | passedBy hid =>
    rw [madeKey, registrationFor_of_requestedId_eq_none hid] at hmade
    contradiction
  | lookup hid hfind =>
    rw [madeKey, registrationFor_of_find_eq_error hid hfind] at hmade
    contradiction
  | unknownNoUrl hid hfind =>
    rw [madeKey, registrationFor_of_find hid hfind] at hmade
    contradiction
  | unknown hid hfind =>
    rw [madeKey, registrationFor_of_find hid hfind] at hmade
    contradiction
  | unsupported hid hfind hgrant =>
    rw [madeKey_of_find hid hfind, keyed_of_not_usesPkce (usesPkce_of_redirect?_eq_none hgrant)]
      at hmade
    contradiction
  | noBaseUrl hid hfind =>
    rw [madeKey_of_find hid hfind] at hmade
    exact pkceEvent_mem_keyed hmade
  | badTemplate hid hfind =>
    rw [madeKey_of_find hid hfind] at hmade
    exact List.mem_append_left _ (pkceEvent_mem_keyed hmade)
  | invalid hid hfind =>
    rw [madeKey_of_find hid hfind] at hmade
    exact pkceEvent_mem_keyed hmade
  | resolved hid hfind =>
    rw [madeKey_of_find hid hfind] at hmade
    exact List.mem_append_left _ (pkceEvent_mem_keyed hmade)

end OneRun

/-! ### Accounts -/

section Accounts

variable {registrations : String → Except LookupError (Option (Registration τ))}
  {matcher : PathMatcher} {step : Step τ}
  (hrun : (usual registrations matcher).run step.call.sha256 step.call.request step.call.explicit
    step.before = (step.outcome, step.after))

namespace Step

include hrun

theorem takes : step.Takes (step.verifierBytes (usual registrations matcher) +
    if drawsState step.outcome then 32 else 0) :=
  entropy_of_run_eq hrun

/-- A step takes no bytes when neither a proof key nor a state is made. -/
theorem takes_zero (hstate : drawsState step.outcome = false)
    (hneeds : (usual registrations matcher).needsKey step.call.request step.call.explicit = false) :
    step.Takes 0 := by
  have htakes := takes hrun
  rw [hstate, verifierBytes, hneeds] at htakes
  exact htakes

/-- A refused template is refused after the proof key of its registration is made, and before a
state is. -/
theorem exists_of_outcome_eq_badTemplate {e : Template.UnknownVariable τ} {id : String}
    (houtcome : step.outcome = .error (.refused (.badTemplate e id))) :
    ∃ registration,
      (usual registrations matcher).registrationFor step.call.request step.call.explicit =
        some registration ∧
      step.Takes (if registration.usesPkce then 96 else 0) := by
  have htakes := takes hrun
  rw [houtcome] at hrun
  obtain ⟨registration, hregistration, hneeds⟩ := needsKey_of_run_eq_badTemplate hrun
  rw [houtcome, verifierBytes, hneeds] at htakes
  exact ⟨registration, hregistration, htakes⟩

/-- An authorization request is found fault with after its state is made. -/
theorem exists_of_outcome_eq_invalid {faults : List Fault}
    (houtcome : step.outcome = .error (.invalid faults)) :
    ∃ registration,
      (usual registrations matcher).registrationFor step.call.request step.call.explicit =
        some registration ∧
      step.Takes ((if registration.usesPkce then 96 else 0) + 32) := by
  have htakes := takes hrun
  rw [houtcome] at hrun
  obtain ⟨registration, hregistration, hneeds⟩ := needsKey_of_run_eq_invalid hrun
  rw [houtcome, verifierBytes, hneeds] at htakes
  exact ⟨registration, hregistration, htakes⟩

/-- The state of a resolved request is the text of the 32 bytes after those of its verifier. -/
theorem state_eq_text {result : AuthorizationRequest τ}
    (houtcome : step.outcome = .ok (some result)) :
    result.state = some (Strings.ofText (KeyBlock.text ⟨.forStates,
      step.before.entropy.drawn + step.verifierBytes (usual registrations matcher)⟩
        step.before.entropy)) := by
  rw [houtcome] at hrun
  obtain ⟨_, registration, _, hid, hfind, hanswers⟩ := exists_answers_of_run_eq hrun
  rw [verifierBytes, needsKey_of_find hid hfind, hanswers.state, keyed_entropy]
  rfl

theorem keys_eq_text :
    step.keys (usual registrations matcher) =
      (step.blocks (usual registrations matcher)).map fun b =>
        Strings.ofText (b.text step.before.entropy) := by
  have hverifier : (step.pkce? (usual registrations matcher)).map Pkce.verifier = _ :=
    verifier_madeKey step.before
  have hkey : ((step.pkce? (usual registrations matcher)).map fun p =>
      (Strings.ofText p.verifier : τ)) = _ :=
    (Option.map_map Strings.ofText Pkce.verifier _).symm.trans
      (congrArg (Option.map Strings.ofText) hverifier)
  rw [keys, blocks, List.map_append, hkey]
  congr 1
  · split <;> rfl
  · cases hresult : step.result? with
    | none => rfl
    | some result =>
      rw [Option.bind_some, state_eq_text hrun (result?_eq_some_iff.mp hresult)]
      rfl

/-- The blocks of a step lie among the bytes that it takes. -/
theorem inOrder_blocks :
    KeyBlock.InOrder step.before.entropy.drawn (step.blocks (usual registrations matcher))
      step.after.entropy.drawn := by
  have hdrawn : step.after.entropy.drawn = step.before.entropy.drawn +
      (step.verifierBytes (usual registrations matcher) +
        if drawsState step.outcome then 32 else 0) :=
    congrArg Entropy.drawn (takes hrun)
  have hverifier : KeyBlock.InOrder step.before.entropy.drawn
      (if (usual registrations matcher).needsKey step.call.request step.call.explicit then
        [⟨.forVerifiers, step.before.entropy.drawn⟩] else [])
      (step.before.entropy.drawn + step.verifierBytes (usual registrations matcher)) := by
    rw [verifierBytes]
    split
    · exact .cons (Nat.le_refl _) (.nil (Nat.le_refl _))
    · exact .nil (Nat.le_refl _)
  have hstate : KeyBlock.InOrder
      (step.before.entropy.drawn + step.verifierBytes (usual registrations matcher))
      (if step.result?.isSome then
        [⟨.forStates, step.before.entropy.drawn + step.verifierBytes (usual registrations matcher)⟩]
      else []) step.after.entropy.drawn := by
    rw [hdrawn, ← Nat.add_assoc]
    split
    · rename_i hsome
      obtain ⟨result, hresult⟩ := Option.isSome_iff_exists.mp hsome
      rw [result?_eq_some_iff.mp hresult]
      exact .cons (Nat.le_refl _) (.nil (Nat.le_refl _))
    · exact .nil (Nat.le_add_right _ _)
  exact hverifier.append hstate

/-- The account of a resolved request. -/
theorem exists_of_outcome_eq_ok {result : AuthorizationRequest τ}
    (houtcome : step.outcome = .ok (some result)) :
    ∃ registration,
      (usual registrations matcher).registrationFor step.call.request step.call.explicit =
        some registration ∧
      step.Takes ((if registration.usesPkce then 96 else 0) + 32) ∧
      result.attributes.lookup "code_verifier" =
        (if registration.usesPkce then
          some (.str (KeyBlock.text ⟨.forVerifiers, step.before.entropy.drawn⟩
            step.before.entropy))
        else none) ∧
      result.state = some (Strings.ofText (KeyBlock.text ⟨.forStates,
        step.before.entropy.drawn + if registration.usesPkce then 96 else 0⟩
          step.before.entropy)) := by
  have htakes := takes hrun
  have hstate := state_eq_text hrun houtcome
  rw [houtcome] at hrun
  obtain ⟨id, registration, callback, hid, hfind, hanswers⟩ := exists_answers_of_run_eq hrun
  rw [verifierBytes, needsKey_of_find hid hfind] at htakes hstate
  rw [houtcome] at htakes
  refine ⟨registration, registrationFor_of_find hid hfind, htakes, ?_, hstate⟩
  rw [hanswers.lookup_verifier_eq, verifier_keyed]
  split <;> rfl

/-- **Every step is accounted for.** -/
theorem accounted {source : Entropy} (hbytes : step.before.entropy.byteAt = source.byteAt) :
    step.Accounted (usual registrations matcher) source where
  run_eq := hrun
  byteAt := hbytes
  passedBy houtcome := by
    refine takes_zero hrun (by rw [houtcome]; rfl) ?_
    rw [houtcome] at hrun
    exact needsKey_of_run_eq_passedBy hrun
  unknown id houtcome := by
    refine takes_zero hrun (by rw [houtcome]; rfl) ?_
    rw [houtcome] at hrun
    exact needsKey_of_run_eq_unknown hrun
  unsupported id grant houtcome := by
    refine takes_zero hrun (by rw [houtcome]; rfl) ?_
    rw [houtcome] at hrun
    exact needsKey_of_run_eq_unsupported hrun
  badTemplate e id houtcome := exists_of_outcome_eq_badTemplate hrun houtcome
  invalid faults houtcome := exists_of_outcome_eq_invalid hrun houtcome
  resolved result houtcome := by
    obtain ⟨registration, hregistration, htakes, hverifier, hstate⟩ :=
      exists_of_outcome_eq_ok hrun houtcome
    rw [KeyBlock.text_congr hbytes] at hverifier hstate
    exact ⟨registration, hregistration, htakes, hverifier, hstate⟩
  keys_eq := by
    rw [keys_eq_text hrun]
    exact List.map_congr_left fun b _ => congrArg Strings.ofText (b.text_congr hbytes)
  logged p hmade := pkceEvent_mem_of_run_eq hrun hmade
  alone := by
    have hbefore : ⟨source.byteAt, step.before.entropy.drawn⟩ = step.before.entropy := by
      rw [← hbytes]
    have hown := hrun
    rw [show step.before = ⟨step.before.entropy, step.before.log⟩ from rfl, run_frame] at hown
    obtain ⟨houtcome, hafter⟩ := Prod.mk.inj hown
    refine ⟨_, congrArg Session.log hafter.symm, fun log => ?_⟩
    rw [hbefore, run_frame log, houtcome, ← hafter]

end Step

end Accounts

/-! ### Runs -/

section Runs

variable (registrations : String → Except LookupError (Option (Registration τ)))
  (matcher : PathMatcher)

theorem accounted_of_mem_history {calls : List Call} {session : Session} {source : Entropy}
    (hbytes : session.entropy.byteAt = source.byteAt) :
    ∀ step ∈ (usual registrations matcher).history calls session,
      step.Accounted (usual registrations matcher) source := by
  induction calls generalizing session with
  | nil => simp [history]
  | cons call rest ih =>
    intro step hmem
    rcases List.mem_cons.mp hmem with rfl | hmem
    · exact Step.accounted (run_stepOf _ call session) hbytes
    · -- the bytes are the same after the step
      have hafter := byteAt_eq_of_run_eq (run_stepOf (usual registrations matcher) call session)
      exact ih (hafter.trans hbytes) step hmem

/-- The blocks of a run lie among the bytes that it takes. -/
theorem exists_inOrder_history (calls : List Call) (session : Session) :
    ∃ last, KeyBlock.InOrder session.entropy.drawn
      (((usual registrations matcher).history calls session).flatMap
        fun step => step.blocks (usual registrations matcher)) last := by
  induction calls generalizing session with
  | nil => exact ⟨_, .nil (Nat.le_refl _)⟩
  | cons call rest ih =>
    let step := (usual registrations matcher).stepOf call session
    have hstep : KeyBlock.InOrder step.before.entropy.drawn
        (step.blocks (usual registrations matcher)) step.after.entropy.drawn :=
      Step.inOrder_blocks (run_stepOf _ call session)
    obtain ⟨last, hrest⟩ := ih step.after
    refine ⟨last, ?_⟩
    rw [history, List.flatMap_cons]
    exact hstep.append hrest

/-- **The keys of a run lie apart.** Whatever a resolver with the usual generators is asked in a
run, every step is accounted for by what becomes of its request, the keys of the run are the texts
of its blocks, one each and in order, and of two blocks the later one starts when the earlier one
has stopped: no byte goes into two keys. -/
theorem keys_apart_of_runAll (calls : List Call) (session : Session) :
    let resolver := usual registrations matcher
    let steps := resolver.history calls session
    let blocks := steps.flatMap fun step => step.blocks resolver
    resolver.runAll calls session = steps.map (fun step => (step.outcome, step.after)) ∧
    (∀ step ∈ steps, step.Accounted resolver session.entropy) ∧
    (steps.flatMap fun step => step.keys resolver) =
      blocks.map (fun b => Strings.ofText (b.text session.entropy)) ∧
    (∀ b ∈ blocks, session.entropy.drawn ≤ b.start) ∧
    blocks.Pairwise fun earlier later => earlier.stop ≤ later.start := by
  intro resolver steps blocks
  have haccounted : ∀ step ∈ steps, step.Accounted resolver session.entropy :=
    accounted_of_mem_history registrations matcher rfl
  obtain ⟨last, hblocks⟩ := exists_inOrder_history registrations matcher calls session
  refine ⟨resolver.runAll_eq calls session, haccounted, ?_, hblocks.start_le, hblocks.pairwise⟩
  rw [List.map_flatMap]
  exact List.flatMap_congr fun step hmem => (haccounted step hmem).keys_eq

end Runs

end Strings

/-- A public client. -/
private def watch : Registration where
  id := "watch"
  clientId := "w-1"
  clientSecret := none
  authentication := .none
  grant := .authorizationCode
  authorizationUri := some "https://watch.example/authorize"
  redirectTemplate := some Template.standard
  scopes := .empty
  clientName := none
  id_ne_empty := by decide
  clientId_ne_empty := by decide
  endpoints _ _ := by decide

/-- A public client with a template that cannot be filled. -/
private def stopped : Registration :=
  { watch with
    id := "stopped"
    redirectTemplate := some "\x7btenant\x7d"
    id_ne_empty := by decide
    endpoints := fun _ _ => by decide }

private def watchResolver : Resolver :=
  .usual (fun id => .ok ([watch, stopped].find? (·.id == id))) ⟨defaultBase⟩

private def watchRequest : Request where
  method := "GET"
  path := some "/"
  rootPath := none
  host := some "app.example"
  server := none
  scheme := "https"
  query := []

private def asking (id : String) : Call :=
  ⟨true, watchRequest, some id⟩

private theorem addressable_watchRequest : watchRequest.Addressable :=
  .of_https rfl rfl rfl (by decide) rfl

private theorem firstUnsupported?_watch :
    Template.firstUnsupported? watch.callbackTemplate = none ∧
      Template.firstUnsupported? stopped.callbackTemplate = some "tenant" := by
  decide +kernel

private theorem outcome_nobody (session : Session) :
    (watchResolver.stepOf (asking "nobody") session).outcome =
      .error (.refused (.unknownRegistration "nobody")) := by
  obtain ⟨_, hbase⟩ := addressable_watchRequest.exists_baseUrl
  obtain ⟨_, hurl⟩ := Request.exists_url_of_baseUrl hbase
  exact (outcome_unknown_iff hurl).mpr ⟨rfl, rfl⟩

private theorem outcome_stopped (session : Session) :
    (watchResolver.stepOf (asking "stopped") session).outcome =
      .error (.refused (.badTemplate ⟨"\x7btenant\x7d", "tenant"⟩ "stopped")) := by
  obtain ⟨_, hbase⟩ := addressable_watchRequest.exists_baseUrl
  have hfind : watchResolver.find "stopped" = .ok (some stopped) := rfl
  exact (outcome_badTemplate_iff rfl hfind rfl hbase).mpr firstUnsupported?_watch.2

private theorem outcome_watch (session : Session) :
    ∃ result, (watchResolver.stepOf (asking "watch") session).outcome = .ok (some result) := by
  obtain ⟨_, hbase⟩ := addressable_watchRequest.exists_baseUrl
  have hid : watchResolver.requestedId watchRequest (some "watch") = some "watch" := rfl
  have hfind : watchResolver.find "watch" = .ok (some watch) := rfl
  obtain ⟨result, hresult, -⟩ := outcome_resolved hid hfind rfl hbase firstUnsupported?_watch.1
  exact ⟨result, hresult⟩

theorem keys_apart_of_runAll_watch :
    ∃ first second third result,
      watchResolver.history [asking "nobody", asking "stopped", asking "watch"]
        ⟨Entropy.seeded 1, []⟩ = [first, second, third] ∧
      first.outcome = .error (.refused (.unknownRegistration "nobody")) ∧
      second.outcome =
        .error (.refused (.badTemplate ⟨"\x7btenant\x7d", "tenant"⟩ "stopped")) ∧
      third.outcome = .ok (some result) ∧
      third.before.entropy.drawn = 96 ∧ third.after.entropy.drawn = 224 ∧
      result.attributes.lookup "code_verifier" =
        some (.str (KeyBlock.text ⟨.forVerifiers, 96⟩ (Entropy.seeded 1))) ∧
      result.state = some (KeyBlock.text ⟨.forStates, 192⟩ (Entropy.seeded 1)) := by
  let first := watchResolver.stepOf (asking "nobody") ⟨Entropy.seeded 1, []⟩
  let second := watchResolver.stepOf (asking "stopped") first.after
  let third := watchResolver.stepOf (asking "watch") second.after
  have haccounted : ∀ step ∈ [first, second, third],
      step.Accounted watchResolver (Entropy.seeded 1) :=
    (keys_apart_of_runAll _ _ [asking "nobody", asking "stopped", asking "watch"]
      ⟨Entropy.seeded 1, []⟩).2.1
  have hfirst := haccounted first (by simp)
  have hsecond := haccounted second (by simp)
  have hthird := haccounted third (by simp)
  obtain ⟨result, hresult⟩ := outcome_watch second.after
  have hzero : first.after.entropy.drawn = 0 :=
    congrArg Entropy.drawn (hfirst.unknown _ (outcome_nobody _))
  obtain ⟨registration, hregistration, hkey⟩ := hsecond.badTemplate _ _ (outcome_stopped _)
  obtain rfl : stopped = registration := Option.some_inj.mp hregistration
  have hdrawn : third.before.entropy.drawn = 96 := by
    have hadded : second.after.entropy.drawn = first.after.entropy.drawn + 96 :=
      congrArg Entropy.drawn hkey
    rw [hzero] at hadded
    exact hadded
  obtain ⟨registration, hregistration, hkeys, hverifier, hstate⟩ := hthird.resolved _ hresult
  obtain rfl : watch = registration := Option.some_inj.mp hregistration
  have hafter : third.after.entropy.drawn = third.before.entropy.drawn + 128 :=
    congrArg Entropy.drawn hkeys
  rw [hdrawn] at hverifier hstate hafter
  exact ⟨first, second, third, result, rfl, outcome_nobody _, outcome_stopped _, hresult, hdrawn,
    hafter, hverifier, hstate⟩

end Resolver

end OAuthRedirect
