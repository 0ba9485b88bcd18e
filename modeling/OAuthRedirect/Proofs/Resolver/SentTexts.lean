import OAuthRedirect.Proofs.AuthorizationRequest.Target
import OAuthRedirect.Proofs.Resolver.Outcome
import OAuthRedirect.Proofs.WideString

/-!
# Which resolved requests are sent

Only texts can be sent. Of what a resolved request sends, all but the scopes and the redirect URI
are texts in any case, so that its parameters are texts exactly when the scopes of its registration
and its redirect URI are (`AuthorizationRequest.Answers.exists_widened_iff`). Then there is
something to redirect to as long as the endpoint is a reference (`Resolver.exists_sentUri_iff`).
-/

namespace OAuthRedirect

open WideString (isBroken)

namespace AuthorizationRequest

/-- Parameters are texts when none of them is broken. -/
theorem any_isBroken_eq_false_iff {parameters : List (String × WideString)} :
    parameters.any (·.2.isBroken) = false ↔ ∃ texts, parameters = widened texts := by
  constructor
  · intro h
    induction parameters with
    | nil => exact ⟨[], rfl⟩
    | cons parameter rest ih =>
      obtain ⟨name, value⟩ := parameter
      rw [List.any_cons, Bool.or_eq_false_iff] at h
      obtain ⟨s, rfl⟩ := WideString.isBroken_eq_false_iff.mp h.1
      obtain ⟨texts, rfl⟩ := ih h.2
      exact ⟨(name, s) :: texts, rfl⟩
  · rintro ⟨texts, rfl⟩
    simp [widened, isBroken]

theorem any_isBroken_nonEmptyParameter (name : String) (w : WideString) :
    (nonEmptyParameter name (some w)).any (·.2.isBroken) = w.isBroken := by
  by_cases hempty : w = default
  · rw [nonEmptyParameter, if_pos hempty, hempty]
    rfl
  · rw [nonEmptyParameter, if_neg hempty]
    exact Bool.or_false _

theorem any_isBroken_scope (scopes : Scopes WideString) :
    (if scopes.names.isEmpty then [] else [("scope", Strings.spaced scopes.names)]).any
        (fun parameter => parameter.2.isBroken) = scopes.names.any isBroken := by
  cases hnames : scopes.names with
  | nil => rfl
  | cons name rest => exact (Bool.or_false _).trans (WideString.isBroken_join " " (name :: rest))

namespace Answers

variable {result : AuthorizationRequest WideString} {registration : Registration WideString}
  {callback : WideString} {state : String} {pkce : Option Pkce}
  (h : result.Answers registration callback state pkce)

include h

/-- A request that answers for a registration goes to its endpoint. -/
theorem wideAuthorizationUri :
    registration.authorizationUri = some ↑result.authorizationUri := by
  have hendpoint : registration.authorizationEndpoint = ↑result.authorizationUri :=
    Option.some_inj.mp ((Json.string?_toJson _).symm.trans h.endpoint)
  rw [Registration.authorizationEndpoint] at hendpoint
  cases huri : registration.authorizationUri with
  | none =>
    rw [huri] at hendpoint
    exact absurd (WideString.text.inj hendpoint).symm result.authorizationUri_ne_empty
  | some uri =>
    rw [huri] at hendpoint
    exact congrArg some hendpoint

/-- A parameter that is no text is the scopes or the redirect URI. -/
theorem any_isBroken_parameters :
    result.parameters.any (·.2.isBroken) =
      (registration.scopes.names.any isBroken || callback.isBroken) := by
  have hadditional : (result.additionalParameters.map fun member =>
      (member.1, (Strings.shown member.2 : WideString))).any (·.2.isBroken) = false := by
    rw [List.any_eq_false, List.forall_mem_map]
    intro member hmember
    have htext : (Strings.shown member.2 : WideString) = ↑member.2.display :=
      h.shown_additionalParameters member hmember
    simp [htext, isBroken]
  rw [parameters, List.any_append, List.any_append, List.any_append, List.any_append, hadditional,
    h.redirectUri, h.state, any_isBroken_nonEmptyParameter, any_isBroken_nonEmptyParameter,
    any_isBroken_scope, h.scopes]
  simp [isBroken, Strings.ofText]

/-- **The parameters of a resolved request are texts** when its scopes and its redirect URI are. -/
theorem exists_widened_iff :
    (∃ parameters, result.parameters = widened parameters) ↔
      (∀ name ∈ registration.scopes.names, ∃ s : String, name = ↑s) ∧
        ∃ s : String, callback = ↑s := by
  rw [← any_isBroken_eq_false_iff, h.any_isBroken_parameters, Bool.or_eq_false_iff,
    WideString.isBroken_eq_false_iff, List.any_eq_false]
  simp only [Bool.not_eq_true, WideString.isBroken_eq_false_iff]

end Answers

end AuthorizationRequest

namespace Resolver

/-- **Which resolved requests are sent.** A resolved request belongs to a registration that was
found for it. There is something to redirect to exactly when the endpoint of the registration is a
reference, and its scopes and the redirect URI are texts. -/
theorem exists_sentUri_iff {resolver : Resolver WideString} {sha256 : Bool} {request : Request}
    {explicit : Option String} {session session' : Session}
    {result : AuthorizationRequest WideString}
    (h : resolver.run sha256 request explicit session = (.ok (some result), session')) :
    ∃ id registration callback, resolver.requestedId request explicit = some id ∧
      resolver.find id = .ok (some registration) ∧ result.redirectUri = some callback ∧
      ((∃ uri, result.sentUri = .ok uri) ↔
        (∃ endpoint, Uri.split result.authorizationUri = .ok endpoint) ∧
          (∀ name ∈ registration.scopes.names, ∃ s : String, name = ↑s) ∧
          ∃ s : String, callback = ↑s) := by
  obtain ⟨id, registration, callback, hid, hfind, hanswers⟩ := exists_answers_of_run_eq h
  refine ⟨id, registration, callback, hid, hfind, hanswers.redirectUri, ?_⟩
  rw [← hanswers.exists_widened_iff]
  simp only [AuthorizationRequest.sentUri_eq_ok_iff]
  constructor
  · rintro ⟨_, endpoint, parameters, hsplit, hparameters, -⟩
    exact ⟨⟨endpoint, hsplit⟩, parameters, hparameters⟩
  · rintro ⟨⟨endpoint, hsplit⟩, parameters, hparameters⟩
    exact ⟨_, endpoint, parameters, hsplit, hparameters, rfl⟩

end Resolver

end OAuthRedirect
