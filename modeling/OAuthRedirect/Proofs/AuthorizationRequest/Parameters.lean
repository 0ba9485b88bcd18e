import OAuthRedirect.AuthorizationRequest

/-!
# The parameters of an authorization request

The parameters that are sent are standard ones, each of them at most once, and the additional
ones after them. A name that is not standard is looked up among the additional parameters alone
(`AuthorizationRequest.lookup_parameters`).
-/

namespace OAuthRedirect

private theorem lookup_map_snd {α β γ : Type} [BEq α] (f : β → γ) (pairs : List (α × β))
    (name : α) :
    (pairs.map fun pair => (pair.1, f pair.2)).lookup name = (pairs.lookup name).map f := by
  induction pairs with
  | nil => rfl
  | cons pair rest ih =>
    obtain ⟨key, value⟩ := pair
    rw [List.map_cons, List.lookup_cons, List.lookup_cons, ih]
    cases name == key <;> rfl

namespace AuthorizationRequest

/-- The names of the parameters before the redirect URI. -/
def leadingNames : List String := ["response_type", "client_id", "scope", "state"]

/-- The names of the parameters that are not additional. -/
def standardNames : List String := leadingNames ++ ["redirect_uri"]

variable {τ : Type} [LT τ] [Inhabited τ] [DecidableEq τ] [Strings τ]

/-- The parameters before the redirect URI. -/
def leading (r : AuthorizationRequest τ) : List (String × τ) :=
  [("response_type", Strings.ofText r.responseType.name), ("client_id", Strings.ofText r.clientId)]
    ++ (if r.scopes.names.isEmpty then [] else [("scope", Strings.spaced r.scopes.names)])
    ++ nonEmptyParameter "state" r.state

/-- The parameters behind the redirect URI: the additional ones. -/
def trailing (r : AuthorizationRequest τ) : List (String × τ) :=
  r.additionalParameters.map fun member => (member.1, Strings.shown member.2)

theorem parameters_eq (r : AuthorizationRequest τ) :
    r.parameters = r.leading ++ nonEmptyParameter "redirect_uri" r.redirectUri ++ r.trailing :=
  rfl

omit [LT τ] [Strings τ] in
theorem fst_of_mem_nonEmptyParameter {name : String} {value : Option τ} {parameter : String × τ}
    (h : parameter ∈ nonEmptyParameter name value) : parameter.1 = name := by
  unfold nonEmptyParameter at h
  split at h
  · contradiction
  · split at h
    · contradiction
    · rw [List.mem_singleton.mp h]

variable {r : AuthorizationRequest τ} {parameter : String × τ}

theorem fst_of_mem_leading (h : parameter ∈ r.leading) : parameter.1 ∈ leadingNames := by
  rw [leading, List.mem_append, List.mem_append] at h
  rcases h with (h | h) | h
  · simp only [List.mem_cons, List.not_mem_nil, or_false] at h
    rcases h with rfl | rfl
    · exact List.mem_cons_self
    · exact List.mem_cons_of_mem _ List.mem_cons_self
  · split at h
    · contradiction
    · rw [List.mem_singleton.mp h, leadingNames]
      simp
  · rw [fst_of_mem_nonEmptyParameter h]
    decide

omit [Inhabited τ] [DecidableEq τ] in
theorem fst_of_mem_trailing (h : parameter ∈ r.trailing) :
    parameter.1 ∈ r.additionalParameters.map Prod.fst := by
  obtain ⟨member, hmem, rfl⟩ := List.mem_map.mp h
  exact List.mem_map_of_mem hmem

theorem fst_of_mem_standard
    (h : parameter ∈ r.leading ++ nonEmptyParameter "redirect_uri" r.redirectUri) :
    parameter.1 ∈ standardNames := by
  rcases List.mem_append.mp h with h | h
  · exact List.mem_append_left _ (fst_of_mem_leading h)
  · rw [fst_of_mem_nonEmptyParameter h]
    decide

/-- A parameter is standard or additional. -/
theorem fst_of_mem_parameters (h : parameter ∈ r.parameters) :
    parameter.1 ∈ standardNames ∨ parameter.1 ∈ r.additionalParameters.map Prod.fst := by
  rw [parameters_eq] at h
  rcases List.mem_append.mp h with h | h
  · exact .inl (fst_of_mem_standard h)
  · exact .inr (fst_of_mem_trailing h)

/-- A name that is not standard is looked up among the additional parameters. -/
theorem lookup_parameters {name : String} (h : name ∉ standardNames) :
    r.parameters.lookup name = (r.additionalParameters.lookup name).map Strings.shown := by
  -- nothing is found among the standard parameters
  have hnone : (r.leading ++ nonEmptyParameter "redirect_uri" r.redirectUri).lookup name =
      none := by
    rw [List.lookup_eq_none_iff]
    intro parameter hmem
    have hne : name ≠ parameter.1 := fun heq => h (heq ▸ fst_of_mem_standard hmem)
    simpa using hne
  rw [parameters_eq, List.lookup_append, hnone, Option.none_or, trailing, lookup_map_snd]

end AuthorizationRequest

end OAuthRedirect
