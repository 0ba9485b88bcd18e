import OAuthRedirect.AuthorizationRequest
import OAuthRedirect.Proofs.Scopes

/-!
# Authorization requests as data

An authorization request, written as the members of an object, passes every check of its fields
and the check that its response type belongs to its grant (`AuthorizationRequest.ofJson_fields`).
No request can be made that these checks would refuse.
-/

namespace OAuthRedirect.AuthorizationRequest

/-- The fields of a request as the members of an object. -/
def fields (r : AuthorizationRequest WideString) : Members :=
  [("authorization_uri", .str r.authorizationUri),
    ("grant_type", .str r.grant.name),
    ("response_type", .str r.responseType.name),
    ("client_id", .str r.clientId),
    ("redirect_uri", Strings.orNull r.redirectUri),
    ("scopes", .arr (r.scopes.names.map WideString.toJson)),
    ("state", Strings.orNull r.state),
    ("additional_parameters", .obj r.additionalParameters),
    ("attributes", .obj r.attributes)]

theorem checkFields_fields (r : AuthorizationRequest WideString) :
    checkFields r.fields = .valid
      { authorizationUri := ⟨r.authorizationUri, r.authorizationUri_ne_empty⟩
        grant := r.grant.toGrant
        responseType := r.responseType
        clientId := ⟨r.clientId, r.clientId_ne_empty⟩
        redirectUri := r.redirectUri
        scopes := r.scopes
        state := r.state
        additionalParameters := r.additionalParameters
        attributes := r.attributes } := by
  -- every field has its member, and the checks of the two vocabularies know all their names
  have hgrant : Check.oneOf Grant.named (.str r.grant.name) = .valid r.grant.toGrant := by
    cases r.grant <;> rfl
  have htype : Check.oneOf ResponseType.named (.str r.responseType.name) =
      .valid r.responseType := by
    cases r.responseType <;> rfl
  rw [checkFields,
    Check.required_of_lookup rfl (Check.nonEmptyText_str r.authorizationUri_ne_empty),
    Check.required_of_lookup rfl hgrant,
    Check.required_of_lookup rfl htype,
    Check.required_of_lookup rfl (Check.nonEmptyText_str r.clientId_ne_empty),
    Check.optional_of_lookup rfl (Check.stringOrNull_orNull r.redirectUri),
    Check.optional_of_lookup rfl r.scopes.checkList_names,
    Check.optional_of_lookup rfl (Check.stringOrNull_orNull r.state)]
  rfl

/-- **A request passes its own checks.** -/
theorem ofJson_fields (r : AuthorizationRequest WideString) :
    ofJson (.obj r.fields) = .valid r := by
  rw [ofJson, checkFields_fields]
  change ofDraft _ = _
  simp only [ofDraft, RedirectGrant.redirect?_toGrant, responseType, if_true]

end OAuthRedirect.AuthorizationRequest
