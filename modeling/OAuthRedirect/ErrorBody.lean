import OAuthRedirect.Validation

/-!
# Error bodies

The body of an error answer of OAuth 2.0: an error code, and up to three strings about it that
are left out when they are absent.
-/

namespace OAuthRedirect

/-- An error of OAuth 2.0, as it is answered. -/
structure ErrorBody where
  error : WideString
  description : Option WideString := none
  uri : Option WideString := none
  state : Option WideString := none
  deriving DecidableEq, Repr

namespace ErrorBody

/-- The error that some data describes. -/
def ofJson : Json → Checked ErrorBody
  | .obj members =>
    ErrorBody.mk
      <$> Check.required members "error" Check.string
      <*> Check.optional members "error_description" none Check.stringOrNull
      <*> Check.optional members "error_uri" none Check.stringOrNull
      <*> Check.optional members "state" none Check.stringOrNull
  | _ => .fault (.notRecord "OAuthError")

/-- A member that is left out when it has no value. -/
def present (name : String) : Option WideString → Members
  | some value => [(name, value.toJson)]
  | none => []

/-- The members of the body. -/
def members (body : ErrorBody) : Members :=
  ("error", body.error.toJson) :: present "error_description" body.description
    ++ present "error_uri" body.uri ++ present "state" body.state

end ErrorBody

end OAuthRedirect
