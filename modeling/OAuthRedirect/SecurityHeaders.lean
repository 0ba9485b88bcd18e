/-!
# Security headers

Answers of the application carry one-time values, so they must not be cached, framed or named
as a referrer.
-/

namespace OAuthRedirect

/-- The headers of every answer, in order. -/
def securityHeaders : List (String × String) :=
  [("X-Content-Type-Options", "nosniff"),
    ("X-Frame-Options", "DENY"),
    ("Referrer-Policy", "no-referrer"),
    ("Cache-Control", "no-cache, no-store, must-revalidate"),
    ("Pragma", "no-cache"),
    ("Expires", "0")]

end OAuthRedirect
