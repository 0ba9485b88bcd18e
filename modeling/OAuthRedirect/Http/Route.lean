import OAuthRedirect.Http.Request

/-!
# Routes

The pages of the application by path. A path is matched without the context path, and a line
feed at its very end does not count for the fixed pages.
-/

namespace OAuthRedirect

/-- A page of the application. -/
inductive Route where
  | index
  | health
  /-- Starts the authorization of a registration. -/
  | authorize (id : String)
  deriving DecidableEq, Repr

/-- A text without one line feed at its end. -/
def dropFinalLineFeed (cs : List Char) : List Char :=
  if cs.getLast? = some '\n' then cs.dropLast else cs

/-- The page at a path. -/
def Route.ofPath? (path : String) : Option Route :=
  let cs := path.toList
  if dropFinalLineFeed cs = ['/'] then some .index
  else if dropFinalLineFeed cs = "/health".toList then some .health
  else
    ((Text.stripFront? "/authorize".toList cs).bind PathMatcher.segment?).map .authorize

namespace Request

/-- The path that pages are matched against: without the context path as it is given, when it
is below that. -/
def routePath (r : Request) : Except UrlError String := do
  let some path := r.path | throw .noPath
  let root := (r.rootPath.getD "").toList
  if root.isEmpty then pure path
  else pure (((below? root path.toList).map String.ofList).getD path)

/-- The same request with the trailing slashes of its path removed, or with one added when the
path has none. -/
def toggleSlash (r : Request) (routePath : String) : Request :=
  let path := r.path.getD ""
  { r with
    path := some
      (if routePath.toList.getLast? = some '/' then dropTrailingSlashes path else path ++ "/") }

end Request

end OAuthRedirect
