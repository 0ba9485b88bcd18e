import OAuthRedirect.Proofs.Http.CanonicalBase
import OAuthRedirect.Proofs.RedirectTemplate.Scanning
import OAuthRedirect.Proofs.Resolver.Outcome

/-!
# The origin of a callback

The action comes from the query of a request and the id from its path, and a template puts both
into the callback as they are, with no escaping. A template that begins with the base URL and a
slash is safe all the same (`Resolver.redirectUri_origin`): what follows the base URL begins with a
character that ends an authority, and behind such a character nothing has a part in scheme and
authority (`Request.Served.origin_append`), whatever characters splitting takes out of it.
-/

namespace OAuthRedirect

open Text

/-! ### Templates behind the base URL -/

namespace Template

theorem pieces_written {name : List Char} (h : IsName name) (cs : List Char) :
    pieces (written name ++ cs) = .placeholder name :: pieces cs := by
  rw [written, List.cons_append, List.append_assoc, List.singleton_append,
    pieces_of_name?_eq_some (name?_append h cs)]

/-- The template that begins with the base URL and a slash. -/
def behindBase (rest : String) : String :=
  "\x7bbaseUrl\x7d/" ++ rest

theorem pieces_behindBase (rest : String) :
    pieces (behindBase rest).toList =
      .placeholder "baseUrl".toList :: .literal '/' :: pieces rest.toList := by
  have htext : (behindBase rest).toList =
      written "baseUrl".toList ++ '/' :: rest.toList := by
    simp [behindBase, written, openBrace, closeBrace]
  have hname : IsName "baseUrl".toList := by
    constructor
    all_goals decide
  rw [htext, pieces_written hname, pieces_of_ne_openBrace (by decide)]

theorem placeholders_behindBase (rest : String) :
    placeholders (behindBase rest) = "baseUrl" :: placeholders rest := by
  rw [placeholders, pieces_behindBase]
  rfl

theorem filled_behindBase (base action id rest : String) :
    filled (Resolver.templateVariables base action id) (behindBase rest) =
      base ++ String.ofList
        ('/' :: (filled (Resolver.templateVariables base action id) rest).toList) := by
  rw [← String.toList_inj, filled, pieces_behindBase, filled]
  simp [Piece.fill, Resolver.templateVariables]

/-- **A template behind the base URL** expands to the base URL, a slash and some text. -/
theorem expand_behindBase {rest : String} (h : ∀ name ∈ placeholders rest, name ∈ supportedNames)
    (base action id : String) :
    expand (behindBase rest) (Resolver.templateVariables base action id) =
      .ok (base ++ String.ofList
        ('/' :: (filled (Resolver.templateVariables base action id) rest).toList)) := by
  rw [← filled_behindBase]
  refine expand_eq_ok ?_
  rw [firstUnbound?_templateVariables, firstUnsupported?_eq_none_iff, placeholders_behindBase]
  exact List.forall_mem_cons.mpr ⟨List.mem_cons_self, h⟩

/-- The standard template is one of them. -/
example : standard = behindBase "\x7baction\x7d/oauth2/code/\x7bregistrationId\x7d" := by decide

end Template

/-! ### Texts behind a base URL -/

namespace Request

variable {r : Request}

theorem Hosted.exists_baseUrl_iff (h : r.Hosted) :
    (∃ base, r.baseUrl = .ok base) ↔ ∃ cs, Utf8.decode r.query = .ok cs := by
  constructor
  · rintro ⟨base, hbase⟩
    cases hquery : Utf8.decode r.query with
    | ok cs => exact ⟨cs, rfl⟩
    | error d =>
      have herror := h.baseUrl_eq_error_iff.mpr ⟨d, hquery, rfl⟩
      rw [hbase] at herror
      contradiction
  · rintro ⟨cs, hquery⟩
    exact (h.addressable hquery).exists_baseUrl

/-- **Nothing behind a base URL has a part in its origin**, as long as it begins with a character
that ends an authority. -/
theorem Served.origin_append (h : r.Served) {base : String} (hbase : r.baseUrl = .ok base) :
    ∃ site, ∀ tail, Uri.FollowsAuthority tail →
      ∃ u, Uri.split (base ++ String.ofList tail) = .ok u ∧ u.scheme = r.scheme ∧
        u.authority = site := by
  obtain ⟨header, hhost, haccepted⟩ := h.host
  obtain ⟨host, port, hform⟩ := hostHeader_cases haccepted
  have hquery := h.hosted.exists_baseUrl_iff.mp ⟨base, hbase⟩
  obtain ⟨site, hsite, hmade⟩ := h.exists_site hquery hhost hform
  obtain rfl := Except.ok.inj (hbase.symm.trans hmade)
  refine ⟨site, fun tail htail => ?_⟩
  -- the context path and the tail together are what follows the site
  have htext : r.scheme ++ "://" ++ site ++ r.contextPath ++ String.ofList tail =
      r.scheme ++ "://" ++ site ++ String.ofList (r.contextPath.toList ++ tail) := by
    rw [← String.toList_inj]
    simp
  have hsplit := split_behind_site h.isScheme.1 hsite (h.followsAuthority.append htail)
  rw [htext, hsplit, h.isScheme.2]
  exact ⟨_, rfl, String.ofList_toList, String.ofList_toList⟩

end Request

namespace Resolver

/-- **A callback stays at the origin of the request.** For a request to a web server, a template
that begins with the base URL and a slash and holds supported placeholders expands, whatever the
action and the id of the registration are, to a reference with the scheme and the authority of the
base URL. The base URL itself is missing only if the query of the request is not UTF-8. -/
theorem redirectUri_origin {request : Request} (h : request.Served)
    {registration : Registration WideString} {rest : String}
    (htemplate : registration.callbackTemplate = ↑(Template.behindBase rest))
    (hnames : ∀ name ∈ Template.placeholders rest, name ∈ Template.supportedNames)
    (action : String) (session : Session) :
    ((∃ base, request.baseUrl = .ok base) ↔ ∃ cs, Utf8.decode request.query = .ok cs) ∧
      ∀ base, request.baseUrl = .ok base → ∃ (uri : String) (sent parts : Uri),
        (redirectUri request registration action).run.run session = (.ok ↑uri, session) ∧
          Uri.split uri = .ok sent ∧ Uri.split base = .ok parts ∧
          sent.scheme = parts.scheme ∧ sent.authority = parts.authority := by
  refine ⟨h.hosted.exists_baseUrl_iff, fun base hbase => ?_⟩
  have hcallback : callback registration base action = .ok ↑(base ++ String.ofList ('/' ::
      (Template.filled (templateVariables base action registration.id) rest).toList)) := by
    rw [callback, htemplate]
    refine (Template.expandWide_text _).trans ?_
    rw [Template.expand_behindBase hnames base action registration.id]
    rfl
  obtain ⟨site, hbehind⟩ := h.origin_append hbase
  obtain ⟨sent, hsent, hscheme, hauthority⟩ := hbehind _ (Uri.followsAuthority_slash _)
  obtain ⟨parts, hparts, hscheme', hauthority'⟩ := hbehind [] Uri.followsAuthority_nil
  rw [String.ofList_nil, String.append_empty] at hparts
  exact ⟨_, sent, parts, run_redirectUri_ok _ _ hbase hcallback, hsent, hparts,
    hscheme.trans hscheme'.symm, hauthority.trans hauthority'.symm⟩

/-- A registration whose id looks like an authority; request and action below try the same. -/
private def harbour : Registration WideString where
  id := "pier@evil.example:80"
  clientId := "h-1"
  clientSecret := some ↑"h-secret"
  authentication := .secretBasic
  grant := .authorizationCode
  authorizationUri := some ↑"https://harbour-login.example/authorize"
  redirectTemplate := some ↑"\x7bbaseUrl\x7d/\x7baction\x7d\x7b\x7bregistrationId\x7d"
  scopes := .empty
  clientName := none
  id_ne_empty := by decide
  clientId_ne_empty := by decide
  endpoints _ _ := by decide

private def harbourRequest : Request where
  method := "GET"
  path := some "/oauth2/authorization/pier"
  rootPath := some "/?@evil.example#/"
  host := some "Harbour.Example:8080"
  server := none
  scheme := "http"
  query := []

private theorem served_harbourRequest : harbourRequest.Served where
  path := by decide
  scheme := .inl rfl
  host := ⟨_, rfl, by decide⟩
  rooted := .inr (by decide)

theorem redirectUri_origin_harbour :
    ∃ (uri : String) (sent : Uri),
      (redirectUri harbourRequest harbour "\t/\n\\@[evil.example]").run.run
        ⟨Entropy.seeded 5, []⟩ = (.ok ↑uri, ⟨Entropy.seeded 5, []⟩) ∧
      Uri.split uri = .ok sent ∧ sent.scheme = "http" ∧
      sent.authority = "harbour.example:8080" := by
  obtain ⟨hbase, hsplit, htemplate, hnames⟩ :
      harbourRequest.baseUrl = .ok "http://harbour.example:8080/?@evil.example#" ∧
      (Uri.split "http://harbour.example:8080/?@evil.example#").map
        (fun u => (u.scheme, u.authority)) = .ok ("http", "harbour.example:8080") ∧
      harbour.callbackTemplate =
        ↑(Template.behindBase "\x7baction\x7d\x7b\x7bregistrationId\x7d") ∧
      Template.firstUnsupported? "\x7baction\x7d\x7b\x7bregistrationId\x7d" = none := by
    decide +kernel
  obtain ⟨-, horigin⟩ := redirectUri_origin served_harbourRequest htemplate
    (Template.firstUnsupported?_eq_none_iff.mp hnames) "\t/\n\\@[evil.example]"
    ⟨Entropy.seeded 5, []⟩
  obtain ⟨uri, sent, parts, hrun, hsent, hparts, hscheme, hauthority⟩ := horigin _ hbase
  rw [hparts] at hsplit
  obtain ⟨hhttp, hsite⟩ := Prod.mk.inj (Except.ok.inj hsplit)
  exact ⟨uri, sent, hrun, hsent, hscheme.trans hhttp, hauthority.trans hsite⟩

end Resolver

end OAuthRedirect
