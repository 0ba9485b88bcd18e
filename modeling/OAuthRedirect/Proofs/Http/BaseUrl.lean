import OAuthRedirect.Proofs.Http.HostHeader
import OAuthRedirect.Proofs.Uri.Front
import OAuthRedirect.Text.Utf8.RoundTrip

/-!
# The base URL of a request

A request is **addressable** (`Request.Addressable`) when it has a path, a scheme, a well-formed
host header and a query in UTF-8. The URL of such a request has its scheme, in lower case, and
the header as its authority, whatever the path and the query hold (`Addressable.url`). So there is a
base URL (`Addressable.exists_baseUrl`), and neither the path nor the query has a part in it
(`Addressable.baseUrl_congr`).

Scheme and authority of the URL are the **origin** of a request (`Request.origin`). Requests with
the same scheme and the same well-formed host header have one origin, or lack one for the same
reason, whatever the scheme is, as long as their queries are both readable or both unreadable in the
same way (`origin_congr`); with one context path they have one base URL (`baseUrl_of_origin`).

A request that is addressable but for its query is **hosted** (`Request.Hosted`). The only thing
that can keep it from having a URL is that its query is not UTF-8 (`Hosted.url_eq_error_iff`).
-/

namespace OAuthRedirect

open Text

/-! ### Ports -/

/-- The number that a well-formed port stands for. -/
def portNumber? : List Char → Option Nat
  | [] => none
  | _ :: digits => some (digitsValue digits)

/-- The port of a reference whose authority is a well-formed header. -/
theorem HostForm.port_eq {u : Uri} {host port : List Char}
    (h : HostForm u.authority.toList host port) : u.port = .ok (portNumber? port) := by
  have hrest := h.hostAndRest
  rcases isHostPort_cases h.isHostPort with rfl | ⟨digits, rfl, hne, hdigits, hlength, hvalue⟩
  · simp [Uri.port, hrest, cut, portNumber?]
  · obtain ⟨first, tail, rfl⟩ := List.exists_cons_of_ne_nil hne
    have hall : (first :: tail).all Char.isDigit = true := List.all_eq_true.mpr hdigits
    have hshort : ¬ (first :: tail).length > digitLimit := Nat.not_lt.mpr hlength
    simp only [Uri.port, hrest, cut, if_true, hall, if_neg hshort, hvalue, portNumber?]

namespace Request

/-! ### Addressable requests -/

/-- A request that says all of itself that its URL is built from. -/
structure Addressable (r : Request) : Prop where
  path : r.path ≠ none
  scheme : r.scheme.toList = [] ∨ Uri.IsScheme r.scheme.toList
  host : ∃ header, r.host = some header ∧ isHostHeader header = true
  query : ∃ cs, Utf8.decode r.query = .ok cs

/-- A request for a path of a host, without a query. -/
theorem Addressable.of_https {r : Request} {path header : String} (hpath : r.path = some path)
    (hscheme : r.scheme = "https") (hhost : r.host = some header)
    (haccepted : isHostHeader header = true) (hquery : r.query = []) : r.Addressable where
  path := by simp [hpath]
  scheme := .inr (hscheme ▸ Uri.isScheme_https)
  host := ⟨header, hhost, haccepted⟩
  query := ⟨[], hquery ▸ Utf8.decode_encode []⟩

/-- The text of the URL of a request with a well-formed host header. -/
theorem urlText_of_host {r : Request} {path header : String} (hpath : r.path = some path)
    (hhost : r.host = some header) (haccepted : isHostHeader header = true) :
    r.urlText = ((Utf8.decode r.query).mapError .query).map fun cs =>
      Uri.text ⟨r.scheme, header, String.ofList (path.toList.flatMap pathChar), String.ofList cs,
        ""⟩ := by
  have hauthority : r.authority = .ok (some header) := by
    rw [authority, hhost]
    simp [haccepted]
  rw [urlText, hpath]
  simp only [hauthority]
  cases Utf8.decode r.query <;> rfl

theorem exists_urlText {r : Request} {header : String} {cs : List Char} (hpath : r.path ≠ none)
    (hhost : r.host = some header) (haccepted : isHostHeader header = true)
    (hquery : Utf8.decode r.query = .ok cs) :
    ∃ path query, r.urlText = .ok (Uri.text ⟨r.scheme, header, path, query, ""⟩) := by
  obtain ⟨path, hpath⟩ := Option.ne_none_iff_exists'.mp hpath
  refine ⟨String.ofList (path.toList.flatMap pathChar), String.ofList cs, ?_⟩
  rw [urlText_of_host hpath hhost haccepted, hquery]
  rfl

theorem url_of_decode_error {r : Request} {header : String} {d : Utf8.DecodeError}
    (hpath : r.path ≠ none) (hhost : r.host = some header)
    (haccepted : isHostHeader header = true) (hquery : Utf8.decode r.query = .error d) :
    r.url = .error (.query d) := by
  obtain ⟨path, hpath⟩ := Option.ne_none_iff_exists'.mp hpath
  have htext : r.urlText = .error (.query d) := by
    rw [urlText_of_host hpath hhost haccepted, hquery]
    rfl
  rw [Request.url, htext]
  rfl

theorem url_of_split {r : Request} {text : String} {url : Uri} (htext : r.urlText = .ok text)
    (hsplit : Uri.split text = .ok url) : r.url = .ok url := by
  rw [Request.url, htext]
  change (Uri.split text).mapError UrlError.uri = _
  rw [hsplit]
  rfl

/-- **The URL of an addressable request** keeps the scheme and the host header. -/
theorem Addressable.url {r : Request} (h : r.Addressable) {header : String}
    (hhost : r.host = some header) :
    ∃ url, r.url = .ok url ∧
      url.scheme = String.ofList (r.scheme.toList.map Char.toLower) ∧ url.authority = header := by
  obtain ⟨_, hsome, haccepted⟩ := h.host
  obtain rfl := Option.some_inj.mp (hhost.symm.trans hsome)
  obtain ⟨cs, hquery⟩ := h.query
  obtain ⟨path, query, htext⟩ := exists_urlText h.path hhost haccepted hquery
  obtain ⟨host, port, hform⟩ := hostHeader_cases haccepted
  have hne : header ≠ "" := by
    rintro rfl
    exact hform.ne_nil rfl
  -- the header means nothing to splitting, so it comes out as the authority
  have hsplit := Uri.split_text_eq (u := ⟨r.scheme, header, path, query, ""⟩) h.scheme (.inl hne)
    hform.isPlain hform.isSound
  exact ⟨_, url_of_split htext hsplit, rfl, String.ofList_toList⟩

/-! ### The base -/

/-- Host and port of a URL as they stand in a base URL. -/
def site (url : Uri) (port : Option Nat) : String :=
  let host := url.host.getD ""
  let host := if host.toList.contains ':' then "[" ++ host ++ "]" else host
  match port with
  | some port => if defaultPort? url.scheme = some port then host else host ++ ":" ++ toString port
  | none => host

theorem baseUrl_of_url {r : Request} {url : Uri} {port : Option Nat} (hurl : r.url = .ok url)
    (hport : url.port = .ok port) :
    r.baseUrl = .ok (url.scheme ++ "://" ++ site url port ++ r.contextPath) := by
  rw [baseUrl, hurl]
  change (url.port.mapError UrlError.uri >>= fun port => _) = _
  rw [hport]
  rfl

theorem exists_url_of_baseUrl {r : Request} {base : String} (h : r.baseUrl = .ok base) :
    ∃ url, r.url = .ok url := by
  cases hurl : r.url with
  | error e =>
    rw [baseUrl, hurl] at h
    contradiction
  | ok url => exact ⟨url, rfl⟩

/-- **An addressable request has a base URL.** -/
theorem Addressable.exists_baseUrl {r : Request} (h : r.Addressable) :
    ∃ base, r.baseUrl = .ok base := by
  obtain ⟨header, hhost, haccepted⟩ := h.host
  obtain ⟨url, hurl, -, rfl⟩ := h.url hhost
  obtain ⟨host, port, hform⟩ := hostHeader_cases haccepted
  exact ⟨_, baseUrl_of_url hurl hform.port_eq⟩

/-! ### What the path has no part in -/

/-- Scheme and authority of the URL. -/
def origin (r : Request) : Except UrlError (String × String) :=
  r.url.map fun url => (url.scheme, url.authority)

theorem origin_of_urlText {r : Request} {text : String} (h : r.urlText = .ok text) :
    r.origin = (Uri.origin text).mapError .uri := by
  rw [origin, url, h, Uri.origin]
  change ((Uri.split text).mapError UrlError.uri).map _ = _
  cases Uri.split text <;> rfl

theorem url_of_origin {r : Request} {scheme authority : String}
    (h : r.origin = .ok (scheme, authority)) :
    ∃ url, r.url = .ok url ∧ url.scheme = scheme ∧ url.authority = authority := by
  rw [origin] at h
  cases hurl : r.url with
  | error e =>
    rw [hurl] at h
    contradiction
  | ok url =>
    rw [hurl] at h
    obtain ⟨hscheme, hauthority⟩ := Prod.mk.inj (Except.ok.inj h)
    exact ⟨url, rfl, hscheme, hauthority⟩

theorem Addressable.origin {r : Request} (h : r.Addressable) {header : String}
    (hhost : r.host = some header) :
    r.origin = .ok (String.ofList (r.scheme.toList.map Char.toLower), header) := by
  obtain ⟨url, hurl, hscheme, rfl⟩ := h.url hhost
  rw [Request.origin, hurl, ← hscheme]
  rfl

/-- The origin is read from the scheme and the host header, once the query is read. -/
theorem origin_of_host {r : Request} {header : String} (hpath : r.path ≠ none)
    (hhost : r.host = some header) (haccepted : isHostHeader header = true) :
    r.origin = ((Utf8.decode r.query).mapError .query).bind fun _ =>
      (Uri.checkFront (Uri.splitFront
        (Uri.front r.scheme.toList ++ '/' :: '/' :: header.toList))).mapError .uri := by
  cases hquery : Utf8.decode r.query with
  | error d =>
    rw [origin, url_of_decode_error hpath hhost haccepted hquery]
    rfl
  | ok cs =>
    obtain ⟨path, query, htext⟩ := exists_urlText hpath hhost haccepted hquery
    have hne : header ≠ "" := by
      obtain ⟨_, _, hform⟩ := hostHeader_cases haccepted
      rintro rfl
      exact hform.ne_nil rfl
    rw [origin_of_urlText htext, Uri.origin_text hne]
    rfl

/-- **The origin is up to scheme and host header**, once it is known whether the query can be
read. -/
theorem origin_congr {r r' : Request} (hpath : r.path ≠ none) (hpath' : r'.path ≠ none)
    (hscheme : r.scheme = r'.scheme) (hhost : r.host = r'.host)
    (haccepted : ∃ header, r.host = some header ∧ isHostHeader header = true)
    (hquery : (Utf8.decode r.query).map (fun _ => ()) =
      (Utf8.decode r'.query).map (fun _ => ())) : r.origin = r'.origin := by
  obtain ⟨header, hheader, haccepted⟩ := haccepted
  rw [origin_of_host hpath hheader haccepted,
    origin_of_host hpath' (hhost.symm.trans hheader) haccepted, hscheme]
  cases hcs : Utf8.decode r.query with
  | error e =>
    cases hcs' : Utf8.decode r'.query with
    | ok cs' =>
      rw [hcs, hcs'] at hquery
      contradiction
    | error e' =>
      rw [hcs, hcs'] at hquery
      obtain rfl := Except.error.inj hquery
      rfl
  | ok cs =>
    cases hcs' : Utf8.decode r'.query with
    | error e' =>
      rw [hcs, hcs'] at hquery
      contradiction
    | ok cs' => rfl

/-- Requests of one origin have no URL for the same reason, or URLs that agree up to the path. -/
theorem url_cases_of_origin {r r' : Request} (h : r.origin = r'.origin) :
    (∃ e, r.url = .error e ∧ r'.url = .error e) ∨
      ∃ url url', r.url = .ok url ∧ r'.url = .ok url' ∧ url.scheme = url'.scheme ∧
        url.authority = url'.authority := by
  rw [origin, origin] at h
  cases hurl : r.url with
  | error e =>
    cases hurl' : r'.url with
    | error e' =>
      rw [hurl, hurl'] at h
      exact .inl ⟨e, rfl, congrArg _ (Except.error.inj h).symm⟩
    | ok url' =>
      rw [hurl, hurl'] at h
      contradiction
  | ok url =>
    cases hurl' : r'.url with
    | error e' =>
      rw [hurl, hurl'] at h
      contradiction
    | ok url' =>
      rw [hurl, hurl'] at h
      obtain ⟨hscheme, hauthority⟩ := Prod.mk.inj (Except.ok.inj h)
      exact .inr ⟨url, url', rfl, rfl, hscheme, hauthority⟩

/-- Two requests that both have a URL, or lack one for the same reason. -/
def UrlsAlike (r r' : Request) : Prop :=
  (∃ e, r.url = .error e ∧ r'.url = .error e) ∨
    (∃ url, r.url = .ok url) ∧ ∃ url, r'.url = .ok url

theorem urlsAlike_of_origin {r r' : Request} (h : r.origin = r'.origin) : r.UrlsAlike r' :=
  (url_cases_of_origin h).imp_right fun ⟨url, url', hurl, hurl', _⟩ => ⟨⟨url, hurl⟩, url', hurl'⟩

/-- The base URL is made of the origin and the context path. -/
theorem baseUrl_of_origin {r r' : Request} (horigin : r.origin = r'.origin)
    (hroot : r.rootPath = r'.rootPath) : r.baseUrl = r'.baseUrl := by
  have hcontext : r.contextPath = r'.contextPath := by rw [contextPath, contextPath, hroot]
  rw [baseUrl, baseUrl, hcontext]
  rcases url_cases_of_origin horigin with
    ⟨e, hurl, hurl'⟩ | ⟨url, url', hurl, hurl', hscheme, hauthority⟩
  · rw [hurl, hurl']
  · have hhost : url.host = url'.host := by rw [Uri.host, Uri.host, hauthority]
    have hport : url.port = url'.port := by rw [Uri.port, Uri.port, hauthority]
    rw [hurl, hurl']
    simp only [hscheme, hhost, hport, Except.bind, bind]

/-- **The base URL is up to scheme, host and context path.** No path and no query changes it. -/
theorem Addressable.baseUrl_congr {r r' : Request} (h : r.Addressable) (h' : r'.Addressable)
    (hscheme : r.scheme = r'.scheme) (hhost : r.host = r'.host)
    (hroot : r.rootPath = r'.rootPath) : r.baseUrl = r'.baseUrl := by
  obtain ⟨cs, hquery⟩ := h.query
  obtain ⟨cs', hquery'⟩ := h'.query
  refine baseUrl_of_origin (origin_congr h.path h'.path hscheme hhost h.host ?_) hroot
  rw [hquery, hquery']
  rfl

/-! ### Queries that cannot be read -/

/-- A request that says all of itself that its URL is built from, with any bytes as its query. -/
structure Hosted (r : Request) : Prop where
  path : r.path ≠ none
  scheme : r.scheme.toList = [] ∨ Uri.IsScheme r.scheme.toList
  host : ∃ header, r.host = some header ∧ isHostHeader header = true

theorem Hosted.addressable {r : Request} (h : r.Hosted) {cs : List Char}
    (hquery : Utf8.decode r.query = .ok cs) : r.Addressable where
  path := h.path
  scheme := h.scheme
  host := h.host
  query := ⟨cs, hquery⟩

theorem Hosted.url_of_decode_error {r : Request} (h : r.Hosted) {d : Utf8.DecodeError}
    (hquery : Utf8.decode r.query = .error d) : r.url = .error (.query d) := by
  obtain ⟨header, hhost, haccepted⟩ := h.host
  exact Request.url_of_decode_error h.path hhost haccepted hquery

/-- **A hosted request without a URL** has a query that is not UTF-8. -/
theorem Hosted.url_eq_error_iff {r : Request} (h : r.Hosted) {e : UrlError} :
    r.url = .error e ↔ ∃ d, Utf8.decode r.query = .error d ∧ e = .query d := by
  cases hquery : Utf8.decode r.query with
  | ok cs =>
    obtain ⟨header, hhost, -⟩ := h.host
    obtain ⟨url, hurl, -, -⟩ := (h.addressable hquery).url hhost
    simp [hurl]
  | error d => simp [h.url_of_decode_error hquery, eq_comm]

theorem Hosted.baseUrl_eq_error_iff {r : Request} (h : r.Hosted) {e : UrlError} :
    r.baseUrl = .error e ↔ ∃ d, Utf8.decode r.query = .error d ∧ e = .query d := by
  cases hquery : Utf8.decode r.query with
  | ok cs =>
    obtain ⟨base, hbase⟩ := (h.addressable hquery).exists_baseUrl
    simp [hbase]
  | error d =>
    have hbase : r.baseUrl = .error (.query d) := by
      rw [baseUrl, h.url_of_decode_error hquery]
      rfl
    simp [hbase, eq_comm]

end Request

end OAuthRedirect
