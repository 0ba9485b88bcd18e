import OAuthRedirect.Proofs.Http.CanonicalBase

/-!
# Host headers in upper and lower case

Two host headers that differ in the case of letters alone have the same port, and hosts that differ
in the same way. The name of a host is in lower case up to the first percent sign and as it was
written behind it, so that the headers name the same host exactly when they agree behind that sign
(`HostForm.hostName_eq_iff`). A bracketed address has no percent sign, and most names have none
either; of the names that have one, each way to write it is a name of its own.

With headers that agree there, requests have the same base URL (`Request.baseUrl_recased`), and
addressable requests have it with no others (`Request.Addressable.baseUrl_recased_iff`).
-/

namespace OAuthRedirect

open Text

/-! ### Texts in the same letters -/

/-- Two texts that differ in the case of ASCII letters at most. -/
def SameLetters (cs ds : List Char) : Prop :=
  cs.map Char.toLower = ds.map Char.toLower

instance (cs ds : List Char) : Decidable (SameLetters cs ds) :=
  inferInstanceAs (Decidable (_ = _))

theorem SameLetters.cut_fst {cs ds : List Char} (h : SameLetters cs ds) {sep : Char}
    (hsep : isLetter sep = false) :
    (cut sep cs).1.map Char.toLower = (cut sep ds).1.map Char.toLower := by
  have hcut := congrArg (fun low => (cut sep low).1) h
  simpa only [cut_map_toLower hsep] using hcut

theorem Uri.hostAndRest_map_toLower (cs : List Char) :
    Uri.hostAndRest (cs.map Char.toLower) =
      ((Uri.hostAndRest cs).1.map Char.toLower, (Uri.hostAndRest cs).2.map Char.toLower) := by
  have hcolon : isLetter ':' = false := by decide
  have hbracket : isLetter ']' = false := by decide
  rw [hostAndRest, hostAndRest, cut_map_toLower (by decide)]
  rcases cut '[' cs with ⟨before, _ | inside⟩
  · simp only [Option.map_none, cut_map_toLower hcolon]
    cases (cut ':' cs).2 <;> rfl
  · simp only [Option.map_some, cut_map_toLower hbracket]
    cases (cut ']' inside).2 <;> rfl

/-! ### Hosts and ports of such headers -/

theorem map_toLower_of_isHostPort {port : List Char} (h : isHostPort port = true) :
    port.map Char.toLower = port := by
  rcases isHostPort_cases h with rfl | ⟨digits, rfl, -, hdigits, -⟩
  · rfl
  · rw [List.map_cons, List.map_congr_left fun c hc => toLower_of_isDigit (hdigits c hc),
      List.map_id']
    rfl

theorem percent_not_mem_of_isHostPort {port : List Char} (h : isHostPort port = true) :
    '%' ∉ port := by
  intro hc
  rcases isHostPort_cases h with rfl | ⟨digits, rfl, -, hdigits, -⟩
  · contradiction
  · rcases List.mem_cons.mp hc with heq | hc
    · exact absurd heq (by decide)
    · exact absurd (hdigits _ hc) (by decide)

/-- Hosts in the same letters have one name exactly when they agree behind the percent sign. -/
theorem hostName_eq_iff_of_sameLetters {host host' : List Char} (h : SameLetters host host') :
    hostName host = hostName host' ↔ (cut '%' host).2 = (cut '%' host').2 := by
  rw [hostName, hostName, h.cut_fst (by decide), List.append_cancel_left_eq]
  cases (cut '%' host).2 with
  | none => cases (cut '%' host').2 <;> simp
  | some zone => cases (cut '%' host').2 <;> simp

namespace HostForm

variable {header header' host host' port port' : List Char}

/-- Headers in the same letters have hosts in the same letters and one port. -/
theorem sameLetters (h : HostForm header host port) (h' : HostForm header' host' port')
    (hletters : SameLetters header header') : SameLetters host host' ∧ port = port' := by
  have hread := h.hostAndRest
  have hread' := h'.hostAndRest
  rw [afterLast_of_not_mem h.not_mem_at] at hread
  rw [afterLast_of_not_mem h'.not_mem_at] at hread'
  have hlower := congrArg Uri.hostAndRest hletters
  rw [Uri.hostAndRest_map_toLower, Uri.hostAndRest_map_toLower, hread, hread'] at hlower
  obtain ⟨hhost, hport⟩ := Prod.mk.inj hlower
  rw [map_toLower_of_isHostPort h.isHostPort, map_toLower_of_isHostPort h'.isHostPort] at hport
  exact ⟨hhost, hport⟩

/-- What stands behind the first percent sign of a header is the end of its host, and the port. -/
theorem cut_percent (h : HostForm header host port) :
    (cut '%' header).2 = (cut '%' host).2.map (· ++ port) := by
  have hport := percent_not_mem_of_isHostPort h.isHostPort
  by_cases hhost : '%' ∈ host
  · rcases h.shape with ⟨rfl, -, -⟩ | ⟨-, haddress⟩
    · rw [cut_append_of_mem hhost]
    · exact absurd hhost (not_mem_percent_of_isHostAddress haddress)
  · have hheader : '%' ∉ header := by
      rcases h.shape with ⟨rfl, -, -⟩ | ⟨rfl, -⟩
      · simp [hhost, hport]
      · simp [hhost, hport]
    rw [cut_of_not_mem hheader, cut_of_not_mem hhost]
    rfl

/-- **Headers in the same letters name one host** exactly when they agree behind the first percent
sign. -/
theorem hostName_eq_iff (h : HostForm header host port) (h' : HostForm header' host' port')
    (hletters : SameLetters header header') :
    hostName host = hostName host' ↔ (cut '%' header).2 = (cut '%' header').2 := by
  obtain ⟨hhost, rfl⟩ := h.sameLetters h' hletters
  rw [hostName_eq_iff_of_sameLetters hhost, h.cut_percent, h'.cut_percent]
  cases (cut '%' host).2 <;> cases (cut '%' host').2 <;> simp

end HostForm

/-! ### Requests with such headers -/

namespace Request

variable {r : Request} {header header' : String}

/-- The request with another host header. -/
def withHost (r : Request) (header : String) : Request :=
  { r with host := some header }

theorem url_withHost_of_path {header : String} (hpath : r.path = none) :
    (r.withHost header).url = r.url := by
  simp only [url, urlText, withHost, hpath]

/-- **A header is the authority, or has no part in the URL.** -/
theorem origin_withHost_cases (hhost : r.host = some header)
    (haccepted : isHostHeader header = true) (haccepted' : isHostHeader header' = true) :
    r.origin = (r.withHost header').origin ∨
      ∃ scheme, r.origin = .ok (scheme, header) ∧
        (r.withHost header').origin = .ok (scheme, header') := by
  by_cases hpath : r.path = none
  · rw [origin, origin, url_withHost_of_path hpath]
    exact .inl rfl
  · have hscheme : (r.withHost header').scheme = r.scheme := rfl
    have hquery : (r.withHost header').query = r.query := rfl
    rw [origin_of_host hpath hhost haccepted,
      origin_of_host (r := r.withHost header') hpath rfl haccepted', hscheme, hquery]
    cases Utf8.decode r.query with
    | error d =>
      refine .inl ?_
      simp only [Except.mapError, Except.bind]
    | ok cs =>
      obtain ⟨_, _, hform⟩ := hostHeader_cases haccepted
      obtain ⟨_, _, hform'⟩ := hostHeader_cases haccepted'
      rcases Uri.splitFront_cases r.scheme.toList with ⟨found, hfound⟩ | ⟨found, hfound⟩
      · rw [hfound _ hform.isPlain, hfound _ hform'.isPlain, hform.isSound.checkFront,
          hform'.isSound.checkFront, String.ofList_toList, String.ofList_toList]
        exact .inr ⟨String.ofList found, rfl, rfl⟩
      · rw [hfound, hfound]
        exact .inl rfl

/-- URLs of one scheme and one port have the same site exactly when they name one host. -/
theorem site_eq_iff {url url' : Uri} {host host' port : List Char}
    (h : HostForm url.authority.toList host port) (h' : HostForm url'.authority.toList host' port)
    (hscheme : url.scheme = url'.scheme) :
    site url (portNumber? port) = site url' (portNumber? port) ↔
      hostName host = hostName host' := by
  constructor
  · intro hsite
    have hread := h.site.hostAndRest
    rw [hsite, h'.site.hostAndRest] at hread
    exact (Prod.mk.inj hread).1.symm
  · intro hname
    simp only [site, h.host_eq, h'.host_eq, hscheme, hname]

section Recased

variable (haccepted : isHostHeader header = true) (haccepted' : isHostHeader header' = true)
  (hletters : SameLetters header.toList header'.toList)

include haccepted haccepted' hletters

theorem baseUrl_eq_iff_of_origin {scheme : String} (horigin : r.origin = .ok (scheme, header))
    (horigin' : (r.withHost header').origin = .ok (scheme, header')) :
    r.baseUrl = (r.withHost header').baseUrl ↔
      (cut '%' header.toList).2 = (cut '%' header'.toList).2 := by
  obtain ⟨url, hurl, rfl, rfl⟩ := url_of_origin horigin
  obtain ⟨url', hurl', hscheme, rfl⟩ := url_of_origin horigin'
  obtain ⟨host, port, hform⟩ := hostHeader_cases haccepted
  obtain ⟨host', _, hform'⟩ := hostHeader_cases haccepted'
  obtain ⟨-, rfl⟩ := hform.sameLetters hform' hletters
  have hcontext : (r.withHost url'.authority).contextPath = r.contextPath := rfl
  rw [baseUrl_of_url hurl hform.port_eq, baseUrl_of_url hurl' hform'.port_eq, hscheme, hcontext,
    Except.ok.injEq, String.append_left_inj, String.append_right_inj,
    site_eq_iff hform hform' hscheme.symm, hform.hostName_eq_iff hform' hletters]

variable (hhost : r.host = some header)

include hhost

/-- **The case of a host header has no part in the base URL** in front of a percent sign. -/
theorem baseUrl_recased (hbehind : (cut '%' header.toList).2 = (cut '%' header'.toList).2) :
    r.baseUrl = (r.withHost header').baseUrl := by
  rcases origin_withHost_cases hhost haccepted haccepted' with horigin | ⟨_, horigin, horigin'⟩
  · exact baseUrl_of_origin horigin rfl
  · exact (baseUrl_eq_iff_of_origin haccepted haccepted' hletters horigin horigin').mpr hbehind

/-- **What stands behind a percent sign is kept as it was written.** -/
theorem Addressable.baseUrl_recased_iff (h : r.Addressable) :
    r.baseUrl = (r.withHost header').baseUrl ↔
      (cut '%' header.toList).2 = (cut '%' header'.toList).2 := by
  have h' : (r.withHost header').Addressable :=
    { path := h.path
      scheme := h.scheme
      host := ⟨header', rfl, haccepted'⟩
      query := h.query }
  exact baseUrl_eq_iff_of_origin haccepted haccepted' hletters (h.origin hhost) (h'.origin rfl)

end Recased

end Request

end OAuthRedirect
