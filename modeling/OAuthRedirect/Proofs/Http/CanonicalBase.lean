import Mathlib.Data.Nat.Digits.Defs
import OAuthRedirect.Proofs.Http.BaseUrl
import OAuthRedirect.Proofs.Uri.AddressCase
import OAuthRedirect.Text.Utf8.RoundTrip

/-!
# The canonical form of a base URL

A base URL is written with a host and a port of its own: the name of the host in lower case, in
brackets only where a colon in it needs them, and the port as a number without leading zeros,
unless the scheme implies it. That is a well-formed host header again (`HostForm.site`), for the
same host (`hostName_hostName`) and the same port (`portNumber?_writtenPort`).

A request is **served** (`Request.Served`) when it is hosted, its scheme is one of the web and its
context path is empty or rooted. Its base URL can be taken apart again, and the parts are those of
the request (`Request.Served.baseUrl_canonical`).
-/

namespace OAuthRedirect

open Text

/-! ### Ports -/

/-- A port as it stands in a base URL. -/
def writtenPort (scheme : String) : Option Nat → List Char
  | none => []
  | some n => if defaultPort? scheme = some n then [] else ':' :: (toString n).toList

theorem isDigit_of_mem_toString {n : Nat} {c : Char} (h : c ∈ (toString n).toList) :
    c.isDigit = true := by
  rw [Nat.toString_eq_ofList_toDigits, String.toList_ofList] at h
  exact Nat.isDigit_of_mem_toDigits (by decide) (by decide) h

/-- The number of a numeral. -/
theorem digitsValue_toString (n : Nat) : digitsValue (toString n).toList = n := by
  rw [Nat.toString_eq_ofList_toDigits, String.toList_ofList, digitsValue,
    ← Nat.ofDigitChars_eq_foldl, Nat.ofDigitChars_ten_toDigits]

theorem toList_toString_ne_nil (n : Nat) : (toString n).toList ≠ [] := by
  rw [Nat.toString_eq_ofList_toDigits, String.toList_ofList]
  exact Nat.toDigits_ne_nil

/-- The number of a port is short enough to be read. -/
theorem length_toString_le {n : Nat} (h : n ≤ 65535) : (toString n).toList.length ≤ digitLimit :=
  (Nat.repr_length n 5 (by decide) (by omega)).trans (by decide)

theorem portNumber?_le {port : List Char} (h : isHostPort port = true) {n : Nat}
    (hn : portNumber? port = some n) : n ≤ 65535 := by
  rcases isHostPort_cases h with rfl | ⟨digits, rfl, -, -, -, hvalue⟩
  · contradiction
  · exact Option.some_inj.mp hn ▸ hvalue

theorem isHostPort_writtenPort (scheme : String) {port : Option Nat}
    (h : ∀ n, port = some n → n ≤ 65535) : isHostPort (writtenPort scheme port) = true := by
  cases port with
  | none => rfl
  | some n =>
    rw [writtenPort]
    split
    · rfl
    · have hdigits : (toString n).toList.all Char.isDigit = true :=
        List.all_eq_true.mpr fun c hc => isDigit_of_mem_toString hc
      have hlength := length_toString_le (h n rfl)
      simp only [isHostPort, hdigits, hlength, digitsValue_toString, h n rfl, decide_true,
        Bool.and_true, Bool.not_eq_true', List.isEmpty_eq_false_iff]
      exact toList_toString_ne_nil n

/-- **The port of a base URL** is the number it was written for, unless the scheme implies it. -/
theorem portNumber?_writtenPort (scheme : String) (port : Option Nat) :
    portNumber? (writtenPort scheme port) =
      if port = defaultPort? scheme then none else port := by
  cases port with
  | none => simp [writtenPort, portNumber?]
  | some n =>
    rw [writtenPort]
    by_cases hdefault : defaultPort? scheme = some n
    · rw [if_pos hdefault, if_pos hdefault.symm]
      rfl
    · rw [if_neg hdefault, if_neg (Ne.symm hdefault), portNumber?, digitsValue_toString]

/-! ### Names of hosts -/

/-- The name of a host: in lower case up to a percent sign. -/
def hostName (host : List Char) : List Char :=
  (cut '%' host).1.map Char.toLower ++ (((cut '%' host).2.map ('%' :: ·)).getD [])

theorem hostName_of_not_mem {host : List Char} (h : '%' ∉ host) :
    hostName host = host.map Char.toLower := by
  rw [hostName, cut_of_not_mem h]
  exact List.append_nil _

theorem hostName_ne_nil {host : List Char} (h : host ≠ []) : hostName host ≠ [] := by
  rw [hostName]
  cases hcut : (cut '%' host).2 with
  | some zone => simp
  | none =>
    rw [cut_of_not_mem (cut_snd_eq_none_iff.mp hcut)]
    simpa using h

theorem mem_hostName {host : List Char} {c : Char} (h : c ∈ hostName host) :
    (∃ d ∈ host, d.toLower = c) ∨ c ∈ host := by
  rw [hostName, List.mem_append, List.mem_map] at h
  rcases h with ⟨d, hd, rfl⟩ | h
  · exact .inl ⟨d, mem_of_mem_cut_fst hd, rfl⟩
  · cases hcut : (cut '%' host).2 with
    | none => simp [hcut] at h
    | some zone =>
      rw [hcut] at h
      rw [← append_of_cut hcut]
      exact .inr (List.mem_append_right _ h)

/-- **The name of a name** is the name itself. -/
theorem hostName_hostName (host : List Char) : hostName (hostName host) = hostName host := by
  have hfirst : '%' ∉ (cut '%' host).1.map Char.toLower :=
    mt (mem_map_toLower_iff (by decide)).mp (not_mem_cut_fst '%' host)
  cases hcut : (cut '%' host).2 with
  | none =>
    have hname : hostName host = (cut '%' host).1.map Char.toLower := by
      rw [hostName, hcut]
      exact List.append_nil _
    rw [hname, hostName_of_not_mem hfirst, map_toLower_map_toLower]
  | some zone =>
    have hname : hostName host = (cut '%' host).1.map Char.toLower ++ '%' :: zone := by
      rw [hostName, hcut]
      rfl
    rw [hname, hostName, cut_append hfirst, map_toLower_map_toLower]
    rfl

theorem isHostChar_toLower (c : Char) : isHostChar c.toLower = isHostChar c :=
  of_toLower (fun c low => isHostChar low = isHostChar c) (fun _ => rfl) (by decide) c

theorem isHostChar_of_mem_hostName {host : List Char}
    (h : ∀ c ∈ host, isHostChar c = true) {c : Char} (hc : c ∈ hostName host) :
    isHostChar c = true := by
  rcases mem_hostName hc with ⟨d, hd, rfl⟩ | hc
  · rw [isHostChar_toLower]
    exact h d hd
  · exact h c hc

/-! ### Addresses in lower case -/

theorem not_mem_percent_of_isHostAddress {cs : List Char} (h : isHostAddress cs = true) :
    '%' ∉ cs := fun hc => by
  rcases cases_of_mem_isHostAddress h hc with ⟨-, hne⟩ | hcolon
  · exact hne rfl
  · contradiction

theorem isHostAddress_map_toLower_future {rest : List Char}
    (h : isHostAddress ('v' :: rest) = true) :
    isHostAddress (('v' :: rest).map Char.toLower) = true := by
  obtain ⟨name, hdrop, hversion, hname, hall⟩ := isHostAddress_future h
  have hdigit : Hex.isDigit ∘ Char.toLower = Hex.isDigit := funext Hex.isDigit_toLower
  have htake : (rest.map Char.toLower).takeWhile Hex.isDigit =
      (rest.takeWhile Hex.isDigit).map Char.toLower := by
    rw [List.takeWhile_map, hdigit]
  have hrest : (rest.map Char.toLower).drop ((rest.takeWhile Hex.isDigit).map Char.toLower).length =
      '.' :: name.map Char.toLower := by
    rw [List.length_map, ← List.map_drop, hdrop]
    rfl
  have hlower : ∀ c ∈ name.map Char.toLower,
      ((isHostChar c && c != '%') || c == ':') = true := by
    intro c hc
    obtain ⟨d, hd, rfl⟩ := List.mem_map.mp hc
    rcases hall d hd with ⟨hchar, hne⟩ | rfl
    · have hne' : d.toLower ≠ '%' := mt (toLower_eq_iff (by decide) d).mp hne
      simp [isHostChar_toLower, hchar, hne']
    · rfl
  have hv : ('v' :: rest).map Char.toLower = 'v' :: rest.map Char.toLower := rfl
  rw [hv, isHostAddress]
  simp only [htake, hrest, List.isEmpty_map, List.isEmpty_eq_false_iff.mpr hversion,
    List.isEmpty_eq_false_iff.mpr hname, List.all_eq_true.mpr hlower]
  rfl

theorem isHostAddress_map_toLower_present {cs : List Char} (hv : ∀ rest, cs ≠ 'v' :: rest)
    (h : isHostAddress cs = true) : isHostAddress (cs.map Char.toLower) = true := by
  have hzone := not_mem_percent_of_isHostAddress h
  obtain ⟨hall, hv6⟩ := isHostAddress_present hv h
  have hlower : ∀ c ∈ cs.map Char.toLower, Hex.isDigit c = true ∨ c = ':' ∨ c = '.' := by
    intro c hc
    obtain ⟨d, hd, rfl⟩ := List.mem_map.mp hc
    rcases hall d hd with hd | rfl | rfl
    · exact .inl (by rwa [Hex.isDigit_toLower])
    · exact .inr (.inl rfl)
    · exact .inr (.inr rfl)
  unfold isHostAddress
  split
  · rename_i rest heq
    -- no character of an address of the present version is a `v`
    exact absurd (hlower 'v' (heq ▸ List.mem_cons_self)) (by decide)
  · rw [Bool.and_eq_true, List.all_eq_true]
    refine ⟨fun c hc => ?_, Uri.Address.isV6_map_toLower hzone hv6⟩
    simpa [or_assoc] using hlower c hc

/-- A bracketed address stays one in lower case. -/
theorem isHostAddress_map_toLower {cs : List Char} (h : isHostAddress cs = true) :
    isHostAddress (cs.map Char.toLower) = true := by
  by_cases hv : ∃ rest, cs = 'v' :: rest
  · obtain ⟨rest, rfl⟩ := hv
    exact isHostAddress_map_toLower_future h
  · exact isHostAddress_map_toLower_present (fun rest heq => hv ⟨rest, heq⟩) h

/-! ### Host and port in a base URL -/

namespace HostForm

variable {header host port : List Char}

theorem host_ne_nil (h : HostForm header host port) : host ≠ [] := by
  rcases h.shape with ⟨-, hne, -⟩ | ⟨-, haddress⟩
  · exact hne
  · rintro rfl
    exact absurd haddress (by decide)

theorem isAscii_of_mem_host (h : HostForm header host port) {c : Char} (hc : c ∈ host) :
    isAscii c = true := by
  rcases h.shape with ⟨-, -, hhost⟩ | ⟨-, haddress⟩
  · exact isAscii_of_isHostChar (hhost c hc)
  · rcases isHostChar_of_isHostAddress haddress hc with hc | rfl
    · exact isAscii_of_isHostChar hc
    · rfl

/-- **The host of a reference** whose authority is a well-formed header. -/
theorem host_eq {u : Uri} (h : HostForm u.authority.toList host port) :
    u.host = some (String.ofList (hostName host)) := by
  have hlower : lower (cut '%' host).1 = (cut '%' host).1.map Char.toLower :=
    lower_of_isAscii fun c hc => h.isAscii_of_mem_host (mem_of_mem_cut_fst hc)
  have hne : host.isEmpty = false := List.isEmpty_eq_false_iff.mpr h.host_ne_nil
  simp only [Uri.host, h.hostAndRest, hlower, hne, hostName]
  rfl

/-- A site is a name, bracketed where it holds a colon, and a port. -/
theorem toList_site {url : Uri} (h : HostForm url.authority.toList host port)
    (n : Option Nat) :
    (Request.site url n).toList =
      (if ':' ∈ hostName host then '[' :: (hostName host ++ [']']) else hostName host) ++
        writtenPort url.scheme n := by
  have hname : (if (url.host.getD "").toList.contains ':' then "[" ++ url.host.getD "" ++ "]"
      else url.host.getD "").toList =
      if ':' ∈ hostName host then '[' :: (hostName host ++ [']']) else hostName host := by
    rw [h.host_eq, Option.getD_some]
    by_cases hcolon : ':' ∈ hostName host
    · simp [hcolon]
    · simp [hcolon]
  cases n with
  | none =>
    rw [← hname]
    exact (List.append_nil _).symm
  | some n =>
    rw [← hname]
    by_cases hdefault : defaultPort? url.scheme = some n
    · simp [Request.site, writtenPort, hdefault]
    · simp [Request.site, writtenPort, hdefault]

/-- **The site of a base URL** is a well-formed header, of the same host and the same port. -/
theorem site {url : Uri} (h : HostForm url.authority.toList host port) :
    HostForm (Request.site url (portNumber? port)).toList (hostName host)
      (writtenPort url.scheme (portNumber? port)) where
  isHostPort := isHostPort_writtenPort url.scheme fun _ => portNumber?_le h.isHostPort
  shape := by
    rw [h.toList_site]
    have hne := hostName_ne_nil h.host_ne_nil
    rcases h.shape with ⟨-, -, hhost⟩ | ⟨-, haddress⟩
    · have hchar : ∀ c ∈ hostName host, isHostChar c = true := fun _ =>
        isHostChar_of_mem_hostName hhost
      have hcolon : ':' ∉ hostName host := fun hc => absurd (hchar _ hc) (by decide)
      rw [if_neg hcolon]
      exact .inl ⟨rfl, hne, hchar⟩
    · have hname := hostName_of_not_mem (not_mem_percent_of_isHostAddress haddress)
      have haddress' : isHostAddress (hostName host) = true :=
        hname ▸ isHostAddress_map_toLower haddress
      by_cases hcolon : ':' ∈ hostName host
      · rw [if_pos hcolon]
        exact .inr ⟨by simp, haddress'⟩
      · -- a future address without a colon loses its brackets and is a plain host from then on
        rw [if_neg hcolon]
        refine .inl ⟨rfl, hne, fun c hc => ?_⟩
        refine (isHostChar_of_isHostAddress haddress' hc).resolve_right ?_
        rintro rfl
        exact hcolon hc

end HostForm

/-- A reference to a site alone keeps the header as its authority. -/
theorem split_site {header : String} {host port : List Char}
    (h : HostForm header.toList host port) :
    Uri.split ("//" ++ header) = .ok ⟨"", header, "", "", ""⟩ := by
  have htext : "//" ++ header =
      String.ofList (Uri.front [] ++ '/' :: '/' :: header.toList ++ []) := by
    rw [← String.toList_inj]
    simp [Uri.front]
  rw [htext, Uri.split_ofList (.inl rfl) h.isPlain Uri.followsAuthority_nil h.isSound]
  simp [Uri.ofRest, Uri.strip, cut]

/-- Behind a scheme and a site, the rest of a text decides about path, query and fragment alone. -/
theorem split_behind_site {scheme site : String} {host port rest : List Char}
    (hscheme : Uri.IsScheme scheme.toList) (hsite : HostForm site.toList host port)
    (hrest : Uri.FollowsAuthority rest) :
    Uri.split (scheme ++ "://" ++ site ++ String.ofList rest) =
      .ok (Uri.ofRest (scheme.toList.map Char.toLower) site.toList (Uri.strip rest)) := by
  have hne : scheme.toList ≠ [] := by
    obtain ⟨first, tail, heq, -⟩ := hscheme.head
    rw [heq]
    exact List.cons_ne_nil first tail
  have htext : scheme ++ "://" ++ site ++ String.ofList rest =
      String.ofList (Uri.front scheme.toList ++ '/' :: '/' :: site.toList ++ rest) := by
    rw [← String.toList_inj]
    simp [Uri.front, hne]
  rw [htext, Uri.split_ofList (.inr hscheme) hsite.isPlain hrest hsite.isSound]

namespace Request

/-! ### Requests to a web server -/

/-- A hosted request by a scheme of the web, below a rooted context path or none. -/
structure Served (r : Request) : Prop where
  path : r.path ≠ none
  scheme : r.scheme = "http" ∨ r.scheme = "https"
  host : ∃ header, r.host = some header ∧ isHostHeader header = true
  rooted : r.rootPath.getD "" = "" ∨ (r.rootPath.getD "").toList.head? = some '/'

variable {r : Request}

theorem Served.isScheme (h : r.Served) :
    Uri.IsScheme r.scheme.toList ∧ r.scheme.toList.map Char.toLower = r.scheme.toList := by
  rcases h.scheme with heq | heq
  · rw [heq]
    exact ⟨⟨⟨'h', "ttp".toList, rfl, rfl⟩, List.all_eq_true.mp (by decide)⟩, by decide⟩
  · rw [heq]
    exact ⟨Uri.isScheme_https, by decide⟩

theorem Served.hosted (h : r.Served) : r.Hosted where
  path := h.path
  scheme := .inr h.isScheme.1
  host := h.host

theorem contextPath_prefix (r : Request) :
    r.contextPath.toList <+: (r.rootPath.getD "").toList := by
  rw [contextPath, dropTrailingSlashes, String.toList_ofList]
  exact prefix_dropTrailing _ _

/-- The context path is what may follow an authority. -/
theorem Served.followsAuthority (h : r.Served) : Uri.FollowsAuthority r.contextPath.toList := by
  intro c hc
  obtain ⟨tail, htail⟩ := r.contextPath_prefix
  have hhead : (r.rootPath.getD "").toList.head? = some c := by
    rw [← htail, List.head?_append, hc]
    rfl
  rcases h.rooted with hroot | hroot
  · rw [hroot] at hhead
    exact absurd hhead (by simp)
  · obtain rfl : c = '/' := Option.some_inj.mp (hhead.symm.trans hroot)
    rfl

/-- **The base URL of a request to a web server** is its scheme, a site of the host and the port of
its header, and its context path. -/
theorem Served.exists_site (h : r.Served) (hquery : ∃ cs, Utf8.decode r.query = .ok cs)
    {header : String} {host port : List Char} (hhost : r.host = some header)
    (hform : HostForm header.toList host port) :
    ∃ site : String,
      HostForm site.toList (hostName host) (writtenPort r.scheme (portNumber? port)) ∧
        r.baseUrl = .ok (r.scheme ++ "://" ++ site ++ r.contextPath) := by
  obtain ⟨cs, hquery⟩ := hquery
  obtain ⟨url, hurl, hscheme, rfl⟩ := (h.hosted.addressable hquery).url hhost
  rw [h.isScheme.2, String.ofList_toList] at hscheme
  refine ⟨site url (portNumber? port), ?_, ?_⟩
  · rw [← hscheme]
    exact hform.site
  · rw [baseUrl_of_url hurl hform.port_eq, hscheme]

/-! ### Taking a base URL apart -/

/-- A path in which splitting finds no end and nothing to take out. -/
def IsPlainPath (path : String) : Prop :=
  ∀ c ∈ path.toList, c ≠ '?' ∧ c ≠ '#' ∧ c ≠ '\t' ∧ c ≠ '\r' ∧ c ≠ '\n'

theorem ofRest_of_isPlainPath {path : String} (h : IsPlainPath path)
    (scheme authority : List Char) :
    Uri.ofRest scheme authority (Uri.strip path.toList) =
      ⟨String.ofList scheme, String.ofList authority, path, "", ""⟩ := by
  have hstrip : Uri.strip path.toList = path.toList := Uri.strip_eq_self fun c hc => by
    obtain ⟨-, -, htab, hreturn, hline⟩ := h c hc
    simp [Uri.isDropped, htab, hline, hreturn]
  have hsharp : '#' ∉ path.toList := fun hc => (h _ hc).2.1 rfl
  have hmark : '?' ∉ path.toList := fun hc => (h _ hc).1 rfl
  simp [Uri.ofRest, hstrip, cut_of_not_mem hsharp, cut_of_not_mem hmark]

/-- **The base URL is canonical.** It is the same for all requests of one scheme, one host header
and one context path, whatever their paths, queries, methods and servers are. Taken apart, it has
the scheme of the request, the host that the header names, the number of the port unless that is the
one the scheme implies, and the context path, and nothing else. -/
theorem Served.baseUrl_canonical (h : r.Served) (hquery : ∃ cs, Utf8.decode r.query = .ok cs)
    (hplain : IsPlainPath (r.rootPath.getD "")) {header : String} (hhost : r.host = some header) :
    ∃ base parts site host port, r.baseUrl = .ok base ∧
      (∀ r' : Request, r'.path ≠ none → (∃ cs, Utf8.decode r'.query = .ok cs) →
        r'.scheme = r.scheme → r'.host = r.host → r'.rootPath = r.rootPath →
          r'.baseUrl = .ok base) ∧
      Uri.split ("//" ++ header) = .ok site ∧ HostForm header.toList host port ∧
      Uri.split base = .ok parts ∧ parts.scheme = r.scheme ∧ parts.host = site.host ∧
      parts.port = .ok (if portNumber? port = defaultPort? r.scheme then none
        else portNumber? port) ∧
      parts.path = dropTrailingSlashes (r.rootPath.getD "") ∧ parts.query = "" ∧
      parts.fragment = "" ∧ '@' ∉ parts.authority.toList := by
  obtain ⟨_, hsome, haccepted⟩ := h.host
  obtain rfl := Option.some_inj.mp (hhost.symm.trans hsome)
  obtain ⟨host, port, hform⟩ := hostHeader_cases haccepted
  obtain ⟨site, hsite, hbase⟩ := h.exists_site hquery hhost hform
  have hcontext : IsPlainPath r.contextPath := fun c hc =>
    hplain c (r.contextPath_prefix.subset hc)
  have hsplit := split_behind_site h.isScheme.1 hsite h.followsAuthority
  rw [String.ofList_toList, ofRest_of_isPlainPath hcontext, h.isScheme.2, String.ofList_toList,
    String.ofList_toList] at hsplit
  refine ⟨_, _, _, host, port, hbase, fun r' hpath' hquery' hscheme' hhost' hroot' => ?_,
    split_site hform, hform, hsplit, rfl, ?_, ?_, rfl, rfl, rfl, hsite.not_mem_at⟩
  · obtain ⟨cs, hquery⟩ := hquery
    obtain ⟨cs', hquery'⟩ := hquery'
    have h' : r'.Addressable :=
      { path := hpath'
        scheme := .inr (hscheme' ▸ h.isScheme.1)
        host := ⟨header, hhost'.trans hhost, haccepted⟩
        query := ⟨cs', hquery'⟩ }
    rw [h'.baseUrl_congr (h.hosted.addressable hquery) hscheme' hhost' hroot', hbase]
  · -- the site has the name of the host, and a name is its own name
    rw [HostForm.host_eq (u := ⟨_, site, _, _, _⟩) hsite,
      HostForm.host_eq (u := ⟨_, header, _, _, _⟩) hform, hostName_hostName]
  · rw [HostForm.port_eq (u := ⟨_, site, _, _, _⟩) hsite, portNumber?_writtenPort]

private def canteenRequest : Request where
  method := "GET"
  path := some "//canteen/menu"
  rootPath := some "/canteen//"
  host := some "[2001:DB8::A]:00443"
  server := none
  scheme := "https"
  query := Utf8.encode "day=#@".toList

private theorem served_canteenRequest : canteenRequest.Served ∧
    IsPlainPath (canteenRequest.rootPath.getD "") := by
  have hhost : isHostHeader "[2001:DB8::A]:00443" = true := by decide +kernel
  have hplain : ("/canteen//".toList.all fun c =>
      decide (c ≠ '?' ∧ c ≠ '#' ∧ c ≠ '\t' ∧ c ≠ '\r' ∧ c ≠ '\n')) = true := by decide
  refine ⟨⟨by decide, .inr rfl, ⟨_, rfl, hhost⟩, .inr (by decide)⟩, fun c hc => ?_⟩
  simpa using List.all_eq_true.mp hplain c hc

theorem Served.baseUrl_canonical_canteen :
    ∃ base parts, canteenRequest.baseUrl = .ok base ∧ Uri.split base = .ok parts ∧
      parts.scheme = "https" ∧ parts.host = some "2001:db8::a" ∧ parts.port = .ok none ∧
      parts.path = "/canteen" := by
  obtain ⟨base, parts, site, host, port, hbase, -, hsite, hform, hparts, hscheme, hname, hport,
    hpath, -⟩ := Served.baseUrl_canonical served_canteenRequest.1
      ⟨_, Utf8.decode_encode "day=#@".toList⟩ served_canteenRequest.2 rfl
  obtain ⟨hread, hlower, hcontext⟩ :
      Uri.hostAndRest (afterLast '@' "[2001:DB8::A]:00443".toList) =
        ("2001:DB8::A".toList, ":00443".toList) ∧
      String.ofList (hostName "2001:DB8::A".toList) = "2001:db8::a" ∧
      dropTrailingSlashes "/canteen//" = "/canteen" := by decide
  obtain ⟨rfl, rfl⟩ := Prod.mk.inj (hform.hostAndRest.symm.trans hread)
  obtain rfl := Except.ok.inj ((split_site hform).symm.trans hsite)
  rw [HostForm.host_eq (u := ⟨_, _, _, _, _⟩) hform, hlower] at hname
  exact ⟨base, parts, hbase, hparts, hscheme, hname, hport, hpath.trans hcontext⟩

end Request

end OAuthRedirect
