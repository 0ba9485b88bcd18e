import OAuthRedirect.Proofs.Http.BaseUrl
import OAuthRedirect.Proofs.Text.Lines
import OAuthRedirect.Proofs.Uri.Reassembly

/-!
# Line feeds and URLs

Splitting a text into the parts of a reference takes its line feeds out, so that scheme, authority
and path are on one line whatever the text is (`Uri.oneLine_of_split`), and so are host and port.
The base URL of a request ends with its context path, which goes through no splitting: it is on one
line exactly when the context path is (`Request.exists_oneLine_front`).
-/

namespace OAuthRedirect

open Text (OneLine oneLine_append_iff)

namespace Uri

/-! ### Parts of a reference -/

theorem mem_of_mem_splitAuthority {cs : List Char} {c : Char}
    (h : c ∈ (splitAuthority cs).1 ∨ c ∈ (splitAuthority cs).2) : c ∈ cs := by
  obtain hnone | ⟨happend, -⟩ := splitAuthority_cases cs
  · rw [hnone] at h
    exact h.resolve_left List.not_mem_nil
  · rw [happend]
    refine List.mem_append.mpr (h.imp_left fun h => ?_)
    exact List.mem_cons_of_mem _ (List.mem_cons_of_mem _ h)

/-- **Splitting takes line feeds out.** -/
theorem oneLine_of_split {s : String} {u : Uri} (h : split s = .ok u) :
    OneLine u.scheme ∧ OneLine u.authority ∧ OneLine u.path := by
  obtain ⟨-, rfl⟩ := split_eq_ok_iff.mp h
  have hkept : '\n' ∉ (splitScheme (clean s.toList)).2 := fun hline =>
    absurd (isDropped_of_mem_clean ((splitScheme_snd_suffix _).subset hline)) (by decide)
  refine ⟨fun hline => ?_, fun hline => hkept ?_, fun hline => hkept ?_⟩
  · rw [ofRest, String.toList_ofList] at hline
    obtain hempty | ⟨hscheme, -⟩ := splitScheme_fst (clean s.toList)
    · simp [hempty] at hline
    · exact absurd (hscheme.isDropped hline) (by decide)
  · rw [ofRest, String.toList_ofList] at hline
    exact mem_of_mem_splitAuthority (.inl hline)
  · rw [ofRest, String.toList_ofList] at hline
    exact mem_of_mem_splitAuthority
      (.inr (Text.mem_of_mem_cut_fst (Text.mem_of_mem_cut_fst hline)))

/-! ### Hosts -/

theorem mem_of_mem_afterLast {sep c : Char} {cs : List Char} (h : c ∈ Text.afterLast sep cs) :
    c ∈ cs := by
  rw [Text.afterLast, List.mem_reverse] at h
  exact List.mem_reverse.mp ((List.takeWhile_prefix _).subset h)

theorem mem_of_mem_hostAndRest_fst {c : Char} {cs : List Char} (h : c ∈ (hostAndRest cs).1) :
    c ∈ cs := by
  unfold hostAndRest at h
  split at h
  · rename_i before inside hcut
    have hinside : inside = (Text.cut '[' cs).2.getD [] := by rw [hcut, Option.getD_some]
    exact Text.mem_of_mem_cut_snd (hinside ▸ Text.mem_of_mem_cut_fst h)
  · exact Text.mem_of_mem_cut_fst h

theorem oneLine_host {u : Uri} (h : OneLine u.authority) : OneLine (u.host.getD "") := by
  unfold host
  generalize hname : (hostAndRest (Text.afterLast '@' u.authority.toList)).1 = name
  have hkept : '\n' ∉ name := fun hline =>
    h (mem_of_mem_afterLast (mem_of_mem_hostAndRest_fst (hname ▸ hline)))
  dsimp only
  split
  · decide
  · rw [Option.getD_some, OneLine, String.toList_ofList, List.mem_append, not_or]
    refine ⟨Text.not_mem_lower fun hline => hkept (Text.mem_of_mem_cut_fst hline), fun hzone => ?_⟩
    cases hcut : (Text.cut '%' name).2 with
    | none => simp [hcut] at hzone
    | some zone =>
      have hmem : '\n' ∈ (Text.cut '%' name).2.getD [] := by simpa [hcut] using hzone
      exact hkept (Text.mem_of_mem_cut_snd hmem)

end Uri

/-! ### Base URLs -/

namespace Request

theorem oneLine_site {url : Uri} (h : OneLine url.authority) (port : Option Nat) :
    OneLine (site url port) := by
  have hmarks : OneLine "[" ∧ OneLine "]" ∧ OneLine ":" := by decide
  have hhost := Uri.oneLine_host h
  have hbracketed : OneLine (if (url.host.getD "").toList.contains ':' then
      "[" ++ url.host.getD "" ++ "]" else url.host.getD "") := by
    split
    · simp only [oneLine_append_iff, hmarks, hhost, and_self]
    · exact hhost
  unfold site
  dsimp only
  split
  · split
    · exact hbracketed
    · simp only [oneLine_append_iff, hmarks, hbracketed, Text.oneLine_toString, and_self]
  · exact hbracketed

/-- A base URL is what was read off the URL, with the context path behind it. -/
theorem exists_site_of_baseUrl {r : Request} {base : String} (h : r.baseUrl = .ok base) :
    ∃ url port, r.url = .ok url ∧ base = url.scheme ++ "://" ++ site url port ++ r.contextPath := by
  obtain ⟨url, hurl⟩ := exists_url_of_baseUrl h
  cases hport : url.port with
  | error e =>
    rw [baseUrl, hurl] at h
    change (url.port.mapError UrlError.uri >>= fun port => _) = _ at h
    rw [hport] at h
    cases h
  | ok port =>
    rw [baseUrl_of_url hurl hport] at h
    exact ⟨url, port, hurl, (Except.ok.inj h).symm⟩

theorem oneLine_of_url {r : Request} {url : Uri} (h : r.url = .ok url) :
    OneLine url.scheme ∧ OneLine url.authority ∧ OneLine url.path := by
  rw [Request.url] at h
  cases htext : r.urlText with
  | error e =>
    rw [htext] at h
    cases h
  | ok text =>
    rw [htext] at h
    change (Uri.split text).mapError UrlError.uri = .ok url at h
    cases hsplit : Uri.split text with
    | error e =>
      rw [hsplit] at h
      cases h
    | ok found =>
      rw [hsplit] at h
      obtain rfl := Except.ok.inj h
      exact Uri.oneLine_of_split hsplit

/-- **Line feeds of a base URL** are those of the context path. -/
theorem exists_oneLine_front {r : Request} {base : String} (h : r.baseUrl = .ok base) :
    ∃ front, OneLine front ∧ base = front ++ r.contextPath := by
  obtain ⟨url, port, hurl, rfl⟩ := exists_site_of_baseUrl h
  obtain ⟨hscheme, hauthority, -⟩ := oneLine_of_url hurl
  have hmark : OneLine "://" := by decide
  refine ⟨_, ?_, rfl⟩
  simp only [oneLine_append_iff, hscheme, hmark, oneLine_site hauthority, and_self]

end Request

end OAuthRedirect
