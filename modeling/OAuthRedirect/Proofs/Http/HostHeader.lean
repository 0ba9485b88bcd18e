import OAuthRedirect.Http.Request
import OAuthRedirect.Proofs.Uri.Reassembly

/-!
# Host headers as authorities

A well-formed host header is a host, plain or in brackets, and an optional port
(`hostHeader_cases`). As the authority of a reference it does what its form says: it passes the
checks of splitting (`HostForm.isSound`), holds nothing that splitting takes out or ends an
authority at, and is taken apart into that host and that port (`HostForm.hostAndRest`).
-/

namespace OAuthRedirect

open Text

/-! ### Characters -/

theorem isHostChar_of_isDigit {c : Char} (h : c.isDigit = true) : isHostChar c = true := by
  simp [isHostChar, h]

theorem isAscii_of_isHexDigit {c : Char} (h : Hex.isDigit c = true) : isAscii c = true := by
  rw [Hex.isDigit, Hex.value?] at h
  rw [isAscii, decide_eq_true_eq]
  by_contra hlarge
  rw [if_neg (by omega), if_neg (by omega), if_neg (by omega)] at h
  contradiction

theorem isHostChar_of_isHexDigit {c : Char} (h : Hex.isDigit c = true) : isHostChar c = true :=
  of_isAscii (fun c => Hex.isDigit c = true → isHostChar c = true) (by decide)
    (isAscii_of_isHexDigit h) h

theorem isAscii_of_isHostChar {c : Char} (h : isHostChar c = true) : isAscii c = true := by
  simp only [isHostChar, Bool.or_eq_true, List.contains_iff_mem] at h
  rcases h with (h | h) | h
  · exact isAscii_of_isLetter h
  · exact isAscii_of_isDigit h
  · have hall : "._~%!$&'()*+,;=-".toList.all isAscii = true := by decide
    exact List.all_eq_true.mp hall c h

/-- A character of a header: one of a host, a colon or a bracket. -/
def isHeaderChar (c : Char) : Bool :=
  isHostChar c || c == ':' || c == '[' || c == ']'

theorem isAscii_of_isHeaderChar {c : Char} (h : isHeaderChar c = true) : isAscii c = true := by
  simp only [isHeaderChar, Bool.or_eq_true, beq_iff_eq] at h
  rcases h with ((h | rfl) | rfl) | rfl
  · exact isAscii_of_isHostChar h
  all_goals rfl

/-- No character of a header means anything to the splitting of a reference. -/
theorem plain_of_isHeaderChar {c : Char} (h : isHeaderChar c = true) :
    Uri.endsAuthority c = false ∧ Uri.isDropped c = false ∧ c ≠ '@' := by
  have hne : ∀ d, isHeaderChar d = false → c ≠ d := by
    rintro d hd rfl
    simp [h] at hd
  refine ⟨?_, Uri.isDropped_of_class isHeaderChar h rfl rfl rfl, hne '@' (by decide)⟩
  simp [Uri.endsAuthority, hne '/' (by decide), hne '?' (by decide), hne '#' (by decide)]

theorem checkCompatibility_of_isAscii {cs : List Char} (h : ∀ c ∈ cs, isAscii c = true) :
    Uri.checkCompatibility cs = .ok () := by
  have hhigh : ∀ n ∈ Uri.disguisedDelimiters, 128 ≤ n := by decide
  have hnone : (cs.any fun c => Uri.disguisedDelimiters.contains c.toNat) = false := by
    rw [List.any_eq_false]
    intro c hc hmem
    have hn : c.toNat < 128 := by simpa [isAscii] using h c hc
    have := hhigh c.toNat (List.contains_iff_mem.mp hmem)
    omega
  rw [Uri.checkCompatibility, hnone]
  rfl

/-! ### Bracketed addresses -/

/-- The parts of an address of a future version: the letter `v`, a version in hexadecimal
digits, a point, and a name. -/
theorem isHostAddress_future {rest : List Char} (h : isHostAddress ('v' :: rest) = true) :
    ∃ name, rest.drop (rest.takeWhile Hex.isDigit).length = '.' :: name ∧
      rest.takeWhile Hex.isDigit ≠ [] ∧ name ≠ [] ∧
      ∀ c ∈ name, isHostChar c = true ∧ c ≠ '%' ∨ c = ':' := by
  rw [isHostAddress] at h
  split at h
  · rename_i name heq
    simp only [Bool.and_eq_true, Bool.not_eq_true', List.isEmpty_eq_false_iff, List.all_eq_true,
      Bool.or_eq_true, beq_iff_eq, bne_iff_ne] at h
    exact ⟨name, heq, h.1.1, h.1.2, h.2⟩
  · contradiction

/-- An address of the present version: hexadecimal digits, colons and points. -/
theorem isHostAddress_present {cs : List Char} (hv : ∀ rest, cs ≠ 'v' :: rest)
    (h : isHostAddress cs = true) :
    (∀ c ∈ cs, Hex.isDigit c = true ∨ c = ':' ∨ c = '.') ∧ Uri.Address.isV6 cs = true := by
  unfold isHostAddress at h
  split at h
  · rename_i rest
    exact absurd rfl (hv rest)
  · simpa [or_assoc] using h

/-- An address is made of the characters of a host but for the percent sign, and of colons. -/
theorem cases_of_mem_isHostAddress {cs : List Char} (h : isHostAddress cs = true) {c : Char}
    (hc : c ∈ cs) : isHostChar c = true ∧ c ≠ '%' ∨ c = ':' := by
  have hhex : ∀ d, Hex.isDigit d = true → isHostChar d = true ∧ d ≠ '%' := fun d hd => by
    refine ⟨isHostChar_of_isHexDigit hd, ?_⟩
    rintro rfl
    contradiction
  by_cases hv : ∃ rest, cs = 'v' :: rest
  · obtain ⟨rest, rfl⟩ := hv
    obtain ⟨name, hdrop, -, -, hname⟩ := isHostAddress_future h
    rcases List.mem_cons.mp hc with rfl | hc
    · exact .inl (by decide)
    · -- behind the `v`: the version, the point, and the name
      rw [← List.takeWhile_append_dropWhile (p := Hex.isDigit) (l := rest),
        ← drop_length_takeWhile, hdrop] at hc
      rcases List.mem_append.mp hc with hc | hc
      · exact .inl (hhex c (List.mem_takeWhile_imp hc))
      · rcases List.mem_cons.mp hc with rfl | hc
        · exact .inl (by decide)
        · exact hname c hc
  · obtain ⟨hall, -⟩ := isHostAddress_present (fun rest heq => hv ⟨rest, heq⟩) h
    rcases hall c hc with hc | rfl | rfl
    · exact .inl (hhex c hc)
    · exact .inr rfl
    · exact .inl (by decide)

theorem isHostChar_of_isHostAddress {cs : List Char} (h : isHostAddress cs = true) {c : Char}
    (hc : c ∈ cs) : isHostChar c = true ∨ c = ':' :=
  (cases_of_mem_isHostAddress h hc).imp_left And.left

/-- An IPv6 address holds a colon, which an IPv4 address does not. -/
theorem colon_mem_of_isV6 {cs : List Char} (h : Uri.Address.isV6 cs = true) : ':' ∈ cs := by
  rw [Uri.Address.isV6] at h
  cases hparts : Uri.Address.v6Parts? (cut '%' cs).1 with
  | none => simp [hparts] at h
  | some parts =>
    have hlength : ¬ ((cut '%' cs).1.splitOn ':').length < 3 := by
      intro hlt
      simp [Uri.Address.v6Parts?, hlt] at hparts
    have hmem : ':' ∈ (cut '%' cs).1 := by
      by_contra hnot
      rw [List.splitOn_eq_singleton hnot] at hlength
      exact hlength (by simp)
    exact mem_of_mem_cut_fst hmem

theorem isV4_of_colon_mem {cs : List Char} (h : ':' ∈ cs) : Uri.Address.isV4 cs = false := by
  have hne : ':' ≠ '.' := by decide
  obtain ⟨piece, hpiece, hc⟩ := exists_mem_splitOn h hne
  rw [Uri.Address.isV4, Bool.and_eq_false_iff]
  refine .inr (List.all_eq_false.mpr ⟨piece, hpiece, ?_⟩)
  have hdigits : piece.all Char.isDigit = false := List.all_eq_false.mpr ⟨':', hc, by decide⟩
  simp [Uri.Address.isOctet, hdigits]

theorem checkBracketedHost_of_isHostAddress {cs : List Char} (h : isHostAddress cs = true) :
    Uri.checkBracketedHost cs = .ok () := by
  by_cases hv : ∃ rest, cs = 'v' :: rest
  · obtain ⟨rest, rfl⟩ := hv
    obtain ⟨name, hdrop, hversion, hname, -⟩ := isHostAddress_future h
    obtain ⟨first, tail, rfl⟩ := List.exists_cons_of_ne_nil hname
    simp [Uri.checkBracketedHost, hdrop, hversion]
  · obtain ⟨-, hv6⟩ := isHostAddress_present (fun rest heq => hv ⟨rest, heq⟩) h
    unfold Uri.checkBracketedHost
    split
    · rename_i rest
      exact absurd ⟨rest, rfl⟩ hv
    · rw [isV4_of_colon_mem (colon_mem_of_isV6 hv6), hv6]
      rfl

/-- No host and no port holds a bracket. -/
theorem ne_bracket_of_isHostChar {c : Char} (h : isHostChar c = true ∨ c = ':') :
    c ≠ '[' ∧ c ≠ ']' := by
  rcases h with h | rfl
  · constructor
    all_goals
      rintro rfl
      contradiction
  · decide

/-! ### The form of a header -/

/-- A header that is a plain or bracketed host with a port behind it. -/
structure HostForm (header host port : List Char) : Prop where
  isHostPort : isHostPort port = true
  shape : (header = host ++ port ∧ host ≠ [] ∧ ∀ c ∈ host, isHostChar c = true) ∨
    (header = '[' :: (host ++ ']' :: port) ∧ isHostAddress host = true)

/-- Every well-formed header has the form. -/
theorem hostHeader_cases {header : String} (h : isHostHeader header = true) :
    ∃ host port, HostForm header.toList host port := by
  unfold isHostHeader at h
  split at h
  · rename_i rest heq
    split at h
    · rename_i address after hcut
      rw [Bool.and_eq_true] at h
      have happend := append_of_cut (show (cut ']' rest).2 = some after by rw [hcut])
      rw [hcut] at happend
      exact ⟨address, after, h.2, .inr ⟨by rw [heq, happend], h.1⟩⟩
    · contradiction
  · dsimp only at h
    rw [drop_length_takeWhile, Bool.and_eq_true] at h
    refine ⟨_, _, h.2, .inl ⟨(List.takeWhile_append_dropWhile ..).symm, ?_, ?_⟩⟩
    · intro hnil
      simp [hnil] at h
    · exact fun c hc => List.mem_takeWhile_imp hc

theorem isHostPort_cases {port : List Char} (h : isHostPort port = true) :
    port = [] ∨ ∃ digits, port = ':' :: digits ∧ digits ≠ [] ∧
      (∀ c ∈ digits, c.isDigit = true) ∧ digits.length ≤ digitLimit ∧
        digitsValue digits ≤ 65535 := by
  unfold isHostPort at h
  split at h
  · exact .inl rfl
  · rename_i digits
    simp only [Bool.and_eq_true, Bool.not_eq_true', List.isEmpty_eq_false_iff, List.all_eq_true,
      decide_eq_true_eq] at h
    obtain ⟨⟨⟨hne, hdigits⟩, hlength⟩, hvalue⟩ := h
    exact .inr ⟨digits, rfl, hne, hdigits, hlength, hvalue⟩
  · contradiction

theorem isHostChar_of_isHostPort {port : List Char} (h : isHostPort port = true) {c : Char}
    (hc : c ∈ port) : isHostChar c = true ∨ c = ':' := by
  rcases isHostPort_cases h with rfl | ⟨digits, rfl, -, hdigits, -⟩
  · contradiction
  · rcases List.mem_cons.mp hc with rfl | hc
    · exact .inr rfl
    · exact .inl (isHostChar_of_isDigit (hdigits c hc))

theorem isHostChar_of_mem_append {host port : List Char} (hport : isHostPort port = true)
    (hhost : ∀ c ∈ host, isHostChar c = true) {c : Char} (hc : c ∈ host ++ port) :
    isHostChar c = true ∨ c = ':' := by
  rcases List.mem_append.mp hc with hc | hc
  · exact .inl (hhost c hc)
  · exact isHostChar_of_isHostPort hport hc

namespace HostForm

variable {header host port : List Char}

theorem isHeaderChar_of_mem (h : HostForm header host port) {c : Char} (hc : c ∈ header) :
    isHeaderChar c = true := by
  have hclass : isHostChar c = true ∨ c = ':' → isHeaderChar c = true := by
    rintro (hc | rfl)
    · simp [isHeaderChar, hc]
    · rfl
  rcases h.shape with ⟨rfl, -, hhost⟩ | ⟨rfl, haddress⟩
  · exact hclass (isHostChar_of_mem_append h.isHostPort hhost hc)
  · rcases List.mem_cons.mp hc with rfl | hc
    · rfl
    · rcases List.mem_append.mp hc with hc | hc
      · exact hclass (isHostChar_of_isHostAddress haddress hc)
      · rcases List.mem_cons.mp hc with rfl | hc
        · rfl
        · exact hclass (isHostChar_of_isHostPort h.isHostPort hc)

/-- Splitting finds no end of an authority in a header, and nothing to take out. -/
theorem isPlain (h : HostForm header host port) :
    ∀ c ∈ header, Uri.endsAuthority c = false ∧ Uri.isDropped c = false := fun _ hc =>
  (plain_of_isHeaderChar (h.isHeaderChar_of_mem hc)).imp_right And.left

theorem ne_nil (h : HostForm header host port) : header ≠ [] := by
  rcases h.shape with ⟨rfl, hne, -⟩ | ⟨rfl, -⟩
  · simp [hne]
  · simp

theorem not_mem_at (h : HostForm header host port) : '@' ∉ header := fun hc =>
  (plain_of_isHeaderChar (h.isHeaderChar_of_mem hc)).2.2 rfl

/-- The host and the port are found again. -/
theorem hostAndRest (h : HostForm header host port) :
    Uri.hostAndRest (afterLast '@' header) = (host, port) := by
  rw [afterLast_of_not_mem h.not_mem_at]
  rcases h.shape with ⟨rfl, -, hhost⟩ | ⟨rfl, haddress⟩
  · have hopen : '[' ∉ host ++ port := fun hc =>
      (ne_bracket_of_isHostChar (isHostChar_of_mem_append h.isHostPort hhost hc)).1 rfl
    have hcolon : ':' ∉ host := fun hc => absurd (hhost _ hc) (by decide)
    rw [Uri.hostAndRest, cut_of_not_mem hopen]
    rcases isHostPort_cases h.isHostPort with rfl | ⟨digits, rfl, -⟩
    · simp only [List.append_nil, cut_of_not_mem hcolon]
      rfl
    · simp only [cut_append hcolon]
      rfl
  · have hclose : ']' ∉ host := fun hc =>
      ne_bracket_of_isHostChar (isHostChar_of_isHostAddress haddress hc) |>.2 rfl
    rw [Uri.hostAndRest, cut, if_pos rfl]
    simp only [cut_append hclose, Option.getD_some]

theorem checkBrackets (h : HostForm header host port) : Uri.checkBrackets header = .ok () := by
  have hrest := h.hostAndRest
  rw [afterLast_of_not_mem h.not_mem_at] at hrest
  rw [Uri.checkBrackets, afterLast_of_not_mem h.not_mem_at]
  rcases h.shape with ⟨hheader, -, hhost⟩ | ⟨hheader, haddress⟩
  · -- a plain host and its port hold no bracket at all
    have hnone : ∀ c ∈ header, c ≠ '[' ∧ c ≠ ']' := fun c hc =>
      ne_bracket_of_isHostChar (isHostChar_of_mem_append h.isHostPort hhost (hheader ▸ hc))
    have hopen : '[' ∉ header := fun hc => (hnone _ hc).1 rfl
    have hclose : ']' ∉ header := fun hc => (hnone _ hc).2 rfl
    simp [hopen, hclose]
  · -- the brackets are the first ones, and a port or nothing stands behind them
    have hopen : '[' ∈ header := by simp [hheader]
    have hclose : ']' ∈ header := by simp [hheader]
    have hcut : (cut '[' header).1 = [] := by simp [hheader, cut]
    have hport : port ≠ [] → port.head? = some ':' := by
      intro hne
      rcases isHostPort_cases h.isHostPort with rfl | ⟨digits, rfl, -⟩
      · contradiction
      · rfl
    have haddress := checkBracketedHost_of_isHostAddress haddress
    simpa [hopen, hclose, hrest, hcut, haddress] using fun _ => hport

/-- **A well-formed header is a sound authority.** -/
theorem isSound (h : HostForm header host port) : Uri.IsSound header where
  brackets := h.checkBrackets
  compatibility := checkCompatibility_of_isAscii fun _ hc =>
    isAscii_of_isHeaderChar (h.isHeaderChar_of_mem hc)

end HostForm

end OAuthRedirect
