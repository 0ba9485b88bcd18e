import Mathlib.Data.List.TakeWhile
import OAuthRedirect.Uri.Basic

/-!
# Taking references apart and putting them together

A reference with an authority is written as its scheme, `//`, the authority and a rest that
begins with one of the characters that end an authority. `split_ofList` says what splitting
makes of such a text, whatever the rest holds: the scheme in lower case, the authority as it
is, and the parts that the first `#` and the first `?` cut the rest into (`Uri.ofRest`).

A reference is **canonical** (`Uri.Canonical`) when its parts are as splitting leaves them.
Splitting gives nothing else where there is an authority (`canonical_of_split`), and the text
of a canonical reference is split into that reference again (`split_text`).
-/

namespace OAuthRedirect.Uri

/-! ### Characters that are taken out -/

/-- A character that splitting takes out of a text, wherever it stands. -/
def isDropped (c : Char) : Bool :=
  c == '\t' || c == '\n' || c == '\r'

/-- A text without the characters that are taken out. -/
def strip (cs : List Char) : List Char :=
  cs.filter (!isDropped ·)

theorem clean_eq_strip (cs : List Char) :
    clean cs = strip (cs.dropWhile fun c => c.toNat ≤ 0x20) := by
  rw [clean, strip]
  congr 1
  funext c
  simp [isDropped, bne, Bool.and_assoc]

theorem isDropped_of_mem_clean {cs : List Char} {c : Char} (h : c ∈ clean cs) :
    isDropped c = false := by
  rw [clean_eq_strip, strip, List.mem_filter] at h
  simpa using h.2

theorem strip_append (cs ds : List Char) : strip (cs ++ ds) = strip cs ++ strip ds :=
  List.filter_append ..

theorem strip_cons_of_not_isDropped {c : Char} (h : isDropped c = false) (cs : List Char) :
    strip (c :: cs) = c :: strip cs := by
  simp [strip, h]

theorem strip_eq_self {cs : List Char} (h : ∀ c ∈ cs, isDropped c = false) : strip cs = cs :=
  List.filter_eq_self.mpr fun c hc => by simp [h c hc]

/-- A character of a class without the three is never taken out. -/
theorem isDropped_of_class (p : Char → Bool) {c : Char} (h : p c = true) (htab : p '\t' = false)
    (hline : p '\n' = false) (hreturn : p '\r' = false) : isDropped c = false := by
  have hne : ∀ d, p d = false → c ≠ d := by
    rintro d hd rfl
    simp [h] at hd
  simp [isDropped, hne _ htab, hne _ hline, hne _ hreturn]

theorem isDropped_of_lt {c : Char} (h : 0x20 < c.toNat) : isDropped c = false :=
  isDropped_of_class (fun c => decide (0x20 < c.toNat)) (decide_eq_true h) rfl rfl rfl

/-- Nothing is taken off the front of a text that begins with a printing character. -/
theorem clean_cons {c : Char} (h : 0x20 < c.toNat) (cs : List Char) :
    clean (c :: cs) = c :: strip cs := by
  have hfront : (c :: cs).dropWhile (fun c => decide (c.toNat ≤ 0x20)) = c :: cs :=
    List.dropWhile_cons_of_neg (by simpa using h)
  rw [clean_eq_strip, hfront, strip_cons_of_not_isDropped (isDropped_of_lt h)]

theorem clean_of_head? {cs : List Char} (h : ∀ c, cs.head? = some c → 0x20 < c.toNat) :
    clean cs = strip cs := by
  cases cs with
  | nil => rfl
  | cons c cs =>
    have hc := h c rfl
    rw [clean_cons hc, strip_cons_of_not_isDropped (isDropped_of_lt hc)]

/-! ### Schemes -/

/-- A text that can stand before the first colon as a scheme. -/
structure IsScheme (cs : List Char) : Prop where
  head : ∃ first rest, cs = first :: rest ∧ Text.isLetter first = true
  all : ∀ c ∈ cs, isSchemeChar c = true

theorem isAscii_of_isSchemeChar {c : Char} (h : isSchemeChar c = true) :
    Text.isAscii c = true := by
  simp only [isSchemeChar, Bool.or_eq_true, beq_iff_eq] at h
  rcases h with (((h | h) | rfl) | rfl) | rfl
  · exact Text.isAscii_of_isLetter h
  · exact Text.isAscii_of_isDigit h
  all_goals rfl

theorem isSchemeChar_toLower {c : Char} (h : isSchemeChar c = true) :
    isSchemeChar c.toLower = true :=
  Text.of_isAscii (fun c => isSchemeChar c = true → isSchemeChar c.toLower = true) (by decide)
    (isAscii_of_isSchemeChar h) h

theorem toLower_toLower {c : Char} (h : isSchemeChar c = true) :
    c.toLower.toLower = c.toLower :=
  Text.of_isAscii (fun c => c.toLower.toLower = c.toLower) (by decide)
    (isAscii_of_isSchemeChar h)

theorem isLetter_toLower {c : Char} (h : Text.isLetter c = true) :
    Text.isLetter c.toLower = true :=
  Text.of_isAscii (fun c => Text.isLetter c = true → Text.isLetter c.toLower = true) (by decide)
    (Text.isAscii_of_isLetter h) h

/-- A character of a scheme is a printing one. -/
theorem lt_toNat_of_isSchemeChar {c : Char} (h : isSchemeChar c = true) : 0x20 < c.toNat :=
  Text.of_isAscii (fun c => isSchemeChar c = true → 0x20 < c.toNat) (by decide)
    (isAscii_of_isSchemeChar h) h

theorem isScheme_https : IsScheme "https".toList :=
  ⟨⟨'h', "ttps".toList, rfl, rfl⟩, List.all_eq_true.mp (by decide)⟩

theorem IsScheme.map_toLower {cs : List Char} (h : IsScheme cs) :
    IsScheme (cs.map Char.toLower) := by
  obtain ⟨first, rest, rfl, hletter⟩ := h.head
  refine ⟨⟨_, _, List.map_cons .., isLetter_toLower hletter⟩, fun c hc => ?_⟩
  obtain ⟨d, hd, rfl⟩ := List.mem_map.mp hc
  exact isSchemeChar_toLower (h.all d hd)

theorem IsScheme.map_toLower_map_toLower {cs : List Char} (h : IsScheme cs) :
    (cs.map Char.toLower).map Char.toLower = cs.map Char.toLower := by
  rw [List.map_map]
  exact List.map_congr_left fun c hc => toLower_toLower (h.all c hc)

theorem IsScheme.not_mem_colon {cs : List Char} (h : IsScheme cs) : ':' ∉ cs := by
  intro hmem
  have := h.all ':' hmem
  contradiction

theorem IsScheme.isDropped {cs : List Char} (h : IsScheme cs) {c : Char} (hc : c ∈ cs) :
    isDropped c = false :=
  isDropped_of_lt (lt_toNat_of_isSchemeChar (h.all c hc))

/-- A scheme, in whatever case it is written, is found before its colon. -/
theorem splitScheme_append {cs : List Char} (h : IsScheme cs) (rest : List Char) :
    splitScheme (cs ++ ':' :: rest) = (cs.map Char.toLower, rest) := by
  rw [splitScheme, Text.cut_append h.not_mem_colon]
  obtain ⟨first, tail, rfl, hletter⟩ := h.head
  have hall : (first :: tail).all isSchemeChar = true := List.all_eq_true.mpr h.all
  simp [hletter, hall]

/-- A text that begins with a slash has no scheme. -/
theorem splitScheme_slash (cs : List Char) : splitScheme ('/' :: cs) = ([], '/' :: cs) := by
  rw [splitScheme, Text.cut, if_neg (by decide)]
  split
  · rename_i first rest after heq
    obtain ⟨⟨rfl, -⟩, -⟩ : ('/' = first ∧ _) ∧ _ := by simpa using heq
    simp [Text.isLetter]
  · rfl

/-- What splitting off a scheme gives: a scheme in lower case, or none. -/
theorem splitScheme_fst (cs : List Char) :
    (splitScheme cs).1 = [] ∨
      IsScheme (splitScheme cs).1 ∧
        (splitScheme cs).1.map Char.toLower = (splitScheme cs).1 := by
  unfold splitScheme
  split
  · rename_i first rest after heq
    split
    · rename_i h
      rw [Bool.and_eq_true, List.all_eq_true] at h
      have hscheme : IsScheme (first :: rest) := ⟨⟨first, rest, rfl, h.1⟩, h.2⟩
      exact .inr ⟨hscheme.map_toLower, hscheme.map_toLower_map_toLower⟩
    · exact .inl rfl
  · exact .inl rfl

theorem map_toLower_eq_self {cs : List Char}
    (h : cs = [] ∨ IsScheme cs ∧ cs.map Char.toLower = cs) : cs.map Char.toLower = cs := by
  rcases h with rfl | ⟨-, hlower⟩
  · rfl
  · exact hlower

/-- What is left after a scheme is an end of the text. -/
theorem splitScheme_snd_suffix (cs : List Char) : (splitScheme cs).2 <:+ cs := by
  unfold splitScheme
  split
  · rename_i first rest after heq
    split
    · have hafter : (Text.cut ':' cs).2 = some after := by rw [heq]
      have := Text.append_of_cut hafter
      exact ⟨(Text.cut ':' cs).1 ++ [':'], by simpa using this⟩
    · exact List.suffix_refl cs
  · exact List.suffix_refl cs

/-! ### Authorities -/

/-- What may follow an authority: nothing, or a text that begins with one of the characters
that end an authority. -/
def FollowsAuthority (cs : List Char) : Prop :=
  ∀ c, cs.head? = some c → endsAuthority c = true

theorem followsAuthority_nil : FollowsAuthority [] := fun c hc => by simp at hc

theorem followsAuthority_slash (cs : List Char) : FollowsAuthority ('/' :: cs) := fun c hc => by
  obtain rfl : '/' = c := by simpa using hc
  rfl

theorem followsAuthority_dropWhile (cs : List Char) :
    FollowsAuthority (cs.dropWhile (!endsAuthority ·)) := by
  intro c hc
  have hne : cs.dropWhile (!endsAuthority ·) ≠ [] := by
    rintro hnil
    simp [hnil] at hc
  have hnot := List.head_dropWhile_not (!endsAuthority ·) hne
  rw [List.head?_eq_some_head hne, Option.some_inj] at hc
  simpa [hc] using hnot

theorem FollowsAuthority.takeWhile_eq_nil {cs : List Char} (h : FollowsAuthority cs) :
    cs.takeWhile (!endsAuthority ·) = [] := by
  cases cs with
  | nil => rfl
  | cons c cs => simp [h c rfl]

theorem splitAuthority_of_take {cs : List Char} (h : cs.take 2 ≠ ['/', '/']) :
    splitAuthority cs = ([], cs) := by
  unfold splitAuthority
  split
  · simp at h
  · rfl

/-- An authority ends where the rest begins. -/
theorem splitAuthority_append {authority rest : List Char}
    (ha : ∀ c ∈ authority, endsAuthority c = false) (hr : FollowsAuthority rest) :
    splitAuthority ('/' :: '/' :: authority ++ rest) = (authority, rest) := by
  have hpos : ∀ c ∈ authority, (!endsAuthority c) = true := fun c hc => by simp [ha c hc]
  have hdrop : rest.dropWhile (!endsAuthority ·) = rest := by
    cases rest with
    | nil => rfl
    | cons c cs => simp [hr c rfl]
  simp only [List.cons_append, splitAuthority, List.takeWhile_append_of_pos hpos,
    List.dropWhile_append_of_pos hpos, hr.takeWhile_eq_nil, hdrop, List.append_nil]

/-- What splitting off an authority gives: the whole text again behind `//`, or no authority. -/
theorem splitAuthority_cases (cs : List Char) :
    (splitAuthority cs = ([], cs)) ∨
      cs = '/' :: '/' :: (splitAuthority cs).1 ++ (splitAuthority cs).2 ∧
        (∀ c ∈ (splitAuthority cs).1, endsAuthority c = false) ∧
        FollowsAuthority (splitAuthority cs).2 := by
  unfold splitAuthority
  split
  · rename_i rest
    refine .inr ⟨by simp [List.takeWhile_append_dropWhile], fun c hc => ?_,
      followsAuthority_dropWhile rest⟩
    simpa using List.mem_takeWhile_imp hc
  · exact .inl rfl

/-! ### Splitting -/

/-- The reference with a scheme, an authority and the parts that the first `#` and the first
`?` cut the rest into. -/
def ofRest (scheme authority rest : List Char) : Uri :=
  let beforeFragment := (Text.cut '#' rest).1
  { scheme := String.ofList scheme
    authority := String.ofList authority
    path := String.ofList (Text.cut '?' beforeFragment).1
    query := String.ofList ((Text.cut '?' beforeFragment).2.getD [])
    fragment := String.ofList ((Text.cut '#' rest).2.getD []) }

/-- The authorities that splitting lets pass. -/
structure IsSound (authority : List Char) : Prop where
  brackets : checkBrackets authority = .ok ()
  compatibility : checkCompatibility authority = .ok ()

/-- Splitting succeeds when its checks of the authority do. -/
theorem split_eq_ok_iff {s : String} {u : Uri} :
    split s = .ok u ↔
      IsSound (splitAuthority (splitScheme (clean s.toList)).2).1 ∧
        u = ofRest (splitScheme (clean s.toList)).1
          (splitAuthority (splitScheme (clean s.toList)).2).1
          (splitAuthority (splitScheme (clean s.toList)).2).2 := by
  rw [split]
  generalize hparts : splitAuthority (splitScheme (clean s.toList)).2 = parts
  simp only [hparts]
  constructor
  · intro h
    cases hb : checkBrackets parts.1 with
    | error e =>
      rw [hb] at h
      contradiction
    | ok _ =>
      cases hc : checkCompatibility parts.1 with
      | error e =>
        rw [hb, hc] at h
        contradiction
      | ok _ =>
        rw [hb, hc] at h
        exact ⟨⟨hb, hc⟩, (Except.ok.inj h).symm⟩
  · rintro ⟨⟨hb, hc⟩, rfl⟩
    rw [hb, hc]
    rfl

/-! ### Texts with an authority -/

/-- The front of a text: a scheme with its colon, or nothing. -/
def front (scheme : List Char) : List Char :=
  if scheme = [] then [] else scheme ++ [':']

/-- An optional part of a text behind the character that announces it. -/
def announced (mark : Char) (cs : List Char) : List Char :=
  if cs = [] then [] else mark :: cs

theorem mem_announced {mark c : Char} {cs : List Char} (h : c ∈ announced mark cs) :
    c = mark ∨ c ∈ cs := by
  rw [announced] at h
  split at h
  · contradiction
  · exact List.mem_cons.mp h

theorem cut_append_announced {mark : Char} {cs : List Char} (h : mark ∉ cs)
    (tail : List Char) :
    (Text.cut mark (cs ++ announced mark tail)).1 = cs ∧
      (Text.cut mark (cs ++ announced mark tail)).2.getD [] = tail := by
  rw [announced]
  split
  · rename_i htail
    subst htail
    rw [List.append_nil, Text.cut_of_not_mem h]
    exact ⟨rfl, rfl⟩
  · rw [Text.cut_append h]
    exact ⟨rfl, rfl⟩

/-- Cleaning leaves the front of a text as it is. -/
theorem clean_front {scheme : List Char} (hs : scheme = [] ∨ IsScheme scheme) {cs : List Char}
    (h : scheme = [] → ∀ c, cs.head? = some c → 0x20 < c.toNat) :
    clean (front scheme ++ cs) = front scheme ++ strip cs := by
  rcases hs with rfl | hs
  · exact clean_of_head? (h rfl)
  · obtain ⟨first, tail, rfl, -⟩ := hs.head
    have hkept : ∀ c ∈ front (first :: tail), isDropped c = false := by
      intro c hc
      rcases List.mem_append.mp hc with hc | hc
      · exact hs.isDropped hc
      · rw [List.mem_singleton.mp hc]
        rfl
    have hprint : ∀ c, (front (first :: tail) ++ cs).head? = some c → 0x20 < c.toNat := by
      intro c hc
      obtain rfl : first = c := by simpa [front] using hc
      exact lt_toNat_of_isSchemeChar (hs.all _ List.mem_cons_self)
    rw [clean_of_head? hprint, strip_append, strip_eq_self hkept]

/-- The scheme in front of a text is found when the text could do without one. -/
theorem splitScheme_front {scheme : List Char} (hs : scheme = [] ∨ IsScheme scheme)
    {cs : List Char} (h : scheme = [] → splitScheme cs = ([], cs)) :
    splitScheme (front scheme ++ cs) = (scheme.map Char.toLower, cs) := by
  rcases hs with rfl | hs
  · exact h rfl
  · have hne : scheme ≠ [] := by
      obtain ⟨first, tail, rfl, -⟩ := hs.head
      exact List.cons_ne_nil first tail
    rw [front, if_neg hne, List.append_assoc]
    exact splitScheme_append hs cs

/-- A text whose parts hold nothing to be taken out is cleaned into itself, but for the rest. -/
theorem clean_front_append {scheme : List Char} (hs : scheme = [] ∨ IsScheme scheme)
    {authority : List Char} (ha : ∀ c ∈ authority, isDropped c = false) (rest : List Char) :
    clean (front scheme ++ '/' :: '/' :: authority ++ rest) =
      front scheme ++ '/' :: '/' :: authority ++ strip rest := by
  have hkept : ∀ c ∈ '/' :: '/' :: authority, isDropped c = false := by simpa using ⟨rfl, ha⟩
  have hslash : ∀ c, ('/' :: '/' :: authority ++ rest).head? = some c → 0x20 < c.toNat := by
    intro c hc
    obtain rfl : '/' = c := by simpa using hc
    decide
  rw [List.append_assoc, clean_front hs fun _ => hslash, strip_append, strip_eq_self hkept,
    List.append_assoc]

theorem FollowsAuthority.strip {rest : List Char} (h : FollowsAuthority rest) :
    FollowsAuthority (strip rest) := by
  cases rest with
  | nil => exact h
  | cons c cs =>
    have hc := h c rfl
    have hdrop : isDropped c = false := by
      simp only [endsAuthority, Bool.or_eq_true, beq_iff_eq] at hc
      rcases hc with (rfl | rfl) | rfl <;> rfl
    rw [strip_cons_of_not_isDropped hdrop]
    intro d hd
    obtain rfl : c = d := by simpa using hd
    exact hc

theorem FollowsAuthority.append {cs ds : List Char} (hc : FollowsAuthority cs)
    (hd : FollowsAuthority ds) : FollowsAuthority (cs ++ ds) := by
  cases cs with
  | nil => exact hd
  | cons c cs => exact hc

theorem followsAuthority_announced {mark : Char} (h : endsAuthority mark = true)
    (cs : List Char) : FollowsAuthority (announced mark cs) := by
  intro c hc
  rw [announced] at hc
  split at hc
  · contradiction
  · obtain rfl : mark = c := by simpa using hc
    exact h

/-- **Splitting a text with an authority.** The authority comes out as it was put in, and the
rest decides about the other parts alone. -/
theorem split_ofList {scheme authority rest : List Char} (hs : scheme = [] ∨ IsScheme scheme)
    (ha : ∀ c ∈ authority, endsAuthority c = false ∧ isDropped c = false)
    (hr : FollowsAuthority rest) (hsound : IsSound authority) :
    split (String.ofList (front scheme ++ '/' :: '/' :: authority ++ rest)) =
      .ok (ofRest (scheme.map Char.toLower) authority (strip rest)) := by
  have hscheme : splitScheme (front scheme ++ '/' :: '/' :: authority ++ strip rest) =
      (scheme.map Char.toLower, '/' :: '/' :: authority ++ strip rest) := by
    rw [List.append_assoc]
    exact splitScheme_front hs fun _ => splitScheme_slash _
  rw [split_eq_ok_iff, String.toList_ofList, clean_front_append hs fun c hc => (ha c hc).2,
    hscheme, splitAuthority_append (fun c hc => (ha c hc).1) hr.strip]
  exact ⟨hsound, rfl⟩

/-! ### Texts of references -/

/-- The text of a reference behind its authority. -/
def rest (u : Uri) : List Char :=
  (if u.path.toList = [] ∨ u.path.toList.head? = some '/' then u.path.toList
    else '/' :: u.path.toList)
    ++ announced '?' u.query.toList ++ announced '#' u.fragment.toList

theorem followsAuthority_rest (u : Uri) : FollowsAuthority u.rest := by
  have hpath : FollowsAuthority (if u.path.toList = [] ∨ u.path.toList.head? = some '/' then
      u.path.toList else '/' :: u.path.toList) := by
    intro c hc
    split at hc
    · rename_i h
      rcases h with h | h
      · simp [h] at hc
      · obtain rfl : '/' = c := Option.some_inj.mp (h.symm.trans hc)
        rfl
    · obtain rfl : '/' = c := by simpa using hc
      rfl
  exact (hpath.append (followsAuthority_announced (by decide) _)).append
    (followsAuthority_announced (by decide) _)

/-- The text of a reference: its scheme, authority and path, and then query and fragment. -/
theorem toList_text_eq (u : Uri) :
    u.text.toList = front u.scheme.toList ++ (hierarchy u.scheme u.authority u.path).toList
      ++ announced '?' u.query.toList ++ announced '#' u.fragment.toList := by
  have hfront : (if u.scheme == "" then "" else u.scheme ++ ":").toList =
      front u.scheme.toList := by
    by_cases hs : u.scheme = "" <;> simp [front, hs]
  have hannounced : ∀ (mark s : String) (c : Char), mark.toList = [c] →
      (if s == "" then "" else mark ++ s).toList = announced c s.toList := by
    intro mark s c hmark
    by_cases hs : s = "" <;> simp [announced, hs, hmark]
  rw [text]
  simp only [String.toList_append, hfront, hannounced "?" u.query '?' rfl,
    hannounced "#" u.fragment '#' rfl]

/-- References that are written with two slashes before the authority: those that have one, and
those whose scheme wants one and whose path does not look like one. -/
def IsSlashed (u : Uri) : Prop :=
  u.authority ≠ "" ∨ u.scheme ∈ authoritySchemes ∧ u.path.toList.take 2 ≠ ['/', '/']

/-- The text of a reference that is written with two slashes. -/
theorem toList_text {u : Uri} (h : u.IsSlashed) :
    u.text.toList = front u.scheme.toList ++ '/' :: '/' :: u.authority.toList ++ u.rest := by
  have hpath : (if u.path == "" || u.path.toList.head? == some '/' then u.path
      else "/" ++ u.path).toList =
      if u.path.toList = [] ∨ u.path.toList.head? = some '/' then u.path.toList
      else '/' :: u.path.toList := by
    by_cases hp : u.path = "" <;> by_cases hh : u.path.toList.head? = some '/' <;>
      simp [hp, hh]
  have hhierarchy : hierarchy u.scheme u.authority u.path = "//" ++ u.authority ++
      (if u.path == "" || u.path.toList.head? == some '/' then u.path else "/" ++ u.path) := by
    rw [hierarchy, if_pos (by simpa [IsSlashed] using h)]
  rw [toList_text_eq, hhierarchy]
  simp only [String.toList_append, hpath, rest, List.append_assoc]
  rfl

/-- Splitting a text that is written with two slashes keeps the authority, and the scheme up to its
case; the other parts are cut anew. -/
theorem split_text_eq {u : Uri} (hs : u.scheme.toList = [] ∨ IsScheme u.scheme.toList)
    (hslashed : u.IsSlashed)
    (ha : ∀ c ∈ u.authority.toList, endsAuthority c = false ∧ isDropped c = false)
    (hsound : IsSound u.authority.toList) :
    split u.text =
      .ok (ofRest (u.scheme.toList.map Char.toLower) u.authority.toList (strip u.rest)) := by
  rw [← String.ofList_toList (s := u.text), toList_text hslashed]
  exact split_ofList hs ha (followsAuthority_rest u) hsound

/-! ### Canonical references -/

/-- A reference with an authority whose parts are as splitting leaves them. -/
structure Canonical (u : Uri) : Prop where
  scheme : u.scheme.toList = [] ∨
    IsScheme u.scheme.toList ∧ u.scheme.toList.map Char.toLower = u.scheme.toList
  authority_ne_empty : u.authority ≠ ""
  authority : ∀ c ∈ u.authority.toList, endsAuthority c = false ∧ isDropped c = false
  sound : IsSound u.authority.toList
  rooted : u.path.toList = [] ∨ u.path.toList.head? = some '/'
  path : ∀ c ∈ u.path.toList, c ≠ '?' ∧ c ≠ '#' ∧ isDropped c = false
  query : ∀ c ∈ u.query.toList, c ≠ '#' ∧ isDropped c = false
  fragment : ∀ c ∈ u.fragment.toList, isDropped c = false

/-- **What is written is read back.** The text of a canonical reference is split into that
reference. -/
theorem split_text {u : Uri} (h : u.Canonical) : split u.text = .ok u := by
  have hscheme : u.scheme.toList = [] ∨ IsScheme u.scheme.toList := h.scheme.imp_right And.left
  have hrest : strip u.rest = u.path.toList ++ announced '?' u.query.toList
      ++ announced '#' u.fragment.toList := by
    rw [rest, if_pos h.rooted]
    refine strip_eq_self fun c hc => ?_
    rw [List.mem_append, List.mem_append] at hc
    rcases hc with (hc | hc) | hc
    · exact (h.path c hc).2.2
    · rcases mem_announced hc with rfl | hc
      · rfl
      · exact (h.query c hc).2
    · rcases mem_announced hc with rfl | hc
      · rfl
      · exact h.fragment c hc
  -- the marks stand only where they announce a part, so each cut finds its part
  have hsharp : '#' ∉ u.path.toList ++ announced '?' u.query.toList := by
    intro hc
    rcases List.mem_append.mp hc with hc | hc
    · exact (h.path _ hc).2.1 rfl
    · rcases mem_announced hc with hc | hc
      · contradiction
      · exact (h.query _ hc).1 rfl
  have hmark : '?' ∉ u.path.toList := fun hc => (h.path _ hc).1 rfl
  obtain ⟨hbefore, hfragment⟩ := cut_append_announced hsharp u.fragment.toList
  obtain ⟨hpath, hquery⟩ := cut_append_announced hmark u.query.toList
  rw [split_text_eq hscheme (.inl h.authority_ne_empty) h.authority h.sound, hrest,
    map_toLower_eq_self h.scheme, ofRest]
  simp only [hbefore, hfragment, hpath, hquery, String.ofList_toList]

/-- What follows an authority up to a `?` or `#` is empty or begins with a slash. -/
theorem FollowsAuthority.rooted {cs : List Char} (h : FollowsAuthority cs) :
    (Text.cut '?' (Text.cut '#' cs).1).1 = [] ∨
      (Text.cut '?' (Text.cut '#' cs).1).1.head? = some '/' := by
  cases cs with
  | nil => exact .inl rfl
  | cons c cs =>
    have hc := h c rfl
    simp only [endsAuthority, Bool.or_eq_true, beq_iff_eq] at hc
    rcases hc with (rfl | rfl) | rfl
    · exact .inr (by simp [Text.cut])
    · exact .inl (by simp [Text.cut])
    · exact .inl (by simp [Text.cut])

/-- **Splitting is canonical.** A reference that has an authority is canonical when it comes
from splitting a text. -/
theorem canonical_of_split {s : String} {u : Uri} (h : split s = .ok u)
    (hne : u.authority ≠ "") : u.Canonical := by
  obtain ⟨hsound, rfl⟩ := split_eq_ok_iff.mp h
  have hsuffix := splitScheme_snd_suffix (clean s.toList)
  have hkept : ∀ c ∈ (splitScheme (clean s.toList)).2, isDropped c = false :=
    fun c hc => isDropped_of_mem_clean (hsuffix.subset hc)
  have hscheme := splitScheme_fst (clean s.toList)
  -- from here on the parts are known by what splitting says of them alone
  clear h hsuffix
  generalize (splitScheme (clean s.toList)).1 = scheme at hscheme hne ⊢
  generalize (splitScheme (clean s.toList)).2 = hier at hsound hkept hne ⊢
  rcases splitAuthority_cases hier with hnone | ⟨happend, hends, hfollows⟩
  · rw [hnone] at hne
    exact absurd rfl hne
  · generalize (splitAuthority hier).1 = authority at hsound happend hends hne ⊢
    generalize (splitAuthority hier).2 = rest at happend hfollows hne ⊢
    have hauthority : ∀ c ∈ authority, isDropped c = false := fun c hc =>
      hkept c (by simp [happend, hc])
    have hrest : ∀ c ∈ rest, isDropped c = false := fun c hc => hkept c (by simp [happend, hc])
    have hsharp := Text.not_mem_cut_fst '#' rest
    have hmark := Text.not_mem_cut_fst '?' (Text.cut '#' rest).1
    constructor
    case scheme => simpa [ofRest] using hscheme
    case authority_ne_empty => exact hne
    case authority => simpa [ofRest] using fun c hc => ⟨hends c hc, hauthority c hc⟩
    case sound => simpa [ofRest] using hsound
    case rooted => simpa [ofRest] using hfollows.rooted
    case path =>
      intro c hc
      rw [ofRest, String.toList_ofList] at hc
      have hbefore := Text.mem_of_mem_cut_fst hc
      refine ⟨?_, ?_, hrest c (Text.mem_of_mem_cut_fst hbefore)⟩
      · rintro rfl
        exact hmark hc
      · rintro rfl
        exact hsharp hbefore
    case query =>
      intro c hc
      rw [ofRest, String.toList_ofList] at hc
      have hbefore := Text.mem_of_mem_cut_snd hc
      refine ⟨?_, hrest c (Text.mem_of_mem_cut_fst hbefore)⟩
      rintro rfl
      exact hsharp hbefore
    case fragment =>
      intro c hc
      rw [ofRest, String.toList_ofList] at hc
      exact hrest c (Text.mem_of_mem_cut_snd hc)

end OAuthRedirect.Uri
