import OAuthRedirect.Http.Response
import OAuthRedirect.Proofs.AuthorizationRequest.Target

/-!
# The query in a text

Neither a scheme nor an authority nor a path holds one of the marks `?` and `#`. So the query of a
reference stands in its text between the first `?` and the first `#`, or the end
(`Uri.queryPart?`), and splitting finds nothing else there (`query_of_split`).

Whatever is done to a text character by character, the query is found in the same place as long as
the two marks stay and no new ones come up (`queryPart?_flatMap`). This holds for the characters
that splitting takes out, and for the percent-encoding of a `Location` header, which leaves a query
that was written by `Query.encode` as it is (`queryPart?_location`).
-/

namespace OAuthRedirect

open Text

namespace Uri

/-! ### The part between the marks -/

/-- The text between the first `?` and the first `#`, or the end; `none` without a `?` before the
first `#`. -/
def queryPart? (cs : List Char) : Option (List Char) :=
  (cut '?' (cut '#' cs).1).2

/-- A text without the marks of queries and fragments. -/
def IsMarkFree (cs : List Char) : Prop :=
  '?' ∉ cs ∧ '#' ∉ cs

instance : DecidablePred IsMarkFree := fun cs =>
  inferInstanceAs (Decidable ('?' ∉ cs ∧ '#' ∉ cs))

theorem isMarkFree_nil : IsMarkFree [] := ⟨List.not_mem_nil, List.not_mem_nil⟩

theorem isMarkFree_of_forall {cs : List Char} (h : ∀ c ∈ cs, c ≠ '?' ∧ c ≠ '#') : IsMarkFree cs :=
  ⟨fun hc => (h _ hc).1 rfl, fun hc => (h _ hc).2 rfl⟩

theorem IsMarkFree.append {cs ds : List Char} (hc : IsMarkFree cs) (hd : IsMarkFree ds) :
    IsMarkFree (cs ++ ds) :=
  ⟨by simp [hc.1, hd.1], by simp [hc.2, hd.2]⟩

/-- The part is looked for behind a text without marks. -/
theorem queryPart?_append {cs : List Char} (h : IsMarkFree cs) (rest : List Char) :
    queryPart? (cs ++ rest) = queryPart? rest := by
  rw [queryPart?, cut_append_of_not_mem h.2, cut_append_of_not_mem h.1, queryPart?]

/-! ### Texts that are changed character by character -/

/-- A change that leaves a mark as it is and makes no new one. -/
structure Spares (f : Char → List Char) (mark : Char) : Prop where
  self : f mark = [mark]
  eq_of_mem : ∀ {c}, mark ∈ f c → c = mark

theorem cut_flatMap {f : Char → List Char} {mark : Char} (h : Spares f mark) (cs : List Char) :
    cut mark (cs.flatMap f) =
      ((cut mark cs).1.flatMap f, (cut mark cs).2.map (List.flatMap f)) := by
  induction cs with
  | nil => rfl
  | cons c cs ih =>
    by_cases hc : c = mark
    · subst hc
      rw [List.flatMap_cons, h.self, List.singleton_append, cut, cut, if_pos rfl, if_pos rfl]
      rfl
    · have hnot : mark ∉ f c := fun hmem => hc (h.eq_of_mem hmem)
      rw [List.flatMap_cons, cut_append_of_not_mem hnot, ih, cut, if_neg hc]
      rfl

/-- **The query stays in its place** under a change that spares the marks. -/
theorem queryPart?_flatMap {f : Char → List Char} (hmark : Spares f '?') (hsharp : Spares f '#')
    (cs : List Char) : queryPart? (cs.flatMap f) = (queryPart? cs).map (List.flatMap f) := by
  rw [queryPart?, cut_flatMap hsharp, cut_flatMap hmark, queryPart?]

theorem strip_eq_flatMap (cs : List Char) :
    strip cs = cs.flatMap fun c => if isDropped c then [] else [c] := by
  induction cs with
  | nil => rfl
  | cons c cs ih =>
    rw [List.flatMap_cons, ← ih]
    cases h : isDropped c with
    | true => simp [strip, h]
    | false => simp [strip_cons_of_not_isDropped h]

theorem spares_strip {mark : Char} (h : isDropped mark = false) :
    Spares (fun c => if isDropped c then [] else [c]) mark where
  self := by simp [h]
  eq_of_mem {c} hmem := by
    cases hc : isDropped c <;> simp_all

/-- Cleaning takes characters out of the part and does not move it. -/
theorem queryPart?_clean (cs : List Char) : queryPart? (clean cs) = (queryPart? cs).map strip := by
  have hfront : IsMarkFree (cs.takeWhile fun c => decide (c.toNat ≤ 0x20)) := by
    refine isMarkFree_of_forall fun c hc => ?_
    have hblank : c.toNat ≤ 0x20 := by simpa using List.mem_takeWhile_imp hc
    constructor
    all_goals
      rintro rfl
      exact absurd hblank (by decide)
  have hpart := queryPart?_append hfront (cs.dropWhile fun c => decide (c.toNat ≤ 0x20))
  rw [List.takeWhile_append_dropWhile] at hpart
  have hstrip : strip = List.flatMap fun c => if isDropped c then [] else [c] :=
    funext strip_eq_flatMap
  rw [clean_eq_strip, hpart, hstrip,
    queryPart?_flatMap (spares_strip (by decide)) (spares_strip (by decide))]

/-! ### Splitting -/

theorem IsScheme.isMarkFree {cs : List Char} (h : IsScheme cs) : IsMarkFree cs := by
  refine isMarkFree_of_forall fun c hc => ?_
  have hchar := h.all c hc
  constructor
  all_goals
    rintro rfl
    contradiction

theorem isMarkFree_of_endsAuthority {cs : List Char} (h : ∀ c ∈ cs, endsAuthority c = false) :
    IsMarkFree cs := by
  refine isMarkFree_of_forall fun c hc => ?_
  have hends := h c hc
  constructor
  all_goals
    rintro rfl
    contradiction

/-- What splitting off a scheme leaves is the text, or the text behind a scheme and its colon. -/
theorem splitScheme_snd_cases (cs : List Char) :
    (splitScheme cs).2 = cs ∨
      ∃ scheme, IsScheme scheme ∧ cs = scheme ++ ':' :: (splitScheme cs).2 := by
  unfold splitScheme
  split
  · rename_i first rest after heq
    split
    · rename_i h
      rw [Bool.and_eq_true, List.all_eq_true] at h
      have happend := append_of_cut (show (cut ':' cs).2 = some after by rw [heq])
      rw [heq] at happend
      exact .inr ⟨first :: rest, ⟨⟨first, rest, rfl, h.1⟩, h.2⟩, happend.symm⟩
    · exact .inl rfl
  · exact .inl rfl

theorem queryPart?_splitScheme (cs : List Char) :
    queryPart? (splitScheme cs).2 = queryPart? cs := by
  rcases splitScheme_snd_cases cs with hwhole | ⟨scheme, hscheme, happend⟩
  · rw [hwhole]
  · have hcolon : IsMarkFree (scheme ++ [':']) :=
      hscheme.isMarkFree.append (by decide)
    rw [← queryPart?_append hcolon, List.append_assoc, List.singleton_append, ← happend]

theorem queryPart?_splitAuthority (cs : List Char) :
    queryPart? (splitAuthority cs).2 = queryPart? cs := by
  rcases splitAuthority_cases cs with hnone | ⟨happend, hends, -⟩
  · rw [hnone]
  · have hpair : IsMarkFree ['/', '/'] := by decide
    have hslashes : IsMarkFree ('/' :: '/' :: (splitAuthority cs).1) :=
      hpair.append (isMarkFree_of_endsAuthority hends)
    rw [← queryPart?_append hslashes, ← happend]

/-- **The query that splitting finds** stands between the marks. -/
theorem query_of_split {s : String} {u : Uri} (h : split s = .ok u) :
    u.query.toList = strip ((queryPart? s.toList).getD []) := by
  obtain ⟨-, rfl⟩ := split_eq_ok_iff.mp h
  have hpart : queryPart? (splitAuthority (splitScheme (clean s.toList)).2).2 =
      (queryPart? s.toList).map strip := by
    rw [queryPart?_splitAuthority, queryPart?_splitScheme, queryPart?_clean]
  rw [ofRest, String.toList_ofList, ← queryPart?, hpart]
  cases queryPart? s.toList <;> rfl

/-- The parts of a reference in front of its query hold no marks. -/
theorem isMarkFree_of_split {s : String} {u : Uri} (h : split s = .ok u) :
    IsMarkFree u.scheme.toList ∧ IsMarkFree u.authority.toList ∧ IsMarkFree u.path.toList := by
  obtain ⟨-, rfl⟩ := split_eq_ok_iff.mp h
  simp only [ofRest, String.toList_ofList]
  refine ⟨?_, ?_, not_mem_cut_fst _ _, fun hc => ?_⟩
  · rcases splitScheme_fst (clean s.toList) with hnone | ⟨hscheme, -⟩
    · rw [hnone]
      exact isMarkFree_nil
    · exact hscheme.isMarkFree
  · rcases splitAuthority_cases (splitScheme (clean s.toList)).2 with hnone | ⟨-, hends, -⟩
    · rw [hnone]
      exact isMarkFree_nil
    · exact isMarkFree_of_endsAuthority hends
  · exact not_mem_cut_fst _ _ (mem_of_mem_cut_fst hc)

/-! ### Texts of references -/

theorem isMarkFree_hierarchy {authority path : String} (hauthority : IsMarkFree authority.toList)
    (hpath : IsMarkFree path.toList) (scheme : String) :
    IsMarkFree (hierarchy scheme authority path).toList := by
  have hslash : IsMarkFree ['/'] := by decide
  have hrooted : IsMarkFree (if path == "" || path.toList.head? == some '/' then path
      else "/" ++ path).toList := by
    split
    · exact hpath
    · rw [String.toList_append]
      exact hslash.append hpath
  unfold hierarchy
  split
  · rw [String.toList_append, String.toList_append]
    exact ((hslash.append hslash).append hauthority).append hrooted
  · exact hpath

/-- The query of a reference in its text. -/
theorem queryPart?_text {u : Uri} (hscheme : IsMarkFree u.scheme.toList)
    (hauthority : IsMarkFree u.authority.toList) (hpath : IsMarkFree u.path.toList)
    (hquery : '#' ∉ u.query.toList) (hne : u.query ≠ "") :
    queryPart? u.text.toList = some u.query.toList := by
  have hfront : IsMarkFree (front u.scheme.toList) := by
    rw [front]
    split
    · exact isMarkFree_nil
    · exact hscheme.append (by decide)
  have hannounced : announced '?' u.query.toList = '?' :: u.query.toList :=
    if_neg (by simpa using hne)
  have hsharp : '#' ∉ '?' :: u.query.toList := by simp [hquery]
  rw [toList_text_eq, List.append_assoc, queryPart?_append
    (hfront.append (isMarkFree_hierarchy hauthority hpath u.scheme)), hannounced, queryPart?,
    (cut_append_announced hsharp u.fragment.toList).1, cut, if_pos rfl]

/-! ### Locations -/

namespace Percent

/-- Percent-encoding spares a mark that it keeps. -/
theorem spares_encodeChar {keep : Char → Bool} {mark : Char} (hkeep : keep mark = true)
    (hunreserved : isUnreserved mark = false) (hpercent : mark ≠ '%') :
    Spares (encodeChar keep) mark where
  self := by simp [encodeChar, hkeep]
  eq_of_mem {c} hmem := by
    rw [encodeChar] at hmem
    split at hmem
    · exact (List.mem_singleton.mp hmem).symm
    · obtain ⟨byte, -, hbyte⟩ := List.mem_flatMap.mp hmem
      have hlt := byte.toNat_lt
      have hdigit : ∀ n < 16, mark ≠ Hex.upper n := fun n hn heq => by
        rw [heq, isUnreserved_upper n hn] at hunreserved
        contradiction
      simp only [escapeByte, List.mem_cons, List.not_mem_nil, or_false] at hbyte
      rcases hbyte with heq | heq | heq
      · exact absurd heq hpercent
      · exact absurd heq (hdigit _ (by omega))
      · exact absurd heq (hdigit _ (by omega))

theorem encode_eq_self {keep : Char → Bool} {cs : List Char}
    (h : ∀ c ∈ cs, isUnreserved c = true ∨ keep c = true) : encode keep cs = cs := by
  induction cs with
  | nil => rfl
  | cons c cs ih =>
    rw [List.forall_mem_cons] at h
    have hchar : encodeChar keep c = [c] := by
      rw [encodeChar, if_pos (by simpa using h.1)]
    rw [encode, List.flatMap_cons, hchar, ← encode, ih h.2]
    rfl

end Percent

theorem Query.not_mem_sharp_encode (pairs : List (String × String)) :
    '#' ∉ (Query.encode pairs).toList := fun hc => by
  rcases Query.cases_of_mem_encode hc with hc | hc | hc | hc
  all_goals exact absurd hc (by decide)

theorem Query.encode_ne_empty {pairs : List (String × String)} (h : pairs ≠ []) :
    Query.encode pairs ≠ "" := by
  obtain ⟨pair, tail, rfl⟩ := List.exists_cons_of_ne_nil h
  have hpair : Query.encodePair pair ≠ [] := by simp [Query.encodePair]
  intro hempty
  have hnil := congrArg String.toList hempty
  rw [Query.encode, String.toList_ofList] at hnil
  cases tail with
  | nil => simp [hpair] at hnil
  | cons next tail => simp [List.intercalate_cons_cons] at hnil

/-- A written query in a text is what splitting finds there: it has nothing that is taken out. -/
theorem query_of_split_encode {text : String} {sent : Uri} {pairs : List (String × String)}
    (h : queryPart? text.toList = some (Query.encode pairs).toList)
    (hsent : split text = .ok sent) : sent.query = Query.encode pairs := by
  rw [← String.toList_inj, query_of_split hsent, h, Option.getD_some]
  refine strip_eq_self fun c hc => ?_
  rcases Query.cases_of_mem_encode hc with rfl | rfl | rfl | hc
  · rfl
  · rfl
  · rfl
  · exact isDropped_of_class Percent.isUnreserved hc rfl rfl rfl

/-- **A written query in a location.** An encoding that keeps the two marks and the characters
`%`, `&` and `=` leaves a query in its place and as it was written. -/
theorem queryPart?_encode {keep : Char → Bool}
    (hall : ['?', '#', '%', '&', '='].all keep = true) {text : List Char}
    {pairs : List (String × String)} (h : queryPart? text = some (Query.encode pairs).toList) :
    queryPart? (Percent.encode keep text) = some (Query.encode pairs).toList := by
  have hkeep := List.all_eq_true.mp hall
  have hquery : Percent.encode keep (Query.encode pairs).toList = (Query.encode pairs).toList := by
    refine Percent.encode_eq_self fun c hc => ?_
    rcases Query.cases_of_mem_encode hc with rfl | rfl | rfl | hc
    · exact .inr (hkeep _ (by decide))
    · exact .inr (hkeep _ (by decide))
    · exact .inr (hkeep _ (by decide))
    · exact .inl hc
  have hmark := Percent.spares_encodeChar (hkeep '?' (by decide)) (by decide) (by decide)
  have hsharp := Percent.spares_encodeChar (hkeep '#' (by decide)) (by decide) (by decide)
  rw [Percent.encode, queryPart?_flatMap hmark hsharp, h, Option.map_some, ← Percent.encode, hquery]

theorem queryPart?_location {uri : String} {pairs : List (String × String)}
    (h : queryPart? uri.toList = some (Query.encode pairs).toList) :
    queryPart? (Response.location uri).toList = some (Query.encode pairs).toList := by
  rw [Response.location, String.toList_ofList]
  exact queryPart?_encode (by decide) h

end Uri

/-- **The query of a reference with parameters** in its text: its own pairs and the parameters. -/
theorem Uri.queryPart?_withParameters {text : String} {u : Uri} (h : Uri.split text = .ok u)
    {parameters : List (String × String)} (hne : parameters ≠ []) :
    Uri.queryPart? (u.withParameters parameters).text.toList =
      some (Uri.Query.encode (Uri.Query.decode u.query ++ parameters)).toList := by
  obtain ⟨hscheme, hauthority, hpath⟩ := Uri.isMarkFree_of_split h
  rw [← u.withParameters_scheme parameters] at hscheme
  rw [← u.withParameters_authority parameters] at hauthority
  rw [← u.withParameters_path parameters] at hpath
  rw [← u.withParameters_query parameters]
  refine Uri.queryPart?_text hscheme hauthority hpath ?_ ?_
  all_goals rw [u.withParameters_query]
  · exact Uri.Query.not_mem_sharp_encode _
  · exact Uri.Query.encode_ne_empty (List.append_ne_nil_of_right_ne_nil _ hne)

/-! ### Authorization requests -/

namespace AuthorizationRequest

theorem parameters_ne_nil {τ : Type} [Inhabited τ] [LT τ] [DecidableEq τ] [Strings τ]
    (r : AuthorizationRequest τ) : r.parameters ≠ [] := by
  simp [parameters]

/-- **The query of an authorization request** in the text of its URI: the pairs of the endpoint and
the parameters of the request, which are texts. -/
theorem queryPart?_sentUri {r : AuthorizationRequest WideString} {uri : String}
    (h : r.sentUri = .ok uri) :
    ∃ endpoint parameters, Uri.split r.authorizationUri = .ok endpoint ∧
      r.parameters = widened parameters ∧
      Uri.queryPart? uri.toList =
        some (Uri.Query.encode (Uri.Query.decode endpoint.query ++ parameters)).toList := by
  obtain ⟨endpoint, parameters, hsplit, hparameters, rfl⟩ := sentUri_eq_ok_iff.mp h
  have hne : parameters ≠ [] := by
    rintro rfl
    exact r.parameters_ne_nil hparameters
  exact ⟨endpoint, parameters, hsplit, hparameters, Uri.queryPart?_withParameters hsplit hne⟩

/-- The URI of a request, split and read as a query: the pairs of the endpoint and the
parameters. -/
theorem decode_query_of_sentUri {r : AuthorizationRequest WideString} {uri : String} {sent : Uri}
    (h : r.sentUri = .ok uri) (hsent : Uri.split uri = .ok sent) :
    ∃ endpoint parameters, Uri.split r.authorizationUri = .ok endpoint ∧
      r.parameters = widened parameters ∧
      Uri.Query.decode sent.query = Uri.Query.decode endpoint.query ++ parameters := by
  obtain ⟨endpoint, parameters, hsplit, hparameters, hquery⟩ := r.queryPart?_sentUri h
  refine ⟨endpoint, parameters, hsplit, hparameters, ?_⟩
  rw [Uri.query_of_split_encode hquery hsent]
  exact Uri.Query.decode_encode _

end AuthorizationRequest

end OAuthRedirect
