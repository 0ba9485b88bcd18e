import OAuthRedirect.Proofs.Http.BaseUrl
import OAuthRedirect.Uri.Query.RoundTrip

/-!
# Requests with written queries

The sender of a request writes the pairs of its query with every reserved character as an
escape, and a space either as an escape or as `+` (`Uri.Query.form`). Both are read back as the
pairs that were written, from the text (`Uri.Query.decode_form`) and from the bytes that the
request brings (`Request.parameters_withForm`). All these requests have one base URL
(`Request.Addressable.exists_baseUrl_withForm`).
-/

namespace OAuthRedirect

open Text

namespace Uri.Query

/-! ### Writing -/

/-- A name or a value as a sender writes it, spaces as `+` or as escapes. -/
def formText (plus : Bool) (s : String) : List Char :=
  (Percent.encode (fun c => plus && c == ' ') s.toList).map fun c => if c = ' ' then '+' else c

/-- The query that a sender writes for some pairs. -/
def form (plus : Bool) (pairs : List (String × String)) : String :=
  String.ofList (['&'].intercalate
    (pairs.map fun pair => formText plus pair.1 ++ '=' :: formText plus pair.2))

/-! ### Reading back -/

private theorem isAscii_of_kept {plus : Bool} (c : Char) (h : (plus && c == ' ') = true) :
    isAscii c = true := by
  rw [Bool.and_eq_true, beq_iff_eq] at h
  rw [h.2]
  rfl

theorem cases_of_mem_formText {plus : Bool} {s : String} {c : Char} (h : c ∈ formText plus s) :
    c = '+' ∨ c = '%' ∨ Percent.isUnreserved c = true := by
  obtain ⟨d, hd, rfl⟩ := List.mem_map.mp h
  by_cases hspace : d = ' '
  · left
    rw [if_pos hspace]
  · right
    rw [if_neg hspace]
    rcases Percent.cases_of_mem_encode hd with hd | hd | hd
    · exact .inr hd
    · rw [Bool.and_eq_true, beq_iff_eq] at hd
      exact absurd hd.2 hspace
    · exact .inl hd

theorem not_mem_formText {sep : Char} (hu : Percent.isUnreserved sep = false) (hp : sep ≠ '%')
    (hplus : sep ≠ '+') {plus : Bool} (s : String) : sep ∉ formText plus s := by
  intro h
  rcases cases_of_mem_formText h with h | h | h
  · exact hplus h
  · exact hp h
  · simp [h] at hu

theorem decodeText_formText (plus : Bool) (s : String) : decodeText (formText plus s) = s := by
  -- No `+` is written before the spaces become one, so reading turns back the spaces alone.
  have hplus : ∀ c ∈ Percent.encode (fun c => plus && c == ' ') s.toList, c ≠ '+' := by
    rintro c hc rfl
    rcases Percent.cases_of_mem_encode hc with hc | hc | hc
    · contradiction
    · simp at hc
    · contradiction
  have hback : ∀ c ∈ Percent.encode (fun c => plus && c == ' ') s.toList,
      ((fun c => if c = '+' then ' ' else c) ∘ fun c => if c = ' ' then '+' else c) c = c := by
    intro c hc
    by_cases hspace : c = ' '
    · simp [hspace]
    · simp [hspace, hplus c hc]
  rw [decodeText, formText, List.map_map, List.map_congr_left hback, List.map_id']
  rw [Percent.decode_encode isAscii_of_kept (by simp), String.ofList_toList]

/-- **A query is read back** however its sender writes spaces. -/
theorem decode_form (plus : Bool) (pairs : List (String × String)) :
    decode (form plus pairs) = pairs :=
  decode_intercalate (decodeText_formText plus)
    (not_mem_formText (by decide) (by decide) (by decide))
    (not_mem_formText (by decide) (by decide) (by decide)) pairs

theorem isAscii_of_mem_form {plus : Bool} {pairs : List (String × String)} {c : Char}
    (h : c ∈ (form plus pairs).toList) : isAscii c = true := by
  rw [form, String.toList_ofList] at h
  rcases cases_of_mem_intercalate (formText plus) h with rfl | rfl | ⟨s, hs⟩
  · rfl
  · rfl
  · rcases cases_of_mem_formText hs with rfl | rfl | hu
    · rfl
    · rfl
    · exact Percent.isAscii_of_isUnreserved hu

end Uri.Query

/-! ### Requests -/

theorem ofNat_toNat_asciiBytes {cs : List Char} (h : ∀ c ∈ cs, isAscii c = true) :
    (asciiBytes cs).map (fun b => Char.ofNat b.toNat) = cs := by
  rw [asciiBytes, List.map_map]
  refine (List.map_congr_left fun c hc => ?_).trans (List.map_id cs)
  have hsmall : c.toNat < 128 := by simpa [isAscii] using h c hc
  have hbyte : (UInt8.ofNat c.toNat).toNat = c.toNat := by
    rw [UInt8.toNat_ofNat']
    omega
  rw [Function.comp_apply, hbyte, Char.ofNat_toNat, id]

theorem encode_eq_asciiBytes {cs : List Char} (h : ∀ c ∈ cs, isAscii c = true) :
    Utf8.encode cs = asciiBytes cs := by
  induction cs with
  | nil => rfl
  | cons c rest ih =>
    rw [List.forall_mem_cons] at h
    have hrest : rest.flatMap Utf8.encodeChar = asciiBytes rest := ih h.2
    rw [Utf8.encode, List.flatMap_cons, Uri.Percent.encodeChar_of_isAscii h.1, hrest]
    rfl

theorem decode_asciiBytes {cs : List Char} (h : ∀ c ∈ cs, isAscii c = true) :
    Utf8.decode (asciiBytes cs) = .ok cs := by
  rw [← encode_eq_asciiBytes h, Utf8.decode_encode]

namespace Request

/-- A request with the query that a sender writes for some pairs. -/
def withForm (r : Request) (plus : Bool) (pairs : List (String × String)) : Request :=
  { r with query := asciiBytes (Uri.Query.form plus pairs).toList }

/-- **The parameters of a request** are the pairs that its sender wrote. -/
theorem parameters_withForm (r : Request) (plus : Bool) (pairs : List (String × String)) :
    (r.withForm plus pairs).parameters = pairs := by
  rw [parameters, withForm, ofNat_toNat_asciiBytes fun _ => Uri.Query.isAscii_of_mem_form,
    String.ofList_toList, Uri.Query.decode_form]

theorem action?_withForm (r : Request) (plus : Bool) (pairs : List (String × String)) :
    (r.withForm plus pairs).action? = Uri.Query.last? "action" pairs := by
  rw [action?, parameters_withForm]

theorem Addressable.withForm {r : Request} (h : r.Addressable) (plus : Bool)
    (pairs : List (String × String)) : (r.withForm plus pairs).Addressable where
  path := h.path
  scheme := h.scheme
  host := h.host
  query := ⟨_, decode_asciiBytes fun _ => Uri.Query.isAscii_of_mem_form⟩

/-- **An addressable request has one base URL**, whatever query its sender writes. -/
theorem Addressable.exists_baseUrl_withForm {r : Request} (h : r.Addressable) :
    ∃ baseUrl, ∀ (plus : Bool) (pairs : List (String × String)),
      (r.withForm plus pairs).baseUrl = .ok baseUrl := by
  obtain ⟨baseUrl, hbase⟩ := h.exists_baseUrl
  refine ⟨baseUrl, fun plus pairs => ?_⟩
  rw [(h.withForm plus pairs).baseUrl_congr h rfl rfl rfl, hbase]

end Request

end OAuthRedirect
