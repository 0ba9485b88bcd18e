import OAuthRedirect.Uri.Percent.RoundTrip
import OAuthRedirect.Uri.Query

/-!
# Reading back queries

The separators `&` and `=` and the `+` sign never occur in a name or a value as it is written
(`not_mem_encodeText`), so the pairs of a query are read back as they were (`decode_encode`).
-/

namespace OAuthRedirect.Uri.Query

/-- Nothing but unreserved characters and `%` is written for a name or a value. -/
theorem not_mem_encodeText {sep : Char} (hu : Percent.isUnreserved sep = false) (hp : sep ≠ '%')
    (s : String) : sep ∉ encodeText s := by
  intro h
  obtain h | h | h := Percent.cases_of_mem_encode h
  · simp [h] at hu
  · simp at h
  · exact hp h

theorem decodeText_encodeText (s : String) : decodeText (encodeText s) = s := by
  have hplus : '+' ∉ encodeText s := not_mem_encodeText (by decide) (by decide) s
  have hmap : ((encodeText s).map fun c => if c = '+' then ' ' else c) = encodeText s := by
    refine (List.map_congr_left fun c hc => ?_).trans (List.map_id _)
    exact if_neg fun (h : c = '+') => hplus (h ▸ hc)
  rw [decodeText, hmap, encodeText, Percent.decode_encode (by simp) rfl, String.ofList_toList]

/-- The pairs of a query are read back when names and values are written in a way that is
read back and that holds no separator. -/
theorem decode_intercalate {write : String → List Char} (hread : ∀ s, decodeText (write s) = s)
    (hamp : ∀ s, '&' ∉ write s) (heq : ∀ s, '=' ∉ write s) (pairs : List (String × String)) :
    decode (String.ofList (['&'].intercalate
      (pairs.map fun pair => write pair.1 ++ '=' :: write pair.2))) = pairs := by
  have hpair : ∀ pair : String × String,
      decodePair (write pair.1 ++ '=' :: write pair.2) = pair := fun pair => by
    simp only [decodePair, Text.cut_append (heq pair.1), Option.getD_some, hread]
  rw [decode, String.toList_ofList]
  obtain rfl | hne := Decidable.em (pairs = [])
  · rfl
  · rw [List.splitOn_intercalate, List.filter_eq_self.2, List.map_map]
    · exact (List.map_congr_left fun pair _ => hpair pair).trans (List.map_id _)
    · intro piece hp
      obtain ⟨pair, -, rfl⟩ := List.mem_map.1 hp
      simp
    · intro piece hp
      obtain ⟨pair, -, rfl⟩ := List.mem_map.1 hp
      simp only [List.mem_append, List.mem_cons, not_or]
      exact ⟨hamp _, by decide, hamp _⟩
    · simpa using hne

/-- The pairs of a query that was written are the pairs it was written from. -/
theorem decode_encode (pairs : List (String × String)) : decode (encode pairs) = pairs :=
  decode_intercalate decodeText_encodeText (not_mem_encodeText (by decide) (by decide))
    (not_mem_encodeText (by decide) (by decide)) pairs

/-- A character of some pairs as they are written is a separator or stands in a name or a
value. -/
theorem cases_of_mem_intercalate (write : String → List Char) {pairs : List (String × String)}
    {c : Char} (h : c ∈ ['&'].intercalate
      (pairs.map fun pair => write pair.1 ++ '=' :: write pair.2)) :
    c = '&' ∨ c = '=' ∨ ∃ s, c ∈ write s := by
  obtain h | ⟨piece, hpiece, hc⟩ := Text.mem_of_mem_intercalate h
  · exact .inl h
  · obtain ⟨pair, -, rfl⟩ := List.mem_map.1 hpiece
    obtain hc | hc := List.mem_append.1 hc
    · exact .inr (.inr ⟨_, hc⟩)
    · obtain hc | hc := List.mem_cons.1 hc
      · exact .inr (.inl hc)
      · exact .inr (.inr ⟨_, hc⟩)

/-- Nothing but unreserved characters, `%` and the two separators is written. -/
theorem cases_of_mem_encode {c : Char} {pairs : List (String × String)}
    (h : c ∈ (encode pairs).toList) : c = '&' ∨ c = '=' ∨ c = '%' ∨ Percent.isUnreserved c := by
  rw [encode, String.toList_ofList] at h
  obtain h | h | ⟨s, h⟩ := cases_of_mem_intercalate encodeText h
  · exact .inl h
  · exact .inr (.inl h)
  · obtain h | h | h := Percent.cases_of_mem_encode h
    · exact .inr (.inr (.inr h))
    · simp at h
    · exact .inr (.inr (.inl h))

end OAuthRedirect.Uri.Query
