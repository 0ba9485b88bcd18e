import OAuthRedirect.Proofs.Text.AsciiCase
import OAuthRedirect.Uri.Address

/-!
# IP addresses in lower case

The hexadecimal digits of an IPv6 address may be letters of either case. An address stays one when
it is written in lower case (`Uri.Address.isV6_map_toLower`).
-/

namespace OAuthRedirect.Uri.Address

open Text

theorem map_toLower_of_isOctet {cs : List Char} (h : isOctet cs = true) :
    cs.map Char.toLower = cs := by
  simp only [isOctet, Bool.and_eq_true, List.all_eq_true] at h
  obtain ⟨⟨⟨-, hdigits⟩, -⟩, -⟩ := h
  exact (List.map_congr_left fun c hc => toLower_of_isDigit (hdigits c hc)).trans (List.map_id cs)

/-- There is nothing to change in an IPv4 address. -/
theorem map_toLower_of_isV4 {cs : List Char} (h : isV4 cs = true) : cs.map Char.toLower = cs := by
  simp only [isV4, Bool.and_eq_true, List.all_eq_true] at h
  have hoctets : (cs.splitOn '.').map (List.map Char.toLower) = cs.splitOn '.' :=
    (List.map_congr_left fun octet hmem => map_toLower_of_isOctet (h.2 octet hmem)).trans
      (List.map_id _)
  have hjoin : ∀ ds : List Char, ['.'].intercalate (ds.splitOn '.') = ds :=
    fun _ => List.intercalate_splitOn '.'
  rw [← hjoin (cs.map Char.toLower), splitOn_map_toLower (by decide), hoctets, hjoin]

theorem isGroup_map_toLower (cs : List Char) : isGroup (cs.map Char.toLower) = isGroup cs := by
  have hdigit : Hex.isDigit ∘ Char.toLower = Hex.isDigit := funext Hex.isDigit_toLower
  rw [isGroup, isGroup, List.isEmpty_map, List.length_map, List.all_map, hdigit]

theorem all_isGroup_map_toLower (groups : List (List Char)) :
    (groups.map (List.map Char.toLower)).all isGroup = groups.all isGroup := by
  rw [List.all_map]
  exact congrArg groups.all (funext isGroup_map_toLower)

theorem innerGaps_map_toLower (parts : List (List Char)) :
    innerGaps (parts.map (List.map Char.toLower)) = innerGaps parts := by
  have hempty : ∀ i, ((parts.map (List.map Char.toLower)).getD i []).isEmpty =
      (parts.getD i []).isEmpty := fun i => by
    rw [List.getD_eq_getElem?_getD, List.getD_eq_getElem?_getD, List.getElem?_map]
    cases parts[i]? with
    | none => rfl
    | some part => exact List.isEmpty_map
  simp only [innerGaps, List.length_map, hempty]

theorem besideGap_map_toLower (parts : List (List Char)) :
    besideGap (parts.map (List.map Char.toLower)) =
      (besideGap parts).map (List.map Char.toLower) := by
  have hsingle : (parts.map (List.map Char.toLower) == [[]]) = (parts == [[]]) := by
    rw [Bool.eq_iff_iff]
    match parts with
    | [] => simp
    | [part] => simp
    | _ :: _ :: _ => simp
  rw [besideGap, besideGap, hsingle]
  split <;> rfl

theorem isV6Groups_map_toLower (parts : List (List Char)) :
    isV6Groups (parts.map (List.map Char.toLower)) = isV6Groups parts := by
  rw [isV6Groups, isV6Groups, innerGaps_map_toLower]
  split
  · rw [List.length_map, all_isGroup_map_toLower]
  · simp only [← List.map_take, ← List.map_drop, besideGap_map_toLower, ← List.map_append,
      List.length_map, all_isGroup_map_toLower]
  · rfl

theorem v6Parts?_map_toLower {cs : List Char} {parts : List (List Char)}
    (h : v6Parts? cs = some parts) :
    v6Parts? (cs.map Char.toLower) = some (parts.map (List.map Char.toLower)) := by
  have hlast : ((cs.splitOn ':').map (List.map Char.toLower)).getLastD [] =
      ((cs.splitOn ':').getLastD []).map Char.toLower :=
    List.getLastD_map (f := List.map Char.toLower) (a := [])
  have hpoint : (((cs.splitOn ':').getLastD []).map Char.toLower).contains '.' =
      ((cs.splitOn ':').getLastD []).contains '.' := by
    rw [Bool.eq_iff_iff, List.contains_iff_mem, List.contains_iff_mem,
      mem_map_toLower_iff (by decide)]
  simp only [v6Parts?] at h ⊢
  rw [splitOn_map_toLower (by decide), hlast, List.length_map, hpoint]
  by_cases hshort : (cs.splitOn ':').length < 3
  · rw [if_pos hshort] at h
    contradiction
  · rw [if_neg hshort] at h ⊢
    by_cases hplain : (!((cs.splitOn ':').getLastD []).contains '.') = true
    · rw [if_pos hplain] at h ⊢
      rw [Option.some_inj.mp h]
    · rw [if_neg hplain] at h ⊢
      by_cases hv4 : isV4 ((cs.splitOn ':').getLastD []) = true
      · rw [if_pos hv4] at h
        rw [map_toLower_of_isV4 hv4, if_pos hv4, ← Option.some_inj.mp h, List.map_append,
          List.map_dropLast]
        rfl
      · rw [if_neg hv4] at h
        contradiction

/-- **Addresses in lower case.** An IPv6 address without a zone is one in lower case, too. -/
theorem isV6_map_toLower {cs : List Char} (hzone : '%' ∉ cs) (h : isV6 cs = true) :
    isV6 (cs.map Char.toLower) = true := by
  have hzone' : '%' ∉ cs.map Char.toLower := mt (mem_map_toLower_iff (by decide)).mp hzone
  have hslash : (cs.map Char.toLower).contains '/' = cs.contains '/' := by
    rw [Bool.eq_iff_iff, List.contains_iff_mem, List.contains_iff_mem,
      mem_map_toLower_iff (by decide)]
  rw [isV6, cut_of_not_mem hzone] at h
  rw [isV6, cut_of_not_mem hzone', hslash]
  cases hparts : v6Parts? cs with
  | none => simp [hparts] at h
  | some parts =>
    simpa [hparts, v6Parts?_map_toLower hparts, isV6Groups_map_toLower] using h

end OAuthRedirect.Uri.Address
