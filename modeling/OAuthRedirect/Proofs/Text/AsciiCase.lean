import OAuthRedirect.Text.Ascii
import OAuthRedirect.Text.Casing
import OAuthRedirect.Text.Hex
import OAuthRedirect.Text.Split

/-!
# Lower case within ASCII

In a text of ASCII characters the lower-case form changes capital letters and nothing else, one by
one (`Text.lower_of_isAscii`). No class of characters that the grammars of this library are written
in tells a capital letter from the small one, and all of them are settled in one way: by the
characters that stay and the 26 that change (`Text.of_toLower`).
-/

namespace OAuthRedirect.Text

/-! ### Characters -/

/-- What holds of every character beside itself, and of every capital letter beside the small one,
holds of every character beside its lower-case form. -/
theorem of_toLower (p : Char → Char → Prop) (hself : ∀ c, p c c)
    (hletter : ∀ n < 26, p (Char.ofNat (65 + n)) (Char.ofNat (97 + n))) (c : Char) :
    p c c.toLower := by
  by_cases h : 65 ≤ c.toNat ∧ c.toNat ≤ 90
  · have hcapital : Char.ofNat (65 + (c.toNat - 65)) = c := by
      rw [Nat.add_sub_cancel' h.1, Char.ofNat_toNat]
    have hsmall : ∀ n < 26, (Char.ofNat (65 + n)).toLower = Char.ofNat (97 + n) := by decide
    have hp := hletter (c.toNat - 65) (by omega)
    rwa [← hsmall _ (by omega), hcapital] at hp
  · have hsame : c.toLower = c := dif_neg (by simpa [UInt32.le_iff_toNat_le] using h)
    rw [hsame]
    exact hself c

/-- A character that is no letter is nobody else's lower-case form. -/
theorem toLower_eq_iff {d : Char} (hd : isLetter d = false) (c : Char) : c.toLower = d ↔ c = d := by
  refine of_toLower (fun c low => low = d ↔ c = d) (fun _ => Iff.rfl) (fun n hn => ?_) c
  have hletters : ∀ n < 26, isLetter (Char.ofNat (65 + n)) = true ∧
      isLetter (Char.ofNat (97 + n)) = true := by decide
  constructor
  · rintro rfl
    simp [hletters n hn] at hd
  · rintro rfl
    simp [hletters n hn] at hd

theorem toLower_of_isDigit {c : Char} (h : c.isDigit = true) : c.toLower = c :=
  of_isAscii (fun c => c.isDigit = true → c.toLower = c) (by decide) (isAscii_of_isDigit h) h

theorem isDigit_toLower (c : Char) : c.toLower.isDigit = c.isDigit :=
  of_toLower (fun c low => low.isDigit = c.isDigit) (fun _ => rfl) (by decide) c

theorem Hex.isDigit_toLower (c : Char) : Hex.isDigit c.toLower = Hex.isDigit c :=
  of_toLower (fun c low => Hex.isDigit low = Hex.isDigit c) (fun _ => rfl) (by decide) c

/-! ### Texts -/

theorem lowerChar_of_isAscii {c : Char} (h : isAscii c = true) : lowerChar c = [c.toLower] :=
  of_isAscii (fun c => lowerChar c = [c.toLower]) (by decide +kernel) h

theorem lowerAfter_of_isAscii {cs : List Char} (h : ∀ c ∈ cs, isAscii c = true)
    (afterCased : Bool) : lowerAfter afterCased cs = cs.map Char.toLower := by
  induction cs generalizing afterCased with
  | nil => rfl
  | cons c cs ih =>
    rw [List.forall_mem_cons] at h
    have hsigma : c ≠ 'Σ' := by
      rintro rfl
      exact absurd h.1 (by decide)
    rw [lowerAfter, if_neg hsigma, lowerChar_of_isAscii h.1, ih h.2]
    rfl

/-- **Lower case within ASCII** goes letter by letter. -/
theorem lower_of_isAscii {cs : List Char} (h : ∀ c ∈ cs, isAscii c = true) :
    lower cs = cs.map Char.toLower :=
  lowerAfter_of_isAscii h false

theorem toLower_toLower (c : Char) : c.toLower.toLower = c.toLower :=
  of_toLower (fun c low => low.toLower = c.toLower) (fun _ => rfl) (by decide) c

theorem map_toLower_map_toLower (cs : List Char) :
    (cs.map Char.toLower).map Char.toLower = cs.map Char.toLower := by
  rw [List.map_map]
  exact List.map_congr_left fun c _ => toLower_toLower c

theorem mem_map_toLower_iff {d : Char} (hd : isLetter d = false) {cs : List Char} :
    d ∈ cs.map Char.toLower ↔ d ∈ cs := by
  simp only [List.mem_map, toLower_eq_iff hd, exists_eq_right]

/-- The parts of a cut are in lower case when the text is. -/
theorem cut_map_toLower {sep : Char} (hsep : isLetter sep = false) (cs : List Char) :
    cut sep (cs.map Char.toLower) =
      ((cut sep cs).1.map Char.toLower, (cut sep cs).2.map (List.map Char.toLower)) := by
  induction cs with
  | nil => rfl
  | cons c cs ih =>
    rw [List.map_cons, cut, cut]
    by_cases hc : c = sep
    · rw [if_pos ((toLower_eq_iff hsep c).mpr hc), if_pos hc]
      rfl
    · rw [if_neg (mt (toLower_eq_iff hsep c).mp hc), if_neg hc, ih]
      rfl

/-- Pieces between separators are in lower case when the text is. -/
theorem splitOn_map_toLower {sep : Char} (hsep : isLetter sep = false) (cs : List Char) :
    (cs.map Char.toLower).splitOn sep = (cs.splitOn sep).map (List.map Char.toLower) := by
  induction cs with
  | nil => rfl
  | cons c cs ih =>
    rw [List.splitOn_eq_splitOnP, List.splitOn_eq_splitOnP] at ih ⊢
    rw [List.map_cons, List.splitOnP_cons_eq_if_modifyHead, List.splitOnP_cons_eq_if_modifyHead, ih]
    by_cases hc : c = sep
    · rw [if_pos (by simpa using (toLower_eq_iff hsep c).mpr hc), if_pos (by simpa using hc)]
      rfl
    · rw [if_neg (by simpa using mt (toLower_eq_iff hsep c).mp hc), if_neg (by simpa using hc)]
      cases cs.splitOnP (· == sep) <;> rfl

end OAuthRedirect.Text
