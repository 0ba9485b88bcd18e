import Mathlib.Data.List.Forall2
import OAuthRedirect.Proofs.Log.Likeness
import OAuthRedirect.Proofs.Log.Lines

/-!
# What sanitising hides

The name of an entry decides what of its value is logged: nothing under the name of a secret
(`Log.IsSecretName`), the front of a long string under the name of a one-time value
(`Log.IsOneTimeName`), everything under any other name. Two values of one name are sanitised to the
same exactly when these rules leave nothing to tell them apart (`Log.sanitizeValue_eq_iff`), and so
are the data of two events (`Log.sanitize_eq_iff`).

What is left of a long string is a long string with the same front. Data that was sanitised stays
therefore as it is when it is sanitised again (`Log.sanitize_hides_only`).
-/

namespace OAuthRedirect

/-! ### Code points of strings -/

namespace Json

/-- The code points of a string. -/
inductive HasCodes : Json → List Nat → Prop
  | str (s : String) : HasCodes (.str s) (s.toList.map Char.toNat)
  | broken (codes : List Nat) : HasCodes (.broken codes) codes

theorem HasCodes.unique {v : Json} {codes codes' : List Nat} (h : v.HasCodes codes)
    (h' : v.HasCodes codes') : codes = codes' := by
  cases h <;> cases h' <;> rfl

/-- A text behind two strings that are the same. -/
theorem ofCodes_append_congr {codes codes' : List Nat} (h : ofCodes codes = ofCodes codes')
    {text : List Nat} (htext : text.any isSurrogate = false) :
    ofCodes (codes ++ text) = ofCodes (codes' ++ text) := by
  cases hany : codes.any isSurrogate with
  | false =>
    cases hany' : codes'.any isSurrogate with
    | false =>
      rw [ofCodes_of_text hany, ofCodes_of_text hany', Json.str.injEq, String.ofList_inj] at h
      rw [ofCodes_of_text (by rw [List.any_append, hany, htext]; rfl),
        ofCodes_of_text (by rw [List.any_append, hany', htext]; rfl), List.map_append,
        List.map_append, h]
    | true =>
      rw [ofCodes_of_text hany, ofCodes_of_surrogate hany'] at h
      contradiction
  | true =>
    cases hany' : codes'.any isSurrogate with
    | false =>
      rw [ofCodes_of_surrogate hany, ofCodes_of_text hany'] at h
      contradiction
    | true =>
      rw [ofCodes_of_surrogate hany, ofCodes_of_surrogate hany', Json.broken.injEq] at h
      rw [h]

/-- A string that is made of code points has as many, and its fronts are made of theirs. -/
theorem exists_hasCodes_ofCodes (codes : List Nat) :
    ∃ codes', (ofCodes codes).HasCodes codes' ∧ codes'.length = codes.length ∧
      ∀ n, ofCodes (codes'.take n) = ofCodes (codes.take n) := by
  cases hany : codes.any isSurrogate with
  | true =>
    rw [ofCodes_of_surrogate hany]
    exact ⟨codes, .broken codes, rfl, fun _ => rfl⟩
  | false =>
    rw [ofCodes_of_text hany]
    refine ⟨_, .str _, by simp, fun n => ?_⟩
    have htake : (codes.take n).any isSurrogate = false := by
      rw [List.any_eq_false] at hany ⊢
      exact fun code hcode => hany code (List.mem_of_mem_take hcode)
    rw [ofCodes_of_text htake, ← ofCodes_toNat, String.toList_ofList, String.toList_ofList,
      List.map_take, List.map_take]

end Json

namespace Log

/-! ### Names -/

/-- A name whose lower-case form holds one of some words. -/
def HoldsWord (words : List String) (name : String) : Prop :=
  ∃ word ∈ words, word.toList <:+: Text.lower name.toList

/-- The name of a **secret**. -/
def IsSecretName (name : String) : Prop :=
  HoldsWord ["password", "secret", "key"] name

/-- The name of a **one-time value**, unless it is that of a secret. -/
def IsOneTimeName (name : String) : Prop :=
  HoldsWord ["token", "code", "challenge", "verifier", "state"] name

variable {name : String}

theorem mentions_iff {words : List String} : mentions words name = true ↔ HoldsWord words name := by
  rw [mentions, List.any_eq_true]
  exact exists_congr fun word => and_congr_right fun _ => Text.contains_iff

theorem isSecretName_iff : IsSecretName name ↔ mentions secretWords name = true :=
  mentions_iff.symm

theorem isOneTimeName_iff : IsOneTimeName name ↔ mentions oneTimeWords name = true :=
  mentions_iff.symm

instance : DecidablePred IsSecretName := fun _ => decidable_of_iff' _ isSecretName_iff

instance : DecidablePred IsOneTimeName := fun _ => decidable_of_iff' _ isOneTimeName_iff

theorem isPlainName_iff : IsPlainName name ↔ ¬ IsSecretName name ∧ ¬ IsOneTimeName name := by
  rw [isSecretName_iff, isOneTimeName_iff, Bool.not_eq_true, Bool.not_eq_true]
  rfl

/-! ### Long strings -/

/-- A string of more than ten characters. -/
def IsLong (v : Json) : Prop :=
  ∃ codes, v.HasCodes codes ∧ 10 < codes.length

/-- Strings of more than ten characters, of which **the first ten** are the same. -/
def SameFront (v w : Json) : Prop :=
  ∃ codes codes', v.HasCodes codes ∧ w.HasCodes codes' ∧ 10 < codes.length ∧ 10 < codes'.length ∧
    Json.ofCodes (codes.take 10) = Json.ofCodes (codes'.take 10)

variable {v w : Json}

theorem SameFront.symm (h : SameFront v w) : SameFront w v := by
  obtain ⟨codes, codes', hv, hw, hlong, hlong', hfront⟩ := h
  exact ⟨codes', codes, hw, hv, hlong', hlong, hfront.symm⟩

theorem SameFront.trans {x : Json} (h : SameFront v w) (h' : SameFront w x) : SameFront v x := by
  obtain ⟨codes, codes', hv, hw, hlong, -, hfront⟩ := h
  obtain ⟨_, codes'', hw', hx, -, hlong'', hfront'⟩ := h'
  obtain rfl := hw.unique hw'
  exact ⟨codes, codes'', hv, hx, hlong, hlong'', hfront.trans hfront'⟩

/-- Texts of which the log shows the same have the same front. -/
theorem LooksLike.sameFront {s t : String} (h : LooksLike s t) :
    SameFront (.str s) (.str t) := by
  refine ⟨_, _, .str s, .str t, ?_, ?_, ?_⟩
  · rw [List.length_map]
    exact h.long
  · rw [List.length_map]
    exact h.long'
  · have hfront : s.toList.take 10 = t.toList.take 10 := h.front
    rw [← List.map_take, ← List.map_take, hfront]

/-! ### Values -/

/-- What is left of a one-time value that is a long string. -/
theorem sanitizeValue_of_hasCodes (hsecret : ¬ IsSecretName name) (honeTime : IsOneTimeName name)
    {codes : List Nat} (h : v.HasCodes codes) (hlong : 10 < codes.length) :
    sanitizeValue name v = Json.ofCodes (codes.take 10 ++ "...".toList.map Char.toNat) := by
  rw [isSecretName_iff] at hsecret
  rw [isOneTimeName_iff] at honeTime
  unfold sanitizeValue
  rw [if_neg hsecret, if_pos honeTime]
  cases h with
  | broken => exact if_pos hlong
  | str s =>
    rw [List.length_map] at hlong
    have hshown : shorten s = String.ofList (s.toList.take 10) ++ "..." := if_pos hlong
    change Json.str (shorten s) = _
    rw [hshown, ← Json.ofCodes_toNat, String.toList_append, String.toList_ofList, List.map_append,
      List.map_take]

/-- A value that is no long string is shown, unless its name is that of a secret. -/
theorem sanitizeValue_of_not_isLong (hsecret : ¬ IsSecretName name) (h : ¬ IsLong v) :
    sanitizeValue name v = v := by
  rw [isSecretName_iff] at hsecret
  unfold sanitizeValue
  rw [if_neg hsecret]
  split
  · cases v with
    | str s =>
      have hshort : ¬ 10 < s.toList.length := fun hlong =>
        h ⟨_, .str s, by rwa [List.length_map]⟩
      exact congrArg Json.str (if_neg hshort)
    | broken codes => exact if_neg fun hlong => h ⟨codes, .broken codes, hlong⟩
    | _ => rfl
  · rfl

theorem sanitizeValue_of_isSecretName (h : IsSecretName name) (v : Json) :
    sanitizeValue name v = .str "[REDACTED]" :=
  if_pos (isSecretName_iff.mp h)

/-- Only the front of a long string is left of it. -/
theorem SameFront.sanitizeValue_eq (h : SameFront v w) (hsecret : ¬ IsSecretName name)
    (honeTime : IsOneTimeName name) : sanitizeValue name v = sanitizeValue name w := by
  obtain ⟨codes, codes', hv, hw, hlong, hlong', hfront⟩ := h
  rw [sanitizeValue_of_hasCodes hsecret honeTime hv hlong,
    sanitizeValue_of_hasCodes hsecret honeTime hw hlong']
  exact Json.ofCodes_append_congr hfront (by decide)

/-- What is left of a long string is long and has the front of the string. -/
theorem IsLong.sameFront_sanitizeValue (h : IsLong v) (hsecret : ¬ IsSecretName name)
    (honeTime : IsOneTimeName name) : SameFront v (sanitizeValue name v) := by
  obtain ⟨codes, hv, hlong⟩ := h
  have hten : (codes.take 10).length = 10 := List.length_take_of_le (Nat.le_of_lt hlong)
  obtain ⟨codes', hshown, hlength, hfront⟩ :=
    Json.exists_hasCodes_ofCodes (codes.take 10 ++ "...".toList.map Char.toNat)
  rw [← sanitizeValue_of_hasCodes hsecret honeTime hv hlong] at hshown
  refine ⟨codes, codes', hv, hshown, hlong, ?_, ?_⟩
  · rw [hlength, List.length_append, hten]
    decide
  · rw [hfront 10, List.take_left' hten]

/-- Values of one name that are **shown alike**. -/
inductive ShownAlike (name : String) (v w : Json) : Prop
  | same (h : v = w)
  | secret (h : IsSecretName name)
  | oneTime (h : IsOneTimeName name) (hfront : SameFront v w)

theorem ShownAlike.symm (h : ShownAlike name v w) : ShownAlike name w v := by
  cases h with
  | same h => exact .same h.symm
  | secret h => exact .secret h
  | oneTime h hfront => exact .oneTime h hfront.symm

theorem ShownAlike.trans {x : Json} (h : ShownAlike name v w) (h' : ShownAlike name w x) :
    ShownAlike name v x := by
  cases h with
  | same h => exact h ▸ h'
  | secret h => exact .secret h
  | oneTime h hfront =>
    cases h' with
    | same heq => exact heq ▸ .oneTime h hfront
    | secret h' => exact .secret h'
    | oneTime _ hfront' => exact .oneTime h (hfront.trans hfront')

/-- A value is shown alike with what is left of it. -/
theorem shownAlike_sanitizeValue (name : String) (v : Json) :
    ShownAlike name v (sanitizeValue name v) := by
  by_cases hsecret : IsSecretName name
  · exact .secret hsecret
  by_cases hlong : IsLong v
  · by_cases honeTime : IsOneTimeName name
    · exact .oneTime honeTime (hlong.sameFront_sanitizeValue hsecret honeTime)
    · have hplain : IsPlainName name := isPlainName_iff.mpr ⟨hsecret, honeTime⟩
      exact .same (hplain.sanitizeValue_eq v).symm
  · exact .same (sanitizeValue_of_not_isLong hsecret hlong).symm

theorem ShownAlike.sanitizeValue_eq (h : ShownAlike name v w) :
    sanitizeValue name v = sanitizeValue name w := by
  by_cases hsecret : IsSecretName name
  · rw [sanitizeValue_of_isSecretName hsecret, sanitizeValue_of_isSecretName hsecret]
  cases h with
  | same h => rw [h]
  | secret h => exact absurd h hsecret
  | oneTime h hfront => exact hfront.sanitizeValue_eq hsecret h

/-- **What sanitising leaves of two values** is the same for values that are shown alike, and for no
others. -/
theorem sanitizeValue_eq_iff :
    sanitizeValue name v = sanitizeValue name w ↔ ShownAlike name v w := by
  refine ⟨fun heq => ?_, ShownAlike.sanitizeValue_eq⟩
  have hw : ShownAlike name (sanitizeValue name v) w :=
    heq ▸ (shownAlike_sanitizeValue name w).symm
  exact (shownAlike_sanitizeValue name v).trans hw

/-- A value that was sanitised stays as it is. -/
theorem sanitizeValue_sanitizeValue (name : String) (v : Json) :
    sanitizeValue name (sanitizeValue name v) = sanitizeValue name v :=
  (shownAlike_sanitizeValue name v).sanitizeValue_eq.symm

/-! ### Data -/

/-- Data with the same names in the same order, and values that are shown alike. -/
def DataAlike (data data' : Members) : Prop :=
  List.Forall₂ (fun entry entry' => entry.1 = entry'.1 ∧ ShownAlike entry.1 entry.2 entry'.2)
    data data'

theorem sanitize_eq_iff {data data' : Members} :
    sanitize data = sanitize data' ↔ DataAlike data data' := by
  rw [sanitize, sanitize, ← List.forall₂_eq_eq_eq, List.forall₂_map_left_iff,
    List.forall₂_map_right_iff, DataAlike]
  have hentry (entry entry' : String × Json) :
      (entry.1, sanitizeValue entry.1 entry.2) = (entry'.1, sanitizeValue entry'.1 entry'.2) ↔
        entry.1 = entry'.1 ∧ ShownAlike entry.1 entry.2 entry'.2 := by
    rw [Prod.mk.injEq, ← sanitizeValue_eq_iff]
    exact and_congr_right fun hname => by rw [hname]
  simp only [hentry]

/-- **Sanitising hides what it must, and only that.** It keeps the names of all entries in their
order, changes nothing any more that it has been applied to, and leaves an entry as it is whose name
is neither that of a secret nor that of a one-time value. Of two sets of data it leaves the same
exactly when they have the same names in the same order and values that are shown alike: equal ones,
any two under the name of a secret, and long strings with the same front under the name of a
one-time value. Events with such data, and else equal, have the same block at the same time. -/
theorem sanitize_hides_only (data : Members) :
    (sanitize data).map Prod.fst = data.map Prod.fst ∧
      sanitize (sanitize data) = sanitize data ∧
      (∀ (i : Nat) (entry : String × Json), data[i]? = some entry → ¬ IsSecretName entry.1 →
        ¬ IsOneTimeName entry.1 → (sanitize data)[i]? = some entry) ∧
      ∀ data' : Members,
        (sanitize data = sanitize data' ↔ DataAlike data data') ∧
        (DataAlike data data' →
          ∀ (source destination kind : String) (success : Bool) (now : Timestamp),
            Event.render ⟨source, destination, kind, data, success⟩ now =
              Event.render ⟨source, destination, kind, data', success⟩ now) := by
  refine ⟨?_, ?_, fun i entry hentry hsecret honeTime => ?_, fun data' => ⟨sanitize_eq_iff, ?_⟩⟩
  · rw [sanitize, List.map_map]
    rfl
  · rw [sanitize, sanitize, List.map_map]
    exact List.map_congr_left fun entry _ =>
      congrArg (Prod.mk entry.1) (sanitizeValue_sanitizeValue entry.1 entry.2)
  · have hplain : IsPlainName entry.1 := isPlainName_iff.mpr ⟨hsecret, honeTime⟩
    rw [sanitize, List.getElem?_map, hentry, Option.map_some, hplain.sanitizeValue_eq]
  · intro halike source destination kind success now
    have hevents : Event.LooksLike ⟨source, destination, kind, data, success⟩
        ⟨source, destination, kind, data', success⟩ :=
      ⟨rfl, rfl, rfl, sanitize_eq_iff.mpr halike, rfl⟩
    rw [Event.render, Event.render, hevents.lines_eq]

/-- What is logged of a login. The sign in the first name is that of the kelvin, the lower-case form
of which is a letter. -/
private def loginData (key state : Json) : Members :=
  [("Api_\u212Aey", key), ("STATE", state), ("client_id", .str "kiosk")]

/-- Two logins with keys of different types and states that differ behind their tenth character. -/
theorem sanitize_hides_only_login :
    let data := loginData (.str "open sesame") (.str "3f9c2a7e41-first")
    let data' := loginData (.int 12) (.str "3f9c2a7e41, and then something else")
    sanitize data = sanitize data' ∧ (sanitize data)[2]? = some ("client_id", .str "kiosk") ∧
      ∀ now, Event.render ⟨"CLIENT", "USER-AGENT", "REDIRECT", data, true⟩ now =
        Event.render ⟨"CLIENT", "USER-AGENT", "REDIRECT", data', true⟩ now := by
  intro data data'
  have hnames : IsSecretName "Api_\u212Aey" ∧ IsOneTimeName "STATE" ∧
      ¬ IsSecretName "client_id" ∧ ¬ IsOneTimeName "client_id" := by decide +kernel
  obtain ⟨hkey, hstate, hsecret, honeTime⟩ := hnames
  have hstates : LooksLike "3f9c2a7e41-first" "3f9c2a7e41, and then something else" :=
    ⟨by decide, by decide, by decide⟩
  have halike : DataAlike data data' :=
    .cons ⟨rfl, .secret hkey⟩ (.cons ⟨rfl, .oneTime hstate hstates.sameFront⟩
      (.cons ⟨rfl, .same rfl⟩ .nil))
  obtain ⟨-, -, hkept, hblocks⟩ := sanitize_hides_only data
  exact ⟨(hblocks data').1.mpr halike, hkept 2 _ rfl hsecret honeTime,
    (hblocks data').2 halike _ _ _ _⟩

end Log

end OAuthRedirect
