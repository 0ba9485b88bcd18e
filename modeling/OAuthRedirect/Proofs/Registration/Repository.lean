import Mathlib.Data.List.Nodup
import OAuthRedirect.Registration.Repository

/-!
# What a repository finds

A list is accepted when it is not empty and its ids are distinct (`Repository.exists_ofList_iff`),
and otherwise refused because it is empty or for the first id that repeats an earlier one
(`Repository.ofList_eq_error_iff`). The repository that a list was accepted for holds that list
(`Repository.registrations_of_ofList`), and finds for an id the one registration that has it
(`Repository.find?_eq_some_iff`). Together these make it an index of the list
(`Repository.ofList_indexes`).
-/

namespace OAuthRedirect.Repository

variable {τ : Type} [Inhabited τ] [LT τ]

/-! ### Building -/

theorem Builder.registrations_of_add {b b' : Builder τ} {r : Registration τ}
    (h : b.add r = .ok b') : b'.registrations = b.registrations ++ [r] := by
  rw [add] at h
  split at h
  · contradiction
  · rw [← Except.ok.inj h]

/-- Adding some registrations one after another keeps those from before in front. -/
theorem Builder.registrations_of_foldlM {registrations : List (Registration τ)} {b b' : Builder τ}
    (h : registrations.foldlM add b = .ok b') :
    b'.registrations = b.registrations ++ registrations := by
  induction registrations generalizing b with
  | nil =>
    rw [← Except.ok.inj h, List.append_nil]
  | cons r rest ih =>
    rw [List.foldlM_cons] at h
    cases hadd : b.add r with
    | error e =>
      rw [hadd] at h
      contradiction
    | ok next =>
      rw [hadd] at h
      rw [ih h, registrations_of_add hadd, List.append_assoc, List.singleton_append]

theorem registrations_of_ofList {registrations : List (Registration τ)} {repository : Repository τ}
    (h : ofList registrations = .ok repository) : repository.registrations = registrations := by
  rw [ofList] at h
  cases hfold : registrations.foldlM Builder.add .start with
  | error e =>
    rw [hfold] at h
    contradiction
  | ok b =>
    rw [hfold] at h
    change b.finish = .ok repository at h
    rw [Builder.finish] at h
    split at h
    · contradiction
    · rw [← Except.ok.inj h]
      exact Builder.registrations_of_foldlM hfold

theorem Builder.exists_add {b : Builder τ} {r : Registration τ}
    (h : r.id ∉ b.registrations.map (·.id)) : ∃ b', b.add r = .ok b' := by
  rw [add, dif_neg h]
  exact ⟨_, rfl⟩

/-- Registrations can be added one after another when no id is there twice in the end. -/
theorem Builder.exists_foldlM {registrations : List (Registration τ)} {b : Builder τ}
    (h : ((b.registrations ++ registrations).map (·.id)).Nodup) :
    ∃ b', registrations.foldlM add b = .ok b' := by
  induction registrations generalizing b with
  | nil => exact ⟨b, rfl⟩
  | cons r rest ih =>
    have hnew : r.id ∉ b.registrations.map (·.id) := by
      intro hmem
      rw [List.map_append, List.nodup_append] at h
      exact h.2.2 _ hmem _ List.mem_cons_self rfl
    obtain ⟨next, hadd⟩ := exists_add hnew
    rw [List.foldlM_cons, hadd]
    refine ih ?_
    rw [registrations_of_add hadd, List.append_assoc, List.singleton_append]
    exact h

/-- **A list makes a repository** when it is not empty and its ids are distinct. -/
theorem exists_ofList_iff {registrations : List (Registration τ)} :
    (∃ repository, ofList registrations = .ok repository) ↔
      registrations ≠ [] ∧ (registrations.map (·.id)).Nodup := by
  constructor
  · rintro ⟨repository, h⟩
    rw [← registrations_of_ofList h]
    exact ⟨repository.ne_nil, repository.distinct⟩
  · rintro ⟨hne, hdistinct⟩
    have hstart : (((Builder.start : Builder τ).registrations ++ registrations).map (·.id)).Nodup :=
      hdistinct
    obtain ⟨b, hfold⟩ := Builder.exists_foldlM hstart
    have hb : b.registrations ≠ [] := by
      rw [Builder.registrations_of_foldlM hfold]
      exact hne
    refine ⟨⟨b.registrations, b.distinct, hb⟩, ?_⟩
    rw [ofList, hfold]
    change b.finish = _
    rw [Builder.finish, dif_neg hb]

/-! ### Refused lists -/

/-- The id that **first repeats** an earlier one: all ids before it are distinct. -/
def FirstRepeats (registrations : List (Registration τ)) (id : String) : Prop :=
  ∃ before r after, registrations = before ++ r :: after ∧ r.id = id ∧
    (before.map (·.id)).Nodup ∧ id ∈ before.map (·.id)

theorem Builder.add_eq_error_iff {b : Builder τ} {r : Registration τ} {e : RepositoryError} :
    b.add r = .error e ↔ r.id ∈ b.registrations.map (·.id) ∧ e = .duplicate r.id := by
  by_cases h : r.id ∈ b.registrations.map (·.id)
  · rw [add, dif_pos h, Except.error.injEq, and_iff_right h, eq_comm]
  · rw [add, dif_neg h]
    simp [h]

/-- Adding some registrations one after another ends at the first whose id is not new. -/
theorem Builder.foldlM_eq_error_iff {registrations : List (Registration τ)} {b : Builder τ}
    {e : RepositoryError} :
    registrations.foldlM add b = .error e ↔
      ∃ before r after, registrations = before ++ r :: after ∧
        ((b.registrations ++ before).map (·.id)).Nodup ∧
        r.id ∈ (b.registrations ++ before).map (·.id) ∧ e = .duplicate r.id := by
  induction registrations generalizing b with
  | nil =>
    constructor
    · intro h
      contradiction
    · rintro ⟨before, r, after, h, -⟩
      simp at h
  | cons r rest ih =>
    rw [List.foldlM_cons]
    cases hadd : b.add r with
    | error e' =>
      -- the first one is not new, so that nothing can have been added before the fault
      obtain ⟨hmem, rfl⟩ := add_eq_error_iff.mp hadd
      constructor
      · intro h
        obtain rfl := Except.error.inj h
        refine ⟨[], r, rest, rfl, ?_, ?_, rfl⟩
        · simpa using b.distinct
        · simpa using hmem
      · rintro ⟨before, r', after, hsplit, hdistinct, -, rfl⟩
        cases before with
        | nil =>
          obtain ⟨rfl, -⟩ := List.cons.inj hsplit
          rfl
        | cons first others =>
          obtain ⟨rfl, -⟩ := List.cons.inj hsplit
          rw [List.map_append, List.nodup_append] at hdistinct
          exact absurd rfl (hdistinct.2.2 _ hmem _ List.mem_cons_self)
    | ok next =>
      have hnext := registrations_of_add hadd
      have hnew : r.id ∉ b.registrations.map (·.id) := fun hmem => by
        rw [add_eq_error_iff.mpr ⟨hmem, rfl⟩] at hadd
        contradiction
      change rest.foldlM add next = .error e ↔ _
      rw [ih, hnext]
      constructor
      · rintro ⟨before, r', after, rfl, hdistinct, hmem, rfl⟩
        refine ⟨r :: before, r', after, rfl, ?_, ?_, rfl⟩
        · simpa using hdistinct
        · simpa using hmem
      · rintro ⟨before, r', after, hsplit, hdistinct, hmem, rfl⟩
        cases before with
        | nil =>
          obtain ⟨rfl, -⟩ := List.cons.inj hsplit
          rw [List.append_nil] at hmem
          exact absurd hmem hnew
        | cons first others =>
          obtain ⟨rfl, rfl⟩ := List.cons.inj hsplit
          refine ⟨others, r', after, rfl, ?_, ?_, rfl⟩
          · simpa using hdistinct
          · simpa using hmem

theorem Builder.foldlM_start_eq_error_iff {registrations : List (Registration τ)}
    {e : RepositoryError} :
    registrations.foldlM add start = .error e ↔
      ∃ id, FirstRepeats registrations id ∧ e = .duplicate id := by
  rw [foldlM_eq_error_iff]
  constructor
  · rintro ⟨before, r, after, hsplit, hdistinct, hmem, rfl⟩
    exact ⟨r.id, ⟨before, r, after, hsplit, rfl, hdistinct, hmem⟩, rfl⟩
  · rintro ⟨_, ⟨before, r, after, hsplit, rfl, hdistinct, hmem⟩, rfl⟩
    exact ⟨before, r, after, hsplit, hdistinct, hmem, rfl⟩

theorem Builder.finish_eq_error_iff {b : Builder τ} {e : RepositoryError} :
    b.finish = .error e ↔ b.registrations = [] ∧ e = .empty := by
  by_cases h : b.registrations = []
  · rw [finish, dif_pos h, Except.error.injEq, and_iff_right h, eq_comm]
  · rw [finish, dif_neg h]
    simp [h]

/-- **A list is refused** when it is empty, or else for the first id that repeats an earlier one. -/
theorem ofList_eq_error_iff {registrations : List (Registration τ)} {e : RepositoryError} :
    ofList registrations = .error e ↔
      registrations = [] ∧ e = .empty ∨
        ∃ id, FirstRepeats registrations id ∧ e = .duplicate id := by
  rw [ofList, ← Builder.foldlM_start_eq_error_iff]
  cases hfold : registrations.foldlM Builder.add .start with
  | error e' =>
    have hne : registrations ≠ [] := by
      rintro rfl
      contradiction
    change (Except.error e' : Except RepositoryError (Repository τ)) = .error e ↔ _
    simp [hne]
  | ok b =>
    have hheld : b.registrations = registrations := Builder.registrations_of_foldlM hfold
    change b.finish = .error e ↔ _
    rw [Builder.finish_eq_error_iff, hheld]
    simp

/-! ### Looking up -/

variable {repository : Repository τ} {id : String} {r : Registration τ}

theorem find?_eq_none_iff :
    repository.find? id = none ↔ ∀ r ∈ repository.registrations, r.id ≠ id := by
  simp [find?]

/-- **An id finds its registration.** Ids are distinct, so it is the only one. -/
theorem find?_eq_some_iff :
    repository.find? id = some r ↔ r ∈ repository.registrations ∧ r.id = id := by
  constructor
  · intro h
    exact ⟨List.mem_of_find?_eq_some h, by simpa using List.find?_some h⟩
  · rintro ⟨hmem, hid⟩
    cases hfind : repository.find? id with
    | none => exact absurd hid (find?_eq_none_iff.mp hfind r hmem)
    | some found =>
      -- ids are distinct, so what is found first is the registration itself
      have hfound : found ∈ repository.registrations := List.mem_of_find?_eq_some hfind
      have hsame : found.id = r.id := by
        rw [hid]
        simpa using List.find?_some hfind
      rw [List.inj_on_of_nodup_map repository.distinct hfound hmem hsame]

/-- Every other id than the empty one is looked up. -/
theorem lookup_of_ne_empty (repository : Repository τ) (h : id ≠ "") :
    repository.lookup (some id) = .ok (repository.find? id) := by
  unfold lookup
  split
  · contradiction
  · rename_i heq
    exact absurd (Option.some_inj.mp heq) h
  · rename_i heq
    rw [Option.some_inj.mp heq]

/-- The empty id finds nothing. -/
theorem find?_empty : repository.find? "" = none :=
  find?_eq_none_iff.mpr fun r _ => r.id_ne_empty

/-! ### Indexes -/

/-- **A repository is a faithful index of its list.** A list makes a repository exactly when it is
not empty and its ids are distinct. It is refused as empty when it is, and otherwise for the id of
the first registration that repeats an earlier one. What goes through the registrations of the
repository meets those of the list, in their order, and counts as many; and an id that is not empty
finds a registration exactly when that is in the list and has the id, and nothing exactly when no
registration of the list has it. -/
theorem ofList_indexes (registrations : List (Registration τ)) :
    ((∃ repository, ofList registrations = .ok repository) ↔
      registrations ≠ [] ∧ (registrations.map (·.id)).Nodup) ∧
    (∀ e, ofList registrations = .error e ↔
      registrations = [] ∧ e = .empty ∨
        ∃ id, FirstRepeats registrations id ∧ e = .duplicate id) ∧
    ∀ repository, ofList registrations = .ok repository →
      repository.registrations = registrations ∧
      repository.ids = registrations.map (·.id) ∧
      repository.size = registrations.length ∧
      ∀ id, id ≠ "" →
        (∀ r, repository.lookup (some id) = .ok (some r) ↔ r ∈ registrations ∧ r.id = id) ∧
        (repository.lookup (some id) = .ok none ↔ ∀ r ∈ registrations, r.id ≠ id) := by
  refine ⟨exists_ofList_iff, fun e => ofList_eq_error_iff, fun repository hrepository => ?_⟩
  obtain rfl := registrations_of_ofList hrepository
  refine ⟨rfl, rfl, rfl, fun id hid => ?_⟩
  simp only [repository.lookup_of_ne_empty hid, Except.ok.injEq]
  exact ⟨fun r => find?_eq_some_iff, find?_eq_none_iff⟩

/-- A client that logs in by itself. -/
private def robot (id : String) (h : id ≠ "") : Registration where
  id := id
  clientId := "robot-1"
  clientSecret := some "secret"
  authentication := .secretBasic
  grant := .clientCredentials
  authorizationUri := none
  redirectTemplate := some Template.standard
  scopes := .empty
  clientName := none
  id_ne_empty := h
  clientId_ne_empty := by decide
  endpoints _ h := by cases h

private def robots : List Registration := [robot "arm" (by decide), robot "leg" (by decide)]

theorem ofList_indexes_robots :
    ∃ repository, ofList robots = .ok repository ∧ repository.ids = ["arm", "leg"] ∧
      "leg" ≠ "" ∧ repository.lookup (some "leg") = .ok (some (robot "leg" (by decide))) ∧
      repository.lookup (some "Leg") = .ok none ∧
      ofList (robots ++ robots) = .error (.duplicate "arm") := by
  have hdistinct : (robots.map (·.id)).Nodup := by decide
  obtain ⟨repository, hrepository⟩ := (ofList_indexes robots).1.mpr ⟨by decide, hdistinct⟩
  obtain ⟨-, hids, -, hfind⟩ := (ofList_indexes robots).2.2 repository hrepository
  refine ⟨repository, hrepository, hids, by decide, ?_, ?_, ?_⟩
  · exact ((hfind "leg" (by decide)).1 _).mpr (by decide)
  · exact (hfind "Leg" (by decide)).2.mpr (by decide)
  · refine ((ofList_indexes (robots ++ robots)).2.1 _).mpr (.inr ⟨"arm", ?_, rfl⟩)
    exact ⟨robots, robot "arm" (by decide), [robot "leg" (by decide)], rfl, rfl, hdistinct,
      by decide⟩

end OAuthRedirect.Repository
