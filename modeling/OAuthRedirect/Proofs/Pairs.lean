import Mathlib.Data.List.Nodup
import OAuthRedirect.Json.Basic

/-!
# Pairs with distinct names

Among pairs with distinct names each one is found by its name (`Pairs.lookup_of_mem_of_nodup`), so
that their order does not matter for looking up (`Pairs.lookup_of_perm`). Members that are put into
an object one after another stay as they are when their names are distinct
(`Members.putAll_of_nodup`).
-/

namespace OAuthRedirect

/-! ### Looking up -/

namespace Pairs

variable {α : Type} {pairs others : List (String × α)}

theorem lookup_of_mem_of_nodup {pair : String × α} (hnodup : (pairs.map Prod.fst).Nodup)
    (hmem : pair ∈ pairs) : pairs.lookup pair.1 = some pair.2 := by
  obtain ⟨before, after, rfl⟩ := List.append_of_mem hmem
  rw [List.map_append, List.map_cons, List.nodup_append] at hnodup
  refine List.lookup_eq_some_iff.mpr ⟨before, after, rfl, fun other hother => ?_⟩
  have hne : other.1 ≠ pair.1 :=
    hnodup.2.2 _ (List.mem_map_of_mem hother) _ List.mem_cons_self
  simpa using hne.symm

theorem mem_of_lookup {name : String} {value : α} (h : pairs.lookup name = some value) :
    (name, value) ∈ pairs := by
  obtain ⟨before, after, rfl, -⟩ := List.lookup_eq_some_iff.mp h
  simp

/-- What is found among values with their names has that name. -/
theorem eq_of_lookup_map {named : α → String} {values : List α} {name : String} {value : α}
    (h : (values.map fun a => (named a, a)).lookup name = some value) : name = named value := by
  obtain ⟨a, -, ha⟩ := List.mem_map.mp (mem_of_lookup h)
  obtain ⟨rfl, rfl⟩ := Prod.mk.inj ha
  rfl

/-- The order of pairs with distinct names does not matter. -/
theorem lookup_of_perm (hperm : pairs.Perm others) (hnodup : (others.map Prod.fst).Nodup)
    (name : String) : pairs.lookup name = others.lookup name := by
  have hnodup' : (pairs.map Prod.fst).Nodup := (hperm.map Prod.fst).nodup_iff.mpr hnodup
  cases hfound : others.lookup name with
  | none =>
    rw [List.lookup_eq_none_iff] at hfound ⊢
    exact fun pair hpair => hfound pair (hperm.mem_iff.mp hpair)
  | some value =>
    exact lookup_of_mem_of_nodup hnodup' (hperm.mem_iff.mpr (mem_of_lookup hfound))

end Pairs

/-! ### Putting members -/

namespace Members

theorem put_of_not_mem {name : String} {found : Members} (h : name ∉ found.map Prod.fst)
    (value : Json) : found.put name value = found ++ [(name, value)] := by
  induction found with
  | nil => rfl
  | cons member rest ih =>
    rw [List.map_cons, List.mem_cons, not_or] at h
    rw [put, if_neg (Ne.symm h.1), ih h.2]
    rfl

/-- New members with names of their own are put behind the others. -/
theorem putAll_of_nodup {found additions : Members}
    (h : ((found ++ additions).map Prod.fst).Nodup) :
    found.putAll additions = found ++ additions := by
  induction additions generalizing found with
  | nil => exact (List.append_nil found).symm
  | cons member rest ih =>
    have hnew : member.1 ∉ found.map Prod.fst := by
      rw [List.map_append, List.nodup_append] at h
      exact fun hmem => h.2.2 _ hmem _ List.mem_cons_self rfl
    have happend : found ++ member :: rest = found.put member.1 member.2 ++ rest := by
      rw [put_of_not_mem hnew]
      simp
    rw [happend] at h ⊢
    exact ih h

end Members

end OAuthRedirect
