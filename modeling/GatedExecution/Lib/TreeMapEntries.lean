import Mathlib

/-!
# Entries of ordered maps

Sums, counts and filters over the entries of an {lit}`ExtTreeMap` are stated
over its list of entries.  Up to order, inserting and erasing a key change that
list in one place only; and its first entry is the least one.

Main results:

- Theorems {lit}`getElem?_insert_eq_ite` and {lit}`getElem?_erase_eq_ite`: reading
  after a change.
- Theorems {lit}`toList_insert_perm` and {lit}`toList_perm_cons_erase`: the
  entries after an insertion, and around one entry.
- Theorem {lit}`toList_head?_eq_some`: the first entry has the least key.
-/

namespace TreeMapEntries

open Std

variable {α β : Type} {cmp : α → α → Ordering} [TransCmp cmp] [LawfulEqCmp cmp]

theorem getElem?_insert_eq_ite [DecidableEq α] (m : ExtTreeMap α β cmp) (k k' : α) (v : β) :
    (m.insert k v)[k']? = if k = k' then some v else m[k']? := by
  rw [ExtTreeMap.getElem?_insert]
  simp only [LawfulEqCmp.compare_eq_iff_eq]

theorem getElem?_erase_eq_ite [DecidableEq α] (m : ExtTreeMap α β cmp) (k k' : α) :
    (m.erase k)[k']? = if k = k' then none else m[k']? := by
  rw [ExtTreeMap.getElem?_erase]
  simp only [LawfulEqCmp.compare_eq_iff_eq]

/-- The values of a map in key order. -/
def values (m : ExtTreeMap α β cmp) : List β :=
  m.toList.map Prod.snd

theorem toList_nodup (m : ExtTreeMap α β cmp) : m.toList.Nodup := by
  have hdistinct := ExtTreeMap.distinct_keys_toList (t := m)
  refine hdistinct.imp ?_
  intro first second hne heq
  rw [heq] at hne
  exact hne (ReflCmp.compare_self)

/-- Maps that agree on every key but one have, up to order, the same entries apart
from that key. -/
theorem toList_insert_perm (m : ExtTreeMap α β cmp) (k : α) (v : β) :
    (m.insert k v).toList.Perm ((k, v) :: (m.erase k).toList) := by
  have hnotMem : (k, v) ∉ (m.erase k).toList := by
    rw [ExtTreeMap.mem_toList_iff_getElem?_eq_some, ExtTreeMap.getElem?_erase_self]
    simp
  rw [List.perm_ext_iff_of_nodup (toList_nodup _)
    (List.nodup_cons.mpr ⟨hnotMem, toList_nodup _⟩)]
  rintro ⟨k', v'⟩
  rw [List.mem_cons, ExtTreeMap.mem_toList_iff_getElem?_eq_some,
    ExtTreeMap.mem_toList_iff_getElem?_eq_some, ExtTreeMap.getElem?_insert,
    ExtTreeMap.getElem?_erase]
  by_cases heq : cmp k k' = .eq
  · have hkey := LawfulEqCmp.eq_of_compare heq
    subst hkey
    simp [heq, eq_comm]
  · have hne : k' ≠ k := fun h => heq (h ▸ ReflCmp.compare_self)
    simp [heq, hne]

/-- An entry can be taken out in front of the rest. -/
theorem toList_perm_cons_erase {m : ExtTreeMap α β cmp} {k : α} {v : β}
    (hentry : m[k]? = some v) : m.toList.Perm ((k, v) :: (m.erase k).toList) := by
  have hsame : m.insert k v = m := by
    apply ExtTreeMap.ext_getElem?
    intro k'
    rw [ExtTreeMap.getElem?_insert]
    by_cases heq : cmp k k' = .eq
    · rw [if_pos heq, ← LawfulEqCmp.eq_of_compare heq, hentry]
    · rw [if_neg heq]
  have hperm := toList_insert_perm m k v
  rwa [hsame] at hperm

theorem erase_of_getElem?_eq_none {m : ExtTreeMap α β cmp} {k : α}
    (habsent : m[k]? = none) : m.erase k = m := by
  apply ExtTreeMap.ext_getElem?
  intro k'
  rw [ExtTreeMap.getElem?_erase]
  by_cases heq : cmp k k' = .eq
  · rw [if_pos heq, ← LawfulEqCmp.eq_of_compare heq, habsent]
  · rw [if_neg heq]

theorem values_insert_perm (m : ExtTreeMap α β cmp) (k : α) (v : β) :
    (values (m.insert k v)).Perm (v :: values (m.erase k)) :=
  (toList_insert_perm m k v).map Prod.snd

theorem values_perm_cons_erase {m : ExtTreeMap α β cmp} {k : α} {v : β}
    (hentry : m[k]? = some v) : (values m).Perm (v :: values (m.erase k)) :=
  (toList_perm_cons_erase hentry).map Prod.snd

theorem mem_values_iff {m : ExtTreeMap α β cmp} {v : β} :
    v ∈ values m ↔ ∃ k : α, m[k]? = some v := by
  rw [values, List.mem_map]
  constructor
  · rintro ⟨⟨k, v'⟩, hmem, rfl⟩
    exact ⟨k, ExtTreeMap.mem_toList_iff_getElem?_eq_some.mp hmem⟩
  · rintro ⟨k, hentry⟩
    exact ⟨(k, v), ExtTreeMap.mem_toList_iff_getElem?_eq_some.mpr hentry, rfl⟩

/-- The first entry of a map is present and no key comes before it. -/
theorem toList_head?_eq_some {m : ExtTreeMap α β cmp} {k : α} {v : β}
    (hhead : m.toList.head? = some (k, v)) :
    m[k]? = some v ∧ ∀ (k' : α) (v' : β), m[k']? = some v' → k' = k ∨ cmp k k' = .lt := by
  cases hlist : m.toList with
  | nil => simp [hlist] at hhead
  | cons entry rest =>
      rw [hlist, List.head?_cons, Option.some.injEq] at hhead
      subst hhead
      have hordered := ExtTreeMap.ordered_keys_toList (t := m)
      rw [hlist, List.pairwise_cons] at hordered
      refine ⟨ExtTreeMap.mem_toList_iff_getElem?_eq_some.mp (by simp [hlist]), ?_⟩
      intro k' v' hentry
      have hmem := ExtTreeMap.mem_toList_iff_getElem?_eq_some.mpr hentry
      rw [hlist, List.mem_cons] at hmem
      rcases hmem with heq | hrest
      · exact Or.inl (congrArg Prod.fst heq)
      · exact Or.inr (hordered.1 _ hrest)

theorem toList_head?_eq_none_iff {m : ExtTreeMap α β cmp} :
    m.toList.head? = none ↔ ∀ k : α, m[k]? = none := by
  rw [List.head?_eq_none_iff]
  constructor
  · intro hnil k
    by_contra hsome
    rcases Option.ne_none_iff_exists'.mp hsome with ⟨v, hentry⟩
    have hmem := ExtTreeMap.mem_toList_iff_getElem?_eq_some.mpr hentry
    rw [hnil] at hmem
    exact List.not_mem_nil hmem
  · intro hnone
    by_contra hne
    rcases List.exists_mem_of_ne_nil _ hne with ⟨⟨k, v⟩, hmem⟩
    have hentry := ExtTreeMap.mem_toList_iff_getElem?_eq_some.mp hmem
    rw [hnone k] at hentry
    cases hentry

end TreeMapEntries
