import Mathlib

namespace RustDcp.OrderedMap
set_option autoImplicit true

variable [Ord κ] [Std.TransOrd κ] [Std.LawfulEqOrd κ]

omit [Std.LawfulEqOrd κ] in
theorem nodup_toList_fst (map : Std.ExtTreeMap κ ν compare) :
    (map.toList.map Prod.fst).Nodup := by
  rw [Std.ExtTreeMap.map_fst_toList_eq_keys]
  exact Std.ExtTreeMap.nodup_keys

theorem distinct_toList (map : Std.ExtTreeMap κ ν compare) :
    map.toList.Pairwise fun a b => a.1 ≠ b.1 := by
  apply Std.ExtTreeMap.distinct_keys_toList.imp
  intro a b hab heq
  exact hab (Std.compare_eq_iff_eq.2 heq)

theorem nodup_toList (set : Std.ExtTreeSet κ compare) : set.toList.Nodup := by
  apply Std.ExtTreeSet.distinct_toList.imp
  intro a b hab heq
  exact hab (Std.compare_eq_iff_eq.2 heq)

/-- Among more distinct keys than a map has entries, one is absent from it. -/
theorem exists_absent (map : Std.ExtTreeMap κ ν compare) {key : Nat → κ}
    (hkey : ∀ i ≤ map.size, ∀ j ≤ map.size, key i = key j → i = j) :
    ∃ k ≤ map.size, key k ∉ map := by
  by_contra hall
  have hnodup : ((List.range (map.size + 1)).map key).Nodup := by
    apply List.Nodup.map_on _ List.nodup_range
    intro i hi j hj
    rw [List.mem_range] at hi hj
    exact hkey i (by omega) j (by omega)
  have hsubset : (List.range (map.size + 1)).map key ⊆ map.keys := by
    intro key' hmem
    obtain ⟨k, hk, rfl⟩ := List.mem_map.1 hmem
    rw [List.mem_range] at hk
    rw [Std.ExtTreeMap.mem_keys]
    by_contra habsent
    exact hall ⟨k, by omega, habsent⟩
  have hlength := (hnodup.subperm hsubset).length_le
  rw [List.length_map, List.length_range, Std.ExtTreeMap.length_keys] at hlength
  omega

section

variable {map : Std.ExtTreeMap κ ν compare} {values : List ν}

omit [Std.LawfulEqOrd κ] in
theorem length_values (h : values.Perm (map.toList.map (·.2))) : values.length = map.size := by
  rw [h.length_eq, List.length_map, Std.ExtTreeMap.length_toList]

theorem mem_values (h : values.Perm (map.toList.map (·.2))) :
    value ∈ values ↔ ∃ key : κ, map[key]? = some value := by
  rw [h.mem_iff, List.mem_map]
  constructor
  · rintro ⟨⟨key, value⟩, hmem, rfl⟩
    exact ⟨key, Std.ExtTreeMap.mem_toList_iff_getElem?_eq_some.1 hmem⟩
  · rintro ⟨key, hget⟩
    exact ⟨(key, value), Std.ExtTreeMap.mem_toList_iff_getElem?_eq_some.2 hget, rfl⟩

/-- Values that are stored under a part of themselves differ in it. -/
theorem nodup_values {name : ν → κ} (h : values.Perm (map.toList.map (·.2)))
    (hname : ∀ (key : κ) value, map[key]? = some value → name value = key) :
    (values.map name).Nodup := by
  have hkeys : (map.toList.map (·.2)).map name = map.keys := by
    rw [← Std.ExtTreeMap.map_fst_toList_eq_keys, List.map_map]
    apply List.map_congr_left
    intro pair hpair
    exact hname _ _ (Std.ExtTreeMap.mem_toList_iff_getElem?_eq_some.1 hpair)
  rw [(h.map name).nodup_iff, hkeys]
  exact Std.ExtTreeMap.nodup_keys

end

def Pointwise (R : κ → ν → μ → Prop) (map : Std.ExtTreeMap κ ν compare)
    (other : Std.ExtTreeMap κ μ compare) : Prop :=
  ∀ key : κ, Option.Rel (R key) map[key]? other[key]?

namespace Pointwise

variable {R : κ → ν → μ → Prop} {map : Std.ExtTreeMap κ ν compare}
  {other : Std.ExtTreeMap κ μ compare}

omit [Std.LawfulEqOrd κ] in
theorem get (h : Pointwise R map other) {key : κ} (hget : map[key]? = some value) :
    ∃ value', other[key]? = some value' ∧ R key value value' := by
  have hkey := h key
  rw [hget] at hkey
  cases hother : other[key]? with
  | none =>
    rw [hother] at hkey
    cases hkey
  | some value' =>
    rw [hother] at hkey
    cases hkey with
    | some hrel => exact ⟨value', rfl, hrel⟩

theorem insert (h : Pointwise R map other) {key : κ} (hrel : R key value value') :
    Pointwise R (map.insert key value) (other.insert key value') := by
  intro key'
  rw [Std.ExtTreeMap.getElem?_insert, Std.ExtTreeMap.getElem?_insert]
  by_cases hkey : compare key key' = .eq
  · rw [if_pos hkey, if_pos hkey]
    obtain rfl := Std.compare_eq_iff_eq.1 hkey
    exact .some hrel
  · rw [if_neg hkey, if_neg hkey]
    exact h key'

/-- A new value that is related to the old value of the other map. -/
theorem insert_left (h : Pointwise R map other) {key : κ} (hget : other[key]? = some value')
    (hrel : R key value value') : Pointwise R (map.insert key value) other := by
  intro key'
  rw [Std.ExtTreeMap.getElem?_insert]
  by_cases hkey : compare key key' = .eq
  · obtain rfl := Std.compare_eq_iff_eq.1 hkey
    rw [if_pos hkey, hget]
    exact .some hrel
  · rw [if_neg hkey]
    exact h key'

omit [Std.LawfulEqOrd κ] in
theorem erase (h : Pointwise R map other) (key : κ) :
    Pointwise R (map.erase key) (other.erase key) := by
  intro key'
  rw [Std.ExtTreeMap.getElem?_erase, Std.ExtTreeMap.getElem?_erase]
  by_cases hkey : compare key key' = .eq
  · rw [if_pos hkey, if_pos hkey]
    exact .none
  · rw [if_neg hkey, if_neg hkey]
    exact h key'

theorem eq_empty (h : Pointwise R ∅ other) : other = ∅ := by
  apply Std.ExtTreeMap.ext_getElem?
  intro key
  have hkey := h key
  rw [Std.ExtTreeMap.getElem?_empty] at hkey ⊢
  cases hother : other[key]? with
  | none => rfl
  | some value =>
    rw [hother] at hkey
    cases hkey

end Pointwise

end RustDcp.OrderedMap
