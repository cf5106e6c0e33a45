import Mathlib

namespace RustDcp.Exclusion
set_option autoImplicit true

theorem getElem?_set_cases {l : List α} (h : (l.set i b)[j]? = some x) :
    i = j ∧ x = b ∨ i ≠ j ∧ l[j]? = some x := by
  rw [List.getElem?_set] at h
  split at h
  · rename_i heq
    split at h
    · cases h
      exact .inl ⟨heq, rfl⟩
    · cases h
  · rename_i hne
    exact .inr ⟨hne, h⟩

theorem countP_set {l : List α} (p : α → Bool) (h : l[i]? = some a) (b : α) :
    (l.set i b).countP p + (p a).toNat = l.countP p + (p b).toNat := by
  induction l generalizing i with
  | nil => simp at h
  | cons x l ih =>
    cases i with
    | zero =>
      cases h
      rw [List.set_cons_zero, List.countP_cons, List.countP_cons]
      cases p a <;> cases p b <;> simp
    | succ i =>
      have hrest := ih h
      rw [List.set_cons_succ, List.countP_cons, List.countP_cons]
      omega

theorem countP_set_eq {l : List α} (p : α → Bool) (h : l[i]? = some a) (b : α) (hp : p b = p a) :
    (l.set i b).countP p = l.countP p := by
  have hcount := countP_set p h b
  rw [hp] at hcount
  exact Nat.add_right_cancel hcount

theorem countP_pos {l : List α} {i : Nat} {p : α → Bool} (h : l[i]? = some a) (ha : p a = true) :
    0 < l.countP p :=
  List.countP_pos_iff.2 ⟨a, List.mem_of_getElem? h, ha⟩

theorem holder_unique {l : List α} {i j : Nat} {p : α → Bool} (hcount : l.countP p ≤ 1)
    (hi : l[i]? = some a) (hj : l[j]? = some b) (ha : p a = true) (hb : p b = true) : i = j := by
  induction l generalizing i j with
  | nil => simp at hi
  | cons x l ih =>
    rw [List.countP_cons] at hcount
    cases i with
    | zero =>
      cases hi
      cases j with
      | zero => rfl
      | succ j =>
        have hpos : 0 < l.countP p := countP_pos hj hb
        rw [if_pos ha] at hcount
        omega
    | succ i =>
      have hpos : 0 < l.countP p := countP_pos hi ha
      cases j with
      | zero =>
        cases hj
        rw [if_pos hb] at hcount
        omega
      | succ j => rw [ih (by omega) hi hj]

end RustDcp.Exclusion
