import RustDcp.Machine

namespace RustDcp.AckQueue
set_option autoImplicit true

/-- The value of the last item of the longest done prefix, or `base` if that prefix is empty. -/
def released (done : α → Bool) (value : α → β) (base : β) (items : List α) : β :=
  ((items.takeWhile done).getLast?.map value).getD base

@[simp] theorem released_nil (done : α → Bool) (value : α → β) (base : β) :
    released done value base [] = base := rfl

theorem released_cons_done (hx : done x = true) :
    released done value base (x :: items) = released done value (value x) items := by
  simp only [released, List.takeWhile_cons, hx, ↓reduceIte]
  cases items.takeWhile done with
  | nil => rfl
  | cons y ys => simp [List.getLast?_eq_some_getLast]

theorem released_cons_open (hx : done x = false) :
    released done value base (x :: items) = base := by
  simp [released, hx]

theorem released_of_isEmpty (h : (items.takeWhile done).isEmpty = true) :
    released done value base items = base := by
  rw [released, List.isEmpty_iff.1 h]
  rfl

theorem released_eq (done : α → Bool) (value : α → β) (base : β) (items : List α) :
    released done value base items = base ∨
      ∃ x ∈ items, released done value base items = value x := by
  induction items generalizing base with
  | nil => exact .inl rfl
  | cons x items ih =>
    cases hx : done x with
    | false => exact .inl (released_cons_open hx)
    | true =>
      rw [released_cons_done hx]
      rcases ih (value x) with h | ⟨y, hy, h⟩
      · exact .inr ⟨x, List.mem_cons_self, h⟩
      · exact .inr ⟨y, List.mem_cons_of_mem _ hy, h⟩

/-- Releasing more after the prefix was dropped reaches what releasing all at once reaches. -/
theorem released_dropWhile (h : ∀ x, done x = true → later x = true) :
    released later value (released done value base items) (items.dropWhile done) =
      released later value base items := by
  induction items generalizing base with
  | nil => rfl
  | cons x items ih =>
    cases hx : done x with
    | true =>
      rw [released_cons_done hx, released_cons_done (h x hx), List.dropWhile_cons_of_pos hx]
      exact ih
    | false => rw [released_cons_open hx, List.dropWhile_cons_of_neg (by simp [hx])]

theorem dropWhile_dropWhile {done later : α → Bool}
    (h : ∀ x, done x = true → later x = true) (items : List α) :
    (items.dropWhile done).dropWhile later = items.dropWhile later := by
  induction items with
  | nil => rfl
  | cons x items ih =>
    cases hx : done x with
    | true =>
      rw [List.dropWhile_cons_of_pos hx, List.dropWhile_cons_of_pos (h x hx)]
      exact ih
    | false => rw [List.dropWhile_cons_of_neg (by simp [hx])]

theorem released_snoc_open (hx : done x = false) :
    released done value base (items ++ [x]) = released done value base items := by
  induction items generalizing base with
  | nil => exact released_cons_open hx
  | cons y items ih =>
    cases hy : done y with
    | true => rw [List.cons_append, released_cons_done hy, released_cons_done hy, ih]
    | false => rw [List.cons_append, released_cons_open hy, released_cons_open hy]

theorem dropWhile_snoc_open {done : α → Bool} (hx : done x = false) (items : List α) :
    (items ++ [x]).dropWhile done = items.dropWhile done ++ [x] := by
  induction items with
  | nil => simp [hx]
  | cons y items ih =>
    cases hy : done y with
    | true =>
      rw [List.cons_append, List.dropWhile_cons_of_pos hy, List.dropWhile_cons_of_pos hy, ih]
    | false =>
      rw [List.cons_append, List.dropWhile_cons_of_neg (by simp [hy]),
        List.dropWhile_cons_of_neg (by simp [hy]), List.cons_append]

theorem released_map (f : γ → α) (items : List γ) :
    released done value base (items.map f) = released (done ∘ f) (value ∘ f) base items := by
  simp only [released, List.takeWhile_map, List.getLast?_map, Option.map_map]

theorem released_congr (h : ∀ x ∈ items, done x = later x) :
    released done value base items = released later value base items := by
  induction items generalizing base with
  | nil => rfl
  | cons x items ih =>
    have hx := h x List.mem_cons_self
    cases hd : done x with
    | true =>
      rw [released_cons_done hd, released_cons_done (hx ▸ hd)]
      exact ih fun y hy => h y (List.mem_cons_of_mem _ hy)
    | false => rw [released_cons_open hd, released_cons_open (hx ▸ hd)]

theorem dropWhile_congr {done later : α → Bool} {items : List α}
    (h : ∀ x ∈ items, done x = later x) :
    items.dropWhile done = items.dropWhile later := by
  induction items with
  | nil => rfl
  | cons x items ih =>
    rw [List.dropWhile_cons, List.dropWhile_cons, h x List.mem_cons_self,
      ih fun y hy => h y (List.mem_cons_of_mem _ hy)]

theorem mem_dropWhile_of_open {done : α → Bool} {items : List α} (h : x ∈ items)
    (hx : done x = false) :
    x ∈ items.dropWhile done := by
  rw [← List.takeWhile_append_dropWhile (p := done) (l := items), List.mem_append] at h
  refine h.resolve_left fun hmem => ?_
  simp [List.mem_takeWhile_imp hmem] at hx

/-- The last value is that of the last open item, or the released one if none is open. -/
theorem getLast?_dropWhile (done : α → Bool) (value : α → β) (base : β) (items : List α) :
    ((items.dropWhile done).getLast?.map value).getD (released done value base items) =
      (items.getLast?.map value).getD base := by
  induction items generalizing base with
  | nil => rfl
  | cons x items ih =>
    cases hx : done x with
    | true =>
      rw [List.dropWhile_cons_of_pos hx, released_cons_done hx, ih]
      cases items with
      | nil => rfl
      | cons y items => simp [List.getLast?_eq_some_getLast]
    | false =>
      rw [List.dropWhile_cons_of_neg (by simp [hx])]
      simp [List.getLast?_eq_some_getLast]

/-- What is left of an ordered queue is ordered behind the released value. -/
theorem pairwise_released {R : β → β → Prop} (done : α → Bool)
    (h : (base :: items.map value).Pairwise R) :
    (released done value base items :: (items.dropWhile done).map value).Pairwise R := by
  induction items generalizing base with
  | nil => simp
  | cons x items ih =>
    cases hx : done x with
    | true =>
      rw [released_cons_done hx, List.dropWhile_cons_of_pos hx]
      exact ih (List.pairwise_cons.1 h).2
    | false =>
      rw [released_cons_open hx, List.dropWhile_cons_of_neg (by simp [hx])]
      exact h

theorem key_le_released [LinearOrder κ] (key : β → κ) (done : α → Bool)
    (h : (base :: items.map value).Pairwise fun a b => key a < key b) :
    key base ≤ key (released done value base items) := by
  induction items generalizing base with
  | nil => exact le_refl _
  | cons x items ih =>
    cases hx : done x with
    | true =>
      rw [released_cons_done hx]
      obtain ⟨hbase, hrest⟩ := List.pairwise_cons.1 h
      exact (hbase (value x) List.mem_cons_self).le.trans (ih hrest)
    | false => rw [released_cons_open hx]

/-- In a queue of strictly growing keys, no key at or below the released one is open. -/
theorem done_of_key_le [LinearOrder κ] (key : β → κ)
    (hsort : (base :: items.map value).Pairwise fun a b => key a < key b)
    (hx : x ∈ items) (hle : key (value x) ≤ key (released done value base items)) :
    done x = true := by
  induction items generalizing base with
  | nil => cases hx
  | cons y items ih =>
    rw [List.map_cons, List.pairwise_cons] at hsort
    obtain ⟨hbase, hrest⟩ := hsort
    cases hy : done y with
    | true =>
      rcases List.mem_cons.1 hx with rfl | hx
      · exact hy
      · exact ih hrest hx (by rwa [released_cons_done hy] at hle)
    | false =>
      rw [released_cons_open hy] at hle
      have hlt := hbase (value x) (by
        rw [← List.map_cons]
        exact List.mem_map_of_mem hx)
      exact absurd hle (not_le.2 hlt)

end RustDcp.AckQueue
