import Mathlib.Logic.Function.Basic
import Mathlib.Data.List.Induction
import Mathlib.Order.Basic

namespace RustDcp.Watermark
set_option autoImplicit true

/-- An event at or below the level is ignored, and one that takes effect sets the level. -/
structure Deduplicates [Preorder τ] (level : σ → τ) (stamp : ε → τ) (apply : σ → ε → σ) :
    Prop where
  old : ∀ s e, stamp e ≤ level s → apply s e = s
  new : ∀ s e, apply s e = s ∨ level (apply s e) = stamp e

structure Shuffle (ν σ : Type) where
  positions : ν → Nat
  state : σ

variable {ν σ : Type} [DecidableEq ν]

def deliver (apply : σ → ε → σ) (history : List ε) (self : Shuffle ν σ) (source : ν) :
    Shuffle ν σ :=
  match history[self.positions source]? with
  | some event => {
      positions := Function.update self.positions source (self.positions source + 1)
      state := apply self.state event }
  | none => self

def deliverAll (apply : σ → ε → σ) (history : List ε) (s : σ) (schedule : List ν) : Shuffle ν σ :=
  schedule.foldl (deliver apply history) { positions := fun _ => 0, state := s }

theorem deliverAll_snoc (apply : σ → ε → σ) (history : List ε) (s : σ) (schedule : List ν)
    (source : ν) :
    deliverAll apply history s (schedule ++ [source]) =
      deliver apply history (deliverAll apply history s schedule) source := by
  rw [deliverAll, List.foldl_append]
  rfl

theorem foldl_take_succ {apply : σ → ε → σ} {history : List ε} (h : history[n]? = some event) :
    (history.take (n + 1)).foldl apply s = apply ((history.take n).foldl apply s) event := by
  rw [List.take_add_one, h, List.foldl_append]
  rfl

/-- The longest delivered beginning of the history has been applied once. -/
structure Converged (apply : σ → ε → σ) (history : List ε) (s : σ) (longest : Nat)
    (shuffle : Shuffle ν σ) : Prop where
  length : longest ≤ history.length
  bound : ∀ source, shuffle.positions source ≤ longest
  reached : longest = 0 ∨ ∃ source, shuffle.positions source = longest
  state : shuffle.state = (history.take longest).foldl apply s

section

variable [Preorder τ] {level : σ → τ} {stamp : ε → τ} {apply : σ → ε → σ} {history : List ε}

theorem Deduplicates.level_le (h : Deduplicates level stamp apply) (s : σ) (e : ε)
    (htotal : stamp e ≤ level s ∨ level s ≤ stamp e) : level s ≤ level (apply s e) := by
  rcases htotal with hold | hnew
  · rw [h.old s e hold]
  · rcases h.new s e with hsame | hlevel
    · rw [hsame]
    · rw [hlevel]
      exact hnew

/-- An event that was applied or refused before changes nothing. -/
theorem Deduplicates.absorbs (h : Deduplicates level stamp apply)
    (hsorted : history.Pairwise fun a b => stamp a < stamp b)
    {j n : Nat} (hn : n ≤ history.length) (hj : j < n) (he : history[j]? = some e) :
    apply ((history.take n).foldl apply s) e = (history.take n).foldl apply s := by
  -- induction on the applied beginning: its last event took effect, or the state is the one before
  induction n with
  | zero => exact absurd hj (Nat.not_lt_zero j)
  | succ n ih =>
    have hlast : history[n]? = some history[n] := List.getElem?_eq_getElem hn
    rw [foldl_take_succ hlast]
    rcases Nat.lt_succ_iff_lt_or_eq.1 hj with hlt | rfl
    · rcases h.new ((history.take n).foldl apply s) history[n] with hsame | hlevel
      · rw [hsame]
        exact ih (Nat.le_of_succ_le hn) hlt
      · apply h.old
        rw [hlevel]
        obtain ⟨hjlen, rfl⟩ := List.getElem?_eq_some_iff.1 he
        exact (List.pairwise_iff_getElem.1 hsorted j n hjlen hn hlt).le
    · cases hlast.symm.trans he
      rcases h.new ((history.take j).foldl apply s) history[j] with hsame | hlevel
      · rw [hsame, hsame]
      · exact h.old _ _ hlevel.ge

theorem Converged.deliver {shuffle : Shuffle ν σ} (h : Deduplicates level stamp apply)
    (hsorted : history.Pairwise fun a b => stamp a < stamp b)
    (hconverged : Converged apply history s longest shuffle) (source : ν) :
    ∃ longest', longest ≤ longest' ∧
      Converged apply history s longest' (deliver apply history shuffle source) := by
  rw [Watermark.deliver]
  cases hevent : history[shuffle.positions source]? with
  | none => exact ⟨longest, Nat.le_refl _, hconverged⟩
  | some event =>
    obtain ⟨hlt, -⟩ := List.getElem?_eq_some_iff.1 hevent
    have hother : ∀ other, other ≠ source → Function.update shuffle.positions source
        (shuffle.positions source + 1) other = shuffle.positions other :=
      fun other hne => Function.update_of_ne hne _ _
    have hown : Function.update shuffle.positions source (shuffle.positions source + 1) source =
        shuffle.positions source + 1 := Function.update_self _ _ _
    rcases Nat.lt_or_eq_of_le (hconverged.bound source) with hbehind | hfront
    · refine ⟨longest, Nat.le_refl _, hconverged.length, ?_, ?_, ?_⟩
      · intro other
        by_cases hne : other = source
        · rw [hne]
          exact hown.trans_le hbehind
        · exact (hother other hne).trans_le (hconverged.bound other)
      · obtain hzero | ⟨other, hreached⟩ := hconverged.reached
        · exact .inl hzero
        · refine .inr ⟨other, (hother other ?_).trans hreached⟩
          rintro rfl
          exact absurd hreached (Nat.ne_of_lt hbehind)
      · change apply shuffle.state event = _
        rw [hconverged.state]
        exact h.absorbs hsorted hconverged.length hbehind hevent
    · refine ⟨longest + 1, Nat.le_succ _, hfront ▸ hlt, ?_, .inr ⟨source, ?_⟩, ?_⟩
      · intro other
        by_cases hne : other = source
        · rw [hne]
          exact Nat.le_of_eq (hown.trans (by rw [hfront]))
        · exact (hother other hne).trans_le (Nat.le_succ_of_le (hconverged.bound other))
      · exact hown.trans (by rw [hfront])
      · change apply shuffle.state event = _
        rw [hconverged.state, foldl_take_succ (hfront ▸ hevent)]

theorem converges (h : Deduplicates level stamp apply)
    (hsorted : history.Pairwise fun a b => stamp a < stamp b) (s : σ) (schedule : List ν) :
    ∃ longest, Converged apply history s longest (deliverAll apply history s schedule) := by
  induction schedule using List.reverseRecOn with
  | nil => exact ⟨0, Nat.zero_le _, fun _ => Nat.le_refl _, .inl rfl, rfl⟩
  | append_singleton schedule source ih =>
    obtain ⟨longest, hconverged⟩ := ih
    obtain ⟨longest', -, hnext⟩ := hconverged.deliver h hsorted source
    rw [deliverAll_snoc]
    exact ⟨longest', hnext⟩

omit [Preorder τ] in
theorem deliverAll_invariant {P : σ → Prop} (hstep : ∀ s e, P s → P (apply s e)) (hs : P s)
    (schedule : List ν) : P (deliverAll apply history s schedule).state := by
  induction schedule using List.reverseRecOn with
  | nil => exact hs
  | append_singleton schedule source ih =>
    rw [deliverAll_snoc, deliver]
    cases history[(deliverAll apply history s schedule).positions source]? with
    | none => exact ih
    | some event => exact hstep _ _ ih

end

end RustDcp.Watermark
