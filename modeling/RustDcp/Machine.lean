import Mathlib

namespace RustDcp.Machine
set_option autoImplicit true

/-- Run a list of actions. `step s a = none` means that `a` is not enabled in `s`. -/
def run (step : σ → α → Option σ) : σ → List α → Option σ
  | s, [] => some s
  | s, a :: acts => (step s a).bind fun t => run step t acts

@[simp] theorem run_nil (step : σ → α → Option σ) (s : σ) : run step s [] = some s := rfl

theorem run_cons_iff {step : σ → α → Option σ} :
    run step s (a :: acts) = some u ↔ ∃ t, step s a = some t ∧ run step t acts = some u := by
  simp only [run, Option.bind_eq_some_iff]

theorem run_append {step : σ → α → Option σ} :
    run step s (acts ++ more) = some u ↔
      ∃ t, run step s acts = some t ∧ run step t more = some u := by
  induction acts generalizing s with
  | nil => simp only [List.nil_append, run_nil, Option.some.injEq, exists_eq_left']
  | cons a acts ih =>
    simp only [List.cons_append, run_cons_iff, ih]
    constructor
    · rintro ⟨t, ht, v, hv, hu⟩
      exact ⟨v, ⟨t, ht, hv⟩, hu⟩
    · rintro ⟨v, ⟨t, ht, hv⟩, hu⟩
      exact ⟨t, ht, v, hv, hu⟩

theorem run_snoc {step : σ → α → Option σ} :
    run step s (acts ++ [a]) = some u ↔ ∃ t, run step s acts = some t ∧ step t a = some u := by
  simp only [run_append, run_cons_iff, run_nil, Option.some.injEq, exists_eq_right]

theorem run_invariant {step : σ → α → Option σ} {P : σ → Prop}
    (hstep : ∀ s a t, P s → step s a = some t → P t)
    (hs : P s) (hr : run step s acts = some u) : P u := by
  induction acts generalizing s with
  | nil =>
    cases hr
    exact hs
  | cons a acts ih =>
    obtain ⟨t, ht, hu⟩ := run_cons_iff.1 hr
    exact ih (hstep s a t hs ht) hu

/-- The steps of another machine, each matched by a run, give a run. -/
theorem run_of_simulation {step : σ → α → Option σ} {R : τ → τ → Prop} {Sim : τ → σ → Prop}
    (hstep : ∀ c d s, Sim c s → R c d → ∃ acts t, run step s acts = some t ∧ Sim d t)
    (hs : Sim c s) (hr : Relation.ReflTransGen R c d) :
    ∃ acts t, run step s acts = some t ∧ Sim d t := by
  induction hr with
  | refl => exact ⟨[], s, rfl, hs⟩
  | tail _ hlast ih =>
    obtain ⟨acts, t, ht, hsim⟩ := ih
    obtain ⟨more, u, hu, hsim⟩ := hstep _ _ t hsim hlast
    exact ⟨acts ++ more, u, run_append.2 ⟨t, ht, hu⟩, hsim⟩

/-- The invariant rule for properties that also look back at the actions taken. -/
theorem run_history {step : σ → α → Option σ} {P : List α → σ → Prop} (h0 : P [] s)
    (hstep : ∀ acts t a u, run step s acts = some t → P acts t → step t a = some u →
      P (acts ++ [a]) u)
    (hr : run step s acts = some u) : P acts u := by
  induction acts using List.reverseRecOn generalizing u with
  | nil =>
    cases hr
    exact h0
  | append_singleton acts a ih =>
    obtain ⟨t, ht, hu⟩ := run_snoc.1 hr
    exact hstep acts t a u ht (ih ht) hu

/-- `P` held at some instant of the run that starts in `s` and takes `acts`. -/
def Visited (step : σ → α → Option σ) (s : σ) (acts : List α) (P : σ → Prop) : Prop :=
  ∃ pre, pre <+: acts ∧ ∃ t, run step s pre = some t ∧ P t

theorem Visited.last {step : σ → α → Option σ} (hr : run step s acts = some u) (h : P u) :
    Visited step s acts P :=
  ⟨acts, List.prefix_refl _, u, hr, h⟩

theorem Visited.extend {step : σ → α → Option σ} (h : Visited step s acts P) (more : List α) :
    Visited step s (acts ++ more) P := by
  obtain ⟨pre, hpre, t, ht, hP⟩ := h
  exact ⟨pre, hpre.trans (List.prefix_append _ _), t, ht, hP⟩

/-- Every step that the run from `s` takes meets the condition `allow`. -/
def Allowed (step : σ → α → Option σ) (allow : σ → α → Prop) : σ → List α → Prop
  | _, [] => True
  | s, a :: acts => allow s a ∧
      match step s a with
      | none => True
      | some t => Allowed step allow t acts

instance decidableAllowed (step : σ → α → Option σ) (allow : σ → α → Prop)
    [∀ s a, Decidable (allow s a)] : ∀ s acts, Decidable (Allowed step allow s acts)
  | _, [] => isTrue trivial
  | s, a :: acts =>
    match h : step s a with
    | none => decidable_of_iff (allow s a) (by simp only [Allowed, h, and_true])
    | some t =>
      have : Decidable (Allowed step allow t acts) := decidableAllowed step allow t acts
      decidable_of_iff (allow s a ∧ Allowed step allow t acts) (by simp only [Allowed, h])

theorem allowed_cons {step : σ → α → Option σ} (ht : step s a = some t) :
    Allowed step allow s (a :: acts) ↔ allow s a ∧ Allowed step allow t acts := by
  simp only [Allowed, ht]

theorem allowed_append {step : σ → α → Option σ} (hr : run step s acts = some t) :
    Allowed step allow s (acts ++ more) ↔
      Allowed step allow s acts ∧ Allowed step allow t more := by
  induction acts generalizing s with
  | nil =>
    cases hr
    simp only [List.nil_append, Allowed, true_and]
  | cons a acts ih =>
    obtain ⟨v, hv, ht⟩ := run_cons_iff.1 hr
    rw [List.cons_append, allowed_cons hv, allowed_cons hv, ih ht, and_assoc]

theorem allowed_singleton {step : σ → α → Option σ} :
    Allowed step allow s [a] ↔ allow s a := by
  simp only [Allowed]
  split <;> simp only [and_true]

/-- Under an invariant that the condition keeps, one condition on the steps gives another. -/
theorem allowed_mono {step : σ → α → Option σ} {allow allow' : σ → α → Prop} {P : σ → Prop}
    (hstep : ∀ s a t, P s → allow s a → step s a = some t → P t)
    (himp : ∀ s a, P s → allow s a → allow' s a) (hs : P s)
    (ha : Allowed step allow s acts) : Allowed step allow' s acts := by
  induction acts generalizing s with
  | nil => trivial
  | cons a acts ih =>
    obtain ⟨hal, hrest⟩ := ha
    refine ⟨himp s a hs hal, ?_⟩
    cases ht : step s a with
    | none => trivial
    | some t =>
      rw [ht] at hrest
      exact ih (hstep s a t hs hal ht) hrest

/-- The invariant rule for runs whose steps all meet a condition. -/
theorem run_invariant_allowed {step : σ → α → Option σ} {allow : σ → α → Prop}
    {P : σ → Prop} (hstep : ∀ s a t, P s → allow s a → step s a = some t → P t)
    (hs : P s) (hr : run step s acts = some u) (ha : Allowed step allow s acts) : P u := by
  induction acts generalizing s with
  | nil =>
    cases hr
    exact hs
  | cons a acts ih =>
    obtain ⟨t, ht, hu⟩ := run_cons_iff.1 hr
    obtain ⟨hal, hrest⟩ := (allowed_cons ht).1 ha
    exact ih (hstep s a t hs hal ht) hu hrest

theorem run_history_allowed {step : σ → α → Option σ} {allow : σ → α → Prop}
    {P : List α → σ → Prop} (h0 : P [] s)
    (hstep : ∀ acts t a u, run step s acts = some t → P acts t → allow t a → step t a = some u →
      P (acts ++ [a]) u)
    (hr : run step s acts = some u) (ha : Allowed step allow s acts) : P acts u := by
  induction acts using List.reverseRecOn generalizing u with
  | nil =>
    cases hr
    exact h0
  | append_singleton acts a ih =>
    obtain ⟨t, ht, hu⟩ := run_snoc.1 hr
    obtain ⟨hbefore, hlast⟩ := (allowed_append ht).1 ha
    exact hstep acts t a u ht (ih ht hbefore) (allowed_singleton.1 hlast) hu

end RustDcp.Machine
