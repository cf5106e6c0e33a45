import RustDcp.Mitigation

namespace RustDcp.Mitigation
set_option autoImplicit true

/-- The outcome takes back what an earlier batch allowed. -/
def PartitionState.Withdraws (self : PartitionState) : Option ObservationOutcome → Prop
  | some (.branchChanged _) => True
  | some (.persisted vbucketUuid n) =>
    vbucketUuid ≠ self.expectedVbucketUuid ∨ ∃ previous ∈ self.persistedSeqno, n < previous
  | some (.transient _) | none => False

inductive PartitionState.Applied (s : PartitionState) :
    Option ObservationOutcome → PartitionState → Prop where
  | accepted (hle : ∀ previous ∈ s.persistedSeqno, previous ≤ n) :
      Applied s (some (.persisted s.expectedVbucketUuid n))
        { s with persistedSeqno := some n, lastError := none }
  | kept (h : outcome = none ∨ ∃ message, outcome = some (.transient message)) :
      Applied s outcome { s with lastError := some message }
  | withdrawn (h : s.Withdraws outcome) :
      Applied s outcome { s with persistedSeqno := none, lastError := some message }

namespace PartitionState

theorem apply_applied (s : PartitionState) (outcome : Option ObservationOutcome) :
    Applied s outcome (s.apply outcome) := by
  cases outcome with
  | none => exact .kept (.inl rfl)
  | some outcome =>
    cases outcome with
    | transient message => exact .kept (.inr ⟨message, rfl⟩)
    | branchChanged observed => exact .withdrawn trivial
    | persisted vbucketUuid n =>
      simp only [apply]
      split
      · rename_i hbranch
        exact .withdrawn (.inl hbranch)
      · rename_i hbranch
        rw [not_not] at hbranch
        subst hbranch
        split
        · rename_i previous hprevious
          obtain ⟨hsome, hlt⟩ := Option.filter_eq_some_iff.1 hprevious
          exact .withdrawn (.inr ⟨previous, hsome, of_decide_eq_true hlt⟩)
        · rename_i hnone
          refine .accepted fun previous hprevious => ?_
          have hlt := Option.filter_eq_none_iff.1 hnone previous hprevious
          simpa using hlt

theorem Applied.expected (h : Applied s outcome t) :
    t.expectedVbucketUuid = s.expectedVbucketUuid := by
  cases h <;> rfl

theorem Applied.watermark_le (h : Applied s outcome t) (hp : s.persistedSeqno = some p)
    (hq : t.persistedSeqno = some q) : p ≤ q := by
  cases h with
  | accepted hle =>
    cases hq
    exact hle p hp
  | kept _ => exact (Option.some.inj (hp.symm.trans hq)).le
  | withdrawn _ => cases hq

theorem Applied.withdraws (h : Applied s outcome t) (hout : s.Withdraws outcome) :
    t.persistedSeqno = none := by
  cases h with
  | accepted hle =>
    rcases hout with hbranch | ⟨previous, hprevious, hlt⟩
    · exact absurd rfl hbranch
    · exact absurd (hle previous hprevious) (by omega)
  | kept hkept =>
    rcases hkept with rfl | ⟨message, rfl⟩
    · exact hout.elim
    · exact hout.elim
  | withdrawn _ => rfl

end PartitionState

/-- The outcomes keep a permission for `p` on the branch: each is omitted, transient or a persisted
value that is not below the one accepted before it. -/
def Keeps (expected : Nat) : Nat → List (Option ObservationOutcome) → Prop
  | _, [] => True
  | p, none :: rest | p, some (.transient _) :: rest => Keeps expected p rest
  | p, some (.persisted vbucketUuid n) :: rest =>
    vbucketUuid = expected ∧ p ≤ n ∧ Keeps expected n rest
  | _, some (.branchChanged _) :: _ => False

/-- Where the watermark comes from: the last accepted outcome, with nothing but gaps after it. -/
def Granted (expected p : Nat) (outcomes : List (Option ObservationOutcome)) : Prop :=
  ∃ before after, outcomes = before ++ some (.persisted expected p) :: after ∧
    ∀ outcome ∈ after, outcome = none ∨ ∃ message, outcome = some (.transient message)

theorem Keeps.of_gaps (expected p : Nat) {outcomes : List (Option ObservationOutcome)}
    (h : ∀ outcome ∈ outcomes, outcome = none ∨ ∃ message, outcome = some (.transient message)) :
    Keeps expected p outcomes := by
  induction outcomes with
  | nil => trivial
  | cons outcome outcomes ih =>
    obtain ⟨hhead, htail⟩ := List.forall_mem_cons.1 h
    rcases hhead with rfl | ⟨message, rfl⟩
    · exact ih htail
    · exact ih htail

theorem PartitionState.Applied.granted (h : Applied s outcome t)
    (hs : ∀ p, s.persistedSeqno = some p → Granted s.expectedVbucketUuid p outcomes) :
    ∀ p, t.persistedSeqno = some p → Granted t.expectedVbucketUuid p (outcomes ++ [outcome]) := by
  intro p hp
  cases h with
  | accepted hle =>
    cases hp
    exact ⟨outcomes, [], rfl, by simp⟩
  | kept hgap =>
    obtain ⟨before, after, rfl, hafter⟩ := hs p hp
    refine ⟨before, after ++ [outcome], by simp, ?_⟩
    intro other hother
    rcases List.mem_append.1 hother with hother | hother
    · exact hafter other hother
    · rw [List.mem_singleton.1 hother]
      exact hgap
  | withdrawn _ => cases hp

namespace Mitigator

def outcomes (v : UInt16) (applied : List ObservationBatch) : List (Option ObservationOutcome) :=
  applied.map (·[v]?)

/-- The batches from number `first` on account for every watermark. -/
structure Accounts (branches : BTreeMap UInt16 Nat) (v : UInt16) (first : Nat) (t : Mitigator) :
    Prop where
  covered : first ≤ t.applied.length
  expected : ∀ state, t.snapshot.partitions[v]? = some state →
    branches[v]? = some state.expectedVbucketUuid
  granted : ∀ state, t.snapshot.partitions[v]? = some state → ∀ p,
    state.persistedSeqno = some p →
    Granted state.expectedVbucketUuid p (outcomes v (t.applied.drop first))

theorem start_accounts (h : MitigationSnapshot.new branches = .ok snap) (maximumStall : Duration)
    (v : UInt16) : Accounts branches v 0 (start maximumStall snap) := by
  rw [MitigationSnapshot.new] at h
  split at h
  · cases h
  · cases h
    refine ⟨Nat.zero_le _, fun state hstate => ?_, fun state hstate p hp => ?_⟩
    · simp only [start, Std.ExtTreeMap.getElem?_map, Option.map_eq_some_iff] at hstate
      obtain ⟨expected, hexpected, rfl⟩ := hstate
      exact hexpected
    · simp only [start, Std.ExtTreeMap.getElem?_map, Option.map_eq_some_iff] at hstate
      obtain ⟨expected, -, rfl⟩ := hstate
      cases hp

theorem getElem?_apply (self : MitigationSnapshot) (batch : ObservationBatch) (v : UInt16) :
    (self.apply batch).partitions[v]? = self.partitions[v]?.map fun state =>
      state.apply batch[v]? := by
  simp only [MitigationSnapshot.apply, Std.ExtTreeMap.getElem?_map]

theorem step_observe {s : Mitigator} (h : s.step (.observe batch) = some t) :
    t.snapshot = s.snapshot.apply batch ∧ t.applied = s.applied ++ [batch] := by
  simp only [step] at h
  split at h
  · cases h
    exact ⟨rfl, rfl⟩
  · cases h

theorem step_cases {s : Mitigator} (h : s.step action = some t) :
    (∃ batch, action = .observe batch ∧ t.snapshot = s.snapshot.apply batch ∧
      t.applied = s.applied ++ [batch]) ∨
    (t.snapshot = s.snapshot ∧ t.applied = s.applied) := by
  cases action with
  | observe batch => exact .inl ⟨batch, rfl, step_observe h⟩
  | stop =>
    cases h
    exact .inr ⟨rfl, rfl⟩
  | call vbucket seqno =>
    cases h
    exact .inr ⟨rfl, rfl⟩
  | poll i expired =>
    simp only [step] at h
    split at h
    · cases h
      exact .inr ⟨rfl, rfl⟩
    · cases h
  | wake i =>
    simp only [step] at h
    split at h
    · split at h
      · cases h
      · cases h
        exact .inr ⟨rfl, rfl⟩
    · cases h

theorem step_accounts (h : Accounts branches v first s) (hstep : s.step action = some t) :
    Accounts branches v first t := by
  rcases step_cases hstep with ⟨batch, -, hsnapshot, happlied⟩ | ⟨hsnapshot, happlied⟩
  · have hdrop : outcomes v (t.applied.drop first) =
        outcomes v (s.applied.drop first) ++ [batch[v]?] := by
      rw [happlied, List.drop_append_of_le_length h.covered, outcomes, List.map_append]
      rfl
    refine ⟨?_, fun state hstate => ?_, fun state hstate => ?_⟩
    · rw [happlied, List.length_append]
      exact h.covered.trans (Nat.le_add_right _ _)
    · rw [hsnapshot, getElem?_apply, Option.map_eq_some_iff] at hstate
      obtain ⟨old, hold, rfl⟩ := hstate
      rw [(old.apply_applied batch[v]?).expected]
      exact h.expected old hold
    · rw [hsnapshot, getElem?_apply, Option.map_eq_some_iff] at hstate
      obtain ⟨old, hold, rfl⟩ := hstate
      rw [hdrop]
      exact (old.apply_applied batch[v]?).granted (h.granted old hold)
  · refine ⟨happlied ▸ h.covered, fun state hstate => ?_, fun state hstate => ?_⟩
    · exact h.expected state (hsnapshot ▸ hstate)
    · rw [happlied]
      exact h.granted state (hsnapshot ▸ hstate)

theorem waitRound_ok {t : Mitigator}
    (h : t.waitRound v n delayed expired = .returned v n (.ok result)) :
    ∃ state p, t.snapshot.partitions[v]? = some state ∧ state.persistedSeqno = some p ∧ n ≤ p := by
  rw [waitRound] at h
  split at h
  · cases h
  · rename_i state hstate
    split at h
    · rename_i hsafe
      cases hp : state.persistedSeqno with
      | none =>
        rw [hp] at hsafe
        cases hsafe
      | some p => exact ⟨state, p, hstate, hp, by simpa [hp] using hsafe⟩
    · split at h <;> cases h

/-- The round of call `i` that takes `t` to `u` returns `Ok` for the vBucket and the seqno. -/
def Returns (t : Mitigator) (v : UInt16) (n : Nat) (u : Mitigator) : Prop :=
  ∃ i expired delayed result, t.step (.poll i expired) = some u ∧
    t.calls[i]? = some (.waiting v n delayed) ∧ u.calls[i]? = some (.returned v n (.ok result))

theorem Returns.granted (h : Returns t v n u) (haccounts : Accounts branches v first t) :
    ∃ expected p before batch after, branches[v]? = some expected ∧
      t.applied.drop first = before ++ batch :: after ∧
      batch[v]? = some (.persisted expected p) ∧ n ≤ p ∧ Keeps expected p (outcomes v after) := by
  obtain ⟨i, expired, delayed, result, hstep, hwaiting, hreturned⟩ := h
  simp only [step, hwaiting, Option.some.injEq] at hstep
  subst hstep
  have hround : t.waitRound v n delayed expired = .returned v n (.ok result) := by
    rw [List.getElem?_set_self (List.getElem?_eq_some_iff.1 hwaiting).1] at hreturned
    exact Option.some.inj hreturned
  obtain ⟨state, p, hstate, hp, hle⟩ := waitRound_ok hround
  obtain ⟨before, after, hsplit, hgaps⟩ := haccounts.granted state hstate p hp
  obtain ⟨pre, rest, hdrop, -, hrest⟩ := List.map_eq_append_iff.1 hsplit
  obtain ⟨batch, tail, rfl, hbatch, htail⟩ := List.map_eq_cons_iff.1 hrest
  refine ⟨_, p, pre, batch, tail, haccounts.expected state hstate, hdrop, hbatch, hle, ?_⟩
  rw [outcomes, htail]
  exact .of_gaps _ p hgaps

/-- A call of `wait_until_safe` returns `Ok` only by a batch that persisted its seqno on the
expected branch and that nothing has taken back since; a withdrawn permission needs a later batch,
and the watermark never decreases while it is present. -/
theorem wait_until_safe_granted {stall : Duration}
    (hnew : MitigationSnapshot.new branches = .ok snap)
    (hrun : Machine.run step (start stall snap) acts = some t) :
    (∀ v n u, Returns t v n u → ∃ expected p before batch after, branches[v]? = some expected ∧
      t.applied = before ++ batch :: after ∧ batch[v]? = some (.persisted expected p) ∧ n ≤ p ∧
      Keeps expected p (outcomes v after)) ∧
    (∀ (v : UInt16) state batch t' later t'' n u, t.snapshot.partitions[v]? = some state →
      state.Withdraws batch[v]? → t.step (.observe batch) = some t' →
      Machine.run step t' later = some t'' → Returns t'' v n u →
      ∃ expected p since, branches[v]? = some expected ∧
        since ∈ t''.applied.drop t'.applied.length ∧
        since[v]? = some (.persisted expected p) ∧ n ≤ p) ∧
    ∀ (v : UInt16) state action u state' p q, t.snapshot.partitions[v]? = some state →
      t.step action = some u → u.snapshot.partitions[v]? = some state' →
      state.persistedSeqno = some p → state'.persistedSeqno = some q → p ≤ q := by
  have haccounts : ∀ v, Accounts branches v 0 t := fun v =>
    Machine.run_invariant (fun _ _ _ h hstep => step_accounts h hstep)
      (start_accounts hnew stall v) hrun
  refine ⟨fun v n u hreturns => ?_, ?_, ?_⟩
  · obtain ⟨expected, p, before, batch, after, hbranch, hdrop, hrest⟩ :=
      hreturns.granted (haccounts v)
    exact ⟨expected, p, before, batch, after, hbranch, hdrop, hrest⟩
  · intro v state batch t' later t'' n u hstate hwithdraws hobserve hlater hreturns
    have hfresh : Accounts branches v t'.applied.length t' := by
      refine ⟨le_refl _, (step_accounts (haccounts v) hobserve).expected, ?_⟩
      intro state' hstate' p hp
      rw [(step_observe hobserve).1, getElem?_apply, hstate, Option.map_some,
        Option.some.injEq] at hstate'
      rw [← hstate', (state.apply_applied batch[v]?).withdraws hwithdraws] at hp
      cases hp
    obtain ⟨expected, p, before, since, after, hbranch, hdrop, hsince, hle, -⟩ :=
      hreturns.granted
        (Machine.run_invariant (fun _ _ _ h hstep => step_accounts h hstep) hfresh hlater)
    refine ⟨expected, p, since, hbranch, ?_, hsince, hle⟩
    rw [hdrop]
    exact List.mem_append_right _ List.mem_cons_self
  · intro v state action u state' p q hstate hstep hstate' hp hq
    rcases step_cases hstep with ⟨batch, -, hsnapshot, -⟩ | ⟨hsnapshot, -⟩
    · rw [hsnapshot, getElem?_apply, hstate, Option.map_some, Option.some.injEq] at hstate'
      subst hstate'
      exact (state.apply_applied batch[v]?).watermark_le hp hq
    · rw [hsnapshot, hstate] at hstate'
      cases hstate'
      exact (Option.some.inj (hp.symm.trans hq)).le

def sampleBranches : BTreeMap UInt16 Nat := (∅ : BTreeMap UInt16 Nat).insert 7 77

def sampleBatch (outcome : ObservationOutcome) : ObservationBatch :=
  (∅ : ObservationBatch).insert 7 outcome

def sampleSnapshot : MitigationSnapshot :=
  { partitions := sampleBranches.map fun _ expectedVbucketUuid =>
      { expectedVbucketUuid, persistedSeqno := none, lastError := none } }

def sampleActs : List MitigatorAction :=
  [.call 7 5, .observe (sampleBatch (.persisted 77 6)), .observe (sampleBatch (.branchChanged 78)),
    .poll 0 false, .observe (sampleBatch (.persisted 77 5)),
    .observe (sampleBatch (.transient "slow"))]

theorem wait_until_safe_granted_sample : ∃ t u expected p before batch after,
    Machine.run step (start 1000 sampleSnapshot) sampleActs = some t ∧ Returns t 7 5 u ∧
    sampleBranches[(7 : UInt16)]? = some expected ∧ t.applied = before ++ batch :: after ∧
    batch[(7 : UInt16)]? = some (.persisted expected p) ∧ 5 ≤ p ∧
    Keeps expected p (outcomes 7 after) := by
  have hrun : (Machine.run step (start 1000 sampleSnapshot) sampleActs).map
      (fun t => (t.calls[0]?, (t.step (.poll 0 false)).map fun u => u.calls[0]?)) =
      some (some (.waiting 7 5 true), some (some (.returned 7 5 (.ok true)))) := by decide
  obtain ⟨t, ht, hseen⟩ := Option.map_eq_some_iff.1 hrun
  simp only [Prod.mk.injEq, Option.map_eq_some_iff] at hseen
  obtain ⟨hwaiting, u, hu, hreturned⟩ := hseen
  have hreturns : Returns t 7 5 u := ⟨0, false, true, true, hu, hwaiting, hreturned⟩
  have hnew : MitigationSnapshot.new sampleBranches = .ok sampleSnapshot := rfl
  obtain ⟨expected, p, before, batch, after, hgranted⟩ :=
    (wait_until_safe_granted hnew ht).1 7 5 u hreturns
  exact ⟨t, u, expected, p, before, batch, after, ht, hreturns, hgranted⟩

end Mitigator

end RustDcp.Mitigation
