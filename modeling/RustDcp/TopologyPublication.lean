import RustDcp.Topology

namespace RustDcp
set_option autoImplicit true

structure TopologySnapshot where
  generation : Nat
  topology : ClusterTopology
  deriving DecidableEq

def TopologyState.snapshot (self : TopologyState) : TopologySnapshot :=
  { generation := self.generation, topology := self.topology }

/-- Where one call of `apply_topology_candidate` stands. -/
inductive ApplyCall where
  | waiting (candidate : ClusterTopology)
  | holding (snapshot : TopologySnapshot)
  | finished (result : Result (Option TopologySnapshot))
  deriving DecidableEq

/-- What `apply_topology_candidate` does while it holds the lock. -/
def ApplyCall.locked (state : TopologyState) (candidate : ClusterTopology) :
    ApplyCall × TopologyState :=
  match state.apply candidate with
  | (.error error, state) => (.finished (.error error), state)
  | (.ok none, state) => (.finished (.ok none), state)
  | (.ok (some change), state) =>
    (.holding { generation := change.generation, topology := state.topology }, state)

def ApplyCall.held? : ApplyCall → Option TopologySnapshot
  | .holding snapshot => some snapshot
  | _ => none

theorem ApplyCall.locked_cases (state : TopologyState) (candidate : ClusterTopology) :
    (∃ result, ApplyCall.locked state candidate = (.finished result, state)) ∨
    ∃ after : TopologyState, after.generation = state.generation + 1 ∧
      ApplyCall.locked state candidate = (.holding after.snapshot, after) := by
  rw [locked]
  obtain ⟨-, change, hgen, h⟩ | ⟨-, result, h, hnone⟩ := state.apply_accepts candidate
  · rw [h]
    refine .inr ⟨{ generation := state.generation + 1, topology := candidate }, rfl, ?_⟩
    simp only [hgen, TopologyState.snapshot]
  · rw [h]
    match result with
    | .error error => exact .inl ⟨_, rfl⟩
    | .ok none => exact .inl ⟨_, rfl⟩
    | .ok (some change) => exact absurd rfl (hnone change)

/-- The locked topology state, the watch channel and the calls made so far. -/
structure Publication where
  state : TopologyState
  published : TopologySnapshot
  calls : List ApplyCall
  deriving DecidableEq

inductive PublicationAction where
  | call (candidate : ClusterTopology)
  | apply (i : Nat)
  | publish (i : Nat)
  deriving DecidableEq

namespace Publication

def start (topology : ClusterTopology) : Publication :=
  { state := .new topology, published := { generation := 1, topology }, calls := [] }

def step (self : Publication) : PublicationAction → Option Publication
  | .call candidate => some { self with calls := self.calls ++ [.waiting candidate] }
  | .apply i =>
    match self.calls[i]? with
    | some (.waiting candidate) =>
      let (call, state) := ApplyCall.locked self.state candidate
      some { self with state, calls := self.calls.set i call }
    | _ => none
  | .publish i =>
    match self.calls[i]? with
    | some (.holding snapshot) =>
      some { self with
        published := snapshot
        calls := self.calls.set i (.finished (.ok (some snapshot))) }
    | _ => none

def held? (self : Publication) (i : Nat) : Option TopologySnapshot :=
  self.calls[i]?.bind ApplyCall.held?

def Finished (self : Publication) : Prop := ∀ call ∈ self.calls, ∃ result, call = .finished result

theorem held?_eq_some {self : Publication} :
    self.held? i = some snap ↔ self.calls[i]? = some (.holding snap) := by
  rw [held?, Option.bind_eq_some_iff]
  constructor
  · rintro ⟨call, hcall, hheld⟩
    cases call with
    | holding other =>
      cases hheld
      exact hcall
    | waiting candidate => cases hheld
    | finished result => cases hheld
  · intro h
    exact ⟨_, h, rfl⟩

theorem Finished.held? {self : Publication} (h : self.Finished) : self.held? i = none := by
  cases hheld : self.held? i with
  | none => rfl
  | some snap =>
    obtain ⟨result, hcall⟩ := h _ (List.mem_of_getElem? (held?_eq_some.1 hheld))
    cases hcall

/-- What one step does to the locked state, the channel and the unpublished snapshots. -/
inductive Effect (s : Publication) : PublicationAction → Publication → Prop where
  | kept (hact : ∀ i, act ≠ .publish i) (hstate : t.state = s.state)
      (hpublished : t.published = s.published) (hheld : ∀ j, t.held? j = s.held? j) :
      Effect s act t
  | applied (hfree : s.held? i = none)
      (hstate : t.state.generation = s.state.generation + 1)
      (hpublished : t.published = s.published) (hheld : t.held? i = some t.state.snapshot)
      (hframe : ∀ j, j ≠ i → t.held? j = s.held? j) : Effect s (.apply i) t
  | published (hold : s.held? i = some t.published) (hstate : t.state = s.state)
      (hheld : t.held? i = none)
      (hframe : ∀ j, j ≠ i → t.held? j = s.held? j) : Effect s (.publish i) t

theorem held?_set {s t : Publication} (hcalls : t.calls = s.calls.set i call) (j : Nat)
    (hne : j ≠ i) : t.held? j = s.held? j := by
  rw [held?, held?, hcalls, List.getElem?_set_ne (Ne.symm hne)]

theorem held?_set_self {s t : Publication} (hcalls : t.calls = s.calls.set i call)
    (hi : s.calls[i]? = some old) : t.held? i = call.held? := by
  have hlt : i < s.calls.length := (List.getElem?_eq_some_iff.1 hi).1
  rw [held?, hcalls, List.getElem?_set_self hlt, Option.bind_some]

theorem held?_finished {s t : Publication} (hi : s.calls[i]? = some (.waiting candidate))
    (hcalls : t.calls = s.calls.set i (.finished result)) (j : Nat) : t.held? j = s.held? j := by
  by_cases hji : j = i
  · subst hji
    rw [held?_set_self hcalls hi, held?, hi]
    rfl
  · exact held?_set hcalls j hji

theorem step_effect (h : step s act = some t) : Effect s act t := by
  cases act with
  | call candidate =>
    cases h
    refine .kept (by simp only [ne_eq, reduceCtorEq, not_false_eq_true, implies_true]) rfl rfl
      fun j => ?_
    by_cases hlt : j < s.calls.length
    · rw [held?, held?, List.getElem?_append_left hlt]
    · have hend : s.held? j = none := by
        rw [held?, List.getElem?_eq_none (Nat.le_of_not_lt hlt), Option.bind_none]
      rw [hend, held?, List.getElem?_append_right (Nat.le_of_not_lt hlt)]
      cases j - s.calls.length <;> rfl
  | apply i =>
    simp only [step] at h
    split at h
    case h_2 => cases h
    case h_1 candidate hi =>
      obtain ⟨result, hlocked⟩ | ⟨after, hgen, hlocked⟩ := ApplyCall.locked_cases s.state candidate
      · rw [hlocked] at h
        cases h
        exact .kept (by simp only [ne_eq, reduceCtorEq, not_false_eq_true, implies_true]) rfl rfl
          (held?_finished hi rfl)
      · rw [hlocked] at h
        cases h
        have hfree : s.held? i = none := by
          rw [held?, hi]
          rfl
        refine .applied hfree hgen rfl ?_ (held?_set rfl)
        rw [held?_set_self rfl hi, ApplyCall.held?]
  | publish i =>
    simp only [step] at h
    split at h
    case h_2 => cases h
    case h_1 snap hi =>
      cases h
      refine .published (held?_eq_some.2 hi) rfl ?_ (held?_set rfl)
      rw [held?_set_self rfl hi]
      rfl

/-- The published generation does not decrease in this step. -/
def NeverBack (s : Publication) (act : PublicationAction) : Prop :=
  ∀ t ∈ step s act, s.published.generation ≤ t.published.generation

/-- A snapshot is published only while no call holds an older one. -/
def InOrder (s : Publication) : PublicationAction → Prop
  | .publish i => ∀ snap ∈ s.held? i, ∀ call ∈ s.calls, ∀ other ∈ call.held?,
      snap.generation ≤ other.generation
  | _ => True

instance : Decidable (NeverBack s act) :=
  inferInstanceAs (Decidable (∀ t ∈ step s act, _ ≤ _))

instance : (act : PublicationAction) → Decidable (InOrder s act)
  | .publish i => inferInstanceAs (Decidable (∀ snap ∈ s.held? i, ∀ call ∈ s.calls, _))
  | .call _ => isTrue trivial
  | .apply _ => isTrue trivial

theorem inOrder_publish {s : Publication} (hold : s.held? i = some snap) :
    InOrder s (.publish i) ↔
      ∀ j other, s.held? j = some other → snap.generation ≤ other.generation := by
  constructor
  · intro h j other hj
    exact h snap hold _ (List.mem_of_getElem? (held?_eq_some.1 hj)) other rfl
  · intro h snap' hsnap call hcall other hother
    cases hold.symm.trans hsnap
    obtain ⟨j, hj⟩ := List.getElem?_of_mem hcall
    refine h j other ?_
    rw [held?, hj]
    exact hother

/-- The unpublished snapshots lie ahead of the channel, and the current one is among them or out. -/
structure Ordered (s : Publication) : Prop where
  ahead : ∀ i snap, s.held? i = some snap →
    s.published.generation < snap.generation ∧ snap.generation ≤ s.state.generation
  distinct : ∀ i j snap other, s.held? i = some snap → s.held? j = some other →
    snap.generation = other.generation → i = j
  current : s.published = s.state.snapshot ∨ ∃ i, s.held? i = some s.state.snapshot

theorem start_ordered (topology : ClusterTopology) : (start topology).Ordered where
  ahead := by
    intro i snap h
    cases h
  distinct := by
    intro i j snap other h
    cases h
  current := .inl rfl

theorem Ordered.published_le (h : Ordered s) : s.published.generation ≤ s.state.generation := by
  cases h.current with
  | inl hcurrent => exact (congrArg TopologySnapshot.generation hcurrent).le
  | inr hheld =>
    obtain ⟨i, hi⟩ := hheld
    exact (h.ahead i _ hi).1.le

theorem Ordered.applied (hs : Ordered s) (hstate : t.state.generation = s.state.generation + 1)
    (hpublished : t.published = s.published) (hheld : t.held? i = some t.state.snapshot)
    (hframe : ∀ j, j ≠ i → t.held? j = s.held? j) : Ordered t where
  ahead := by
    intro j snap hj
    rw [hpublished]
    by_cases hji : j = i
    · subst hji
      cases hheld.symm.trans hj
      have hle := hs.published_le
      have hgen : t.state.snapshot.generation = t.state.generation := rfl
      omega
    · rw [hframe j hji] at hj
      have hbefore := hs.ahead j snap hj
      omega
  distinct := by
    -- Older snapshots do not exceed the generation that the state had before.
    have hold : ∀ k snap, k ≠ i → t.held? k = some snap →
        snap.generation < t.state.snapshot.generation := by
      intro k snap hk hsnap
      rw [hframe k hk] at hsnap
      have hle := (hs.ahead k snap hsnap).2
      have hgen : t.state.snapshot.generation = t.state.generation := rfl
      omega
    intro j k snap other hj hk heq
    by_cases hji : j = i <;> by_cases hki : k = i
    · rw [hji, hki]
    · rw [hji, hheld, Option.some.injEq] at hj
      have hlt := hold k other hki hk
      rw [hj, heq] at hlt
      exact absurd hlt (Nat.lt_irrefl _)
    · rw [hki, hheld, Option.some.injEq] at hk
      have hlt := hold j snap hji hj
      rw [hk, heq] at hlt
      exact absurd hlt (Nat.lt_irrefl _)
    · rw [hframe j hji] at hj
      rw [hframe k hki] at hk
      exact hs.distinct j k snap other hj hk heq
  current := .inr ⟨i, hheld⟩

theorem Ordered.published (hs : Ordered s) (hold : s.held? i = some t.published)
    (hstate : t.state = s.state) (hheld : t.held? i = none)
    (hframe : ∀ j, j ≠ i → t.held? j = s.held? j) (hin : InOrder s (.publish i)) :
    Ordered t := by
  have hkept : ∀ j snap, t.held? j = some snap → j ≠ i ∧ s.held? j = some snap := by
    intro j snap hj
    by_cases hji : j = i
    · rw [hji, hheld] at hj
      cases hj
    · exact ⟨hji, hframe j hji ▸ hj⟩
  constructor
  case ahead =>
    intro j snap hj
    obtain ⟨hji, hj⟩ := hkept j snap hj
    have hle := (inOrder_publish hold).1 hin j snap hj
    have hne : t.published.generation ≠ snap.generation := by
      intro heq
      exact hji (hs.distinct i j _ snap hold hj heq).symm
    have hbound := (hs.ahead j snap hj).2
    rw [hstate]
    omega
  case distinct =>
    intro j k snap other hj hk
    exact hs.distinct j k snap other (hkept j snap hj).2 (hkept k other hk).2
  case current =>
    rw [hstate]
    cases hs.current with
    | inl hcurrent =>
      -- The channel already holds the current generation, so nothing could be ahead of it.
      have hahead := hs.ahead i _ hold
      rw [hcurrent] at hahead
      exact absurd hahead.1 (Nat.not_lt.2 hahead.2)
    | inr hsome =>
      obtain ⟨j, hj⟩ := hsome
      by_cases hji : j = i
      · subst hji
        rw [hold, Option.some.injEq] at hj
        exact .inl hj
      · exact .inr ⟨j, (hframe j hji).trans hj⟩

theorem step_ordered (hs : Ordered s) (hin : InOrder s act) (h : step s act = some t) :
    Ordered t := by
  cases step_effect h with
  | kept hact hstate hpublished hheld =>
    constructor
    · intro i snap hi
      rw [hstate, hpublished]
      exact hs.ahead i snap (hheld i ▸ hi)
    · intro i j snap other hi hj
      exact hs.distinct i j snap other (hheld i ▸ hi) (hheld j ▸ hj)
    · simp only [hstate, hpublished, hheld]
      exact hs.current
  | applied hfree hstate hpublished hheld hframe => exact hs.applied hstate hpublished hheld hframe
  | published hold hstate hheld hframe => exact hs.published hold hstate hheld hframe hin

theorem Ordered.neverBack (hs : Ordered s) : NeverBack s act := by
  intro t h
  cases step_effect h with
  | kept hact hstate hpublished hheld => rw [hpublished]
  | applied hfree hstate hpublished hheld hframe => rw [hpublished]
  | published hold hstate hheld hframe => exact (hs.ahead _ _ hold).1.le

/-- Some call has yet to publish a snapshot that the channel has already left behind. -/
def Late (s : Publication) : Prop :=
  ∃ i snap, s.held? i = some snap ∧ snap.generation < s.published.generation

theorem step_late (hs : Late s) (hback : NeverBack s act) (h : step s act = some t) : Late t := by
  obtain ⟨j, snap, hj, hlt⟩ := hs
  cases step_effect h with
  | kept hact hstate hpublished hheld => exact ⟨j, snap, (hheld j).trans hj, hpublished ▸ hlt⟩
  | @applied i _ hfree hstate hpublished hheld hframe =>
    have hji : j ≠ i := by
      intro heq
      rw [heq, hfree] at hj
      cases hj
    exact ⟨j, snap, (hframe j hji).trans hj, hpublished ▸ hlt⟩
  | @published i _ hold hstate hheld hframe =>
    have hle := hback t h
    have hji : j ≠ i := by
      intro heq
      rw [heq, hold, Option.some.injEq] at hj
      rw [hj] at hle
      omega
    exact ⟨j, snap, (hframe j hji).trans hj, by omega⟩

theorem late_of_not_inOrder (hin : ¬InOrder s act) (h : step s act = some t) : Late t := by
  cases step_effect h with
  | kept hact hstate hpublished hheld =>
    cases act with
    | call candidate => exact absurd trivial hin
    | apply i => exact absurd trivial hin
    | publish i => exact absurd rfl (hact i)
  | applied hfree hstate hpublished hheld hframe => exact absurd trivial hin
  | @published i _ hold hstate hheld hframe =>
    rw [inOrder_publish hold] at hin
    push Not at hin
    obtain ⟨j, other, hj, hlt⟩ := hin
    have hji : j ≠ i := by
      intro heq
      rw [heq, hold, Option.some.injEq] at hj
      rw [hj] at hlt
      exact absurd hlt (Nat.lt_irrefl _)
    exact ⟨j, other, (hframe j hji).trans hj, hlt⟩

theorem run_inOrder (hr : Machine.run step s acts = some t) (hfin : t.Finished)
    (ha : Machine.Allowed step NeverBack s acts) : Machine.Allowed step InOrder s acts := by
  induction acts generalizing s with
  | nil => trivial
  | cons act acts ih =>
    obtain ⟨u, hu, hr⟩ := Machine.run_cons_iff.1 hr
    obtain ⟨-, ha⟩ := (Machine.allowed_cons hu).1 ha
    by_cases hin : InOrder s act
    · exact (Machine.allowed_cons hu).2 ⟨hin, ih hr ha⟩
    · -- The snapshot left behind is still unpublished at the end, where every call has finished.
      have hlate : Late t := Machine.run_invariant_allowed
        (fun _ _ _ hs hback h => step_late hs hback h) (late_of_not_inOrder hin hu) hr ha
      obtain ⟨i, snap, hi, -⟩ := hlate
      rw [hfin.held?] at hi
      cases hi

/-- Publishing in the order of the generations is what keeps the channel from going back. -/
theorem published_never_back_iff (topology : ClusterTopology) (acts : List PublicationAction)
    (t : Publication) (hr : Machine.run step (start topology) acts = some t) :
    (Machine.Allowed step InOrder (start topology) acts →
      Machine.Allowed step NeverBack (start topology) acts) ∧
    (t.Finished →
      (Machine.Allowed step InOrder (start topology) acts ↔
        Machine.Allowed step NeverBack (start topology) acts ∧
          t.published = t.state.snapshot)) := by
  have hforward : Machine.Allowed step InOrder (start topology) acts →
      Machine.Allowed step NeverBack (start topology) acts :=
    Machine.allowed_mono (fun _ _ _ hs hin h => step_ordered hs hin h)
      (fun _ _ hs _ => hs.neverBack) (start_ordered topology)
  refine ⟨hforward, fun hfin => ⟨fun ha => ⟨hforward ha, ?_⟩, fun h => run_inOrder hr hfin h.1⟩⟩
  have hordered : Ordered t := Machine.run_invariant_allowed
    (fun _ _ _ hs hin h => step_ordered hs hin h) (start_ordered topology) hr ha
  cases hordered.current with
  | inl hcurrent => exact hcurrent
  | inr hheld =>
    obtain ⟨i, hi⟩ := hheld
    rw [hfin.held?] at hi
    cases hi

def sampleTopology (revision : Nat) : ClusterTopology where
  bucket := "travel"
  bucketUuid := some "a1"
  revision := { epoch := 1, revision }
  network := "default"
  endpoints := (∅ : BTreeMap NodeId KvEndpoint).insert "n1"
    { id := "n1", address := "10.0.0.1:11210", canonicalAddress := "10.0.0.1:11210",
      serverGroup := none }
  vbuckets := (∅ : BTreeMap UInt16 VBucketRoute).insert 0 { active := "n1", replicas := [] }

def sampleCalls : List PublicationAction :=
  [.call (sampleTopology 2), .call (sampleTopology 3), .apply 0, .apply 1]

def sampleFinished (published : TopologySnapshot) : Publication where
  state := { generation := 3, topology := sampleTopology 3 }
  published
  calls := [.finished (.ok (some { generation := 2, topology := sampleTopology 2 })),
    .finished (.ok (some { generation := 3, topology := sampleTopology 3 }))]

theorem sampleFinished_finished (snap : TopologySnapshot) : (sampleFinished snap).Finished := by
  intro call hcall
  simp only [sampleFinished, List.mem_cons, List.not_mem_nil, or_false] at hcall
  cases hcall with
  | inl h => exact ⟨_, h⟩
  | inr h => exact ⟨_, h⟩

theorem published_never_back_iff_sample :
    Machine.Allowed step NeverBack (start (sampleTopology 1))
      (sampleCalls ++ [.publish 0, .publish 1]) :=
  have hr : Machine.run step (start (sampleTopology 1)) (sampleCalls ++ [.publish 0, .publish 1]) =
      some (sampleFinished { generation := 3, topology := sampleTopology 3 }) := by decide
  (((published_never_back_iff _ _ _ hr).2 (sampleFinished_finished _)).1 (by decide)).1

/-- The call that applied first publishes last, and the channel ends on the older generation. -/
theorem published_goes_back : ∃ t,
    Machine.run step (start (sampleTopology 1)) (sampleCalls ++ [.publish 1, .publish 0]) =
      some t ∧
    ¬Machine.Allowed step NeverBack (start (sampleTopology 1))
      (sampleCalls ++ [.publish 1, .publish 0]) ∧
    t.Finished ∧ t.published.generation = 2 ∧ t.state.generation = 3 :=
  ⟨sampleFinished { generation := 2, topology := sampleTopology 2 }, by decide, by decide,
    sampleFinished_finished _, rfl, rfl⟩

end Publication

end RustDcp
