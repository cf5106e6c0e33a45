import RustDcp.Machine
import RustDcp.Topology

namespace RustDcp
set_option autoImplicit true

namespace TopologyState

/-- `apply` as a step: a refused candidate leaves the state as it is. -/
def step (self : TopologyState) (candidate : ClusterTopology) : Option TopologyState :=
  some (self.apply candidate).2

def applyAll (self : TopologyState) (candidates : List ClusterTopology) : TopologyState :=
  candidates.foldl (fun state candidate => (state.apply candidate).2) self

/-- The candidates for which `apply` returned a change. -/
def accepted : TopologyState → List ClusterTopology → List ClusterTopology
  | _, [] => []
  | self, candidate :: candidates =>
    match self.apply candidate with
    | (.ok (some _), state) => candidate :: accepted state candidates
    | (_, state) => accepted state candidates

theorem accepted_cons (self : TopologyState) (candidate : ClusterTopology)
    (candidates : List ClusterTopology) :
    (self.Accepts candidate ∧ (self.apply candidate).2 = ⟨self.generation + 1, candidate⟩ ∧
      self.accepted (candidate :: candidates) =
        candidate :: accepted ⟨self.generation + 1, candidate⟩ candidates) ∨
    (¬self.Accepts candidate ∧ (self.apply candidate).2 = self ∧
      self.accepted (candidate :: candidates) = self.accepted candidates) := by
  rcases self.apply_accepts candidate with ⟨haccepts, change, -, happly⟩ |
    ⟨hrefuses, result, happly, hresult⟩
  · refine .inl ⟨haccepts, by rw [happly], ?_⟩
    rw [accepted, happly]
  · refine .inr ⟨hrefuses, by rw [happly], ?_⟩
    rw [accepted, happly]
    split
    · rename_i change state heq
      cases heq
      exact absurd rfl (hresult change)
    · rename_i heq
      cases heq
      rfl

/-- A newer candidate of the same bucket name comes with a UUID if the current topology has one. -/
def Identified (self : TopologyState) (candidate : ClusterTopology) : Prop :=
  candidate.bucket = self.topology.bucket → self.topology.bucketUuid.isSome →
    candidate.revision.isNewerThan self.topology.revision → candidate.bucketUuid.isSome

instance (self : TopologyState) (candidate : ClusterTopology) :
    Decidable (self.Identified candidate) :=
  inferInstanceAs (Decidable (_ → _ → _ → _))

end TopologyState

theorem validateBucketIdentity_eq_ok {current candidate : ClusterTopology} :
    validateBucketIdentity current candidate = .ok () ↔ current.bucket = candidate.bucket ∧
      ∀ u w, current.bucketUuid = some u → candidate.bucketUuid = some w → u = w := by
  simp only [validateBucketIdentity]
  split
  · simp_all
  · split
    · split <;> simp_all
    · simp_all

namespace TopologyState

theorem accepted_bucketUuid {self : TopologyState} (huuid : self.topology.bucketUuid = some u)
    (h : Machine.Allowed step Identified self candidates) :
    ∀ accepted ∈ self.accepted candidates, accepted.bucketUuid = some u := by
  induction candidates generalizing self with
  | nil => simp [accepted]
  | cons candidate candidates ih =>
    obtain ⟨hidentified, hrest⟩ := (Machine.allowed_cons rfl).1 h
    rcases self.accepted_cons candidate candidates with ⟨haccepts, happly, heq⟩ | ⟨-, happly, heq⟩
    · rw [happly] at hrest
      rw [heq]
      obtain ⟨hbucket, huuids⟩ := validateBucketIdentity_eq_ok.1 haccepts.identity
      obtain ⟨w, hw⟩ := Option.isSome_iff_exists.1
        (hidentified hbucket.symm (by rw [huuid]; rfl) haccepts.newer)
      have hsame : u = w := huuids u w huuid hw
      subst hsame
      exact List.forall_mem_cons.2 ⟨hw, ih hw hrest⟩
    · rw [happly] at hrest
      rw [heq]
      exact ih huuid hrest

/-- All UUIDs among the current topology and the accepted ones are the same. -/
def OneUuid (topologies : List ClusterTopology) : Prop :=
  ∀ a ∈ topologies, ∀ b ∈ topologies, ∀ u w, a.bucketUuid = some u → b.bucketUuid = some w → u = w

theorem OneUuid.cons_none (h : OneUuid topologies) {first : ClusterTopology}
    (hnone : first.bucketUuid = none) : OneUuid (first :: topologies) := by
  intro a ha b hb u w hu hw
  rcases List.mem_cons.1 ha with rfl | ha
  · cases hnone.symm.trans hu
  · rcases List.mem_cons.1 hb with rfl | hb
    · cases hnone.symm.trans hw
    · exact h a ha b hb u w hu hw

theorem accepted_oneUuid {self : TopologyState}
    (h : Machine.Allowed step Identified self candidates) :
    OneUuid (self.topology :: self.accepted candidates) := by
  induction candidates generalizing self with
  | nil =>
    intro a ha b hb u w hu hw
    rw [accepted, List.mem_singleton] at ha hb
    subst ha hb
    exact Option.some.inj (hu.symm.trans hw)
  | cons candidate candidates ih =>
    cases huuid : self.topology.bucketUuid with
    | some u =>
      have hall : ∀ topology ∈ self.topology :: self.accepted (candidate :: candidates),
          topology.bucketUuid = some u :=
        List.forall_mem_cons.2 ⟨huuid, accepted_bucketUuid huuid h⟩
      intro a ha b hb x y hx hy
      cases (hall a ha).symm.trans hx
      cases (hall b hb).symm.trans hy
      rfl
    | none =>
      obtain ⟨-, hrest⟩ := (Machine.allowed_cons rfl).1 h
      rcases self.accepted_cons candidate candidates with ⟨-, happly, heq⟩ | ⟨-, happly, heq⟩
      · rw [happly] at hrest
        rw [heq]
        exact (ih hrest).cons_none huuid
      · rw [happly] at hrest
        rw [heq]
        exact ih hrest

theorem accepted_pair {self : TopologyState} (hfirst : self.Accepts first)
    (hsecond : Accepts ⟨self.generation + 1, first⟩ second) :
    self.accepted [first, second] = [first, second] := by
  rcases self.accepted_cons first [second] with ⟨-, -, heq⟩ | ⟨hrefuses, -⟩
  · rcases accepted_cons ⟨self.generation + 1, first⟩ second [] with ⟨-, -, heq'⟩ | ⟨hrefuses, -⟩
    · rw [heq, heq']
      rfl
    · exact absurd hsecond hrefuses
  · exact absurd hfirst hrefuses

/-- Every update keeps the bucket's UUID as long as no newer candidate of its name comes without
one. After a candidate without a UUID any other bucket of the name is accepted. -/
theorem bucketUuid_stable (initial : ClusterTopology) (candidates : List ClusterTopology) :
    (Machine.Allowed step Identified (new initial) candidates →
      OneUuid (initial :: (new initial).accepted candidates)) ∧
    ∀ (state : TopologyState) candidate next, ¬state.Identified candidate →
      next.bucket = candidate.bucket → next.revision.isNewerThan candidate.revision →
      state.generation + 1 < u64Max →
      state.accepted [candidate, next] = [candidate, next] := by
  refine ⟨accepted_oneUuid, ?_⟩
  intro state candidate next hidentified hnext hnewer hroom
  simp only [Identified, Classical.not_imp] at hidentified
  obtain ⟨hbucket, -, hnew, hnone⟩ := hidentified
  rw [Bool.not_eq_true, Option.isSome_eq_false_iff, Option.isNone_iff_eq_none] at hnone
  apply accepted_pair
  · refine ⟨validateBucketIdentity_eq_ok.2 ⟨hbucket.symm, ?_⟩, hnew, by omega⟩
    intro u w hu hw
    cases hnone.symm.trans hw
  · refine ⟨validateBucketIdentity_eq_ok.2 ⟨hnext.symm, ?_⟩, hnewer, hroom⟩
    intro u w hu hw
    cases hnone.symm.trans hu

def sampleTopology (uuid : Option String) (revision : Nat) : ClusterTopology where
  bucket := "travel"
  bucketUuid := uuid
  revision := ⟨0, revision⟩
  network := "default"
  endpoints := ∅
  vbuckets := ∅

theorem bucketUuid_stable_sample :
    OneUuid (sampleTopology (some "a") 1 ::
      (new (sampleTopology (some "a") 1)).accepted
        [sampleTopology (some "b") 2, sampleTopology (some "a") 3]) :=
  (bucketUuid_stable _ _).1 (by decide)

/-- A bucket that was created again is accepted after a configuration without a UUID. -/
theorem bucketUuid_changes :
    (new (sampleTopology (some "a") 1)).accepted
        [sampleTopology none 2, sampleTopology (some "b") 3] =
      [sampleTopology none 2, sampleTopology (some "b") 3] ∧
    ¬OneUuid [sampleTopology (some "a") 1, sampleTopology none 2, sampleTopology (some "b") 3] := by
  refine ⟨by decide, ?_⟩
  intro h
  have hsame := h (sampleTopology (some "a") 1) (by simp) (sampleTopology (some "b") 3) (by simp)
    "a" "b" rfl rfl
  revert hsame
  decide

end TopologyState

/-- Revisions in the lexicographic order of the epoch and the revision number. -/
def TopologyRevision.key (self : TopologyRevision) : ℕ ×ₗ ℕ := toLex (self.epoch, self.revision)

theorem TopologyRevision.isNewerThan_iff {candidate current : TopologyRevision}
    (h : candidate.revision ≠ 0) :
    candidate.isNewerThan current = true ↔ current.key < candidate.key := by
  rw [key, key, Prod.Lex.toLex_lt_toLex]
  simp only [isNewerThan, gt_iff_lt, Bool.or_eq_true, decide_eq_true_eq, Bool.and_eq_true,
    beq_iff_eq, h, false_or]
  omega

theorem TopologyRevision.key_injective : Function.Injective TopologyRevision.key := by
  intro a b h
  cases a
  cases b
  simpa [key] using h

namespace TopologyState

theorem applyAll_cons (self : TopologyState) (candidate : ClusterTopology)
    (candidates : List ClusterTopology) :
    self.applyAll (candidate :: candidates) = (self.apply candidate).2.applyAll candidates := rfl

theorem accepted_increasing (self : TopologyState)
    (hrevised : ∀ candidate ∈ candidates, candidate.revision.revision ≠ 0) :
    (self.topology :: self.accepted candidates).Pairwise
      fun earlier later => earlier.revision.key < later.revision.key := by
  induction candidates generalizing self with
  | nil => exact List.pairwise_singleton _ _
  | cons candidate candidates ih =>
    obtain ⟨hfirst, hrest⟩ := List.forall_mem_cons.1 hrevised
    rcases self.accepted_cons candidate candidates with ⟨haccepts, -, heq⟩ | ⟨-, -, heq⟩
    · rw [heq]
      have hnewer := (TopologyRevision.isNewerThan_iff hfirst).1 haccepts.newer
      have hrest := ih ⟨self.generation + 1, candidate⟩ hrest
      refine List.pairwise_cons.2 ⟨List.forall_mem_cons.2 ⟨hnewer, ?_⟩, hrest⟩
      intro later hlater
      exact hnewer.trans ((List.pairwise_cons.1 hrest).1 later hlater)
    · rw [heq]
      exact ih self hrest

theorem applyAll_generation (self : TopologyState) (candidates : List ClusterTopology) :
    (self.applyAll candidates).generation =
      self.generation + (self.accepted candidates).length := by
  induction candidates generalizing self with
  | nil => rfl
  | cons candidate candidates ih =>
    rw [applyAll_cons]
    rcases self.accepted_cons candidate candidates with ⟨-, happly, heq⟩ | ⟨-, happly, heq⟩
    · rw [happly, heq, ih, List.length_cons]
      exact Nat.add_right_comm _ _ _
    · rw [happly, heq, ih]

/-- Configurations of one bucket. -/
def SameBucket (topologies : List ClusterTopology) : Prop :=
  ∀ a ∈ topologies, ∀ b ∈ topologies, a.bucket = b.bucket ∧
    ∀ u w, a.bucketUuid = some u → b.bucketUuid = some w → u = w

theorem applyAll_greatest (self : TopologyState)
    (hrevised : ∀ candidate ∈ candidates, candidate.revision.revision ≠ 0)
    (hsame : SameBucket (self.topology :: candidates))
    (hroom : self.generation + candidates.length ≤ u64Max) :
    (self.applyAll candidates).topology ∈ self.topology :: candidates ∧
      ∀ topology ∈ self.topology :: candidates,
        topology.revision.key ≤ (self.applyAll candidates).topology.revision.key := by
  induction candidates generalizing self with
  | nil => simp [applyAll]
  | cons candidate candidates ih =>
    obtain ⟨hfirst, hrest⟩ := List.forall_mem_cons.1 hrevised
    rw [List.length_cons] at hroom
    rw [applyAll_cons]
    rcases self.accepted_cons candidate candidates with ⟨haccepts, happly, -⟩ |
      ⟨hrefuses, happly, -⟩
    · rw [happly]
      have hnewer := (TopologyRevision.isNewerThan_iff hfirst).1 haccepts.newer
      obtain ⟨hmem, hle⟩ := ih ⟨self.generation + 1, candidate⟩ hrest
        (fun a ha b hb => hsame a (List.mem_cons_of_mem _ ha) b (List.mem_cons_of_mem _ hb))
        (by simp only; omega)
      refine ⟨List.mem_cons_of_mem _ hmem, List.forall_mem_cons.2 ⟨?_, hle⟩⟩
      exact hnewer.le.trans (hle candidate List.mem_cons_self)
    · rw [happly]
      have hstale : ¬self.topology.revision.key < candidate.revision.key := by
        intro hnewer
        apply hrefuses
        refine ⟨?_, (TopologyRevision.isNewerThan_iff hfirst).2 hnewer, by omega⟩
        exact validateBucketIdentity_eq_ok.2 (hsame _ List.mem_cons_self _
          (List.mem_cons_of_mem _ List.mem_cons_self))
      have hkeep : ∀ {topology}, topology ∈ self.topology :: candidates →
          topology ∈ self.topology :: candidate :: candidates := by
        intro topology hmem
        rcases List.mem_cons.1 hmem with rfl | hmem
        · exact List.mem_cons_self
        · exact List.mem_cons_of_mem _ (List.mem_cons_of_mem _ hmem)
      obtain ⟨hmem, hle⟩ := ih self hrest
        (fun a ha b hb => hsame a (hkeep ha) b (hkeep hb)) (by omega)
      refine ⟨hkeep hmem, ?_⟩
      intro topology htopology
      rcases List.mem_cons.1 htopology with rfl | htopology
      · exact hle _ List.mem_cons_self
      · rcases List.mem_cons.1 htopology with rfl | htopology
        · exact (not_lt.1 hstale).trans (hle _ List.mem_cons_self)
        · exact hle _ (List.mem_cons_of_mem _ htopology)

/-- Accepted revisions go up, the generation counts them, and every order of the same candidates
ends at the greatest revision. -/
theorem topology_fenced {initial : ClusterTopology} {candidates : List ClusterTopology}
    (hrevised : ∀ candidate ∈ candidates, candidate.revision.revision ≠ 0)
    (hsame : SameBucket (initial :: candidates)) :
    (initial :: (new initial).accepted candidates).Pairwise
      (fun earlier later => earlier.revision.key < later.revision.key) ∧
    ((new initial).applyAll candidates).generation =
      1 + ((new initial).accepted candidates).length ∧
    (∀ (state : TopologyState) candidate,
      (∀ change, (state.apply candidate).1 ≠ .ok (some change)) →
      (state.apply candidate).2 = state) ∧
    (((initial :: candidates).map ClusterTopology.revision).Nodup → candidates.length < u64Max →
      ∀ order, order.Perm candidates →
        ((new initial).applyAll order).topology ∈ initial :: candidates ∧
        ∀ topology ∈ initial :: candidates,
          topology ≠ ((new initial).applyAll order).topology →
          topology.revision.key < ((new initial).applyAll order).topology.revision.key) := by
  refine ⟨accepted_increasing (new initial) hrevised, applyAll_generation _ _, ?_, ?_⟩
  · intro state candidate hrefused
    rcases state.apply_accepts candidate with ⟨-, change, -, happly⟩ | ⟨-, result, happly, -⟩
    · exact absurd (by rw [happly]) (hrefused change)
    · rw [happly]
  · intro hdistinct hlength order horder
    have hmem : ∀ {topology}, topology ∈ initial :: order ↔ topology ∈ initial :: candidates :=
      (horder.cons initial).mem_iff
    have hrevised : ∀ candidate ∈ order, candidate.revision.revision ≠ 0 :=
      fun candidate hcandidate => hrevised candidate (horder.mem_iff.1 hcandidate)
    obtain ⟨hfinal, hle⟩ := applyAll_greatest (new initial) hrevised
      (fun a ha b hb => hsame a (hmem.1 ha) b (hmem.1 hb))
      (by rw [horder.length_eq, Nat.add_comm]; exact hlength)
    refine ⟨hmem.1 hfinal, ?_⟩
    intro topology htopology hne
    apply lt_of_le_of_ne (hle topology (hmem.2 htopology))
    intro hkey
    exact hne (List.inj_on_of_nodup_map hdistinct htopology (hmem.1 hfinal)
      (TopologyRevision.key_injective hkey))

theorem topology_fenced_sample :
    ((new (sampleTopology none 1)).applyAll
      [sampleTopology none 4, sampleTopology none 3]).generation = 2 ∧
    ∀ order, order.Perm [sampleTopology none 4, sampleTopology none 3] →
      ((new (sampleTopology none 1)).applyAll order).topology ∈
        [sampleTopology none 1, sampleTopology none 4, sampleTopology none 3] := by
  have hrevised : ∀ candidate ∈ [sampleTopology none 4, sampleTopology none 3],
      candidate.revision.revision ≠ 0 := by decide
  have hsame : SameBucket [sampleTopology none 1, sampleTopology none 4,
      sampleTopology none 3] := by
    simp [SameBucket, sampleTopology]
  have hfenced := topology_fenced hrevised hsame
  exact ⟨hfenced.2.1, fun order horder =>
    (hfenced.2.2.2 (by decide) (by decide) order horder).1⟩

def sampleRevisions (n : Nat) : List ClusterTopology :=
  (List.range n).map fun i => sampleTopology none (i + 1)

theorem sampleRevisions_succ (n : Nat) :
    sampleRevisions (n + 1) = sampleRevisions n ++ [sampleTopology none (n + 1)] := by
  simp [sampleRevisions, List.range_succ]

theorem sampleRevisions_sameBucket (n : Nat) :
    SameBucket (sampleTopology none 0 :: sampleRevisions n) := by
  have hbucket : ∀ topology ∈ sampleTopology none 0 :: sampleRevisions n,
      topology.bucket = "travel" ∧ topology.bucketUuid = none := by
    simp [sampleRevisions, sampleTopology]
  intro a ha b hb
  rw [(hbucket a ha).1, (hbucket b hb).1, (hbucket a ha).2]
  exact ⟨rfl, by simp⟩

theorem sampleRevisions_distinct (n : Nat) :
    ((sampleTopology none 0 :: sampleRevisions n).map ClusterTopology.revision).Nodup := by
  rw [List.map_cons, List.nodup_cons]
  refine ⟨by simp [sampleRevisions, sampleTopology], ?_⟩
  rw [sampleRevisions, List.map_map]
  apply List.nodup_range.map
  intro i j h
  simpa [sampleTopology] using h

theorem applyAll_sampleRevisions (hn : n < u64Max) :
    (new (sampleTopology none 0)).applyAll (sampleRevisions n) =
      ⟨n + 1, sampleTopology none n⟩ := by
  induction n with
  | zero => rfl
  | succ n ih =>
    rw [sampleRevisions_succ, applyAll, List.foldl_append]
    have hbefore := ih (by omega)
    rw [applyAll] at hbefore
    rw [hbefore]
    rcases apply_accepts ⟨n + 1, sampleTopology none n⟩ (sampleTopology none (n + 1)) with
      ⟨-, change, -, happly⟩ | ⟨hrefuses, -⟩
    · simp only [List.foldl_cons, List.foldl_nil, happly]
    · exact absurd ⟨by simp [validateBucketIdentity, sampleTopology],
        by simp [TopologyRevision.isNewerThan, sampleTopology], hn⟩ hrefuses

/-- The generation counter runs out one candidate before the greatest revision. -/
theorem topology_fence_overflows :
    ((new (sampleTopology none 0)).applyAll (sampleRevisions u64Max)).topology =
      sampleTopology none (u64Max - 1) ∧
    sampleTopology none u64Max ∈ sampleRevisions u64Max ∧
    (sampleTopology none (u64Max - 1)).revision.key < (sampleTopology none u64Max).revision.key ∧
    SameBucket (sampleTopology none 0 :: sampleRevisions u64Max) ∧
    (∀ candidate ∈ sampleRevisions u64Max, candidate.revision.revision ≠ 0) ∧
    ((sampleTopology none 0 :: sampleRevisions u64Max).map ClusterTopology.revision).Nodup := by
  have hpos : u64Max = u64Max - 1 + 1 := by decide
  refine ⟨?_, ?_, ?_, sampleRevisions_sameBucket _, ?_, sampleRevisions_distinct _⟩
  · nth_rewrite 1 [hpos]
    rw [sampleRevisions_succ, applyAll, List.foldl_append]
    have hbefore := applyAll_sampleRevisions (n := u64Max - 1) (by decide)
    rw [applyAll] at hbefore
    rw [hbefore]
    rcases apply_accepts ⟨u64Max - 1 + 1, sampleTopology none (u64Max - 1)⟩
      (sampleTopology none (u64Max - 1 + 1)) with ⟨haccepts, -⟩ | ⟨-, result, happly, -⟩
    · exact absurd haccepts.room (by decide)
    · simp only [List.foldl_cons, List.foldl_nil, happly]
  · rw [sampleRevisions, List.mem_map]
    exact ⟨u64Max - 1, List.mem_range.2 (by decide), by rw [← hpos]⟩
  · rw [TopologyRevision.key, TopologyRevision.key, Prod.Lex.toLex_lt_toLex]
    exact .inr ⟨rfl, by decide⟩
  · simp [sampleRevisions, sampleTopology]

end TopologyState

end RustDcp
