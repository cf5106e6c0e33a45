import RustDcp.StatefulSet

namespace RustDcp.Kubernetes
set_option autoImplicit true

namespace StatefulSetMembershipConfig

/-- What `validate` asks of the settings that all pods share. -/
structure Validates (config : StatefulSetMembershipConfig) : Prop where
  name : validateDnsName "StatefulSet" config.statefulSet = .ok ()
  count : config.vbucketCount ≤ 65536
  some : 0 < config.replicas
  members : config.replicas ≤ config.vbucketCount
  range : config.startOrdinal + config.replicas ≤ usizeMax

def forPod (self : StatefulSetMembershipConfig) (podName : String) : StatefulSetMembershipConfig :=
  { self with podName }

theorem endOrdinal_eq_ok {self : StatefulSetMembershipConfig} :
    self.endOrdinal = .ok stop ↔
      self.startOrdinal + self.replicas ≤ usizeMax ∧ stop = self.startOrdinal + self.replicas := by
  rw [endOrdinal, checkedAdd]
  by_cases h : self.startOrdinal + self.replicas ≤ usizeMax
  · simp [h, eq_comm]
  · simp [h]

theorem balanced_one_iff (generation n m : Nat) :
    (∃ assignment, VBucketAssignment.balanced generation n 1 m = .ok assignment) ↔
      n ≤ 65536 ∧ 0 < m ∧ m ≤ n := by
  constructor
  · rintro ⟨assignment, hok⟩
    by_contra hnot
    obtain ⟨error, herror⟩ :=
      VBucketAssignment.balanced_error (n := n) (m := m) (k := 1) generation (by omega)
    cases hok.symm.trans herror
  · rintro ⟨hcount, hm, hle⟩
    obtain ⟨assignment, hok, -⟩ :=
      VBucketAssignment.balanced_eq_ok generation hcount hle (hm : 0 < m)
    exact ⟨assignment, hok⟩

theorem validate_eq_ok {self : StatefulSetMembershipConfig} :
    self.validate = .ok () ↔ self.Validates ∧ validateDnsName "pod" self.podName = .ok () := by
  simp only [validate, bind_eq_ok, asConfigurationError, mapError_eq_ok, endOrdinal_eq_ok]
  constructor
  · rintro ⟨⟨⟩, hname, ⟨⟩, hpod, assignment, hbalanced, stop, ⟨hrange, -⟩, -⟩
    obtain ⟨hcount, hsome, hmembers⟩ := (balanced_one_iff _ _ _).1 ⟨assignment, hbalanced⟩
    exact ⟨⟨hname, hcount, hsome, hmembers, hrange⟩, hpod⟩
  · rintro ⟨h, hpod⟩
    obtain ⟨assignment, hbalanced⟩ :=
      (balanced_one_iff self.generation _ _).2 ⟨h.count, h.some, h.members⟩
    exact ⟨(), h.name, (), hpod, assignment, hbalanced, _, ⟨h.range, rfl⟩, rfl⟩

/-- The pod at index `i` of the set has the member number `i + 1`. -/
structure Resolves (config : StatefulSetMembershipConfig) (podName : String) (i : Nat)
    (membership : StatefulSetMembership) : Prop where
  valid : validateDnsName "pod" podName = .ok ()
  index : i < config.replicas
  name : podName = podNameOf config.statefulSet (config.startOrdinal + i)
  number : membership.memberNumber = i + 1
  total : membership.totalMembers = config.replicas
  assignment : VBucketAssignment.balanced config.generation config.vbucketCount (i + 1)
    config.replicas = .ok membership.assignment

theorem resolve_eq_ok {self : StatefulSetMembershipConfig} {podName : String} (h : self.Validates) :
    (self.forPod podName).resolve = .ok membership ↔ ∃ i, self.Resolves podName i membership := by
  have hvalidates : (self.forPod podName).Validates :=
    ⟨h.name, h.count, h.some, h.members, h.range⟩
  rw [resolve]
  constructor
  · intro hok
    obtain ⟨⟨⟩, hvalidate, hok⟩ := bind_eq_ok.1 hok
    obtain ⟨ordinal, hordinal, hok⟩ := bind_eq_ok.1 hok
    obtain ⟨stop, hstop, hok⟩ := bind_eq_ok.1 hok
    obtain ⟨-, rfl⟩ := endOrdinal_eq_ok.1 hstop
    split at hok
    · cases hok
    rename_i hrange
    obtain ⟨assignment, hassignment, hok⟩ := bind_eq_ok.1 hok
    cases hok
    rw [not_or, Nat.not_lt, Nat.not_le] at hrange
    obtain ⟨hle, hlt⟩ := hrange
    have hname := (podOrdinal_eq_ok.1 hordinal).1
    simp only [forPod] at hle hlt hname
    exact ⟨ordinal - self.startOrdinal, (validate_eq_ok.1 hvalidate).2, by omega,
      by rwa [Nat.add_sub_cancel' hle], rfl, rfl, (mapError_eq_ok _).1 hassignment⟩
  · rintro ⟨i, hi⟩
    have hrange := h.range
    have hindex := hi.index
    have hinside : ¬(self.startOrdinal + i < self.startOrdinal ∨
        self.startOrdinal + i ≥ self.startOrdinal + self.replicas) := by omega
    have hordinal : podOrdinal (self.forPod podName).statefulSet (self.forPod podName).podName =
        .ok (self.startOrdinal + i) := podOrdinal_eq_ok.2 ⟨hi.name, by omega⟩
    rw [validate_eq_ok.2 ⟨hvalidates, hi.valid⟩, hordinal,
      endOrdinal_eq_ok.2 ⟨hvalidates.range, rfl⟩]
    simp only [forPod, bind, Except.bind, if_neg hinside, Nat.add_sub_cancel_left,
      asAssignmentError, (mapError_eq_ok _).2 hi.assignment]
    rw [← hi.number, ← hi.total]
    rfl

theorem Resolves.chunk {self : StatefulSetMembershipConfig} {podName : String} (h : self.Validates)
    (hi : self.Resolves podName i membership) (v : UInt16) :
    v ∈ membership.assignment.vbuckets ↔
      chunkStart self.vbucketCount self.replicas i ≤ v.toNat ∧
        v.toNat < chunkStart self.vbucketCount self.replicas (i + 1) := by
  obtain ⟨assignment, hok, -, hchunk⟩ :=
    VBucketAssignment.balanced_eq_ok self.generation h.count h.members hi.index
  cases hi.assignment.symm.trans hok
  exact hchunk v

theorem exists_resolves {self : StatefulSetMembershipConfig} (h : self.Validates)
    (hindex : i < self.replicas)
    (hvalid : validateDnsName "pod" (podNameOf self.statefulSet (self.startOrdinal + i)) = .ok ()) :
    ∃ membership, self.Resolves (podNameOf self.statefulSet (self.startOrdinal + i)) i
      membership := by
  obtain ⟨assignment, hok, -⟩ :=
    VBucketAssignment.balanced_eq_ok self.generation h.count h.members hindex
  exact ⟨⟨assignment, i + 1, self.replicas⟩, hvalid, hindex, rfl, rfl, rfl, hok⟩

/-- The accepted names have every vBucket among them exactly if no name of the range is refused. -/
theorem cover_iff {self : StatefulSetMembershipConfig} (h : self.Validates) :
    (∀ v : UInt16, v.toNat < self.vbucketCount ↔ ∃ podName membership,
      (self.forPod podName).resolve = .ok membership ∧ v ∈ membership.assignment.vbuckets) ↔
    ∀ ordinal, self.startOrdinal ≤ ordinal → ordinal < self.startOrdinal + self.replicas →
      validateDnsName "pod" (podNameOf self.statefulSet ordinal) = .ok () := by
  have hstop : ∀ i < self.replicas,
      chunkStart self.vbucketCount self.replicas (i + 1) ≤ self.vbucketCount := by
    intro i hi
    exact chunkStart_succ_le hi
  have hcount := h.count
  constructor
  · intro hcover ordinal hle hlt
    obtain ⟨i, rfl⟩ := Nat.exists_eq_add_of_le hle
    have hi : i < self.replicas := by omega
    -- The pod that owns a vBucket of the chunk is the one with this ordinal.
    obtain ⟨v, hchunk⟩ := exists_mem_chunk hcount h.members hi
    obtain ⟨podName, membership, hresolve, hv⟩ :=
      (hcover v).1 (Nat.lt_of_lt_of_le hchunk.2 (hstop i hi))
    obtain ⟨j, hj⟩ := (resolve_eq_ok h).1 hresolve
    have hij := interval_unique (chunkStart_mono _ _) ((hj.chunk h v).1 hv) hchunk
    rw [← hij, ← hj.name]
    exact hj.valid
  · intro hvalid v
    constructor
    · intro hv
      obtain ⟨i, hi, hbounds⟩ := exists_interval
        (f := chunkStart self.vbucketCount self.replicas)
        (by simp [chunkStart] : _ ≤ v.toNat) (by rwa [chunkStart_total h.some])
      obtain ⟨membership, hmembership⟩ := exists_resolves h hi (hvalid _ (by omega) (by omega))
      exact ⟨_, membership, (resolve_eq_ok h).2 ⟨i, hmembership⟩,
        (hmembership.chunk h v).2 hbounds⟩
    · rintro ⟨podName, membership, hresolve, hv⟩
      obtain ⟨j, hj⟩ := (resolve_eq_ok h).1 hresolve
      have hbounds := (hj.chunk h v).1 hv
      have := hstop j hj.index
      omega

/-- The names that `resolve` accepts are those of the ordinals of the range. Different names have
different member numbers and share no vBucket. -/
theorem ordinals_split {self : StatefulSetMembershipConfig} (h : self.Validates) :
    (∀ podName, validateDnsName "pod" podName = .ok () →
      ((∃ membership, (self.forPod podName).resolve = .ok membership) ↔
        ∃ ordinal, self.startOrdinal ≤ ordinal ∧
          ordinal < self.startOrdinal + self.replicas ∧
          podName = podNameOf self.statefulSet ordinal)) ∧
    (∀ podName podName' membership membership', podName ≠ podName' →
      (self.forPod podName).resolve = .ok membership →
      (self.forPod podName').resolve = .ok membership' →
      membership.memberNumber ≠ membership'.memberNumber ∧
        ∀ v ∈ membership.assignment.vbuckets, v ∉ membership'.assignment.vbuckets) ∧
    ((∀ v : UInt16, v.toNat < self.vbucketCount ↔ ∃ podName membership,
      (self.forPod podName).resolve = .ok membership ∧ v ∈ membership.assignment.vbuckets) ↔
    ∀ ordinal, self.startOrdinal ≤ ordinal → ordinal < self.startOrdinal + self.replicas →
      validateDnsName "pod" (podNameOf self.statefulSet ordinal) = .ok ()) := by
  refine ⟨?_, ?_, cover_iff h⟩
  · intro podName hvalid
    constructor
    · rintro ⟨membership, hresolve⟩
      obtain ⟨i, hi⟩ := (resolve_eq_ok h).1 hresolve
      have hindex := hi.index
      exact ⟨self.startOrdinal + i, by omega, by omega, hi.name⟩
    · rintro ⟨ordinal, hle, hlt, rfl⟩
      obtain ⟨i, rfl⟩ := Nat.exists_eq_add_of_le hle
      obtain ⟨membership, hi⟩ := exists_resolves h (by omega) hvalid
      exact ⟨membership, (resolve_eq_ok h).2 ⟨i, hi⟩⟩
  · intro podName podName' membership membership' hne hresolve hresolve'
    obtain ⟨i, hi⟩ := (resolve_eq_ok h).1 hresolve
    obtain ⟨j, hj⟩ := (resolve_eq_ok h).1 hresolve'
    have hij : i ≠ j := by
      rintro rfl
      exact hne (hi.name.trans hj.name.symm)
    refine ⟨?_, ?_⟩
    · rw [hi.number, hj.number]
      omega
    · intro v hv hv'
      exact hij (interval_unique (chunkStart_mono _ _) ((hi.chunk h v).1 hv)
        ((hj.chunk h v).1 hv'))

def sampleSet : StatefulSetMembershipConfig :=
  { statefulSet := "dcp-7", podName := "dcp-7-9", replicas := 3, startOrdinal := 9
    vbucketCount := 10, generation := 1 }

theorem sampleSet_validates : sampleSet.Validates := by
  refine ⟨?_, by decide, by decide, by decide, by decide⟩
  decide

theorem ordinals_split_sample :
    (∃ membership, (sampleSet.forPod "dcp-7-10").resolve = .ok membership) ∧
      ¬∃ membership, (sampleSet.forPod "dcp-7-010").resolve = .ok membership := by
  obtain ⟨haccepts, -⟩ := ordinals_split sampleSet_validates
  refine ⟨(haccepts "dcp-7-10" (by decide)).2 ⟨10, by decide, by decide, by decide⟩, ?_⟩
  rw [haccepts "dcp-7-010" (by decide)]
  rintro ⟨ordinal, hle, hlt, hname⟩
  have hrange : ordinal ∈ [9, 10, 11] := by
    simp only [sampleSet] at hle hlt
    simp only [List.mem_cons, List.not_mem_nil, or_false]
    omega
  revert hname
  revert ordinal
  decide

def longSet : StatefulSetMembershipConfig :=
  { statefulSet := String.ofList (List.replicate 62 'a'), podName := "a", replicas := 1
    startOrdinal := 0, vbucketCount := 1, generation := 1 }

theorem longSet_validates : longSet.Validates := by
  refine ⟨?_, by decide, by decide, by decide, by decide⟩
  decide

/-- All settings are valid, and yet no pod has the vBucket. -/
theorem longSet_uncovered :
    longSet.Validates ∧ (0 : UInt16).toNat < longSet.vbucketCount ∧
      ¬∃ podName membership, (longSet.forPod podName).resolve = .ok membership ∧
        0 ∈ membership.assignment.vbuckets := by
  refine ⟨longSet_validates, by decide, ?_⟩
  rintro ⟨podName, membership, hresolve, -⟩
  obtain ⟨i, hi⟩ := (resolve_eq_ok longSet_validates).1 hresolve
  have hindex : i < 1 := hi.index
  obtain rfl : i = 0 := by omega
  have hvalid := hi.valid
  rw [hi.name] at hvalid
  exact absurd hvalid (by decide)

end StatefulSetMembershipConfig

end RustDcp.Kubernetes
