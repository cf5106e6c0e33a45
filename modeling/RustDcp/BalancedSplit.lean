import RustDcp.Assignment

namespace RustDcp
set_option autoImplicit true

/-- `usize` subtraction, `none` where it overflows. -/
def checkedSub (a b : Nat) : Option Nat := if b ≤ a then some (a - b) else none

/-- `usize` multiplication, `none` where it overflows. -/
def checkedMul (a b : Nat) : Option Nat := if a * b ≤ usizeMax then some (a * b) else none

namespace VBucketAssignment

/-- The range of `balanced`, with every `usize` operation on the way checked. -/
def checkedRange (vbucketCount memberNumber totalMembers : Nat) : Option (Nat × Nat) := do
  let memberIndex ← checkedSub memberNumber 1
  let baseSize := vbucketCount / totalMembers
  let remainder := vbucketCount % totalMembers
  let product ← checkedMul memberIndex baseSize
  let start ← checkedAdd product (min memberIndex remainder)
  let len ← checkedAdd baseSize (if memberIndex < remainder then 1 else 0)
  let stop ← checkedAdd start len
  return (start, stop)

/-- The sets of the members `1..=m` are neighbouring ranges that split the vBuckets below `n`, the
larger ones first. -/
structure SplitsEvenly (n m : Nat) (assigned : Nat → BTreeSet UInt16) : Prop where
  contiguous : ∃ bound : Nat → Nat, bound 0 = 0 ∧ bound m = n ∧ ∀ k, 0 < k → k ≤ m →
    bound (k - 1) < bound k ∧
      ∀ v : UInt16, v ∈ assigned k ↔ bound (k - 1) ≤ v.toNat ∧ v.toNat < bound k
  disjoint : ∀ j k, 0 < j → j ≤ m → 0 < k → k ≤ m → j ≠ k → ∀ v ∈ assigned j, v ∉ assigned k
  nonempty : ∀ k, 0 < k → k ≤ m → ∃ v, v ∈ assigned k
  cover : ∀ v : UInt16, v.toNat < n ↔ ∃ k, 0 < k ∧ k ≤ m ∧ v ∈ assigned k
  sizes : ∀ j k, 0 < j → j ≤ k → k ≤ m →
    (assigned k).size ≤ (assigned j).size ∧ (assigned j).size ≤ (assigned k).size + 1

theorem checkedRange_eq (hcount : n ≤ 65536) (hindex : i < m) :
    checkedRange n (i + 1) m = some (chunkStart n m i, chunkStart n m (i + 1)) := by
  have hstop : chunkStart n m (i + 1) ≤ n :=
    chunkStart_succ_le hindex
  rw [chunkStart_succ] at hstop ⊢
  simp only [chunkStart, chunkLen] at hstop ⊢
  have hstart := Nat.le_trans (Nat.le_add_right _ _) hstop
  have hsub : checkedSub (i + 1) 1 = some i := by
    rw [checkedSub, if_pos (by omega), Nat.add_sub_cancel]
  have hmul : checkedMul i (n / m) = some (i * (n / m)) := by
    have hproduct := Nat.le_trans (Nat.le_add_right _ _) hstart
    rw [checkedMul, if_pos (by simp only [usizeMax]; omega)]
  have hadd : ∀ a b, a + b ≤ n → checkedAdd a b = some (a + b) := by
    intro a b hle
    rw [checkedAdd, if_pos (by simp only [usizeMax]; omega)]
  simp only [checkedRange, hsub, hmul, bind, Option.bind]
  rw [hadd _ _ hstart]
  dsimp only
  rw [hadd (n / m) _ (Nat.le_trans (Nat.le_add_left _ _) hstop)]
  dsimp only
  rw [hadd _ _ hstop]
  rfl

theorem size_of_mem_iff {set : BTreeSet UInt16} (hstop : stop ≤ 65536)
    (h : ∀ v : UInt16, v ∈ set ↔ start ≤ v.toNat ∧ v.toNat < stop) :
    set.size = stop - start := by
  let ids := (List.range' start (stop - start)).map (·.toUInt16)
  have hids : ∀ n ∈ List.range' start (stop - start), n.toUInt16.toNat = n := by
    intro n hn
    rw [List.mem_range'_1] at hn
    rw [Nat.toUInt16, UInt16.toNat_ofNat', Nat.mod_eq_of_lt (by omega)]
  have hset : set = Std.ExtTreeSet.ofList ids compare := by
    apply Std.ExtTreeSet.ext_mem
    intro v
    rw [h, Std.ExtTreeSet.mem_ofList, List.contains_iff_mem, List.mem_map]
    constructor
    · intro hv
      exact ⟨v.toNat, List.mem_range'_1.2 (by omega), UInt16.ofNat_toNat⟩
    · rintro ⟨n, hn, rfl⟩
      rw [hids n hn]
      rw [List.mem_range'_1] at hn
      omega
  have hdistinct : ids.Pairwise fun a b => ¬compare a b = .eq := by
    refine List.pairwise_map.2 ((List.pairwise_lt_range').imp_of_mem ?_)
    intro a b ha hb hlt heq
    have hsame := congrArg UInt16.toNat (Std.compare_eq_iff_eq.1 heq)
    rw [hids a ha, hids b hb] at hsame
    omega
  rw [hset, Std.ExtTreeSet.size_ofList hdistinct, List.length_map, List.length_range']

theorem chunkLen_antitone (n m : Nat) (h : i ≤ j) :
    chunkLen n m j ≤ chunkLen n m i ∧ chunkLen n m i ≤ chunkLen n m j + 1 := by
  simp only [chunkLen]
  split <;> split <;> omega

theorem splitsEvenly_of_chunks {assigned : Nat → BTreeSet UInt16} (hcount : n ≤ 65536)
    (hm : 0 < m) (hle : m ≤ n)
    (h : ∀ i < m, ∀ v : UInt16, v ∈ assigned (i + 1) ↔
      chunkStart n m i ≤ v.toNat ∧ v.toNat < chunkStart n m (i + 1)) :
    SplitsEvenly n m assigned := by
  have hstop : ∀ i < m, chunkStart n m (i + 1) ≤ n := by
    intro i hi
    exact chunkStart_succ_le hi
  have hsize : ∀ i < m, (assigned (i + 1)).size = chunkLen n m i := by
    intro i hi
    rw [size_of_mem_iff (Nat.le_trans (hstop i hi) hcount) (h i hi), chunkStart_succ,
      Nat.add_sub_cancel_left]
  have hlt : ∀ i, chunkStart n m i < chunkStart n m (i + 1) := by
    intro i
    have := chunkLen_pos hm hle i
    rw [chunkStart_succ]
    omega
  constructor
  case contiguous =>
    refine ⟨chunkStart n m, by simp [chunkStart], chunkStart_total hm, ?_⟩
    intro k hk hkm
    obtain ⟨i, rfl⟩ := Nat.exists_eq_add_of_lt hk
    rw [Nat.zero_add, Nat.add_sub_cancel]
    exact ⟨hlt i, h i (by omega)⟩
  case disjoint =>
    intro j k hj hjm hk hkm hne v hv hv'
    obtain ⟨i, rfl⟩ := Nat.exists_eq_add_of_lt hj
    obtain ⟨i', rfl⟩ := Nat.exists_eq_add_of_lt hk
    rw [Nat.zero_add, h _ (by omega)] at hv hv'
    exact hne (by rw [interval_unique (chunkStart_mono n m) hv hv'])
  case nonempty =>
    intro k hk hkm
    obtain ⟨i, rfl⟩ := Nat.exists_eq_add_of_lt hk
    rw [Nat.zero_add]
    have hi : i < m := by omega
    obtain ⟨v, hv⟩ := exists_mem_chunk hcount hle hi
    exact ⟨v, (h i hi v).2 hv⟩
  case cover =>
    intro v
    constructor
    · intro hv
      obtain ⟨i, hi, hbounds⟩ := exists_interval (f := chunkStart n m)
        (by simp [chunkStart] : _ ≤ v.toNat) (by rwa [chunkStart_total hm])
      exact ⟨i + 1, by omega, by omega, (h i hi v).2 hbounds⟩
    · rintro ⟨k, hk, hkm, hv⟩
      obtain ⟨i, rfl⟩ := Nat.exists_eq_add_of_lt hk
      rw [Nat.zero_add, h i (by omega)] at hv
      have := hstop i (by omega)
      omega
  case sizes =>
    intro j k hj hjk hkm
    obtain ⟨i, rfl⟩ := Nat.exists_eq_add_of_lt hj
    obtain ⟨i', rfl⟩ := Nat.exists_eq_add_of_lt (Nat.lt_of_lt_of_le hj hjk)
    rw [Nat.zero_add, Nat.zero_add, hsize i (by omega), hsize i' (by omega)]
    exact chunkLen_antitone n m (by omega)

theorem balanced_error (generation : Nat)
    (h : ¬(0 < n ∧ n ≤ 65536 ∧ 0 < m ∧ m ≤ n ∧ 0 < k ∧ k ≤ m)) :
    ∃ error, balanced generation n k m = .error error := by
  rw [balanced]
  split
  · exact ⟨_, rfl⟩
  split
  · exact ⟨_, rfl⟩
  split
  · exact ⟨_, rfl⟩
  · omega

/-- For every admissible count of vBuckets and members `balanced` splits the vBuckets evenly, in
arithmetic that does not overflow; for all other arguments it fails. -/
theorem balanced_split (generation n m : Nat) :
    (0 < n ∧ n ≤ 65536 ∧ 0 < m ∧ m ≤ n → ∃ assignment : Nat → VBucketAssignment,
      (∀ k, 0 < k → k ≤ m → balanced generation n k m = .ok (assignment k) ∧
        (assignment k).generation = generation ∧
        ∃ start stop, checkedRange n k m = some (start, stop) ∧ ∀ v : UInt16,
          v ∈ (assignment k).vbuckets ↔ start ≤ v.toNat ∧ v.toNat < stop) ∧
      SplitsEvenly n m fun k => (assignment k).vbuckets) ∧
    ∀ k, ¬(0 < n ∧ n ≤ 65536 ∧ 0 < m ∧ m ≤ n ∧ 0 < k ∧ k ≤ m) →
      ∃ error, balanced generation n k m = .error error := by
  refine ⟨?_, fun k h => balanced_error generation h⟩
  rintro ⟨-, hcount, hm, hle⟩
  have hok : ∀ i : Fin m, ∃ assignment, balanced generation n (i + 1) m = .ok assignment ∧
      assignment.generation = generation ∧ ∀ v : UInt16, v ∈ assignment.vbuckets ↔
        chunkStart n m i ≤ v.toNat ∧ v.toNat < chunkStart n m (i + 1) :=
    fun i => balanced_eq_ok generation hcount hle i.isLt
  choose assignment hbalanced hgeneration hchunk using hok
  refine ⟨fun k => if h : k - 1 < m then assignment ⟨k - 1, h⟩ else assignment ⟨0, hm⟩, ?_, ?_⟩
  · intro k hk hkm
    obtain ⟨i, rfl⟩ := Nat.exists_eq_add_of_lt hk
    rw [Nat.zero_add] at hkm ⊢
    simp only [Nat.add_sub_cancel, dif_pos (by omega : i < m)]
    exact ⟨hbalanced ⟨i, by omega⟩, hgeneration _, _, _, checkedRange_eq hcount (by omega),
      hchunk ⟨i, by omega⟩⟩
  · refine splitsEvenly_of_chunks hcount hm hle ?_
    intro i hi v
    simp only [Nat.add_sub_cancel, dif_pos hi]
    exact hchunk ⟨i, hi⟩ v

end VBucketAssignment

end RustDcp
