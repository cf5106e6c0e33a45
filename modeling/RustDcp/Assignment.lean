import RustDcp.Topology
import Mathlib.Order.Monotone.Basic

namespace RustDcp
set_option autoImplicit true

/-- Fenced set of vBuckets owned by one consumer. -/
structure VBucketAssignment where
  generation : Nat
  vbuckets : BTreeSet UInt16
  deriving DecidableEq

/-- The vBuckets of a range, each converted with `u16::try_from`. -/
def vbucketIds : List Nat → Result (List UInt16)
  | [] => .ok []
  | vbucket :: rest =>
    if vbucket < 2 ^ 16 then (vbucket.toUInt16 :: ·) <$> vbucketIds rest
    else .error (.invalidConfiguration
      (s!"vBucket identifier {vbucket} cannot be represented: out of range integral type " ++
       "conversion attempted"))

def chunkStart (vbucketCount totalMembers memberIndex : Nat) : Nat :=
  memberIndex * (vbucketCount / totalMembers) + min memberIndex (vbucketCount % totalMembers)

def chunkLen (vbucketCount totalMembers memberIndex : Nat) : Nat :=
  vbucketCount / totalMembers + if memberIndex < vbucketCount % totalMembers then 1 else 0

/-- Member numbers are one-based. -/
def VBucketAssignment.balanced (generation vbucketCount memberNumber totalMembers : Nat) :
    Result VBucketAssignment :=
  if vbucketCount = 0 ∨ vbucketCount > 65536 then
    .error (.invalidConfiguration "vBucket count must be in 1..=65536")
  else if totalMembers = 0 ∨ totalMembers > vbucketCount then
    .error (.invalidConfiguration s!"total members must be in 1..={vbucketCount}")
  else if memberNumber = 0 ∨ memberNumber > totalMembers then
    .error (.invalidConfiguration s!"member number must be in 1..={totalMembers}")
  else do
    let memberIndex := memberNumber - 1
    let vbuckets ← vbucketIds (List.range' (chunkStart vbucketCount totalMembers memberIndex)
      (chunkLen vbucketCount totalMembers memberIndex))
    return { generation, vbuckets := Std.ExtTreeSet.ofList vbuckets compare }

theorem chunkStart_succ (n t i : Nat) :
    chunkStart n t (i + 1) = chunkStart n t i + chunkLen n t i := by
  simp only [chunkStart, chunkLen, Nat.add_mul]
  split <;> omega

theorem chunkStart_mono (n t : Nat) : Monotone (chunkStart n t) := by
  refine monotone_nat_of_le_succ ?_
  intro i
  rw [chunkStart_succ]
  omega

theorem chunkStart_total (h : 0 < t) : chunkStart n t t = n := by
  have hlt := Nat.mod_lt n h
  have hdiv := Nat.div_add_mod n t
  rw [chunkStart, Nat.min_eq_right (by omega)]
  exact hdiv

theorem chunkStart_succ_le (h : i < t) : chunkStart n t (i + 1) ≤ n := by
  have hmono := chunkStart_mono n t (Nat.succ_le_of_lt h)
  rwa [chunkStart_total (Nat.zero_lt_of_lt h)] at hmono

theorem chunkLen_pos (ht : 0 < t) (hle : t ≤ n) (i : Nat) : 0 < chunkLen n t i := by
  have hquotient := Nat.div_pos hle ht
  rw [chunkLen]
  omega

theorem exists_mem_chunk (hcount : n ≤ 65536) (hle : t ≤ n) (hi : i < t) :
    ∃ v : UInt16, chunkStart n t i ≤ v.toNat ∧ v.toNat < chunkStart n t (i + 1) := by
  have hstop := chunkStart_succ_le (n := n) hi
  have hpos := chunkLen_pos (Nat.zero_lt_of_lt hi) hle i
  rw [chunkStart_succ] at hstop ⊢
  refine ⟨(chunkStart n t i).toUInt16, ?_⟩
  rw [Nat.toUInt16, UInt16.toNat_ofNat', Nat.mod_eq_of_lt (by omega)]
  omega

theorem exists_interval {f : Nat → Nat} (hzero : f 0 ≤ v) (hlt : v < f t) :
    ∃ i < t, f i ≤ v ∧ v < f (i + 1) := by
  induction t with
  | zero => omega
  | succ t ih =>
    by_cases hv : v < f t
    · obtain ⟨i, hi, hle, hlt⟩ := ih hv
      exact ⟨i, by omega, hle, hlt⟩
    · exact ⟨t, by omega, by omega, hlt⟩

theorem interval_unique {f : Nat → Nat} (hmono : Monotone f) (hi : f i ≤ v ∧ v < f (i + 1))
    (hj : f j ≤ v ∧ v < f (j + 1)) : i = j := by
  have hij : ¬ i + 1 ≤ j := fun hle => by
    have := hmono hle
    omega
  have hji : ¬ j + 1 ≤ i := fun hle => by
    have := hmono hle
    omega
  omega

theorem vbucketIds_eq_ok {ids : List Nat} (h : ∀ v ∈ ids, v < 2 ^ 16) :
    vbucketIds ids = .ok (ids.map (·.toUInt16)) := by
  induction ids with
  | nil => rfl
  | cons v ids ih =>
    obtain ⟨hv, hrest⟩ := List.forall_mem_cons.1 h
    rw [vbucketIds, if_pos hv, ih hrest]
    rfl

namespace VBucketAssignment

theorem balanced_eq_ok (generation : Nat) (hcount : vbucketCount ≤ 65536)
    (htotal : totalMembers ≤ vbucketCount) (hindex : memberIndex < totalMembers) :
    ∃ assignment, balanced generation vbucketCount (memberIndex + 1) totalMembers = .ok assignment ∧
      assignment.generation = generation ∧
      ∀ v : UInt16, v ∈ assignment.vbuckets ↔
        chunkStart vbucketCount totalMembers memberIndex ≤ v.toNat ∧
          v.toNat < chunkStart vbucketCount totalMembers (memberIndex + 1) := by
  have hend : chunkStart vbucketCount totalMembers (memberIndex + 1) ≤ vbucketCount :=
    chunkStart_succ_le hindex
  have hids : ∀ v ∈ List.range' (chunkStart vbucketCount totalMembers memberIndex)
      (chunkLen vbucketCount totalMembers memberIndex), v < 2 ^ 16 := by
    intro v hv
    rw [List.mem_range'_1, ← chunkStart_succ] at hv
    omega
  let ids := List.range' (chunkStart vbucketCount totalMembers memberIndex)
    (chunkLen vbucketCount totalMembers memberIndex)
  refine ⟨⟨generation, Std.ExtTreeSet.ofList (ids.map (·.toUInt16)) compare⟩, ?_, rfl, ?_⟩
  · rw [balanced, if_neg (by omega), if_neg (by omega), if_neg (by omega)]
    simp only [Nat.add_sub_cancel, vbucketIds_eq_ok hids]
    rfl
  · intro v
    rw [Std.ExtTreeSet.mem_ofList, List.contains_iff_mem, List.mem_map, chunkStart_succ]
    constructor
    · rintro ⟨n, hn, rfl⟩
      have hlt := hids n hn
      rw [Nat.toUInt16, UInt16.toNat_ofNat', Nat.mod_eq_of_lt hlt]
      exact List.mem_range'_1.1 hn
    · intro hv
      exact ⟨v.toNat, List.mem_range'_1.2 hv, UInt16.ofNat_toNat⟩

end VBucketAssignment

end RustDcp
