import RustDcp.Kubernetes
import RustDcp.OrderedMap
import Mathlib.Data.Finset.Card

namespace RustDcp.Kubernetes
set_option autoImplicit true

def Keyed (pods : Pods) : Prop := ∀ (name : String) pod, pods[name]? = some pod → pod.podName = name

theorem Keyed.empty : Keyed ∅ := by
  intro name pod h
  simp at h

theorem Keyed.insert (h : Keyed pods) (pod : PodState) : Keyed (pods.insert pod.podName pod) := by
  intro name other hget
  rw [Std.ExtTreeMap.getElem?_insert] at hget
  split at hget
  · rename_i hname
    cases hget
    exact Std.compare_eq_iff_eq.1 hname
  · exact h name other hget

theorem Keyed.erase (h : Keyed pods) (key : String) : Keyed (pods.erase key) := by
  intro name other hget
  rw [Std.ExtTreeMap.getElem?_erase] at hget
  split at hget
  · cases hget
  · exact h name other hget

theorem ordered_perm (pods : Pods) : (ordered pods).Perm (pods.toList.map (·.2)) :=
  List.perm_insertionSort _ _

theorem length_ordered (pods : Pods) : (ordered pods).length = pods.size :=
  OrderedMap.length_values (ordered_perm pods)

theorem mem_ordered (h : Keyed pods) : pod ∈ ordered pods ↔ pods[pod.podName]? = some pod := by
  rw [OrderedMap.mem_values (ordered_perm pods)]
  constructor
  · rintro ⟨name, hget⟩
    rw [h name pod hget]
    exact hget
  · intro hget
    exact ⟨pod.podName, hget⟩

def Present (pods : Pods) (identity : PodIdentity) : Prop :=
  ∃ pod, pods[identity.podName]? = some pod ∧ pod.uid = identity.uid

theorem present_of_getElem? {pod : PodState} {index : Nat} (hkeyed : Keyed pods)
    (h : (ordered pods)[index]? = some pod) :
    Present pods ⟨pod.podName, pod.uid⟩ :=
  ⟨pod, (mem_ordered hkeyed).1 (List.mem_of_getElem? h), rfl⟩

def position (pods : Pods) (identity : PodIdentity) : Option Nat :=
  (ordered pods).findIdx? fun pod => pod.podName = identity.podName ∧ pod.uid = identity.uid

theorem position_eq_some (h : position pods identity = some index) :
    ∃ pod, (ordered pods)[index]? = some pod ∧ identity = ⟨pod.podName, pod.uid⟩ := by
  obtain ⟨hlt, hpod, -⟩ := List.findIdx?_eq_some_iff_getElem.1 h
  obtain ⟨hname, huid⟩ := of_decide_eq_true hpod
  obtain ⟨podName, uid⟩ := identity
  exact ⟨_, List.getElem?_eq_getElem hlt, by rw [hname, huid]⟩

theorem position_lt (h : position pods identity = some index) : index < (ordered pods).length := by
  obtain ⟨pod, hpod, -⟩ := position_eq_some h
  exact (List.getElem?_eq_some_iff.1 hpod).1

theorem exists_position (hkeyed : Keyed pods) (h : Present pods identity) :
    ∃ index, position pods identity = some index := by
  obtain ⟨pod, hget, huid⟩ := h
  have hname := hkeyed _ _ hget
  have hmem : pod ∈ ordered pods := (mem_ordered hkeyed).2 (hname ▸ hget)
  rw [← Option.isSome_iff_exists, position, List.findIdx?_isSome, List.any_eq_true]
  exact ⟨pod, hmem, decide_eq_true ⟨hname, huid⟩⟩

theorem ordered_nodup (h : Keyed pods) : ((ordered pods).map (·.podName)).Nodup :=
  OrderedMap.nodup_values (ordered_perm pods) h

theorem position_of_getElem? {pod : PodState} {index : Nat} (hkeyed : Keyed pods)
    (h : (ordered pods)[index]? = some pod) :
    position pods ⟨pod.podName, pod.uid⟩ = some index := by
  obtain ⟨other, hother⟩ := exists_position hkeyed (present_of_getElem? hkeyed h)
  obtain ⟨found, hfound, hsame⟩ := position_eq_some hother
  have hname : pod.podName = found.podName := congrArg PodIdentity.podName hsame
  have hlt : index < ((ordered pods).map (·.podName)).length := by
    rw [List.length_map]
    exact (List.getElem?_eq_some_iff.1 h).1
  have heq : index = other := by
    refine (List.getElem?_inj hlt (ordered_nodup hkeyed)).1 ?_
    rw [List.getElem?_map, List.getElem?_map, h, hfound, Option.map_some, Option.map_some, hname]
  rw [hother, heq]

/-- The vBuckets are those of the chunk at the position of the pod, whatever the generation. -/
def Describes (vbucketCount : Nat) (pods : Pods) (identity : PodIdentity)
    (assignment : VBucketAssignment) : Prop :=
  ∃ index, position pods identity = some index ∧ ∀ v : UInt16, v ∈ assignment.vbuckets ↔
    chunkStart vbucketCount (ordered pods).length index ≤ v.toNat ∧
      v.toNat < chunkStart vbucketCount (ordered pods).length (index + 1)

theorem Describes.disjoint (h : Describes n pods identity assignment)
    (h' : Describes n pods identity' assignment') (hne : identity ≠ identity')
    (hv : v ∈ assignment.vbuckets) : v ∉ assignment'.vbuckets := by
  intro hv'
  obtain ⟨index, hindex, hchunk⟩ := h
  obtain ⟨index', hindex', hchunk'⟩ := h'
  cases interval_unique (chunkStart_mono _ _) ((hchunk v).1 hv) ((hchunk' v).1 hv')
  obtain ⟨pod, hpod, hidentity⟩ := position_eq_some hindex
  obtain ⟨pod', hpod', hidentity'⟩ := position_eq_some hindex'
  cases hpod.symm.trans hpod'
  exact hne (hidentity.trans hidentity'.symm)

theorem Describes.nonempty (h : Describes n pods identity assignment) (hcount : n ≤ 65536)
    (hsize : pods.size ≤ n) : ∃ v ∈ assignment.vbuckets, v.toNat < n := by
  obtain ⟨index, hindex, hchunk⟩ := h
  have hlt := position_lt hindex
  rw [← length_ordered] at hsize
  obtain ⟨v, hv⟩ := exists_mem_chunk hcount hsize hlt
  exact ⟨v, (hchunk v).2 hv, Nat.lt_of_lt_of_le hv.2 (chunkStart_succ_le hlt)⟩

namespace PodMembershipState

structure Formed (identity : PodIdentity) (n : Nat) (state : PodMembershipState) : Prop where
  identity : state.identity = identity
  count : state.vbucketCount = n
  active : Keyed state.active
  buffer : ∀ buffer, state.initializing = some buffer → Keyed buffer

theorem memberNumber_eq_ok {state : PodMembershipState}
    (h : position state.active state.identity = some index) :
    state.memberNumber = .ok (index + 1) := by
  rw [position] at h
  rw [memberNumber, h]

theorem derive_cases {identity : PodIdentity} (h : Formed identity n state) (hcount : n ≤ 65536)
    (hpresent : Present state.active identity) :
    if state.active.size ≤ n then
      ∃ snapshot, state.derive = .ok snapshot ∧
        Describes n state.active identity snapshot.assignment
    else ∃ error, state.derive = .error error := by
  obtain ⟨index, hindex⟩ := exists_position h.active hpresent
  have hlt := position_lt hindex
  have hnumber : state.memberNumber = .ok (index + 1) :=
    memberNumber_eq_ok (h.identity ▸ hindex)
  split
  · rename_i hsize
    rw [← length_ordered] at hsize
    obtain ⟨assignment, hok, -, hchunk⟩ :=
      VBucketAssignment.balanced_eq_ok state.generation hcount hsize hlt
    rw [derive, hnumber, h.count]
    simp only [bind, Except.bind, hok]
    exact ⟨_, rfl, index, hindex, hchunk⟩
  · rename_i hsize
    rw [← length_ordered] at hsize
    have herror : ∃ error, VBucketAssignment.balanced state.generation n (index + 1)
        (ordered state.active).length = .error error := by
      rw [VBucketAssignment.balanced]
      split
      · exact ⟨_, rfl⟩
      · rw [if_pos (by omega)]
        exact ⟨_, rfl⟩
    obtain ⟨error, herror⟩ := herror
    rw [derive, hnumber, h.count]
    simp only [bind, Except.bind, herror]
    exact ⟨_, rfl⟩

end PodMembershipState

/-- The watcher's snapshot describes its pods whenever its own pod is among them and they are not
more than the vBuckets. -/
structure Watch.Current (identity : PodIdentity) (n : Nat) (watch : Watch) : Prop where
  formed : watch.state.Formed identity n
  latest : Present watch.state.active identity → watch.state.active.size ≤ n →
    ∃ snapshot, watch.published = some snapshot ∧
      Describes n watch.state.active identity snapshot.assignment
  nonempty : ∀ snapshot, watch.published = some snapshot →
    ∃ v ∈ snapshot.assignment.vbuckets, v.toNat < n

namespace Watch

theorem Current.keep {watch : Watch} {state : PodMembershipState} (h : watch.Current identity n)
    (hformed : state.Formed identity n) (hactive : state.active = watch.state.active) :
    ({ watch with state } : Watch).Current identity n := by
  refine ⟨hformed, ?_, h.nonempty⟩
  dsimp only
  rw [hactive]
  exact h.latest

/-- The snapshot taken after a change describes the new pods, or there is none to describe them. -/
theorem Current.record_snapshot {watch : Watch} {state : PodMembershipState}
    (h : watch.Current identity n) (hcount : n ≤ 65536) (hformed : state.Formed identity n) :
    (watch.record state.snapshot).Current identity n := by
  have hfail : ¬ (Present state.active identity ∧ state.active.size ≤ n) →
      ({ watch with state } : Watch).Current identity n := by
    intro hnot
    exact ⟨hformed, fun hpresent hsize => absurd ⟨hpresent, hsize⟩ hnot, h.nonempty⟩
  rw [PodMembershipState.snapshot, hformed.identity]
  split
  · rename_i hget
    have habsent : ¬ Present state.active identity := by
      rintro ⟨pod, hpod, -⟩
      cases hget.symm.trans hpod
    split
    · exact hfail fun hpresent => habsent hpresent.1
    · exact hfail fun hpresent => habsent hpresent.1
  rename_i pod hget
  split
  · rename_i huid
    refine hfail ?_
    rintro ⟨⟨other, hother, hsame⟩, -⟩
    cases hget.symm.trans hother
    exact huid hsame
  rename_i huid
  have hpresent : Present state.active identity := ⟨pod, hget, not_not.1 huid⟩
  have hderive := PodMembershipState.derive_cases hformed hcount hpresent
  split at hderive
  · rename_i hsize
    obtain ⟨snapshot, hok, hdescribes⟩ := hderive
    rw [hok]
    refine ⟨⟨rfl, hformed.count, hformed.active, hformed.buffer⟩, ?_, ?_⟩
    · intro _ _
      exact ⟨snapshot, rfl, hdescribes⟩
    · intro other hother
      cases hother
      exact hdescribes.nonempty hcount hsize
  · rename_i hsize
    obtain ⟨error, herror⟩ := hderive
    rw [herror]
    exact hfail fun hboth => hsize hboth.2

theorem Current.record_commit {watch : Watch} {state : PodMembershipState}
    (h : watch.Current identity n) (hcount : n ≤ 65536)
    (hformed : state.Formed identity n) (hactive : state.active = watch.state.active)
    (hnext : Keyed next) : (watch.record (state.commit next)).Current identity n := by
  rw [PodMembershipState.commit]
  split
  · exact h.keep hformed hactive
  split
  · exact h.keep hformed hactive
  split
  · exact h.keep hformed hactive
  · exact h.record_snapshot hcount ⟨hformed.identity, hformed.count, hnext, hformed.buffer⟩

theorem Current.observe {watch : Watch} (h : watch.Current identity n) (hcount : n ≤ 65536)
    (event : PodWatchEvent) : (watch.observe event).Current identity n := by
  have hformed := h.formed
  rw [Watch.observe]
  cases event with
  | init =>
    refine h.keep ⟨hformed.identity, hformed.count, hformed.active, ?_⟩ rfl
    intro buffer hbuffer
    cases hbuffer
    exact Keyed.empty
  | initApply pod =>
    rw [PodMembershipState.apply.eq_def]
    dsimp only
    split
    · exact h.keep hformed rfl
    rename_i buffer hbuffer
    split
    · exact h.keep hformed rfl
    split
    · refine h.keep ⟨hformed.identity, hformed.count, hformed.active, ?_⟩ rfl
      intro other hother
      cases hother
      exact (hformed.buffer buffer hbuffer).insert pod
    · exact h.keep hformed rfl
  | initDone =>
    rw [PodMembershipState.apply.eq_def]
    dsimp only
    split
    · exact h.keep hformed rfl
    rename_i next hnext
    refine h.record_commit hcount ?_ rfl (hformed.buffer next hnext)
    refine ⟨hformed.identity, hformed.count, hformed.active, ?_⟩
    intro buffer hbuffer
    cases hbuffer
  | apply pod =>
    rw [PodMembershipState.apply.eq_def]
    dsimp only
    split
    · exact h.keep hformed rfl
    refine h.record_commit hcount hformed rfl ?_
    split
    · exact hformed.active.insert pod
    · exact hformed.active.erase _
  | delete pod =>
    rw [PodMembershipState.apply.eq_def]
    dsimp only
    split
    · exact h.keep hformed rfl
    refine h.record_commit hcount hformed rfl ?_
    split
    · exact hformed.active.erase _
    · exact hformed.active

theorem Current.run {watch : Watch} (h : watch.Current identity n) (hcount : n ≤ 65536)
    (events : List PodWatchEvent) : (watch.run events).Current identity n := by
  induction events generalizing watch with
  | nil => exact h
  | cons event events ih => exact ih (h.observe hcount event)

end Watch

theorem PodMembershipState.new_eq_ok {identity : PodIdentity}
    (h : PodMembershipState.new identity n = .ok state) :
    n ≤ 65536 ∧ (Watch.start state).Current identity n := by
  obtain ⟨assignment, hassignment, h⟩ := bind_eq_ok.1 h
  cases h
  constructor
  · by_contra hlarge
    rw [VBucketAssignment.balanced, if_pos (by omega)] at hassignment
    cases hassignment
  · refine ⟨⟨rfl, rfl, Keyed.empty, ?_⟩, ?_, ?_⟩
    · intro buffer hbuffer
      cases hbuffer
    · rintro ⟨pod, hpod, -⟩
      simp [Watch.start] at hpod
    · intro snapshot hsnapshot
      cases hsnapshot

/-- A history of watch events that ends with the given pods, the watcher's own pod among them, and
after which a snapshot is published. -/
structure Ends (n : Nat) (active : Pods) (identity : PodIdentity) (watch : Watch) : Prop where
  run : ∃ initial events, PodMembershipState.new identity n = .ok initial ∧
    watch = (Watch.start initial).run events
  same : watch.state.active = active
  present : Present active identity
  published : watch.published.isSome

theorem Ends.current (h : Ends n active identity watch) :
    n ≤ 65536 ∧ watch.Current identity n := by
  obtain ⟨initial, events, hnew, rfl⟩ := h.run
  obtain ⟨hcount, hstart⟩ := PodMembershipState.new_eq_ok hnew
  exact ⟨hcount, hstart.run hcount events⟩

theorem Ends.keyed (h : Ends n active identity watch) : Keyed active := by
  rw [← h.same]
  exact h.current.2.formed.active

theorem Watch.assigned_eq {watch : Watch} (h : watch.published = some snapshot) :
    watch.assigned = snapshot.assignment.vbuckets := by
  rw [Watch.assigned, h]
  rfl

theorem Ends.describes (h : Ends n active identity watch) (hsize : active.size ≤ n) :
    ∃ assignment, watch.assigned = assignment.vbuckets ∧
      Describes n active identity assignment := by
  have hlatest := h.current.2.latest
  rw [h.same] at hlatest
  obtain ⟨snapshot, hpublished, hdescribes⟩ := hlatest h.present hsize
  exact ⟨snapshot.assignment, Watch.assigned_eq hpublished, hdescribes⟩

theorem Ends.nonempty (h : Ends n active identity watch) : ∃ v ∈ watch.assigned, v.toNat < n := by
  obtain ⟨snapshot, hsnapshot⟩ := Option.isSome_iff_exists.1 h.published
  rw [Watch.assigned_eq hsnapshot]
  exact h.current.2.nonempty snapshot hsnapshot

theorem Ends.disjoint (h : Ends n active identity watch) (h' : Ends n active identity' watch')
    (hne : identity ≠ identity') (hsize : active.size ≤ n) (hv : v ∈ watch.assigned) :
    v ∉ watch'.assigned := by
  obtain ⟨assignment, hassigned, hdescribes⟩ := h.describes hsize
  obtain ⟨assignment', hassigned', hdescribes'⟩ := h'.describes hsize
  rw [hassigned] at hv
  rw [hassigned']
  exact hdescribes.disjoint hdescribes' hne hv

/-- The watchers of all pods of the map deal out every vBucket once. -/
def Partition (n : Nat) (active : Pods) (watches : String → Watch) : Prop :=
  (∀ name ∈ active, ∀ other ∈ active, name ≠ other →
    ∀ v ∈ (watches name).assigned, v ∉ (watches other).assigned) ∧
  ∀ v : UInt16, v.toNat < n → ∃! name, name ∈ active ∧ v ∈ (watches name).assigned

/-- There is a watcher for each pod of the map, under its name. -/
def AllEnd (n : Nat) (active : Pods) (watches : String → Watch) : Prop :=
  ∀ name pod, active[name]? = some pod → Ends n active ⟨name, pod.uid⟩ (watches name)

theorem AllEnd.ends (h : AllEnd n active watches) (hname : name ∈ active) :
    ∃ uid, Ends n active ⟨name, uid⟩ (watches name) := by
  rw [Std.ExtTreeMap.mem_iff_isSome_getElem?, Option.isSome_iff_exists] at hname
  obtain ⟨pod, hget⟩ := hname
  exact ⟨pod.uid, h name pod hget⟩

theorem AllEnd.disjoint (h : AllEnd n active watches) (hsize : active.size ≤ n)
    (hname : name ∈ active) (hother : other ∈ active) (hne : name ≠ other)
    (hv : v ∈ (watches name).assigned) : v ∉ (watches other).assigned := by
  obtain ⟨uid, hends⟩ := h.ends hname
  obtain ⟨uid', hends'⟩ := h.ends hother
  exact hends.disjoint hends' (fun heq => hne (congrArg PodIdentity.podName heq)) hsize hv

theorem AllEnd.cover (h : AllEnd n active watches) (hkeyed : Keyed active) (hsome : 0 < active.size)
    (hsize : active.size ≤ n) (hv : v.toNat < n) :
    ∃ name ∈ active, v ∈ (watches name).assigned := by
  rw [← length_ordered] at hsome
  obtain ⟨index, hlt, hle, hlt'⟩ := exists_interval
    (f := chunkStart n (ordered active).length)
    (by simp [chunkStart] : _ ≤ v.toNat) (by rwa [chunkStart_total hsome])
  have hpod := List.getElem?_eq_getElem hlt
  have hget := (mem_ordered hkeyed).1 (List.getElem_mem hlt)
  obtain ⟨assignment, hassigned, index', hindex, hchunk⟩ := (h _ _ hget).describes hsize
  cases (position_of_getElem? hkeyed hpod).symm.trans hindex
  refine ⟨_, Std.ExtTreeMap.mem_iff_isSome_getElem?.2 (Option.isSome_of_eq_some hget), ?_⟩
  rw [hassigned]
  exact (hchunk v).2 ⟨hle, hlt'⟩

theorem AllEnd.size_le (h : AllEnd n active watches) (hpartition : Partition n active watches) :
    active.size ≤ n := by
  have hown : ∀ name, ∃ v : UInt16, name ∈ active → v ∈ (watches name).assigned ∧ v.toNat < n := by
    intro name
    by_cases hname : name ∈ active
    · obtain ⟨uid, hends⟩ := h.ends hname
      obtain ⟨v, hv, hlt⟩ := hends.nonempty
      exact ⟨v, fun _ => ⟨hv, hlt⟩⟩
    · exact ⟨0, fun hmem => absurd hmem hname⟩
  choose own hown using hown
  have hcard : active.keys.toFinset.card = active.size := by
    rw [List.toFinset_card_of_nodup Std.ExtTreeMap.nodup_keys, Std.ExtTreeMap.length_keys]
  rw [← hcard, ← Finset.card_range n]
  refine Finset.card_le_card_of_injOn (fun name => (own name).toNat) ?_ ?_
  · intro name hname
    have hmem := Std.ExtTreeMap.mem_keys.1 (List.mem_toFinset.1 hname)
    exact Finset.mem_coe.2 (Finset.mem_range.2 (hown name hmem).2)
  · intro name hname other hother heq
    have hmem := Std.ExtTreeMap.mem_keys.1 (List.mem_toFinset.1 hname)
    have hmem' := Std.ExtTreeMap.mem_keys.1 (List.mem_toFinset.1 hother)
    by_contra hne
    refine hpartition.1 name hmem other hmem' hne _ (hown name hmem).1 ?_
    rw [UInt16.toNat_inj.1 heq]
    exact (hown other hmem').1

/-- Watchers that end with the same pods agree exactly if these are not more than the vBuckets. -/
theorem assignments_agree (h : Ends n active identity watch) (h' : Ends n active identity' watch')
    (hne : identity ≠ identity') :
    (active.size ≤ n → ∀ v ∈ watch.assigned, v ∉ watch'.assigned) ∧
      ∀ watches, AllEnd n active watches → (Partition n active watches ↔ active.size ≤ n) := by
  refine ⟨fun hsize v hv => h.disjoint h' hne hsize hv, ?_⟩
  intro watches hall
  refine ⟨hall.size_le, fun hsize => ?_⟩
  have hsome : 0 < active.size := by
    obtain ⟨index, hindex⟩ := exists_position h.keyed h.present
    rw [← length_ordered]
    exact Nat.lt_of_le_of_lt (Nat.zero_le _) (position_lt hindex)
  refine ⟨fun name hname other hother hne v hv => hall.disjoint hsize hname hother hne hv, ?_⟩
  intro v hv
  obtain ⟨name, hname, hin⟩ := hall.cover h.keyed hsome hsize hv
  refine ⟨name, ⟨hname, hin⟩, ?_⟩
  rintro other ⟨hother, hin'⟩
  by_contra hne
  exact hall.disjoint hsize hother hname hne hin' hin

def samplePod (podName uid : String) (createdAtMillis : Nat) : PodState :=
  { podName, uid, createdAtMillis, ready := true, terminating := false }

def firstPod : PodState := samplePod "dcp-0" "u0" 1000

def secondPod : PodState := samplePod "dcp-1" "u1" 2000

def bothPods : Pods := ((∅ : Pods).insert "dcp-0" firstPod).insert "dcp-1" secondPod

def sampleStart (pod : PodState) (n : Nat) : Watch :=
  .start {
    identity := ⟨pod.podName, pod.uid⟩
    vbucketCount := n
    generation := 0
    active := ∅
    initializing := none
    initialized := false
    publishedOnce := false }

def joined (own other : PodState) : List PodWatchEvent :=
  [.init, .initApply own, .initDone, .apply other]

def listed (own other : PodState) : List PodWatchEvent :=
  [.init, .initApply other, .initApply own, .initDone]

theorem sample_ends (own : PodState) (events : List PodWatchEvent)
    (hnew : PodMembershipState.new ⟨own.podName, own.uid⟩ n = .ok (sampleStart own n).state)
    (hactive : ((sampleStart own n).run events).state.active = bothPods)
    (hown : bothPods[own.podName]? = some own)
    (hpublished : ((sampleStart own n).run events).published.isSome) :
    Ends n bothPods ⟨own.podName, own.uid⟩ ((sampleStart own n).run events) :=
  ⟨⟨_, events, hnew, rfl⟩, hactive, ⟨own, hown, rfl⟩, hpublished⟩

theorem assignments_agree_sample :
    ((sampleStart firstPod 4).run (joined firstPod secondPod)).state.generation = 2 ∧
      ((sampleStart secondPod 4).run (listed secondPod firstPod)).state.generation = 1 ∧
      ∀ v ∈ ((sampleStart firstPod 4).run (joined firstPod secondPod)).assigned,
        v ∉ ((sampleStart secondPod 4).run (listed secondPod firstPod)).assigned := by
  refine ⟨by decide +kernel, by decide +kernel, (assignments_agree
    (sample_ends firstPod (joined firstPod secondPod) ?_ ?_ ?_ ?_)
    (sample_ends secondPod (listed secondPod firstPod) ?_ ?_ ?_ ?_) ?_).1 ?_⟩
  all_goals decide +kernel

/-- With one vBucket the second pod's arrival is an error that leaves both pods with the snapshot
of before, in which each is alone. -/
theorem assignments_overlap :
    Ends 1 bothPods ⟨"dcp-0", "u0"⟩ ((sampleStart firstPod 1).run (joined firstPod secondPod)) ∧
      Ends 1 bothPods ⟨"dcp-1", "u1"⟩ ((sampleStart secondPod 1).run (joined secondPod firstPod)) ∧
      0 ∈ ((sampleStart firstPod 1).run (joined firstPod secondPod)).assigned ∧
      0 ∈ ((sampleStart secondPod 1).run (joined secondPod firstPod)).assigned := by
  refine ⟨sample_ends firstPod (joined firstPod secondPod) ?_ ?_ ?_ ?_,
    sample_ends secondPod (joined secondPod firstPod) ?_ ?_ ?_ ?_, ?_, ?_⟩
  all_goals decide +kernel

end RustDcp.Kubernetes
