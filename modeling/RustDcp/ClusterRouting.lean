import RustDcp.ClusterConfig
import RustDcp.OpenedStreams

namespace RustDcp
set_option autoImplicit true

theorem mapM_eq_ok {f : α → Except ε β} {xs : List α} (h : xs.mapM f = .ok ys) :
    (∀ y ∈ ys, ∃ x ∈ xs, f x = .ok y) ∧ ∀ x ∈ xs, ∃ y ∈ ys, f x = .ok y := by
  induction xs generalizing ys with
  | nil =>
    cases h
    simp
  | cons x xs ih =>
    rw [List.mapM_cons, bind_eq_ok] at h
    obtain ⟨y, hy, h⟩ := h
    obtain ⟨rest, hrest, h⟩ := bind_eq_ok.1 h
    cases h
    obtain ⟨hback, hforth⟩ := ih hrest
    constructor
    · refine List.forall_mem_cons.2 ⟨⟨x, List.mem_cons_self, hy⟩, ?_⟩
      intro other hother
      obtain ⟨source, hsource, hf⟩ := hback other hother
      exact ⟨source, List.mem_cons_of_mem _ hsource, hf⟩
    · refine List.forall_mem_cons.2 ⟨⟨y, List.mem_cons_self, hy⟩, ?_⟩
      intro source hsource
      obtain ⟨other, hother, hf⟩ := hforth source hsource
      exact ⟨other, List.mem_cons_of_mem _ hother, hf⟩

theorem insertMany_cases {ν : Type} {m : BTreeMap UInt16 ν} {entries : List (UInt16 × ν)}
    {k : UInt16} {value : ν} (h : (m.insertMany entries)[k]? = some value) :
    (k, value) ∈ entries ∨ m[k]? = some value := by
  induction entries generalizing m with
  | nil => exact .inr (by simpa using h)
  | cons entry entries ih =>
    obtain ⟨key, first⟩ := entry
    rw [Std.ExtTreeMap.insertMany_cons] at h
    rcases ih h with hmem | hold
    · exact .inl (List.mem_cons_of_mem _ hmem)
    · rw [Std.ExtTreeMap.getElem?_insert] at hold
      split at hold
      · rename_i heq
        cases hold
        rw [Std.LawfulEqCmp.eq_of_compare heq]
        exact .inl List.mem_cons_self
      · exact .inr hold

theorem mem_of_getElem?_ofList {ν : Type} {entries : List (UInt16 × ν)} {k : UInt16}
    {value : ν} (h : (Std.ExtTreeMap.ofList entries compare)[k]? = some value) :
    (k, value) ∈ entries := by
  rw [Std.ExtTreeMap.ofList_eq_insertMany_empty] at h
  rcases insertMany_cases h with hmem | hnone
  · exact hmem
  · simp at hnone

theorem routeNode_eq_some (h : routeNode index endpoints vbucket role = .ok (some node)) :
    ∃ endpoint ∈ endpoints, endpoint.id = node := by
  simp only [routeNode] at h
  split at h
  · cases h
  split at h
  · cases h
  split at h
  · rename_i endpoint hendpoint
    cases h
    exact ⟨endpoint, List.mem_of_getElem? hendpoint, rfl⟩
  · cases h

/-- Every node of the route is one of the endpoints. -/
def VBucketRoute.Within (route : VBucketRoute) (endpoints : List KvEndpoint) : Prop :=
  ∀ node ∈ route.active :: route.replicas, ∃ endpoint ∈ endpoints, endpoint.id = node

theorem buildRoute_eq_ok
    (h : buildRoute replicaCount endpoints (row, vbucket) = .ok (v, route)) :
    v = .ofNat vbucket ∧ vbucket ≤ 65535 ∧ route.Within endpoints := by
  simp only [buildRoute] at h
  split at h
  · cases h
  obtain ⟨active, hactive, h⟩ := bind_eq_ok.1 h
  cases active with
  | none => cases h
  | some active =>
    obtain ⟨replicas, hreplicas, h⟩ := bind_eq_ok.1 h
    split at h
    · cases h
    rename_i hle
    cases h
    refine ⟨rfl, Nat.not_lt.1 hle, List.forall_mem_cons.2 ⟨routeNode_eq_some hactive, ?_⟩⟩
    intro node hnode
    rw [List.reduceOption_mem_iff] at hnode
    obtain ⟨index, -, hindex⟩ := (mapM_eq_ok hreplicas).1 _ hnode
    exact routeNode_eq_some hindex

theorem buildVbucketRoutes_eq_ok (h : buildVbucketRoutes map endpoints = .ok routes) :
    map.vBucketMap.length ≤ 65536 ∧
      (∀ v : UInt16, v ∈ routes ↔ v.toNat < map.vBucketMap.length) ∧
      ∀ (v : UInt16) route, routes[v]? = some route → route.Within endpoints := by
  simp only [buildVbucketRoutes] at h
  split at h
  · cases h
  split at h
  · cases h
  split at h
  · cases h
  rename_i hlength
  obtain ⟨entries, hentries, h⟩ := bind_eq_ok.1 h
  cases h
  obtain ⟨hback, hforth⟩ := mapM_eq_ok hentries
  refine ⟨Nat.not_lt.1 hlength, ?_, ?_⟩
  · intro v
    rw [Std.ExtTreeMap.mem_ofList, List.contains_iff_mem, List.mem_map]
    constructor
    · rintro ⟨entry, hentry, rfl⟩
      obtain ⟨⟨row, i⟩, hrow, hroute⟩ := hback entry hentry
      obtain ⟨heq, hle, -⟩ := buildRoute_eq_ok hroute
      have hlt := (List.mem_zipIdx hrow).2.1
      rw [heq, UInt16.toNat_ofNat_of_lt' (Nat.lt_succ_of_le hle)]
      simpa using hlt
    · intro hv
      have hrow : (map.vBucketMap[v.toNat], v.toNat) ∈ map.vBucketMap.zipIdx := by
        rw [List.mem_zipIdx_iff_getElem?]
        exact List.getElem?_eq_getElem hv
      obtain ⟨entry, hentry, hroute⟩ := hforth _ hrow
      refine ⟨entry, hentry, ?_⟩
      rw [(buildRoute_eq_ok hroute).1, UInt16.ofNat_toNat]
  · intro v route hroute
    obtain ⟨⟨row, i⟩, -, hrow⟩ := hback _ (mem_of_getElem?_ofList hroute)
    exact (buildRoute_eq_ok hrow).2.2

/-- The routes of an accepted configuration: the vBuckets from 0 on, each with known nodes. -/
structure ClusterTopology.Closed (topology : ClusterTopology) (count : Nat) : Prop where
  bounded : count ≤ 65536
  numbered : ∀ v : UInt16, v ∈ topology.vbuckets ↔ v.toNat < count
  routed : ∀ (v : UInt16) route, topology.vbuckets[v]? = some route →
    ∀ node ∈ route.active :: route.replicas, node ∈ topology.endpoints

theorem RawBucketConfig.build_closed {self : RawBucketConfig}
    (h : self.build sourceAddress tls network = .ok topology) :
    topology.Closed self.vBucketServerMap.vBucketMap.length := by
  simp only [build, bind_eq_ok] at h
  obtain ⟨-, -, host, -, name, -, endpointList, -, h⟩ := h
  split at h
  · cases h
  obtain ⟨routes, hroutes, h⟩ := bind_eq_ok.1 h
  cases h
  obtain ⟨hbounded, hnumbered, hwithin⟩ := buildVbucketRoutes_eq_ok hroutes
  refine ⟨hbounded, hnumbered, ?_⟩
  intro v route hroute node hnode
  obtain ⟨endpoint, hendpoint, rfl⟩ := hwithin v route hroute node hnode
  rw [Std.ExtTreeMap.mem_ofList, List.contains_iff_mem, List.map_map]
  exact List.mem_map_of_mem hendpoint

namespace ClusterTopology

theorem Closed.route {self : ClusterTopology} (h : self.Closed count) {v : UInt16}
    (hv : v.toNat < count) : ∃ route, self.vbuckets[v]? = some route :=
  Option.isSome_iff_exists.1 (Std.ExtTreeMap.mem_iff_isSome_getElem?.1 ((h.numbered v).2 hv))

theorem Closed.activeNode {self : ClusterTopology} (h : self.Closed count) {v : UInt16}
    (hv : v.toNat < count) : ∃ node, self.activeNode v = .ok node := by
  obtain ⟨route, hroute⟩ := h.route hv
  exact ⟨route.active, by rw [ClusterTopology.activeNode, hroute]⟩

theorem Closed.activeEndpoint {self : ClusterTopology} (h : self.Closed count) {v : UInt16}
    (hv : v.toNat < count) : ∃ endpoint, self.activeEndpoint v = .ok endpoint := by
  obtain ⟨route, hroute⟩ := h.route hv
  obtain ⟨endpoint, hendpoint⟩ := Option.isSome_iff_exists.1
    (Std.ExtTreeMap.mem_iff_isSome_getElem?.1 (h.routed v route hroute _ List.mem_cons_self))
  refine ⟨endpoint, bind_eq_ok.2 ⟨route.active, ?_, ?_⟩⟩
  · rw [ClusterTopology.activeNode, hroute]
  · rw [hendpoint]

end ClusterTopology

theorem groupByNode_ok {topology : ClusterTopology}
    (h : ∀ v ∈ vbuckets, ∃ node, topology.activeNode v = .ok node)
    (grouped : BTreeMap NodeId (List UInt16)) :
    ∃ after, groupByNode topology grouped vbuckets = .ok after := by
  induction vbuckets generalizing grouped with
  | nil => exact ⟨grouped, rfl⟩
  | cons v vbuckets ih =>
    obtain ⟨⟨node, hnode⟩, hrest⟩ := List.forall_mem_cons.1 h
    rw [groupByNode, hnode]
    exact ih hrest _

theorem groupByNode_home {topology : ClusterTopology}
    {grouped after : BTreeMap NodeId (List UInt16)}
    (hhome : ∀ (node : NodeId) group, grouped[node]? = some group →
      ∀ v ∈ group, topology.activeNode v = .ok node)
    (h : groupByNode topology grouped vbuckets = .ok after) (node : NodeId) :
    ∀ group, after[node]? = some group → ∀ v ∈ group, topology.activeNode v = .ok node := by
  induction vbuckets generalizing grouped with
  | nil =>
    cases h
    exact hhome node
  | cons u vbuckets ih =>
    simp only [groupByNode] at h
    split at h
    · cases h
    rename_i home hu
    refine ih ?_ h
    intro other group hgroup v hv
    simp only [Std.ExtTreeMap.getElem?_insert, Std.compare_eq_iff_eq,
      Std.ExtTreeMap.getD_eq_getD_getElem?] at hgroup
    split at hgroup
    · rename_i heq
      subst heq
      cases hgroup
      rcases List.mem_append.1 hv with hv | hv
      · cases hold : grouped[home]? with
        | none => simp [hold] at hv
        | some old => exact hhome home old hold v (by simpa [hold] using hv)
      · rw [List.mem_singleton.1 hv, hu]
    · exact hhome other group hgroup v hv

/-- The vBuckets of each node, and nothing else. -/
structure ClusterTopology.Groups (topology : ClusterTopology) (vbuckets : List UInt16)
    (grouped : BTreeMap NodeId (List UInt16)) : Prop where
  sorted : ∀ (node : NodeId) group, grouped[node]? = some group → group.Pairwise (· < ·)
  disjoint : ∀ (node other : NodeId) group otherGroup, grouped[node]? = some group →
    grouped[other]? = some otherGroup → node ≠ other → group.Disjoint otherGroup
  exact : ∀ v : UInt16, v ∈ vbuckets ↔ ∃ (node : NodeId) (group : List UInt16),
    grouped[node]? = some group ∧ v ∈ group
  home : ∀ (node : NodeId) group, grouped[node]? = some group →
    ∀ v ∈ group, topology.activeNode v = .ok node

theorem ClusterTopology.activeVbucketsByNode_groups {self : ClusterTopology}
    {vbuckets : List UInt16} (h : self.activeVbucketsByNode vbuckets = .ok grouped) :
    self.Groups vbuckets grouped := by
  have hmem := activeVbucketsByNode_mem h
  obtain ⟨collected, hcollected, rfl⟩ := Result.map_eq_ok h
  have hget : ∀ (node : NodeId) group,
      (collected.map fun _ partitions => (partitions.insertionSort (· ≤ ·)).dedup)[node]? =
        some group →
      ∃ raw, collected[node]? = some raw ∧ group = (raw.insertionSort (· ≤ ·)).dedup := by
    intro node group hgroup
    rw [Std.ExtTreeMap.getElem?_map, Option.map_eq_some_iff] at hgroup
    obtain ⟨raw, hraw, rfl⟩ := hgroup
    exact ⟨raw, hraw, rfl⟩
  have hhome : ∀ (node : NodeId) group,
      (collected.map fun _ partitions => (partitions.insertionSort (· ≤ ·)).dedup)[node]? =
        some group → ∀ v ∈ group, self.activeNode v = .ok node := by
    intro node group hgroup v hv
    obtain ⟨raw, hraw, rfl⟩ := hget node group hgroup
    exact groupByNode_home (by simp) hcollected node raw hraw v (by simpa using hv)
  refine ⟨?_, ?_, ?_, hhome⟩
  · intro node group hgroup
    obtain ⟨raw, -, rfl⟩ := hget node group hgroup
    have hle : (raw.insertionSort (· ≤ ·)).dedup.Pairwise (· ≤ ·) :=
      (List.pairwise_insertionSort _ raw).sublist (List.dedup_sublist _)
    exact (hle.and (List.nodup_dedup _)).imp fun h => UInt16.lt_of_le_of_ne h.1 h.2
  · intro node other group otherGroup hgroup hother hne v hv hv'
    have hsame := (hhome node group hgroup v hv).symm.trans (hhome other otherGroup hother v hv')
    exact hne (Except.ok.inj hsame)
  · intro v
    rw [← hmem v, List.mem_flatMap]
    constructor
    · rintro ⟨⟨node, group⟩, hentry, hv⟩
      exact ⟨node, group, Std.ExtTreeMap.mem_toList_iff_getElem?_eq_some.1 hentry, hv⟩
    · rintro ⟨node, group, hgroup, hv⟩
      exact ⟨(node, group), Std.ExtTreeMap.mem_toList_iff_getElem?_eq_some.2 hgroup, hv⟩

theorem Opening.insertPartitions_ok {entries : List (UInt16 × PartitionOpenState)}
    (hdistinct : (entries.map Prod.fst).Nodup) {opening : Opening}
    (habsent : ∀ entry ∈ entries, opening.effectiveCheckpoints[entry.1]? = none ∧
      opening.endSeqnos[entry.1]? = none) :
    ∃ after, opening.insertPartitions entries = .ok after := by
  induction entries generalizing opening with
  | nil => exact ⟨opening, rfl⟩
  | cons entry entries ih =>
    obtain ⟨v, state⟩ := entry
    obtain ⟨⟨heffective, hends⟩, hrest⟩ := List.forall_mem_cons.1 habsent
    rw [List.map_cons, List.nodup_cons] at hdistinct
    have hnew : ¬(opening.effectiveCheckpoints.contains v = true ∨
        opening.endSeqnos.contains v = true) := by
      simp only [Std.ExtTreeMap.contains_eq_isSome_getElem?, heffective, hends, Option.isSome_none,
        Bool.false_eq_true, or_self, not_false_eq_true]
    rw [insertPartitions, if_neg hnew]
    apply ih hdistinct.2
    intro other hother
    have hne : v ≠ other.1 := fun heq =>
      hdistinct.1 (List.mem_map.2 ⟨other, hother, heq.symm⟩)
    simp only [Std.ExtTreeMap.getElem?_insert, Std.compare_eq_iff_eq, if_neg hne]
    exact hrest other hother

theorem ClusterTopology.Groups.opensOnce {grouped : BTreeMap NodeId (List UInt16)}
    {vbuckets : List UInt16} (h : ClusterTopology.Groups topology vbuckets grouped)
    (hgroups : grouped.toList = before ++ (node, group) :: after)
    (hbefore : openNodes config request answers .empty before = .ok opening)
    (hnode : openTokioNode config request node group opening.selection (answers node) =
      .ok (stream, selection, rollbacks)) (count : Nat) (known : Option CollectionSelection) :
    ∃ next, Opening.insertPartitions { opening with
      streams := opening.streams ++ [stream]
      rollbackCount := count
      selection := known } stream.report.partitions.toList = .ok next := by
  have hcovers := (openNodes_covers (Opening.covers_empty request) hbefore).1
  rw [List.nil_append] at hcovers
  have hopened := openTokioNode_opened hnode
  have hkeys := OrderedMap.nodup_toList_fst grouped
  rw [hgroups, List.map_append, List.map_cons, List.nodup_middle, List.nodup_cons,
    ← List.map_append] at hkeys
  have hmem : ∀ entry ∈ before ++ (node, group) :: after, grouped[entry.1]? = some entry.2 := by
    intro entry hentry
    rw [← hgroups] at hentry
    exact Std.ExtTreeMap.mem_toList_iff_getElem?_eq_some.1 hentry
  apply Opening.insertPartitions_ok
  · exact OrderedMap.nodup_toList_fst _
  · intro entry hentry
    have hv : entry.1 ∈ group := (hopened.covers entry.1).1
      ⟨entry.2, Std.ExtTreeMap.mem_toList_iff_getElem?_eq_some.1 hentry⟩
    apply hcovers.absent
    intro hdone
    obtain ⟨⟨other, otherGroup⟩, hother, hv'⟩ := List.mem_flatMap.1 hdone
    have hne : node ≠ other := by
      intro heq
      exact hkeys.1 (List.mem_map.2 ⟨_, List.mem_append_left _ hother, heq.symm⟩)
    exact h.disjoint node other group otherGroup (hmem (node, group) (by simp))
      (hmem (other, otherGroup) (List.mem_append_left _ hother)) hne hv hv'

/-- An accepted configuration has routes for exactly its vBuckets, to known nodes only; grouping
any of them by node splits them, so that no vBucket is opened on two nodes. -/
theorem RawBucketConfig.closed_routing {self : RawBucketConfig}
    (h : self.build sourceAddress tls network = .ok topology) :
    topology.Closed self.vBucketServerMap.vBucketMap.length ∧
    (∀ v : UInt16, v.toNat < self.vBucketServerMap.vBucketMap.length →
      ∃ endpoint, topology.activeEndpoint v = .ok endpoint) ∧
    (∀ vbuckets : List UInt16,
      (∀ v ∈ vbuckets, v.toNat < self.vBucketServerMap.vBucketMap.length) →
      ∃ grouped, topology.activeVbucketsByNode vbuckets = .ok grouped ∧
        topology.Groups vbuckets grouped) ∧
    ∀ (config : DcpConfig) request answers grouped before node group after opening stream
      selection rollbacks count known, request.topology = topology →
      topology.activeVbucketsByNode request.starts.keys = .ok grouped →
      grouped.toList = before ++ (node, group) :: after →
      openNodes config request answers .empty before = .ok opening →
      openTokioNode config request node group opening.selection (answers node) =
        .ok (stream, selection, rollbacks) →
      ∃ next, Opening.insertPartitions { opening with
        streams := opening.streams ++ [stream]
        rollbackCount := count
        selection := known } stream.report.partitions.toList = .ok next := by
  have hclosed := build_closed h
  refine ⟨hclosed, fun v => hclosed.activeEndpoint, ?_, ?_⟩
  · intro vbuckets hvbuckets
    obtain ⟨collected, hcollected⟩ := groupByNode_ok
      (fun v hv => hclosed.activeNode (hvbuckets v hv)) ∅
    have hgrouped := congrArg (Except.map fun grouped : BTreeMap NodeId (List UInt16) =>
      grouped.map fun _ partitions => (partitions.insertionSort (· ≤ ·)).dedup) hcollected
    exact ⟨_, hgrouped, ClusterTopology.activeVbucketsByNode_groups hgrouped⟩
  · intro config request answers grouped before node group after opening stream selection rollbacks
      count known _ hgrouped hgroups hbefore hnode
    exact (ClusterTopology.activeVbucketsByNode_groups hgrouped).opensOnce hgroups hbefore hnode
      count known

def sampleServerMap : RawVBucketServerMap where
  hashAlgorithm := "CRC"
  numReplicas := 1
  serverList := ["a:1", "b:1"]
  vBucketMap := [[0, 1], [1, -1], [0, 1]]

def sampleBucketConfig : RawBucketConfig where
  rev := 7
  revEpoch := 2
  name := "travel"
  uuid := ""
  nodeLocator := "vbucket"
  nodesExt := []
  vBucketServerMap := sampleServerMap

theorem closed_routing_sample : ∃ topology,
    sampleBucketConfig.build "a:1" false .auto = .ok topology ∧ topology.Closed 3 := by
  have hok : (sampleBucketConfig.build "a:1" false .auto).isOk = true := by decide
  cases hbuild : sampleBucketConfig.build "a:1" false .auto with
  | error error =>
    rw [hbuild] at hok
    cases hok
  | ok topology => exact ⟨topology, rfl, (RawBucketConfig.closed_routing hbuild).1⟩

end RustDcp
