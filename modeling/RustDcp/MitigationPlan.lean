import RustDcp.Mitigation
import RustDcp.OrderedMap

namespace RustDcp
set_option autoImplicit true

def ClusterTopology.activeNode (self : ClusterTopology) (vbucket : UInt16) : Result NodeId :=
  match self.vbuckets[vbucket]? with
  | some route => .ok route.active
  | none => .error (.topology s!"vBucket {vbucket} is not in the topology")

def ClusterTopology.replicaNodes (self : ClusterTopology) (vbucket : UInt16) :
    Result (List NodeId) :=
  match self.vbuckets[vbucket]? with
  | some route => .ok route.replicas
  | none => .error (.topology s!"vBucket {vbucket} is not in the topology")

namespace Mitigation

structure ObservationTarget where
  vbucket : UInt16
  expectedVbucketUuid : Nat
  deriving DecidableEq

structure ObserveSeqNoResponse where
  didFailover : Bool
  vbucket : UInt16
  vbucketUuid : Nat
  persistedSeqno : Nat
  currentSeqno : Nat
  deriving DecidableEq

/-- What a node answers for one target; an error is a message. -/
abbrev Answer := Except String ObserveSeqNoResponse

abbrev RawObservation := ObservationTarget × Answer

structure NodeObservationPlan where
  address : String
  targets : List ObservationTarget
  deriving DecidableEq

/-- The plan of `TokioMitigationSource`: the copies of each vBucket and the targets of each node. -/
structure ObservationPlan where
  expectedCopies : BTreeMap UInt16 Nat
  nodes : BTreeMap NodeId NodeObservationPlan

def copies (topology : ClusterTopology) (vbucket : UInt16) : Result (BTreeSet NodeId) := do
  let active ← topology.activeNode vbucket
  let replicas ← topology.replicaNodes vbucket
  return Std.ExtTreeSet.ofList (active :: replicas) compare

/-- The inner loop of `TokioMitigationSource::new`, over the copies of one vBucket. -/
def planNodes (topology : ClusterTopology) (target : ObservationTarget) :
    BTreeMap NodeId NodeObservationPlan → List NodeId → Result (BTreeMap NodeId NodeObservationPlan)
  | nodes, [] => .ok nodes
  | nodes, node :: rest =>
    match topology.endpoints[node]? with
    | none => .error (.topology
        s!"rollback mitigation node {node} for vBucket {target.vbucket} has no endpoint")
    | some endpoint =>
      let plan := nodes[node]?.getD { address := endpoint.address, targets := [] }
      planNodes topology target
        (nodes.insert node { plan with targets := plan.targets ++ [target] }) rest

def planBranches (topology : ClusterTopology) :
    ObservationPlan → List (UInt16 × Nat) → Result ObservationPlan
  | plan, [] => .ok plan
  | plan, (vbucket, expectedVbucketUuid) :: rest =>
    if expectedVbucketUuid = 0 then
      .error (.rollbackMitigation vbucket "effective checkpoint has no history branch UUID")
    else match copies topology vbucket with
      | .error error => .error error
      | .ok holders =>
        match planNodes topology { vbucket, expectedVbucketUuid } plan.nodes holders.toList with
        | .error error => .error error
        | .ok nodes => planBranches topology
            { expectedCopies := plan.expectedCopies.insert vbucket holders.size, nodes } rest

def ObservationPlan.new (topology : ClusterTopology) (branches : BTreeMap UInt16 Nat) :
    Result ObservationPlan :=
  match planBranches topology { expectedCopies := ∅, nodes := ∅ } branches.toList with
  | .error error => .error error
  | .ok plan => .ok { plan with
      nodes := plan.nodes.map fun _ node =>
        { node with targets := node.targets.mergeSort fun a b => a.vbucket ≤ b.vbucket } }

/-- The observations of one cycle, with the nodes in the order in which they complete. Every node
answers each of its targets. -/
def ObservationPlan.cycle (self : ObservationPlan)
    (answer : NodeId → ObservationTarget → Answer) (order : List NodeId) : List RawObservation :=
  order.flatMap fun node =>
    match self.nodes[node]? with
    | none => []
    | some plan => plan.targets.map fun target => (target, answer node target)

/-- The accumulators of the loop of `aggregate_observations`. -/
structure Tally where
  minimum : Option Nat
  expectedUuid : Option Nat
  transient : Option String
  changedBranch : Option Nat

namespace Tally

def empty : Tally :=
  { minimum := none, expectedUuid := none, transient := none, changedBranch := none }

def record (vbucket : UInt16) (self : Tally) : RawObservation → Tally
  | (target, result) =>
    let self := { self with
      expectedUuid := self.expectedUuid.or (some target.expectedVbucketUuid) }
    match result with
    | .ok observed =>
      if observed.didFailover ∨ observed.vbucketUuid ≠ target.expectedVbucketUuid then
        { self with changedBranch := some observed.vbucketUuid }
      else if observed.vbucket ≠ vbucket then
        { self with
          transient :=
            some s!"node returned vBucket {observed.vbucket} for requested vBucket {vbucket}" }
      else if observed.persistedSeqno > observed.currentSeqno then
        { self with
          transient := some
            (s!"persisted seqno {observed.persistedSeqno} exceeds current seqno " ++
             s!"{observed.currentSeqno}") }
      else
        { self with
          minimum := some (self.minimum.elim observed.persistedSeqno
            fun current => min current observed.persistedSeqno) }
    | .error message => { self with transient := some message }

def outcome (self : Tally) (received expectedCount : Nat) : ObservationOutcome :=
  match self.changedBranch with
  | some observedVbucketUuid => .branchChanged observedVbucketUuid
  | none =>
    if received ≠ expectedCount then
      .transient s!"received {received} of {expectedCount} required copy observations"
    else match self.transient, self.expectedUuid, self.minimum with
      | some message, _, _ => .transient message
      | none, some vbucketUuid, some persistedSeqno => .persisted vbucketUuid persistedSeqno
      | none, _, _ => .transient "observation cycle contained no successful copy result"

end Tally

/-- The observations by the vBucket of their target, in the order in which they came. -/
def group (observations : List RawObservation) : BTreeMap UInt16 (List RawObservation) :=
  observations.foldl (fun grouped observation =>
    grouped.insert observation.1.vbucket
      (grouped[observation.1.vbucket]?.getD [] ++ [observation])) ∅

def aggregateObservations (expectedCopies : BTreeMap UInt16 Nat)
    (observations : List RawObservation) : ObservationBatch :=
  let grouped := group observations
  expectedCopies.map fun vbucket expectedCount =>
    let results := grouped[vbucket]?.getD []
    (results.foldl (Tally.record vbucket) .empty).outcome results.length expectedCount

/-- The node reports a failover or another branch than the expected one. -/
def Answer.Changed (expected : Nat) (answer : Answer) : Prop :=
  ∃ observed, answer = .ok observed ∧
    (observed.didFailover = true ∨ observed.vbucketUuid ≠ expected)

/-- The node answers for the vBucket, on the expected branch, that it has persisted `n`. -/
def Answer.Persists (v : UInt16) (expected : Nat) (answer : Answer) (n : Nat) : Prop :=
  ∃ observed, answer = .ok observed ∧ observed.didFailover = false ∧
    observed.vbucketUuid = expected ∧ observed.vbucket = v ∧
    observed.persistedSeqno ≤ observed.currentSeqno ∧ observed.persistedSeqno = n

/-- The persisted position that the node reports for the vBucket and the branch, if it does. -/
def Answer.persisted? (v : UInt16) (expected : Nat) : Answer → Option Nat
  | .ok observed =>
    if observed.didFailover = false ∧ observed.vbucketUuid = expected ∧ observed.vbucket = v ∧
      observed.persistedSeqno ≤ observed.currentSeqno then some observed.persistedSeqno else none
  | .error _ => none

theorem Answer.persisted?_eq_some {answer : Answer} :
    answer.persisted? v expected = some n ↔ answer.Persists v expected n := by
  cases answer with
  | error message => simp [persisted?, Persists]
  | ok observed => simp [persisted?, Persists, and_assoc]

theorem Answer.Persists.not_changed {answer : Answer} (h : answer.Persists v expected n) :
    ¬ answer.Changed expected := by
  obtain ⟨observed, rfl, hfailover, hbranch, -⟩ := h
  rintro ⟨observed', heq, hchanged⟩
  cases heq
  rcases hchanged with hchanged | hchanged
  · rw [hfailover] at hchanged
    cases hchanged
  · exact hchanged hbranch

/-- What the loop has accumulated over the answers of one vBucket's copies. -/
structure Tally.Sums (v : UInt16) (expected : Nat) (answers : List Answer) (tally : Tally) :
    Prop where
  changed : tally.changedBranch = none ↔ ∀ answer ∈ answers, ¬ answer.Changed expected
  transient : tally.transient = none ↔
    ∀ answer ∈ answers, answer.Changed expected ∨ ∃ n, answer.Persists v expected n
  minimum : tally.minimum = (answers.filterMap (Answer.persisted? v expected)).min?
  expectedUuid : tally.expectedUuid = answers.head?.map fun _ => expected

namespace Tally

theorem record_cases (v : UInt16) (expected : Nat) (tally : Tally) (answer : Answer) :
    (answer.Changed expected ∧ answer.persisted? v expected = none ∧
      ∃ uuid, tally.record v (⟨v, expected⟩, answer) =
        { tally with
          expectedUuid := tally.expectedUuid.or (some expected), changedBranch := some uuid }) ∨
    (∃ n, answer.persisted? v expected = some n ∧ tally.record v (⟨v, expected⟩, answer) =
      { tally with
        expectedUuid := tally.expectedUuid.or (some expected)
        minimum := some (tally.minimum.elim n fun current => min current n) }) ∨
    (¬ answer.Changed expected ∧ answer.persisted? v expected = none ∧
      ∃ message, tally.record v (⟨v, expected⟩, answer) =
        { tally with
          expectedUuid := tally.expectedUuid.or (some expected), transient := some message }) := by
  cases answer with
  | error message =>
    refine .inr (.inr ⟨?_, rfl, message, rfl⟩)
    rintro ⟨observed, heq, -⟩
    cases heq
  | ok observed =>
    simp only [record]
    split
    · rename_i hchanged
      refine .inl ⟨⟨observed, rfl, hchanged⟩, if_neg ?_, _, rfl⟩
      rintro ⟨hfailover, hbranch, -⟩
      rcases hchanged with hchanged | hchanged
      · rw [hfailover] at hchanged
        cases hchanged
      · exact hchanged hbranch
    · rename_i hchanged
      have hsame : ¬ Answer.Changed expected (.ok observed) := by
        rintro ⟨other, heq, hother⟩
        cases heq
        exact hchanged hother
      rw [not_or, not_not, Bool.not_eq_true] at hchanged
      split
      · rename_i hvbucket
        exact .inr (.inr ⟨hsame, if_neg fun h => hvbucket h.2.2.1, _, rfl⟩)
      · rename_i hvbucket
        rw [not_not] at hvbucket
        split
        · rename_i hlt
          exact .inr (.inr ⟨hsame, if_neg fun h => absurd h.2.2.2 (by omega), _, rfl⟩)
        · rename_i hle
          exact .inr (.inl ⟨_, if_pos ⟨hchanged.1, hchanged.2, hvbucket, by omega⟩, rfl⟩)

theorem head?_snoc_map {answers : List α} {answer : α} {b : β} :
    (answers ++ [answer]).head?.map (fun _ => b) = (answers.head?.map fun _ => b).or (some b) := by
  cases answers <;> rfl

theorem min?_snoc (seqnos : List Nat) (n : Nat) :
    (seqnos ++ [n]).min? = some (seqnos.min?.elim n fun current => min current n) := by
  cases seqnos with
  | nil => rfl
  | cons m seqnos =>
    rw [List.cons_append, List.min?_cons', List.min?_cons', List.foldl_append]
    rfl

theorem Sums.empty (v : UInt16) (expected : Nat) : Sums v expected [] .empty :=
  ⟨by simp [Tally.empty], by simp [Tally.empty], rfl, rfl⟩

theorem Sums.record (h : Sums v expected answers tally) (answer : Answer) :
    Sums v expected (answers ++ [answer]) (tally.record v (⟨v, expected⟩, answer)) := by
  rcases record_cases v expected tally answer with ⟨hchanged, hnone, uuid, heq⟩ | ⟨n, hsome, heq⟩ |
    ⟨hsame, hnone, message, heq⟩
  · rw [heq]
    refine ⟨?_, ?_, ?_, by rw [head?_snoc_map, ← h.expectedUuid]⟩
    · simp [hchanged]
    · simp [h.transient, or_imp, forall_and, hchanged]
    · simp [h.minimum, hnone]
  · have hpersists := Answer.persisted?_eq_some.1 hsome
    rw [heq]
    refine ⟨?_, ?_, ?_, by rw [head?_snoc_map, ← h.expectedUuid]⟩
    · simp [h.changed, or_imp, forall_and, hpersists.not_changed]
    · have hexists : ∃ n, answer.Persists v expected n := ⟨n, hpersists⟩
      simp [h.transient, or_imp, forall_and, hexists]
    · rw [List.filterMap_append, List.filterMap_cons_some hsome, List.filterMap_nil, min?_snoc,
        ← h.minimum]
  · have hnever : ∀ n, ¬ answer.Persists v expected n := by
      intro n hn
      rw [Answer.persisted?_eq_some.2 hn] at hnone
      cases hnone
    rw [heq]
    refine ⟨?_, ?_, ?_, by rw [head?_snoc_map, ← h.expectedUuid]⟩
    · simp [h.changed, or_imp, forall_and, hsame]
    · simp [or_imp, forall_and, hsame, hnever]
    · simp [h.minimum, hnone]

theorem foldl_sums (v : UInt16) (expected : Nat) (answers : List Answer) :
    Sums v expected answers
      ((answers.map (Prod.mk ⟨v, expected⟩)).foldl (Tally.record v) .empty) := by
  induction answers using List.reverseRecOn with
  | nil => exact .empty v expected
  | append_singleton answers answer ih =>
    rw [List.map_append, List.foldl_append]
    exact ih.record answer

end Tally

theorem getElem?_group (observations : List RawObservation) (v : UInt16) :
    (group observations)[v]?.getD [] = observations.filter fun o => o.1.vbucket = v := by
  induction observations using List.reverseRecOn with
  | nil => simp [group]
  | append_singleton observations observation ih =>
    rw [group, List.foldl_append, List.filter_append, ← ih]
    simp only [List.foldl_cons, List.foldl_nil, Std.ExtTreeMap.getElem?_insert,
      Std.compare_eq_iff_eq]
    by_cases h : observation.1.vbucket = v
    · subst h
      simp [group]
    · simp [group, h]

def targetsOf (nodes : BTreeMap NodeId NodeObservationPlan) (node : NodeId) :
    List ObservationTarget :=
  (nodes[node]?.map (·.targets)).getD []

theorem planNodes_targets
    (h : planNodes topology target nodes holders = .ok nodes') (hnodup : holders.Nodup)
    (node : NodeId) :
    targetsOf nodes' node = targetsOf nodes node ++ if node ∈ holders then [target] else [] := by
  induction holders generalizing nodes with
  | nil =>
    cases h
    simp
  | cons holder rest ih =>
    obtain ⟨hnotin, hrest⟩ := List.nodup_cons.1 hnodup
    simp only [planNodes] at h
    split at h
    · cases h
    · rw [ih h hrest]
      by_cases hnode : holder = node
      · subst hnode
        simp only [targetsOf, Std.ExtTreeMap.getElem?_insert_self, hnotin, if_false,
          List.mem_cons_self, if_true, Option.map_some, Option.getD_some, List.append_nil]
        cases nodes[holder]? <;> rfl
      · have hmem : node ∈ holder :: rest ↔ node ∈ rest := by simp [Ne.symm hnode]
        simp only [targetsOf, Std.ExtTreeMap.getElem?_insert, Std.compare_eq_iff_eq, hnode, hmem,
          if_false]

/-- The node holds the active or a replica copy of the vBucket. -/
def HoldsCopy (topology : ClusterTopology) (v : UInt16) (node : NodeId) : Prop :=
  ∃ route ∈ topology.vbuckets[v]?, node = route.active ∨ node ∈ route.replicas

instance (topology : ClusterTopology) (v : UInt16) (node : NodeId) :
    Decidable (HoldsCopy topology v node) :=
  inferInstanceAs (Decidable (∃ route ∈ topology.vbuckets[v]?, _))

theorem copies_eq_ok (h : copies topology v = .ok holders) :
    (∀ node, node ∈ holders.toList ↔ HoldsCopy topology v node) ∧ holders.toList.Nodup ∧
      ∃ node, HoldsCopy topology v node := by
  simp only [copies, ClusterTopology.activeNode, ClusterTopology.replicaNodes] at h
  cases hroute : topology.vbuckets[v]? with
  | none =>
    rw [hroute] at h
    cases h
  | some route =>
    rw [hroute] at h
    cases h
    refine ⟨fun node => ?_, ?_, route.active, route, hroute, .inl rfl⟩
    · rw [Std.ExtTreeSet.mem_toList, Std.ExtTreeSet.mem_ofList, List.contains_iff_mem,
        List.mem_cons]
      simp [HoldsCopy, hroute]
    · exact OrderedMap.nodup_toList _

theorem planBranches_targets (h : planBranches topology plan pairs = .ok plan') (node : NodeId) :
    targetsOf plan'.nodes node = targetsOf plan.nodes node ++
      (pairs.filter fun pair => HoldsCopy topology pair.1 node).map fun pair =>
        ⟨pair.1, pair.2⟩ := by
  induction pairs generalizing plan with
  | nil =>
    cases h
    simp
  | cons pair rest ih =>
    obtain ⟨v, expected⟩ := pair
    simp only [planBranches] at h
    split at h
    · cases h
    split at h
    · cases h
    rename_i holders hholders
    split at h
    · cases h
    rename_i nodes hnodes
    obtain ⟨hmem, hnodup, -⟩ := copies_eq_ok hholders
    rw [ih h, planNodes_targets hnodes hnodup, List.append_assoc]
    by_cases hnode : HoldsCopy topology v node
    · simp [hmem, hnode]
    · simp [hmem, hnode]

theorem planBranches_copies (h : planBranches topology plan pairs = .ok plan')
    (hdistinct : pairs.Pairwise fun a b => a.1 ≠ b.1) :
    (∀ v : UInt16, (∀ pair ∈ pairs, pair.1 ≠ v) →
      plan'.expectedCopies[v]? = plan.expectedCopies[v]?) ∧
    ∀ pair ∈ pairs, ∃ holders, copies topology pair.1 = .ok holders ∧
      plan'.expectedCopies[pair.1]? = some holders.size := by
  induction pairs generalizing plan with
  | nil =>
    cases h
    exact ⟨fun _ _ => rfl, by simp⟩
  | cons pair rest ih =>
    obtain ⟨v, expected⟩ := pair
    obtain ⟨hnotin, hrest⟩ := List.pairwise_cons.1 hdistinct
    simp only [planBranches] at h
    split at h
    · cases h
    split at h
    · cases h
    rename_i holders hholders
    split at h
    · cases h
    obtain ⟨hother, hcopies⟩ := ih h hrest
    refine ⟨fun w hw => ?_, ?_⟩
    · obtain ⟨hhead, htail⟩ := List.forall_mem_cons.1 hw
      rw [hother w htail]
      simp only [Std.ExtTreeMap.getElem?_insert, Std.compare_eq_iff_eq]
      exact if_neg hhead
    · refine List.forall_mem_cons.2 ⟨⟨holders, hholders, ?_⟩, hcopies⟩
      rw [hother v fun other hmem => (hnotin other hmem).symm]
      exact Std.ExtTreeMap.getElem?_insert_self

theorem filter_key {pairs : List (UInt16 × α)} (hdistinct : pairs.Pairwise fun a b => a.1 ≠ b.1)
    (hmem : (v, a) ∈ pairs) : (pairs.filter fun pair => pair.1 = v) = [(v, a)] := by
  induction pairs with
  | nil => cases hmem
  | cons pair rest ih =>
    obtain ⟨hnotin, hrest⟩ := List.pairwise_cons.1 hdistinct
    rcases List.mem_cons.1 hmem with rfl | hmem
    · have hnone : (rest.filter fun pair => pair.1 = v) = [] := by
        rw [List.filter_eq_nil_iff]
        intro other hother
        simpa [eq_comm] using hnotin other hother
      rw [List.filter_cons_of_pos (by simp), hnone]
    · have hne : pair.1 ≠ v := hnotin _ hmem
      rw [List.filter_cons_of_neg (by simpa using hne)]
      exact ih hrest hmem

theorem ObservationPlan.new_eq_ok (h : ObservationPlan.new topology branches = .ok plan)
    {v : UInt16} (hv : branches[v]? = some expected) :
    (∃ holders, copies topology v = .ok holders ∧ plan.expectedCopies[v]? = some holders.size) ∧
    ∀ node, ((targetsOf plan.nodes node).filter fun target => target.vbucket = v) =
      if HoldsCopy topology v node then [⟨v, expected⟩] else [] := by
  rw [ObservationPlan.new] at h
  split at h
  · cases h
  rename_i unsorted hunsorted
  cases h
  have hmem : (v, expected) ∈ branches.toList :=
    Std.ExtTreeMap.mem_toList_iff_getElem?_eq_some.2 hv
  refine ⟨(planBranches_copies hunsorted (OrderedMap.distinct_toList branches)).2 _ hmem,
    fun node => ?_⟩
  have hperm : (targetsOf (unsorted.nodes.map fun _ node =>
      { node with targets := node.targets.mergeSort fun a b => a.vbucket ≤ b.vbucket }) node).Perm
      (targetsOf unsorted.nodes node) := by
    rw [targetsOf, targetsOf, Std.ExtTreeMap.getElem?_map]
    cases unsorted.nodes[node]? with
    | none => exact .refl _
    | some node => exact List.mergeSort_perm _ _
  have hfiltered : ((targetsOf unsorted.nodes node).filter fun target => target.vbucket = v) =
      if HoldsCopy topology v node then [⟨v, expected⟩] else [] := by
    have hsplit : (branches.toList.filter fun pair => HoldsCopy topology pair.1 node).filter
        (fun pair => pair.1 = v) = if HoldsCopy topology v node then [(v, expected)] else [] := by
      rw [List.filter_comm, filter_key (OrderedMap.distinct_toList branches) hmem]
      by_cases hnode : HoldsCopy topology v node <;> simp [hnode]
    rw [planBranches_targets hunsorted, List.filter_append, List.filter_map]
    simp only [Function.comp_def, hsplit]
    by_cases hnode : HoldsCopy topology v node <;> simp [hnode, targetsOf]
  have hsorted := hperm.filter fun target => target.vbucket = v
  rw [hfiltered] at hsorted
  by_cases hnode : HoldsCopy topology v node
  · rw [if_pos hnode] at hsorted ⊢
    exact List.perm_singleton.1 hsorted
  · rw [if_neg hnode] at hsorted ⊢
    exact List.perm_nil.1 hsorted

theorem ObservationPlan.cycle_filter (h : ObservationPlan.new topology branches = .ok plan)
    {v : UInt16} (hv : branches[v]? = some expected)
    (answer : NodeId → ObservationTarget → Answer) (order : List NodeId) :
    ((plan.cycle answer order).filter fun o => o.1.vbucket = v) =
      ((order.filter (HoldsCopy topology v)).map (answer · ⟨v, expected⟩)).map
        (Prod.mk ⟨v, expected⟩) := by
  obtain ⟨-, htargets⟩ := new_eq_ok h hv
  induction order with
  | nil => rfl
  | cons node order ih =>
    have hnode : plan.cycle answer (node :: order) =
        ((targetsOf plan.nodes node).map fun target => (target, answer node target)) ++
          plan.cycle answer order := by
      rw [cycle, List.flatMap_cons, targetsOf]
      cases plan.nodes[node]? <;> rfl
    rw [hnode, List.filter_append, ih, List.filter_map]
    simp only [Function.comp_def, htargets]
    by_cases hholds : HoldsCopy topology v node <;> simp [hholds]

theorem ObservationPlan.order_filter (h : ObservationPlan.new topology branches = .ok plan)
    {v : UInt16} (hv : branches[v]? = some expected) {order : List NodeId}
    (horder : order.Perm plan.nodes.keys) :
    (∀ node, node ∈ order.filter (HoldsCopy topology v) ↔ HoldsCopy topology v node) ∧
      plan.expectedCopies[v]? = some (order.filter (HoldsCopy topology v)).length := by
  obtain ⟨⟨holders, hholders, hcopies⟩, htargets⟩ := new_eq_ok h hv
  obtain ⟨hmem, hnodup, -⟩ := copies_eq_ok hholders
  have hplanned : ∀ node, HoldsCopy topology v node → node ∈ order := by
    intro node hnode
    have hsome := htargets node
    rw [if_pos hnode] at hsome
    rw [horder.mem_iff, Std.ExtTreeMap.mem_keys, Std.ExtTreeMap.mem_iff_isSome_getElem?]
    cases hplan : plan.nodes[node]? with
    | none => simp [targetsOf, hplan] at hsome
    | some plan => rfl
  have hfilter : ∀ node, node ∈ order.filter (HoldsCopy topology v) ↔
      HoldsCopy topology v node := by
    intro node
    rw [List.mem_filter, decide_eq_true_eq]
    exact ⟨fun hnode => hnode.2, fun hnode => ⟨hplanned node hnode, hnode⟩⟩
  refine ⟨hfilter, ?_⟩
  have hkeys : plan.nodes.keys.Nodup := Std.ExtTreeMap.nodup_keys
  have hperm : (order.filter (HoldsCopy topology v)).Perm holders.toList := by
    rw [List.perm_ext_iff_of_nodup ((horder.nodup_iff.2 hkeys).filter _) hnodup]
    intro node
    rw [hfilter, hmem]
  rw [hcopies, hperm.length_eq, Std.ExtTreeSet.length_toList]

theorem ObservationPlan.group_answers (h : ObservationPlan.new topology branches = .ok plan)
    {v : UInt16} (hv : branches[v]? = some expected)
    {answer : NodeId → ObservationTarget → Answer} (horder : order.Perm plan.nodes.keys)
    (hobservations : observations.Perm (plan.cycle answer order)) :
    ∃ answers : List Answer,
      (group observations)[v]?.getD [] = answers.map (Prod.mk ⟨v, expected⟩) ∧
      plan.expectedCopies[v]? = some answers.length ∧
      (∃ node, HoldsCopy topology v node) ∧
      ∀ a, a ∈ answers ↔ ∃ node, HoldsCopy topology v node ∧ answer node ⟨v, expected⟩ = a := by
  obtain ⟨hholds, hcopies⟩ := order_filter h hv horder
  obtain ⟨⟨holders, hholders, -⟩, -⟩ := new_eq_ok h hv
  have hperm := hobservations.filter fun o => o.1.vbucket = v
  rw [cycle_filter h hv] at hperm
  have hmap : observations.filter (fun o => o.1.vbucket = v) =
      ((observations.filter fun o => o.1.vbucket = v).map (·.2)).map (Prod.mk ⟨v, expected⟩) := by
    rw [List.map_map]
    conv_lhs => rw [← List.map_id (observations.filter _)]
    refine List.map_congr_left ?_
    intro o ho
    obtain ⟨a, -, rfl⟩ := List.mem_map.1 (hperm.mem_iff.1 ho)
    rfl
  refine ⟨_, (getElem?_group observations v).trans hmap, ?_, (copies_eq_ok hholders).2.2, ?_⟩
  · rw [hcopies, List.length_map, hperm.length_eq, List.length_map, List.length_map]
  · intro a
    rw [(hperm.map _).mem_iff, List.map_map]
    simp [hholds]

namespace Tally

theorem Sums.outcome_cases (h : Sums v expected answers tally) (hsome : answers ≠ []) :
    ((∃ a ∈ answers, a.Changed expected) ∧
      ∃ uuid, tally.outcome answers.length answers.length = .branchChanged uuid) ∨
    ((∀ a ∈ answers, ∃ n, a.Persists v expected n) ∧
      ∃ p, (answers.filterMap (Answer.persisted? v expected)).min? = some p ∧
        tally.outcome answers.length answers.length = .persisted expected p) ∨
    ((∀ a ∈ answers, ¬ a.Changed expected) ∧ (∃ a ∈ answers, ∀ n, ¬ a.Persists v expected n) ∧
      ∃ message, tally.outcome answers.length answers.length = .transient message) := by
  by_cases hchanged : ∃ a ∈ answers, a.Changed expected
  · refine .inl ⟨hchanged, ?_⟩
    cases hbranch : tally.changedBranch with
    | none =>
      obtain ⟨a, ha, ha'⟩ := hchanged
      exact absurd ha' (h.changed.1 hbranch a ha)
    | some uuid => exact ⟨uuid, by rw [outcome, hbranch]⟩
  have hsame : ∀ a ∈ answers, ¬ a.Changed expected := fun a ha ha' => hchanged ⟨a, ha, ha'⟩
  have hbranch := h.changed.2 hsame
  refine .inr ?_
  by_cases hpersists : ∀ a ∈ answers, ∃ n, a.Persists v expected n
  · refine .inl ⟨hpersists, ?_⟩
    have htransient := h.transient.2 fun a ha => .inr (hpersists a ha)
    obtain ⟨a, rest, rfl⟩ := List.exists_cons_of_ne_nil hsome
    obtain ⟨n, hn⟩ := hpersists a List.mem_cons_self
    have hminimum := h.minimum
    rw [List.filterMap_cons_some (Answer.persisted?_eq_some.2 hn), List.min?_cons'] at hminimum ⊢
    refine ⟨_, rfl, ?_⟩
    simp [outcome, hbranch, htransient, h.expectedUuid, hminimum]
  · refine .inr ⟨hsame, by simpa using hpersists, ?_⟩
    cases htransient : tally.transient with
    | none =>
      refine absurd ?_ hpersists
      intro a ha
      exact (h.transient.1 htransient a ha).resolve_left (hsame a ha)
    | some message => exact ⟨message, by simp [outcome, hbranch, htransient]⟩

end Tally

/-- The same kind of outcome and, if it is a persisted position, the same one. -/
def ObservationOutcome.SameKind : ObservationOutcome → ObservationOutcome → Prop
  | .persisted vbucketUuid persistedSeqno, other => other = .persisted vbucketUuid persistedSeqno
  | .transient _, other => ∃ message, other = .transient message
  | .branchChanged _, other => ∃ uuid, other = .branchChanged uuid

/-- What the outcome of a vBucket says of the answers of the nodes that hold a copy of it. -/
inductive ObservationOutcome.Reports (topology : ClusterTopology) (v : UInt16) (expected : Nat)
    (answer : NodeId → ObservationTarget → Answer) : ObservationOutcome → Prop where
  | branchChanged (uuid : Nat) (hnode : HoldsCopy topology v node)
      (hchanged : (answer node ⟨v, expected⟩).Changed expected) :
      Reports topology v expected answer (.branchChanged uuid)
  | persisted
      (hpersists : ∀ node, HoldsCopy topology v node →
        ∃ n, (answer node ⟨v, expected⟩).Persists v expected n)
      (hleast : IsLeast {n | ∃ node, HoldsCopy topology v node ∧
        (answer node ⟨v, expected⟩).Persists v expected n} p) :
      Reports topology v expected answer (.persisted expected p)
  | transient (message : String)
      (hsame : ∀ node, HoldsCopy topology v node → ¬ (answer node ⟨v, expected⟩).Changed expected)
      (hnode : HoldsCopy topology v node)
      (hnever : ∀ n, ¬ (answer node ⟨v, expected⟩).Persists v expected n) :
      Reports topology v expected answer (.transient message)

namespace ObservationOutcome.Reports

theorem persisted_iff (h : Reports topology v expected answer outcome) :
    outcome = .persisted u p ↔ u = expected ∧
      (∀ node, HoldsCopy topology v node → ∃ n, (answer node ⟨v, expected⟩).Persists v expected n) ∧
      IsLeast {n | ∃ node, HoldsCopy topology v node ∧
        (answer node ⟨v, expected⟩).Persists v expected n} p := by
  constructor
  · intro heq
    subst heq
    cases h with
    | persisted hpersists hleast => exact ⟨rfl, hpersists, hleast⟩
  · rintro ⟨rfl, hall, hp⟩
    cases h with
    | branchChanged uuid hnode hchanged =>
      obtain ⟨n, hn⟩ := hall _ hnode
      exact absurd hchanged hn.not_changed
    | persisted hpersists hleast => rw [hleast.unique hp]
    | transient message hsame hnode hnever =>
      obtain ⟨n, hn⟩ := hall _ hnode
      exact absurd hn (hnever n)

theorem branchChanged_of_changed (h : Reports topology v expected answer outcome)
    (hnode : HoldsCopy topology v node) (hchanged : (answer node ⟨v, expected⟩).Changed expected) :
    ∃ uuid, outcome = .branchChanged uuid := by
  cases h with
  | branchChanged uuid => exact ⟨uuid, rfl⟩
  | persisted hpersists hleast =>
    obtain ⟨n, hn⟩ := hpersists node hnode
    exact absurd hchanged hn.not_changed
  | transient message hsame => exact absurd hchanged (hsame node hnode)

theorem transient_of_not (h : Reports topology v expected answer outcome)
    (hsame : ∀ node, HoldsCopy topology v node → ¬ (answer node ⟨v, expected⟩).Changed expected)
    (hnever : ¬ ∀ node, HoldsCopy topology v node →
      ∃ n, (answer node ⟨v, expected⟩).Persists v expected n) :
    ∃ message, outcome = .transient message := by
  cases h with
  | branchChanged uuid hnode hchanged => exact absurd hchanged (hsame _ hnode)
  | persisted hpersists => exact absurd hpersists hnever
  | transient message => exact ⟨message, rfl⟩

theorem sameKind (h : Reports topology v expected answer outcome)
    (h' : Reports topology v expected answer outcome') : outcome.SameKind outcome' := by
  cases h with
  | branchChanged uuid hnode hchanged => exact h'.branchChanged_of_changed hnode hchanged
  | persisted hpersists hleast => exact h'.persisted_iff.2 ⟨rfl, hpersists, hleast⟩
  | transient message hsame hnode hnever =>
    refine h'.transient_of_not hsame ?_
    intro hpersists
    obtain ⟨n, hn⟩ := hpersists _ hnode
    exact hnever n hn

end ObservationOutcome.Reports

theorem aggregateObservations_reports (h : ObservationPlan.new topology branches = .ok plan)
    {v : UInt16} (hv : branches[v]? = some expected)
    {answer : NodeId → ObservationTarget → Answer} (horder : order.Perm plan.nodes.keys)
    (hobservations : observations.Perm (plan.cycle answer order)) :
    ∃ outcome, (aggregateObservations plan.expectedCopies observations)[v]? = some outcome ∧
      outcome.Reports topology v expected answer := by
  obtain ⟨answers, hgroup, hcopies, ⟨holder, hholder⟩, hmem⟩ :=
    ObservationPlan.group_answers h hv horder hobservations
  have hsome : answers ≠ [] := List.ne_nil_of_mem ((hmem _).2 ⟨holder, hholder, rfl⟩)
  have hanswer : ∀ node, HoldsCopy topology v node → answer node ⟨v, expected⟩ ∈ answers :=
    fun node hnode => (hmem _).2 ⟨node, hnode, rfl⟩
  have heq : (aggregateObservations plan.expectedCopies observations)[v]? =
      some (((answers.map (Prod.mk ⟨v, expected⟩)).foldl (Tally.record v) .empty).outcome
        answers.length answers.length) := by
    simp only [aggregateObservations, Std.ExtTreeMap.getElem?_map, hcopies, hgroup,
      Option.map_some, List.length_map]
  refine ⟨_, heq, ?_⟩
  rcases (Tally.foldl_sums v expected answers).outcome_cases hsome with
    ⟨⟨a, ha, hchanged⟩, uuid, houtcome⟩ | ⟨hpersists, p, hp, houtcome⟩ |
    ⟨hsame, ⟨a, ha, hnever⟩, message, houtcome⟩
  · obtain ⟨node, hnode, rfl⟩ := (hmem a).1 ha
    rw [houtcome]
    exact .branchChanged uuid hnode hchanged
  · rw [houtcome]
    refine .persisted (fun node hnode => hpersists _ (hanswer node hnode)) ?_
    obtain ⟨hpmem, hple⟩ := List.min?_eq_some_iff.1 hp
    constructor
    · obtain ⟨a, ha, hpa⟩ := List.mem_filterMap.1 hpmem
      obtain ⟨node, hnode, rfl⟩ := (hmem a).1 ha
      exact ⟨node, hnode, Answer.persisted?_eq_some.1 hpa⟩
    · rintro n ⟨node, hnode, hn⟩
      exact hple n (List.mem_filterMap.2 ⟨_, hanswer node hnode, Answer.persisted?_eq_some.2 hn⟩)
  · obtain ⟨node, hnode, rfl⟩ := (hmem a).1 ha
    rw [houtcome]
    exact .transient message (fun node hnode => hsame _ (hanswer node hnode)) hnode hnever

/-- The outcome of a vBucket counts every node that holds a copy of it, in whatever order the
observations of the cycle came. -/
theorem aggregate_observations_counts_copies
    (h : ObservationPlan.new topology branches = .ok plan)
    {v : UInt16} (hv : branches[v]? = some expected)
    (answer : NodeId → ObservationTarget → Answer) (horder : order.Perm plan.nodes.keys)
    (hobservations : observations.Perm (plan.cycle answer order)) :
    ∃ outcome, (aggregateObservations plan.expectedCopies observations)[v]? = some outcome ∧
      (∀ u p, outcome = .persisted u p ↔ u = expected ∧
        (∀ node, HoldsCopy topology v node →
          ∃ n, (answer node ⟨v, expected⟩).Persists v expected n) ∧
        IsLeast {n | ∃ node, HoldsCopy topology v node ∧
          (answer node ⟨v, expected⟩).Persists v expected n} p) ∧
      ((∃ node, HoldsCopy topology v node ∧ (answer node ⟨v, expected⟩).Changed expected) →
        ∃ uuid, outcome = .branchChanged uuid) ∧
      ((∀ node, HoldsCopy topology v node → ¬ (answer node ⟨v, expected⟩).Changed expected) →
        ¬ (∀ node, HoldsCopy topology v node →
          ∃ n, (answer node ⟨v, expected⟩).Persists v expected n) →
        ∃ message, outcome = .transient message) ∧
      ∀ reordered, observations.Perm reordered →
        ∃ outcome', (aggregateObservations plan.expectedCopies reordered)[v]? = some outcome' ∧
          outcome.SameKind outcome' := by
  obtain ⟨outcome, heq, hreports⟩ := aggregateObservations_reports h hv horder hobservations
  refine ⟨outcome, heq, fun u p => hreports.persisted_iff, ?_, hreports.transient_of_not, ?_⟩
  · rintro ⟨node, hnode, hchanged⟩
    exact hreports.branchChanged_of_changed hnode hchanged
  · intro reordered hreordered
    obtain ⟨outcome', heq', hreports'⟩ :=
      aggregateObservations_reports h hv horder (hreordered.symm.trans hobservations)
    exact ⟨outcome', heq', hreports.sameKind hreports'⟩

def sampleEndpoint (node : NodeId) (address : String) : KvEndpoint :=
  { id := node, address, canonicalAddress := address, serverGroup := none }

def sampleTopology : ClusterTopology where
  bucket := "travel"
  bucketUuid := some "a1"
  revision := { epoch := 1, revision := 1 }
  network := "default"
  endpoints := ((∅ : BTreeMap NodeId KvEndpoint).insert "n1"
    (sampleEndpoint "n1" "10.0.0.1:11210")).insert "n2" (sampleEndpoint "n2" "10.0.0.2:11210")
  vbuckets := (∅ : BTreeMap UInt16 VBucketRoute).insert 3 { active := "n1", replicas := ["n2"] }

def sampleAnswer (node : NodeId) (target : ObservationTarget) : Answer :=
  .ok { didFailover := false, vbucket := target.vbucket, vbucketUuid := 9,
        persistedSeqno := if node = "n1" then 7 else 5, currentSeqno := 7 }

theorem aggregate_observations_counts_copies_sample :
    ∃ plan, ObservationPlan.new sampleTopology ((∅ : BTreeMap UInt16 Nat).insert 3 9) = .ok plan ∧
      (aggregateObservations plan.expectedCopies
        (plan.cycle sampleAnswer plan.nodes.keys.reverse))[(3 : UInt16)]? =
        some (.persisted 9 5) := by
  have hnodes : ∀ node, HoldsCopy sampleTopology 3 node ↔ node = "n1" ∨ node = "n2" := by
    intro node
    have hroute : sampleTopology.vbuckets[(3 : UInt16)]? =
        some { active := "n1", replicas := ["n2"] } := by decide
    simp [HoldsCopy, hroute]
  have hplan : ∃ plan, ObservationPlan.new sampleTopology ((∅ : BTreeMap UInt16 Nat).insert 3 9) =
      .ok plan := ⟨_, rfl⟩
  obtain ⟨plan, hplan⟩ := hplan
  obtain ⟨outcome, houtcome, hpersisted, -⟩ := aggregate_observations_counts_copies hplan
    (by decide : ((∅ : BTreeMap UInt16 Nat).insert 3 9)[(3 : UInt16)]? = some 9) sampleAnswer
    (List.reverse_perm _) (.refl _)
  refine ⟨plan, hplan, houtcome.trans (congrArg some ((hpersisted 9 5).2 ⟨rfl, ?_, ?_, ?_⟩))⟩
  · intro node hnode
    exact ⟨_, _, rfl, rfl, rfl, rfl, by dsimp only; split <;> decide, rfl⟩
  · exact ⟨"n2", (hnodes _).2 (.inr rfl), _, rfl, rfl, rfl, rfl, by decide, by decide⟩
  · rintro n ⟨node, hnode, observed, hobserved, -, -, -, -, rfl⟩
    cases hobserved
    dsimp only
    split <;> decide

end Mitigation

end RustDcp
