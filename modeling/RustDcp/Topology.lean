import RustDcp.Error

namespace RustDcp
set_option autoImplicit true

abbrev BTreeSet (κ : Type) [Ord κ] := Std.ExtTreeSet κ compare

abbrev NodeId := String

structure KvEndpoint where
  id : NodeId
  address : String
  canonicalAddress : String
  serverGroup : Option String
  deriving DecidableEq

structure TopologyRevision where
  epoch : Nat
  revision : Nat
  deriving DecidableEq

def TopologyRevision.isNewerThan (candidate current : TopologyRevision) : Bool :=
  candidate.epoch > current.epoch ||
    (candidate.epoch == current.epoch &&
      (candidate.revision == 0 || candidate.revision > current.revision))

structure VBucketRoute where
  active : NodeId
  replicas : List NodeId
  deriving DecidableEq

structure ClusterTopology where
  bucket : String
  bucketUuid : Option String
  revision : TopologyRevision
  network : String
  endpoints : BTreeMap NodeId KvEndpoint
  vbuckets : BTreeMap UInt16 VBucketRoute
  deriving DecidableEq

/-- Reconnection and stream-reopen work produced by a topology update. -/
structure TopologyChange where
  generation : Nat
  addedNodes : BTreeSet NodeId
  removedNodes : BTreeSet NodeId
  reconnectNodes : BTreeSet NodeId
  reroutedVbuckets : BTreeSet UInt16

/-- The current topology and its local generation fence. -/
structure TopologyState where
  generation : Nat
  topology : ClusterTopology
  deriving DecidableEq

def validateBucketIdentity (current candidate : ClusterTopology) : Result Unit :=
  if current.bucket ≠ candidate.bucket then
    .error (.topology
      s!"topology bucket changed from {debugStr current.bucket} to {debugStr candidate.bucket}")
  else match current.bucketUuid, candidate.bucketUuid with
    | some currentUuid, some candidateUuid =>
      if currentUuid ≠ candidateUuid then
        .error (.topology
          s!"topology bucket UUID changed from {currentUuid} to {candidateUuid}")
      else .ok ()
    | _, _ => .ok ()

namespace TopologyState

def new (topology : ClusterTopology) : TopologyState := { generation := 1, topology }

def addedNodes (current candidate : ClusterTopology) : BTreeSet NodeId :=
  .ofList (candidate.endpoints.keys.filter fun node => !current.endpoints.contains node) compare

def readdressedNodes (current candidate : ClusterTopology) : List NodeId :=
  current.endpoints.keys.filter fun node =>
    match current.endpoints[node]?, candidate.endpoints[node]? with
    | some old, some new => old.address != new.address
    | _, _ => false

def reroutedVbuckets (current candidate : ClusterTopology) : BTreeSet UInt16 :=
  .ofList ((current.vbuckets.keys ++ candidate.vbuckets.keys).filter fun vbucket =>
    current.vbuckets[vbucket]?.map (·.active) !=
      candidate.vbuckets[vbucket]?.map (·.active)) compare

/-- Applies a newer configuration; a stale or identical revision changes nothing. -/
def apply (self : TopologyState) (candidate : ClusterTopology) :
    Result (Option TopologyChange) × TopologyState :=
  match validateBucketIdentity self.topology candidate with
  | .error error => (.error error, self)
  | .ok () =>
    if !candidate.revision.isNewerThan self.topology.revision then (.ok none, self)
    else
      let addedNodes := addedNodes self.topology candidate
      let removedNodes := TopologyState.addedNodes candidate self.topology
      let reconnectNodes := addedNodes.insertMany (readdressedNodes self.topology candidate)
      let reroutedVbuckets := reroutedVbuckets self.topology candidate
      match checkedSucc self.generation with
      | none => (.error (.topology "topology generation overflow"), self)
      | some generation =>
        (.ok (some { generation, addedNodes, removedNodes, reconnectNodes, reroutedVbuckets }),
          { generation, topology := candidate })

/-- What `apply` asks of a candidate. -/
structure Accepts (state : TopologyState) (candidate : ClusterTopology) : Prop where
  identity : validateBucketIdentity state.topology candidate = .ok ()
  newer : candidate.revision.isNewerThan state.topology.revision = true
  room : state.generation < u64Max

theorem apply_accepts (self : TopologyState) (candidate : ClusterTopology) :
    (self.Accepts candidate ∧ ∃ change : TopologyChange,
      change.generation = self.generation + 1 ∧ self.apply candidate =
        (.ok (some change), { generation := self.generation + 1, topology := candidate })) ∨
    (¬self.Accepts candidate ∧ ∃ result, self.apply candidate = (result, self) ∧
      ∀ change, result ≠ .ok (some change)) := by
  rw [apply]
  split
  case h_1 error herror =>
    refine .inr ⟨fun h => ?_, _, rfl, by simp⟩
    cases herror.symm.trans h.identity
  case h_2 hidentity =>
    by_cases hnew : candidate.revision.isNewerThan self.topology.revision = true
    · rw [if_neg (by simp [hnew])]
      cases hnext : checkedSucc self.generation with
      | none =>
        refine .inr ⟨fun h => ?_, _, rfl, by simp⟩
        have hsome := checkedSucc_eq_some.2 ⟨h.room, rfl⟩
        cases hnext.symm.trans hsome
      | some next =>
        obtain ⟨hroom, rfl⟩ := checkedSucc_eq_some.1 hnext
        exact .inl ⟨⟨hidentity, hnew, hroom⟩, _, rfl, rfl⟩
    · rw [if_pos (by simp [hnew])]
      exact .inr ⟨fun h => hnew h.newer, _, rfl, by simp⟩

end TopologyState

end RustDcp
