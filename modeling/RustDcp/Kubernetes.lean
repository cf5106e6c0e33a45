import RustDcp.Assignment

namespace RustDcp.Kubernetes
set_option autoImplicit true

inductive KubernetesMembershipError where
  | configuration (message : String)
  | watchSequence (message : String)
  | fenced (podName expectedUid : String) (observedUid : Option String)
  | generationOverflow
  | assignment (message : String)
  deriving DecidableEq

abbrev KResult := Except KubernetesMembershipError

structure PodIdentity where
  podName : String
  uid : String
  deriving DecidableEq

structure PodState where
  podName : String
  uid : String
  createdAtMillis : Nat
  ready : Bool
  terminating : Bool
  deriving DecidableEq

def PodState.isEffective (self : PodState) : Bool := self.ready && !self.terminating

structure PodMember where
  podName : String
  uid : String
  createdAtMillis : Nat
  deriving DecidableEq

structure KubernetesMembershipSnapshot where
  assignment : VBucketAssignment
  members : List PodMember
  deriving DecidableEq

inductive PodWatchEvent where
  | apply (pod : PodState)
  | delete (pod : PodIdentity)
  | init
  | initApply (pod : PodState)
  | initDone
  deriving DecidableEq

abbrev Pods := BTreeMap String PodState

structure PodMembershipState where
  identity : PodIdentity
  vbucketCount : Nat
  generation : Nat
  active : Pods
  initializing : Option Pods
  initialized : Bool
  publishedOnce : Bool
  deriving DecidableEq

def Before (left right : PodState) : Prop :=
  left.createdAtMillis < right.createdAtMillis ∨ left.createdAtMillis = right.createdAtMillis ∧
    (left.uid < right.uid ∨ left.uid = right.uid ∧ left.podName ≤ right.podName)

instance (left right : PodState) : Decidable (Before left right) :=
  inferInstanceAs (Decidable (_ ∨ _ ∧ (_ ∨ _ ∧ _)))

def ordered (pods : Pods) : List PodState := (pods.toList.map (·.2)).insertionSort Before

def uniqueUids : List String → List PodState → KResult Unit
  | _, [] => .ok ()
  | seen, pod :: rest =>
    if pod.uid ∈ seen then
      .error (.watchSequence s!"effective pod list repeated UID {debugStr pod.uid}")
    else uniqueUids (pod.uid :: seen) rest

def validateUniqueUids (pods : Pods) : KResult Unit := uniqueUids [] (pods.toList.map (·.2))

def asConfigurationError (result : Result VBucketAssignment) : KResult VBucketAssignment :=
  result.mapError fun error => .configuration error.toString

def asAssignmentError (result : Result VBucketAssignment) : KResult VBucketAssignment :=
  result.mapError fun error => .assignment error.toString

namespace PodMembershipState

def new (identity : PodIdentity) (vbucketCount : Nat) : KResult PodMembershipState := do
  let _ ← asConfigurationError (VBucketAssignment.balanced 1 vbucketCount 1 1)
  return {
    identity
    vbucketCount
    generation := 0
    active := ∅
    initializing := none
    initialized := false
    publishedOnce := false }

def fencedBy (self : PodMembershipState) (observedUid : Option String) :
    KubernetesMembershipError :=
  .fenced self.identity.podName self.identity.uid observedUid

def memberNumber (self : PodMembershipState) : KResult Nat :=
  match (ordered self.active).findIdx? fun pod =>
    pod.podName = self.identity.podName ∧ pod.uid = self.identity.uid with
  | some index => .ok (index + 1)
  | none => .error (self.fencedBy none)

def derive (self : PodMembershipState) : KResult KubernetesMembershipSnapshot := do
  let memberNumber ← self.memberNumber
  let assignment ← asAssignmentError (VBucketAssignment.balanced self.generation
    self.vbucketCount memberNumber (ordered self.active).length)
  return {
    assignment
    members := (ordered self.active).map fun pod =>
      { podName := pod.podName, uid := pod.uid, createdAtMillis := pod.createdAtMillis } }

def snapshot (self : PodMembershipState) :
    KResult (Option KubernetesMembershipSnapshot) × PodMembershipState :=
  match self.active[self.identity.podName]? with
  | none =>
    if self.publishedOnce then (.error (self.fencedBy none), self) else (.ok none, self)
  | some pod =>
    if pod.uid ≠ self.identity.uid then (.error (self.fencedBy (some pod.uid)), self)
    else match self.derive with
      | .error error => (.error error, self)
      | .ok snapshot => (.ok (some snapshot), { self with publishedOnce := true })

def commit (self : PodMembershipState) (next : Pods) :
    KResult (Option KubernetesMembershipSnapshot) × PodMembershipState :=
  match validateUniqueUids next with
  | .error error => (.error error, self)
  | .ok () =>
    if next = self.active then (.ok none, self)
    else match checkedSucc self.generation with
      | none => (.error .generationOverflow, self)
      | some generation => { self with active := next, generation }.snapshot

def ensureIncrementalAllowed (self : PodMembershipState) (kind : String) : KResult Unit :=
  if !self.initialized then
    .error (.watchSequence s!"{kind} arrived before the initial list completed")
  else if self.initializing.isSome then
    .error (.watchSequence s!"{kind} arrived during an atomic relist")
  else .ok ()

def apply (self : PodMembershipState) :
    PodWatchEvent → KResult (Option KubernetesMembershipSnapshot) × PodMembershipState
  | .init => (.ok none, { self with initializing := some ∅ })
  | .initApply pod =>
    match self.initializing with
    | none => (.error (.watchSequence "InitApply arrived without Init"), self)
    | some buffer =>
      if buffer.contains pod.podName then
        (.error (.watchSequence s!"initial list repeated pod {debugStr pod.podName}"), self)
      else if pod.isEffective then
        (.ok none, { self with initializing := some (buffer.insert pod.podName pod) })
      else (.ok none, self)
  | .initDone =>
    match self.initializing with
    | none => (.error (.watchSequence "InitDone arrived without Init"), self)
    | some next => { self with initializing := none, initialized := true }.commit next
  | .apply pod =>
    match self.ensureIncrementalAllowed "Apply" with
    | .error error => (.error error, self)
    | .ok () =>
      self.commit (if pod.isEffective then self.active.insert pod.podName pod
        else self.active.erase pod.podName)
  | .delete pod =>
    match self.ensureIncrementalAllowed "Delete" with
    | .error error => (.error error, self)
    | .ok () =>
      self.commit (if self.active[pod.podName]?.any (·.uid = pod.uid) then
        self.active.erase pod.podName else self.active)

end PodMembershipState

/-- A pod's watcher with the snapshot that it published last. The state survives an error, and so
does the snapshot. -/
structure Watch where
  state : PodMembershipState
  published : Option KubernetesMembershipSnapshot
  deriving DecidableEq

namespace Watch

def start (state : PodMembershipState) : Watch := { state, published := none }

/-- What is left of the watcher after a call of `apply`. -/
def record (self : Watch) :
    KResult (Option KubernetesMembershipSnapshot) × PodMembershipState → Watch
  | (.ok (some snapshot), state) => { state, published := some snapshot }
  | (_, state) => { self with state }

def observe (self : Watch) (event : PodWatchEvent) : Watch := self.record (self.state.apply event)

def run (self : Watch) (events : List PodWatchEvent) : Watch := events.foldl observe self

def assigned (self : Watch) : BTreeSet UInt16 :=
  (self.published.map (·.assignment.vbuckets)).getD ∅

end Watch

end RustDcp.Kubernetes
