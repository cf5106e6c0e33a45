import RustDcp.MitigationPlan
import RustDcp.Reopen
import RustDcp.StreamOrder
import RustDcp.TopologyPublication

namespace RustDcp
set_option autoImplicit true

/-- `ackRatioValid` says that the ACK ratio lies in (0, 1], and `belowTarget` compares with the
buffer size times the ratio; both are made in floating point. -/
structure FlowControlConfig where
  connectionBufferSize : Nat
  ackRatioValid : Bool
  belowTarget : Nat → Bool
  noopInterval : Duration
  deadConnectionTimeout : Duration

def FlowControlConfig.validate (self : FlowControlConfig) : Result Unit :=
  if self.connectionBufferSize = 0 then
    .error (.invalidConfiguration "connection buffer size must be greater than zero")
  else if self.connectionBufferSize > u32Max then
    .error (.invalidConfiguration
      "connection buffer size must fit in the server's 32-bit control value")
  else if !self.ackRatioValid then
    .error (.invalidConfiguration "flow-control ack ratio must be in (0, 1]")
  else if self.noopInterval < 10 ^ 9 then
    .error (.invalidConfiguration "NOOP interval must be at least one second")
  else if self.deadConnectionTimeout ≤ self.noopInterval then
    .error (.invalidConfiguration
      "dead connection timeout must be greater than the NOOP interval")
  else .ok ()

/-- What a subscription reads of the client's configuration and of its own spec. `skipUntil` counts
nanoseconds from the epoch, and `parseTopology` is `ClusterTopology::from_json`. -/
structure DcpConfig where
  mode : DcpMode
  startFrom : StartPosition
  skipUntil : Option Int
  flowControl : FlowControlConfig
  checkpoint : CheckpointConfig
  rollbackPolicy : RollbackPolicy
  rollbackHandler : Option RollbackHandler
  mitigationEnabled : Bool
  maximumStall : Duration
  parseTopology : Bytes → String → Result ClusterTopology

structure OpenGenerationRequest where
  topology : ClusterTopology
  starts : BTreeMap UInt16 StartPosition
  frozenEndSeqnos : Option (BTreeMap UInt16 Nat)

/-- What the outside answers while the streams of one node are opened. `connection` is the
connection when the last of them is open. -/
structure NodeAnswers where
  bootstrap : Result Unit
  collections : Bool
  streamIds : Bool
  streamEndOnClose : Bool
  selection : Result CollectionSelection
  activeHighSeqnos : Option UInt32 → Result (BTreeMap UInt16 Nat)
  failoverLog : UInt16 → Result (List FailoverEntry)
  replies : UInt16 → List (UInt32 × OpenReply)
  connection : KvConnection

def ClusterTopology.bucketIdentity (self : ClusterTopology) : String :=
  self.bucketUuid.getD self.bucket

def groupByNode (topology : ClusterTopology) :
    BTreeMap NodeId (List UInt16) → List UInt16 → Result (BTreeMap NodeId (List UInt16))
  | grouped, [] => .ok grouped
  | grouped, vbucket :: rest =>
    match topology.activeNode vbucket with
    | .error error => .error error
    | .ok node =>
      groupByNode topology (grouped.insert node (grouped.getD node [] ++ [vbucket])) rest

def ClusterTopology.activeVbucketsByNode (self : ClusterTopology) (vbuckets : List UInt16) :
    Result (BTreeMap NodeId (List UInt16)) :=
  (groupByNode self ∅ vbuckets).map fun grouped =>
    grouped.map fun _ partitions => (partitions.insertionSort (· ≤ ·)).dedup

def OpenGenerationRequest.frozenEndSeqno (self : OpenGenerationRequest) (vbucket : UInt16) :
    Result (Option Nat) :=
  match self.frozenEndSeqnos with
  | none => .ok none
  | some endSeqnos =>
    match endSeqnos[vbucket]? with
    | some endSeqno => .ok (some endSeqno)
    | none => .error (.topology s!"missing frozen end seqno for vBucket {vbucket}")

structure StreamOpenReport where
  partitions : BTreeMap UInt16 PartitionOpenState
  rollbacks : List RollbackApplied
  deriving DecidableEq

/-- The stream of one node: its worker, and how many of the worker's items have been taken. -/
structure NodeStream where
  report : StreamOpenReport
  worker : Worker
  taken : Nat
  deriving DecidableEq

section

variable (config : DcpConfig) (request : OpenGenerationRequest)

def resolveNodeRequest (node : NodeId) (answers : NodeAnswers) (selection : CollectionSelection)
    (highSeqnos : BTreeMap UInt16 Nat) (vbucket : UInt16) :
    Result (VBucketStreamRequest × Nat) :=
  match highSeqnos[vbucket]? with
  | none => .error (.topology
      s!"node {node} omitted active high seqno for assigned vBucket {vbucket}")
  | some highSeqno => do
    let failoverLog ← answers.failoverLog vbucket
    match request.starts[vbucket]? with
    | none => .error (.topology s!"missing start position for vBucket {vbucket}")
    | some start =>
      let frozenEndSeqno ← request.frozenEndSeqno vbucket
      resolveVbucketRequest vbucket request.topology.bucketIdentity start config.mode highSeqno
        failoverLog selection.streamFilter config.rollbackPolicy config.rollbackHandler
        frozenEndSeqno

/-- The loop over the vBuckets of one node; `rollbacks` is the preflight counter. -/
def resolveNodeRequests (node : NodeId) (answers : NodeAnswers) (selection : CollectionSelection)
    (highSeqnos : BTreeMap UInt16 Nat) :
    Nat → List UInt16 → Result (List VBucketStreamRequest × Nat)
  | rollbacks, [] => .ok ([], rollbacks)
  | rollbacks, vbucket :: rest => do
    let (resolved, more) ←
      resolveNodeRequest config request node answers selection highSeqnos vbucket
    if rollbacks + more > u64Max then
      .error (.stream vbucket "preflight rollback counter overflow")
    else
      let (requests, rollbacks) ←
        resolveNodeRequests node answers selection highSeqnos (rollbacks + more) rest
      return (resolved :: requests, rollbacks)

def validateEachRequest : List UInt16 → List VBucketStreamRequest → Result Unit
  | _, [] => .ok ()
  | seen, request :: rest => do
    request.checkpoint.validate
    if request.checkpoint.seqno > request.endSeqno then
      .error (.invalidConfiguration
        (s!"vBucket {request.checkpoint.vbucket} start {request.checkpoint.seqno} exceeds " ++
         s!"stream end {request.endSeqno}"))
    else if request.checkpoint.vbucket ∈ seen then
      .error (.invalidConfiguration
        s!"duplicate stream request for vBucket {request.checkpoint.vbucket}")
    else validateEachRequest (request.checkpoint.vbucket :: seen) rest

def validateRequests (requests : List VBucketStreamRequest) : Result Unit :=
  if requests.isEmpty then
    .error (.invalidConfiguration "at least one vBucket stream request is required")
  else validateEachRequest [] requests

def validateCapabilities (collections streamIds : Bool) : List VBucketStreamRequest → Result Unit
  | [] => .ok ()
  | request :: rest =>
    if request.filter.isSome ∧ ¬collections then
      .error (.unsupported
        (s!"vBucket {request.checkpoint.vbucket} uses a stream filter but the server did not " ++
         "negotiate collections"))
    else if request.streamId.isSome ∧ ¬streamIds then
      .error (.unsupported
        (s!"vBucket {request.checkpoint.vbucket} uses a stream ID but enable_stream_id was not " ++
         "accepted"))
    else validateCapabilities collections streamIds rest

def openPartitions (answers : NodeAnswers) :
    StreamOpenReport → List VBucketStreamRequest → Result StreamOpenReport
  | report, [] => .ok report
  | report, request :: rest => do
    let (state, rollbacks) ← openPartition config.rollbackPolicy config.rollbackHandler request
      (answers.replies request.checkpoint.vbucket)
    openPartitions answers
      { partitions := report.partitions.insert state.vbucket state
        rollbacks := report.rollbacks ++ rollbacks } rest

def checkHandler : Result Unit :=
  if config.rollbackPolicy = .delegateToHandler ∧ config.rollbackHandler.isNone then
    .error missingHandler
  else .ok ()

def openDcpStream (answers : NodeAnswers) (requests : List VBucketStreamRequest) :
    Result NodeStream := do
  config.flowControl.validate
  validateRequests requests
  validateCapabilities answers.collections answers.streamIds requests
  checkHandler config
  let report ← openPartitions config answers { partitions := ∅, rollbacks := [] } requests
  return {
    report
    worker := Worker.spawn answers.connection report.partitions
      (FlowCredit.new config.flowControl.connectionBufferSize config.flowControl.belowTarget)
      answers.streamEndOnClose
    taken := 0 }

def openTokioNode (node : NodeId) (vbuckets : List UInt16) (existing : Option CollectionSelection)
    (answers : NodeAnswers) : Result (NodeStream × CollectionSelection × Nat) :=
  match request.topology.endpoints[node]? with
  | none => .error (.topology s!"node {node} has no KV endpoint")
  | some _ => do
    answers.bootstrap
    let selection ← existing.elim answers.selection .ok
    let highSeqnos ← fetchSelectionHighSeqnos answers.activeHighSeqnos selection
    let (requests, rollbacks) ←
      resolveNodeRequests config request node answers selection highSeqnos 0 vbuckets
    let stream ← openDcpStream config answers requests
    return (stream, selection, rollbacks)

/-- The accumulators of `open_tokio_generation`. -/
structure Opening where
  streams : List NodeStream
  effectiveCheckpoints : BTreeMap UInt16 DcpCheckpoint
  endSeqnos : BTreeMap UInt16 Nat
  rollbackCount : Nat
  selection : Option CollectionSelection

def Opening.empty : Opening :=
  { streams := [], effectiveCheckpoints := ∅, endSeqnos := ∅, rollbackCount := 0,
    selection := none }

/-- Adds the opened partitions of one node; a vBucket must not be there yet. -/
def Opening.insertPartitions : Opening → List (UInt16 × PartitionOpenState) → Result Opening
  | self, [] => .ok self
  | self, (vbucket, state) :: rest =>
    if self.effectiveCheckpoints.contains vbucket ∨ self.endSeqnos.contains vbucket then
      .error (.topology s!"vBucket {vbucket} was opened on more than one node")
    else Opening.insertPartitions { self with
      effectiveCheckpoints := self.effectiveCheckpoints.insert vbucket state.effectiveCheckpoint
      endSeqnos := self.endSeqnos.insert vbucket state.endSeqno } rest

def openNodes (answers : NodeId → NodeAnswers) :
    Opening → List (NodeId × List UInt16) → Result Opening
  | opening, [] => .ok opening
  | opening, (node, vbuckets) :: rest => do
    let (stream, selection, rollbacks) ←
      openTokioNode config request node vbuckets opening.selection (answers node)
    let nodeRollbacks := rollbacks + stream.report.rollbacks.length
    if nodeRollbacks > u64Max ∨ opening.rollbackCount + nodeRollbacks > u64Max then
      .error (.stream 0 "rollback counter overflow")
    else
      let opening ← Opening.insertPartitions { opening with
        streams := opening.streams ++ [stream]
        rollbackCount := opening.rollbackCount + nodeRollbacks
        selection := opening.selection.or (some selection) } stream.report.partitions.toList
      openNodes answers opening rest

def spawnTokioMitigator (topology : ClusterTopology)
    (checkpoints : BTreeMap UInt16 DcpCheckpoint) : Result (Option Mitigation.Mitigator) :=
  if !config.mitigationEnabled then .ok none
  else do
    let branches := checkpoints.map fun _ checkpoint => checkpoint.vbucketUuid
    let _ ← Mitigation.ObservationPlan.new topology branches
    let snapshot ← Mitigation.MitigationSnapshot.new branches
    return some (.start config.maximumStall snapshot)

structure TokioGeneration where
  streams : List NodeStream
  effectiveCheckpoints : BTreeMap UInt16 DcpCheckpoint
  endSeqnos : BTreeMap UInt16 Nat
  registry : RegistryState
  rollbackCount : Nat
  mitigation : Option Mitigation.Mitigator

def TokioGeneration.opened (self : TokioGeneration) : OpenedGeneration :=
  { effectiveCheckpoints := self.effectiveCheckpoints
    endSeqnos := self.endSeqnos
    streamCount := self.streams.length }

/-- The part of `open_tokio_generation` before the opened partitions are validated. -/
def openStreams (answers : NodeId → NodeAnswers) : Result Opening :=
  if request.starts.isEmpty then
    .error (.invalidConfiguration "a DCP subscription must own at least one vBucket")
  else do
    let grouped ← request.topology.activeVbucketsByNode request.starts.keys
    openNodes config request answers .empty grouped.toList

def Opening.validate (self : Opening) : Result Unit :=
  validateOpenedPartitions request.starts self.effectiveCheckpoints self.endSeqnos
    request.frozenEndSeqnos self.streams.length

def openTokioGeneration (answers : NodeId → NodeAnswers) : Result TokioGeneration := do
  let opening ← openStreams config request answers
  match opening.selection with
  | none => .error (.topology "the active topology produced no node-level DCP streams")
  | some selection =>
    opening.validate request
    let mitigation ← spawnTokioMitigator config request.topology opening.effectiveCheckpoints
    return {
      streams := opening.streams
      effectiveCheckpoints := opening.effectiveCheckpoints
      endSeqnos := opening.endSeqnos
      registry := .new selection
      rollbackCount := opening.rollbackCount
      mitigation }

end

end RustDcp
