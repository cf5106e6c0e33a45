import RustDcp.BootstrapOrder
import RustDcp.Metadata
import RustDcp.WireRequest

namespace RustDcp
set_option autoImplicit true

namespace Wire

def clientName : String := "rust-dcp/0.1.0"

/-- What the opening of a generation takes from outside of the repository: the cryptography, the
JSON and address parsers, the name that `next_connection_name` gives for a node, and the state of a
connection when its worker starts. -/
structure Environment where
  crypto : ScramCrypto
  json : ServerJson
  ipv6 : Ipv6Parser
  connectionName : NodeId → String
  transport : ConnectionId → KvConnection

def mergeCollectionHighs (connection : Connection) :
    BTreeMap UInt16 Nat → List UInt32 → KvClient (BTreeMap UInt16 Nat)
  | merged, [] => pure merged
  | merged, collectionId :: collectionIds => do
    let seqnos ← fetchActiveHighSeqnos connection (some collectionId)
    mergeCollectionHighs connection (seqnos.foldl mergeHighSeqno merged) collectionIds

def fetchSelectionHighSeqnos (connection : Connection) (selection : CollectionSelection) :
    KvClient (BTreeMap UInt16 Nat) :=
  match selection.highSeqnoCollectionIds with
  | none => fetchActiveHighSeqnos connection none
  | some collectionIds => mergeCollectionHighs connection ∅ collectionIds

/-- One turn of the loop of `open_partition`; `again` is the next one, if a rollback is still
followed. -/
def openTurn (connection : Connection) (policy : RollbackPolicy)
    (handler : Option RollbackHandler)
    (again : Option (VBucketStreamRequest → List RollbackApplied →
      KvClient (PartitionOpenState × List RollbackApplied)))
    (request : VBucketStreamRequest) (rollbacks : List RollbackApplied) :
    KvClient (PartitionOpenState × List RollbackApplied) := do
  let frame ← (Protocol.streamRequest request.wireRequest).mapError DcpError.protocol
  let response ← connection.request frame
  let answer ← (Command.parseStreamRequestResponse response).mapError DcpError.protocol
  match answer, again with
  | .opened entries, _ =>
    let state ← request.openState response.opaqueId entries
    return (state, rollbacks)
  | .rollback _, none =>
    throw (.stream request.checkpoint.vbucket
      s!"producer exceeded {maxRollbackAttempts} consecutive rollback responses")
  | .rollback rollbackSeqno, some again =>
    if rollbackSeqno ≥ request.checkpoint.seqno then
      throw (.protocol (.malformedDcp
        (s!"vBucket {request.checkpoint.vbucket} rollback {rollbackSeqno} does not precede " ++
         s!"requested seqno {request.checkpoint.seqno}")))
    else
      let failoverLog ← fetchFailoverLog connection request.checkpoint.vbucket
      let (request, rollback) ← request.rollBack policy handler rollbackSeqno (.ok failoverLog)
      again request (rollbacks ++ [rollback])

/-- The loop of `open_partition`; the number counts the rollbacks that it still follows. -/
def openLoop (connection : Connection) (policy : RollbackPolicy)
    (handler : Option RollbackHandler) : Nat → VBucketStreamRequest → List RollbackApplied →
    KvClient (PartitionOpenState × List RollbackApplied)
  | 0 => openTurn connection policy handler none
  | left + 1 => openTurn connection policy handler (some (openLoop connection policy handler left))

def openPartition (connection : Connection) (policy : RollbackPolicy)
    (handler : Option RollbackHandler) (request : VBucketStreamRequest) :
    KvClient (PartitionOpenState × List RollbackApplied) :=
  openLoop connection policy handler maxRollbackAttempts request []

section

variable (env : Environment) (client : ClientConfig) (config : DcpConfig)
  (request : OpenGenerationRequest) (streamId : Option UInt16)

def openPartitions (connection : Connection) :
    StreamOpenReport → List VBucketStreamRequest → KvClient StreamOpenReport
  | report, [] => pure report
  | report, request :: rest => do
    let (state, rollbacks) ←
      openPartition connection config.rollbackPolicy config.rollbackHandler request
    openPartitions connection
      { partitions := report.partitions.insert state.vbucket state
        rollbacks := report.rollbacks ++ rollbacks } rest

def openDcpStream (session : KvSession) (requests : List VBucketStreamRequest) :
    KvClient NodeStream := do
  config.flowControl.validate
  validateRequests requests
  validateCapabilities (decide (.collections ∈ session.capabilities.helloFeatures))
    (decide (.streamId ∈ session.capabilities.dcpControls)) requests
  checkHandler config
  let report ← openPartitions config session.connection
    { partitions := ∅, rollbacks := [] } requests
  return {
    report
    worker := Worker.spawn (env.transport session.connection.id) report.partitions
      (FlowCredit.new config.flowControl.connectionBufferSize config.flowControl.belowTarget)
      (.streamEndOnClose ∈ session.capabilities.dcpControls)
    taken := 0 }

def resolveNodeRequest (node : NodeId) (connection : Connection) (selection : CollectionSelection)
    (highSeqnos : BTreeMap UInt16 Nat) (vbucket : UInt16) :
    KvClient (VBucketStreamRequest × Nat) :=
  match highSeqnos[vbucket]? with
  | none => throw (.topology
      s!"node {node} omitted active high seqno for assigned vBucket {vbucket}")
  | some highSeqno => do
    let failoverLog ← fetchFailoverLog connection vbucket
    match request.starts[vbucket]? with
    | none => throw (.topology s!"missing start position for vBucket {vbucket}")
    | some start =>
      let frozenEndSeqno ← request.frozenEndSeqno vbucket
      resolveVbucketRequest vbucket request.topology.bucketIdentity start config.mode highSeqno
        failoverLog selection.streamFilter config.rollbackPolicy config.rollbackHandler
        frozenEndSeqno

def resolveNodeRequests (node : NodeId) (connection : Connection) (selection : CollectionSelection)
    (highSeqnos : BTreeMap UInt16 Nat) :
    Nat → List UInt16 → KvClient (List VBucketStreamRequest × Nat)
  | rollbacks, [] => pure ([], rollbacks)
  | rollbacks, vbucket :: rest => do
    let (resolved, more) ←
      resolveNodeRequest config request node connection selection highSeqnos vbucket
    if rollbacks + more > u64Max then
      throw (.stream vbucket "preflight rollback counter overflow")
    else
      let (requests, rollbacks) ←
        resolveNodeRequests node connection selection highSeqnos (rollbacks + more) rest
      return (resolved :: requests, rollbacks)

/-- The connection of `open_tokio_node`, to the endpoint of the node alone. -/
def connectNode (node : NodeId) : KvClient KvSession :=
  match request.topology.endpoints[node]? with
  | none => throw (.topology s!"node {node} has no KV endpoint")
  | some endpoint => do
    let seed ← SeedAddress.fromStr env.ipv6 endpoint.address
    bootstrapConnection env.crypto { client with seeds := [seed] } clientName
      (env.connectionName node)

/-- The selection of an earlier node, or the one that this node's manifest gives. -/
def nodeSelection (session : KvSession) : Option CollectionSelection → KvClient CollectionSelection
  | some selection => pure selection
  | none => resolveCollectionSelection env.json session client.collections streamId

/-- The part of `open_tokio_node` from its connection to the stream requests. -/
def prepareNode (node : NodeId) (vbuckets : List UInt16) (existing : Option CollectionSelection)
    (session : KvSession) :
    KvClient (CollectionSelection × List VBucketStreamRequest × Nat) := do
  let selection ← nodeSelection env client streamId session existing
  let highSeqnos ← fetchSelectionHighSeqnos session.connection selection
  let (requests, rollbacks) ←
    resolveNodeRequests config request node session.connection selection highSeqnos 0 vbuckets
  return (selection, requests, rollbacks)

def openTokioNode (node : NodeId) (vbuckets : List UInt16)
    (existing : Option CollectionSelection) :
    KvClient (NodeStream × CollectionSelection × Nat) := do
  let session ← connectNode env client request node
  let (selection, requests, rollbacks) ←
    prepareNode env client config request streamId node vbuckets existing session
  let stream ← openDcpStream env config session requests
  return (stream, selection, rollbacks)

def openNodes : Opening → List (NodeId × List UInt16) → KvClient Opening
  | opening, [] => pure opening
  | opening, (node, vbuckets) :: rest => do
    let (stream, selection, rollbacks) ←
      openTokioNode env client config request streamId node vbuckets opening.selection
    let nodeRollbacks := rollbacks + stream.report.rollbacks.length
    if nodeRollbacks > u64Max ∨ opening.rollbackCount + nodeRollbacks > u64Max then
      throw (.stream 0 "rollback counter overflow")
    else
      let opening ← Opening.insertPartitions { opening with
        streams := opening.streams ++ [stream]
        rollbackCount := opening.rollbackCount + nodeRollbacks
        selection := opening.selection.or (some selection) } stream.report.partitions.toList
      openNodes opening rest

/-- The part of `open_tokio_generation` before the opened partitions are validated. -/
def openStreams : KvClient Opening :=
  if request.starts.isEmpty then
    throw (.invalidConfiguration "a DCP subscription must own at least one vBucket")
  else do
    let grouped ← request.topology.activeVbucketsByNode request.starts.keys
    openNodes env client config request streamId .empty grouped.toList

/-- `open_tokio_generation` once all nodes are open. -/
def completeGeneration (opening : Opening) : Result TokioGeneration :=
  match opening.selection with
  | none => .error (.topology "the active topology produced no node-level DCP streams")
  | some selection => do
    opening.validate request
    let mitigation ← spawnTokioMitigator config request.topology opening.effectiveCheckpoints
    return {
      streams := opening.streams
      effectiveCheckpoints := opening.effectiveCheckpoints
      endSeqnos := opening.endSeqnos
      registry := .new selection
      rollbackCount := opening.rollbackCount
      mitigation }

def openTokioGeneration : KvClient TokioGeneration := do
  let opening ← openStreams env client config request streamId
  completeGeneration config request opening

end

end Wire

end RustDcp
