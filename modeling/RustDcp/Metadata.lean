import RustDcp.Bootstrap

namespace RustDcp
set_option autoImplicit true

structure WireCollection where
  uid : String
  name : String
  deriving DecidableEq

structure WireScope where
  uid : String
  name : String
  collections : List WireCollection
  deriving DecidableEq

structure WireManifest where
  uid : String
  scopes : List WireScope
  deriving DecidableEq

/-- The JSON documents of the server, as `serde_json` reads them; its errors are texts. -/
structure ServerJson where
  bucketConfig : Bytes → Except String RawBucketConfig
  manifest : Bytes → Except String WireManifest

def hexDigit (c : Char) : Option Nat :=
  if '0' ≤ c ∧ c ≤ '9' then some (c.toNat - '0'.toNat)
  else if 'a' ≤ c ∧ c ≤ 'f' then some (c.toNat - 'a'.toNat + 10)
  else if 'A' ≤ c ∧ c ≤ 'F' then some (c.toNat - 'A'.toNat + 10)
  else none

def parseHexDigits (bound : Nat) : Nat → List Char → Except Decimal.ParseIntError Nat
  | n, [] => .ok n
  | n, c :: rest =>
    match hexDigit c with
    | none => .error .invalidDigit
    | some digit =>
      if 16 * n + digit > bound then .error .posOverflow
      else parseHexDigits bound (16 * n + digit) rest

/-- `from_str_radix` with radix 16, for the unsigned type whose largest value is `bound`. -/
def parseHex (bound : Nat) : List Char → Except Decimal.ParseIntError Nat
  | [] => .error .empty
  | ['+'] => .error .invalidDigit
  | '+' :: digits => parseHexDigits bound 0 digits
  | digits => parseHexDigits bound 0 digits

def parseHexUid (bound : Nat) (kind value : String) : Result Nat :=
  (parseHex bound value.toList).mapError fun error =>
    .protocol (.malformedFrame s!"invalid {kind} UID {debugStr value}: {error.toString}")

def parseHexU64 (kind value : String) : Result Nat := parseHexUid u64Max kind value

def parseHexU32 (kind value : String) : Result UInt32 :=
  (parseHexUid u32Max kind value).map .ofNat

def ManifestCollection.tryFrom (collection : WireCollection) : Result ManifestCollection := do
  return { uid := ← parseHexU32 "collection" collection.uid, name := collection.name }

def ManifestScope.tryFrom (scope : WireScope) : Result ManifestScope := do
  return {
    uid := ← parseHexU32 "scope" scope.uid
    name := scope.name
    collections := ← scope.collections.mapM ManifestCollection.tryFrom }

section

variable (json : ServerJson)

def CollectionManifest.parse (bytes : Bytes) : Result CollectionManifest := do
  let wire ← (json.manifest bytes).mapError fun error => .protocol (.json error)
  let manifest : CollectionManifest := {
    uid := ← parseHexU64 "manifest" wire.uid
    scopes := ← wire.scopes.mapM ManifestScope.tryFrom }
  manifest.validateIdentity
  return manifest

def ClusterTopology.fromJson (payload : Bytes) (sourceAddress : String) (tls : Bool)
    (network : TopologyNetwork) : Result ClusterTopology :=
  match json.bucketConfig payload with
  | .error error => .error (.topology s!"invalid CCCP bucket config: {error}")
  | .ok raw => raw.build sourceAddress tls network

/-- What `discover_topology` makes of the response. -/
def topologyOf (peer expectedBucket : String) (tls : Bool) (network : TopologyNetwork)
    (response : Frame) : Result ClusterTopology := do
  Worker.ensureSuccessResponse response Opcode.getClusterConfig "cluster configuration"
  let topology ← ClusterTopology.fromJson json response.value peer tls network
  if topology.bucket ≠ expectedBucket then
    .error (.topology
      (s!"cluster config bucket {debugStr topology.bucket} does not match selected bucket " ++
       s!"{debugStr expectedBucket}"))
  else return topology

def discoverTopology (connection : Connection) (expectedBucket : String) (tls : Bool)
    (network : TopologyNetwork) : KvClient ClusterTopology := do
  let response ← connection.request (Command.getClusterConfig 0)
  topologyOf json connection.peer expectedBucket tls network response

/-- The loop of `fetch_active_high_seqnos` over the entries. -/
def collectHighSeqnos (result : BTreeMap UInt16 Nat) :
    List VBucketSeqNo → Result (BTreeMap UInt16 Nat)
  | [] => .ok result
  | entry :: entries =>
    if result.contains entry.vbucket then
      .error (.protocol (.malformedDcp
        s!"duplicate high-seqno entry for vBucket {entry.vbucket}"))
    else collectHighSeqnos (result.insert entry.vbucket entry.seqno) entries

/-- What `fetch_active_high_seqnos` makes of the response. -/
def activeHighSeqnosOf (response : Frame) : Result (BTreeMap UInt16 Nat) := do
  Worker.ensureSuccessResponse response Opcode.getAllVbSeqnos "active high sequence numbers"
  let entries ← (Command.parseVbucketSeqnos response).mapError .protocol
  collectHighSeqnos ∅ entries

def fetchActiveHighSeqnos (connection : Connection) (collectionId : Option UInt32) :
    KvClient (BTreeMap UInt16 Nat) := do
  let response ← connection.request (Command.getVbucketSeqnos VBucketState.active collectionId 0)
  activeHighSeqnosOf response

/-- What `fetch_failover_log` makes of the response. -/
def failoverLogOf (vbucket : UInt16) (response : Frame) : Result (List FailoverEntry) := do
  Worker.ensureSuccessResponse response Opcode.dcpGetFailoverLog "vBucket failover log"
  let entries ← (Command.parseFailoverLog response).mapError .protocol
  if entries.isEmpty then
    .error (.topology s!"server returned an empty failover log for vBucket {vbucket}")
  else return entries

def fetchFailoverLog (connection : Connection) (vbucket : UInt16) :
    KvClient (List FailoverEntry) := do
  let response ← connection.request (Command.getFailoverLog vbucket 0)
  failoverLogOf vbucket response

/-- What `fetch_collection_manifest` makes of the response. -/
def manifestOf (response : Frame) : Result CollectionManifest := do
  let payload ← (Command.parseCollectionManifest response).mapError .protocol
  CollectionManifest.parse json payload

def fetchCollectionManifest (connection : Connection) : KvClient CollectionManifest := do
  let response ← connection.request (Command.getCollectionManifest 0)
  manifestOf json response

/-- What `resolve_collection_id` makes of the response. -/
def collectionIdOf (response : Frame) : Result CollectionId :=
  (Command.parseCollectionId response).mapError .protocol

def resolveCollectionId (connection : Connection) (scope collection : String) :
    KvClient CollectionId := do
  let request ← (Command.getCollectionId scope collection 0).mapError DcpError.protocol
  let response ← connection.request request
  collectionIdOf response

end

def debugTexts (texts : List String) : String :=
  "[" ++ ", ".intercalate (texts.map debugStr) ++ "]"

/-- `resolve_collection_selection` over the way in which the manifest is fetched. -/
def resolveSelection [Monad m] [MonadLiftT Result m] (capabilities : BootstrapCapabilities)
    (configured : CollectionFilter) (streamId : Option UInt16) (fetch : m CollectionManifest) :
    m CollectionSelection := do
  liftM configured.validate
  if streamId.isSome ∧ .streamId ∉ capabilities.dcpControls then
    liftM (throw (.unsupported "stream ID requested but enable_stream_id was not accepted") :
      Result CollectionSelection)
  else if .collections ∈ capabilities.helloFeatures then do
    let manifest ← fetch
    let resolved ← liftM (manifest.resolve configured streamId)
    return { resolved := some resolved, legacyCollectionName := none }
  else if configured.scope = "_default" ∧
      (configured.collections = [] ∨ configured.collections = ["_default"]) then
    return { resolved := none, legacyCollectionName := some "_default" }
  else
    liftM (throw (.unsupported
      (s!"server did not negotiate collections required by scope {debugStr configured.scope} " ++
       s!"and collections {debugTexts configured.collections}")) :
      Result CollectionSelection)

def resolveCollectionSelection (json : ServerJson) (session : KvSession)
    (configured : CollectionFilter) (streamId : Option UInt16) : KvClient CollectionSelection :=
  resolveSelection session.capabilities configured streamId
    (fetchCollectionManifest json session.connection)

end RustDcp
