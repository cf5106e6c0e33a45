import RustDcp.Metadata
import RustDcp.RegistryCas

namespace RustDcp
set_option autoImplicit true

/-- What the KV stores take from outside of the repository; `crc32` is `crc32fast::hash`. -/
structure KvEnvironment where
  crypto : ScramCrypto
  json : ServerJson
  ipv6 : Ipv6Parser
  crc32 : Bytes → UInt32

def couchbaseVbucketForKey (crc32 : Bytes → UInt32) (key : Bytes) (vbucketCount : Nat) :
    Result UInt16 :=
  if vbucketCount = 0 ∨ vbucketCount > 65536 then
    .error (.invalidConfiguration "vBucket count must be in 1..=65536")
  else .ok (.ofNat (((crc32 key >>> 16) &&& 0x7fff).toNat % vbucketCount))

def defaultCollection : String := "_default"

/-- `CouchbaseCheckpointCollectionSpec` and `CouchbaseRegistryCollection`. -/
structure CollectionSpec where
  scope : String
  collection : String
  deriving DecidableEq

def CollectionSpec.isDefault (self : CollectionSpec) : Bool :=
  self.scope == defaultCollection && self.collection == defaultCollection

/-- The collection ID of a store, which calls its collection `kind`. -/
def CollectionSpec.resolve (self : CollectionSpec) (kind : String) (session : KvSession) :
    KvClient (Option UInt32) :=
  if .collections ∉ session.capabilities.helloFeatures then
    if self.isDefault then pure none
    else throw (.unsupported
      s!"{kind} collection {self.scope}.{self.collection} requires Couchbase Collections")
  else if self.isDefault then pure (some 0)
  else do
    let resolved ← resolveCollectionId session.connection self.scope self.collection
    return some resolved.collectionId

/-- The way of both stores to the owner of a key: the collection ID, the vBucket and a session with
the node. -/
def routeToOwner (env : KvEnvironment) (config : ClientConfig) (clientName kind : String)
    (collection : CollectionSpec) (key : String) :
    KvClient (Option UInt32 × UInt16 × KvSession) := do
  let seedSession ← bootstrapKvConnection env.crypto config clientName
  let collectionId ← collection.resolve kind seedSession
  let topology ← discoverTopology env.json seedSession.connection config.bucket config.tls.enabled
    config.network
  let vbucket ← couchbaseVbucketForKey env.crc32 (asBytes key) topology.vbuckets.size
  let endpoint ← topology.activeEndpoint vbucket
  let seed ← SeedAddress.fromStr env.ipv6 endpoint.address
  let nodeSession ← bootstrapKvConnection env.crypto { config with seeds := [seed] } clientName
  return (collectionId, vbucket, nodeSession)

def validateResponseEnvelope (kind : String) (response : Frame) (expectedOpcode : Opcode) :
    Result Unit :=
  if !response.magic.isResponse then
    .error (.protocol (.malformedFrame
      s!"{kind} KV response used request magic 0x{hex 2 response.magic.asU8.toNat}"))
  else if response.opcode ≠ expectedOpcode then
    .error (.protocol (.malformedFrame
      (s!"{kind} KV response opcode 0x{hex 2 response.opcode.toNat} does not match request " ++
       s!"0x{hex 2 expectedOpcode.toNat}")))
  else .ok ()

/-- What an attempt makes of the response; it has no result if the status asks for another
attempt. -/
def readReply (convert : DcpError → ε) (kind : String) (retried : List Status)
    (parse : Frame → Except ε α) (opcode : Opcode) (response : Frame) : Except ε (Option α) := do
  (validateResponseEnvelope kind response opcode).mapError convert
  if response.status ∈ retried then return none
  else return some (← parse response)

def documentStatusError (response : Frame) (context : String) : DcpError :=
  .serverStatus response.status response.opcode s!"{context}: {utf8Lossy response.value}"

/-- The loop of both stores over their routing attempts; an attempt without a result is followed by
the next one. -/
def retryRouting (exhausted : ε) (attempt : Dialogue KvCommand.Reply ε (Option α)) :
    Nat → Dialogue KvCommand.Reply ε α
  | 0 => throw exhausted
  | left + 1 => do
    match ← attempt with
    | some result => pure result
    | none => retryRouting exhausted attempt left

inductive CheckpointKvOperation where
  | getXattr (xattr : String)
  | upsertXattr (xattr : String) (value : Bytes)
  | removeDocument
  deriving DecidableEq

inductive CheckpointKvResult where
  | xattr (value : Option Bytes)
  | mutation
  deriving DecidableEq

namespace CheckpointKvOperation

def request (self : CheckpointKvOperation) (key : String) (collectionId : Option UInt32)
    (vbucket : UInt16) : Result Frame :=
  match self with
  | getXattr xattr =>
    (Command.subdocGetXattr (asBytes key) xattr collectionId vbucket 0).mapError .protocol
  | upsertXattr xattr value =>
    (Command.subdocUpsertXattr (asBytes key) xattr value collectionId vbucket 0).mapError .protocol
  | removeDocument => .ok (Command.deleteDocument (asBytes key) collectionId vbucket 0 0)

def parseResponse (self : CheckpointKvOperation) (response : Frame) : Result CheckpointKvResult :=
  match self with
  | getXattr _ => (Command.parseSubdocGetXattr response).mapError .protocol |>.map .xattr
  | upsertXattr _ _ =>
    (Command.parseSubdocMutation response).mapError .protocol |>.map fun _ => .mutation
  | removeDocument =>
    if response.status = Status.success ∨ response.status = Status.keyNotFound then .ok .mutation
    else .error (documentStatusError response "checkpoint document removal")

end CheckpointKvOperation

/-- The adapter without its gate, which only bounds how many operations run at once. -/
structure CouchbaseKvCheckpointCollection where
  config : ClientConfig
  collection : CollectionSpec
  routingAttempts : Nat

namespace CouchbaseKvCheckpointCollection

def clientName : String := "rust-dcp-checkpoint-couchbase"

def validateDocumentKey (key : String) : Result Unit :=
  if key.isEmpty ∨ key.utf8ByteSize > 250 then
    .error (.invalidConfiguration "checkpoint document key must contain 1..=250 bytes")
  else .ok ()

def unexpectedResult (operation : String) : DcpError :=
  .checkpointStore s!"checkpoint KV {operation} returned an incompatible result"

variable (env : KvEnvironment) (self : CouchbaseKvCheckpointCollection)

def checkCapabilities (collectionId : Option UInt32) (capabilities : BootstrapCapabilities) :
    Result Unit :=
  if .xattr ∉ capabilities.helloFeatures then
    .error (.unsupported "Couchbase checkpoint persistence requires XATTR support")
  else if collectionId.isSome ∧ .collections ∉ capabilities.helloFeatures then
    .error (.unsupported
      (s!"checkpoint collection {self.collection.scope}.{self.collection.collection} requires " ++
       "Couchbase Collections on the active KV node"))
  else .ok ()

def readResponse (operation : CheckpointKvOperation) (opcode : Opcode) (response : Frame) :
    Result (Option CheckpointKvResult) :=
  readReply id "checkpoint" [Status.notMyVbucket, Status.collectionUnknown]
    operation.parseResponse opcode response

def attempt (key : String) (operation : CheckpointKvOperation) :
    KvClient (Option CheckpointKvResult) := do
  let (collectionId, vbucket, session) ←
    routeToOwner env self.config clientName "checkpoint" self.collection key
  self.checkCapabilities collectionId session.capabilities
  let request ← operation.request key collectionId vbucket
  let response ← session.connection.request request
  readResponse operation request.opcode response

def execute (key : String) (operation : CheckpointKvOperation) : KvClient CheckpointKvResult := do
  validateDocumentKey key
  retryRouting (.checkpointStore
    (s!"checkpoint KV owner or collection changed during all {self.routingAttempts} routing " ++
     "attempts"))
    (self.attempt env key operation) self.routingAttempts

def getXattr (key xattr : String) : KvClient (Option Bytes) := do
  match ← self.execute env key (.getXattr xattr) with
  | .xattr value => return value
  | .mutation => throw (unexpectedResult "XATTR lookup")

def upsertXattr (key xattr : String) (value : Bytes) : KvClient Unit := do
  match ← self.execute env key (.upsertXattr xattr value) with
  | .mutation => return ()
  | .xattr _ => throw (unexpectedResult "XATTR upsert")

def removeDocument (key : String) : KvClient Unit := do
  match ← self.execute env key .removeDocument with
  | .mutation => return ()
  | .xattr _ => throw (unexpectedResult "document removal")

end CouchbaseKvCheckpointCollection

namespace Membership

/-- The registry's bytes with their CAS token, as they stand on the wire. -/
structure RegistryBytes where
  value : Bytes
  cas : UInt64
  deriving DecidableEq

inductive StoreWriteResult where
  | stored
  | conflict
  deriving DecidableEq

inductive KvOperation where
  | load
  | create (value : Bytes)
  | replace (value : Bytes) (cas : UInt64)
  deriving DecidableEq

inductive KvResult where
  | loaded (document : Option RegistryBytes)
  | written (result : StoreWriteResult)
  deriving DecidableEq

abbrev MembershipClient := Dialogue KvCommand.Reply CouchbaseMembershipError

namespace KvOperation

def request (self : KvOperation) (key : String) (collectionId : Option UInt32) (vbucket : UInt16)
    (datatype : UInt8) : Frame :=
  match self with
  | load => Command.getDocument (asBytes key) collectionId vbucket 0
  | create value => Command.storeDocument {
      mode := .add, key := asBytes key, value, collectionId, vbucket, flags := 0, expiry := 0,
      datatype, cas := 0, opaqueId := 0 }
  | replace value cas => Command.storeDocument {
      mode := .replace, key := asBytes key, value, collectionId, vbucket, flags := 0, expiry := 0,
      datatype, cas, opaqueId := 0 }

def parseResponse (self : KvOperation) (response : Frame) : MResult KvResult :=
  match self with
  | load =>
    if response.status = Status.success then
      .ok (.loaded (some { value := response.value, cas := response.cas }))
    else if response.status = Status.keyNotFound then .ok (.loaded none)
    else .error (.dcp (documentStatusError response "membership registry load"))
  | create _ =>
    if response.status = Status.success then .ok (.written .stored)
    else if response.status = Status.keyExists then .ok (.written .conflict)
    else .error (.dcp (documentStatusError response "membership registry create"))
  | replace _ _ =>
    if response.status = Status.success then .ok (.written .stored)
    else if response.status = Status.keyExists ∨ response.status = Status.keyNotFound then
      .ok (.written .conflict)
    else .error (.dcp (documentStatusError response "membership registry CAS replace"))

end KvOperation

structure CouchbaseKvMembershipStore where
  config : ClientConfig
  collection : CollectionSpec
  routingAttempts : Nat

namespace CouchbaseKvMembershipStore

def clientName : String := "rust-dcp-membership-couchbase"

def jsonDatatype : UInt8 := 0x01

def validateDocumentKey (key : String) : MResult Unit :=
  if key.isEmpty ∨ key.utf8ByteSize > 250 ∨ !key.toList.all isAsciiGraphic then
    .error (.configuration "registry document key must contain 1..=250 visible ASCII bytes")
  else .ok ()

def checkCapabilities (collectionId : Option UInt32) (capabilities : BootstrapCapabilities) :
    MResult Unit :=
  if collectionId.isSome ∧ .collections ∉ capabilities.helloFeatures then
    .error (.dcp (.unsupported
      "registry collection requires Couchbase Collections on the active KV node"))
  else .ok ()

def readResponse (operation : KvOperation) (opcode : Opcode) (response : Frame) :
    MResult (Option KvResult) :=
  readReply .dcp "membership" [Status.notMyVbucket] operation.parseResponse opcode response

variable (env : KvEnvironment) (self : CouchbaseKvMembershipStore)

def attempt (key : String) (operation : KvOperation) : MembershipClient (Option KvResult) := do
  let (collectionId, vbucket, session) ←
    (routeToOwner env self.config clientName "registry" self.collection key).mapError .dcp
  checkCapabilities collectionId session.capabilities
  let datatype := if .json ∈ session.capabilities.helloFeatures then jsonDatatype else 0
  let request := operation.request key collectionId vbucket datatype
  let response ← (session.connection.request request).mapError .dcp
  readResponse operation request.opcode response

def execute (key : String) (operation : KvOperation) : MembershipClient KvResult := do
  validateDocumentKey key
  retryRouting (.store
    s!"active vBucket owner changed during all {self.routingAttempts} routing attempts")
    (self.attempt env key operation) self.routingAttempts

def load (key : String) : MembershipClient (Option RegistryBytes) := do
  match ← self.execute env key .load with
  | .loaded document => return document
  | .written _ => throw (.store "KV load returned a write result")

def create (key : String) (value : Bytes) : MembershipClient StoreWriteResult := do
  match ← self.execute env key (.create value) with
  | .written result => return result
  | .loaded _ => throw (.store "KV create returned a load result")

def replace (key : String) (value : Bytes) (cas : UInt64) : MembershipClient StoreWriteResult := do
  match ← self.execute env key (.replace value cas) with
  | .written result => return result
  | .loaded _ => throw (.store "KV replace returned a load result")

end CouchbaseKvMembershipStore

end Membership

end RustDcp
