import RustDcp.CollectionManifest
import RustDcp.Command
import RustDcp.Dialogue
import RustDcp.Generation
import RustDcp.SeedAddress

namespace RustDcp
set_option autoImplicit true

abbrev ConnectionId := Nat

inductive KvCommand where
  | connect (seed : SeedAddress)
  | fillNonce
  | setCollectionsEnabled (connection : ConnectionId) (enabled : Bool)
  | setSnappyEnabled (connection : ConnectionId) (enabled : Bool)
  | request (connection : ConnectionId) (frame : Frame)
  deriving DecidableEq

/-- A request is answered by its response, or fails with what `KvConnection::request` returns. -/
def KvCommand.Reply : KvCommand → Type
  | .connect _ => Result ConnectionId
  | .fillNonce => Except String Bytes
  | .setCollectionsEnabled _ _ => Unit
  | .setSnappyEnabled _ _ => Unit
  | .request _ _ => Result Frame

abbrev KvClient := Dialogue KvCommand.Reply DcpError

structure Connection where
  id : ConnectionId
  peer : String
  deriving DecidableEq

namespace Connection

def request (self : Connection) (frame : Frame) : KvClient Frame :=
  .ask (.request self.id frame) .done

def setCollectionsEnabled (self : Connection) (enabled : Bool) : KvClient Unit :=
  .ask (.setCollectionsEnabled self.id enabled) fun _ => .done (.ok ())

def setSnappyEnabled (self : Connection) (enabled : Bool) : KvClient Unit :=
  .ask (.setSnappyEnabled self.id enabled) fun _ => .done (.ok ())

end Connection

/-- The error of a connection is left to the caller. -/
def connect (seed : SeedAddress) : KvClient (Result ConnectionId) :=
  .ask (.connect seed) fun id => .done (.ok id)

def fillNonce : KvClient (Except String Bytes) := .ask .fillNonce fun nonce => .done (.ok nonce)

structure Credentials where
  username : String
  password : String
  deriving DecidableEq

structure TlsConfig where
  enabled : Bool
  serverName : Option String
  deriving DecidableEq

inductive DcpPriority where
  | low
  | medium
  | high
  deriving DecidableEq

structure RollbackMitigationConfig where
  enabled : Bool
  pollInterval : Duration
  requestTimeout : Duration
  maximumStall : Duration
  deriving DecidableEq

structure HealthCheckConfig where
  enabled : Bool
  interval : Duration
  timeout : Duration
  deriving DecidableEq

/-- The fields of the source's `DcpConfig` that are checked or read before a stream is open. -/
structure ClientConfig where
  seeds : List SeedAddress
  credentials : Credentials
  bucket : String
  collections : CollectionFilter
  flowControl : FlowControlConfig
  checkpoint : CheckpointConfig
  rollbackMitigation : RollbackMitigationConfig
  priority : DcpPriority
  disableChangeStreams : Bool
  connectTimeout : Duration
  tls : TlsConfig
  network : TopologyNetwork
  healthCheck : HealthCheckConfig

def RollbackMitigationConfig.validate (self : RollbackMitigationConfig) : Result Unit :=
  if !self.enabled then .ok ()
  else if self.pollInterval = 0 ∨ self.requestTimeout = 0 ∨ self.maximumStall = 0 then
    .error (.invalidConfiguration
      "enabled rollback mitigation intervals must be greater than zero")
  else if self.maximumStall ≤ self.requestTimeout ∨ self.maximumStall ≤ self.pollInterval then
    .error (.invalidConfiguration
      "rollback mitigation maximum stall must exceed its request timeout and poll interval")
  else .ok ()

def HealthCheckConfig.validate (self : HealthCheckConfig) : Result Unit :=
  if self.enabled ∧ self.interval = 0 then
    .error (.invalidConfiguration "health-check interval must be greater than zero")
  else if self.enabled ∧ self.timeout = 0 then
    .error (.invalidConfiguration "health-check timeout must be greater than zero")
  else .ok ()

namespace ClientConfig

def validateFields (self : ClientConfig) : Result Unit :=
  if self.seeds.isEmpty then .error (.invalidConfiguration "at least one seed is required")
  else if self.credentials.username.toList.all isWhitespace then
    .error (.invalidConfiguration "username must not be empty")
  else if self.credentials.password.isEmpty then
    .error (.invalidConfiguration "password must not be empty")
  else if self.bucket.toList.all isWhitespace then
    .error (.invalidConfiguration "bucket must not be empty")
  else if self.connectTimeout = 0 then
    .error (.invalidConfiguration "connection timeout must be greater than zero")
  else if self.tls.serverName = some "" then
    .error (.invalidConfiguration "TLS server name must not be empty")
  else .ok ()

def validate (self : ClientConfig) : Result Unit := do
  self.validateFields
  self.collections.validate
  self.flowControl.validate
  self.checkpoint.validate
  self.rollbackMitigation.validate
  self.healthCheck.validate

end ClientConfig

inductive SaslMechanism where
  | plain
  | scram (algorithm : ScramAlgorithm)
  deriving DecidableEq, Repr

namespace SaslMechanism

def name : SaslMechanism → String
  | plain => "PLAIN"
  | scram .sha1 => "SCRAM-SHA1"
  | scram .sha256 => "SCRAM-SHA256"
  | scram .sha512 => "SCRAM-SHA512"

/-- The mechanisms in the order in which `select_mechanism` looks for them. -/
def preference : List SaslMechanism := [scram .sha512, scram .sha256, scram .sha1, plain]

def isAsciiWhitespace (c : Char) : Bool :=
  c == ' ' || c == '\t' || c == '\n' || c == '\r' || c.toNat == 12

def offered (list : String) (mechanism : SaslMechanism) : Bool :=
  (list.toList.splitOnP isAsciiWhitespace).contains mechanism.name.toList

def select (list : String) : Result SaslMechanism :=
  match preference.find? (offered list) with
  | some mechanism => .ok mechanism
  | none => .error (.authentication s!"server offered no supported SASL mechanism: {list}")

end SaslMechanism

def authenticationStatusError (status : Status) (payload : Bytes) : DcpError :=
  .authentication s!"server returned status 0x{hex 4 status.toNat}: {utf8Lossy payload}"

def ensureAuthOpcode (response : Frame) (opcode : Opcode) : Result Unit :=
  if response.magic.isResponse && response.opcode == opcode then .ok ()
  else .error (.protocol (.malformedFrame
    (s!"expected SASL response opcode 0x{hex 2 opcode.toNat}, got magic " ++
     s!"0x{hex 2 response.magic.asU8.toNat} opcode 0x{hex 2 response.opcode.toNat}")))

/-- A response with the opcode and the status that authentication goes on with. -/
def ensureAuthStatus (response : Frame) (opcode : Opcode) (status : Status) : Result Unit := do
  ensureAuthOpcode response opcode
  if response.status = status then .ok ()
  else .error (authenticationStatusError response.status response.value)

def ensureAuthSuccess (response : Frame) (opcode : Opcode) : Result Unit :=
  ensureAuthStatus response opcode Status.success

def Credentials.plainPayload (self : Credentials) : Bytes :=
  0 :: asBytes self.username ++ 0 :: asBytes self.password

section

variable (crypto : ScramCrypto)

def authenticatePlain (connection : Connection) (credentials : Credentials) : KvClient Unit := do
  let response ← connection.request
    (Command.saslAuth SaslMechanism.plain.name credentials.plainPayload 0)
  ensureAuthSuccess response Opcode.saslAuth

def authenticateScram (connection : Connection) (credentials : Credentials)
    (algorithm : ScramAlgorithm) : KvClient Unit := do
  let name := (SaslMechanism.scram algorithm).name
  let nonce ← fillNonce
  let client ← ScramClient.new crypto algorithm credentials.username credentials.password nonce
  let response ← connection.request (Command.saslAuth name client.start 0)
  ensureAuthStatus response Opcode.saslAuth Status.authContinue
  let finalMessage ← (client.handleServerFirst crypto response.value).1
  let client := (client.handleServerFirst crypto response.value).2
  let response ← connection.request (Command.saslStep name finalMessage 0)
  ensureAuthSuccess response Opcode.saslStep
  (client.verifyServerFinal crypto response.value).1

def authenticate (connection : Connection) (credentials : Credentials) :
    KvClient SaslMechanism := do
  let mechanisms ← connection.request (Command.saslListMechanisms 0)
  ensureAuthSuccess mechanisms Opcode.saslListMechs
  let mechanism ← SaslMechanism.select (utf8Lossy mechanisms.value)
  match mechanism with
  | .plain => authenticatePlain connection credentials
  | .scram algorithm => authenticateScram crypto connection credentials algorithm
  return mechanism

end

inductive DcpControlFeature where
  | streamEndOnClose
  | changeStreams
  | expiryOpcode
  | streamId
  deriving DecidableEq, Repr

structure BootstrapCapabilities where
  helloFeatures : Finset HelloFeature
  saslMechanism : SaslMechanism
  dcpControls : Finset DcpControlFeature
  deriving DecidableEq

def requestedHelloFeatures : List HelloFeature :=
  [.datatype, .tls, .seqNo, .xattr, .extendedErrors, .selectBucket, .snappy, .json, .duplex,
    .clusterMapNotifications, .altRequest, .collections, .snappyEverywhere]

/-- `KvSession` and `DcpConnection`: a connection and what was negotiated on it. -/
structure KvSession where
  connection : Connection
  capabilities : BootstrapCapabilities
  deriving DecidableEq

def validateName (kind name : String) : Result Unit :=
  if name.toList.all isWhitespace then
    .error (.invalidConfiguration s!"{kind} name must not be empty")
  else .ok ()

def parseHelloFeatures (response : Frame) : Result (Finset HelloFeature) :=
  if response.value.length % 2 ≠ 0 then
    .error (.protocol (.malformedFrame
      s!"HELLO response feature payload has odd length {response.value.length}"))
  else .ok ((Command.chunksExact 2 response.value).filterMap fun bytes =>
    HelloFeature.fromU16 (.ofNat (Protocol.bigEndian bytes))).toFinset

def ensureOpcode (response : Frame) (expected : Opcode) : Result Unit :=
  if !response.magic.isResponse || response.opcode != expected then
    .error (.protocol (.malformedFrame
      (s!"expected response opcode 0x{hex 2 expected.toNat}, got magic " ++
       s!"0x{hex 2 response.magic.asU8.toNat} opcode 0x{hex 2 response.opcode.toNat}")))
  else .ok ()

def serverStatusError (response : Frame) (context : String) : DcpError :=
  let detail := utf8Lossy response.value
  .serverStatus response.status response.opcode
    (if detail.isEmpty then context else s!"{context}: {detail}")

def ensureSuccess (response : Frame) (opcode : Opcode) (context : String) : Result Unit := do
  ensureOpcode response opcode
  if response.status.isSuccess then .ok () else .error (serverStatusError response context)

def priorityName : DcpPriority → String
  | .low => "low"
  | .medium => "medium"
  | .high => "high"

/-- Durations count nanoseconds. -/
def durationSeconds (duration : Duration) : String := toString (max (duration / 10 ^ 9) 1)

def controlRequired (connection : Connection) (key value : String) : KvClient Unit := do
  let response ← connection.request (Command.dcpControl key value 0)
  ensureSuccess response Opcode.dcpControl s!"DCP control {key}"

/-- Whether the server accepted an optional control; three statuses say that it does not know it. -/
def controlAccepted (key : String) (response : Frame) : Result Bool := do
  ensureOpcode response Opcode.dcpControl
  if response.status.isSuccess then .ok true
  else if response.status = Status.invalidArguments ∨ response.status = Status.unknownCommand ∨
      response.status = Status.notSupported then .ok false
  else .error (serverStatusError response s!"DCP control {key}")

def controlOptional (connection : Connection) (key value : String) : KvClient Bool := do
  let response ← connection.request (Command.dcpControl key value 0)
  controlAccepted key response

def controlIf (condition : Bool) (connection : Connection) (key value : String) : KvClient Bool :=
  if condition then controlOptional connection key value else pure false

section

variable (crypto : ScramCrypto)

/-- The part of `bootstrap_kv_on_connection` up to the authentication. -/
def negotiate (connection : Connection) (config : ClientConfig) (clientName : String) :
    KvClient (Finset HelloFeature × SaslMechanism) := do
  config.validate
  validateName "HELLO client" clientName
  let helloResponse ← connection.request (Command.hello clientName requestedHelloFeatures 0)
  ensureSuccess helloResponse Opcode.hello "HELLO feature negotiation"
  let helloFeatures ← parseHelloFeatures helloResponse
  connection.setCollectionsEnabled (.collections ∈ helloFeatures)
  connection.setSnappyEnabled (.snappy ∈ helloFeatures ∨ .snappyEverywhere ∈ helloFeatures)
  let saslMechanism ← authenticate crypto connection config.credentials
  return (helloFeatures, saslMechanism)

def bootstrapKvOnConnection (connection : Connection) (config : ClientConfig)
    (clientName : String) : KvClient KvSession := do
  let (helloFeatures, saslMechanism) ← negotiate crypto connection config clientName
  let response ← connection.request (Command.selectBucket config.bucket 0)
  ensureSuccess response Opcode.selectBucket "bucket selection"
  return { connection, capabilities := { helloFeatures, saslMechanism, dcpControls := ∅ } }

def openFlags (helloFeatures : Finset HelloFeature) : UInt32 :=
  if .xattr ∈ helloFeatures then DcpOpenFlags.includeXattrs else 0

/-- The controls of `bootstrap_on_connection`, in their order. -/
def negotiateControls (connection : Connection) (config : ClientConfig)
    (helloFeatures : Finset HelloFeature) : KvClient (Finset DcpControlFeature) := do
  controlRequired connection "enable_noop" "true"
  controlRequired connection "set_noop_interval" (durationSeconds config.flowControl.noopInterval)
  controlRequired connection "set_priority" (priorityName config.priority)
  let changeStreams ← controlIf (!config.disableChangeStreams) connection "change_streams" "true"
  let expiryOpcode ← controlOptional connection "enable_expiry_opcode" "true"
  let streamId ← controlIf (.collections ∈ helloFeatures) connection "enable_stream_id" "true"
  controlRequired connection "connection_buffer_size"
    (toString config.flowControl.connectionBufferSize)
  let streamEndOnClose ←
    controlOptional connection "send_stream_end_on_client_close_stream" "true"
  return ([(streamEndOnClose, .streamEndOnClose), (changeStreams, .changeStreams),
    (expiryOpcode, .expiryOpcode), (streamId, .streamId)].filterMap
      fun (enabled, feature) => if enabled then some feature else none).toFinset

def bootstrapOnConnection (connection : Connection) (config : ClientConfig)
    (clientName connectionName : String) : KvClient KvSession := do
  validateName "DCP connection" connectionName
  let kv ← bootstrapKvOnConnection crypto connection config clientName
  let response ← connection.request
    (Command.dcpOpen connectionName (openFlags kv.capabilities.helloFeatures) 0)
  ensureSuccess response Opcode.dcpOpen "DCP connection open"
  let dcpControls ← negotiateControls connection config kv.capabilities.helloFeatures
  return { kv with capabilities := { kv.capabilities with dcpControls } }

/-- The loop over the seeds: the first one that can be used, or all failures. -/
def bootstrapSeeds (tls : Bool) (bootstrap : Connection → KvClient KvSession) :
    List String → List SeedAddress → KvClient KvSession
  | failures, [] =>
    let joined := "; ".intercalate failures
    .done (.error (.topology s!"all KV seeds failed bootstrap: {joined}"))
  | failures, seed :: seeds => do
    let peer := seed.withDefaultKvPort tls
    match ← connect seed with
    | .error error =>
      bootstrapSeeds tls bootstrap (failures ++ [s!"{peer}: {error.toString}"]) seeds
    | .ok id =>
      match ← (bootstrap { id, peer }).attempt with
      | .ok session => return session
      | .error error =>
        bootstrapSeeds tls bootstrap (failures ++ [s!"{peer}: {error.toString}"]) seeds

def bootstrapConnection (config : ClientConfig) (clientName connectionName : String) :
    KvClient KvSession := do
  config.validate
  validateName "HELLO client" clientName
  validateName "DCP connection" connectionName
  bootstrapSeeds config.tls.enabled
    (fun connection => bootstrapOnConnection crypto connection config clientName connectionName)
    [] config.seeds

def bootstrapKvConnection (config : ClientConfig) (clientName : String) : KvClient KvSession := do
  config.validate
  validateName "HELLO client" clientName
  bootstrapSeeds config.tls.enabled
    (fun connection => bootstrapKvOnConnection crypto connection config clientName)
    [] config.seeds

end

end RustDcp
