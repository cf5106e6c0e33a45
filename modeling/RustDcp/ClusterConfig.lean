import RustDcp.Decimal
import RustDcp.MitigationPlan

namespace RustDcp
set_option autoImplicit true

inductive TopologyNetwork where
  | auto
  | default
  | external
  | named (name : String)
  deriving DecidableEq

structure RawNodeServices where
  kv : UInt16
  kvSsl : UInt16
  deriving DecidableEq

structure RawAlternateAddress where
  hostname : Option String
  ports : Option RawNodeServices
  deriving DecidableEq

structure RawNodeExt where
  hostname : Option String
  services : RawNodeServices
  alternateAddresses : Option (BTreeMap String RawAlternateAddress)
  nodeUuid : Option String
  serverGroup : Option String
  deriving DecidableEq

structure RawVBucketServerMap where
  hashAlgorithm : String
  numReplicas : Int
  serverList : List String
  vBucketMap : List (List Int)
  deriving DecidableEq

/-- A CCCP bucket configuration as it is parsed. -/
structure RawBucketConfig where
  rev : Int
  revEpoch : Int
  name : String
  uuid : String
  nodeLocator : String
  nodesExt : List RawNodeExt
  vBucketServerMap : RawVBucketServerMap
  deriving DecidableEq

/-- The Unicode property White_Space. -/
def isWhitespace (c : Char) : Bool :=
  (0x09 ≤ c.toNat && c.toNat ≤ 0x0d) || c.toNat == 0x20 || c.toNat == 0x85 || c.toNat == 0xa0 ||
    c.toNat == 0x1680 || (0x2000 ≤ c.toNat && c.toNat ≤ 0x200a) || c.toNat == 0x2028 ||
    c.toNat == 0x2029 || c.toNat == 0x202f || c.toNat == 0x205f || c.toNat == 0x3000

def parseU16 (text : List Char) : Except String Nat :=
  (Decimal.parse 65535 text).mapError Decimal.ParseIntError.toString

def parseHostPort (host port : List Char) (original : String) : Result (List Char × Nat) :=
  if host.isEmpty ∨ host.any isWhitespace then
    .error (.topology s!"endpoint {debugStr original} has an invalid host")
  else match parseU16 port with
    | .error error =>
      .error (.topology s!"endpoint {debugStr original} has an invalid port: {error}")
    | .ok 0 => .error (.topology s!"endpoint {debugStr original} has port zero")
    | .ok port => .ok (host, port)

def splitEndpoint (address : String) : Result (List Char × Nat) :=
  match address.toList with
  | '[' :: stripped =>
    match stripped.span (· ≠ ']') with
    | (host, _ :: ':' :: port) => parseHostPort host port address
    | (_, []) => .error (.topology s!"invalid bracketed endpoint {debugStr address}")
    | _ => .error (.topology s!"endpoint {debugStr address} has no port")
  | chars =>
    -- The text after the last colon is the port.
    match chars.reverse.span (· ≠ ':') with
    | (_, []) => .error (.topology s!"endpoint {debugStr address} has no port")
    | (port, _ :: host) =>
      if ':' ∈ host then
        .error (.topology s!"IPv6 endpoint {debugStr address} must use brackets")
      else parseHostPort host.reverse port.reverse address

def stripBrackets (host : List Char) : List Char :=
  match host with
  | '[' :: rest => if rest.getLast? = some ']' then rest.dropLast else host
  | _ => host

def formatEndpoint (host : List Char) (port : Nat) : Result String :=
  let host := stripBrackets host
  if host.isEmpty ∨ host.any isWhitespace then
    .error (.topology s!"invalid KV endpoint hostname {debugStr (String.ofList host)}")
  else if ':' ∈ host then .ok s!"[{String.ofList host}]:{port}"
  else .ok s!"{String.ofList host}:{port}"

def validatedEndpoint (address : String) : Result String := do
  let (host, port) ← splitEndpoint address
  formatEndpoint host port

def hostFromAddress (address : String) : Result String := do
  let (host, _) ← splitEndpoint address
  return String.ofList host

def addressesEqual (left right : String) : Bool :=
  match splitEndpoint left, splitEndpoint right with
  | .ok (leftHost, leftPort), .ok (rightHost, rightPort) =>
    leftPort == rightPort && leftHost.map Char.toLower == rightHost.map Char.toLower
  | _, _ => false

def debugText : Option String → String
  | some text => s!"Some({debugStr text})"
  | none => "None"

namespace RawNodeExt

def isKv (self : RawNodeExt) : Bool := self.services.kv != 0 || self.services.kvSsl != 0

def location (self : RawNodeExt) (network : String) : Result (String × RawNodeServices) :=
  if network = "default" then .ok (self.hostname.getD "", self.services)
  else match self.alternateAddresses.bind (·[network]?) with
    | none => .error (.topology
        (s!"KV node {debugText self.nodeUuid} has no alternate address for network " ++
         s!"{debugStr network}"))
    | some alternate => .ok (alternate.hostname.getD "", alternate.ports.getD self.services)

end RawNodeExt

def nodeEndpoint (node : RawNodeExt) (network sourceHost : String) (tls : Bool) :
    Result String := do
  let (hostname, services) ← node.location network
  let hostname := if hostname = "" then sourceHost else hostname
  let port := if tls then services.kvSsl else services.kv
  if port = 0 then
    let kind := if tls then "kvSSL" else "kv"
    .error (.topology
      s!"KV node {debugText node.nodeUuid} has no {kind} port for network {debugStr network}")
  else formatEndpoint hostname.toList port.toNat

def validateNetworkName (name : String) : Result Unit :=
  if name.toList.all isWhitespace ∨ name.toList.any isWhitespace then
    .error (.topology "alternate network name must be non-empty and contain no whitespace")
  else .ok ()

/-- The network that `auto` stands for, chosen by the address of the source. -/
def detectNetwork (nodes : List RawNodeExt) (serverCount : Nat) (sourceAddress sourceHost : String)
    (tls : Bool) : String :=
  let kvNodes := (nodes.filter RawNodeExt.isKv).take serverCount
  let sourceIsDefault := kvNodes.any fun node =>
    match nodeEndpoint node "default" sourceHost tls with
    | .ok address => addressesEqual address sourceAddress
    | .error _ => false
  if nodes.isEmpty ∨ sourceIsDefault then "default"
  else if kvNodes.length = serverCount ∧ kvNodes.all fun node =>
      node.alternateAddresses.any (·.contains "external") then "external"
  else "default"

def resolveNetwork (requested : TopologyNetwork) (nodes : List RawNodeExt) (serverCount : Nat)
    (sourceAddress sourceHost : String) (tls : Bool) : Result String :=
  match requested with
  | .default => .ok "default"
  | .external => .ok "external"
  | .named name => do
    validateNetworkName name
    return name
  | .auto => .ok (detectNetwork nodes serverCount sourceAddress sourceHost tls)

def legacyEndpoint (address : String) : Result KvEndpoint := do
  let address ← validatedEndpoint address
  return { id := address, address, canonicalAddress := address, serverGroup := none }

def nodeKvEndpoint (sourceHost : String) (tls : Bool) (network : String)
    (pair : RawNodeExt × String) : Result KvEndpoint := do
  let (node, legacyIdentity) := pair
  let canonicalAddress ← nodeEndpoint node "default" sourceHost tls
  let address ← nodeEndpoint node network sourceHost tls
  let nodeUuid := node.nodeUuid.getD ""
  let id ← if nodeUuid.toList.all isWhitespace then validatedEndpoint legacyIdentity
    else .ok nodeUuid
  return { id, address, canonicalAddress, serverGroup := node.serverGroup.filter (· ≠ "") }

def buildEndpoints (nodes : List RawNodeExt) (serverList : List String) (sourceHost : String)
    (tls : Bool) (network : String) : Result (List KvEndpoint) :=
  if serverList.isEmpty then .error (.topology "cluster config has no KV servers")
  else if nodes.isEmpty then
    if tls then .error (.topology "TLS topology requires nodesExt with kvSSL ports")
    else if network ≠ "default" then
      .error (.topology s!"network {debugStr network} requires nodesExt alternate addresses")
    else serverList.mapM legacyEndpoint
  else
    let kvNodes := nodes.filter RawNodeExt.isKv
    if kvNodes.length < serverList.length then
      .error (.topology
        s!"nodesExt has {kvNodes.length} KV nodes but vBucket serverList has {serverList.length}")
    else (kvNodes.zip serverList).mapM (nodeKvEndpoint sourceHost tls network)

def routeNode (index : Int) (endpoints : List KvEndpoint) (vbucket : Nat) (role : String) :
    Result (Option NodeId) :=
  if index = -1 then .ok none
  else if index < 0 then
    .error (.topology s!"vBucket {vbucket} has invalid {role} node index {index}")
  else match endpoints[index.toNat]? with
    | some endpoint => .ok (some endpoint.id)
    | none => .error (.topology
        s!"vBucket {vbucket} {role} node index {index} exceeds {endpoints.length} endpoints")

def buildRoute (replicaCount : Nat) (endpoints : List KvEndpoint) (indexed : List Int × Nat) :
    Result (UInt16 × VBucketRoute) :=
  let (row, vbucket) := indexed
  if row.length ≠ replicaCount + 1 then
    .error (.topology
      s!"vBucket {vbucket} has {row.length} route entries; expected {replicaCount + 1}")
  else do
    match ← routeNode (row.headD 0) endpoints vbucket "active" with
    | none => .error (.topology s!"vBucket {vbucket} has no active node")
    | some active =>
      let replicas ← row.tail.mapM fun index => routeNode index endpoints vbucket "replica"
      if vbucket > 65535 then
        .error (.topology "invalid vBucket ID: out of range integral type conversion attempted")
      else return (.ofNat vbucket, { active, replicas := replicas.reduceOption })

def buildVbucketRoutes (map : RawVBucketServerMap) (endpoints : List KvEndpoint) :
    Result (BTreeMap UInt16 VBucketRoute) :=
  if map.numReplicas < 0 then
    .error (.topology s!"negative replica count {map.numReplicas}")
  else if map.vBucketMap.isEmpty then .error (.topology "cluster config has no vBucket map")
  else if map.vBucketMap.length > 65536 then
    .error (.topology
      s!"vBucket map has {map.vBucketMap.length} entries, exceeding the u16 identifier space")
  else do
    let routes ← map.vBucketMap.zipIdx.mapM (buildRoute map.numReplicas.toNat endpoints)
    return .ofList routes compare

namespace RawBucketConfig

/-- The checks of `build` before it looks at the nodes. -/
def validate (self : RawBucketConfig) : Result Unit :=
  if self.rev < 0 ∨ self.revEpoch < 0 then
    .error (.topology s!"negative topology revision {self.revEpoch}/{self.rev}")
  else if self.name.toList.all isWhitespace then
    .error (.topology "cluster config has no bucket name")
  else if self.nodeLocator ≠ "vbucket" then
    .error (.topology
      s!"unsupported node locator {debugStr self.nodeLocator}; DCP requires vbucket routing")
  else if self.vBucketServerMap.hashAlgorithm ≠ "CRC" then
    .error (.topology
      s!"unsupported vBucket hash algorithm {debugStr self.vBucketServerMap.hashAlgorithm}")
  else .ok ()

def build (self : RawBucketConfig) (sourceAddress : String) (tls : Bool)
    (requestedNetwork : TopologyNetwork) : Result ClusterTopology := do
  self.validate
  let sourceHost ← hostFromAddress sourceAddress
  let network ← resolveNetwork requestedNetwork self.nodesExt
    self.vBucketServerMap.serverList.length sourceAddress sourceHost tls
  let endpointList ← buildEndpoints self.nodesExt self.vBucketServerMap.serverList sourceHost tls
    network
  let endpoints : BTreeMap NodeId KvEndpoint :=
    .ofList (endpointList.map fun endpoint => (endpoint.id, endpoint)) compare
  if endpoints.size ≠ endpointList.length then
    .error (.topology "cluster config contains duplicate KV node identities")
  else
    let vbuckets ← buildVbucketRoutes self.vBucketServerMap endpointList
    return {
      bucket := self.name
      bucketUuid := if self.uuid = "" then none else some self.uuid
      revision := { epoch := self.revEpoch.toNat, revision := self.rev.toNat }
      network
      endpoints
      vbuckets }

end RawBucketConfig

def ClusterTopology.activeEndpoint (self : ClusterTopology) (vbucket : UInt16) :
    Result KvEndpoint := do
  let node ← self.activeNode vbucket
  match self.endpoints[node]? with
  | some endpoint => .ok endpoint
  | none => .error (.topology s!"active node {node} for vBucket {vbucket} has no endpoint")

end RustDcp
