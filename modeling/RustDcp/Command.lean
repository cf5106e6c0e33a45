import RustDcp.Codec
import RustDcp.Collections
import RustDcp.Scram
import RustDcp.Worker

namespace RustDcp
set_option autoImplicit true

namespace Opcode

def get : Opcode := 0x00
def set : Opcode := 0x01
def add : Opcode := 0x02
def replace : Opcode := 0x03
def delete : Opcode := 0x04
def hello : Opcode := 0x1f
def saslListMechs : Opcode := 0x20
def saslAuth : Opcode := 0x21
def saslStep : Opcode := 0x22
def dcpOpen : Opcode := 0x50
def dcpControl : Opcode := 0x5e
def selectBucket : Opcode := 0x89
def collectionsGetManifest : Opcode := 0xba
def collectionsGetId : Opcode := 0xbb
def subdocMultiLookup : Opcode := 0xd0
def subdocMultiMutation : Opcode := 0xd1

end Opcode

namespace Status

def keyNotFound : Status := 0x01
def keyExists : Status := 0x02
def invalidArguments : Status := 0x04
def notMyVbucket : Status := 0x07
def authContinue : Status := 0x21
def rollback : Status := 0x23
def unknownCommand : Status := 0x81
def notSupported : Status := 0x83
def collectionUnknown : Status := 0x88
def subdocPathNotFound : Status := 0xc0
def subdocMultiPathFailure : Status := 0xcc

end Status

inductive HelloFeature where
  | datatype
  | tls
  | tcpNoDelay
  | seqNo
  | xattr
  | extendedErrors
  | selectBucket
  | snappy
  | json
  | duplex
  | clusterMapNotifications
  | altRequest
  | collections
  | snappyEverywhere
  | pitr
  deriving DecidableEq, Repr

namespace HelloFeature

def asU16 : HelloFeature → UInt16
  | datatype => 0x01
  | tls => 0x02
  | tcpNoDelay => 0x03
  | seqNo => 0x04
  | xattr => 0x06
  | extendedErrors => 0x07
  | selectBucket => 0x08
  | snappy => 0x0a
  | json => 0x0b
  | duplex => 0x0c
  | clusterMapNotifications => 0x0d
  | altRequest => 0x10
  | collections => 0x12
  | snappyEverywhere => 0x13
  | pitr => 0x16

def fromU16 : UInt16 → Option HelloFeature
  | 0x01 => some datatype
  | 0x02 => some tls
  | 0x03 => some tcpNoDelay
  | 0x04 => some seqNo
  | 0x06 => some xattr
  | 0x07 => some extendedErrors
  | 0x08 => some selectBucket
  | 0x0a => some snappy
  | 0x0b => some json
  | 0x0c => some duplex
  | 0x0d => some clusterMapNotifications
  | 0x10 => some altRequest
  | 0x12 => some collections
  | 0x13 => some snappyEverywhere
  | 0x16 => some pitr
  | _ => none

end HelloFeature

/-- The flags of `DCP_OPEN` that the client uses. -/
def DcpOpenFlags.producer : UInt32 := 0x01

def DcpOpenFlags.includeXattrs : UInt32 := 0x04

/-- `VBucketState::Active`, the only state that the client asks for. -/
def VBucketState.active : UInt32 := 0x01

inductive DocumentStoreMode where
  | set
  | add
  | replace
  deriving DecidableEq, Repr

structure DocumentStoreRequest where
  mode : DocumentStoreMode
  key : Bytes
  value : Bytes
  collectionId : Option UInt32
  vbucket : UInt16
  flags : UInt32
  expiry : UInt32
  datatype : UInt8
  cas : UInt64
  opaqueId : UInt32
  deriving DecidableEq

structure CollectionId where
  manifestUid : Nat
  collectionId : UInt32
  deriving DecidableEq, Repr

inductive StreamRequestResponse where
  | opened (entries : List FailoverEntry)
  | rollback (seqno : Nat)
  deriving DecidableEq, Repr

structure VBucketSeqNo where
  vbucket : UInt16
  seqno : Nat
  deriving DecidableEq, Repr

namespace Command

open FrameCodec (slice)
open Protocol (bigEndian)

def hello (clientName : String) (features : List HelloFeature) (opaqueId : UInt32) : Frame :=
  { Frame.request Opcode.hello with
    key := asBytes clientName
    value := features.flatMap fun feature => putU16 feature.asU16
    opaqueId }

def saslListMechanisms (opaqueId : UInt32) : Frame :=
  { Frame.request Opcode.saslListMechs with opaqueId }

def saslAuth (mechanism : String) (payload : Bytes) (opaqueId : UInt32) : Frame :=
  { Frame.request Opcode.saslAuth with key := asBytes mechanism, value := payload, opaqueId }

def saslStep (mechanism : String) (payload : Bytes) (opaqueId : UInt32) : Frame :=
  { Frame.request Opcode.saslStep with key := asBytes mechanism, value := payload, opaqueId }

def selectBucket (bucket : String) (opaqueId : UInt32) : Frame :=
  { Frame.request Opcode.selectBucket with key := asBytes bucket, opaqueId }

def getClusterConfig (opaqueId : UInt32) : Frame :=
  { Frame.request Opcode.getClusterConfig with opaqueId }

def getCollectionManifest (opaqueId : UInt32) : Frame :=
  { Frame.request Opcode.collectionsGetManifest with opaqueId }

def validateCollectionName (kind name : String) : Except ProtocolError Unit :=
  if name.isEmpty || name.utf8ByteSize > 251 then
    .error (.invalidRequest s!"{kind} name must contain between 1 and 251 ASCII characters")
  else if !name.toUTF8.toList.all isCollectionNameByte then
    .error (.invalidRequest
      s!"{kind} name contains a character unsupported by Couchbase collections")
  else .ok ()

def getCollectionId (scope collection : String) (opaqueId : UInt32) :
    Except ProtocolError Frame := do
  validateCollectionName "scope" scope
  validateCollectionName "collection" collection
  return { Frame.request Opcode.collectionsGetId with
    value := asBytes s!"{scope}.{collection}"
    opaqueId }

def getDocument (key : Bytes) (collectionId : Option UInt32) (vbucket : UInt16)
    (opaqueId : UInt32) : Frame :=
  { Frame.request Opcode.get with key, collectionId, vbucket, opaqueId }

def storeDocument (request : DocumentStoreRequest) : Frame :=
  let opcode := match request.mode with
    | .set => Opcode.set
    | .add => Opcode.add
    | .replace => Opcode.replace
  { Frame.request opcode with
    key := request.key
    value := request.value
    collectionId := request.collectionId
    vbucket := request.vbucket
    extras := putU32 request.flags ++ putU32 request.expiry
    datatype := request.datatype
    cas := request.cas
    opaqueId := request.opaqueId }

def deleteDocument (key : Bytes) (collectionId : Option UInt32) (vbucket : UInt16) (cas : UInt64)
    (opaqueId : UInt32) : Frame :=
  { Frame.request Opcode.delete with key, collectionId, vbucket, cas, opaqueId }

def subdocPathLen (path : String) : Except ProtocolError UInt16 :=
  if path.isEmpty then .error (.invalidRequest "sub-document path must be non-empty")
  else tryU16 path.utf8ByteSize s!"sub-document path length {path.utf8ByteSize} exceeds u16"

def subdocGet : UInt8 := 0xc5

def subdocDictSet : UInt8 := 0xc8

def xattrPath : UInt8 := 0x04

def mkdoc : UInt8 := 0x01

def subdocGetXattr (key : Bytes) (path : String) (collectionId : Option UInt32) (vbucket : UInt16)
    (opaqueId : UInt32) : Except ProtocolError Frame := do
  let pathLen ← subdocPathLen path
  return { Frame.request Opcode.subdocMultiLookup with
    key
    value := [subdocGet, xattrPath] ++ putU16 pathLen ++ asBytes path
    collectionId
    vbucket
    opaqueId }

def subdocUpsertXattr (key : Bytes) (path : String) (xattrValue : Bytes)
    (collectionId : Option UInt32) (vbucket : UInt16) (opaqueId : UInt32) :
    Except ProtocolError Frame := do
  let pathLen ← subdocPathLen path
  let valueLen ← tryU32 xattrValue.length
    s!"sub-document value length {xattrValue.length} exceeds u32"
  if ((checkedAdd 8 path.utf8ByteSize).bind (checkedAdd · xattrValue.length)).isNone then
    throw (.invalidLength "sub-document mutation body length overflow")
  return { Frame.request Opcode.subdocMultiMutation with
    extras := [mkdoc]
    key
    value := [subdocDictSet, xattrPath] ++ putU16 pathLen ++ putU32 valueLen ++ asBytes path ++
      xattrValue
    collectionId
    vbucket
    opaqueId }

def dcpOpen (name : String) (flags opaqueId : UInt32) : Frame :=
  { Frame.request Opcode.dcpOpen with
    key := asBytes name
    extras := putU32 0 ++ putU32 (flags ||| DcpOpenFlags.producer)
    opaqueId }

def dcpControl (key value : String) (opaqueId : UInt32) : Frame :=
  { Frame.request Opcode.dcpControl with key := asBytes key, value := asBytes value, opaqueId }

def getVbucketSeqnos (state : UInt32) (collectionId : Option UInt32) (opaqueId : UInt32) : Frame :=
  { Frame.request Opcode.getAllVbSeqnos with
    extras := putU32 state ++ (collectionId.map putU32).getD []
    opaqueId }

def getFailoverLog (vbucket : UInt16) (opaqueId : UInt32) : Frame :=
  { Frame.request Opcode.dcpGetFailoverLog with vbucket, opaqueId }

def debugMagic : Magic → String
  | .request => "Request"
  | .response => "Response"
  | .serverRequest => "ServerRequest"
  | .altRequest => "AltRequest"
  | .altResponse => "AltResponse"

def ensureResponseOpcode (frame : Frame) (opcode : Opcode) : Except ProtocolError Unit :=
  if !frame.magic.isResponse || frame.opcode != opcode then
    .error (.malformedFrame
      (s!"expected response opcode 0x{hex 2 opcode.toNat}, got {debugMagic frame.magic} opcode " ++
       s!"0x{hex 2 frame.opcode.toNat}"))
  else .ok ()

def serverStatus (frame : Frame) : ProtocolError :=
  .serverStatus frame.status frame.opcode (utf8Lossy frame.value)

def ensureSuccess (frame : Frame) : Except ProtocolError Unit :=
  if frame.status.isSuccess then .ok () else .error (serverStatus frame)

def ensureResponse (frame : Frame) (opcode : Opcode) : Except ProtocolError Unit := do
  ensureResponseOpcode frame opcode
  ensureSuccess frame

def chunks (width : Nat) : Nat → Bytes → List Bytes
  | 0, _ => []
  | count + 1, bytes => bytes.take width :: chunks width count (bytes.drop width)

def chunksExact (width : Nat) (bytes : Bytes) : List Bytes :=
  chunks width (bytes.length / width) bytes

def readField (width : Nat) (bytes : Bytes) (offset : Nat) : Nat :=
  bigEndian (slice bytes offset (offset + width))

def parseFailoverEntries (value : Bytes) : Except ProtocolError (List FailoverEntry) :=
  if value.length % 16 ≠ 0 then
    .error (.malformedDcp s!"failover log length {value.length} is not divisible by 16")
  else .ok ((chunksExact 16 value).map fun chunk =>
    { vbucketUuid := readField 8 chunk 0, seqno := readField 8 chunk 8 })

def parseFailoverLog (frame : Frame) : Except ProtocolError (List FailoverEntry) := do
  ensureResponse frame Opcode.dcpGetFailoverLog
  parseFailoverEntries frame.value

def parseStreamRequestResponse (frame : Frame) : Except ProtocolError StreamRequestResponse := do
  ensureResponseOpcode frame Opcode.dcpStreamRequest
  if frame.status = Status.rollback then
    if frame.value.length ≠ 8 then
      throw (.malformedDcp s!"rollback response must contain 8 bytes, got {frame.value.length}")
    else return .rollback (readField 8 frame.value 0)
  else
    ensureSuccess frame
    return .opened (← parseFailoverEntries frame.value)

def parseVbucketSeqnos (frame : Frame) : Except ProtocolError (List VBucketSeqNo) := do
  ensureResponse frame Opcode.getAllVbSeqnos
  if frame.value.length % 10 ≠ 0 then
    throw (.malformedDcp
      s!"vBucket seqno response length {frame.value.length} is not divisible by 10")
  else return (chunksExact 10 frame.value).map fun chunk =>
    { vbucket := .ofNat (readField 2 chunk 0), seqno := readField 8 chunk 2 }

def parseCollectionId (frame : Frame) : Except ProtocolError CollectionId := do
  ensureResponse frame Opcode.collectionsGetId
  if frame.extras.length ≠ 12 then
    throw (.malformedFrame
      s!"collection-ID response extras must contain 12 bytes, got {frame.extras.length}")
  else return {
    manifestUid := readField 8 frame.extras 0
    collectionId := .ofNat (readField 4 frame.extras 8) }

def parseCollectionManifest (frame : Frame) : Except ProtocolError Bytes := do
  ensureResponse frame Opcode.collectionsGetManifest
  return frame.value

/-- The one result of a multi-lookup: its status, and its value behind the length of it. -/
def parseLookupResult (frame : Frame) : Except ProtocolError (Option Bytes) :=
  if frame.value.length < 6 then
    .error (.malformedFrame
      s!"sub-document lookup result requires 6 header bytes, got {frame.value.length}")
  else
    let status : Status := .ofNat (readField 2 frame.value 0)
    let valueLen := readField 4 frame.value 2
    match checkedAdd 6 valueLen with
    | none => .error (.invalidLength "sub-document lookup result length overflow")
    | some expectedLen =>
      if frame.value.length ≠ expectedLen then
        .error (.malformedFrame
          (s!"sub-document lookup result declares {valueLen} value bytes but packet contains " ++
           s!"{frame.value.length - 6}"))
      else if status = Status.success then .ok (some (frame.value.drop 6))
      else if status = Status.subdocPathNotFound then .ok none
      else .error (.serverStatus status frame.opcode "sub-document XATTR lookup failed")

def parseSubdocGetXattr (frame : Frame) : Except ProtocolError (Option Bytes) := do
  ensureResponseOpcode frame Opcode.subdocMultiLookup
  if frame.status = Status.keyNotFound then return none
  else if frame.status ≠ Status.success ∧ frame.status ≠ Status.subdocMultiPathFailure then
    throw (serverStatus frame)
  else parseLookupResult frame

def parseSubdocMutation (frame : Frame) : Except ProtocolError Unit :=
  ensureResponse frame Opcode.subdocMultiMutation

end Command

end RustDcp
