import RustDcp.Error

namespace RustDcp
set_option autoImplicit true

inductive Magic where
  | request
  | response
  | serverRequest
  | altRequest
  | altResponse
  deriving DecidableEq, Repr

def Magic.asU8 : Magic → UInt8
  | .request => 0x80
  | .response => 0x81
  | .serverRequest => 0x82
  | .altRequest => 0x08
  | .altResponse => 0x18

def Magic.isRequest : Magic → Bool
  | .request | .altRequest | .serverRequest => true
  | .response | .altResponse => false

def Magic.isResponse : Magic → Bool
  | .response | .altResponse => true
  | .request | .altRequest | .serverRequest => false

theorem Magic.isRequest_eq_not (magic : Magic) : magic.isRequest = !magic.isResponse := by
  cases magic <;> rfl

abbrev Opcode := UInt8

namespace Opcode

def getAllVbSeqnos : Opcode := 0x48
def dcpCloseStream : Opcode := 0x52
def dcpStreamRequest : Opcode := 0x53
def dcpGetFailoverLog : Opcode := 0x54
def dcpStreamEnd : Opcode := 0x55
def dcpSnapshotMarker : Opcode := 0x56
def dcpMutation : Opcode := 0x57
def dcpDeletion : Opcode := 0x58
def dcpExpiration : Opcode := 0x59
def dcpNoop : Opcode := 0x5c
def dcpBufferAck : Opcode := 0x5d
def dcpSystemEvent : Opcode := 0x5f
def dcpSeqnoAdvanced : Opcode := 0x64
def dcpOsoSnapshot : Opcode := 0x65
def getClusterConfig : Opcode := 0xb5

end Opcode

abbrev Status := UInt16

def Status.success : Status := 0x00

structure FramingExtra where
  id : UInt16
  data : Bytes
  deriving DecidableEq, Repr

def FramingExtra.streamId (streamId : UInt16) : FramingExtra :=
  { id := 2, data := [(streamId.toNat / 256).toUInt8, streamId.toUInt8] }

def FramingExtra.encodedHeaderLen (self : FramingExtra) : Nat :=
  1 + (if self.id ≥ 15 then 1 else 0) + (if self.data.length ≥ 15 then 1 else 0)

/-- A decoded Memcached binary protocol packet. -/
structure Frame where
  magic : Magic
  opcode : Opcode
  datatype : UInt8
  vbucket : UInt16
  status : Status
  opaqueId : UInt32
  cas : UInt64
  framingExtras : List FramingExtra
  extras : Bytes
  key : Bytes
  value : Bytes
  collectionId : Option UInt32
  receivedWireSize : Option Nat
  deriving DecidableEq, Repr

def Frame.request (opcode : Opcode) : Frame :=
  { magic := .request
    opcode
    datatype := 0
    vbucket := 0
    status := Status.success
    opaqueId := 0
    cas := 0
    framingExtras := []
    extras := []
    key := []
    value := []
    collectionId := none
    receivedWireSize := none }

def Frame.response (opcode : Opcode) (status : Status) : Frame :=
  { Frame.request opcode with magic := .response, status }

def Frame.streamId (self : Frame) : Option UInt16 :=
  (self.framingExtras.reverse.find? fun extra => extra.id == 2 && extra.data.length == 2).map
    fun extra => match extra.data with
      | [high, low] => UInt16.ofNat (high.toNat * 256 + low.toNat)
      | _ => 0

def Frame.wireSize (self : Frame) : Nat :=
  self.receivedWireSize.getD
    (24 + (self.framingExtras.map fun extra => extra.encodedHeaderLen + extra.data.length).sum
      + self.extras.length + self.key.length + self.value.length)

def putUint (width n : Nat) : Bytes :=
  match width with
  | 0 => []
  | width + 1 => (n >>> (8 * width)).toUInt8 :: putUint width n

def putU32 (n : UInt32) : Bytes := putUint 4 n.toNat

def closeStream (vbucket : UInt16) (streamId : Option UInt16) (opaqueId : UInt32) : Frame :=
  let framingExtras := match streamId with
    | some streamId => [FramingExtra.streamId streamId]
    | none => []
  { Frame.request Opcode.dcpCloseStream with vbucket, opaqueId, framingExtras }

def bufferAck (bytes opaqueId : UInt32) : Frame :=
  { Frame.request Opcode.dcpBufferAck with extras := putU32 bytes, opaqueId }

def noopResponse (opaqueId : UInt32) : Frame :=
  { Frame.response Opcode.dcpNoop Status.success with opaqueId }

def snapshotMarkerResponse (opaqueId : UInt32) : Frame :=
  { Frame.response Opcode.dcpSnapshotMarker Status.success with opaqueId }

end RustDcp
