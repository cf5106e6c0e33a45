import RustDcp.Frame

namespace RustDcp.Protocol
set_option autoImplicit true

structure DcpMutation where
  vbucket : UInt16
  streamId : Option UInt16
  seqno : Nat
  revSeqno : Nat
  flags : Nat
  expiry : Nat
  lockTime : Nat
  cas : UInt64
  datatype : UInt8
  collectionId : Option UInt32
  key : Bytes
  value : Bytes
  deriving DecidableEq, Repr

structure DcpDeletion where
  vbucket : UInt16
  streamId : Option UInt16
  seqno : Nat
  revSeqno : Nat
  deleteTime : Option Nat
  cas : UInt64
  datatype : UInt8
  collectionId : Option UInt32
  key : Bytes
  value : Bytes
  deriving DecidableEq, Repr

/-- The source declares the fields of `DcpDeletion` once more. -/
abbrev DcpExpiration := DcpDeletion

structure SnapshotMarker where
  vbucket : UInt16
  streamId : Option UInt16
  startSeqno : Nat
  endSeqno : Nat
  flags : Nat
  maxVisibleSeqno : Option Nat
  highCompletedSeqno : Option Nat
  timestamp : Option Nat
  purgeSeqno : Option Nat
  deriving DecidableEq, Repr

inductive StreamEndReason where
  | ok
  | closed
  | stateChanged
  | disconnected
  | tooSlow
  | backfillFailed
  | filterEmpty
  | unknown (reason : Nat)
  deriving DecidableEq, Repr

structure StreamEnd where
  vbucket : UInt16
  streamId : Option UInt16
  reason : StreamEndReason
  deriving DecidableEq, Repr

structure SeqNoAdvanced where
  vbucket : UInt16
  streamId : Option UInt16
  seqno : Nat
  deriving DecidableEq, Repr

inductive SystemEventKind where
  | collectionCreated (scopeId collectionId : UInt32) (maxTtl : Option Nat)
  | collectionDropped (scopeId collectionId : UInt32)
  | collectionFlushed (collectionId : UInt32)
  | scopeCreated (scopeId : UInt32)
  | scopeDropped (scopeId : UInt32)
  | collectionChanged (collectionId : UInt32) (maxTtl : Nat)
  | unknown (code : Nat) (data : Bytes)
  deriving DecidableEq, Repr

structure SystemEvent where
  vbucket : UInt16
  streamId : Option UInt16
  seqno : Nat
  version : UInt8
  manifestUid : Nat
  key : Bytes
  kind : SystemEventKind
  deriving DecidableEq, Repr

inductive OsoSnapshotState where
  | begin
  | finish
  | unknown (state : Nat)
  deriving DecidableEq, Repr

structure OsoSnapshot where
  vbucket : UInt16
  streamId : Option UInt16
  state : OsoSnapshotState
  deriving DecidableEq, Repr

inductive DcpMessage where
  | mutation (event : DcpMutation)
  | deletion (event : DcpDeletion)
  | expiration (event : DcpExpiration)
  | snapshotMarker (marker : SnapshotMarker)
  | streamEnd (event : StreamEnd)
  | seqNoAdvanced (event : SeqNoAdvanced)
  | systemEvent (event : SystemEvent)
  | osoSnapshot (event : OsoSnapshot)
  | noop (opaqueId : UInt32)
  | unknown (frame : Frame)
  deriving DecidableEq, Repr

/-- A parser can reject its input or, with `none`, panic on a slice out of range. -/
abbrev Parse := ExceptT ProtocolError Option

def requireLen (label : String) (bytes : Bytes) (minimum : Nat) : Parse Unit :=
  if bytes.length < minimum then
    throw (.malformedDcp s!"{label} requires at least {minimum} bytes, got {bytes.length}")
  else pure ()

def requireLenIf (condition : Bool) (label : String) (bytes : Bytes) (minimum : Nat) :
    Parse Unit :=
  if condition then requireLen label bytes minimum else pure ()

def bigEndian (bytes : Bytes) : Nat := bytes.foldl (fun n byte => n * 256 + byte.toNat) 0

def readUint (width : Nat) (bytes : Bytes) (offset : Nat) : Parse Nat :=
  if offset + width ≤ bytes.length then pure (bigEndian ((bytes.drop offset).take width))
  else ExceptT.mk none

def readU8 := readUint 1

def readU32 := readUint 4

def readU64 := readUint 8

def readIf (condition : Bool) (read : Parse Nat) : Parse (Option Nat) :=
  if condition then some <$> read else pure none

def parseMutation (frame : Frame) (streamId : Option UInt16) : Parse DcpMessage := do
  requireLen "mutation extras" frame.extras 28
  return .mutation
    { vbucket := frame.vbucket
      streamId
      seqno := ← readU64 frame.extras 0
      revSeqno := ← readU64 frame.extras 8
      flags := ← readU32 frame.extras 16
      expiry := ← readU32 frame.extras 20
      lockTime := ← readU32 frame.extras 24
      cas := frame.cas
      datatype := frame.datatype
      collectionId := frame.collectionId
      key := frame.key
      value := frame.value }

/-- The body that `parse_deletion` and `parse_expiration` share. -/
def parseTombstone (label : String) (frame : Frame) (streamId : Option UInt16) :
    Parse DcpDeletion := do
  requireLen label frame.extras 16
  return {
    vbucket := frame.vbucket
    streamId
    seqno := ← readU64 frame.extras 0
    revSeqno := ← readU64 frame.extras 8
    deleteTime := ← readIf (frame.extras.length ≥ 20) (readU32 frame.extras 16)
    cas := frame.cas
    datatype := frame.datatype
    collectionId := frame.collectionId
    key := frame.key
    value := frame.value }

def parseDeletion (frame : Frame) (streamId : Option UInt16) : Parse DcpMessage :=
  .deletion <$> parseTombstone "deletion extras" frame streamId

def parseExpiration (frame : Frame) (streamId : Option UInt16) : Parse DcpMessage :=
  .expiration <$> parseTombstone "expiration extras" frame streamId

def parseSnapshotMarkerV1 (frame : Frame) (streamId : Option UInt16) : Parse SnapshotMarker := do
  return {
    vbucket := frame.vbucket
    streamId
    startSeqno := ← readU64 frame.extras 0
    endSeqno := ← readU64 frame.extras 8
    flags := ← readU32 frame.extras 16
    maxVisibleSeqno := none
    highCompletedSeqno := none
    timestamp := none
    purgeSeqno := none }

def parseSnapshotMarkerV2 (frame : Frame) (streamId : Option UInt16) : Parse SnapshotMarker := do
  requireLen "v2 snapshot marker value" frame.value 36
  let version ← readU8 frame.extras 0
  requireLenIf (version ≥ 1) "v2.1 snapshot marker value" frame.value 44
  requireLenIf (version ≥ 2) "v2.2 snapshot marker value" frame.value 52
  return {
    vbucket := frame.vbucket
    streamId
    startSeqno := ← readU64 frame.value 0
    endSeqno := ← readU64 frame.value 8
    flags := ← readU32 frame.value 16
    maxVisibleSeqno := some (← readU64 frame.value 20)
    highCompletedSeqno := some (← readU64 frame.value 28)
    timestamp := ← readIf (version ≥ 1) (readU64 frame.value 36)
    purgeSeqno := ← readIf (version ≥ 2) (readU64 frame.value 44) }

def parseSnapshotMarkerBody (frame : Frame) (streamId : Option UInt16) :
    Parse SnapshotMarker :=
  if frame.extras.length = 20 then parseSnapshotMarkerV1 frame streamId
  else if frame.extras.length = 1 then parseSnapshotMarkerV2 frame streamId
  else throw (.malformedDcp
    s!"snapshot marker extras must be 20 bytes (v1) or 1 byte (v2), got {frame.extras.length}")

def parseSnapshotMarker (frame : Frame) (streamId : Option UInt16) : Parse DcpMessage := do
  let marker ← parseSnapshotMarkerBody frame streamId
  if marker.startSeqno > marker.endSeqno then
    throw (.malformedDcp s!"snapshot start {marker.startSeqno} exceeds end {marker.endSeqno}")
  else return .snapshotMarker marker

def parseSystemEventKind (frame : Frame) (eventCode version : Nat) : Parse SystemEventKind :=
  match eventCode with
  | 0 => do
    requireLen "collection-create value" frame.value 16
    requireLenIf (version ≥ 1) "collection-create v1 value" frame.value 20
    return .collectionCreated (.ofNat (← readU32 frame.value 8)) (.ofNat (← readU32 frame.value 12))
      (← readIf (version ≥ 1) (readU32 frame.value 16))
  | 1 => do
    requireLen "collection-drop value" frame.value 16
    return .collectionDropped (.ofNat (← readU32 frame.value 8)) (.ofNat (← readU32 frame.value 12))
  | 2 => do
    requireLen "collection-flush value" frame.value 12
    return .collectionFlushed (.ofNat (← readU32 frame.value 8))
  | 3 => do
    requireLen "scope-create value" frame.value 12
    return .scopeCreated (.ofNat (← readU32 frame.value 8))
  | 4 => do
    requireLen "scope-drop value" frame.value 12
    return .scopeDropped (.ofNat (← readU32 frame.value 8))
  | 5 => do
    requireLen "collection-change value" frame.value 16
    return .collectionChanged (.ofNat (← readU32 frame.value 8)) (← readU32 frame.value 12)
  | code => return .unknown code frame.value

def parseSystemEvent (frame : Frame) (streamId : Option UInt16) : Parse DcpMessage := do
  requireLen "system-event extras" frame.extras 13
  let seqno ← readU64 frame.extras 0
  let eventCode ← readU32 frame.extras 8
  let version ← readU8 frame.extras 12
  requireLen "system-event value" frame.value 8
  let manifestUid ← readU64 frame.value 0
  let kind ← parseSystemEventKind frame eventCode version
  return .systemEvent
    { vbucket := frame.vbucket
      streamId
      seqno
      version := .ofNat version
      manifestUid
      key := frame.key
      kind }

def StreamEndReason.ofRaw : Nat → StreamEndReason
  | 0 => .ok
  | 1 => .closed
  | 2 => .stateChanged
  | 3 => .disconnected
  | 4 => .tooSlow
  | 5 => .backfillFailed
  | 7 => .filterEmpty
  | other => .unknown other

def OsoSnapshotState.ofRaw : Nat → OsoSnapshotState
  | 0 => .begin
  | 1 => .finish
  | other => .unknown other

def parseStreamEnd (frame : Frame) (streamId : Option UInt16) : Parse DcpMessage := do
  requireLen "stream-end extras" frame.extras 4
  let raw ← readU32 frame.extras 0
  return .streamEnd { vbucket := frame.vbucket, streamId, reason := .ofRaw raw }

def parseSeqNoAdvanced (frame : Frame) (streamId : Option UInt16) : Parse DcpMessage := do
  requireLen "seqno-advanced extras" frame.extras 8
  let seqno ← readU64 frame.extras 0
  return .seqNoAdvanced { vbucket := frame.vbucket, streamId, seqno }

def parseOsoSnapshot (frame : Frame) (streamId : Option UInt16) : Parse DcpMessage := do
  requireLen "OSO snapshot extras" frame.extras 4
  let raw ← readU32 frame.extras 0
  return .osoSnapshot { vbucket := frame.vbucket, streamId, state := .ofRaw raw }

def parseDcpMessage (frame : Frame) : Parse DcpMessage :=
  if !frame.magic.isRequest then
    throw (.malformedDcp "DCP event must use request or server-request magic")
  else
    let streamId := frame.streamId
    if frame.opcode = Opcode.dcpMutation then parseMutation frame streamId
    else if frame.opcode = Opcode.dcpDeletion then parseDeletion frame streamId
    else if frame.opcode = Opcode.dcpExpiration then parseExpiration frame streamId
    else if frame.opcode = Opcode.dcpSnapshotMarker then parseSnapshotMarker frame streamId
    else if frame.opcode = Opcode.dcpStreamEnd then parseStreamEnd frame streamId
    else if frame.opcode = Opcode.dcpSeqnoAdvanced then parseSeqNoAdvanced frame streamId
    else if frame.opcode = Opcode.dcpSystemEvent then parseSystemEvent frame streamId
    else if frame.opcode = Opcode.dcpOsoSnapshot then parseOsoSnapshot frame streamId
    else if frame.opcode = Opcode.dcpNoop then return .noop frame.opaqueId
    else return .unknown frame

def Parse.Yields (P : α → Prop) (parse : Parse α) : Prop := ∀ a, parse.run = some (.ok a) → P a

end RustDcp.Protocol
