import RustDcp.DcpMessage

namespace RustDcp
set_option autoImplicit true

def snapshotFlagAck : Nat := 0x08

structure DcpMutation where
  vbucket : UInt16
  seqno : Nat
  revSeqno : Nat
  flags : Nat
  expiry : Nat
  lockTime : Nat
  cas : UInt64
  datatype : UInt8
  collectionId : Option UInt32
  collectionName : Option String
  key : Bytes
  value : Bytes
  deriving DecidableEq, Repr

structure DcpDeletion where
  vbucket : UInt16
  seqno : Nat
  revSeqno : Nat
  deleteTime : Option Nat
  cas : UInt64
  collectionId : Option UInt32
  collectionName : Option String
  key : Bytes
  value : Bytes
  datatype : UInt8
  deriving DecidableEq, Repr

/-- The source declares the fields of `DcpDeletion` once more. -/
abbrev DcpExpiration := DcpDeletion

structure SnapshotMarker where
  vbucket : UInt16
  startSeqno : Nat
  endSeqno : Nat
  flags : Nat
  highCompletedSeqno : Option Nat
  maxVisibleSeqno : Option Nat
  purgeSeqno : Option Nat
  deriving DecidableEq, Repr

inductive StreamEndReason where
  | ok
  | stateChanged
  | closed
  | disconnected
  | tooSlow
  | backfillFailed
  | filterEmpty
  | unknown (reason : Nat)
  deriving DecidableEq, Repr

structure StreamEnd where
  vbucket : UInt16
  reason : StreamEndReason
  deriving DecidableEq, Repr

structure SeqNoAdvanced where
  vbucket : UInt16
  seqno : Nat
  deriving DecidableEq, Repr

inductive SystemEventKind where
  | collectionCreated (scopeId collectionId : UInt32) (maxTtl : Option Nat)
  | collectionDropped (scopeId collectionId : UInt32)
  | collectionFlushed (collectionId : UInt32)
  | scopeCreated (scopeId : UInt32)
  | scopeDropped (scopeId : UInt32)
  | collectionChanged (collectionId : UInt32) (maxTtl : Option Nat)
  | unknown (code : Nat) (data : Bytes)
  deriving DecidableEq, Repr

structure SystemEvent where
  vbucket : UInt16
  seqno : Nat
  manifestUid : Nat
  version : UInt8
  key : Bytes
  kind : SystemEventKind
  deriving DecidableEq, Repr

inductive OsoSnapshotState where
  | begin
  | finish
  | unknown (state : Nat)
  deriving DecidableEq, Repr

structure OsoSnapshot where
  vbucket : UInt16
  state : OsoSnapshotState
  deriving DecidableEq, Repr

inductive DcpEvent where
  | mutation (event : DcpMutation)
  | deletion (event : DcpDeletion)
  | expiration (event : DcpExpiration)
  | snapshotMarker (marker : SnapshotMarker)
  | streamEnd (event : StreamEnd)
  | seqNoAdvanced (event : SeqNoAdvanced)
  | systemEvent (event : SystemEvent)
  | osoSnapshot (event : OsoSnapshot)
  deriving DecidableEq, Repr

def DcpEvent.vbucket : DcpEvent → UInt16
  | .mutation event => event.vbucket
  | .deletion event => event.vbucket
  | .expiration event => event.vbucket
  | .snapshotMarker marker => marker.vbucket
  | .streamEnd event => event.vbucket
  | .seqNoAdvanced event => event.vbucket
  | .systemEvent event => event.vbucket
  | .osoSnapshot event => event.vbucket

def DcpEvent.seqno : DcpEvent → Option Nat
  | .mutation event => some event.seqno
  | .deletion event => some event.seqno
  | .expiration event => some event.seqno
  | .seqNoAdvanced event => some event.seqno
  | .systemEvent event => some event.seqno
  | .snapshotMarker _ | .streamEnd _ | .osoSnapshot _ => none

inductive DcpStreamItem where
  | event (event : DcpEvent)
  | topologyConfig (source : String) (payload : Bytes)
  | unknown (frame : Frame)
  deriving DecidableEq, Repr

namespace Protocol

def convertMutation (event : DcpMutation) : RustDcp.DcpMutation :=
  { vbucket := event.vbucket
    seqno := event.seqno
    revSeqno := event.revSeqno
    flags := event.flags
    expiry := event.expiry
    lockTime := event.lockTime
    cas := event.cas
    datatype := event.datatype
    collectionId := event.collectionId
    collectionName := none
    key := event.key
    value := event.value }

def convertDeletion (event : DcpDeletion) : RustDcp.DcpDeletion :=
  { vbucket := event.vbucket
    seqno := event.seqno
    revSeqno := event.revSeqno
    deleteTime := event.deleteTime
    cas := event.cas
    collectionId := event.collectionId
    collectionName := none
    key := event.key
    value := event.value
    datatype := event.datatype }

def convertExpiration (event : DcpExpiration) : RustDcp.DcpExpiration := convertDeletion event

def convertSnapshotMarker (marker : SnapshotMarker) : RustDcp.SnapshotMarker :=
  { vbucket := marker.vbucket
    startSeqno := marker.startSeqno
    endSeqno := marker.endSeqno
    flags := marker.flags
    highCompletedSeqno := marker.highCompletedSeqno
    maxVisibleSeqno := marker.maxVisibleSeqno
    purgeSeqno := marker.purgeSeqno }

def convertStreamEnd (event : StreamEnd) : RustDcp.StreamEnd :=
  { vbucket := event.vbucket
    reason := match event.reason with
      | .ok => .ok
      | .stateChanged => .stateChanged
      | .closed => .closed
      | .disconnected => .disconnected
      | .tooSlow => .tooSlow
      | .backfillFailed => .backfillFailed
      | .filterEmpty => .filterEmpty
      | .unknown reason => .unknown reason }

def convertSystemEventKind : SystemEventKind → RustDcp.SystemEventKind
  | .collectionCreated scopeId collectionId maxTtl =>
    .collectionCreated scopeId collectionId maxTtl
  | .collectionDropped scopeId collectionId => .collectionDropped scopeId collectionId
  | .collectionFlushed collectionId => .collectionFlushed collectionId
  | .scopeCreated scopeId => .scopeCreated scopeId
  | .scopeDropped scopeId => .scopeDropped scopeId
  | .collectionChanged collectionId maxTtl => .collectionChanged collectionId (some maxTtl)
  | .unknown code data => .unknown code data

def convertSystemEvent (event : SystemEvent) : RustDcp.SystemEvent :=
  { vbucket := event.vbucket
    seqno := event.seqno
    manifestUid := event.manifestUid
    version := event.version
    key := event.key
    kind := convertSystemEventKind event.kind }

def convertOsoSnapshot (event : OsoSnapshot) : RustDcp.OsoSnapshot :=
  { vbucket := event.vbucket
    state := match event.state with
      | .begin => .begin
      | .finish => .finish
      | .unknown state => .unknown state }

def convertEvent : DcpMessage → Result DcpEvent
  | .mutation event => .ok (.mutation (convertMutation event))
  | .deletion event => .ok (.deletion (convertDeletion event))
  | .expiration event => .ok (.expiration (convertExpiration event))
  | .snapshotMarker marker => .ok (.snapshotMarker (convertSnapshotMarker marker))
  | .streamEnd event => .ok (.streamEnd (convertStreamEnd event))
  | .seqNoAdvanced event =>
    .ok (.seqNoAdvanced { vbucket := event.vbucket, seqno := event.seqno })
  | .systemEvent event => .ok (.systemEvent (convertSystemEvent event))
  | .osoSnapshot event => .ok (.osoSnapshot (convertOsoSnapshot event))
  | .noop _ | .unknown _ => .error (.protocol (.malformedDcp
      "control or unknown message cannot be converted to DcpEvent"))

def messageVbucket : DcpMessage → Option UInt16
  | .mutation event => some event.vbucket
  | .deletion event => some event.vbucket
  | .expiration event => some event.vbucket
  | .snapshotMarker marker => some marker.vbucket
  | .streamEnd event => some event.vbucket
  | .seqNoAdvanced event => some event.vbucket
  | .systemEvent event => some event.vbucket
  | .osoSnapshot event => some event.vbucket
  | .noop _ | .unknown _ => none

def messageStreamId : DcpMessage → Option UInt16
  | .mutation event => event.streamId
  | .deletion event => event.streamId
  | .expiration event => event.streamId
  | .snapshotMarker marker => marker.streamId
  | .streamEnd event => event.streamId
  | .seqNoAdvanced event => event.streamId
  | .systemEvent event => event.streamId
  | .osoSnapshot event => event.streamId
  | .noop _ | .unknown _ => none

def messageSeqno : DcpMessage → Option Nat
  | .mutation event => some event.seqno
  | .deletion event => some event.seqno
  | .expiration event => some event.seqno
  | .seqNoAdvanced event => some event.seqno
  | .systemEvent event => some event.seqno
  | .snapshotMarker _ | .streamEnd _ | .osoSnapshot _ | .noop _ | .unknown _ => none

theorem convertEvent_of_vbucket {message : DcpMessage} (h : messageVbucket message = some v) :
    ∃ event, convertEvent message = .ok event ∧ event.vbucket = v ∧
      event.seqno = messageSeqno message := by
  cases message <;> simp_all [messageVbucket, convertEvent, DcpEvent.vbucket, DcpEvent.seqno,
    messageSeqno, convertMutation, convertDeletion, convertExpiration, convertSnapshotMarker,
    convertStreamEnd, convertSystemEvent, convertOsoSnapshot]

end Protocol

end RustDcp
