import RustDcp.DcpLayout
import RustDcp.Event
import RustDcp.Transport

namespace RustDcp
set_option autoImplicit true

structure SnapshotWindow where
  start : Nat
  finish : Nat
  deriving DecidableEq

structure PartitionProgress where
  lastSeqno : Nat
  endSeqno : Nat
  streamId : Option UInt16
  opaqueId : UInt32
  snapshot : Option SnapshotWindow
  deriving DecidableEq

def PartitionProgress.new (lastSeqno endSeqno : Nat) (streamId : Option UInt16)
    (opaqueId : UInt32) : PartitionProgress :=
  { lastSeqno, endSeqno, streamId, opaqueId, snapshot := none }

namespace Protocol

def observeSeqno (self : PartitionProgress) (vbucket : UInt16) (seqno : Nat) :
    Result PartitionProgress :=
  match self.snapshot with
  | none => .error (.stream vbucket s!"received seqno {seqno} before a snapshot marker")
  | some snapshot =>
    if seqno < snapshot.start ∨ seqno > snapshot.finish ∨ seqno > self.endSeqno then
      .error (.stream vbucket
        (s!"seqno {seqno} is outside snapshot {snapshot.start}..={snapshot.finish} or stream " ++
         s!"end {self.endSeqno}"))
    else if seqno ≤ self.lastSeqno then
      .error (.stream vbucket s!"non-monotonic seqno {seqno} after {self.lastSeqno}")
    else .ok { self with lastSeqno := seqno }

def observe (self : PartitionProgress) (message : DcpMessage) : Result PartitionProgress :=
  match message with
  | .snapshotMarker marker =>
    if marker.endSeqno < self.lastSeqno ∨ marker.endSeqno > self.endSeqno then
      .error (.stream marker.vbucket
        (s!"snapshot {marker.startSeqno}..={marker.endSeqno} is outside delivered " ++
         s!"{self.lastSeqno}..={self.endSeqno}"))
    else .ok
      { self with snapshot := some { start := marker.startSeqno, finish := marker.endSeqno } }
  | message =>
    match messageSeqno message with
    | none => .ok self
    | some seqno => observeSeqno self ((messageVbucket message).getD 0) seqno

def parsed (frame : Frame) : Except ProtocolError DcpMessage :=
  (parseDcpMessage frame).run.get (Option.isSome_iff_ne_none.2 (parseDcpMessage_total frame))

theorem parsed_eq_ok (h : parsed frame = .ok message) :
    ¬Rejected frame ∧ message = messageLayout frame := by
  have hyields : (parseDcpMessage frame).Yields fun message =>
      ¬Rejected frame ∧ message = messageLayout frame :=
    (parseDcpMessage_exact frame).yields fun haccepted => ⟨haccepted, rfl⟩
  apply hyields
  rw [← h, parsed, Option.some_get]

end Protocol

structure FlowCredit where
  threshold : Nat
  pending : Nat
  deriving DecidableEq

namespace FlowCredit

/-- The least `n` in `low..=high` that is not below the target, by bisection. -/
def search (belowTarget : Nat → Bool) : Nat → Nat → Nat → Nat
  | 0, low, _ => low
  | fuel + 1, low, high =>
    if low < high then
      let middle := low + (high - low) / 2
      if belowTarget middle then search belowTarget fuel (middle + 1) high
      else search belowTarget fuel low middle
    else low

/-- `belowTarget n` is the comparison of `n` with the buffer size times the ACK ratio, which the
source makes in floating point. -/
def new (connectionBufferSize : Nat) (belowTarget : Nat → Bool) : Result FlowCredit :=
  if connectionBufferSize > u32Max then
    .error (.invalidConfiguration
      "invalid connection buffer size: out of range integral type conversion attempted")
  else .ok { threshold := search belowTarget 32 1 connectionBufferSize, pending := 0 }

def flushLoop : Nat → FlowCredit → KvConnection → Result Unit × FlowCredit × KvConnection
  | 0, credit, connection => (.ok (), credit, connection)
  | fuel + 1, credit, connection =>
    if credit.pending = 0 then (.ok (), credit, connection)
    else
      let amount := min credit.pending u32Max
      match connection.sendFrame (bufferAck (UInt32.ofNat amount) 0) with
      | (.error error, connection) => (.error error, credit, connection)
      | (.ok (), connection) =>
        flushLoop fuel { credit with pending := credit.pending - amount } connection

/-- One acknowledgement takes at most `u32::MAX` bytes. -/
def flush (self : FlowCredit) (connection : KvConnection) :
    Result Unit × FlowCredit × KvConnection :=
  flushLoop (self.pending / u32Max + 1) self connection

def record (self : FlowCredit) (connection : KvConnection) (bytes : Nat) :
    Result Unit × FlowCredit × KvConnection :=
  if bytes > u64Max then
    (.error (.protocol (.invalidLength
      "wire byte count does not fit u64: out of range integral type conversion attempted")),
      self, connection)
  else if self.pending + bytes > u64Max then
    (.error (.protocol (.invalidLength "flow-control byte count overflow")), self, connection)
  else
    let self := { self with pending := self.pending + bytes }
    if self.pending ≥ self.threshold then self.flush connection
    else (.ok (), self, connection)

end FlowCredit

inductive RuntimeCommand where
  | close (vbucket : UInt16)
  | shutdown
  deriving DecidableEq

/-- Whether the task still runs, has returned, or has returned after it reported an error. -/
inductive WorkerStatus where
  | running
  | returned
  | failed (error : DcpError)
  deriving DecidableEq

/-- The worker task of one connection. `output` holds the items that it has sent, `replies` the
answers to its commands. -/
structure Worker where
  connection : KvConnection
  partitions : BTreeMap UInt16 PartitionProgress
  credit : FlowCredit
  streamEndOnClose : Bool
  output : List (Result DcpStreamItem)
  receiverOpen : Bool
  replies : List (Result Unit)
  status : WorkerStatus
  deriving DecidableEq

namespace Worker

def sendFrame (self : Worker) (frame : Frame) : Outcome Worker :=
  let (result, connection) := self.connection.sendFrame frame
  (result, { self with connection })

/-- `output.send`, which fails once the receiver is gone. -/
def emit (self : Worker) (item : DcpStreamItem) : Outcome Worker :=
  if self.receiverOpen then (.ok (), { self with output := self.output ++ [.ok item] })
  else (.error .cancelled, self)

def recordCredit (self : Worker) (bytes : Nat) : Outcome Worker :=
  let (result, credit, connection) := self.credit.record self.connection bytes
  (result, { self with credit, connection })

def flushCredit (self : Worker) : Outcome Worker :=
  let (result, credit, connection) := self.credit.flush self.connection
  (result, { self with credit, connection })

def isStreamEnd : Protocol.DcpMessage → Bool
  | .streamEnd _ => true
  | _ => false

def requestsAck : Protocol.DcpMessage → Bool
  | .snapshotMarker marker => marker.flags &&& snapshotFlagAck != 0
  | _ => false

/-- The part of `handle_frame` after the partition has observed the message. -/
def deliver (self : Worker) (frame : Frame) (vbucket : UInt16) (message : Protocol.DcpMessage) :
    Outcome Worker :=
  let acknowledged :=
    if requestsAck message then self.sendFrame (snapshotMarkerResponse frame.opaqueId)
    else (.ok (), self)
  acknowledged.andThen fun self =>
    match Protocol.convertEvent message with
    | .error error => (.error error, self)
    | .ok event =>
      (self.emit (.event event)).andThen fun self =>
        (self.recordCredit frame.wireSize).andThen fun self =>
          (.ok (), if isStreamEnd message then
            { self with partitions := self.partitions.erase vbucket } else self)

/-- The part of `handle_frame` for events of known kinds. -/
def handleEvent (self : Worker) (frame : Frame) (message : Protocol.DcpMessage) : Outcome Worker :=
  match Protocol.messageVbucket message with
  | none => (.error (.protocol (.malformedDcp "known DCP event has no vBucket")), self)
  | some vbucket =>
    match self.partitions[vbucket]? with
    | none =>
      (.error (.stream vbucket "received an event for a stream that is not active"), self)
    | some progress =>
      if frame.opaqueId ≠ progress.opaqueId then
        (.error (.stream vbucket
          s!"event opaque {frame.opaqueId} does not match active stream {progress.opaqueId}"), self)
      else if Protocol.messageStreamId message ≠ progress.streamId then
        (.error (.stream vbucket
          (s!"event stream ID {debugOption (Protocol.messageStreamId message)} does not match " ++
           s!"active stream {debugOption progress.streamId}")),
          self)
      else match Protocol.observe progress message with
        | .error error => (.error error, self)
        | .ok progress =>
          deliver { self with partitions := self.partitions.insert vbucket progress }
            frame vbucket message

def handleFrame (self : Worker) (frame : Frame) : Outcome Worker :=
  if frame.magic.isResponse then
    (.error (.protocol (.malformedDcp
      s!"unexpected response opcode 0x{hex 2 frame.opcode.toNat} in DCP event loop")), self)
  else if frame.opcode = Opcode.getClusterConfig then
    self.emit (.topologyConfig self.connection.peer frame.value)
  else match Protocol.parsed frame with
    | .error error => (.error (.protocol error), self)
    | .ok (.noop opaqueId) => self.sendFrame (noopResponse opaqueId)
    | .ok (.unknown unknown) =>
      let isFlowControlled := 0x50 ≤ unknown.opcode && unknown.opcode ≤ 0x65
      (self.emit (.unknown unknown)).andThen fun self =>
        if isFlowControlled then self.recordCredit frame.wireSize else (.ok (), self)
    | .ok message => self.handleEvent frame message

def ensureSuccessResponse (response : Frame) (opcode : Opcode) (context : String) : Result Unit :=
  if !response.magic.isResponse || response.opcode != opcode then
    .error (.protocol (.malformedFrame
      (s!"expected response opcode 0x{hex 2 opcode.toNat}, got magic " ++
       s!"0x{hex 2 response.magic.asU8.toNat} opcode 0x{hex 2 response.opcode.toNat}")))
  else if response.status = Status.success then .ok ()
  else .error (.serverStatus response.status response.opcode
    (if response.value.isEmpty then context else s!"{context}: {utf8Lossy response.value}"))

def requestClose (self : Worker) (vbucket : UInt16) (streamId : Option UInt16) : Outcome Worker :=
  match self.connection.request (closeStream vbucket streamId 0) with
  | (.error error, connection) => (.error error, { self with connection })
  | (.ok response, connection) =>
    (ensureSuccessResponse response Opcode.dcpCloseStream "close DCP stream",
      { self with connection })

def reply (self : Worker) (result : Result Unit) : Worker :=
  { self with replies := self.replies ++ [result] }

/-- `output.send(Err(error))` and the return that follows it. -/
def fail (self : Worker) (error : DcpError) : Worker :=
  { self with
    output := if self.receiverOpen then self.output ++ [.error error] else self.output
    status := .failed error }

def handleCommand (self : Worker) : RuntimeCommand → Worker
  | .shutdown =>
    let (result, self) := self.flushCredit
    { self.reply result with status := .returned }
  | .close vbucket =>
    match self.partitions[vbucket]? with
    | none =>
      self.reply (.error (.stream vbucket "cannot close a stream that is not active"))
    | some progress =>
      match self.requestClose vbucket progress.streamId with
      | (.error error, self) => self.reply (.error error)
      | (.ok (), self) =>
        let self := self.reply (.ok ())
        if self.streamEndOnClose then self
        else
          let self := { self with partitions := self.partitions.erase vbucket }
          match self.emit (.event (.streamEnd { vbucket, reason := .closed })) with
          | (.error _, self) => { self with status := .returned }
          | (.ok (), self) => self

/-- The loop of `run_worker` with no partition left. -/
def finish (self : Worker) : Worker :=
  match self.flushCredit with
  | (.error error, self) => self.fail error
  | (.ok (), self) => { self with status := .returned }

/-- The receive arm of the loop; `none` means that it waits for the peer. -/
def receive (self : Worker) : Option Worker :=
  match self.connection.receiveFrame with
  | none => none
  | some (.error error, connection) => some ({ self with connection }.fail error)
  | some (.ok frame, connection) =>
    match handleFrame { self with connection } frame with
    | (.error error, self) => some (self.fail error)
    | (.ok (), self) => some self

end Worker

/-- `arrive` and `fault` are the peer's, `hangUp` the receiver's; the others are arms of the
loop. -/
inductive WorkerAction where
  | arrive (received : Result Frame)
  | fault (after : Nat) (error : DcpError)
  | hangUp
  | command (command : RuntimeCommand)
  | commandsClosed
  | receive
  | silence
  | finish
  deriving DecidableEq

namespace Worker

def step (deadConnectionTimeout : Nat) (self : Worker) (action : WorkerAction) : Option Worker :=
  if self.status ≠ .running then none
  else match action with
    | .arrive received =>
      some { self with
        connection := { self.connection with inbound := self.connection.inbound ++ [received] } }
    | .fault after error =>
      some { self with connection := { self.connection with fault := some (after, error) } }
    | .hangUp => some { self with receiverOpen := false }
    | .finish => if self.partitions.isEmpty then some self.finish else none
    | .command command =>
      if self.partitions.isEmpty then none else some (self.handleCommand command)
    | .commandsClosed =>
      if self.partitions.isEmpty then none else some { self.flushCredit.2 with status := .returned }
    | .receive => if self.partitions.isEmpty then none else self.receive
    | .silence =>
      if self.partitions.isEmpty then none
      else match self.connection.receiveFrame with
        | some _ => none
        | none => some (self.fail (.deadConnection self.connection.peer deadConnectionTimeout))

end Worker

end RustDcp
