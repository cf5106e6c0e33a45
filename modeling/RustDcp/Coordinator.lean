import RustDcp.AckQueue
import RustDcp.Checkpoint
import RustDcp.Event

namespace RustDcp
set_option autoImplicit true

/-- Durations are counted in nanoseconds. -/
abbrev Duration := Nat

inductive CheckpointMode where
  | automatic (flushInterval : Duration)
  | manual
  deriving DecidableEq, Repr

structure CheckpointConfig where
  mode : CheckpointMode
  timeout : Duration
  deriving DecidableEq, Repr

def CheckpointConfig.validate (self : CheckpointConfig) : Result Unit :=
  if self.timeout = 0 then
    .error (.invalidConfiguration "checkpoint timeout must be greater than zero")
  else match self.mode with
    | .automatic 0 =>
      .error (.invalidConfiguration "automatic checkpoint interval must be greater than zero")
    | _ => .ok ()

structure PendingAck where
  deliveryId : Nat
  checkpoint : DcpCheckpoint
  acknowledged : Bool
  deriving DecidableEq, Repr

structure PartitionState where
  durable : DcpCheckpoint
  processed : DcpCheckpoint
  snapshot : Option (Nat × Nat)
  lastRegisteredSeqno : Nat
  pending : List PendingAck
  nextDeliveryId : Nat
  generation : Nat
  durableGeneration : Nat
  deriving DecidableEq, Repr

def PartitionState.isDirty (self : PartitionState) : Bool :=
  self.generation != self.durableGeneration || self.durable != self.processed

structure CheckpointMetrics where
  flushAttempts : Nat
  flushFailures : Nat
  lastFlushError : Option String
  deriving DecidableEq, Repr

structure CoordinatorState where
  partitions : BTreeMap UInt16 PartitionState
  metrics : CheckpointMetrics
  deriving DecidableEq

structure EventAck where
  vbucket : UInt16
  deliveryId : Nat
  seqno : Nat
  deriving DecidableEq, Repr

structure TrackedEvent where
  event : DcpEvent
  ack : Option EventAck
  deriving DecidableEq, Repr

structure AckOutcome where
  vbucket : UInt16
  acknowledgedSeqno : Nat
  advancedTo : Option DcpCheckpoint
  pendingEvents : Nat
  deriving DecidableEq, Repr

structure DirtyCheckpoint where
  vbucket : UInt16
  checkpoint : DcpCheckpoint
  generation : Nat
  deriving DecidableEq, Repr

structure CheckpointFlushReport where
  attempted : Nat
  persisted : Nat
  remainingDirty : Nat
  deriving DecidableEq, Repr

def validateInitialCheckpoint (bucketUuid : Option String) (vbucket : UInt16)
    (checkpoint : DcpCheckpoint) : Result String := do
  checkpoint.validate
  if checkpoint.vbucket ≠ vbucket then
    .error (.checkpoint
      s!"checkpoint map key {vbucket} does not match checkpoint vBucket {checkpoint.vbucket}")
  else match checkpoint.bucketUuid with
    | none => .error (.checkpoint s!"vBucket {vbucket} checkpoint has no bucket UUID")
    | some observed =>
      if observed = "" then
        .error (.checkpoint s!"vBucket {vbucket} checkpoint has an empty bucket UUID")
      else match bucketUuid with
        | some expected =>
          if expected ≠ observed then
            .error (.checkpoint s!"checkpoint bucket UUID {observed} does not match {expected}")
          else .ok observed
        | none => .ok observed

def validateInitialList : Option String → List (UInt16 × DcpCheckpoint) → Result (Option String)
  | bucketUuid, [] => .ok bucketUuid
  | bucketUuid, (vbucket, checkpoint) :: rest => do
    let observed ← validateInitialCheckpoint bucketUuid vbucket checkpoint
    validateInitialList (some observed) rest

def validateInitialCheckpoints (checkpoints : BTreeMap UInt16 DcpCheckpoint) : Result String := do
  match ← validateInitialList none checkpoints.toList with
  | none =>
    .error (.invalidConfiguration "checkpoint coordinator requires at least one vBucket")
  | some bucketUuid => .ok bucketUuid

def validateCheckpointIdentity (vbucket : UInt16) (bucketUuid : String)
    (checkpoint : DcpCheckpoint) : Result Unit :=
  if checkpoint.vbucket ≠ vbucket then
    .error (.checkpoint
      s!"loaded checkpoint key {vbucket} does not match vBucket {checkpoint.vbucket}")
  else if checkpoint.bucketUuid ≠ some bucketUuid then
    .error (.checkpoint s!"vBucket {vbucket} checkpoint does not belong to bucket {bucketUuid}")
  else checkpoint.validate

def PartitionState.new (checkpoint : DcpCheckpoint) : PartitionState :=
  { durable := checkpoint
    processed := checkpoint
    snapshot := none
    lastRegisteredSeqno := checkpoint.seqno
    pending := []
    nextDeliveryId := 1
    generation := 0
    durableGeneration := 0 }

def CoordinatorState.start (checkpoints : BTreeMap UInt16 DcpCheckpoint) : CoordinatorState :=
  { partitions := checkpoints.map fun _ checkpoint => PartitionState.new checkpoint
    metrics := { flushAttempts := 0, flushFailures := 0, lastFlushError := none } }

def CoordinatorState.new (config : CheckpointConfig)
    (checkpoints : BTreeMap UInt16 DcpCheckpoint) : Result (String × CoordinatorState) := do
  config.validate
  let bucketUuid ← validateInitialCheckpoints checkpoints
  .ok (bucketUuid, CoordinatorState.start checkpoints)

def CoordinatorState.setPartition (self : CoordinatorState) (vbucket : UInt16)
    (partition : PartitionState) : CoordinatorState :=
  { self with partitions := self.partitions.insert vbucket partition }

/-- The checkpoint of the event at `seqno`, given the one before it. -/
def DcpCheckpoint.afterEvent (self : DcpCheckpoint) (event : DcpEvent) (seqno : Nat)
    (snapshot : Nat × Nat) : DcpCheckpoint :=
  let next := { self with seqno, snapshotStart := snapshot.1, snapshotEnd := snapshot.2 }
  match event with
  | .systemEvent systemEvent => { next with manifestUid := some systemEvent.manifestUid }
  | _ => next

def PartitionState.lastCheckpoint (self : PartitionState) : DcpCheckpoint :=
  match self.pending.getLast? with
  | none => self.processed
  | some pending => pending.checkpoint

def PartitionState.trackMarker (self : PartitionState) (marker : SnapshotMarker) :
    Result PartitionState :=
  if marker.startSeqno > marker.endSeqno ∨ marker.endSeqno < self.processed.seqno then
    .error (.checkpoint
      (s!"snapshot {marker.startSeqno}..={marker.endSeqno} is invalid after processed seqno " ++
       s!"{self.processed.seqno} for vBucket {marker.vbucket}"))
  else .ok { self with snapshot := some (marker.startSeqno, marker.endSeqno) }

def PartitionState.trackSeqno (self : PartitionState) (event : DcpEvent) (seqno : Nat) :
    Result (EventAck × PartitionState) :=
  match self.snapshot with
  | none =>
    .error (.checkpoint
      s!"received seqno {seqno} before a snapshot marker for vBucket {event.vbucket}")
  | some (snapshotStart, snapshotEnd) =>
    if seqno ≤ self.lastRegisteredSeqno ∨ seqno < snapshotStart ∨ seqno > snapshotEnd then
      .error (.checkpoint
        (s!"seqno {seqno} is non-monotonic or outside snapshot {snapshotStart}..={snapshotEnd} " ++
         s!"for vBucket {event.vbucket}"))
    else
      let checkpoint := self.lastCheckpoint.afterEvent event seqno (snapshotStart, snapshotEnd)
      match checkpoint.validate with
      | .error error => .error error
      | .ok () =>
        match checkedSucc self.nextDeliveryId with
        | none => .error (.checkpoint s!"delivery ID overflow for vBucket {event.vbucket}")
        | some nextDeliveryId =>
          .ok ({ vbucket := event.vbucket, deliveryId := self.nextDeliveryId, seqno },
            { self with
              nextDeliveryId
              lastRegisteredSeqno := seqno
              pending := self.pending ++
                [{ deliveryId := self.nextDeliveryId, checkpoint, acknowledged := false }] })

def PartitionState.trackEvent (self : PartitionState) (event : DcpEvent) :
    Result (Option EventAck × PartitionState) :=
  match event with
  | .snapshotMarker marker =>
    match self.trackMarker marker with
    | .error error => .error error
    | .ok partition => .ok (none, partition)
  | event =>
    match event.seqno with
    | none => .ok (none, self)
    | some seqno =>
      match self.trackSeqno event seqno with
      | .error error => .error error
      | .ok (ack, partition) => .ok (some ack, partition)

def CoordinatorState.trackEvent (self : CoordinatorState) (event : DcpEvent) :
    Result TrackedEvent × CoordinatorState :=
  match self.partitions[event.vbucket]? with
  | none =>
    (.error (.checkpoint s!"received event for untracked vBucket {event.vbucket}"), self)
  | some partition =>
    match partition.trackEvent event with
    | .error error => (.error error, self)
    | .ok (ack, partition) => (.ok { event, ack }, self.setPartition event.vbucket partition)

/-- Mark the first entry of that delivery; `none` if there is none. -/
def markAcknowledged (deliveryId : Nat) : List PendingAck → Option (List PendingAck)
  | [] => none
  | pending :: rest =>
    if pending.deliveryId = deliveryId then some ({ pending with acknowledged := true } :: rest)
    else (markAcknowledged deliveryId rest).map (pending :: ·)

/-- The loop of `acknowledge`: processed checkpoint, `advanced_to` and the remaining queue. -/
def drainAcknowledged (processed : DcpCheckpoint) (advancedTo : Option DcpCheckpoint) :
    List PendingAck → DcpCheckpoint × Option DcpCheckpoint × List PendingAck
  | [] => (processed, advancedTo, [])
  | pending :: rest =>
    if pending.acknowledged then
      drainAcknowledged pending.checkpoint (some pending.checkpoint) rest
    else (processed, advancedTo, pending :: rest)

/-- On a generation overflow the queue has already been drained. -/
def PartitionState.acknowledge (self : PartitionState) (ack : EventAck) :
    Result AckOutcome × PartitionState :=
  match markAcknowledged ack.deliveryId self.pending with
  | none =>
    (.error (.checkpoint
      s!"checkpoint ACK {ack.deliveryId} for vBucket {ack.vbucket} is obsolete"), self)
  | some pending =>
    let (processed, advancedTo, pending) := drainAcknowledged self.processed none pending
    let drained := { self with processed, pending }
    let outcome : AckOutcome :=
      { vbucket := ack.vbucket
        acknowledgedSeqno := ack.seqno
        advancedTo
        pendingEvents := pending.length }
    match advancedTo with
    | none => (.ok outcome, drained)
    | some _ =>
      match checkedSucc self.generation with
      | none =>
        (.error (.checkpoint s!"checkpoint generation overflow for vBucket {ack.vbucket}"), drained)
      | some generation => (.ok outcome, { drained with generation })

def CoordinatorState.acknowledge (self : CoordinatorState) (ack : EventAck) :
    Result AckOutcome × CoordinatorState :=
  match self.partitions[ack.vbucket]? with
  | none =>
    (.error (.checkpoint
      s!"vBucket {ack.vbucket} is not tracked by the checkpoint coordinator"), self)
  | some partition =>
    let (result, partition) := partition.acknowledge ack
    (result, self.setPartition ack.vbucket partition)

def CoordinatorState.markDirty (self : CoordinatorState) (vbucket : UInt16) :
    Result Unit × CoordinatorState :=
  match self.partitions[vbucket]? with
  | none =>
    (.error (.checkpoint s!"vBucket {vbucket} is not tracked by the checkpoint coordinator"), self)
  | some partition =>
    match checkedSucc partition.generation with
    | none => (.error (.checkpoint s!"checkpoint generation overflow for vBucket {vbucket}"), self)
    | some generation => (.ok (), self.setPartition vbucket { partition with generation })

def CoordinatorState.markChangedInitialPositions (self : CoordinatorState)
    (loaded : BTreeMap UInt16 DcpCheckpoint) :
    List (UInt16 × DcpCheckpoint) → Result Unit × CoordinatorState
  | [] => (.ok (), self)
  | (vbucket, checkpoint) :: rest =>
    if loaded[vbucket]? = some checkpoint then self.markChangedInitialPositions loaded rest
    else match self.markDirty vbucket with
      | (.error error, state) => (.error error, state)
      | (.ok (), state) => state.markChangedInitialPositions loaded rest

def CoordinatorState.processedCheckpoints (self : CoordinatorState) :
    BTreeMap UInt16 DcpCheckpoint :=
  self.partitions.map fun _ partition => partition.processed

def CoordinatorState.validateRebase (self : CoordinatorState) (bucketUuid : String)
    (vbucket : UInt16) (checkpoint : DcpCheckpoint) : Result Unit :=
  match self.partitions[vbucket]? with
  | none => .error (.checkpoint s!"cannot rebase untracked vBucket {vbucket}")
  | some partition =>
    match validateCheckpointIdentity vbucket bucketUuid checkpoint with
    | .error error => .error error
    | .ok () =>
      if partition.processed ≠ checkpoint ∧ partition.generation = u64Max then
        .error (.checkpoint s!"checkpoint generation overflow for vBucket {vbucket}")
      else .ok ()

def PartitionState.rebase (self : PartitionState) (checkpoint : DcpCheckpoint) : PartitionState :=
  { self with
    generation := if self.processed ≠ checkpoint then self.generation + 1 else self.generation
    processed := checkpoint
    lastRegisteredSeqno := checkpoint.seqno
    snapshot := none
    pending := [] }

def CoordinatorState.validateRebases (self : CoordinatorState) (bucketUuid : String) :
    List (UInt16 × DcpCheckpoint) → Result Unit
  | [] => .ok ()
  | (vbucket, checkpoint) :: rest =>
    match self.validateRebase bucketUuid vbucket checkpoint with
    | .error error => .error error
    | .ok () => self.validateRebases bucketUuid rest

def CoordinatorState.applyRebases :
    CoordinatorState → List (UInt16 × DcpCheckpoint) → Result Unit × CoordinatorState
  | self, [] => (.ok (), self)
  | self, (vbucket, checkpoint) :: rest =>
    match self.partitions[vbucket]? with
    | none => (.error (.checkpoint s!"cannot rebase untracked vBucket {vbucket}"), self)
    | some partition =>
      (self.setPartition vbucket (partition.rebase checkpoint)).applyRebases rest

def CoordinatorState.rebasePartitions (self : CoordinatorState) (bucketUuid : String)
    (effective : BTreeMap UInt16 DcpCheckpoint) : Result Unit × CoordinatorState :=
  match self.validateRebases bucketUuid effective.toList with
  | .error error => (.error error, self)
  | .ok () => self.applyRebases effective.toList

def CoordinatorState.hasDirty (self : CoordinatorState) : Bool :=
  self.partitions.toList.any fun entry => entry.2.isDirty

def CoordinatorState.dirtyCheckpoints (self : CoordinatorState) : List DirtyCheckpoint :=
  (self.partitions.toList.filter fun entry => entry.2.isDirty).map fun entry =>
    { vbucket := entry.1, checkpoint := entry.2.processed, generation := entry.2.generation }

def CoordinatorState.recordFlushAttempt (self : CoordinatorState) :
    Result Unit × CoordinatorState :=
  match checkedSucc self.metrics.flushAttempts with
  | none => (.error (.checkpoint "flush attempt counter overflow"), self)
  | some flushAttempts => (.ok (), { self with metrics := { self.metrics with flushAttempts } })

/-- Record a failed flush; the result is the error that the flush then returns. -/
def CoordinatorState.recordFlushFailure (self : CoordinatorState) (error : DcpError)
    (incrementAttempt : Bool) : DcpError × CoordinatorState :=
  let (attempt, state) := if incrementAttempt then self.recordFlushAttempt else (.ok (), self)
  match attempt with
  | .error overflow => (overflow, state)
  | .ok () =>
    match checkedSucc state.metrics.flushFailures with
    | none => (.checkpoint "flush failure counter overflow", state)
    | some flushFailures =>
      (error, { state with
        metrics := { state.metrics with flushFailures, lastFlushError := some error.toString } })

def PartitionState.confirm (self : PartitionState) (saved : DirtyCheckpoint) : PartitionState :=
  { self with durable := saved.checkpoint, durableGeneration := saved.generation }

/-- `none` is the failed `expect` of the source: the saved vBucket is not in the map. -/
def CoordinatorState.confirmSaved :
    CoordinatorState → List DirtyCheckpoint → Option CoordinatorState
  | self, [] => some self
  | self, saved :: rest =>
    match self.partitions[saved.vbucket]? with
    | none => none
    | some partition =>
      (self.setPartition saved.vbucket (partition.confirm saved)).confirmSaved rest

def CoordinatorState.completeFlush (self : CoordinatorState) (dirty : List DirtyCheckpoint) :
    Option (CheckpointFlushReport × CoordinatorState) :=
  (self.confirmSaved dirty).map fun state =>
    ({ attempted := dirty.length
       persisted := dirty.length
       remainingDirty := (state.partitions.toList.filter fun entry => entry.2.isDirty).length },
      { state with metrics := { state.metrics with lastFlushError := none } })

end RustDcp
