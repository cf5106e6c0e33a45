import RustDcp.Checkpoint
import RustDcp.Collections

namespace RustDcp
set_option autoImplicit true

inductive DcpMode where
  | finite
  | infinite
  deriving DecidableEq

inductive RollbackPolicy where
  | stopAndReport
  | rewindAndReplay
  | delegateToHandler
  deriving DecidableEq

inductive RollbackAction where
  | stopAndReport
  | rewindAndReplay
  deriving DecidableEq

structure RollbackRequest where
  vbucket : UInt16
  checkpoint : DcpCheckpoint
  rollbackSeqno : Nat
  failoverLog : List FailoverEntry
  deriving DecidableEq

abbrev RollbackHandler := RollbackRequest → Result RollbackAction

structure RollbackApplied where
  vbucket : UInt16
  requestedSeqno : Nat
  rollbackSeqno : Nat
  vbucketUuid : Nat
  deriving DecidableEq

def streamFlagActiveOnly : UInt32 := 0x10

def streamFlagStrictVbuuid : UInt32 := 0x20

structure VBucketStreamRequest where
  checkpoint : DcpCheckpoint
  endSeqno : Nat
  flags : UInt32
  filter : Option StreamFilter
  deriving DecidableEq

def StartPosition.toCheckpoint (vbucket : UInt16) (highSeqno : Nat) : StartPosition → DcpCheckpoint
  | .earliest => DcpCheckpoint.earliest vbucket
  | .latest => { DcpCheckpoint.earliest vbucket with
      seqno := highSeqno, snapshotStart := highSeqno, snapshotEnd := highSeqno }
  | .checkpoint given => given

def StartPosition.isCheckpoint : StartPosition → Bool
  | .checkpoint _ => true
  | _ => false

def coveringBranch (vbucket : UInt16) (rollbackSeqno : Nat) (failoverLog : List FailoverEntry) :
    Result FailoverEntry :=
  match failoverLog.find? fun entry => entry.seqno ≤ rollbackSeqno with
  | some branch => .ok branch
  | none => .error (.topology
      s!"failover log has no branch covering rollback seqno {rollbackSeqno} for vBucket {vbucket}")

def DcpCheckpoint.rewound (self : DcpCheckpoint) (rollbackSeqno : Nat) (branch : FailoverEntry) :
    DcpCheckpoint :=
  { self with
    vbucketUuid := branch.vbucketUuid
    seqno := rollbackSeqno
    snapshotStart := rollbackSeqno
    snapshotEnd := rollbackSeqno
    manifestUid := none }

namespace VBucketStreamRequest

def streamId (self : VBucketStreamRequest) : Option UInt16 :=
  self.filter.bind (·.streamId)

/-- The part of `resolve` after the checkpoint has been validated. -/
def resolveChecked (vbucket : UInt16) (start : StartPosition) (mode : DcpMode) (highSeqno : Nat)
    (failoverLog : List FailoverEntry) (filter : Option StreamFilter)
    (checkpoint : DcpCheckpoint) : Result VBucketStreamRequest :=
  if checkpoint.seqno > highSeqno then
    .error (.rollbackRequired vbucket checkpoint.seqno highSeqno failoverLog)
  else
    let flags := if start.isCheckpoint ∧ checkpoint.seqno = 0 then
      streamFlagActiveOnly ||| streamFlagStrictVbuuid else streamFlagActiveOnly
    let filter : Option StreamFilter :=
      filter.map fun filter => { filter with manifestUid := checkpoint.manifestUid }
    if filter.bind (·.streamId) = some 0 then
      .error (.invalidConfiguration s!"vBucket {vbucket} stream ID must be non-zero")
    else .ok
      { checkpoint
        endSeqno := match mode with
          | .finite => highSeqno
          | .infinite => u64Max
        flags
        filter }

def resolve (vbucket : UInt16) (bucketUuid : Option String) (start : StartPosition)
    (mode : DcpMode) (highSeqno : Nat) (failoverLog : List FailoverEntry)
    (filter : Option StreamFilter) : Result VBucketStreamRequest :=
  match failoverLog.head? with
  | none => .error (.topology s!"vBucket {vbucket} has an empty failover log")
  | some newest =>
    let checkpoint := start.toCheckpoint vbucket highSeqno
    if checkpoint.vbucket ≠ vbucket then
      .error (.checkpoint
        s!"checkpoint vBucket {checkpoint.vbucket} does not match requested vBucket {vbucket}")
    else match checkpoint.validate with
      | .error error => .error error
      | .ok () =>
        let identified := { checkpoint with
          bucketUuid := checkpoint.bucketUuid.or bucketUuid
          vbucketUuid := if checkpoint.vbucketUuid = 0 then newest.vbucketUuid
            else checkpoint.vbucketUuid }
        match bucketUuid, checkpoint.bucketUuid with
        | some expected, some observed =>
          if expected ≠ observed then
            .error (.checkpoint
              s!"checkpoint bucket UUID {observed} does not match current bucket {expected}")
          else resolveChecked vbucket start mode highSeqno failoverLog filter identified
        | _, _ => resolveChecked vbucket start mode highSeqno failoverLog filter identified

def withFrozenEndSeqno (self : VBucketStreamRequest) (endSeqno : Nat) :
    Result VBucketStreamRequest :=
  if endSeqno < self.checkpoint.seqno then
    .error (.stream self.checkpoint.vbucket
      s!"frozen stream end {endSeqno} is behind effective start {self.checkpoint.seqno}")
  else .ok { self with endSeqno }

def applyFrozenEndSeqno (self : VBucketStreamRequest) :
    Option Nat → Result VBucketStreamRequest
  | some endSeqno => self.withFrozenEndSeqno endSeqno
  | none => .ok self

def rewind (self : VBucketStreamRequest) (rollbackSeqno : Nat)
    (failoverLog : List FailoverEntry) : Result (Nat × VBucketStreamRequest) := do
  let branch ← coveringBranch self.checkpoint.vbucket rollbackSeqno failoverLog
  let checkpoint := self.checkpoint.rewound rollbackSeqno branch
  checkpoint.validate
  return (branch.vbucketUuid, { self with
    checkpoint
    filter := self.filter.map fun filter => { filter with manifestUid := none } })

end VBucketStreamRequest

def missingHandler : DcpError :=
  .invalidConfiguration "DelegateToHandler rollback policy requires a rollback handler"

def rollbackAction (policy : RollbackPolicy) (handler : Option RollbackHandler)
    (request : RollbackRequest) : Result RollbackAction :=
  match policy with
  | .stopAndReport => .ok .stopAndReport
  | .rewindAndReplay => .ok .rewindAndReplay
  | .delegateToHandler =>
    match handler with
    | none => .error missingHandler
    | some handler => handler request

/-- The second attempt of `resolve_vbucket_request`, from the rollback point. -/
def resolveRolledBack (vbucket : UInt16) (bucketUuid : String) (checkpoint : DcpCheckpoint)
    (mode : DcpMode) (highSeqno requestedSeqno rollbackSeqno : Nat)
    (observedLog : List FailoverEntry) (filter : Option StreamFilter) (policy : RollbackPolicy)
    (handler : Option RollbackHandler) (frozenEndSeqno : Option Nat) :
    Result (VBucketStreamRequest × Nat) := do
  let rejected := { checkpoint with
    bucketUuid := checkpoint.bucketUuid.or (some bucketUuid)
    vbucketUuid := if checkpoint.vbucketUuid = 0 then
      (observedLog.head?.map (·.vbucketUuid)).getD 0 else checkpoint.vbucketUuid }
  match ← rollbackAction policy handler
    { vbucket, checkpoint := rejected, rollbackSeqno, failoverLog := observedLog } with
  | .stopAndReport =>
    .error (.rollbackRequired vbucket requestedSeqno rollbackSeqno observedLog)
  | .rewindAndReplay =>
    let branch ← coveringBranch vbucket rollbackSeqno observedLog
    let rejected := rejected.rewound rollbackSeqno branch
    rejected.validate
    let request ← VBucketStreamRequest.resolve vbucket (some bucketUuid) (.checkpoint rejected) mode
      highSeqno observedLog filter
    let request ← request.applyFrozenEndSeqno frozenEndSeqno
    return (request, 1)

def resolveVbucketRequest (vbucket : UInt16) (bucketUuid : String) (start : StartPosition)
    (mode : DcpMode) (highSeqno : Nat) (failoverLog : List FailoverEntry)
    (filter : Option StreamFilter) (policy : RollbackPolicy) (handler : Option RollbackHandler)
    (frozenEndSeqno : Option Nat) : Result (VBucketStreamRequest × Nat) :=
  match VBucketStreamRequest.resolve vbucket (some bucketUuid) start mode highSeqno failoverLog
    filter with
  | .ok request => (request.applyFrozenEndSeqno frozenEndSeqno).map fun request => (request, 0)
  | .error (.rollbackRequired _ requestedSeqno rollbackSeqno observedLog) =>
    match start with
    | .checkpoint checkpoint =>
      resolveRolledBack vbucket bucketUuid checkpoint mode highSeqno requestedSeqno rollbackSeqno
        observedLog filter policy handler frozenEndSeqno
    | _ => .error (.rollbackRequired vbucket requestedSeqno rollbackSeqno observedLog)
  | .error error => .error error

/-- One answer of the producer to a stream request. A rollback comes with the failover log that is
fetched after it. -/
inductive OpenReply where
  | failed (error : DcpError)
  | opened (entries : List FailoverEntry)
  | rollback (rollbackSeqno : Nat) (failoverLog : Result (List FailoverEntry))
  deriving DecidableEq

structure PartitionOpenState where
  effectiveCheckpoint : DcpCheckpoint
  vbucket : UInt16
  startSeqno : Nat
  endSeqno : Nat
  vbucketUuid : Nat
  streamId : Option UInt16
  opaqueId : UInt32
  deriving DecidableEq

def maxRollbackAttempts : Nat := 16

def VBucketStreamRequest.openState (self : VBucketStreamRequest) (opaqueId : UInt32)
    (entries : List FailoverEntry) : Result PartitionOpenState :=
  match entries.head? with
  | none => .error (.topology
      s!"stream-open response has no failover entries for vBucket {self.checkpoint.vbucket}")
  | some current => .ok
      { effectiveCheckpoint := { self.checkpoint with vbucketUuid := current.vbucketUuid }
        vbucket := self.checkpoint.vbucket
        startSeqno := self.checkpoint.seqno
        endSeqno := self.endSeqno
        vbucketUuid := current.vbucketUuid
        streamId := self.streamId
        opaqueId }

/-- One rollback of `open_partition`: the rewound request and the record of it. -/
def VBucketStreamRequest.rollBack (self : VBucketStreamRequest) (policy : RollbackPolicy)
    (handler : Option RollbackHandler) (rollbackSeqno : Nat)
    (failoverLog : Result (List FailoverEntry)) :
    Result (VBucketStreamRequest × RollbackApplied) := do
  if rollbackSeqno ≥ self.checkpoint.seqno then
    .error (.protocol (.malformedDcp
      (s!"vBucket {self.checkpoint.vbucket} rollback {rollbackSeqno} does not precede " ++
       s!"requested seqno {self.checkpoint.seqno}")))
  else
    let failoverLog ← failoverLog
    match ← rollbackAction policy handler
      { vbucket := self.checkpoint.vbucket, checkpoint := self.checkpoint, rollbackSeqno,
        failoverLog } with
    | .stopAndReport =>
      .error
        (.rollbackRequired self.checkpoint.vbucket self.checkpoint.seqno rollbackSeqno failoverLog)
    | .rewindAndReplay =>
      let (vbucketUuid, request) ← self.rewind rollbackSeqno failoverLog
      return (request,
        { vbucket := request.checkpoint.vbucket
          requestedSeqno := self.checkpoint.seqno
          rollbackSeqno
          vbucketUuid })

/-- The loop of `open_partition`; `left` counts the rollbacks that it still follows. -/
def openLoop (policy : RollbackPolicy) (handler : Option RollbackHandler) :
    Nat → VBucketStreamRequest → List RollbackApplied → List (UInt32 × OpenReply) →
    Result (PartitionOpenState × List RollbackApplied)
  | _, _, _, [] => .error (.timeout 0)
  | _, _, _, (_, .failed error) :: _ => .error error
  | _, request, rollbacks, (opaqueId, .opened entries) :: _ =>
    (request.openState opaqueId entries).map fun state => (state, rollbacks)
  | 0, request, _, (_, .rollback _ _) :: _ =>
    .error (.stream request.checkpoint.vbucket
      s!"producer exceeded {maxRollbackAttempts} consecutive rollback responses")
  | left + 1, request, rollbacks, (_, .rollback rollbackSeqno failoverLog) :: replies =>
    match request.rollBack policy handler rollbackSeqno failoverLog with
    | .error error => .error error
    | .ok (request, rollback) =>
      openLoop policy handler left request (rollbacks ++ [rollback]) replies

/-- `replies` is what the producer answers, with the opaque of each request; a request without an
answer times out. -/
def openPartition (policy : RollbackPolicy) (handler : Option RollbackHandler)
    (request : VBucketStreamRequest) (replies : List (UInt32 × OpenReply)) :
    Result (PartitionOpenState × List RollbackApplied) :=
  openLoop policy handler maxRollbackAttempts request [] replies

namespace VBucketStreamRequest

theorem resolveChecked_eq_ok {checkpoint : DcpCheckpoint} {filter : Option StreamFilter}
    (h : resolveChecked v start mode high failoverLog filter checkpoint = .ok request) :
    request.checkpoint = checkpoint ∧ checkpoint.seqno ≤ high := by
  simp only [resolveChecked] at h
  split at h
  · cases h
  · split at h
    · cases h
    · cases h
      exact ⟨rfl, by omega⟩

theorem resolve_eq_ok {filter : Option StreamFilter}
    (h : resolve v bucketUuid start mode high failoverLog filter = .ok request) :
    request.checkpoint.seqno = (start.toCheckpoint v high).seqno ∧
      request.checkpoint.vbucket = v ∧ request.checkpoint.seqno ≤ high := by
  simp only [resolve] at h
  split at h
  · cases h
  split at h
  · cases h
  rename_i hv
  rw [not_not] at hv
  split at h
  · cases h
  split at h
  · split at h
    · cases h
    · obtain ⟨hrequest, hle⟩ := resolveChecked_eq_ok h
      rw [hrequest]
      exact ⟨rfl, hv, hle⟩
  · obtain ⟨hrequest, hle⟩ := resolveChecked_eq_ok h
    rw [hrequest]
    exact ⟨rfl, hv, hle⟩

theorem resolve_checkpoint {checkpoint : DcpCheckpoint} {filter : Option StreamFilter}
    (hv : checkpoint.vbucket = v)
    (huuid : checkpoint.bucketUuid = some bucketUuid) (hvalid : checkpoint.validate = .ok ())
    (hlog : failoverLog ≠ []) (hstream : (filter.bind StreamFilter.streamId) ≠ some 0)
    (mode : DcpMode) (high : Nat) :
    (checkpoint.seqno ≤ high → ∃ request,
      resolve v (some bucketUuid) (.checkpoint checkpoint) mode high failoverLog filter =
        .ok request) ∧
    (high < checkpoint.seqno →
      resolve v (some bucketUuid) (.checkpoint checkpoint) mode high failoverLog filter =
        .error (.rollbackRequired v checkpoint.seqno high failoverLog)) := by
  obtain ⟨newest, rest, rfl⟩ := List.exists_cons_of_ne_nil hlog
  have hfilter : ((filter.map fun filter : StreamFilter =>
      { filter with manifestUid := checkpoint.manifestUid }).bind StreamFilter.streamId) ≠
        some 0 := by
    rw [Option.bind_map]
    exact hstream
  constructor
  · intro hle
    have hnot : ¬checkpoint.seqno > high := Nat.not_lt.2 hle
    simp only [resolve, List.head?_cons, StartPosition.toCheckpoint, hv, ne_eq, not_true_eq_false,
      ↓reduceIte, hvalid, huuid, resolveChecked, hnot, hfilter]
    exact ⟨_, rfl⟩
  · intro hlt
    simp only [resolve, List.head?_cons, StartPosition.toCheckpoint, hv, ne_eq, not_true_eq_false,
      ↓reduceIte, hvalid, huuid, resolveChecked, gt_iff_lt, hlt]

theorem openState_eq_ok {self : VBucketStreamRequest}
    (h : self.openState opaqueId entries = .ok opened) :
    opened.effectiveCheckpoint.seqno = self.checkpoint.seqno ∧
      opened.startSeqno = self.checkpoint.seqno ∧ opened.vbucket = self.checkpoint.vbucket := by
  rw [openState] at h
  split at h
  · cases h
  · cases h
    exact ⟨rfl, rfl, rfl⟩

end VBucketStreamRequest

end RustDcp
