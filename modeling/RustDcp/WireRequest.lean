import RustDcp.Codec
import RustDcp.OpenedStreams

namespace RustDcp
set_option autoImplicit true

namespace Protocol

structure StreamRequest where
  vbucket : UInt16
  flags : UInt32
  vbucketUuid : Nat
  startSeqno : Nat
  endSeqno : Nat
  snapshotStart : Nat
  snapshotEnd : Nat
  filter : Option StreamFilter
  opaqueId : UInt32
  deriving DecidableEq

end Protocol

namespace StreamFilter

def quoteHex (n : Nat) : String := "\"" ++ hex 1 n ++ "\""

def members (self : StreamFilter) : List String :=
  (self.manifestUid.map fun uid => "\"uid\":" ++ quoteHex uid).toList ++
  (if self.collectionIds.isEmpty then [] else ["\"collections\":[" ++
    ",".intercalate (self.collectionIds.map fun id => quoteHex id.toNat) ++ "]"]) ++
  (if self.collectionIds.isEmpty then
    (self.scopeId.map fun scope => "\"scope\":" ++ quoteHex scope.toNat).toList else []) ++
  (self.streamId.map fun streamId => "\"sid\":" ++ toString streamId).toList

def encode (self : StreamFilter) : Except ProtocolError Bytes :=
  if self.scopeId.isSome ∧ ¬self.collectionIds.isEmpty then
    .error (.invalidRequest "stream filter cannot select both a scope and collection IDs")
  else if self.collectionIds.dedup.length ≠ self.collectionIds.length then
    .error (.invalidRequest "stream filter collection IDs must be unique")
  else if self.streamId = some 0 then
    .error (.invalidRequest "DCP stream ID must be non-zero")
  else .ok ("\x7b" ++ ",".intercalate self.members ++ "\x7d").toUTF8.toList

end StreamFilter

namespace Protocol

def StreamRequest.checkBounds (self : StreamRequest) : Except ProtocolError Unit :=
  if self.startSeqno > self.endSeqno then
    .error (.invalidRequest s!"stream start {self.startSeqno} exceeds end {self.endSeqno}")
  else if self.snapshotStart > self.snapshotEnd then
    .error (.invalidRequest
      s!"snapshot start {self.snapshotStart} exceeds end {self.snapshotEnd}")
  else if self.startSeqno > self.snapshotEnd ∧ self.snapshotEnd ≠ 0 then
    .error (.invalidRequest "stream start lies beyond checkpoint snapshot")
  else .ok ()

def streamRequest (request : StreamRequest) : Except ProtocolError Frame := do
  request.checkBounds
  let extras := putU32 request.flags ++ putU32 0 ++ putU64 (.ofNat request.startSeqno) ++
    putU64 (.ofNat request.endSeqno) ++ putU64 (.ofNat request.vbucketUuid) ++
    putU64 (.ofNat request.snapshotStart) ++ putU64 (.ofNat request.snapshotEnd)
  let frame := { Frame.request Opcode.dcpStreamRequest with
    vbucket := request.vbucket
    opaqueId := request.opaqueId
    extras }
  match request.filter with
  | none => return frame
  | some filter => return { frame with value := ← filter.encode }

end Protocol

def VBucketStreamRequest.wireRequest (self : VBucketStreamRequest) : Protocol.StreamRequest where
  vbucket := self.checkpoint.vbucket
  flags := self.flags
  vbucketUuid := self.checkpoint.vbucketUuid
  startSeqno := self.checkpoint.seqno
  endSeqno := self.endSeqno
  snapshotStart := self.checkpoint.snapshotStart
  snapshotEnd := self.checkpoint.snapshotEnd
  filter := self.filter
  opaqueId := 0

inductive RequestAction where
  | freeze (endSeqno : Nat)
  | rewind (rollbackSeqno : Nat) (failoverLog : List FailoverEntry)
  deriving DecidableEq

namespace VBucketStreamRequest

def adjust (self : VBucketStreamRequest) : RequestAction → Option VBucketStreamRequest
  | .freeze endSeqno => (self.withFrozenEndSeqno endSeqno).toOption
  | .rewind rollbackSeqno failoverLog =>
    if rollbackSeqno < self.checkpoint.seqno then
      (self.rewind rollbackSeqno failoverLog).toOption.map Prod.snd
    else none

/-- The start lies within the checkpoint's snapshot and does not pass the end. -/
structure Sendable (request : VBucketStreamRequest) : Prop where
  valid : request.checkpoint.validate = .ok ()
  ends : request.checkpoint.seqno ≤ request.endSeqno

theorem rewind_eq_ok {self : VBucketStreamRequest}
    (h : self.rewind rollback failoverLog = .ok (uuid, next)) :
    ∃ branch, failoverLog.find? (fun entry => entry.seqno ≤ rollback) = some branch ∧
      uuid = branch.vbucketUuid ∧ next = { self with
        checkpoint := self.checkpoint.rewound rollback branch
        filter := self.filter.map fun filter => { filter with manifestUid := none } } := by
  simp only [rewind, bind_eq_ok] at h
  obtain ⟨branch, hbranch, -, -, h⟩ := h
  cases h
  refine ⟨branch, ?_, rfl, rfl⟩
  rw [coveringBranch] at hbranch
  split at hbranch
  · rename_i found hfound
    cases hbranch
    exact hfound
  · cases hbranch

end VBucketStreamRequest

theorem DcpCheckpoint.rewound_validate (self : DcpCheckpoint) (rollback : Nat)
    (branch : FailoverEntry) : (self.rewound rollback branch).validate = .ok () := by
  simp [DcpCheckpoint.validate_eq_ok, rewound]

namespace VBucketStreamRequest

theorem Sendable.adjust {self next : VBucketStreamRequest} (h : self.Sendable)
    (hstep : self.adjust action = some next) : next.Sendable := by
  cases action with
  | freeze endSeqno =>
    simp only [VBucketStreamRequest.adjust, toOption_eq_some, withFrozenEndSeqno] at hstep
    split at hstep
    · cases hstep
    · rename_i hle
      cases hstep
      exact ⟨h.valid, Nat.not_lt.1 hle⟩
  | rewind rollback failoverLog =>
    simp only [VBucketStreamRequest.adjust] at hstep
    split at hstep
    · rename_i hlt
      obtain ⟨⟨uuid, rewound⟩, hrewind, rfl⟩ := Option.map_eq_some_iff.1 hstep
      obtain ⟨branch, -, -, rfl⟩ := rewind_eq_ok (toOption_eq_some.1 hrewind)
      exact ⟨self.checkpoint.rewound_validate rollback branch, hlt.le.trans h.ends⟩
    · cases hstep

theorem resolveChecked_sendable {checkpoint : DcpCheckpoint} {filter : Option StreamFilter}
    (hvalid : checkpoint.validate = .ok ()) (hhigh : high ≤ u64Max)
    (h : resolveChecked v start mode high failoverLog filter checkpoint = .ok request) :
    request.Sendable := by
  simp only [resolveChecked] at h
  split at h
  · cases h
  · rename_i hle
    split at h
    · cases h
    · cases h
      refine ⟨hvalid, ?_⟩
      cases mode with
      | finite => exact Nat.not_lt.1 hle
      | infinite => exact (Nat.not_lt.1 hle).trans hhigh

theorem resolve_sendable {filter : Option StreamFilter} (hhigh : high ≤ u64Max)
    (h : resolve v bucketUuid start mode high failoverLog filter = .ok request) :
    request.Sendable := by
  simp only [resolve] at h
  split at h
  · cases h
  split at h
  · cases h
  split at h
  · cases h
  rename_i hvalid
  have hidentified : ∀ bucketUuid vbucketUuid,
      { start.toCheckpoint v high with bucketUuid, vbucketUuid }.validate = .ok () := by
    intro bucketUuid vbucketUuid
    exact DcpCheckpoint.validate_eq_ok.2 (DcpCheckpoint.validate_eq_ok.1 hvalid)
  split at h
  · split at h
    · cases h
    · exact resolveChecked_sendable (hidentified _ _) hhigh h
  · exact resolveChecked_sendable (hidentified _ _) hhigh h

theorem Sendable.checkBounds {self : VBucketStreamRequest} (h : self.Sendable) :
    self.wireRequest.checkBounds = .ok () := by
  obtain ⟨hsnapshot, hend, -⟩ := DcpCheckpoint.validate_eq_ok.1 h.valid
  have hstart : ¬self.wireRequest.startSeqno > self.wireRequest.endSeqno := Nat.not_lt.2 h.ends
  have hspan : ¬self.wireRequest.snapshotStart > self.wireRequest.snapshotEnd :=
    Nat.not_lt.2 hsnapshot
  have hbeyond : ¬(self.wireRequest.startSeqno > self.wireRequest.snapshotEnd ∧
      self.wireRequest.snapshotEnd ≠ 0) := fun hbeyond => Nat.not_lt.2 hend hbeyond.1
  rw [Protocol.StreamRequest.checkBounds, if_neg hstart, if_neg hspan, if_neg hbeyond]

theorem Sendable.streamRequest {self : VBucketStreamRequest} (h : self.Sendable)
    (herror : Protocol.streamRequest self.wireRequest = .error error) :
    ∃ filter, self.filter = some filter ∧ filter.encode = .error error := by
  simp only [Protocol.streamRequest, h.checkBounds] at herror
  cases hfilter : self.filter with
  | none =>
    simp only [wireRequest, hfilter] at herror
    cases herror
  | some filter =>
    simp only [wireRequest, hfilter] at herror
    cases hencode : filter.encode with
    | ok bytes =>
      rw [hencode] at herror
      cases herror
    | error other =>
      rw [hencode] at herror
      cases herror
      exact ⟨filter, rfl, hencode⟩

theorem validateEachRequest_sendable {requests : List VBucketStreamRequest}
    (h : ∀ request ∈ requests, request.Sendable)
    (hdistinct : (requests.map (·.checkpoint.vbucket)).Nodup)
    (hseen : ∀ request ∈ requests, request.checkpoint.vbucket ∉ seen) :
    validateEachRequest seen requests = .ok () := by
  induction requests generalizing seen with
  | nil => rfl
  | cons request requests ih =>
    obtain ⟨hrequest, hrequests⟩ := List.forall_mem_cons.1 h
    obtain ⟨hfresh, hseen⟩ := List.forall_mem_cons.1 hseen
    rw [List.map_cons, List.nodup_cons] at hdistinct
    simp only [validateEachRequest, bind_eq_ok]
    refine ⟨(), hrequest.valid, ?_⟩
    rw [if_neg (Nat.not_lt.2 hrequest.ends), if_neg hfresh]
    refine ih hrequests hdistinct.2 ?_
    intro other hother hmem
    rcases List.mem_cons.1 hmem with heq | hmem
    · exact hdistinct.1 (heq ▸ List.mem_map_of_mem hother)
    · exact hseen other hother hmem

/-- A request that was resolved and then frozen or rewound. The high seqno is a `u64`. -/
def Resumed (request : VBucketStreamRequest) : Prop :=
  ∃ v bucketUuid start mode high failoverLog filter resolved acts, high ≤ u64Max ∧
    resolve v bucketUuid start mode high failoverLog filter = .ok resolved ∧
    Machine.run adjust resolved acts = some request

theorem Resumed.sendable {request : VBucketStreamRequest} (h : request.Resumed) :
    request.Sendable := by
  obtain ⟨v, bucketUuid, start, mode, high, failoverLog, filter, resolved, acts, hhigh, hresolve,
    hrun⟩ := h
  exact Machine.run_invariant (fun _ _ _ hs hstep => hs.adjust hstep)
    (resolve_sendable hhigh hresolve) hrun

/-- Resumed requests of different vBuckets pass every check before they are sent. -/
theorem resumed_sendable {requests : List VBucketStreamRequest}
    (hresumed : ∀ request ∈ requests, request.Resumed) (hsome : requests ≠ [])
    (hdistinct : (requests.map (·.checkpoint.vbucket)).Nodup) :
    validateRequests requests = .ok () ∧
    ∀ request ∈ requests, request.checkpoint.validate = .ok () ∧
      request.checkpoint.seqno ≤ request.endSeqno ∧
      request.checkpoint.seqno ≤ request.checkpoint.snapshotEnd ∧
      (request.checkpoint.seqno ≠ 0 →
        request.checkpoint.snapshotStart ≤ request.checkpoint.seqno) ∧
      request.wireRequest.checkBounds = .ok () ∧
      ∀ error, Protocol.streamRequest request.wireRequest = .error error →
        ∃ filter, request.filter = some filter ∧ filter.encode = .error error := by
  constructor
  · rw [validateRequests, if_neg (by simpa using hsome)]
    exact validateEachRequest_sendable (fun request hrequest =>
      (hresumed request hrequest).sendable)
      hdistinct (by simp)
  · intro request hrequest
    have hsendable := (hresumed request hrequest).sendable
    obtain ⟨-, hend, hstart⟩ := DcpCheckpoint.validate_eq_ok.1 hsendable.valid
    exact ⟨hsendable.valid, hsendable.ends, hend, hstart.resolve_left, hsendable.checkBounds,
      fun error => hsendable.streamRequest⟩

/-- vBucket 0 goes back from 9 to 4 after its end was frozen, vBucket 1 starts at the high seqno. -/
theorem resumed_sendable_sample :
    validateRequests [⟨⟨some "b", 0, 7, 4, 4, 4, none⟩, 12, 16, none⟩,
      ⟨⟨some "b", 1, 8, 5, 5, 5, none⟩, 5, 16, none⟩] = .ok () := by
  refine (resumed_sendable ?_ (by simp) (by decide)).1
  simp only [List.forall_mem_cons, List.not_mem_nil, false_imp_iff, implies_true, and_true]
  exact ⟨⟨0, some "b", .checkpoint ⟨none, 0, 7, 9, 9, 9, none⟩, .infinite, 20, [⟨7, 0⟩], none, _,
      [.freeze 12, .rewind 4 [⟨7, 0⟩]], by decide, rfl, rfl⟩,
    ⟨1, some "b", .latest, .finite, 5, [⟨8, 0⟩], none, _, [], by decide, rfl, rfl⟩⟩

end VBucketStreamRequest

end RustDcp
