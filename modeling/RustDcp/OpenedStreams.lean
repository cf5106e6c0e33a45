import RustDcp.Generation

namespace RustDcp
set_option autoImplicit true

theorem DcpCheckpoint.validate_error {self : DcpCheckpoint} (h : self.validate = .error error) :
    ∃ message, error = .checkpoint message := by
  simp only [validate] at h
  split at h
  · cases h
    exact ⟨_, rfl⟩
  · split at h
    · cases h
      exact ⟨_, rfl⟩
    · split at h
      · cases h
        exact ⟨_, rfl⟩
      · cases h

namespace VBucketStreamRequest

theorem resolveChecked_eq_rollback {checkpoint : DcpCheckpoint} {filter : Option StreamFilter}
    (h : resolveChecked v start mode high failoverLog filter checkpoint =
      .error (.rollbackRequired u requested rollback observed)) :
    rollback = high ∧ high < checkpoint.seqno ∧ observed = failoverLog := by
  simp only [resolveChecked] at h
  split at h
  · rename_i hlt
    cases h
    exact ⟨rfl, hlt, rfl⟩
  · split at h
    · cases h
    · cases h

theorem resolve_eq_rollback {filter : Option StreamFilter}
    (h : resolve v bucketUuid start mode high failoverLog filter =
      .error (.rollbackRequired u requested rollback observed)) :
    rollback = high ∧ high < (start.toCheckpoint v high).seqno ∧ observed = failoverLog := by
  simp only [resolve] at h
  split at h
  · cases h
  split at h
  · cases h
  split at h
  · rename_i error hvalid
    obtain ⟨message, rfl⟩ := DcpCheckpoint.validate_error hvalid
    cases h
  split at h
  · split at h
    · cases h
    · obtain ⟨hhigh, hlt, hlog⟩ := resolveChecked_eq_rollback h
      exact ⟨hhigh, hlt, hlog⟩
  · obtain ⟨hhigh, hlt, hlog⟩ := resolveChecked_eq_rollback h
    exact ⟨hhigh, hlt, hlog⟩

theorem applyFrozenEndSeqno_eq_ok {self : VBucketStreamRequest}
    (h : self.applyFrozenEndSeqno frozen = .ok request) :
    request.checkpoint = self.checkpoint ∧ ∀ e, frozen = some e → request.endSeqno = e := by
  cases frozen with
  | none =>
    cases h
    exact ⟨rfl, by simp⟩
  | some e =>
    simp only [applyFrozenEndSeqno, withFrozenEndSeqno] at h
    split at h
    · cases h
    · cases h
      exact ⟨rfl, fun _ he => Option.some.inj he⟩

theorem applyFrozenEndSeqno_of_le {self : VBucketStreamRequest} (h : self.checkpoint.seqno ≤ e) :
    self.applyFrozenEndSeqno (some e) = .ok { self with endSeqno := e } := by
  simp only [applyFrozenEndSeqno, withFrozenEndSeqno, if_neg (Nat.not_lt.2 h)]

end VBucketStreamRequest

section

variable {v : UInt16} {bucketUuid : String} {mode : DcpMode} {high requested rollback : Nat}
  {failoverLog observed : List FailoverEntry} {filter : Option StreamFilter}
  {policy : RollbackPolicy} {handler : Option RollbackHandler} {frozen : Option Nat}
  {checkpoint : DcpCheckpoint} {resolved : VBucketStreamRequest} {count : Nat}

theorem resolveRolledBack_eq_ok
    (h : resolveRolledBack v bucketUuid checkpoint mode high requested rollback observed filter
      policy handler frozen = .ok (resolved, count)) :
    resolved.checkpoint.vbucket = v ∧ resolved.checkpoint.seqno = rollback ∧
      ∀ e, frozen = some e → resolved.endSeqno = e := by
  simp only [resolveRolledBack, bind_eq_ok] at h
  obtain ⟨action, -, h⟩ := h
  cases action with
  | stopAndReport => cases h
  | rewindAndReplay =>
    simp only [bind_eq_ok] at h
    obtain ⟨branch, -, -, -, request, hrequest, frozenRequest, hfrozen, h⟩ := h
    cases h
    obtain ⟨hseqno, hv, -⟩ := VBucketStreamRequest.resolve_eq_ok hrequest
    obtain ⟨hsame, hend⟩ := VBucketStreamRequest.applyFrozenEndSeqno_eq_ok hfrozen
    rw [hsame]
    exact ⟨hv, hseqno, hend⟩

/-- A resolved request is for the vBucket, starts no later than asked for, and has the frozen end
if there is one. -/
theorem resolveVbucketRequest_eq_ok {start : StartPosition}
    (h : resolveVbucketRequest v bucketUuid start mode high failoverLog filter policy handler
      frozen = .ok (resolved, count)) :
    resolved.checkpoint.vbucket = v ∧
      (∀ c, start = .checkpoint c → resolved.checkpoint.seqno ≤ c.seqno) ∧
      ∀ e, frozen = some e → resolved.endSeqno = e := by
  simp only [resolveVbucketRequest] at h
  split at h
  · rename_i request hrequest
    obtain ⟨frozenRequest, hfrozen, heq⟩ := Result.map_eq_ok h
    cases heq
    obtain ⟨hseqno, hv, -⟩ := VBucketStreamRequest.resolve_eq_ok hrequest
    obtain ⟨hsame, hend⟩ := VBucketStreamRequest.applyFrozenEndSeqno_eq_ok hfrozen
    rw [hsame]
    refine ⟨hv, ?_, hend⟩
    rintro c rfl
    exact hseqno.le
  · rename_i hrollback
    obtain ⟨rfl, hlt, -⟩ := VBucketStreamRequest.resolve_eq_rollback hrollback
    split at h
    · obtain ⟨hv, hseqno, hend⟩ := resolveRolledBack_eq_ok h
      refine ⟨hv, ?_, hend⟩
      intro c hc
      cases hc
      rw [hseqno]
      exact hlt.le
    · cases h
  · cases h

theorem resolveRolledBack_frozen (hle : rollback ≤ e) :
    resolveRolledBack v bucketUuid checkpoint mode high requested rollback observed filter policy
        handler (some e) =
      (resolveRolledBack v bucketUuid checkpoint mode high requested rollback observed filter policy
        handler none).map fun resolved => ({ resolved.1 with endSeqno := e }, resolved.2) := by
  simp only [resolveRolledBack]
  cases rollbackAction policy handler _ with
  | error error => rfl
  | ok action =>
    cases action with
    | stopAndReport => rfl
    | rewindAndReplay =>
      simp only [bind, Except.bind]
      cases coveringBranch v rollback observed with
      | error error => rfl
      | ok branch =>
        simp only
        generalize hrewound : DcpCheckpoint.rewound _ rollback branch = rewound
        cases rewound.validate with
        | error error => rfl
        | ok u =>
          simp only
          cases hrequest : VBucketStreamRequest.resolve v (some bucketUuid) (.checkpoint rewound)
            mode high observed filter with
          | error error => rfl
          | ok request =>
            have hseqno : request.checkpoint.seqno = rollback := by
              rw [(VBucketStreamRequest.resolve_eq_ok hrequest).1, ← hrewound]
              rfl
            simp only [VBucketStreamRequest.applyFrozenEndSeqno_of_le (hseqno.le.trans hle)]
            rfl

/-- Freezing the end at or behind the start never fails: it only replaces the end of whatever is
resolved without it. -/
theorem resolveVbucketRequest_frozen (hle : checkpoint.seqno ≤ e) :
    resolveVbucketRequest v bucketUuid (.checkpoint checkpoint) mode high failoverLog filter policy
        handler (some e) =
      (resolveVbucketRequest v bucketUuid (.checkpoint checkpoint) mode high failoverLog filter
        policy handler none).map fun resolved =>
          ({ resolved.1 with endSeqno := e }, resolved.2) := by
  simp only [resolveVbucketRequest]
  split
  · rename_i request hrequest
    have hseqno : request.checkpoint.seqno = checkpoint.seqno :=
      (VBucketStreamRequest.resolve_eq_ok hrequest).1
    rw [VBucketStreamRequest.applyFrozenEndSeqno_of_le (hseqno.le.trans hle)]
    rfl
  · rename_i hrollback
    obtain ⟨rfl, hlt, -⟩ := VBucketStreamRequest.resolve_eq_rollback hrollback
    exact resolveRolledBack_frozen (hlt.le.trans hle)
  · rfl

end

/-- An opened partition has the request's vBucket and end, and starts no later. -/
structure PartitionOpenState.Answers (state : PartitionOpenState) (request : VBucketStreamRequest) :
    Prop where
  vbucket : state.vbucket = request.checkpoint.vbucket
  effective : state.effectiveCheckpoint.seqno = state.startSeqno
  start : state.startSeqno ≤ request.checkpoint.seqno
  endSeqno : state.endSeqno = request.endSeqno

theorem VBucketStreamRequest.openState_answers {self : VBucketStreamRequest}
    (h : self.openState opaqueId entries = .ok state) : state.Answers self := by
  rw [openState] at h
  split at h
  · cases h
  · cases h
    exact ⟨rfl, rfl, le_refl _, rfl⟩

theorem VBucketStreamRequest.rollBack_eq_ok {self : VBucketStreamRequest}
    {log : Result (List FailoverEntry)}
    (h : self.rollBack policy handler rollback log = .ok (request, applied)) :
    request.checkpoint.vbucket = self.checkpoint.vbucket ∧
      request.checkpoint.seqno < self.checkpoint.seqno ∧ request.endSeqno = self.endSeqno := by
  simp only [rollBack] at h
  split at h
  · cases h
  rename_i hlt
  simp only [bind_eq_ok] at h
  obtain ⟨log, -, action, -, h⟩ := h
  cases action with
  | stopAndReport => cases h
  | rewindAndReplay =>
    simp only [bind_eq_ok, rewind] at h
    obtain ⟨rewound, ⟨branch, -, -, -, hrewound⟩, h⟩ := h
    cases hrewound
    cases h
    exact ⟨rfl, Nat.not_le.1 hlt, rfl⟩

theorem openLoop_answers {left : Nat} {request : VBucketStreamRequest}
    (h : openLoop policy handler left request rollbacks replies = .ok (state, applied)) :
    state.Answers request := by
  induction replies generalizing left request rollbacks with
  | nil =>
    simp only [openLoop] at h
    cases h
  | cons reply replies ih =>
    obtain ⟨opaqueId, reply⟩ := reply
    cases reply with
    | failed error =>
      simp only [openLoop] at h
      cases h
    | opened entries =>
      simp only [openLoop] at h
      obtain ⟨opened, hopened, heq⟩ := Result.map_eq_ok h
      cases heq
      exact VBucketStreamRequest.openState_answers hopened
    | rollback rollbackSeqno log =>
      cases left with
      | zero =>
        simp only [openLoop] at h
        cases h
      | succ left =>
        simp only [openLoop] at h
        split at h
        · cases h
        · rename_i rewound applied hrollback
          obtain ⟨hv, hseqno, hend⟩ := VBucketStreamRequest.rollBack_eq_ok hrollback
          obtain ⟨hvbucket, heffective, hstart, hendSeqno⟩ := ih h
          exact ⟨hvbucket.trans hv, heffective, hstart.trans hseqno.le, hendSeqno.trans hend⟩

theorem openPartitions_cases (h : openPartitions config answers report requests = .ok report')
    (v : UInt16) :
    (∃ request ∈ requests, request.checkpoint.vbucket = v ∧
      ∃ state, report'.partitions[v]? = some state ∧ state.Answers request) ∨
    ((∀ request ∈ requests, request.checkpoint.vbucket ≠ v) ∧
      report'.partitions[v]? = report.partitions[v]?) := by
  induction requests generalizing report with
  | nil =>
    cases h
    exact .inr ⟨by simp, rfl⟩
  | cons request requests ih =>
    simp only [openPartitions, bind_eq_ok] at h
    obtain ⟨⟨state, applied⟩, hopen, h⟩ := h
    have hanswers : state.Answers request := openLoop_answers hopen
    rcases ih h with ⟨other, hother, hv, hstate⟩ | ⟨hnone, hsame⟩
    · exact .inl ⟨other, List.mem_cons_of_mem _ hother, hv, hstate⟩
    · simp only [Std.ExtTreeMap.getElem?_insert, Std.compare_eq_iff_eq] at hsame
      by_cases hv : state.vbucket = v
      · rw [if_pos hv] at hsame
        exact .inl ⟨request, List.mem_cons_self, hanswers.vbucket.symm.trans hv, state, hsame,
          hanswers⟩
      · rw [if_neg hv] at hsame
        exact .inr ⟨List.forall_mem_cons.2 ⟨fun heq => hv (hanswers.vbucket.trans heq), hnone⟩,
          hsame⟩

structure PartitionOpenState.Fits (request : OpenGenerationRequest) (v : UInt16)
    (state : PartitionOpenState) : Prop where
  vbucket : state.vbucket = v
  effective : state.effectiveCheckpoint.seqno = state.startSeqno
  start : ∀ c, request.starts[v]? = some (.checkpoint c) → state.startSeqno ≤ c.seqno
  frozen : ∀ ends, request.frozenEndSeqnos = some ends → ends[v]? = some state.endSeqno
  bounded : state.startSeqno ≤ state.endSeqno

structure VBucketStreamRequest.Fits (request : OpenGenerationRequest)
    (resolved : VBucketStreamRequest) : Prop where
  start : ∀ c, request.starts[resolved.checkpoint.vbucket]? = some (.checkpoint c) →
    resolved.checkpoint.seqno ≤ c.seqno
  frozen : ∀ ends, request.frozenEndSeqnos = some ends →
    ends[resolved.checkpoint.vbucket]? = some resolved.endSeqno

theorem OpenGenerationRequest.frozenEndSeqno_eq_ok {self : OpenGenerationRequest}
    (h : self.frozenEndSeqno v = .ok frozen) (ends : BTreeMap UInt16 Nat)
    (hends : self.frozenEndSeqnos = some ends) : ∃ e, frozen = some e ∧ ends[v]? = some e := by
  simp only [frozenEndSeqno, hends] at h
  split at h
  · rename_i e he
    cases h
    exact ⟨e, rfl, he⟩
  · cases h

theorem resolveNodeRequest_eq_ok {highSeqnos : BTreeMap UInt16 Nat}
    (h : resolveNodeRequest config request node answers selection highSeqnos v =
      .ok (resolved, count)) :
    resolved.checkpoint.vbucket = v ∧ resolved.Fits request := by
  simp only [resolveNodeRequest] at h
  split at h
  · cases h
  simp only [bind_eq_ok] at h
  obtain ⟨failoverLog, -, h⟩ := h
  split at h
  · cases h
  rename_i start hstart
  simp only [bind_eq_ok] at h
  obtain ⟨frozen, hfrozen, h⟩ := h
  obtain ⟨hv, hle, hend⟩ := resolveVbucketRequest_eq_ok h
  refine ⟨hv, ?_, ?_⟩
  · intro c hc
    rw [hv, hstart, Option.some.injEq] at hc
    exact hle c hc
  · intro ends hends
    obtain ⟨e, he, hget⟩ := OpenGenerationRequest.frozenEndSeqno_eq_ok hfrozen ends hends
    rw [hv, hget, hend e he]

theorem resolveNodeRequests_eq_ok {highSeqnos : BTreeMap UInt16 Nat} {rollbacks : Nat}
    (h : resolveNodeRequests config request node answers selection highSeqnos rollbacks vbuckets =
      .ok (requests, count)) :
    requests.map (fun resolved => resolved.checkpoint.vbucket) = vbuckets ∧
      ∀ resolved ∈ requests, resolved.Fits request := by
  induction vbuckets generalizing rollbacks requests with
  | nil =>
    cases h
    exact ⟨rfl, by simp⟩
  | cons v vbuckets ih =>
    simp only [resolveNodeRequests, bind_eq_ok] at h
    obtain ⟨⟨resolved, more⟩, hresolved, h⟩ := h
    split at h
    · cases h
    simp only [bind_eq_ok] at h
    obtain ⟨⟨rest, total⟩, hrest, h⟩ := h
    cases h
    obtain ⟨hv, hfits⟩ := resolveNodeRequest_eq_ok hresolved
    obtain ⟨hvs, hall⟩ := ih hrest
    refine ⟨?_, List.forall_mem_cons.2 ⟨hfits, hall⟩⟩
    rw [List.map_cons, hv, hvs]

theorem validateEachRequest_eq_ok (h : validateEachRequest seen requests = .ok ()) :
    ∀ request ∈ requests, request.checkpoint.seqno ≤ request.endSeqno := by
  induction requests generalizing seen with
  | nil => simp
  | cons request requests ih =>
    simp only [validateEachRequest, bind_eq_ok] at h
    obtain ⟨-, -, h⟩ := h
    split at h
    · cases h
    rename_i hle
    split at h
    · cases h
    exact List.forall_mem_cons.2 ⟨Nat.not_lt.1 hle, ih h⟩

structure NodeStream.Opened (request : OpenGenerationRequest) (vbuckets : List UInt16)
    (stream : NodeStream) : Prop where
  fits : ∀ (v : UInt16) state, stream.report.partitions[v]? = some state → state.Fits request v
  covers : ∀ v : UInt16, (∃ state, stream.report.partitions[v]? = some state) ↔ v ∈ vbuckets
  spawned : ∃ connection credit streamEndOnClose, stream.worker =
    Worker.spawn connection stream.report.partitions credit streamEndOnClose
  taken : stream.taken = 0

theorem openDcpStream_opened {requests : List VBucketStreamRequest}
    (h : openDcpStream config answers requests = .ok stream)
    (hfits : ∀ resolved ∈ requests, resolved.Fits request) :
    stream.Opened request (requests.map fun resolved => resolved.checkpoint.vbucket) := by
  simp only [openDcpStream, bind_eq_ok] at h
  obtain ⟨-, -, _, hvalid, -, -, -, -, report, hreport, h⟩ := h
  cases h
  have hbounded : ∀ resolved ∈ requests, resolved.checkpoint.seqno ≤ resolved.endSeqno := by
    simp only [validateRequests] at hvalid
    split at hvalid
    · cases hvalid
    · exact validateEachRequest_eq_ok hvalid
  have hcases := openPartitions_cases hreport
  refine ⟨?_, ?_, ⟨_, _, _, rfl⟩, rfl⟩
  · intro v state hstate
    rcases hcases v with ⟨resolved, hmem, rfl, opened, hopened, hanswers⟩ | ⟨-, hnone⟩
    · cases hopened.symm.trans hstate
      obtain ⟨hstart, hfrozen⟩ := hfits resolved hmem
      refine ⟨hanswers.vbucket, hanswers.effective, ?_, ?_, ?_⟩
      · intro c hc
        exact hanswers.start.trans (hstart c hc)
      · intro ends hends
        rw [hanswers.endSeqno]
        exact hfrozen ends hends
      · rw [hanswers.endSeqno]
        exact hanswers.start.trans (hbounded resolved hmem)
    · rw [hnone] at hstate
      simp at hstate
  · intro v
    rw [List.mem_map]
    rcases hcases v with ⟨resolved, hmem, hv, opened, hopened, -⟩ | ⟨hother, hnone⟩
    · exact ⟨fun _ => ⟨resolved, hmem, hv⟩, fun _ => ⟨opened, hopened⟩⟩
    · constructor
      · rintro ⟨state, hstate⟩
        rw [hnone] at hstate
        simp at hstate
      · rintro ⟨resolved, hmem, hv⟩
        exact absurd hv (hother resolved hmem)

theorem openTokioNode_opened
    (h : openTokioNode config request node vbuckets existing answers =
      .ok (stream, selection, rollbacks)) : stream.Opened request vbuckets := by
  simp only [openTokioNode] at h
  split at h
  · cases h
  simp only [bind_eq_ok] at h
  obtain ⟨-, -, selection, -, highSeqnos, -, ⟨requests, count⟩, hrequests, stream, hstream, h⟩ := h
  cases h
  obtain ⟨hvs, hfits⟩ := resolveNodeRequests_eq_ok hrequests
  rw [← hvs]
  exact openDcpStream_opened hstream hfits

theorem Opening.insertPartitions_eq_ok {entries : List (UInt16 × PartitionOpenState)}
    (h : Opening.insertPartitions opening entries = .ok after) :
    after.streams = opening.streams ∧
    (∀ entry ∈ entries, opening.effectiveCheckpoints[entry.1]? = none ∧
      after.effectiveCheckpoints[entry.1]? = some entry.2.effectiveCheckpoint ∧
      after.endSeqnos[entry.1]? = some entry.2.endSeqno) ∧
    ∀ v : UInt16, (∀ entry ∈ entries, entry.1 ≠ v) →
      after.effectiveCheckpoints[v]? = opening.effectiveCheckpoints[v]? ∧
      after.endSeqnos[v]? = opening.endSeqnos[v]? := by
  induction entries generalizing opening with
  | nil =>
    cases h
    exact ⟨rfl, by simp, fun _ _ => ⟨rfl, rfl⟩⟩
  | cons entry entries ih =>
    obtain ⟨u, state⟩ := entry
    simp only [insertPartitions] at h
    split at h
    · cases h
    rename_i hnew
    obtain ⟨hstreams, hin, hout⟩ := ih h
    simp only [Std.ExtTreeMap.getElem?_insert, Std.compare_eq_iff_eq] at hin hout
    -- The check for duplicates sees the vBucket just inserted.
    have hapart : ∀ entry ∈ entries, entry.1 ≠ u := by
      intro entry hentry heq
      have hnone := (hin entry hentry).1
      rw [if_pos heq.symm] at hnone
      cases hnone
    refine ⟨hstreams, List.forall_mem_cons.2 ⟨?_, ?_⟩, ?_⟩
    · obtain ⟨heffective, hends⟩ := hout u hapart
      rw [if_pos rfl] at heffective hends
      refine ⟨?_, heffective, hends⟩
      rw [not_or] at hnew
      simpa using hnew.1
    · intro entry hentry
      obtain ⟨hnone, hafter⟩ := hin entry hentry
      rw [if_neg (hapart entry hentry).symm] at hnone
      exact ⟨hnone, hafter⟩
    · intro v hv
      obtain ⟨hu, hv⟩ := List.forall_mem_cons.1 hv
      have hafter := hout v hv
      rw [if_neg hu, if_neg hu] at hafter
      exact hafter

/-- The streams opened so far, for the vBuckets in `done`. -/
structure Opening.Covers (request : OpenGenerationRequest) (done : List UInt16)
    (opening : Opening) :
    Prop where
  fits : ∀ stream ∈ opening.streams, ∀ (v : UInt16) state,
    stream.report.partitions[v]? = some state → state.Fits request v ∧
      opening.effectiveCheckpoints[v]? = some state.effectiveCheckpoint ∧
      opening.endSeqnos[v]? = some state.endSeqno
  spawned : ∀ stream ∈ opening.streams, (∃ connection credit streamEndOnClose, stream.worker =
    Worker.spawn connection stream.report.partitions credit streamEndOnClose) ∧ stream.taken = 0
  opened : ∀ v : UInt16, v ∈ done → ∃ stream ∈ opening.streams, ∃ state,
    stream.report.partitions[v]? = some state
  absent : ∀ v : UInt16, v ∉ done →
    opening.effectiveCheckpoints[v]? = none ∧ opening.endSeqnos[v]? = none
  apart : opening.streams.Pairwise fun a b => ∀ v : UInt16,
    a.report.partitions[v]? = none ∨ b.report.partitions[v]? = none

theorem Opening.covers_empty (request : OpenGenerationRequest) :
    Opening.empty.Covers request [] where
  fits := by simp [empty]
  spawned := by simp [empty]
  opened := by simp
  absent := by simp [empty]
  apart := .nil

theorem mem_toList_partitions {stream : NodeStream} {v : UInt16} :
    (∃ entry ∈ stream.report.partitions.toList, entry.1 = v) ↔
      ∃ state, stream.report.partitions[v]? = some state := by
  constructor
  · rintro ⟨⟨u, state⟩, hentry, rfl⟩
    exact ⟨state, Std.ExtTreeMap.mem_toList_iff_getElem?_eq_some.1 hentry⟩
  · rintro ⟨state, hstate⟩
    exact ⟨(v, state), Std.ExtTreeMap.mem_toList_iff_getElem?_eq_some.2 hstate, rfl⟩

theorem Opening.Covers.insert {opening before : Opening} (h : opening.Covers request done)
    (hstream : stream.Opened request vbuckets)
    (hinsert : before.insertPartitions stream.report.partitions.toList = .ok after)
    (hstreams : before.streams = opening.streams ++ [stream])
    (heffective : before.effectiveCheckpoints = opening.effectiveCheckpoints)
    (hends : before.endSeqnos = opening.endSeqnos) :
    after.Covers request (done ++ vbuckets) := by
  obtain ⟨hsame, hin, hout⟩ := insertPartitions_eq_ok hinsert
  rw [hstreams] at hsame
  rw [heffective] at hin
  rw [heffective, hends] at hout
  have hnew : ∀ (v : UInt16) state, stream.report.partitions[v]? = some state →
      opening.effectiveCheckpoints[v]? = none ∧
      after.effectiveCheckpoints[v]? = some state.effectiveCheckpoint ∧
      after.endSeqnos[v]? = some state.endSeqno := by
    intro v state hstate
    exact hin (v, state) (Std.ExtTreeMap.mem_toList_iff_getElem?_eq_some.2 hstate)
  have hold : ∀ v : UInt16, stream.report.partitions[v]? = none →
      after.effectiveCheckpoints[v]? = opening.effectiveCheckpoints[v]? ∧
      after.endSeqnos[v]? = opening.endSeqnos[v]? := by
    intro v hnone
    apply hout v
    intro entry hentry heq
    obtain ⟨state, hstate⟩ := mem_toList_partitions.1 ⟨entry, hentry, heq⟩
    rw [hnone] at hstate
    cases hstate
  have hdisjoint : ∀ other ∈ opening.streams, ∀ (v : UInt16) state,
      other.report.partitions[v]? = some state → stream.report.partitions[v]? = none := by
    intro other hother v state hstate
    cases hv : stream.report.partitions[v]? with
    | none => rfl
    | some opened =>
      have hnone := (hnew v opened hv).1
      rw [(h.fits other hother v state hstate).2.1] at hnone
      cases hnone
  refine ⟨?_, ?_, ?_, ?_, ?_⟩
  · intro other hother v state hstate
    rw [hsame, List.mem_append, List.mem_singleton] at hother
    rcases hother with hother | rfl
    · obtain ⟨hfits, heff, hend⟩ := h.fits other hother v state hstate
      obtain ⟨heff', hend'⟩ := hold v (hdisjoint other hother v state hstate)
      exact ⟨hfits, heff'.trans heff, hend'.trans hend⟩
    · exact ⟨hstream.fits v state hstate, (hnew v state hstate).2⟩
  · intro other hother
    rw [hsame, List.mem_append, List.mem_singleton] at hother
    rcases hother with hother | rfl
    · exact h.spawned other hother
    · exact ⟨hstream.spawned, hstream.taken⟩
  · intro v hv
    rw [hsame]
    rcases List.mem_append.1 hv with hv | hv
    · obtain ⟨other, hother, hstate⟩ := h.opened v hv
      exact ⟨other, List.mem_append_left _ hother, hstate⟩
    · exact ⟨stream, List.mem_append_right _ List.mem_cons_self, (hstream.covers v).2 hv⟩
  · intro v hv
    rw [List.mem_append, not_or] at hv
    have hnone : stream.report.partitions[v]? = none := by
      rw [← Option.not_isSome_iff_eq_none, Option.isSome_iff_exists, hstream.covers v]
      exact hv.2
    obtain ⟨heff', hend'⟩ := hold v hnone
    obtain ⟨heff, hend⟩ := h.absent v hv.1
    exact ⟨heff'.trans heff, hend'.trans hend⟩
  · rw [hsame, List.pairwise_append]
    refine ⟨h.apart, List.pairwise_singleton _ _, ?_⟩
    intro other hother last hlast v
    obtain rfl := List.mem_singleton.1 hlast
    cases hv : other.report.partitions[v]? with
    | none => exact .inl rfl
    | some state => exact .inr (hdisjoint other hother v state hv)

theorem openNodes_covers (hs : opening.Covers request done)
    (h : openNodes config request answers opening groups = .ok after) :
    after.Covers request (done ++ groups.flatMap Prod.snd) ∧
      opening.streams.length + groups.length = after.streams.length := by
  induction groups generalizing opening done with
  | nil =>
    cases h
    rw [List.flatMap_nil, List.append_nil]
    exact ⟨hs, rfl⟩
  | cons group groups ih =>
    obtain ⟨node, vbuckets⟩ := group
    simp only [openNodes, bind_eq_ok] at h
    obtain ⟨⟨stream, selection, rollbacks⟩, hnode, h⟩ := h
    split at h
    · cases h
    simp only [bind_eq_ok] at h
    obtain ⟨next, hinsert, h⟩ := h
    have hcovers := hs.insert (openTokioNode_opened hnode) hinsert rfl rfl rfl
    have hstreams : next.streams = opening.streams ++ [stream] :=
      (Opening.insertPartitions_eq_ok hinsert).1
    obtain ⟨hafter, hlength⟩ := ih hcovers h
    rw [List.flatMap_cons, ← List.append_assoc]
    refine ⟨hafter, ?_⟩
    rw [← hlength, hstreams, List.length_append, List.length_singleton, List.length_cons]
    omega

theorem groupByNode_mem {v : UInt16} {grouped after : BTreeMap NodeId (List UInt16)}
    (h : groupByNode topology grouped vbuckets = .ok after) :
    (∃ (node : NodeId) (group : List UInt16), after[node]? = some group ∧ v ∈ group) ↔
      (∃ (node : NodeId) (group : List UInt16), grouped[node]? = some group ∧ v ∈ group) ∨
        v ∈ vbuckets := by
  induction vbuckets generalizing grouped with
  | nil =>
    cases h
    simp
  | cons u vbuckets ih =>
    simp only [groupByNode] at h
    split at h
    · cases h
    rename_i home _
    rw [ih h, List.mem_cons, ← or_assoc]
    refine or_congr_left ?_
    simp only [Std.ExtTreeMap.getElem?_insert, Std.compare_eq_iff_eq,
      Std.ExtTreeMap.getD_eq_getD_getElem?]
    constructor
    · rintro ⟨node, group, hgroup, hv⟩
      split at hgroup
      · cases hgroup
        rcases List.mem_append.1 hv with hv | hv
        · cases hhome : grouped[home]? with
          | none => simp [hhome] at hv
          | some old => exact .inl ⟨home, old, hhome, by simpa [hhome] using hv⟩
        · exact .inr (List.mem_singleton.1 hv)
      · exact .inl ⟨node, group, hgroup, hv⟩
    · rintro (⟨node, group, hgroup, hv⟩ | rfl)
      · by_cases hnode : home = node
        · subst hnode
          refine ⟨home, group ++ [u], ?_, List.mem_append_left _ hv⟩
          rw [if_pos rfl, hgroup]
          rfl
        · exact ⟨node, group, by rw [if_neg hnode, hgroup], hv⟩
      · exact ⟨home, _, if_pos rfl, List.mem_append_right _ List.mem_cons_self⟩

theorem ClusterTopology.activeVbucketsByNode_mem {self : ClusterTopology} {vbuckets : List UInt16}
    (h : self.activeVbucketsByNode vbuckets = .ok grouped) (v : UInt16) :
    v ∈ grouped.toList.flatMap Prod.snd ↔ v ∈ vbuckets := by
  obtain ⟨collected, hcollected, rfl⟩ := Result.map_eq_ok h
  have hmem := groupByNode_mem (v := v) hcollected
  simp only [Std.ExtTreeMap.getElem?_empty, reduceCtorEq, false_and, exists_false, false_or] at hmem
  rw [← hmem, List.mem_flatMap]
  constructor
  · rintro ⟨⟨node, group⟩, hentry, hv⟩
    have hget := Std.ExtTreeMap.mem_toList_iff_getElem?_eq_some.1 hentry
    simp only [Std.ExtTreeMap.getElem?_map, Option.map_eq_some_iff] at hget
    obtain ⟨raw, hraw, rfl⟩ := hget
    exact ⟨node, raw, hraw, by simpa using hv⟩
  · rintro ⟨node, raw, hraw, hv⟩
    refine ⟨(node, (raw.insertionSort (· ≤ ·)).dedup), ?_, by simpa using hv⟩
    rw [Std.ExtTreeMap.mem_toList_iff_getElem?_eq_some, Std.ExtTreeMap.getElem?_map, hraw]
    rfl

theorem openStreams_covers (h : openStreams config request answers = .ok opening) :
    opening.Covers request request.starts.keys ∧ opening.streams ≠ [] := by
  simp only [openStreams] at h
  split at h
  · cases h
  rename_i hempty
  simp only [bind_eq_ok] at h
  obtain ⟨grouped, hgrouped, hnodes⟩ := h
  have hmem := ClusterTopology.activeVbucketsByNode_mem hgrouped
  obtain ⟨hcovers, hlength⟩ := openNodes_covers (Opening.covers_empty request) hnodes
  rw [List.nil_append] at hcovers
  constructor
  · refine ⟨hcovers.fits, hcovers.spawned, ?_, ?_, hcovers.apart⟩
    · intro v hv
      exact hcovers.opened v ((hmem v).2 hv)
    · intro v hv
      exact hcovers.absent v (mt (hmem v).1 hv)
  · intro hnil
    rw [hnil, Opening.empty, List.length_nil, Nat.zero_add, List.length_eq_zero_iff] at hlength
    apply hempty
    rw [Std.ExtTreeMap.isEmpty_iff, ← Std.ExtTreeMap.keys_eq_nil_iff,
      List.eq_nil_iff_forall_not_mem]
    intro v hv
    rw [← hmem v, hlength] at hv
    cases hv

theorem openTokioGeneration_covers
    (h : openTokioGeneration config request answers = .ok opened) :
    ∃ opening : Opening, opening.Covers request request.starts.keys ∧
      opened.streams = opening.streams ∧
      opened.effectiveCheckpoints = opening.effectiveCheckpoints ∧
      opened.endSeqnos = opening.endSeqnos := by
  simp only [openTokioGeneration, bind_eq_ok] at h
  obtain ⟨opening, hopening, h⟩ := h
  split at h
  · cases h
  simp only [bind_eq_ok] at h
  obtain ⟨-, -, mitigation, -, h⟩ := h
  cases h
  exact ⟨opening, (openStreams_covers hopening).1, rfl, rfl, rfl⟩

end RustDcp
