import RustDcp.WireRequest

namespace RustDcp
set_option autoImplicit true

section

variable (policy : RollbackPolicy) (handler : Option RollbackHandler)

/-- The loop of `open_partition` with the requests that it sends. A request whose frame cannot be
built is not sent. -/
def openSends (left : Nat) (request : VBucketStreamRequest) (rollbacks : List RollbackApplied)
    (replies : List (UInt32 × OpenReply)) :
    List VBucketStreamRequest × Result (PartitionOpenState × List RollbackApplied) :=
  match Protocol.streamRequest request.wireRequest, left, replies with
  | .error error, _, _ => ([], .error (.protocol error))
  | .ok _, _, [] => ([request], .error (.timeout 0))
  | .ok _, _, (_, .failed error) :: _ => ([request], .error error)
  | .ok _, _, (opaqueId, .opened entries) :: _ =>
    ([request], (request.openState opaqueId entries).map fun state => (state, rollbacks))
  | .ok _, 0, (_, .rollback _ _) :: _ =>
    ([request], .error (.stream request.checkpoint.vbucket
      s!"producer exceeded {maxRollbackAttempts} consecutive rollback responses"))
  | .ok _, left + 1, (_, .rollback rollbackSeqno failoverLog) :: replies =>
    match request.rollBack policy handler rollbackSeqno failoverLog with
    | .error error => ([request], .error error)
    | .ok (next, rollback) =>
      let rest := openSends left next (rollbacks ++ [rollback]) replies
      (request :: rest.1, rest.2)

/-- The wire request that follows a rollback: it lies further back, on the first failover branch
that covers the target, and the policy or the handler asked for it. -/
structure Resent (request : VBucketStreamRequest) (rollbackSeqno : Nat)
    (failoverLog : List FailoverEntry) (next : Protocol.StreamRequest) : Prop where
  lowers : rollbackSeqno < request.checkpoint.seqno
  chosen : rollbackAction policy handler
    { vbucket := request.checkpoint.vbucket, checkpoint := request.checkpoint, rollbackSeqno,
      failoverLog } = .ok .rewindAndReplay
  wire : ∃ branch, failoverLog.find? (fun entry => entry.seqno ≤ rollbackSeqno) = some branch ∧
    next = { request.wireRequest with
      vbucketUuid := branch.vbucketUuid
      startSeqno := rollbackSeqno
      snapshotStart := rollbackSeqno
      snapshotEnd := rollbackSeqno
      filter := request.filter.map fun filter => { filter with manifestUid := none } }

/-- One way through the loop: the frame is not built, the partition is opened, the loop gives up, or
it goes on after a rollback. -/
inductive Opens : Nat → VBucketStreamRequest → List RollbackApplied → List (UInt32 × OpenReply) →
    List VBucketStreamRequest → Result (PartitionOpenState × List RollbackApplied) → Prop where
  | unsent (hframe : Protocol.streamRequest request.wireRequest = .error failed) :
      Opens left request rollbacks replies [] (.error error)
  | opened (hframe : Protocol.streamRequest request.wireRequest = .ok frame) :
      Opens left request rollbacks ((opaqueId, .opened entries) :: replies) [request]
        ((request.openState opaqueId entries).map fun state => (state, rollbacks))
  | stopped (hframe : Protocol.streamRequest request.wireRequest = .ok frame)
      (hopened : ∀ opaqueId entries, replies[0]? ≠ some (opaqueId, .opened entries))
      (hstop : ∀ opaqueId rollbackSeqno failoverLog rolled,
        replies[0]? = some (opaqueId, .rollback rollbackSeqno failoverLog) →
        request.rollBack policy handler rollbackSeqno failoverLog = .ok rolled → left = 0) :
      Opens left request rollbacks replies [request] (.error error)
  | again (hframe : Protocol.streamRequest request.wireRequest = .ok frame)
      (hroll : request.rollBack policy handler rollbackSeqno failoverLog = .ok (next, rollback))
      (hrest : Opens left next (rollbacks ++ [rollback]) replies sent result) :
      Opens (left + 1) request rollbacks
        ((opaqueId, .rollback rollbackSeqno failoverLog) :: replies)
        (request :: sent) result

theorem openSends_opens (left : Nat) (request : VBucketStreamRequest)
    (rollbacks : List RollbackApplied) (replies : List (UInt32 × OpenReply)) :
    Opens policy handler left request rollbacks replies
      (openSends policy handler left request rollbacks replies).1
      (openSends policy handler left request rollbacks replies).2 := by
  induction replies generalizing left request rollbacks with
  | nil =>
    cases hframe : Protocol.streamRequest request.wireRequest with
    | error error =>
      rw [openSends.eq_def, hframe]
      exact .unsent hframe
    | ok frame =>
      rw [openSends.eq_def, hframe]
      exact .stopped hframe (by simp) (by simp)
  | cons reply replies ih =>
    obtain ⟨opaqueId, reply⟩ := reply
    cases hframe : Protocol.streamRequest request.wireRequest with
    | error error =>
      rw [openSends.eq_def, hframe]
      exact .unsent hframe
    | ok frame =>
      cases reply with
      | failed error =>
        rw [openSends.eq_def, hframe]
        exact .stopped hframe (by simp) (by simp)
      | opened entries =>
        rw [openSends.eq_def, hframe]
        exact .opened hframe
      | rollback rollbackSeqno failoverLog =>
        cases left with
        | zero =>
          rw [openSends.eq_def, hframe]
          exact .stopped hframe (by simp) (by simp)
        | succ left =>
          rw [openSends.eq_def, hframe]
          simp only
          split
          next error hroll =>
            refine .stopped hframe (by simp) ?_
            intro _ _ _ rolled hreply hrolled
            cases hreply
            cases hroll.symm.trans hrolled
          next hroll => exact .again hframe hroll (ih _ _ _)

theorem openSends_result (left : Nat) (request : VBucketStreamRequest)
    (rollbacks : List RollbackApplied) (replies : List (UInt32 × OpenReply)) :
    (∃ error, (openSends policy handler left request rollbacks replies).2 =
      .error (.protocol error)) ∨
    (openSends policy handler left request rollbacks replies).2 =
      openLoop policy handler left request rollbacks replies := by
  induction replies generalizing left request rollbacks with
  | nil =>
    cases hframe : Protocol.streamRequest request.wireRequest with
    | error error => exact .inl ⟨error, by rw [openSends.eq_def, hframe]⟩
    | ok frame => exact .inr (by rw [openSends.eq_def, openLoop, hframe])
  | cons reply replies ih =>
    obtain ⟨opaqueId, reply⟩ := reply
    cases hframe : Protocol.streamRequest request.wireRequest with
    | error error => exact .inl ⟨error, by rw [openSends.eq_def, hframe]⟩
    | ok frame =>
      cases reply with
      | failed error => exact .inr (by rw [openSends.eq_def, openLoop, hframe])
      | opened entries => exact .inr (by rw [openSends.eq_def, openLoop, hframe])
      | rollback rollbackSeqno failoverLog =>
        cases left with
        | zero => exact .inr (by rw [openSends.eq_def, openLoop, hframe])
        | succ left =>
          rw [openSends.eq_def, openLoop, hframe]
          simp only
          cases request.rollBack policy handler rollbackSeqno failoverLog with
          | error error => exact .inr rfl
          | ok rolled => exact ih _ _ _

end

namespace VBucketStreamRequest

theorem rewind_covered {self : VBucketStreamRequest}
    (h : failoverLog.find? (fun entry => entry.seqno ≤ rollback) = some branch) :
    self.rewind rollback failoverLog = .ok (branch.vbucketUuid, { self with
      checkpoint := self.checkpoint.rewound rollback branch
      filter := self.filter.map fun filter => { filter with manifestUid := none } }) := by
  simp only [rewind, coveringBranch, h, bind_eq_ok]
  exact ⟨branch, rfl, (), DcpCheckpoint.rewound_validate _ _ _, rfl⟩

theorem rollBack_resent {self : VBucketStreamRequest} {log : Result (List FailoverEntry)}
    (h : self.rollBack policy handler rollbackSeqno log = .ok (next, rollback)) :
    ∃ failoverLog branch, log = .ok failoverLog ∧
      Resent policy handler self rollbackSeqno failoverLog next.wireRequest ∧
      next.checkpoint = self.checkpoint.rewound rollbackSeqno branch ∧
      rollback = ⟨self.checkpoint.vbucket, self.checkpoint.seqno, rollbackSeqno,
        branch.vbucketUuid⟩ := by
  simp only [rollBack] at h
  split at h
  · cases h
  rename_i hlt
  simp only [bind_eq_ok] at h
  obtain ⟨failoverLog, rfl, action, haction, h⟩ := h
  cases action with
  | stopAndReport => cases h
  | rewindAndReplay =>
    obtain ⟨⟨uuid, rewound⟩, hrewind, h⟩ := bind_eq_ok.1 h
    cases h
    obtain ⟨branch, hbranch, rfl, rfl⟩ := rewind_eq_ok hrewind
    exact ⟨failoverLog, branch, rfl, ⟨Nat.not_le.1 hlt, haction, branch, hbranch, rfl⟩, rfl, rfl⟩

theorem rollBack_of_resent {self : VBucketStreamRequest}
    (h : Resent policy handler self rollbackSeqno failoverLog wire) :
    ∃ rolled, self.rollBack policy handler rollbackSeqno (.ok failoverLog) = .ok rolled := by
  obtain ⟨branch, hbranch, -⟩ := h.wire
  rw [rollBack, if_neg (Nat.not_le.2 h.lowers)]
  change ∃ rolled, (rollbackAction policy handler _ >>= _) = _
  rw [h.chosen]
  change ∃ rolled, (self.rewind rollbackSeqno failoverLog >>= _) = _
  rw [rewind_covered hbranch]
  exact ⟨_, rfl⟩

theorem openState_effective {self : VBucketStreamRequest}
    (h : self.openState opaqueId entries = .ok state) : ∃ uuid,
      state.effectiveCheckpoint = { self.checkpoint with vbucketUuid := uuid } ∧
      state.startSeqno = self.checkpoint.seqno := by
  rw [openState] at h
  split at h
  · cases h
  · cases h
    exact ⟨_, rfl, rfl⟩

end VBucketStreamRequest

theorem Resent.unique (h : Resent policy handler request rollbackSeqno failoverLog next)
    (h' : Resent policy handler request rollbackSeqno failoverLog next') : next = next' := by
  obtain ⟨branch, hbranch, rfl⟩ := h.wire
  obtain ⟨branch', hbranch', rfl⟩ := h'.wire
  cases hbranch.symm.trans hbranch'
  rfl

/-- The record of a rollback belongs to the reply at its place and to the requests around it. -/
structure Recorded (sent : List VBucketStreamRequest)
    (replies : List (UInt32 × OpenReply)) (i : Nat)
    (rollback : RollbackApplied) : Prop where
  requested : ∃ first, sent[i]? = some first ∧ rollback.requestedSeqno = first.checkpoint.seqno
  answered : ∃ opaqueId failoverLog,
    replies[i]? = some (opaqueId, .rollback rollback.rollbackSeqno (.ok failoverLog))
  lowers : rollback.rollbackSeqno < rollback.requestedSeqno
  applied : ∃ second, sent[i + 1]? = some second ∧
    second.checkpoint.vbucket = rollback.vbucket ∧
    second.checkpoint.vbucketUuid = rollback.vbucketUuid ∧
    second.checkpoint.seqno = rollback.rollbackSeqno ∧
    second.checkpoint.snapshotStart = rollback.rollbackSeqno ∧
    second.checkpoint.snapshotEnd = rollback.rollbackSeqno ∧
    second.checkpoint.manifestUid = none

namespace Recorded

variable {sent : List VBucketStreamRequest} {replies : List (UInt32 × OpenReply)}
  {rollbacks : List RollbackApplied}
  (hrecorded : ∀ (i : Nat) rollback, rollbacks[i]? = some rollback →
    Recorded sent replies i rollback)

include hrecorded

theorem chained (i : Nat) (first second : RollbackApplied) (hfirst : rollbacks[i]? = some first)
    (hsecond : rollbacks[i + 1]? = some second) : second.requestedSeqno = first.rollbackSeqno := by
  obtain ⟨next, hnext, -, -, htarget, -⟩ := (hrecorded i first hfirst).applied
  obtain ⟨next', hnext', hrequested⟩ := (hrecorded (i + 1) second hsecond).requested
  cases hnext.symm.trans hnext'
  exact hrequested.trans htarget

theorem target (hlength : sent.length = rollbacks.length + 1) (hlast : sent.getLast? = some last) :
    (rollbacks = [] ∧ sent[0]? = some last) ∨ ∃ final, rollbacks.getLast? = some final ∧
      last.checkpoint.seqno = final.rollbackSeqno ∧
      last.checkpoint.snapshotStart = final.rollbackSeqno ∧
      last.checkpoint.snapshotEnd = final.rollbackSeqno := by
  rw [List.getLast?_eq_getElem?, hlength, Nat.add_sub_cancel] at hlast
  cases hcount : rollbacks.length with
  | zero =>
    rw [hcount] at hlast
    exact .inl ⟨List.length_eq_zero_iff.1 hcount, hlast⟩
  | succ count =>
    obtain ⟨final, hfinal⟩ : ∃ final, rollbacks[count]? = some final :=
      ⟨_, List.getElem?_eq_getElem (by omega)⟩
    obtain ⟨next, hnext, -, -, hseqno, hsnapshotStart, hsnapshotEnd, -⟩ :=
      (hrecorded count final hfinal).applied
    rw [hcount, hnext] at hlast
    cases hlast
    refine .inr ⟨final, ?_, hseqno, hsnapshotStart, hsnapshotEnd⟩
    rw [List.getLast?_eq_getElem?, hcount, Nat.add_sub_cancel, hfinal]

end Recorded

namespace Opens

theorem length_le (h : Opens policy handler left request rollbacks replies sent result) :
    sent.length ≤ left + 1 := by
  induction h with
  | unsent => exact Nat.zero_le _
  | opened => exact Nat.succ_le_succ (Nat.zero_le _)
  | stopped => exact Nat.succ_le_succ (Nat.zero_le _)
  | again hframe hroll hrest ih => exact Nat.succ_le_succ ih

theorem head (h : Opens policy handler left request rollbacks replies sent result) :
    ∀ first ∈ sent.head?, first = request := by
  cases h <;> simp

theorem nil_iff (h : Opens policy handler left request rollbacks replies sent result) :
    sent = [] ↔ ∃ error, Protocol.streamRequest request.wireRequest = .error error := by
  cases h with
  | unsent hframe => simp [hframe]
  | opened hframe => simp [hframe]
  | stopped hframe => simp [hframe]
  | again hframe => simp [hframe]

theorem getElem?_zero (h : Opens policy handler left request rollbacks replies sent result) :
    sent[0]? = some first ↔ first = request ∧
      ∃ frame, Protocol.streamRequest request.wireRequest = .ok frame := by
  have hnil := h.nil_iff
  cases sent with
  | nil =>
    obtain ⟨error, herror⟩ := hnil.1 rfl
    simp [herror]
  | cons sentFirst sent =>
    obtain rfl := h.head sentFirst rfl
    cases hframe : Protocol.streamRequest sentFirst.wireRequest with
    | error error => cases hnil.2 ⟨error, hframe⟩
    | ok frame => simp [eq_comm]

theorem first_sent (h : Opens policy handler left request rollbacks replies sent result)
    (hlength : 0 < sent.length) : sent[0]? = some request := by
  rw [← List.head?_eq_getElem?, List.head?_eq_some_head (List.ne_nil_of_length_pos hlength)]
  exact congrArg some (h.head _ (List.head?_eq_some_head _))

theorem next_iff (h : Opens policy handler left request rollbacks replies sent result) (i : Nat)
    (hfirst : sent[i]? = some first) :
    (∃ second, sent[i + 1]? = some second ∧ second.wireRequest = wire) ↔
      i < left ∧ (∃ frame, Protocol.streamRequest wire = .ok frame) ∧
      ∃ opaqueId rollbackSeqno failoverLog,
        replies[i]? = some (opaqueId, .rollback rollbackSeqno (.ok failoverLog)) ∧
        Resent policy handler first rollbackSeqno failoverLog wire := by
  induction h generalizing i with
  | unsent => simp at hfirst
  | opened hframe =>
    cases i with
    | zero => simp
    | succ i => simp at hfirst
  | stopped hframe hopened hstop =>
    cases i with
    | zero =>
      cases hfirst
      refine iff_of_false (by simp) ?_
      rintro ⟨hleft, -, opaqueId, rollbackSeqno, failoverLog, hreply, hresent⟩
      obtain ⟨rolled, hroll⟩ := VBucketStreamRequest.rollBack_of_resent hresent
      exact Nat.ne_of_gt hleft (hstop _ _ _ _ hreply hroll)
    | succ i => simp at hfirst
  | again hframe hroll hrest ih =>
    cases i with
    | zero =>
      cases hfirst
      obtain ⟨failoverLog, -, rfl, hresent, -⟩ := VBucketStreamRequest.rollBack_resent hroll
      simp only [List.getElem?_cons_succ, hrest.getElem?_zero]
      constructor
      · rintro ⟨second, ⟨rfl, hframe⟩, rfl⟩
        exact ⟨Nat.zero_lt_succ _, hframe, _, _, _, rfl, hresent⟩
      · rintro ⟨-, hframe, opaqueId, rollbackSeqno, log, hreply, hresent'⟩
        cases hreply
        cases hresent.unique hresent'
        exact ⟨_, ⟨rfl, hframe⟩, rfl⟩
    | succ i =>
      simp only [List.getElem?_cons_succ, Nat.succ_lt_succ_iff]
      exact ih i hfirst

/-- An opening that succeeds: the last request was opened, and every rollback before is recorded. -/
theorem recorded (h : Opens policy handler left request rollbacks replies sent result)
    (hresult : result = .ok (state, applied)) :
    ∃ new last opaqueId entries, applied = rollbacks ++ new ∧ sent.length = new.length + 1 ∧
      sent.getLast? = some last ∧ replies[new.length]? = some (opaqueId, .opened entries) ∧
      last.openState opaqueId entries = .ok state ∧
      ∀ i rollback, new[i]? = some rollback → Recorded sent replies i rollback := by
  induction h with
  | unsent => cases hresult
  | stopped => cases hresult
  | opened hframe =>
    obtain ⟨opened, hopened, heq⟩ := Result.map_eq_ok hresult
    cases heq
    exact ⟨[], _, _, _, (List.append_nil _).symm, rfl, rfl, rfl, hopened, by simp⟩
  | again hframe hroll hrest ih =>
    obtain ⟨new, last, opaqueId, entries, rfl, hlength, hlast, hreply, hstate, hnew⟩ := ih hresult
    obtain ⟨failoverLog, branch, rfl, hresent, hnext, rfl⟩ :=
      VBucketStreamRequest.rollBack_resent hroll
    have hsecond := hrest.first_sent (by omega)
    refine ⟨_, last, opaqueId, entries, List.append_assoc _ _ _, congrArg (· + 1) hlength, ?_,
      hreply, hstate, ?_⟩
    · rw [List.getLast?_cons, hlast]
      rfl
    · intro i rollback hrollback
      cases i with
      | zero =>
        cases hrollback
        refine ⟨⟨_, rfl, rfl⟩, ⟨_, _, rfl⟩, hresent.lowers, _, hsecond, ?_⟩
        rw [hnext]
        exact ⟨rfl, rfl, rfl, rfl, rfl, rfl⟩
      | succ i =>
        obtain ⟨hrequested, hanswered, hlowers, happlied⟩ := hnew i rollback hrollback
        exact ⟨hrequested, hanswered, hlowers, happlied⟩

theorem succeeds (h : Opens policy handler left request rollbacks replies sent result)
    (hlength : sent.length = n + 1)
    (hreply : replies[n]? = some (opaqueId, .opened (newest :: entries))) :
    ∃ opened, result = .ok opened := by
  induction h generalizing n with
  | unsent => cases hlength
  | opened hframe =>
    cases hlength
    cases hreply
    exact ⟨_, rfl⟩
  | stopped hframe hopened =>
    cases hlength
    exact absurd hreply (hopened _ _)
  | again hframe hroll hrest ih =>
    cases n with
    | zero => cases hreply
    | succ n => exact ih (Nat.succ.inj hlength) hreply

end Opens

/-- `open_partition` with the requests that it sends. -/
def openPartitionSends (policy : RollbackPolicy) (handler : Option RollbackHandler)
    (request : VBucketStreamRequest) (replies : List (UInt32 × OpenReply)) :
    List VBucketStreamRequest × Result (PartitionOpenState × List RollbackApplied) :=
  openSends policy handler maxRollbackAttempts request [] replies

/-- Opening a partition follows at most sixteen rollbacks, each further back than the one before. -/
theorem openPartitionSends_rollbacks
    (h : openPartitionSends policy handler request replies = (sends, result)) :
    sends.length ≤ 17 ∧
    (∀ first ∈ sends.head?, first = request) ∧
    (sends = [] ↔ ∃ error, Protocol.streamRequest request.wireRequest = .error error) ∧
    (∀ (i : Nat) first wire, sends[i]? = some first →
      ((∃ second, sends[i + 1]? = some second ∧ second.wireRequest = wire) ↔
        i < 16 ∧ (∃ frame, Protocol.streamRequest wire = .ok frame) ∧
        ∃ opaqueId rollbackSeqno failoverLog,
          replies[i]? = some (opaqueId, .rollback rollbackSeqno (.ok failoverLog)) ∧
          Resent policy handler first rollbackSeqno failoverLog wire)) ∧
    (∀ state rollbacks, result = .ok (state, rollbacks) →
      sends.length = rollbacks.length + 1 ∧
      (∃ last opaqueId entries, sends.getLast? = some last ∧
        replies[rollbacks.length]? = some (opaqueId, .opened entries) ∧
        last.openState opaqueId entries = .ok state) ∧
      (∀ (i : Nat) rollback, rollbacks[i]? = some rollback →
        Recorded sends replies i rollback) ∧
      (∀ first ∈ rollbacks.head?, first.requestedSeqno = request.checkpoint.seqno) ∧
      (∀ (i : Nat) first second, rollbacks[i]? = some first → rollbacks[i + 1]? = some second →
        second.requestedSeqno = first.rollbackSeqno) ∧
      state.startSeqno = state.effectiveCheckpoint.seqno ∧
      ((rollbacks = [] ∧ state.effectiveCheckpoint.seqno = request.checkpoint.seqno ∧
          state.effectiveCheckpoint.snapshotStart = request.checkpoint.snapshotStart ∧
          state.effectiveCheckpoint.snapshotEnd = request.checkpoint.snapshotEnd) ∨
        ∃ last, rollbacks.getLast? = some last ∧
          state.effectiveCheckpoint.seqno = last.rollbackSeqno ∧
          state.effectiveCheckpoint.snapshotStart = last.rollbackSeqno ∧
          state.effectiveCheckpoint.snapshotEnd = last.rollbackSeqno)) ∧
    (∀ n opaqueId newest entries, sends.length = n + 1 →
      replies[n]? = some (opaqueId, .opened (newest :: entries)) →
      ∃ state rollbacks, result = .ok (state, rollbacks)) ∧
    ((∃ error, result = .error (.protocol error)) ∨
      result = openPartition policy handler request replies) := by
  have hopens : Opens policy handler maxRollbackAttempts request [] replies sends result := by
    have hrun := openSends_opens policy handler maxRollbackAttempts request [] replies
    rwa [← openPartitionSends, h] at hrun
  have hbridge := openSends_result policy handler maxRollbackAttempts request [] replies
  rw [← openPartitionSends, h] at hbridge
  refine ⟨hopens.length_le, hopens.head, hopens.nil_iff, fun i first wire => hopens.next_iff i, ?_,
    ?_, hbridge⟩
  · rintro state rollbacks rfl
    obtain ⟨_, last, opaqueId, entries, rfl, hlength, hlast, hreply, hstate, hrecorded⟩ :=
      hopens.recorded rfl
    obtain ⟨current, heffective, hstart⟩ := VBucketStreamRequest.openState_effective hstate
    have hfirst := hopens.first_sent (by omega)
    refine ⟨hlength, ⟨last, opaqueId, entries, hlast, hreply, hstate⟩, hrecorded, ?_,
      Recorded.chained hrecorded, by rw [hstart, heffective], ?_⟩
    · intro first hhead
      rw [List.head?_eq_getElem?] at hhead
      obtain ⟨sent, hsent, hrequested⟩ := (hrecorded 0 first hhead).requested
      cases hfirst.symm.trans hsent
      exact hrequested
    · rw [heffective]
      rcases Recorded.target hrecorded hlength hlast with ⟨hnil, hsame⟩ | htarget
      · cases hfirst.symm.trans hsame
        exact .inl ⟨hnil, rfl, rfl, rfl⟩
      · exact .inr htarget
  · intro n opaqueId newest entries hlength hreply
    obtain ⟨⟨state, rollbacks⟩, hok⟩ := hopens.succeeds hlength hreply
    exact ⟨state, rollbacks, hok⟩

def sampleOpening :
    List VBucketStreamRequest × Result (PartitionOpenState × List RollbackApplied) :=
  openPartitionSends .rewindAndReplay none ⟨⟨some "b", 0, 7, 9, 9, 9, some 3⟩, 20, 16, none⟩
    [(1, .rollback 4 (.ok [⟨8, 6⟩, ⟨7, 0⟩])), (2, .opened [⟨7, 0⟩])]

theorem openPartitionSends_rollbacks_applied : ∃ state rollback,
    sampleOpening.2 = .ok (state, [rollback]) ∧ sampleOpening.1.length = 2 ∧
    rollback.requestedSeqno = 9 ∧ rollback.rollbackSeqno = 4 ∧
    state.effectiveCheckpoint.seqno = 4 := by
  have hlength : sampleOpening.1.length = 2 := by decide +kernel
  obtain ⟨-, -, -, -, hsuccess, hopened, -⟩ := openPartitionSends_rollbacks
    (show sampleOpening = (sampleOpening.1, sampleOpening.2) from rfl)
  obtain ⟨state, rollbacks, hok⟩ := hopened 1 _ _ _ hlength rfl
  obtain ⟨hcount, -, hrecorded, hhead, -, -, hlast⟩ := hsuccess state rollbacks hok
  obtain ⟨rollback, rfl⟩ := List.length_eq_one_iff.1 (Nat.succ.inj (hcount.symm.trans hlength))
  obtain ⟨opaqueId, failoverLog, hreply⟩ := (hrecorded 0 rollback rfl).answered
  have htarget : 4 = rollback.rollbackSeqno := by
    injection hreply with hreply
    injection hreply with _ hreply
    injection hreply
  obtain ⟨hnil, -⟩ | ⟨last, hfinal, hseqno, -⟩ := hlast
  · cases hnil
  · cases hfinal
    exact ⟨state, rollback, hok, hlength, hhead rollback rfl, htarget.symm,
      hseqno.trans htarget.symm⟩

/-- What `resolve` writes into an explicit checkpoint. -/
def DcpCheckpoint.identified (self : DcpCheckpoint) (bucketUuid : String)
    (newest : FailoverEntry) : DcpCheckpoint :=
  { self with
    bucketUuid := self.bucketUuid.or (some bucketUuid)
    vbucketUuid := if self.vbucketUuid = 0 then newest.vbucketUuid else self.vbucketUuid }

/-- The checkpoint passes the checks that `resolve` makes before it looks at the high seqno. -/
structure DcpCheckpoint.Fits (checkpoint : DcpCheckpoint) (v : UInt16) (bucketUuid : String) :
    Prop where
  vbucket : checkpoint.vbucket = v
  valid : checkpoint.validate = .ok ()
  bucket : ∀ observed ∈ checkpoint.bucketUuid, observed = bucketUuid

namespace VBucketStreamRequest

theorem resolve_fits {checkpoint : DcpCheckpoint} {filter : Option StreamFilter}
    (h : checkpoint.Fits v bucketUuid) :
    resolve v (some bucketUuid) (.checkpoint checkpoint) mode high (newest :: rest) filter =
      resolveChecked v (.checkpoint checkpoint) mode high (newest :: rest) filter
        (checkpoint.identified bucketUuid newest) := by
  obtain ⟨rfl, hvalid, hbucket⟩ := h
  simp only [resolve, List.head?_cons, StartPosition.toCheckpoint, hvalid, ne_eq,
    not_true_eq_false, ↓reduceIte]
  split
  · rename_i expected observed hexpected hobserved
    cases hexpected
    rw [if_neg (not_not.2 (hbucket observed hobserved).symm)]
    rfl
  · rfl

theorem resolve_eq_ok_fits {checkpoint : DcpCheckpoint} {filter : Option StreamFilter}
    (h : resolve v (some bucketUuid) (.checkpoint checkpoint) mode high failoverLog filter =
      .ok request) : checkpoint.Fits v bucketUuid := by
  simp only [resolve] at h
  split at h
  · cases h
  split at h
  · cases h
  rename_i hv
  split at h
  · cases h
  rename_i hvalid
  refine ⟨not_not.1 hv, hvalid, ?_⟩
  intro observed hobserved
  rw [Option.mem_def] at hobserved
  simp only [StartPosition.toCheckpoint, hobserved] at h
  split at h
  · cases h
  · rename_i heq
    exact (not_not.1 heq).symm

theorem resolveChecked_accepts {checkpoint : DcpCheckpoint} {filter : Option StreamFilter}
    (hle : checkpoint.seqno ≤ high) (hstream : filter.bind (·.streamId) ≠ some 0) :
    resolveChecked v start mode high failoverLog filter checkpoint = .ok
      { checkpoint
        endSeqno := match mode with
          | .finite => high
          | .infinite => u64Max
        flags := if start.isCheckpoint ∧ checkpoint.seqno = 0 then
          streamFlagActiveOnly ||| streamFlagStrictVbuuid else streamFlagActiveOnly
        filter := filter.map fun filter =>
          { filter with manifestUid := checkpoint.manifestUid } } := by
  have hfilter : ((filter.map fun filter : StreamFilter =>
      { filter with manifestUid := checkpoint.manifestUid }).bind StreamFilter.streamId) ≠
        some 0 := by
    rw [Option.bind_map]
    exact hstream
  cases mode with
  | finite =>
    simp only [resolveChecked]
    rw [if_neg (Nat.not_lt.2 hle), if_neg hfilter]
  | infinite =>
    simp only [resolveChecked]
    rw [if_neg (Nat.not_lt.2 hle), if_neg hfilter]

theorem resolveChecked_streamId {checkpoint : DcpCheckpoint} {filter : Option StreamFilter}
    (h : resolveChecked v start mode high failoverLog filter checkpoint = .ok request) :
    filter.bind (·.streamId) ≠ some 0 := by
  intro hstream
  have hfilter : ((filter.map fun filter : StreamFilter =>
      { filter with manifestUid := checkpoint.manifestUid }).bind StreamFilter.streamId) =
        some 0 := by
    rw [Option.bind_map]
    exact hstream
  simp only [resolveChecked] at h
  rw [if_pos hfilter] at h
  split at h
  · cases h
  · cases h

theorem resolveChecked_rejects {checkpoint : DcpCheckpoint} {filter : Option StreamFilter}
    (h : high < checkpoint.seqno) :
    resolveChecked v start mode high failoverLog filter checkpoint =
      .error (.rollbackRequired v checkpoint.seqno high failoverLog) := by
  simp only [resolveChecked]
  rw [if_pos h]

end VBucketStreamRequest

theorem DcpCheckpoint.Fits.rewound {checkpoint : DcpCheckpoint} {bucketUuid : String}
    (h : checkpoint.Fits v bucketUuid) (rollback : Nat) (newest branch : FailoverEntry) :
    ((checkpoint.identified bucketUuid newest).rewound rollback branch).Fits v bucketUuid := by
  refine ⟨h.vbucket, rewound_validate _ _ _, ?_⟩
  intro observed hobserved
  cases hbucket : checkpoint.bucketUuid with
  | none =>
    simp only [DcpCheckpoint.rewound, identified, hbucket, Option.none_or] at hobserved
    exact (Option.mem_some_iff.1 hobserved).symm
  | some given =>
    simp only [DcpCheckpoint.rewound, identified, hbucket, Option.some_or] at hobserved
    exact h.bucket observed (hbucket ▸ hobserved)

theorem resolveVbucketRequest_rolledBack {checkpoint : DcpCheckpoint}
    {filter : Option StreamFilter} (hfits : checkpoint.Fits v bucketUuid)
    (hlt : rollback < checkpoint.seqno) (hend : rollback ≤ e)
    (hstream : filter.bind (·.streamId) ≠ some 0)
    (hbranch : (newest :: rest).find? (fun entry => entry.seqno ≤ rollback) = some branch)
    (hchosen : rollbackAction policy handler
      { vbucket := v, checkpoint := checkpoint.identified bucketUuid newest,
        rollbackSeqno := rollback, failoverLog := newest :: rest } = .ok .rewindAndReplay) :
    resolveVbucketRequest v bucketUuid (.checkpoint checkpoint) mode rollback (newest :: rest)
        filter policy handler (some e) =
      .ok ({ checkpoint := ((checkpoint.identified bucketUuid newest).rewound rollback
              branch).identified bucketUuid newest
             endSeqno := e
             flags := if rollback = 0 then streamFlagActiveOnly ||| streamFlagStrictVbuuid
              else streamFlagActiveOnly
             filter := filter.map fun filter => { filter with manifestUid := none } }, 1) := by
  have hagain : VBucketStreamRequest.resolve v (some bucketUuid)
      (.checkpoint ((checkpoint.identified bucketUuid newest).rewound rollback branch)) mode
      rollback (newest :: rest) filter = _ :=
    (VBucketStreamRequest.resolve_fits (hfits.rewound rollback newest branch)).trans
      (VBucketStreamRequest.resolveChecked_accepts (le_refl _) hstream)
  have hfirst : VBucketStreamRequest.resolve v (some bucketUuid) (.checkpoint checkpoint) mode
      rollback (newest :: rest) filter = _ :=
    (VBucketStreamRequest.resolve_fits hfits).trans
      (VBucketStreamRequest.resolveChecked_rejects hlt)
  rw [resolveVbucketRequest, hfirst]
  simp only [resolveRolledBack, bind_eq_ok]
  refine ⟨.rewindAndReplay, hchosen, ?_⟩
  simp only [bind_eq_ok]
  refine ⟨branch, ?_, (), DcpCheckpoint.rewound_validate _ _ _, _, hagain, _,
    VBucketStreamRequest.applyFrozenEndSeqno_of_le hend, ?_⟩
  · rw [coveringBranch, hbranch]
  · simp only [StartPosition.isCheckpoint, true_and]
    rfl

theorem streamFlagActiveOnly_ne_strict :
    streamFlagActiveOnly ||| streamFlagStrictVbuuid ≠ streamFlagActiveOnly := by
  decide

/-- A checkpoint that the preflight check rolls back and one that is rewound while its partition is
opened ask for the same stream, unless they go back to 0 or to a branch without a UUID. -/
theorem rolledBack_eq_rewound_iff {checkpoint : DcpCheckpoint} {bucketUuid : String}
    {filter : Option StreamFilter} (hlt : rollback < checkpoint.seqno)
    (hbranch : (newest :: rest).find? (fun entry => entry.seqno ≤ rollback) = some branch)
    (hresolve : VBucketStreamRequest.resolve v (some bucketUuid) (.checkpoint checkpoint) mode high
      (newest :: rest) filter = .ok resolved)
    (hfreeze : resolved.withFrozenEndSeqno e = .ok frozen)
    (hchosen : rollbackAction policy handler
      { vbucket := v, checkpoint := checkpoint.identified bucketUuid newest,
        rollbackSeqno := rollback, failoverLog := newest :: rest } = .ok .rewindAndReplay) :
    ∃ preflight uuid rewound,
      resolveVbucketRequest v bucketUuid (.checkpoint checkpoint) mode rollback (newest :: rest)
        filter policy handler (some e) = .ok (preflight, 1) ∧
      frozen.rewind rollback (newest :: rest) = .ok (uuid, rewound) ∧
      (preflight.wireRequest = rewound.wireRequest ↔
        rollback ≠ 0 ∧ (branch.vbucketUuid ≠ 0 ∨ newest.vbucketUuid = 0)) := by
  have hfits := VBucketStreamRequest.resolve_eq_ok_fits hresolve
  rw [VBucketStreamRequest.resolve_fits hfits] at hresolve
  have hstream := VBucketStreamRequest.resolveChecked_streamId hresolve
  obtain ⟨-, hle⟩ := VBucketStreamRequest.resolveChecked_eq_ok hresolve
  rw [VBucketStreamRequest.resolveChecked_accepts hle hstream] at hresolve
  cases hresolve
  simp only [VBucketStreamRequest.withFrozenEndSeqno] at hfreeze
  split at hfreeze
  · cases hfreeze
  rename_i hend
  cases hfreeze
  have hend : rollback ≤ e := hlt.le.trans (Nat.not_lt.1 hend)
  refine ⟨_, _, _, resolveVbucketRequest_rolledBack hfits hlt hend hstream hbranch hchosen,
    VBucketStreamRequest.rewind_covered hbranch, ?_⟩
  have hseqno : ¬checkpoint.seqno = 0 := Nat.ne_of_gt (Nat.zero_lt_of_lt hlt)
  simp only [VBucketStreamRequest.wireRequest, DcpCheckpoint.rewound, DcpCheckpoint.identified,
    Protocol.StreamRequest.mk.injEq, Option.map_map, Function.comp_def, hseqno, and_false,
    ↓reduceIte, true_and, and_true]
  apply and_congr
  · by_cases hzero : rollback = 0
    · simp [hzero, streamFlagActiveOnly_ne_strict]
    · simp [hzero]
  · by_cases huuid : branch.vbucketUuid = 0
    · simp [huuid]
    · simp [huuid]

theorem rolledBack_eq_rewound_iff_sample : ∃ preflight uuid rewound,
    resolveVbucketRequest 0 "b" (.checkpoint ⟨some "b", 0, 7, 9, 9, 9, none⟩) .infinite 4 [⟨7, 0⟩]
      none .rewindAndReplay none (some 20) = .ok (preflight, 1) ∧
    VBucketStreamRequest.rewind ⟨⟨some "b", 0, 7, 9, 9, 9, none⟩, 20, 16, none⟩ 4 [⟨7, 0⟩] =
      .ok (uuid, rewound) ∧
    (preflight.wireRequest = rewound.wireRequest ↔ 4 ≠ 0 ∧ (7 ≠ 0 ∨ 7 = 0)) := by
  have hbranch : [FailoverEntry.mk 7 0].find? (fun entry => entry.seqno ≤ 4) = some ⟨7, 0⟩ := rfl
  have hresolve : VBucketStreamRequest.resolve 0 (some "b")
      (.checkpoint ⟨some "b", 0, 7, 9, 9, 9, none⟩) .infinite 15 [⟨7, 0⟩] none =
        .ok ⟨⟨some "b", 0, 7, 9, 9, 9, none⟩, u64Max, 16, none⟩ := rfl
  exact rolledBack_eq_rewound_iff (by decide) hbranch hresolve rfl rfl

/-- At 0 the preflight check asks for a strict UUID, the rewind does not. -/
theorem rolledBack_ne_rewound : ∃ preflight resolved frozen rewound,
    resolveVbucketRequest 0 "b" (.checkpoint ⟨some "b", 0, 7, 9, 9, 9, none⟩) .infinite 0 [⟨7, 0⟩]
      none .rewindAndReplay none (some 20) = .ok (preflight, 1) ∧
    VBucketStreamRequest.resolve 0 (some "b") (.checkpoint ⟨some "b", 0, 7, 9, 9, 9, none⟩)
      .infinite 15 [⟨7, 0⟩] none = .ok resolved ∧
    resolved.withFrozenEndSeqno 20 = .ok frozen ∧
    frozen.rewind 0 [⟨7, 0⟩] = .ok (7, rewound) ∧
    preflight.wireRequest.flags = 0x30 ∧ rewound.wireRequest.flags = 0x10 :=
  ⟨_, _, _, _, rfl, rfl, rfl, rfl, rfl, rfl⟩

end RustDcp
