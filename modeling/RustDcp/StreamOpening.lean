import RustDcp.NodePreparation
import RustDcp.OpenedStreams

namespace RustDcp
set_option autoImplicit true

open Dialogue KvLog

theorem VBucketStreamRequest.rollBack_rewind {self : VBucketStreamRequest}
    {log : Result (List FailoverEntry)}
    (h : self.rollBack policy handler rollbackSeqno log = .ok (next, rollback)) :
    rollbackSeqno < self.checkpoint.seqno ∧
      ∃ failoverLog uuid, self.rewind rollbackSeqno failoverLog = .ok (uuid, next) := by
  simp only [rollBack] at h
  split at h
  · cases h
  rename_i hlt
  simp only [bind_eq_ok] at h
  obtain ⟨failoverLog, -, action, -, h⟩ := h
  cases action with
  | stopAndReport => cases h
  | rewindAndReplay =>
    obtain ⟨⟨uuid, rewound⟩, hrewind, h⟩ := bind_eq_ok.1 h
    cases h
    exact ⟨Nat.not_le.1 hlt, failoverLog, uuid, hrewind⟩

theorem Protocol.streamRequest_frame (h : Protocol.streamRequest request = .ok frame) :
    frame.opcode = Opcode.dcpStreamRequest ∧ frame.vbucket = request.vbucket := by
  obtain ⟨-, -, h⟩ := bind_eq_ok.1 h
  split at h
  · cases h
    exact ⟨rfl, rfl⟩
  · obtain ⟨value, -, h⟩ := bind_eq_ok.1 h
    cases h
    exact ⟨rfl, rfl⟩

/-- The filter that was asked for, with some manifest UID and no stream ID of zero. -/
def VBucketStreamRequest.Filtered (filter : Option StreamFilter) (request : VBucketStreamRequest) :
    Prop :=
  (∃ manifestUid, request.filter = filter.map fun filter => { filter with manifestUid }) ∧
    request.streamId ≠ some 0

theorem VBucketStreamRequest.resolve_filtered {filter : Option StreamFilter}
    (h : resolve v bucketUuid start mode high failoverLog filter = .ok request) :
    request.Filtered filter := by
  have hchecked : ∀ {checkpoint}, resolveChecked v start mode high failoverLog filter checkpoint =
      .ok request → request.Filtered filter := by
    intro checkpoint hchecked
    simp only [resolveChecked] at hchecked
    split at hchecked
    · cases hchecked
    split at hchecked
    · cases hchecked
    · rename_i hstream
      cases hchecked
      exact ⟨⟨_, rfl⟩, hstream⟩
  simp only [resolve] at h
  split at h
  · cases h
  split at h
  · cases h
  split at h
  · cases h
  split at h
  · split at h
    · cases h
    · exact hchecked h
  · exact hchecked h

theorem VBucketStreamRequest.applyFrozenEndSeqno_filter {self : VBucketStreamRequest}
    (h : self.applyFrozenEndSeqno frozen = .ok request) : request.filter = self.filter := by
  cases frozen with
  | none =>
    cases h
    rfl
  | some endSeqno =>
    simp only [applyFrozenEndSeqno, withFrozenEndSeqno] at h
    split at h
    · cases h
    · cases h
      rfl

theorem VBucketStreamRequest.Filtered.congr {self next : VBucketStreamRequest}
    {asked : Option StreamFilter} (h : self.Filtered asked) (hsame : next.filter = self.filter) :
    next.Filtered asked := by
  rw [VBucketStreamRequest.Filtered, VBucketStreamRequest.streamId, hsame]
  exact h

theorem resolveVbucketRequest_filtered {start : StartPosition}
    (h : resolveVbucketRequest v bucketUuid start mode high failoverLog filter policy handler
      frozen = .ok (resolved, count)) : resolved.Filtered filter := by
  simp only [resolveVbucketRequest] at h
  split at h
  · rename_i request hrequest
    obtain ⟨frozenRequest, hfrozen, heq⟩ := Result.map_eq_ok h
    cases heq
    exact (VBucketStreamRequest.resolve_filtered hrequest).congr
      (VBucketStreamRequest.applyFrozenEndSeqno_filter hfrozen)
  · split at h
    · simp only [resolveRolledBack, bind_eq_ok] at h
      obtain ⟨action, -, h⟩ := h
      cases action with
      | stopAndReport => cases h
      | rewindAndReplay =>
        simp only [bind_eq_ok] at h
        obtain ⟨branch, -, -, -, request, hrequest, frozenRequest, hfrozen, h⟩ := h
        cases h
        exact (VBucketStreamRequest.resolve_filtered hrequest).congr
          (VBucketStreamRequest.applyFrozenEndSeqno_filter hfrozen)
    · cases h
  · cases h

theorem resolveNodeRequests_filtered {requests : List VBucketStreamRequest}
    (h : resolveNodeRequests config request node answers selection highSeqnos rollbacks vbuckets =
      .ok (requests, count)) :
    ∀ resolved ∈ requests, resolved.Filtered selection.streamFilter := by
  induction vbuckets generalizing rollbacks requests with
  | nil =>
    cases h
    simp
  | cons vbucket vbuckets ih =>
    simp only [resolveNodeRequests, bind_eq_ok] at h
    obtain ⟨⟨resolved, more⟩, hresolved, h⟩ := h
    split at h
    · cases h
    obtain ⟨⟨rest, total⟩, hrest, h⟩ := bind_eq_ok.1 h
    cases h
    refine List.forall_mem_cons.2 ⟨?_, ih hrest⟩
    simp only [resolveNodeRequest] at hresolved
    split at hresolved
    · cases hresolved
    obtain ⟨failoverLog, -, hresolved⟩ := bind_eq_ok.1 hresolved
    split at hresolved
    · cases hresolved
    obtain ⟨frozen, -, hresolved⟩ := bind_eq_ok.1 hresolved
    exact resolveVbucketRequest_filtered hresolved

theorem VBucketStreamRequest.Filtered.encodes {request : VBucketStreamRequest}
    {selection : CollectionSelection} (h : request.Filtered selection.streamFilter)
    (hcoherent : selection.Coherent) :
    ∀ filter, request.filter = some filter → ∃ bytes, filter.encode = .ok bytes := by
  intro filter hfilter
  obtain ⟨⟨manifestUid, hsame⟩, hstream⟩ := h
  rw [hsame] at hfilter
  obtain ⟨asked, hasked, rfl⟩ := Option.map_eq_some_iff.1 hfilter
  obtain ⟨resolved, hresolved, rfl⟩ := Option.map_eq_some_iff.1 hasked
  have hid : resolved.streamFilter.streamId ≠ some 0 := by
    rw [streamId, hsame, hasked] at hstream
    exact hstream
  exact StreamFilter.encodes_manifest ((hcoherent resolved hresolved).1.encode hid) manifestUid

namespace Wire

structure Ready (request : VBucketStreamRequest) : Prop where
  sendable : request.Sendable
  encodes : ∀ filter, request.filter = some filter → ∃ bytes, filter.encode = .ok bytes

theorem Ready.rollBack {self next : VBucketStreamRequest} (h : Ready self)
    (hrolled : self.rollBack policy handler rollbackSeqno failoverLog = .ok (next, rollback)) :
    Ready next := by
  obtain ⟨hlt, log, uuid, hrewind⟩ := VBucketStreamRequest.rollBack_rewind hrolled
  have hstep : self.adjust (.rewind rollbackSeqno log) = some next := by
    simp [VBucketStreamRequest.adjust, hlt, hrewind, Except.toOption]
  refine ⟨h.sendable.adjust hstep, ?_⟩
  obtain ⟨branch, -, -, rfl⟩ := VBucketStreamRequest.rewind_eq_ok hrewind
  intro filter hfilter
  obtain ⟨earlier, hearlier, rfl⟩ := Option.map_eq_some_iff.1 hfilter
  exact StreamFilter.encodes_manifest (h.encodes earlier hearlier) none

theorem Ready.frame {self : VBucketStreamRequest} (h : Ready self) :
    ∃ frame, Protocol.streamRequest self.wireRequest = .ok frame ∧
      frame.opcode = Opcode.dcpStreamRequest ∧ frame.vbucket = self.checkpoint.vbucket := by
  cases hframe : Protocol.streamRequest self.wireRequest with
  | ok frame => exact ⟨frame, rfl, Protocol.streamRequest_frame hframe⟩
  | error error =>
    obtain ⟨filter, hfilter, herror⟩ := h.sendable.streamRequest hframe
    obtain ⟨bytes, hbytes⟩ := h.encodes filter hfilter
    cases herror.symm.trans hbytes

theorem repliesOf_stream (h : frame.opcode = Opcode.dcpStreamRequest ∧ frame.vbucket = vbucket)
    (reply : Result Frame) (later : List (Frame × Result Frame)) :
    repliesOf vbucket ((frame, reply) :: later) =
      openReply vbucket reply later :: repliesOf vbucket later := by
  rw [repliesOf, if_pos h]

theorem repliesOf_append (first later : List (Frame × Result Frame))
    (h : ∀ x ∈ first, x.1.opcode = Opcode.dcpStreamRequest → x.1.vbucket ≠ vbucket) :
    repliesOf vbucket (first ++ later) = repliesOf vbucket later := by
  induction first with
  | nil => rfl
  | cons x first ih =>
    obtain ⟨hx, hfirst⟩ := List.forall_mem_cons.1 h
    rw [List.cons_append, repliesOf, if_neg fun hstream => hx hstream.1 hstream.2]
    exact ih hfirst

theorem repliesOf_failover (reply : Result Frame) (later : List (Frame × Result Frame)) :
    repliesOf vbucket ((Command.getFailoverLog other 0, reply) :: later) =
      repliesOf vbucket later := by
  refine repliesOf_append [_] later ?_
  rintro x hx hopcode
  obtain rfl := List.mem_singleton.1 hx
  have hsame : Opcode.dcpGetFailoverLog = Opcode.dcpStreamRequest := hopcode
  exact absurd hsame (by decide)

theorem openTurn_refines (hready : Ready request)
    (hlast : again = none → left = 0)
    (hagain : ∀ next, again = some next → ∃ less, left = less + 1 ∧
      ∀ request rollbacks log outcome, Ready request →
        (next request rollbacks).Path log outcome → ∀ later,
        RustDcp.openLoop policy handler less request rollbacks
          (repliesOf request.checkpoint.vbucket (requests log ++ later)) = outcome)
    (h : (openTurn connection policy handler again request rollbacks).Path log outcome)
    (later : List (Frame × Result Frame)) :
    RustDcp.openLoop policy handler left request rollbacks
      (repliesOf request.checkpoint.vbucket (requests log ++ later)) = outcome := by
  obtain ⟨frame, hframe, hstream⟩ := hready.frame
  rw [openTurn, hframe] at h
  obtain ⟨reply, rest, rfl, hrest⟩ := Connection.path_checked.1 h
  rw [requests_request, List.cons_append, repliesOf_stream hstream]
  rcases hrest with ⟨response, answer, rfl, hanswer, hpath⟩ | ⟨error, herror, rfl, rfl⟩
  · have hparsed := (mapError_eq_ok _).1 hanswer
    cases answer with
    | opened entries =>
      simp only [openReply, hparsed]
      rw [RustDcp.openLoop]
      rcases path_lift_bind.1 hpath with ⟨state, hstate, hdone⟩ | ⟨error, herror, -, rfl⟩
      · rw [hstate, (path_pure.1 hdone).2]
        rfl
      · rw [herror]
        rfl
    | rollback rollbackSeqno =>
      simp only [openReply, hparsed]
      cases again with
      | none =>
        rw [hlast rfl, RustDcp.openLoop]
        exact (path_lift.1 hpath).2.symm
      | some next =>
        obtain ⟨less, rfl, hnext⟩ := hagain next rfl
        rw [RustDcp.openLoop]
        dsimp only at hpath
        split at hpath
        · rename_i hbeyond
          simp only [VBucketStreamRequest.rollBack, if_pos hbeyond]
          exact (path_lift.1 hpath).2.symm
        rename_i hbefore
        rcases path_bind.1 hpath with
          ⟨failoverLog, first, second, rfl, hfetch, hturn⟩ | ⟨error, hfetch, rfl⟩
        · obtain ⟨answered, rfl, hanswered⟩ := Connection.path_exchange.1 hfetch
          rw [List.singleton_append, requests_request, List.cons_append, List.head?_cons,
            Option.elim_some, ← hanswered, repliesOf_failover]
          rcases path_lift_bind.1 hturn with ⟨⟨rewound, rollback⟩, hrolled, hmore⟩ |
            ⟨error, herror, -, rfl⟩
          · rw [hrolled, ← (VBucketStreamRequest.rollBack_eq_ok hrolled).1]
            exact hnext rewound _ second outcome (hready.rollBack hrolled) hmore later
          · rw [herror]
        · obtain ⟨answered, rfl, hanswered⟩ := Connection.path_exchange.1 hfetch
          rw [requests_request, List.cons_append, List.head?_cons, Option.elim_some, ← hanswered]
          simp only [VBucketStreamRequest.rollBack, if_neg hbefore]
          rfl
  · cases reply with
    | error failed =>
      cases herror
      simp only [openReply]
      rw [RustDcp.openLoop]
    | ok response =>
      have hparse : (Command.parseStreamRequestResponse response).mapError DcpError.protocol =
          .error error := herror
      cases hparsed : Command.parseStreamRequestResponse response with
      | ok answer =>
        rw [hparsed] at hparse
        cases hparse
      | error failed =>
        rw [hparsed] at hparse
        cases hparse
        simp only [openReply, hparsed]
        rw [RustDcp.openLoop]

theorem openLoop_refines (hready : Ready request)
    (h : (openLoop connection policy handler left request rollbacks).Path log outcome)
    (later : List (Frame × Result Frame)) :
    RustDcp.openLoop policy handler left request rollbacks
      (repliesOf request.checkpoint.vbucket (requests log ++ later)) = outcome := by
  induction left generalizing request rollbacks log outcome later with
  | zero =>
    refine openTurn_refines hready (fun _ => rfl) ?_ h later
    intro next hnext
    cases hnext
  | succ left ih =>
    refine openTurn_refines hready ?_ ?_ h later
    · intro hnone
      cases hnone
    · intro next hnext
      cases hnext
      exact ⟨left, rfl, fun request rollbacks log outcome hready hpath later =>
        ih hready hpath later⟩

def StreamsOf (vbucket : UInt16) : KvCommand → Prop
  | .request _ frame => frame.opcode = Opcode.dcpStreamRequest → frame.vbucket = vbucket
  | _ => True

theorem openTurn_issues
    (hagain : ∀ next, again = some next → ∀ later rollbacks,
      later.checkpoint.vbucket = request.checkpoint.vbucket →
      (next later rollbacks).Issues (StreamsOf request.checkpoint.vbucket)) :
    (openTurn connection policy handler again request rollbacks).Issues
      (StreamsOf request.checkpoint.vbucket) := by
  refine Issues.lift_bind fun frame hframe => ?_
  have hvbucket := (Protocol.streamRequest_frame ((mapError_eq_ok _).1 hframe)).2
  refine Issues.bind ⟨fun _ => hvbucket, fun _ => trivial⟩ fun response => ?_
  refine Issues.lift_bind fun answer _ => ?_
  split
  · exact Issues.lift_bind fun _ _ => trivial
  · trivial
  · rename_i next _
    split
    · trivial
    · refine Issues.bind (Issues.bind ⟨fun _ => rfl, fun _ => trivial⟩ fun _ => trivial)
        fun failoverLog => ?_
      refine Issues.lift_bind fun rolled hrolled => ?_
      exact hagain next rfl _ _ (VBucketStreamRequest.rollBack_eq_ok hrolled).1

theorem openLoop_issues (left : Nat) (request : VBucketStreamRequest) :
    (openLoop connection policy handler left request rollbacks).Issues
      (StreamsOf request.checkpoint.vbucket) := by
  induction left generalizing request rollbacks with
  | zero =>
    refine openTurn_issues ?_
    intro next hnext
    cases hnext
  | succ left ih =>
    refine openTurn_issues ?_
    intro next hnext later rollbacks hsame
    cases hnext
    rw [← hsame]
    exact ih later

theorem openLoop_others (hother : request.checkpoint.vbucket ≠ vbucket)
    (h : (openLoop connection policy handler left request rollbacks).Path log outcome)
    (later : List (Frame × Result Frame)) :
    repliesOf vbucket (requests log ++ later) = repliesOf vbucket later := by
  refine repliesOf_append _ later ?_
  intro x hx hopcode heq
  obtain ⟨⟨command, reply⟩, hmem, hsome⟩ := List.mem_filterMap.1 hx
  have hissues := (openLoop_issues left request).path h _ hmem
  cases command with
  | request connectionId frame =>
    cases hsome
    exact hother ((hissues hopcode).symm.trans heq)
  | _ => cases hsome

theorem openPartitions_refines {requests : List VBucketStreamRequest}
    (hready : ∀ request ∈ requests, Ready request)
    (hdistinct : (requests.map (·.checkpoint.vbucket)).Nodup)
    (hreplies : ∀ request ∈ requests, answers.replies request.checkpoint.vbucket =
      repliesOf request.checkpoint.vbucket (KvLog.requests log))
    (h : (openPartitions config connection report requests).Path log outcome) :
    RustDcp.openPartitions config answers report requests = outcome := by
  induction requests generalizing report log with
  | nil => exact (path_pure.1 h).2.symm
  | cons request requests ih =>
    obtain ⟨hfirst, hrest⟩ := List.forall_mem_cons.1 hready
    obtain ⟨hreply, hothers⟩ := List.forall_mem_cons.1 hreplies
    rw [List.map_cons, List.nodup_cons] at hdistinct
    rcases path_bind.1 h with ⟨⟨state, rollbacks⟩, before, after, rfl, hopen, hmore⟩ |
      ⟨error, hopen, rfl⟩
    · have hstate := openLoop_refines hfirst hopen (KvLog.requests after)
      rw [← requests_append, ← hreply] at hstate
      rw [RustDcp.openPartitions, RustDcp.openPartition, hstate]
      refine ih hrest hdistinct.2 ?_ hmore
      intro other hother
      rw [hothers other hother, requests_append, openLoop_others ?_ hopen]
      intro heq
      exact hdistinct.1 (heq ▸ List.mem_map_of_mem hother)
    · have herror := openLoop_refines hfirst hopen []
      rw [List.append_nil, ← hreply] at herror
      rw [RustDcp.openPartitions, RustDcp.openPartition, herror]
      rfl

theorem validateEachRequest_distinct {requests : List VBucketStreamRequest}
    (h : validateEachRequest seen requests = .ok ()) :
    (∀ request ∈ requests, request.Sendable ∧ request.checkpoint.vbucket ∉ seen) ∧
      (requests.map (·.checkpoint.vbucket)).Nodup := by
  induction requests generalizing seen with
  | nil => simp
  | cons request requests ih =>
    obtain ⟨⟨⟩, hvalid, h⟩ := bind_eq_ok.1 h
    split at h
    · cases h
    rename_i hends
    split at h
    · cases h
    rename_i hfresh
    obtain ⟨hrest, hdistinct⟩ := ih h
    rw [List.map_cons, List.nodup_cons]
    refine ⟨List.forall_mem_cons.2 ⟨⟨⟨hvalid, Nat.not_lt.1 hends⟩, hfresh⟩, ?_⟩, ?_, hdistinct⟩
    · intro other hother
      exact ⟨(hrest other hother).1, fun hmem =>
        (hrest other hother).2 (List.mem_cons_of_mem _ hmem)⟩
    · intro hmem
      obtain ⟨other, hother, heq⟩ := List.mem_map.1 hmem
      exact (hrest other hother).2 (heq ▸ List.mem_cons_self)

theorem validateRequests_distinct {requests : List VBucketStreamRequest}
    (h : validateRequests requests = .ok ()) :
    (∀ request ∈ requests, request.Sendable) ∧
      (requests.map (·.checkpoint.vbucket)).Nodup := by
  rw [validateRequests] at h
  split at h
  · cases h
  · obtain ⟨hall, hdistinct⟩ := validateEachRequest_distinct h
    exact ⟨fun request hrequest => (hall request hrequest).1, hdistinct⟩

theorem openDcpStream_refines {requests : List VBucketStreamRequest}
    (hencodes : ∀ request ∈ requests, ∀ filter, request.filter = some filter →
      ∃ bytes, filter.encode = .ok bytes)
    (hsilent : ∀ x ∈ KvLog.requests before, x.1.opcode ≠ Opcode.dcpStreamRequest)
    (h : (openDcpStream env config session requests).Path log outcome) :
    RustDcp.openDcpStream config (answersOf env client streamId session (before ++ log)) requests =
      outcome := by
  have hcapable : validateCapabilities
      (answersOf env client streamId session (before ++ log)).collections
      (answersOf env client streamId session (before ++ log)).streamIds requests =
      validateCapabilities (decide (.collections ∈ session.capabilities.helloFeatures))
        (decide (.streamId ∈ session.capabilities.dcpControls)) requests := rfl
  rw [RustDcp.openDcpStream, hcapable]
  rcases path_lift_bind.1 h with ⟨flow, hflow, h₁⟩ | ⟨error, herror, -, rfl⟩
  · rw [hflow]
    rcases path_lift_bind.1 h₁ with ⟨valid, hvalid, h₂⟩ | ⟨error, herror, -, rfl⟩
    · rw [hvalid]
      rcases path_lift_bind.1 h₂ with ⟨able, hable, h₃⟩ | ⟨error, herror, -, rfl⟩
      · rw [hable]
        rcases path_lift_bind.1 h₃ with ⟨handled, hhandled, h₄⟩ | ⟨error, herror, -, rfl⟩
        · rw [hhandled]
          obtain ⟨hsendable, hdistinct⟩ := validateRequests_distinct hvalid
          have hready : ∀ request ∈ requests, Ready request := fun request hrequest =>
            ⟨hsendable request hrequest, hencodes request hrequest⟩
          have hreplies : ∀ request ∈ requests,
              (answersOf env client streamId session (before ++ log)).replies
                request.checkpoint.vbucket =
              repliesOf request.checkpoint.vbucket (KvLog.requests log) := by
            intro request _
            simp only [answersOf, requests_append]
            exact repliesOf_append _ _ fun x hx hopcode => absurd hopcode (hsilent x hx)
          rcases path_bind.1 h₄ with ⟨report, first, second, rfl, hopen, hdone⟩ |
            ⟨error, hopen, rfl⟩
          · obtain ⟨rfl, rfl⟩ := path_pure.1 hdone
            rw [List.append_nil] at hreplies ⊢
            rw [openPartitions_refines hready hdistinct hreplies hopen]
            rfl
          · rw [openPartitions_refines hready hdistinct hreplies hopen]
            rfl
        · rw [herror]
          rfl
      · rw [herror]
        rfl
    · rw [herror]
      rfl
  · rw [herror]
    rfl

end Wire

end RustDcp
