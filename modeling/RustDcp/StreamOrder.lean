import RustDcp.StreamRequest
import RustDcp.WorkerClose

namespace RustDcp
set_option autoImplicit true

def SnapshotWindow.after (window : Option SnapshotWindow) : DcpEvent → Option SnapshotWindow
  | .snapshotMarker marker => some { start := marker.startSeqno, finish := marker.endSeqno }
  | _ => window

def DcpEvent.endsStream : DcpEvent → Bool
  | .streamEnd _ => true
  | _ => false

/-- What `observe` lets through, in terms of the event that the message becomes. -/
inductive Observed (p : PartitionProgress) (event : DcpEvent) : PartitionProgress → Prop where
  | unnumbered (hseqno : event.seqno = none)
      (hmarker : ∀ marker, event = .snapshotMarker marker →
        p.lastSeqno ≤ marker.endSeqno ∧ marker.endSeqno ≤ p.endSeqno) :
      Observed p event { p with snapshot := SnapshotWindow.after p.snapshot event }
  | numbered (hseqno : event.seqno = some n) (hwindow : p.snapshot = some window)
      (hlow : window.start ≤ n) (hhigh : n ≤ window.finish) (hend : n ≤ p.endSeqno)
      (hlast : p.lastSeqno < n) : Observed p event { p with lastSeqno := n }

theorem Protocol.observeSeqno_eq_ok (h : observeSeqno p v n = .ok p') :
    ∃ window, p.snapshot = some window ∧ window.start ≤ n ∧ n ≤ window.finish ∧
      n ≤ p.endSeqno ∧ p.lastSeqno < n ∧ p' = { p with lastSeqno := n } := by
  rw [observeSeqno] at h
  split at h
  · cases h
  · rename_i window hwindow
    split at h
    · cases h
    · split at h
      · cases h
      · cases h
        exact ⟨window, hwindow, by omega, by omega, by omega, by omega, rfl⟩

theorem Protocol.observe_observed (h : observe p message = .ok p')
    (hconv : convertEvent message = .ok event) : Observed p event p' := by
  have hnumbered : ∀ {n v}, event.seqno = some n → observeSeqno p v n = .ok p' →
      Observed p event p' := by
    intro n v hseqno hobserve
    obtain ⟨window, hwindow, hlow, hhigh, hend, hlast, rfl⟩ := observeSeqno_eq_ok hobserve
    exact .numbered hseqno hwindow hlow hhigh hend hlast
  cases message with
  | snapshotMarker marker =>
    cases hconv
    simp only [observe] at h
    split at h
    · cases h
    · cases h
      refine .unnumbered rfl fun marker hmarker => ?_
      cases hmarker
      simp only [convertSnapshotMarker]
      omega
  | streamEnd event =>
    cases hconv
    cases h
    exact .unnumbered rfl fun marker hmarker => by cases hmarker
  | osoSnapshot event =>
    cases hconv
    cases h
    exact .unnumbered rfl fun marker hmarker => by cases hmarker
  | mutation event =>
    cases hconv
    exact hnumbered rfl h
  | deletion event =>
    cases hconv
    exact hnumbered rfl h
  | expiration event =>
    cases hconv
    exact hnumbered rfl h
  | seqNoAdvanced event =>
    cases hconv
    exact hnumbered rfl h
  | systemEvent event =>
    cases hconv
    exact hnumbered rfl h
  | noop opaqueId => cases hconv
  | unknown frame => cases hconv

def lastWindow (events : List DcpEvent) : Option SnapshotWindow :=
  events.foldl SnapshotWindow.after none

/-- The events of one stream, in the order and within the bounds that it was opened with. -/
structure InStreamOrder (opened : PartitionOpenState) (events : List DcpEvent) : Prop where
  increasing : (events.filterMap DcpEvent.seqno).Pairwise (· < ·)
  bounded : ∀ n ∈ events.filterMap DcpEvent.seqno, opened.startSeqno < n ∧ n ≤ opened.endSeqno
  inside : ∀ before event after n, events = before ++ event :: after → event.seqno = some n →
    ∃ window, lastWindow before = some window ∧ window.start ≤ n ∧ n ≤ window.finish
  ended : ∀ before event after, events = before ++ event :: after → event.endsStream = true →
    after = []

/-- The progress of a stream that has emitted the events and not ended. -/
structure Live (opened : PartitionOpenState) (events : List DcpEvent) (p : PartitionProgress) :
    Prop where
  endSeqno : p.endSeqno = opened.endSeqno
  streamId : p.streamId = opened.streamId
  opaqueId : p.opaqueId = opened.opaqueId
  start_le : opened.startSeqno ≤ p.lastSeqno
  emitted_le : ∀ n ∈ events.filterMap DcpEvent.seqno, n ≤ p.lastSeqno
  window : p.snapshot = lastWindow events
  running : ∀ event ∈ events, event.endsStream = false

theorem lastWindow_snoc (events : List DcpEvent) (event : DcpEvent) :
    lastWindow (events ++ [event]) = SnapshotWindow.after (lastWindow events) event := by
  rw [lastWindow, List.foldl_append]
  rfl

theorem append_singleton_eq_split {xs before after : List α} {x y : α}
    (h : xs ++ [x] = before ++ y :: after) :
    (after = [] ∧ before = xs ∧ y = x) ∨
      ∃ rest, after = rest ++ [x] ∧ xs = before ++ y :: rest := by
  induction after using List.reverseRecOn with
  | nil =>
    obtain ⟨hxs, hx⟩ := List.append_inj' h rfl
    exact .inl ⟨rfl, hxs.symm, (List.singleton_inj.1 hx).symm⟩
  | append_singleton rest z _ =>
    rw [← List.cons_append, ← List.append_assoc] at h
    obtain ⟨hxs, hx⟩ := List.append_inj' h rfl
    exact .inr ⟨rest, by rw [List.singleton_inj.1 hx], hxs⟩

theorem InStreamOrder.snoc (h : InStreamOrder opened events)
    (hrunning : ∀ event ∈ events, event.endsStream = false)
    (hnumbered : ∀ n, event.seqno = some n → opened.startSeqno < n ∧ n ≤ opened.endSeqno ∧
      (∀ m ∈ events.filterMap DcpEvent.seqno, m < n) ∧
      ∃ window, lastWindow events = some window ∧ window.start ≤ n ∧ n ≤ window.finish) :
    InStreamOrder opened (events ++ [event]) := by
  refine ⟨?_, ?_, ?_, ?_⟩
  · rw [List.filterMap_append, List.pairwise_append]
    refine ⟨h.increasing, ?_, ?_⟩
    · cases hseqno : event.seqno <;> simp [hseqno]
    · intro m hm n hn
      have hseqno : event.seqno = some n := by simpa [eq_comm] using hn
      exact (hnumbered n hseqno).2.2.1 m hm
  · intro n hn
    rw [List.filterMap_append, List.mem_append] at hn
    rcases hn with hn | hn
    · exact h.bounded n hn
    · have hseqno : event.seqno = some n := by simpa [eq_comm] using hn
      exact ⟨(hnumbered n hseqno).1, (hnumbered n hseqno).2.1⟩
  · intro before other after n hsplit hseqno
    rcases append_singleton_eq_split hsplit with ⟨-, rfl, rfl⟩ | ⟨rest, -, hevents⟩
    · exact (hnumbered n hseqno).2.2.2
    · exact h.inside before other rest n hevents hseqno
  · intro before other after hsplit hends
    rcases append_singleton_eq_split hsplit with ⟨hnil, -, -⟩ | ⟨rest, -, hevents⟩
    · exact hnil
    · have hmem : other ∈ events := by
        rw [hevents]
        exact List.mem_append_right _ List.mem_cons_self
      rw [hrunning other hmem] at hends
      cases hends

theorem Live.order (h : Live opened events p) (horder : InStreamOrder opened events)
    (hobserved : Observed p event p') : InStreamOrder opened (events ++ [event]) := by
  refine horder.snoc h.running fun n hn => ?_
  cases hobserved with
  | unnumbered hseqno _ =>
    rw [hseqno] at hn
    cases hn
  | numbered hseqno hwindow hlow hhigh hend hlast =>
    cases hseqno.symm.trans hn
    refine ⟨h.start_le.trans_lt hlast, h.endSeqno ▸ hend, ?_, _, h.window ▸ hwindow, hlow, hhigh⟩
    intro m hm
    exact (h.emitted_le m hm).trans_lt hlast

theorem Live.advance (h : Live opened events p) (hobserved : Observed p event p')
    (hends : event.endsStream = false) : Live opened (events ++ [event]) p' := by
  have hrunning : ∀ other ∈ events ++ [event], other.endsStream = false := by
    intro other hmem
    rcases List.mem_append.1 hmem with hmem | hmem
    · exact h.running other hmem
    · rw [List.mem_singleton.1 hmem]
      exact hends
  cases hobserved with
  | unnumbered hseqno _ =>
    refine ⟨h.endSeqno, h.streamId, h.opaqueId, h.start_le, ?_, ?_, hrunning⟩
    · simpa [hseqno] using h.emitted_le
    · rw [lastWindow_snoc, ← h.window]
  | @numbered n window hseqno _ _ _ _ hlast =>
    refine ⟨h.endSeqno, h.streamId, h.opaqueId, h.start_le.trans hlast.le, ?_, ?_, hrunning⟩
    · intro m hm
      rw [List.filterMap_append, List.mem_append] at hm
      rcases hm with hm | hm
      · exact (h.emitted_le m hm).trans hlast.le
      · have hm : m = n := by simpa [hseqno] using hm
        exact hm.le
    · rw [lastWindow_snoc, ← h.window]
      cases event <;> first | rfl | cases hseqno

def PartitionOpenState.progress (self : PartitionOpenState) : PartitionProgress :=
  .new self.startSeqno self.endSeqno self.streamId self.opaqueId

namespace Worker

/-- The worker that `open_dcp_stream` spawns. `opened` is the open report, by the vBucket of each
state. -/
def spawn (connection : KvConnection) (opened : BTreeMap UInt16 PartitionOpenState)
    (credit : Result FlowCredit) (streamEndOnClose : Bool) : Worker :=
  let partitions := opened.map fun _ state => state.progress
  match credit with
  | .ok credit =>
    { connection, partitions, credit, streamEndOnClose, output := [], receiverOpen := true,
      replies := [], status := .running }
  | .error error =>
    { connection, partitions, credit := { threshold := 0, pending := 0 }, streamEndOnClose,
      output := [.error error], receiverOpen := true, replies := [], status := .failed error }

structure Tracks (opened : BTreeMap UInt16 PartitionOpenState) (v : UInt16) (w : Worker) :
    Prop where
  unopened : opened[v]? = none → eventsOf v w.output = []
  order : ∀ state, opened[v]? = some state → InStreamOrder state (eventsOf v w.output)
  live : w.status = .running → ∀ p, w.partitions[v]? = some p →
    ∃ state, opened[v]? = some state ∧ Live state (eventsOf v w.output) p

theorem spawn_tracks (connection : KvConnection) (opened : BTreeMap UInt16 PartitionOpenState)
    (credit : Result FlowCredit) (streamEndOnClose : Bool) (v : UInt16) :
    Tracks opened v (spawn connection opened credit streamEndOnClose) := by
  have hout : eventsOf v (spawn connection opened credit streamEndOnClose).output = [] := by
    cases credit <;> rfl
  refine ⟨fun _ => hout, ?_, ?_⟩
  · intro state hstate
    rw [hout]
    exact ⟨.nil, by simp, by simp, by simp⟩
  · intro hrunning p hp
    rw [hout]
    cases credit with
    | error error => cases hrunning
    | ok credit =>
      simp only [spawn, Std.ExtTreeMap.getElem?_map, Option.map_eq_some_iff] at hp
      obtain ⟨state, hstate, rfl⟩ := hp
      exact ⟨state, hstate, rfl, rfl, rfl, le_refl _, by simp, rfl, by simp⟩

theorem Tracks.same (h : Tracks opened v w) (hout : eventsOf v t.output = eventsOf v w.output)
    (hlive : t.status = .running → w.status = .running ∧ t.partitions[v]? = w.partitions[v]?) :
    Tracks opened v t := by
  refine ⟨fun hnone => hout.trans (h.unopened hnone), fun state hstate => ?_,
    fun hrunning p hp => ?_⟩
  · rw [hout]
    exact h.order state hstate
  · obtain ⟨hw, hparts⟩ := hlive hrunning
    rw [hout]
    exact h.live hw p (hparts ▸ hp)

theorem convertEvent_endsStream {event : DcpEvent} (h : Protocol.convertEvent message = .ok event) :
    event.endsStream = isStreamEnd message := by
  cases message <;> cases h <;> rfl

theorem Tracks.accept {t : Worker} (h : Tracks opened v w) (hrunning : w.status = .running)
    (haccepted : Accepted w frame message u progress progress' event)
    (hout : eventsOf v t.output = eventsOf v (w.output ++ [.ok (.event event)]))
    (hparts : t.status = .running → t.partitions = if isStreamEnd message then
      (w.partitions.insert u progress').erase u else w.partitions.insert u progress') :
    Tracks opened v t := by
  obtain ⟨converted, hconverted, hvbucket, -⟩ :=
    Protocol.convertEvent_of_vbucket haccepted.vbucket
  cases haccepted.converted.symm.trans hconverted
  by_cases hu : u = v
  · subst hu
    obtain ⟨state, hstate, hlive⟩ := h.live hrunning progress haccepted.active
    have hobserved := Protocol.observe_observed haccepted.observed haccepted.converted
    have hsent : eventsOf u t.output = eventsOf u w.output ++ [event] := by
      rw [hout, eventsOf_append]
      simp [eventsOf, hvbucket]
    refine ⟨fun hnone => ?_, fun state' hstate' => ?_, fun ht p hp => ?_⟩
    · rw [hnone] at hstate
      cases hstate
    · cases hstate.symm.trans hstate'
      rw [hsent]
      exact hlive.order (h.order state hstate) hobserved
    · rw [hparts ht] at hp
      rw [hsent]
      cases hend : isStreamEnd message with
      | true =>
        rw [hend, if_pos rfl, Std.ExtTreeMap.getElem?_erase_self] at hp
        cases hp
      | false =>
        rw [hend, if_neg Bool.false_ne_true, Std.ExtTreeMap.getElem?_insert_self] at hp
        cases hp
        exact ⟨state, hstate, hlive.advance hobserved
          ((convertEvent_endsStream haccepted.converted).trans hend)⟩
  · refine h.same ?_ fun ht => ⟨hrunning, ?_⟩
    · rw [hout, eventsOf_append, eventsOf_other (hvbucket ▸ hu), List.append_nil]
    · rw [hparts ht]
      split <;> simp [Std.ExtTreeMap.getElem?_erase, Std.ExtTreeMap.getElem?_insert, hu]

theorem Tracks.closed {t : Worker} (h : Tracks opened v w) (hrunning : w.status = .running)
    (hu : w.partitions[u]? = some progress)
    (hout : t.output = w.output ++ [.ok (.event (.streamEnd { vbucket := u, reason }))])
    (hparts : t.partitions = w.partitions.erase u) : Tracks opened v t := by
  by_cases huv : u = v
  · subst huv
    obtain ⟨state, hstate, hlive⟩ := h.live hrunning progress hu
    have hsent : eventsOf u t.output = eventsOf u w.output ++
        [.streamEnd { vbucket := u, reason }] := by
      rw [hout, eventsOf_append]
      simp [eventsOf, DcpEvent.vbucket]
    refine ⟨fun hnone => ?_, fun state' hstate' => ?_, fun ht p hp => ?_⟩
    · rw [hnone] at hstate
      cases hstate
    · cases hstate.symm.trans hstate'
      rw [hsent]
      exact (h.order state hstate).snoc hlive.running fun n hn => by cases hn
    · rw [hparts, Std.ExtTreeMap.getElem?_erase_self] at hp
      cases hp
  · refine h.same ?_ fun _ => ⟨hrunning, ?_⟩
    · rw [hout, eventsOf_append, eventsOf_other (by exact huv), List.append_nil]
    · rw [hparts]
      simp [Std.ExtTreeMap.getElem?_erase, huv]

theorem eventsOf_error (v : UInt16) (receiver : Bool) (error : DcpError) :
    eventsOf v (if receiver then [.error error] else []) = [] := by
  split <;> rfl

theorem step_tracks (h : Tracks opened v w) (hstep : w.step timeout action = some t) :
    Tracks opened v t := by
  have hrunning := step_running hstep
  cases step_effect hstep with
  | quiet items hitems hout hparts hstatus =>
    refine h.same ?_ fun _ => ⟨hrunning, by rw [hparts]⟩
    rw [hout, eventsOf_append, eventsOf_control v hitems, List.append_nil]
  | event hreceive haccepted hout hparts hstatus =>
    exact h.accept hrunning haccepted (by rw [hout]) fun _ => hparts
  | closed hu hout hparts hstatus => exact h.closed hrunning hu hout hparts
  | cut hreceive sent hsent hout hstatus =>
    cases hsent with
    | control items hitems =>
      refine h.same ?_ fun ht => by rw [hstatus] at ht; cases ht
      rw [hout, eventsOf_append, eventsOf_append, eventsOf_error, eventsOf_control v hitems,
        List.append_nil, List.append_nil]
    | event haccepted =>
      refine h.accept hrunning haccepted ?_ fun ht => by rw [hstatus] at ht; cases ht
      rw [hout, eventsOf_append, eventsOf_error, List.append_nil]
  | failed haction hout hstatus =>
    refine h.same ?_ fun ht => by rw [hstatus] at ht; cases ht
    rw [hout, eventsOf_append, eventsOf_error, List.append_nil]
  | finished hempty hout hstatus =>
    exact h.same (by rw [hout]) fun ht => by rw [hstatus] at ht; cases ht
  | stopped haction hout hstatus =>
    exact h.same (by rw [hout]) fun ht => by rw [hstatus] at ht; cases ht

/-- The frame that the worker handled when it sent its item number `k`. -/
def CausedBy (timeout : Nat) (w : Worker) (acts : List WorkerAction) (k : Nat) (frame : Frame) :
    Prop :=
  ∃ before after s rest, acts = before ++ .receive :: after ∧
    Machine.run (step timeout) w before = some s ∧ s.output.length = k ∧
    s.connection.receiveFrame = some (.ok frame, rest)

theorem CausedBy.extend (h : CausedBy timeout w acts k frame) (more : List WorkerAction) :
    CausedBy timeout w (acts ++ more) k frame := by
  obtain ⟨before, after, s, rest, rfl, hrun, hlength, hreceive⟩ := h
  exact ⟨before, after ++ more, s, rest, by simp, hrun, hlength, hreceive⟩

theorem getElem?_append_event {output : List (Result DcpStreamItem)} {event : DcpEvent}
    (h : (output ++ sent)[k]? = some (.ok (.event event))) :
    output[k]? = some (.ok (.event event)) ∨
      ∃ i, k = output.length + i ∧ sent[i]? = some (.ok (.event event)) := by
  rw [List.getElem?_append] at h
  split at h
  · exact .inl h
  · exact .inr ⟨k - output.length, by omega, h⟩

theorem getElem?_singleton_eq_some {a b : α} (h : [a][i]? = some b) : i = 0 ∧ a = b := by
  cases i with
  | zero => exact ⟨rfl, Option.some.inj h⟩
  | succ i => cases h

theorem getElem?_control {items : List DcpStreamItem} {event : DcpEvent} {i : Nat}
    (hitems : ∀ item ∈ items, ∀ event : DcpEvent, item ≠ .event event) :
    ¬(items.map .ok : List (Result DcpStreamItem))[i]? = some (.ok (.event event)) := by
  intro h
  obtain ⟨item, hitem, heq⟩ := List.mem_map.1 (List.mem_of_getElem? h)
  cases heq
  exact hitems _ hitem event rfl

theorem getElem?_error {event : DcpEvent} {error : DcpError} {receiver : Bool} {i : Nat} :
    ¬(if receiver then [.error error] else [] : List (Result DcpStreamItem))[i]? =
      some (.ok (.event event)) := by
  intro h
  have hmem := List.mem_of_getElem? h
  split at hmem <;> simp at hmem

theorem step_sends {w : Worker} (hstep : w.step timeout action = some t)
    (hk : t.output[k]? = some (.ok (.event event))) (hn : event.seqno = some n) :
    w.output[k]? = some (.ok (.event event)) ∨
      (action = .receive ∧ k = w.output.length ∧ ∃ frame rest message v progress progress',
        w.connection.receiveFrame = some (.ok frame, rest) ∧
        Accepted w frame message v progress progress' event) := by
  cases step_effect hstep with
  | quiet items hitems hout hparts hstatus =>
    rw [hout] at hk
    rcases getElem?_append_event hk with hk | ⟨i, -, hnew⟩
    · exact .inl hk
    · exact absurd hnew (getElem?_control hitems)
  | event hreceive haccepted hout hparts hstatus =>
    rw [hout] at hk
    rcases getElem?_append_event hk with hk | ⟨i, rfl, hnew⟩
    · exact .inl hk
    · obtain ⟨rfl, heq⟩ := getElem?_singleton_eq_some hnew
      cases heq
      exact .inr ⟨rfl, rfl, _, _, _, _, _, _, hreceive, haccepted⟩
  | closed hv hout hparts hstatus =>
    rw [hout] at hk
    rcases getElem?_append_event hk with hk | ⟨i, rfl, hnew⟩
    · exact .inl hk
    · have hmem := List.mem_of_getElem? hnew
      simp only [List.mem_singleton, Except.ok.injEq, DcpStreamItem.event.injEq] at hmem
      rw [hmem] at hn
      cases hn
  | cut hreceive sent hsent hout hstatus =>
    rw [hout] at hk
    rcases getElem?_append_event hk with hk | ⟨i, rfl, hnew⟩
    · rcases getElem?_append_event hk with hk | ⟨i, rfl, hnew⟩
      · exact .inl hk
      · cases hsent with
        | control items hitems => exact absurd hnew (getElem?_control hitems)
        | event haccepted =>
          obtain ⟨rfl, heq⟩ := getElem?_singleton_eq_some hnew
          cases heq
          exact .inr ⟨rfl, rfl, _, _, _, _, _, _, hreceive, haccepted⟩
    · exact absurd hnew getElem?_error
  | failed haction hout hstatus =>
    rw [hout] at hk
    rcases getElem?_append_event hk with hk | ⟨i, -, hnew⟩
    · exact .inl hk
    · exact absurd hnew getElem?_error
  | finished hempty hout hstatus => exact .inl (hout ▸ hk)
  | stopped haction hout hstatus => exact .inl (hout ▸ hk)

section

variable {connection : KvConnection} {opened : BTreeMap UInt16 PartitionOpenState}
  {credit : Result FlowCredit} {streamEndOnClose : Bool}

theorem run_tracks
    (hrun : Machine.run (step timeout) (spawn connection opened credit streamEndOnClose) acts =
      some t) (v : UInt16) : Tracks opened v t :=
  Machine.run_invariant (fun _ _ _ h hstep => step_tracks h hstep)
    (spawn_tracks connection opened credit streamEndOnClose v) hrun

/-- Every sequence-numbered event was carried by a frame with the opaque and the stream ID that its
stream was opened with. -/
def Sourced (timeout : Nat) (opened : BTreeMap UInt16 PartitionOpenState) (w : Worker)
    (acts : List WorkerAction) (t : Worker) : Prop :=
  ∀ k event n, t.output[k]? = some (.ok (.event event)) → event.seqno = some n →
    ∃ frame message state, CausedBy timeout w acts k frame ∧
      Protocol.eventOf frame = some message ∧ Protocol.convertEvent message = .ok event ∧
      opened[event.vbucket]? = some state ∧ frame.opaqueId = state.opaqueId ∧
      Protocol.messageStreamId message = state.streamId

theorem run_sourced
    (hrun : Machine.run (step timeout) (spawn connection opened credit streamEndOnClose) acts =
      some t) :
    Sourced timeout opened (spawn connection opened credit streamEndOnClose) acts t := by
  refine Machine.run_history (P := Sourced timeout opened _) ?_ ?_ hrun
  · intro k event n hk
    cases credit with
    | ok credit => cases hk
    | error error =>
      have hmem := List.mem_of_getElem? hk
      cases hmem with
      | tail _ hmem => cases hmem
  · intro acts t action u ht ih hstep k event n hk hn
    rcases step_sends hstep hk hn with hk | ⟨rfl, rfl, frame, rest, message, v, progress, progress',
      hreceive, haccepted⟩
    · obtain ⟨frame, message, state, hcaused, hsource⟩ := ih k event n hk hn
      exact ⟨frame, message, state, hcaused.extend [action], hsource⟩
    · obtain ⟨state, hstate, hlive⟩ :=
        (run_tracks ht v).live (step_running hstep) progress haccepted.active
      obtain ⟨converted, hconverted, hvbucket, -⟩ :=
        Protocol.convertEvent_of_vbucket haccepted.vbucket
      cases haccepted.converted.symm.trans hconverted
      exact ⟨frame, message, state, ⟨acts, [], t, rest, rfl, ht, rfl, hreceive⟩, haccepted.carried,
        haccepted.converted, hvbucket ▸ hstate, haccepted.opaqueId.trans hlive.opaqueId,
        haccepted.streamId.trans hlive.streamId⟩

/-- The items of a worker keep every stream in order, whatever the peer sends and whichever streams
are closed. -/
theorem emitted_in_order
    (hrun : Machine.run (step timeout) (spawn connection opened credit streamEndOnClose) acts =
      some t) (v : UInt16) :
    (opened[v]? = none → eventsOf v t.output = []) ∧
    ∀ state, opened[v]? = some state → InStreamOrder state (eventsOf v t.output) ∧
      ∀ k event n, t.output[k]? = some (.ok (.event event)) → event.vbucket = v →
        event.seqno = some n → ∃ frame message,
          CausedBy timeout (spawn connection opened credit streamEndOnClose) acts k frame ∧
          Protocol.eventOf frame = some message ∧ Protocol.convertEvent message = .ok event ∧
          frame.opaqueId = state.opaqueId ∧ Protocol.messageStreamId message = state.streamId := by
  have htracks := run_tracks hrun v
  refine ⟨htracks.unopened, fun state hstate => ⟨htracks.order state hstate, ?_⟩⟩
  rintro k event n hk rfl hn
  obtain ⟨frame, message, state', hcaused, hcarried, hconverted, hstate', hsource⟩ :=
    run_sourced hrun k event n hk hn
  cases hstate.symm.trans hstate'
  exact ⟨frame, message, hcaused, hcarried, hconverted, hsource⟩

end

def sampleAdvance (vbucket : UInt16) : Frame :=
  { Frame.request Opcode.dcpSeqnoAdvanced with
    vbucket
    opaqueId := 5
    extras := [0, 0, 0, 0, 0, 0, 0, 1] }

def sampleReport : BTreeMap UInt16 PartitionOpenState :=
  (∅ : BTreeMap UInt16 PartitionOpenState).insert 7
    { effectiveCheckpoint := DcpCheckpoint.earliest 7
      vbucket := 7
      startSeqno := 0
      endSeqno := 100
      vbucketUuid := 77
      streamId := none
      opaqueId := 5 }

def sampleSpawned : Worker :=
  spawn { (sampleWorker [] []).connection with inbound := [] } sampleReport
    (.ok { threshold := 50, pending := 0 }) false

def sampleStream : List WorkerAction :=
  [.arrive (.ok (sampleMarker 7)), .arrive (.ok (sampleAdvance 7)), .receive, .receive,
    .arrive (.ok sampleAnswer), .command (.close 7)]

theorem emitted_in_order_sample : ∃ t state,
    Machine.run (step 60) sampleSpawned sampleStream = some t ∧
    sampleReport[(7 : UInt16)]? = some state ∧
    (eventsOf 7 t.output).map DcpEvent.endsStream = [false, false, true] ∧
    (eventsOf 7 t.output).filterMap DcpEvent.seqno = [1] ∧
    InStreamOrder state (eventsOf 7 t.output) := by
  have hrun : (Machine.run (step 60) sampleSpawned sampleStream).map
      (fun t => ((eventsOf 7 t.output).map DcpEvent.endsStream,
        (eventsOf 7 t.output).filterMap DcpEvent.seqno)) =
      some ([false, false, true], [1]) := by decide
  obtain ⟨t, ht, hseen⟩ := Option.map_eq_some_iff.1 hrun
  simp only [Prod.mk.injEq] at hseen
  exact ⟨t, _, ht, rfl, hseen.1, hseen.2, ((emitted_in_order ht 7).2 _ rfl).1⟩

end Worker

end RustDcp
