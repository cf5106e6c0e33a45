import RustDcp.AckSafety
import RustDcp.Collections
import RustDcp.PartitionOrder
import RustDcp.StreamOrder

namespace RustDcp
set_option autoImplicit true

namespace Protocol

def MarkerOrdered (message : DcpMessage) : Prop :=
  ∀ marker, message = .snapshotMarker marker → marker.startSeqno ≤ marker.endSeqno

theorem parsed_ordered (h : parsed frame = .ok message) : MarkerOrdered message := by
  obtain ⟨haccepted, rfl⟩ := parsed_eq_ok h
  intro marker hmarker
  -- only the opcode of the marker is read as one
  simp only [messageLayout, ite_eq_iff, reduceCtorEq, and_false, or_false, false_or,
    DcpMessage.snapshotMarker.injEq] at hmarker
  obtain ⟨-, -, -, hopcode, rfl⟩ := hmarker
  apply Nat.le_of_not_lt
  intro hbackwards
  exact haccepted (.inr (.inr (.inr ⟨hopcode, .inr hbackwards⟩)))

theorem eventOf_ordered (h : eventOf frame = some message) : MarkerOrdered message := by
  exact parsed_ordered (parsed_of_eventOf h).2.1

end Protocol

def Action.leaves (v : UInt16) : Action → Bool
  | .track event => event.vbucket ≠ v
  | .rebase _ => false
  | .acknowledge _ | .markDirty _ | .flush _ => true

/-- A partition of the coordinator that has registered what its stream has let through. -/
structure PartitionState.Follows (progress : PartitionProgress) (p : PartitionState) : Prop where
  ordered : p.Ordered
  last : p.lastRegisteredSeqno = progress.lastSeqno
  snapshot : p.snapshot = progress.snapshot.map fun window => (window.start, window.finish)

namespace PartitionState

theorem Follows.start (c : DcpCheckpoint) (endSeqno : Nat) (streamId : Option UInt16)
    (opaqueId : UInt32) (h : p = .new c ∨ ∃ q : PartitionState, p = q.rebase c) :
    Follows (.new c.seqno endSeqno streamId opaqueId) p := by
  rcases h with rfl | ⟨q, rfl⟩
  · exact ⟨.new c, rfl, rfl⟩
  · exact ⟨.rebase q c, rfl, rfl⟩

theorem Follows.same (h : Follows progress p) (hsame : p.SameProgress q) : Follows progress q :=
  ⟨h.ordered.frame hsame.processed hsame.pending hsame.lastRegisteredSeqno,
    hsame.lastRegisteredSeqno.trans h.last, hsame.snapshot.trans h.snapshot⟩

theorem Follows.acknowledge (h : Follows progress p) (hack : p.acknowledge token = (result, q)) :
    Follows progress q := by
  refine ⟨(h.ordered.acknowledge hack).1, ?_, ?_⟩
  · rcases acknowledge_cases hack with ⟨-, rfl, -⟩ | ⟨marked, generation, -, rfl, -⟩
    · exact h.last
    · exact h.last
  · rcases acknowledge_cases hack with ⟨-, rfl, -⟩ | ⟨marked, generation, -, rfl, -⟩
    · exact h.snapshot
    · exact h.snapshot

theorem trackSeqno_isOk {p : PartitionState} (event : DcpEvent)
    (hwindow : p.snapshot = some (low, high))
    (hlast : p.lastRegisteredSeqno < n) (hlow : low ≤ n) (hhigh : n ≤ high)
    (hcounter : p.nextDeliveryId < u64Max) :
    ∃ token q, p.trackSeqno event n = .ok (token, q) := by
  have hvalid : (p.lastCheckpoint.afterEvent event n (low, high)).validate = .ok () := by
    rw [DcpCheckpoint.validate_eq_ok]
    simp only [DcpCheckpoint.afterEvent_snapshotStart, DcpCheckpoint.afterEvent_snapshotEnd,
      DcpCheckpoint.afterEvent_seqno]
    exact ⟨hlow.trans hhigh, hhigh, .inr hlow⟩
  have hnext : checkedSucc p.nextDeliveryId = some (p.nextDeliveryId + 1) :=
    checkedSucc_eq_some.2 ⟨hcounter, rfl⟩
  have hinside : ¬(n ≤ p.lastRegisteredSeqno ∨ n < low ∨ n > high) := by omega
  simp only [trackSeqno, hwindow, if_neg hinside, hvalid, hnext]
  exact ⟨_, _, rfl⟩

theorem Follows.track (h : Follows progress p) (hobserved : Observed progress event progress')
    (hmarker : ∀ marker, event = .snapshotMarker marker → marker.startSeqno ≤ marker.endSeqno)
    (hcounter : p.nextDeliveryId < u64Max) :
    ∃ token q, p.trackEvent event = .ok (token, q) ∧ Follows progress' q := by
  have hprocessed : p.processed.seqno ≤ progress.lastSeqno :=
    h.last ▸ h.ordered.below _ List.mem_cons_self
  cases hobserved with
  | unnumbered hseqno hbounds =>
    cases event with
    | snapshotMarker marker =>
      have hvalid : ¬(marker.startSeqno > marker.endSeqno ∨
          marker.endSeqno < p.processed.seqno) := by
        have := hmarker marker rfl
        have := (hbounds marker rfl).1
        omega
      simp only [trackEvent, trackMarker, if_neg hvalid]
      exact ⟨_, _, rfl, h.ordered.frame rfl rfl rfl, h.last, rfl⟩
    | streamEnd event => exact ⟨_, _, rfl, h⟩
    | osoSnapshot event => exact ⟨_, _, rfl, h⟩
    | mutation event | deletion event | expiration event | seqNoAdvanced event
    | systemEvent event =>
      cases hseqno
  | @numbered n window hseqno hwindow hlow hhigh hend hlast =>
    have hsnapshot : p.snapshot = some (window.start, window.finish) := by
      rw [h.snapshot, hwindow]
      rfl
    obtain ⟨token, q, hq⟩ := trackSeqno_isOk event hsnapshot (h.last ▸ hlast) hlow hhigh
      hcounter
    have htrack : p.trackEvent event = .ok (some token, q) := by
      cases event with
      | snapshotMarker marker | streamEnd event | osoSnapshot event => cases hseqno
      | mutation event | deletion event | expiration event | seqNoAdvanced event
        | systemEvent event => simp only [trackEvent, hseqno, hq]
    obtain ⟨-, window', hregisters⟩ := trackSeqno_eq_ok hq
    refine ⟨_, q, htrack, (h.ordered.trackEvent htrack).1, ?_, ?_⟩
    · rw [hregisters.eq]
    · rw [hregisters.eq]
      exact h.snapshot

theorem Moves.nextDeliveryId_le (h : Moves v p action q) : p.nextDeliveryId ≤ q.nextDeliveryId := by
  cases h with
  | same hsame => exact hsame.nextDeliveryId.ge
  | tracked hv htrack =>
    rcases trackEvent_cases htrack with ⟨marker, -, -, -, -, rfl⟩ | ⟨-, -, -, rfl⟩ |
      ⟨n, window, -, -, hregisters⟩
    · exact le_refl _
    · exact le_refl _
    · rw [hregisters.eq]
      exact Nat.le_succ _
  | acknowledged hv hack =>
    rcases acknowledge_cases hack with ⟨-, rfl, -⟩ | ⟨marked, generation, -, rfl, -⟩
    · exact le_refl _
    · exact le_refl _
  | rebased hc => exact le_refl _

theorem Follows.moves (h : Follows progress p) (hleaves : action.leaves v = true)
    (hmoves : Moves v p action q) : Follows progress q := by
  cases hmoves with
  | same hsame => exact h.same hsame
  | tracked hv htrack => simp [Action.leaves, hv] at hleaves
  | acknowledged hv hack => exact h.acknowledge hack
  | rebased hc => cases hleaves

end PartitionState

theorem CoordinatorState.trackEvent_of_partition {state : CoordinatorState} {event : DcpEvent}
    (hp : state.partitions[event.vbucket]? = some p)
    (h : p.trackEvent event = .ok (token, q)) :
    state.trackEvent event = (.ok ⟨event, token⟩, state.setPartition event.vbucket q) := by
  simp only [trackEvent, hp, h]

theorem RegistryState.decorate_cases {registry : RegistryState} {event : DcpEvent}
    (h : (registry.decorate event).1 = .ok delivered) :
    delivered = event ∨ (delivered.vbucket = event.vbucket ∧ delivered.seqno = event.seqno ∧
      ∃ n, event.seqno = some n) := by
  cases event with
  | systemEvent event =>
    simp only [decorate] at h
    split at h
    · cases h
    · cases h
      exact .inl rfl
  | mutation event | deletion event | expiration event =>
    obtain ⟨name, -, rfl⟩ := Result.map_eq_ok h
    exact .inr ⟨rfl, rfl, _, rfl⟩
  | snapshotMarker marker =>
    cases h
    exact .inl rfl
  | streamEnd event =>
    cases h
    exact .inl rfl
  | seqNoAdvanced event =>
    cases h
    exact .inl rfl
  | osoSnapshot event =>
    cases h
    exact .inl rfl

theorem Observed.decorate {registry : RegistryState} {event : DcpEvent}
    (hobserved : Observed progress event progress')
    (h : (registry.decorate event).1 = .ok delivered) : Observed progress delivered progress' := by
  rcases RegistryState.decorate_cases h with rfl | ⟨-, hsame, n, hn⟩
  · exact hobserved
  · cases hobserved with
    | unnumbered hseqno hmarker =>
      rw [hseqno] at hn
      cases hn
    | numbered hseqno hwindow hlow hhigh hend hlast =>
      exact .numbered (hsame.trans hseqno) hwindow hlow hhigh hend hlast

/-- One stream: the progress of its worker and the coordinator that registers its events. -/
structure Feeding where
  progress : PartitionProgress
  system : System

/-- `deliver` hands one frame's event on, decorated by the registry if there is one. -/
inductive FeedAction where
  | deliver (frame : Frame) (registry : Option RegistryState)
  | other (action : Action)

namespace Feeding

def delivered (message : Protocol.DcpMessage) (registry : Option RegistryState) : Result DcpEvent :=
  match Protocol.convertEvent message, registry with
  | .error error, _ => .error error
  | .ok event, none => .ok event
  | .ok event, some registry => (registry.decorate event).1

/-- The message and the progress after it, if the frame carries one that the stream lets through. -/
def observed (v : UInt16) (self : Feeding) (frame : Frame) :
    Option (Protocol.DcpMessage × PartitionProgress) :=
  match Protocol.eventOf frame with
  | none => none
  | some message =>
    if Protocol.messageVbucket message = some v then
      match Protocol.observe self.progress message with
      | .error _ => none
      | .ok progress => some (message, progress)
    else none

def step (v : UInt16) (self : Feeding) : FeedAction → Option Feeding
  | .deliver frame registry =>
    match self.observed v frame with
    | none => none
    | some (message, progress) =>
      match delivered message registry with
      | .error _ => none
      | .ok event => (self.system.step (.track event)).map fun system => { progress, system }
  | .other action =>
    if action.leaves v then (self.system.step action).map fun system => { self with system }
    else none

theorem observed_eq_some {s : Feeding} (h : s.observed v frame = some (message, progress')) :
    Protocol.eventOf frame = some message ∧ Protocol.messageVbucket message = some v ∧
      Protocol.observe s.progress message = .ok progress' := by
  rw [observed] at h
  split at h
  · cases h
  rename_i other hevent
  split at h
  · rename_i hv
    split at h
    · cases h
    · rename_i progress hobserve
      cases h
      exact ⟨hevent, hv, hobserve⟩
  · cases h

theorem delivered_observed {s : Feeding} (h : s.observed v frame = some (message, progress'))
    (hdelivered : delivered message registry = .ok event) :
    event.vbucket = v ∧ Observed s.progress event progress' ∧
      ∀ marker, event = .snapshotMarker marker → marker.startSeqno ≤ marker.endSeqno := by
  obtain ⟨hcarried, hv, hobserve⟩ := observed_eq_some h
  obtain ⟨converted, hconverted, hvbucket, -⟩ := Protocol.convertEvent_of_vbucket hv
  have hobserved := Protocol.observe_observed hobserve hconverted
  have hordered : ∀ marker, converted = .snapshotMarker marker →
      marker.startSeqno ≤ marker.endSeqno := by
    intro marker hmarker
    cases message <;> cases hconverted <;> cases hmarker
    exact Protocol.eventOf_ordered hcarried _ rfl
  simp only [delivered, hconverted] at hdelivered
  cases registry with
  | none =>
    cases hdelivered
    exact ⟨hvbucket, hobserved, hordered⟩
  | some registry =>
    refine ⟨?_, hobserved.decorate hdelivered, ?_⟩
    · rcases RegistryState.decorate_cases hdelivered with rfl | ⟨hsame, -⟩
      · exact hvbucket
      · exact hsame.trans hvbucket
    · intro marker hmarker
      rcases RegistryState.decorate_cases hdelivered with rfl | ⟨-, hsame, n, hn⟩
      · exact hordered marker hmarker
      · rw [hmarker, hn] at hsame
        cases hsame

/-- The coordinator follows the stream as long as delivery IDs do not overflow. -/
def Following (v : UInt16) (s : Feeding) : Prop :=
  ∃ p, s.system.state.partitions[v]? = some p ∧
    (p.nextDeliveryId < u64Max → p.Follows s.progress)

theorem step_following (h : Following v s) (hstep : step v s action = some t) : Following v t := by
  obtain ⟨p, hp, hfollows⟩ := h
  cases action with
  | other action =>
    simp only [step] at hstep
    split at hstep
    · rename_i hleaves
      obtain ⟨system, hsystem, rfl⟩ := Option.map_eq_some_iff.1 hstep
      obtain ⟨q, hq, hmoves⟩ := System.step_moves hsystem hp
      exact ⟨q, hq, fun hcounter =>
        (hfollows (hmoves.nextDeliveryId_le.trans_lt hcounter)).moves hleaves hmoves⟩
    · cases hstep
  | deliver frame registry =>
    simp only [step] at hstep
    split at hstep
    · cases hstep
    rename_i message progress' hobserved
    split at hstep
    · cases hstep
    rename_i event hdelivered
    obtain ⟨system, hsystem, rfl⟩ := Option.map_eq_some_iff.1 hstep
    obtain ⟨rfl, hobs, hmarker⟩ := delivered_observed hobserved hdelivered
    by_cases hcounter : p.nextDeliveryId < u64Max
    · obtain ⟨token, q, htrack, hq⟩ := (hfollows hcounter).track hobs hmarker hcounter
      simp only [System.step, CoordinatorState.trackEvent_of_partition hp htrack] at hsystem
      cases hsystem
      refine ⟨q, ?_, fun _ => hq⟩
      rw [CoordinatorState.getElem?_setPartition, if_pos rfl]
    · obtain ⟨q, hq, hmoves⟩ := System.step_moves hsystem hp
      exact ⟨q, hq, fun hlt => absurd (hmoves.nextDeliveryId_le.trans_lt hlt) hcounter⟩

/-- `track_event` accepts every event that the stream lets through, from a partition that was
initialised or rebased at the stream's start, whatever is acknowledged and flushed in between. -/
theorem track_event_accepts (hp : s.system.state.partitions[v]? = some p)
    (hstart : p = .new c ∨ ∃ q : PartitionState, p = q.rebase c)
    (hprogress : s.progress = .new c.seqno endSeqno streamId opaqueId)
    (hrun : Machine.run (step v) s acts = some t)
    (hcounter : ∀ q, t.system.state.partitions[v]? = some q → q.nextDeliveryId < u64Max)
    (hobserved : t.observed v frame = some (message, progress'))
    (hdelivered : delivered message registry = .ok event) :
    ∃ tracked after, t.system.state.trackEvent event = (.ok tracked, after) := by
  have hfollowing : Following v s :=
    ⟨p, hp, fun _ => hprogress ▸ .start c endSeqno streamId opaqueId hstart⟩
  obtain ⟨q, hq, hfollows⟩ := Machine.run_invariant
    (fun _ _ _ h hstep => step_following h hstep) hfollowing hrun
  obtain ⟨rfl, hobs, hmarker⟩ := delivered_observed hobserved hdelivered
  obtain ⟨token, r, htrack, -⟩ := (hfollows (hcounter q hq)).track hobs hmarker (hcounter q hq)
  exact ⟨_, _, CoordinatorState.trackEvent_of_partition hq htrack⟩

def sample : Feeding where
  progress := .new 0 100 none 5
  system := System.sampleSystem

def sampleFeed : List FeedAction :=
  [.deliver (Worker.sampleMarker 7) none, .deliver (Worker.sampleAdvance 7) none,
    .other (.acknowledge ⟨7, 1, 1⟩)] ++
    (System.sampleFlush 0 ⟨7, System.samplePosition 7 1 9, 1⟩).map .other

def sampleNext : Frame :=
  { Worker.sampleAdvance 7 with extras := [0, 0, 0, 0, 0, 0, 0, 2] }

theorem track_event_accepts_sample : ∃ t tracked after,
    Machine.run (step 7) sample sampleFeed = some t ∧ t.system.acknowledged = [⟨7, 1, 1⟩] ∧
    t.system.state.trackEvent (.seqNoAdvanced ⟨7, 2⟩) = (.ok tracked, after) := by
  have hrun : (Machine.run (step 7) sample sampleFeed).map
      (fun t => (t.system.acknowledged,
        t.system.state.partitions[(7 : UInt16)]?.map (·.nextDeliveryId),
        t.observed 7 sampleNext)) =
      some ([⟨7, 1, 1⟩], some 2,
        some (.seqNoAdvanced ⟨7, none, 2⟩, ⟨2, 100, none, 5, some ⟨0, 9⟩⟩)) := by
    decide
  obtain ⟨t, ht, hseen⟩ := Option.map_eq_some_iff.1 hrun
  simp only [Prod.mk.injEq] at hseen
  obtain ⟨hacknowledged, hid, hobserved⟩ := hseen
  obtain ⟨q, hq, hnext⟩ := Option.map_eq_some_iff.1 hid
  have hcounter : ∀ r, t.system.state.partitions[(7 : UInt16)]? = some r →
      r.nextDeliveryId < u64Max := by
    intro r hr
    cases hq.symm.trans hr
    rw [hnext]
    decide
  have hdelivered : delivered (.seqNoAdvanced ⟨7, none, 2⟩) none =
      .ok (.seqNoAdvanced ⟨7, 2⟩) := rfl
  obtain ⟨tracked, after, htrack⟩ := track_event_accepts
    (p := .new (System.samplePosition 7 0 0)) (s := sample) rfl (.inl rfl) rfl ht hcounter
    hobserved hdelivered
  exact ⟨t, tracked, after, ht, hacknowledged, htrack⟩

end Feeding

end RustDcp
