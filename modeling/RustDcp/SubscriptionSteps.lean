import RustDcp.ReopenProgress
import RustDcp.Subscription
import RustDcp.TrackAcceptance

namespace RustDcp
set_option autoImplicit true

def DriverPhase.isDriving : DriverPhase → Bool
  | .checking | .selecting | .mitigating _ _ | .applying _ | .skipping _ | .sending _ => true
  | .left _ | .retrying _ | .opening _ _ | .ended _ => false

namespace Subscription

/-- A step that leaves the streams and the coordinator alone. A subscription that is cancelled
stays so, and a receiver that is closed stays closed. -/
structure Frame (s t : Subscription) : Prop where
  current : t.current = s.current
  past : t.past = s.past
  frozenEndSeqnos : t.frozenEndSeqnos = s.frozenEndSeqnos
  system : t.system = s.system
  cancelled : s.cancelled = true → t.cancelled = true
  receiverOpen : s.receiverOpen = false → t.receiverOpen = false

theorem Frame.refl (s : Subscription) : Frame s s := ⟨rfl, rfl, rfl, rfl, id, id⟩

/-- What the task may turn to without touching the streams or the coordinator. -/
inductive Turn (config : DcpConfig) (s : Subscription) : DriverPhase → Prop where
  | selecting (h : s.phase = .checking) (hcancelled : s.cancelled = false)
      (hnewer : s.newerTopology = false) : Turn config s .selecting
  | again (h : s.phase = .selecting ∨ (∃ call, s.phase = .applying call) ∨
      s.phase = .skipping none) : Turn config s .checking
  | sent (h : s.phase = .sending output) (hreceiver : s.receiverOpen = true) :
      Turn config s .checking
  | left (h : s.phase.isDriving = true) (haction : action ≠ .complete) :
      Turn config s (.left action)
  | exhausted (h : s.phase = .selecting)
      (hdry : ∀ stream ∈ s.current.streams, stream.isDry = true)
      (hmode : config.mode = .finite) : Turn config s (.left .complete)
  | retrying (h : s.phase.isDriving = false) : Turn config s (.retrying snap)
  | opening (h : s.phase = .retrying snap) :
      Turn config s (.opening snap s.system.state.processedCheckpoints)
  | ended (h : s.phase.isDriving = false) : Turn config s (.ended error)

inductive Delivers (config : DcpConfig) (s : Subscription) (event : DcpEvent) :
    Subscription → Prop where
  | failed (hframe : Frame s t) (hphase : t.phase = .left (.fatal error)) :
      Delivers config s event t
  | tracked (hvbucket : delivered.vbucket = event.vbucket) (hseqno : delivered.seqno = event.seqno)
      (hstep : s.system.step (.track delivered) = some t.system)
      (htrack : s.system.state.trackEvent delivered = (.ok tracked, t.system.state))
      (hcurrent : t.current =
        { s.current with tokens := s.current.tokens ++ tracked.ack.toList })
      (hpast : t.past = s.past) (hfrozen : t.frozenEndSeqnos = s.frozenEndSeqnos)
      (hcancelled : t.cancelled = s.cancelled) (hreceiver : t.receiverOpen = s.receiverOpen)
      (hphase : documentIsBeforeListenerCutoff config event = true ∧
          t.phase = .skipping tracked.ack ∨ ∃ output, t.phase = .sending output)
      (hnewer : t.newerTopology = s.newerTopology) : Delivers config s event t

theorem track_cases {s : Subscription} (h : s.track event = (result, t)) :
    (∃ error, result = .error error ∧ Frame s t ∧ t.phase = s.phase) ∨
    ∃ tracked, result = .ok tracked ∧ s.system.step (.track event) = some t.system ∧
      s.system.state.trackEvent event = (.ok tracked, t.system.state) ∧
      t = { s with
        system := t.system
        current := { s.current with tokens := s.current.tokens ++ tracked.ack.toList } } := by
  rw [track] at h
  split at h
  · rename_i error state htrack
    cases h
    rcases CoordinatorState.trackEvent_cases htrack with ⟨-, -, rfl⟩ | ⟨p, token, q, -, -, hok, -⟩
    · exact .inl ⟨error, rfl, .refl s, rfl⟩
    · cases hok
  · rename_i tracked state htrack
    cases h
    refine .inr ⟨tracked, rfl, ?_, htrack, rfl⟩
    simp only [System.step, htrack]

theorem deliver_delivers (config : DcpConfig) (s : Subscription) (event : DcpEvent) :
    Delivers config s event (s.deliver config event) := by
  rw [deliver]
  split
  · rename_i hcutoff
    split
    · rename_i error t htrack
      rcases track_cases htrack with ⟨-, -, hframe, -⟩ | ⟨tracked, hok, -⟩
      · exact .failed ⟨hframe.1, hframe.2, hframe.3, hframe.4, hframe.5, hframe.6⟩ rfl
      · cases hok
    · rename_i tracked t htrack
      rcases track_cases htrack with ⟨error, herror, -⟩ | ⟨other, hok, hstep, hstate, ht⟩
      · cases herror
      · cases hok
        refine .tracked rfl rfl hstep hstate ?_ ?_ ?_ ?_ ?_ (.inl ⟨hcutoff, rfl⟩) ?_
        all_goals rw [ht]
        rfl
  · split
    · exact .failed ⟨rfl, rfl, rfl, rfl, id, id⟩ rfl
    · rename_i delivered registry hdecorate
      have hsame : delivered.vbucket = event.vbucket ∧ delivered.seqno = event.seqno := by
        rcases RegistryState.decorate_cases (congrArg Prod.fst hdecorate) with
          rfl | ⟨hvbucket, hseqno, -⟩
        · exact ⟨rfl, rfl⟩
        · exact ⟨hvbucket, hseqno⟩
      split
      · rename_i error t htrack
        rcases track_cases htrack with ⟨-, -, hframe, -⟩ | ⟨tracked, hok, -⟩
        · exact .failed ⟨hframe.1, hframe.2, hframe.3, hframe.4, hframe.5, hframe.6⟩ rfl
        · cases hok
      · rename_i tracked t htrack
        rcases track_cases htrack with ⟨error, herror, -⟩ | ⟨other, hok, hstep, hstate, ht⟩
        · cases herror
        · cases hok
          refine .tracked hsame.1 hsame.2 hstep hstate ?_ ?_ ?_ ?_ ?_ (.inr ⟨_, rfl⟩) ?_
          all_goals rw [ht]
          rfl

inductive Handles (config : DcpConfig) (s : Subscription) :
    Result DcpStreamItem → Subscription → Prop where
  | ignored (hevent : ∀ event : DcpEvent, item ≠ .event event) (hframe : Frame s t)
      (hphase : t.phase = .checking ∨ ∃ call, t.phase = .applying call) :
      Handles config s (.ok item) t
  | left (hframe : Frame s t) (haction : action ≠ .complete) (hphase : t.phase = .left action)
      (hitem : (∃ error, item = .error error) ∨
        (∃ source payload, item = .ok (.topologyConfig source payload)) ∨
        ∃ event position, item = .ok (.event event) ∧ mitigationPosition event = some position) :
      Handles config s item t
  | held (hposition : mitigationPosition event = some position) (hframe : Frame s t)
      (hphase : t.phase = .mitigating event call) : Handles config s (.ok (.event event)) t
  | delivered (h : Delivers config s event t) : Handles config s (.ok (.event event)) t

theorem handleStreamItem_handles (config : DcpConfig) (s : Subscription)
    (item : Result DcpStreamItem) : Handles config s item (s.handleStreamItem config item) := by
  have hframe : ∀ action, Frame s (s.leave action) := fun _ => ⟨rfl, rfl, rfl, rfl, id, id⟩
  cases item with
  | error error =>
    rw [handleStreamItem]
    refine .left (hframe _) ?_ rfl (.inl ⟨_, rfl⟩)
    split <;> simp
  | ok item =>
    cases item with
    | unknown frame => exact .ignored (by simp) ⟨rfl, rfl, rfl, rfl, id, id⟩ (.inl rfl)
    | topologyConfig source payload =>
      rw [handleStreamItem]
      split
      · exact .left (hframe _) (by simp) rfl (.inr (.inl ⟨_, _, rfl⟩))
      · exact .ignored (by simp) ⟨rfl, rfl, rfl, rfl, id, id⟩ (.inr ⟨_, rfl⟩)
    | event event =>
      rw [handleStreamItem, waitForMitigation]
      split
      · rename_i vbucket seqno mitigator hposition hmitigation
        split
        · exact .left (hframe _) (by simp) rfl
            (.inr (.inr ⟨_, _, rfl, hposition⟩))
        split
        · exact .left (hframe _) (by simp) rfl
            (.inr (.inr ⟨_, _, rfl, hposition⟩))
        · exact .held hposition ⟨rfl, rfl, rfl, rfl, id, id⟩ rfl
      · exact .delivered (deliver_delivers config s event)

def taking (s : Subscription) (node : Nat) (stream : NodeStream) (item : Result DcpStreamItem) :
    Subscription :=
  { s with current := { s.current with
      streams := s.current.streams.set node { stream with taken := stream.taken + 1 }
      consumed := s.current.consumed ++ [(node, item)] } }

/-- Everything that one step can do to the streams, the coordinator and the phase. -/
inductive Effect (config : DcpConfig) (s : Subscription) :
    SubscriptionAction → Subscription → Prop where
  | outside (hframe : Frame s t) (hphase : t.phase = s.phase)
      (hnewer : (∃ act, action = .publish act) ∨ t.newerTopology = s.newerTopology) :
      Effect config s action t
  | turned (hframe : Frame s t) (hturn : Turn config s t.phase)
      (hnewer : t.newerTopology = s.newerTopology) : Effect config s action t
  | system (hact : (∃ token, act = .acknowledge token) ∨ ∃ flush, act = .flush flush)
      (hstep : s.system.step act = some after)
      (hphase : t.phase = s.phase ∨ (∃ token, s.phase = .skipping (some token)) ∧
        (t.phase = .checking ∨ ∃ error, t.phase = .left (.fatal error)))
      (hframe : Frame { s with system := after } t)
      (hnewer : t.newerTopology = s.newerTopology) : Effect config s action t
  | worked (hphase : s.phase.hasStreams = true)
      (hinternal : act.isInternal = true ∨ act = .command .shutdown ∧ s.phase.isLeft = true)
      (hstream : s.current.streams[node]? = some stream)
      (hstep : stream.worker.step config.flowControl.deadConnectionTimeout act = some worker) :
      Effect config s (.work node act)
        { s with current := { s.current with
            streams := s.current.streams.set node { stream with worker } } }
  | took (hphase : s.phase = .selecting) (hstream : s.current.streams[node]? = some stream)
      (hitem : stream.worker.output[stream.taken]? = some item)
      (hhandles : Handles config (s.taking node stream item) item t) :
      Effect config s (.take node) t
  | released (hphase : s.phase = .mitigating event call) (hdelivers : Delivers config s event t) :
      Effect config s .release t
  | reopened (hphase : s.phase = .opening snap captured)
      (hopened : openTokioGeneration config (s.reopenRequest snap captured) answers = .ok opened)
      (haccept : s.system.acceptReopenedGeneration captured s.frozenEndSeqnos opened.opened =
        (.ok (), after))
      (hcurrent : t.current = ⟨s.connectionGeneration, opened.streams, [], []⟩)
      (hpast : t.past = s.past ++ [s.current]) (hfrozen : t.frozenEndSeqnos = s.frozenEndSeqnos)
      (hsystem : t.system = after) (hafter : t.phase = .checking) :
      Effect config s (.openReply answers) t

theorem interrupted_turn {s : Subscription} (hdriving : s.phase.isDriving = true)
    (h : s.interrupted otherwise = some t) :
    (Frame s t ∧ Turn config s t.phase ∧ t.newerTopology = s.newerTopology) ∨
    (s.cancelled = false ∧ s.newerTopology = false ∧ otherwise = some t) := by
  rw [interrupted] at h
  split at h
  · cases h
    exact .inl ⟨⟨rfl, rfl, rfl, rfl, id, id⟩, .left hdriving (by simp), rfl⟩
  · rename_i hcancelled
    split at h
    · cases h
      exact .inl ⟨⟨rfl, rfl, rfl, rfl, id, id⟩, .left hdriving (by simp), rfl⟩
    · rename_i hnewer
      exact .inr ⟨Bool.eq_false_iff.2 hcancelled, Bool.eq_false_iff.2 hnewer, h⟩

theorem interrupt_effect {s : Subscription} (h : s.interrupt = some t) :
    Effect config s .interrupt t := by
  rw [interrupt] at h
  split at h
  · rename_i hphase
    rcases interrupted_turn (by rw [hphase]; rfl) h with ⟨hframe, hturn, hnewer⟩ | ⟨-, -, ht⟩
    · exact .turned hframe hturn hnewer
    · cases ht
      exact .turned ⟨rfl, rfl, rfl, rfl, id, id⟩ (.again (.inl hphase)) rfl
  · rename_i hphase
    rcases interrupted_turn (by rw [hphase]; rfl) h with ⟨hframe, hturn, hnewer⟩ | ⟨-, -, ht⟩
    · exact .turned hframe hturn hnewer
    · cases ht
  · rename_i hphase
    rcases interrupted_turn (by rw [hphase]; rfl) h with ⟨hframe, hturn, hnewer⟩ | ⟨-, -, ht⟩
    · exact .turned hframe hturn hnewer
    · cases ht
      exact .outside (.refl _) rfl (.inr rfl)
  · rename_i hphase
    split at h
    · cases h
      exact .turned ⟨rfl, rfl, rfl, rfl, id, id⟩ (.ended (by rw [hphase]; rfl)) rfl
    · cases h
      exact .turned ⟨rfl, rfl, rfl, rfl, id, id⟩ (.retrying (by rw [hphase]; rfl)) rfl
  · rename_i hphase
    split at h
    · cases h
      exact .turned ⟨rfl, rfl, rfl, rfl, id, id⟩ (.ended (by rw [hphase]; rfl)) rfl
    · cases h
      exact .turned ⟨rfl, rfl, rfl, rfl, id, id⟩ (.retrying (by rw [hphase]; rfl)) rfl
  · cases h

theorem poll_frame {s : Subscription} (h : s.poll = some t) :
    Frame s t ∧ t.phase = s.phase ∧ t.newerTopology = s.newerTopology := by
  rw [poll] at h
  split at h
  · split at h
    · cases h
    · split at h
      · cases h
        exact ⟨⟨rfl, rfl, rfl, rfl, id, id⟩, rfl, rfl⟩
      · split at h
        · cases h
          exact ⟨⟨rfl, rfl, rfl, rfl, id, id⟩, rfl, rfl⟩
        · cases h
          exact ⟨⟨rfl, rfl, rfl, rfl, id, id⟩, rfl, rfl⟩
  · cases h

theorem take_effect {s : Subscription} (h : s.take config node = some t) :
    Effect config s (.take node) t := by
  rw [take] at h
  split at h
  · rename_i stream hphase hstream
    split at h
    · cases h
    · rename_i item hitem
      cases h
      exact .took hphase hstream hitem (handleStreamItem_handles config _ item)
  · cases h

theorem work_effect {s : Subscription} (h : s.work config node action = some t) :
    Effect config s (.work node action) t := by
  rw [work] at h
  split at h
  · rename_i hallowed
    split at h
    · cases h
    · rename_i stream hstream
      obtain ⟨worker, hworker, rfl⟩ := Option.map_eq_some_iff.1 h
      exact .worked hallowed.1 (hallowed.2.imp_right fun h => ⟨h.1, h.2.1⟩) hstream hworker
  · cases h

theorem release_effect {s : Subscription} (h : s.release config = some t) :
    Effect config s .release t := by
  rw [release] at h
  split at h
  · rename_i event call hphase
    split at h
    · cases h
      exact .released hphase (deliver_delivers config s event)
    · cases h
      exact .turned ⟨rfl, rfl, rfl, rfl, id, id⟩ (.left (by rw [hphase]; rfl) (by simp)) rfl
    · cases h
  · cases h

theorem settle_effect {s : Subscription} (h : s.settle = some t) : Effect config s .settle t := by
  rw [settle] at h
  split at h
  · rename_i call hphase
    split at h
    · cases h
      exact .turned ⟨rfl, rfl, rfl, rfl, id, id⟩ (.left (by rw [hphase]; rfl) (by simp)) rfl
    · cases h
      exact .turned ⟨rfl, rfl, rfl, rfl, id, id⟩ (.again (.inr (.inl ⟨call, hphase⟩))) rfl
    · cases h
      exact .turned ⟨rfl, rfl, rfl, rfl, id, id⟩ (.left (by rw [hphase]; rfl) (by simp)) rfl
    · cases h
  · cases h

theorem skip_effect {s : Subscription} (h : s.skip = some t) : Effect config s .skip t := by
  rw [skip] at h
  split at h
  · rename_i hphase
    cases h
    exact .turned ⟨rfl, rfl, rfl, rfl, id, id⟩ (.again (.inr (.inr hphase))) rfl
  · rename_i token hphase
    obtain ⟨after, hstep, ht⟩ := Option.map_eq_some_iff.1 h
    refine .system (.inl ⟨token, rfl⟩) hstep (.inr ⟨⟨token, hphase⟩, ?_⟩) ?_ ?_
    · split at ht
      · subst ht
        exact .inr ⟨_, rfl⟩
      · subst ht
        exact .inl rfl
    · split at ht
      · subst ht
        exact ⟨rfl, rfl, rfl, rfl, id, id⟩
      · subst ht
        exact ⟨rfl, rfl, rfl, rfl, id, id⟩
    · split at ht
      · subst ht
        rfl
      · subst ht
        rfl
  · cases h

theorem send_effect {s : Subscription} (h : s.send = some t) : Effect config s .send t := by
  rw [send] at h
  split at h
  · rename_i output hphase
    split at h
    · rename_i hreceiver
      cases h
      exact .turned ⟨rfl, rfl, rfl, rfl, id, id⟩ (.sent hphase hreceiver) rfl
    · cases h
      exact .turned ⟨rfl, rfl, rfl, rfl, id, id⟩ (.left (by rw [hphase]; rfl) (by simp)) rfl
  · cases h

theorem shutDown_effect {s : Subscription} (h : s.shutDown node = some t) :
    Effect config s (.shutDown node) t := by
  rw [shutDown] at h
  split at h
  · split at h
    · cases h
      exact .outside ⟨rfl, rfl, rfl, rfl, id, id⟩ rfl (.inr rfl)
    · cases h
  · cases h

theorem afterShutdown_effect {s : Subscription} (hphase : s.phase.isDriving = false)
    (shutdown : Result Unit) (action : GenerationAction) :
    Effect config s act (afterShutdown { s with mitigation := none } shutdown action) := by
  have hended : ∀ error, Effect config s act
      { s with mitigation := none, phase := .ended error } := fun _ =>
    .turned ⟨rfl, rfl, rfl, rfl, id, id⟩ (.ended hphase) rfl
  have hbegin : ∀ snap, Effect config s act (beginReopen { s with mitigation := none } snap) := by
    intro snap
    rw [beginReopen]
    split
    · exact hended _
    · exact .turned ⟨rfl, rfl, rfl, rfl, id, id⟩ (.retrying hphase) rfl
  cases action with
  | stop | complete =>
    cases shutdown with
    | ok _ => exact hended none
    | error error => exact hended (some error)
  | fatal error => exact hended (some error)
  | reconnect => exact hbegin _
  | reopen snap => exact hbegin snap

theorem openReply_effect {s : Subscription} (h : s.openReply config answers = some t) :
    Effect config s (.openReply answers) t := by
  rw [openReply] at h
  split at h
  · rename_i snap captured hphase
    split at h
    · rename_i opened hopened
      cases h
      rw [acceptReopened]
      split
      · rename_i error after haccept
        obtain rfl := System.acceptReopenedGeneration_error haccept
        exact .turned ⟨rfl, rfl, rfl, rfl, id, id⟩ (.ended (by rw [hphase]; rfl)) rfl
      · rename_i after haccept
        exact .reopened hphase hopened haccept rfl rfl rfl rfl rfl
    · split at h
      · cases h
        exact .turned ⟨rfl, rfl, rfl, rfl, id, id⟩ (.retrying (by rw [hphase]; rfl)) rfl
      · cases h
        exact .turned ⟨rfl, rfl, rfl, rfl, id, id⟩ (.ended (by rw [hphase]; rfl)) rfl
  · cases h

theorem step_effect {s : Subscription} (h : s.step config action = some t) :
    Effect config s action t := by
  cases action with
  | publish action =>
    obtain ⟨publication, -, rfl⟩ := Option.map_eq_some_iff.1 h
    exact .outside ⟨rfl, rfl, rfl, rfl, id, id⟩ rfl (.inl ⟨action, rfl⟩)
  | mitigator action =>
    obtain ⟨mitigator, -, rfl⟩ := Option.map_eq_some_iff.1 h
    exact .outside ⟨rfl, rfl, rfl, rfl, id, id⟩ rfl (.inr rfl)
  | work node action => exact work_effect h
  | cancel =>
    cases h
    exact .outside ⟨rfl, rfl, rfl, rfl, fun _ => rfl, id⟩ rfl (.inr rfl)
  | hangUp =>
    cases h
    exact .outside ⟨rfl, rfl, rfl, rfl, id, fun _ => rfl⟩ rfl (.inr rfl)
  | poll =>
    obtain ⟨hframe, hphase, hnewer⟩ := poll_frame h
    exact .outside hframe hphase (.inr hnewer)
  | acknowledge token =>
    simp only [step] at h
    split at h
    · obtain ⟨after, hstep, rfl⟩ := Option.map_eq_some_iff.1 h
      exact .system (.inl ⟨token, rfl⟩) hstep (.inl rfl) ⟨rfl, rfl, rfl, rfl, id, id⟩ rfl
    · cases h
  | flush action =>
    obtain ⟨after, hstep, rfl⟩ := Option.map_eq_some_iff.1 h
    exact .system (.inr ⟨action, rfl⟩) hstep (.inl rfl) ⟨rfl, rfl, rfl, rfl, id, id⟩ rfl
  | check =>
    simp only [step] at h
    split at h
    · rename_i hphase
      rcases interrupted_turn (by rw [hphase]; rfl) h with
        ⟨hframe, hturn, hnewer⟩ | ⟨hcancelled, hnewer, ht⟩
      · exact .turned hframe hturn hnewer
      · cases ht
        exact .turned ⟨rfl, rfl, rfl, rfl, id, id⟩ (.selecting hphase hcancelled hnewer) rfl
    · cases h
  | interrupt => exact interrupt_effect h
  | disturb =>
    simp only [step] at h
    split at h
    · rename_i hphase
      cases h
      exact .turned ⟨rfl, rfl, rfl, rfl, id, id⟩ (.left (by rw [hphase]; rfl) (by simp)) rfl
    · cases h
  | take node => exact take_effect h
  | exhaust =>
    simp only [step] at h
    split at h
    · rename_i hphase
      split at h
      · rename_i hdry
        split at h
        · rename_i hmode
          cases h
          exact .turned ⟨rfl, rfl, rfl, rfl, id, id⟩
            (.exhausted hphase (List.all_eq_true.1 hdry) hmode) rfl
        · cases h
          exact .turned ⟨rfl, rfl, rfl, rfl, id, id⟩ (.left (by rw [hphase]; rfl) (by simp)) rfl
      · cases h
    · cases h
  | release => exact release_effect h
  | settle => exact settle_effect h
  | skip => exact skip_effect h
  | send => exact send_effect h
  | shutDown node => exact shutDown_effect h
  | close shutdown =>
    simp only [step] at h
    split at h
    · rename_i action hphase
      split at h
      · cases h
        exact afterShutdown_effect (by rw [hphase]; rfl) shutdown action
      · cases h
    · cases h
  | capture =>
    simp only [step] at h
    split at h
    · rename_i hphase
      split at h
      · cases h
        exact .turned ⟨rfl, rfl, rfl, rfl, id, id⟩ (.ended (by rw [hphase]; rfl)) rfl
      · cases h
        exact .turned ⟨rfl, rfl, rfl, rfl, id, id⟩ (.opening hphase) rfl
    · cases h
  | openReply answers => exact openReply_effect h
  | report =>
    simp only [step] at h
    split at h
    · rename_i hphase
      cases h
      exact .turned ⟨rfl, rfl, rfl, rfl, id, id⟩ (.ended (by rw [hphase]; rfl)) rfl
    · cases h

theorem Delivers.frozenEndSeqnos {s : Subscription} (h : Delivers config s event t) :
    t.frozenEndSeqnos = s.frozenEndSeqnos := by
  cases h with
  | failed hframe _ => exact hframe.frozenEndSeqnos
  | tracked _ _ _ _ _ _ hfrozen => exact hfrozen

theorem step_frozenEndSeqnos {s : Subscription} (h : s.step config action = some t) :
    t.frozenEndSeqnos = s.frozenEndSeqnos := by
  cases step_effect h with
  | outside hframe _ | turned hframe _ => exact hframe.frozenEndSeqnos
  | system _ _ _ hframe => exact hframe.frozenEndSeqnos
  | worked => rfl
  | took _ _ _ hhandles =>
    cases hhandles with
    | ignored _ hframe _ | left hframe _ _ | held _ hframe _ => exact hframe.frozenEndSeqnos
    | delivered hdelivers => exact hdelivers.frozenEndSeqnos
  | released _ hdelivers => exact hdelivers.frozenEndSeqnos
  | reopened _ _ _ _ _ hfrozen => exact hfrozen

end Subscription

end RustDcp
