import RustDcp.GenerationRun

namespace RustDcp
set_option autoImplicit true

def NodeStream.nextEnd (self : NodeStream) : Option StreamEnd :=
  match self.worker.connection.receiveFrame with
  | some (.ok frame, _) =>
    match (Protocol.eventOf frame).map Protocol.convertEvent with
    | some (.ok (.streamEnd ended)) => some ended
    | _ => none
  | _ => none

theorem NodeStream.nextEnd_eq_some {self : NodeStream}
    (hreceive : self.worker.connection.receiveFrame = some (.ok frame, rest))
    (hcarried : Protocol.eventOf frame = some message)
    (hconverted : Protocol.convertEvent message = .ok (.streamEnd ended)) :
    self.nextEnd = some ended := by
  simp only [nextEnd, hreceive, hcarried, Option.map_some, hconverted]

theorem NodeStream.nextEnd_carried {self : NodeStream} (h : self.nextEnd = some ended) :
    ∃ frame rest message, self.worker.connection.receiveFrame = some (.ok frame, rest) ∧
      Protocol.eventOf frame = some message ∧
      Protocol.convertEvent message = .ok (.streamEnd ended) := by
  rw [nextEnd] at h
  split at h
  · rename_i frame rest hreceive
    split at h
    · rename_i other hevent
      cases h
      obtain ⟨message, hcarried, hconverted⟩ := Option.map_eq_some_iff.1 hevent
      exact ⟨frame, rest, message, hreceive, hcarried, hconverted⟩
    · cases h
  · cases h

namespace Worker

theorem receive_streamEnd {w : Worker} (h : w.step timeout .receive = some t)
    (hreceiver : w.receiverOpen = true)
    (hreceive : w.connection.receiveFrame = some (.ok frame, rest))
    (hcarried : Protocol.eventOf frame = some message)
    (hconverted : Protocol.convertEvent message = .ok event) :
    .ok (.event event) ∈ t.output ∨ ∃ error, .error error ∈ t.output := by
  have hstatus := step_running h
  rw [step.eq_def, if_neg (not_not.2 hstatus)] at h
  simp only at h
  split at h
  · cases h
  simp only [receive, hreceive] at h
  have hkept := handleFrame_kept { w with connection := rest } frame
  have heffect := handleFrame_effect { w with connection := rest } frame
  generalize handleFrame { w with connection := rest } frame = outcome at h hkept heffect
  have hfailed : ∀ {after : Worker} error, after.receiverOpen = w.receiverOpen →
      .error error ∈ (after.fail error).output := by
    intro after error hafter
    rw [fail_output, hafter, hreceiver]
    simp
  cases heffect with
  | refused =>
    cases h
    exact .inr ⟨_, hfailed _ hkept.receiverOpen⟩
  | control items hnone =>
    rw [hnone] at hcarried
    cases hcarried
  | cut =>
    cases h
    exact .inr ⟨_, hfailed _ hkept.receiverOpen⟩
  | event haccepted hout =>
    cases h
    cases hcarried.symm.trans haccepted.carried
    cases hconverted.symm.trans haccepted.converted
    exact .inl (by rw [hout]; simp)

/-- Unless it is told to close one, a worker sends the end of a stream only when a frame carries
it. -/
theorem step_streamEnd {w : Worker} (h : w.step timeout action = some t)
    (haction : action.isInternal = true ∨ action = .command .shutdown)
    (hmem : .ok (.event (.streamEnd ended)) ∈ t.output) :
    .ok (.event (.streamEnd ended)) ∈ w.output ∨ action = .receive ∧ ∃ frame rest message,
      w.connection.receiveFrame = some (.ok frame, rest) ∧
      Protocol.eventOf frame = some message ∧
      Protocol.convertEvent message = .ok (.streamEnd ended) := by
  have herror : ∀ {receiver : Bool} {error : DcpError},
      (.ok (.event (.streamEnd ended)) : Result DcpStreamItem) ∉
        (if receiver then [.error error] else []) := by
    intro receiver error hmem
    split at hmem <;> simp at hmem
  have hcontrol : ∀ {items : List DcpStreamItem},
      (∀ item ∈ items, ∀ event : DcpEvent, item ≠ .event event) →
      (.ok (.event (.streamEnd ended)) : Result DcpStreamItem) ∉ items.map .ok := by
    intro items hitems hmem
    obtain ⟨item, hitem, heq⟩ := List.mem_map.1 hmem
    cases heq
    exact hitems _ hitem _ rfl
  cases step_effect h with
  | quiet items hitems hout =>
    rw [hout] at hmem
    rcases List.mem_append.1 hmem with hmem | hmem
    · exact .inl hmem
    · exact absurd hmem (hcontrol hitems)
  | event hreceive haccepted hout =>
    rw [hout] at hmem
    rcases List.mem_append.1 hmem with hmem | hmem
    · exact .inl hmem
    · cases List.mem_singleton.1 hmem
      exact .inr ⟨rfl, _, _, _, hreceive, haccepted.carried, haccepted.converted⟩
  | closed => simp [WorkerAction.isInternal] at haction
  | cut hreceive sent hsent hout =>
    rw [hout] at hmem
    rcases List.mem_append.1 hmem with hmem | hmem
    · rcases List.mem_append.1 hmem with hmem | hmem
      · exact .inl hmem
      · cases hsent with
        | control items hitems => exact absurd hmem (hcontrol hitems)
        | event haccepted =>
          cases List.mem_singleton.1 hmem
          exact .inr ⟨rfl, _, _, _, hreceive, haccepted.carried, haccepted.converted⟩
    · exact absurd hmem herror
  | failed _ hout =>
    rw [hout] at hmem
    rcases List.mem_append.1 hmem with hmem | hmem
    · exact .inl hmem
    · exact absurd hmem herror
  | finished _ hout => exact .inl (hout ▸ hmem)
  | stopped _ hout => exact .inl (hout ▸ hmem)

def sampleEnd (vbucket : UInt16) (reason : UInt8) : Frame :=
  { Frame.request Opcode.dcpStreamEnd with
    vbucket
    opaqueId := vbucket.toUInt32 + 5
    extras := [0, 0, 0, reason] }

end Worker

namespace Subscription

/-- The end of a vBucket's stream has been consumed in the current generation. -/
def Received (s : Subscription) (v : UInt16) (reason : StreamEndReason) : Prop :=
  ∃ node, (node, .ok (.event (.streamEnd { vbucket := v, reason }))) ∈ s.current.consumed

/-- A frame that ends a stream says that the stream is complete. -/
def EndsOk (s : Subscription) : SubscriptionAction → Prop
  | .work node .receive =>
    ∀ ended ∈ s.current.streams[node]?.bind NodeStream.nextEnd, ended.reason = .ok
  | _ => True

instance (s : Subscription) (action : SubscriptionAction) : Decidable (s.EndsOk action) := by
  unfold EndsOk
  split <;> infer_instance

def AllOk (s : Subscription) : Prop :=
  ∀ (node : Nat) stream, s.current.streams[node]? = some stream →
    ∀ ended, .ok (.event (.streamEnd ended)) ∈ stream.worker.output → ended.reason = .ok

theorem Fresh.allOk {s : Subscription} (h : s.Fresh config request) : s.AllOk := by
  intro node stream hstream ended hmem
  obtain ⟨opening, hcovers, hstreams⟩ := h.covers
  rw [hstreams] at hstream
  obtain ⟨⟨connection, credit, streamEndOnClose, hworker⟩, -⟩ :=
    hcovers.spawned stream (List.mem_of_getElem? hstream)
  rw [hworker] at hmem
  cases credit with
  | ok credit => cases hmem
  | error error => simp [Worker.spawn] at hmem

theorem Continues.allOk {s t : Subscription} (h : Continues config action s t) (hok : s.AllOk)
    (hallow : s.EndsOk action) : t.AllOk := by
  intro node stream' ht ended hmem
  obtain ⟨stream, hs, -, hworker⟩ := h.streams node stream' ht
  rcases hworker with hworker | ⟨act, rfl, haction, hstep⟩
  · rw [hworker] at hmem
    exact hok node stream hs ended hmem
  · rcases Worker.step_streamEnd hstep haction hmem with
      hmem | ⟨rfl, frame, rest, message, hreceive, hcarried, hconverted⟩
    · exact hok node stream hs ended hmem
    · refine hallow ended ?_
      rw [hs]
      exact NodeStream.nextEnd_eq_some hreceive hcarried hconverted

theorem Driven.complete {s : Subscription} (h : s.Driven) (hcomplete : s.phase = .left .complete)
    (hstream : s.current.streams[(node : Nat)]? = some stream) :
    stream.worker.status ≠ .running ∧
      ∀ item, item ∈ stream.worker.output ↔ (node, item) ∈ s.current.consumed := by
  have hdry := h.dry hcomplete stream (List.mem_of_getElem? hstream)
  simp only [NodeStream.isDry, ne_eq, decide_eq_true_eq] at hdry
  refine ⟨hdry.1, fun item => ?_⟩
  rw [← mem_consumedFrom, (h.cursor node stream hstream).2, hdry.2, List.take_length]

theorem Driven.ended {s : Subscription} (h : s.Driven) (hcomplete : s.phase = .left .complete)
    (hstream : s.current.streams[(node : Nat)]? = some stream)
    (hstate : stream.report.partitions[(v : UInt16)]? = some state) :
    ∃ reason, .ok (.event (.streamEnd { vbucket := v, reason })) ∈ stream.worker.output := by
  have hengaged : s.phase.isEngaged = true := by
    rw [hcomplete]
    rfl
  obtain ⟨hstatus, hconsumed⟩ := h.complete hcomplete hstream
  have haccounts := h.accounts hengaged stream (List.mem_of_getElem? hstream)
  rcases haccounts v state hstate with ⟨event, hevent, hends⟩ | ⟨hrunning, -⟩ | ⟨error, herror⟩
  · obtain ⟨hmem, hvbucket⟩ := mem_eventsOf.1 hevent
    cases event with
    | streamEnd ended =>
      cases hvbucket
      exact ⟨ended.reason, hmem⟩
    | snapshotMarker _ | mutation _ | deletion _ | expiration _ | seqNoAdvanced _ | systemEvent _
    | osoSnapshot _ => cases hends
  · exact absurd hrunning hstatus
  · exact absurd rfl (h.clean hengaged _ ((hconsumed _).1 herror) error)

theorem Driven.allOk_iff {s : Subscription} (h : s.Driven) (hcomplete : s.phase = .left .complete)
    (hassigned : s.Assigned vbuckets) :
    s.AllOk ↔ ∀ v ∈ vbuckets, s.Received v .ok := by
  constructor
  · intro hok v hv
    obtain ⟨node, stream, state, hstream, hstate⟩ := hassigned.opened v hv
    obtain ⟨reason, hmem⟩ := h.ended hcomplete hstream hstate
    have hreason : reason = .ok := hok node stream hstream _ hmem
    subst hreason
    exact ⟨node, ((h.complete hcomplete hstream).2 _).1 hmem⟩
  · intro hreceived node stream hstream ended hmem
    have htracks := h.tracks stream (List.mem_of_getElem? hstream) ended.vbucket
    have hevent : .streamEnd ended ∈ eventsOf ended.vbucket stream.worker.output :=
      mem_eventsOf.2 ⟨hmem, rfl⟩
    cases hstate : stream.report.partitions[ended.vbucket]? with
    | none =>
      rw [htracks.unopened hstate] at hevent
      cases hevent
    | some state =>
      -- the end that was received came from the same stream, and a stream ends once
      obtain ⟨other, hother⟩ := hreceived ended.vbucket
        (hassigned.owned node stream hstream ended.vbucket state hstate)
      have hlt := h.inside _ hother
      have hfrom := List.getElem?_eq_getElem hlt
      have hsent := ((h.complete hcomplete hfrom).2 _).2 hother
      have hend : .streamEnd { vbucket := ended.vbucket, reason := .ok } ∈
          eventsOf ended.vbucket s.current.streams[other].worker.output :=
        mem_eventsOf.2 ⟨hsent, rfl⟩
      have hsame : node = other := by
        cases hopen : s.current.streams[other].report.partitions[ended.vbucket]? with
        | none =>
          rw [(h.tracks _ (List.getElem_mem hlt) ended.vbucket).unopened hopen] at hend
          cases hend
        | some state' => exact hassigned.apart node other _ _ hstream hfrom _ _ _ hstate hopen
      subst hsame
      cases hstream.symm.trans hfrom
      have heq := (htracks.order state hstate).end_unique hevent hend rfl rfl
      cases ended
      cases heq
      rfl

theorem step_work {s : Subscription} (h : s.step config (.work node act) = some t) :
    ∃ stream worker, s.current.streams[node]? = some stream ∧
      stream.worker.step config.flowControl.deadConnectionTimeout act = some worker ∧
      t.current.streams[node]? = some { stream with worker } := by
  simp only [step, work] at h
  split at h
  · split at h
    · cases h
    · rename_i stream hstream
      obtain ⟨worker, hworker, rfl⟩ := Option.map_eq_some_iff.1 h
      refine ⟨stream, worker, hstream, hworker, ?_⟩
      rw [List.getElem?_set_self (List.getElem?_eq_some_iff.1 hstream).1]
  · cases h

theorem allowed_of_allOk {s : Subscription} (h : s.Driven)
    (hrun : Machine.run (step config) s acts = some t) (hpast : t.past.length = s.past.length)
    (hclean : ∀ (node : Nat) stream, t.current.streams[node]? = some stream →
      ∀ error, .error error ∉ stream.worker.output)
    (hok : t.AllOk) : Machine.Allowed (step config) EndsOk s acts := by
  induction acts generalizing s with
  | nil => trivial
  | cons action acts ih =>
    obtain ⟨u, hstep, hrest⟩ := Machine.run_cons_iff.1 hrun
    have hlater := run_past hrest
    rcases step_continues hstep with hnext | hcontinues
    · omega
    · have hupast : t.past.length = u.past.length := hpast.trans hcontinues.past.symm
      refine (Machine.allowed_cons hstep).2 ⟨?_, ih (step_driven h hstep) hrest hupast⟩
      unfold EndsOk
      split
      · rename_i node
        intro ended hended
        obtain ⟨stream, hs, hnext⟩ := Option.bind_eq_some_iff.1 hended
        obtain ⟨frame, rest, message, hreceive, hcarried, hconverted⟩ :=
          NodeStream.nextEnd_carried hnext
        obtain ⟨stream', worker, hs', hworker, hu⟩ := step_work hstep
        cases hs.symm.trans hs'
        obtain ⟨last, hlast, -, hgrown⟩ := (run_grows hrest hupast).forth hu
        rcases Worker.receive_streamEnd hworker (h.receiver stream (List.mem_of_getElem? hs))
          hreceive hcarried hconverted with hmem | ⟨error, hmem⟩
        · exact hok node last hlast ended (hgrown.subset hmem)
        · exact absurd (hgrown.subset hmem) (hclean node last hlast error)
      · trivial

/-- In a run from the opening of a generation to its completion every assigned vBucket has received
the end of its stream, and all of them were completions just when each frame that ended a stream
said so. -/
theorem complete_received (hfresh : s.Fresh config request)
    (hrun : Machine.run (step config) s acts = some t) (hpast : t.past.length = s.past.length)
    (hcomplete : t.phase = .left .complete) :
    (∀ v ∈ request.starts.keys, ∃ reason, t.Received v reason) ∧
    ((∀ v ∈ request.starts.keys, t.Received v .ok) ↔
      Machine.Allowed (step config) EndsOk s acts) := by
  have hdriven : t.Driven :=
    Machine.run_invariant (fun _ _ _ h hstep => step_driven h hstep) hfresh.driven hrun
  have hassigned := hfresh.assigned.grows (run_grows hrun hpast)
  constructor
  · intro v hv
    obtain ⟨node, stream, state, hstream, hstate⟩ := hassigned.opened v hv
    obtain ⟨reason, hmem⟩ := hdriven.ended hcomplete hstream hstate
    exact ⟨reason, node, ((hdriven.complete hcomplete hstream).2 _).1 hmem⟩
  rw [← hdriven.allOk_iff hcomplete hassigned]
  constructor
  · intro hok
    refine allowed_of_allOk hfresh.driven hrun hpast ?_ hok
    intro node stream hstream error herror
    have hengaged : t.phase.isEngaged = true := by
      rw [hcomplete]
      rfl
    have hentry := ((hdriven.complete hcomplete hstream).2 _).1 herror
    exact absurd rfl (hdriven.clean hengaged _ hentry error)
  · intro hallowed
    have hok : s.past.length ≤ t.past.length ∧ (t.past.length = s.past.length → t.AllOk) := by
      refine Machine.run_invariant_allowed (P := fun u : Subscription =>
        s.past.length ≤ u.past.length ∧ (u.past.length = s.past.length → u.AllOk)) ?_
        ⟨le_rfl, fun _ => hfresh.allOk⟩ hrun hallowed
      intro u action v hu hallow hstep
      rcases step_continues hstep with hnext | hcontinues
      · exact ⟨by omega, by omega⟩
      · rw [hcontinues.past]
        exact ⟨hu.1, fun heq => hcontinues.allOk (hu.2 heq) hallow⟩
    exact hok.2 hpast

def sampleEnds (reason : UInt8) : List SubscriptionAction :=
  [.check, .work 0 (.arrive (.ok (Worker.sampleEnd 0 0))),
    .work 0 (.arrive (.ok (Worker.sampleEnd 1 reason))), .work 0 .receive, .work 0 .receive,
    .work 0 .finish, .take 0, .send, .check, .take 0, .send, .check, .exhaust]

theorem complete_received_sample : ∃ request s t,
    Fresh (sampleConfig .finite) request s ∧
    Machine.run (step (sampleConfig .finite)) s (sampleEnds 0) = some t ∧
    t.phase = .left .complete ∧ ∀ v ∈ request.starts.keys, t.Received v .ok := by
  have hsample : ((samplePrepared .finite).toOption.bind fun s =>
      (Machine.run (step (sampleConfig .finite)) s (sampleEnds 0)).map fun t =>
        (t.phase, decide (t.past.length = s.past.length),
          decide (Machine.Allowed (step (sampleConfig .finite)) EndsOk s (sampleEnds 0)))) =
      some (.left .complete, true, true) := by
    decide
  obtain ⟨s, hs, hsample⟩ := Option.bind_eq_some_iff.1 hsample
  obtain ⟨t, ht, hsample⟩ := Option.map_eq_some_iff.1 hsample
  simp only [Prod.mk.injEq, decide_eq_true_eq] at hsample
  obtain ⟨hphase, hpast, hallowed⟩ := hsample
  obtain ⟨request, hfresh⟩ := prepareSubscription_fresh (toOption_eq_some.1 hs)
  exact ⟨request, s, t, hfresh, ht, hphase,
    (complete_received hfresh ht hpast hphase).2.2 hallowed⟩

/-- A producer that gives a vBucket away ends its stream, and the generation is complete all the
same. -/
theorem complete_after_state_change : ∃ request s t,
    Fresh (sampleConfig .finite) request s ∧
    Machine.run (step (sampleConfig .finite)) s (sampleEnds 2) = some t ∧
    t.past.length = s.past.length ∧ t.phase = .left .complete ∧
    (1 : UInt16) ∈ request.starts.keys ∧ t.Received 1 .stateChanged ∧ ¬t.Received 1 .ok := by
  have hsample : ((samplePrepared .finite).toOption.bind fun s =>
      (Machine.run (step (sampleConfig .finite)) s (sampleEnds 2)).map fun t =>
        ((t.phase, decide (t.past.length = s.past.length)), t.current.consumed,
          s.current.streams[0]?.any fun stream => stream.report.partitions[(1 : UInt16)]?.isSome)) =
      some ((.left .complete, true),
        [(0, .ok (.event (.streamEnd ⟨0, .ok⟩))),
          (0, .ok (.event (.streamEnd ⟨1, .stateChanged⟩)))],
        true) := by
    decide
  obtain ⟨s, hs, hsample⟩ := Option.bind_eq_some_iff.1 hsample
  obtain ⟨t, ht, hsample⟩ := Option.map_eq_some_iff.1 hsample
  simp only [Prod.mk.injEq, decide_eq_true_eq, Option.any_eq_true] at hsample
  obtain ⟨⟨hphase, hpast⟩, hconsumed, stream, hstream, hsome⟩ := hsample
  obtain ⟨state, hstate⟩ := Option.isSome_iff_exists.1 hsome
  obtain ⟨request, hfresh⟩ := prepareSubscription_fresh (toOption_eq_some.1 hs)
  refine ⟨request, s, t, hfresh, ht, hpast, hphase,
    hfresh.assigned.owned 0 stream hstream 1 state hstate, ⟨0, ?_⟩, ?_⟩
  · rw [hconsumed]
    simp
  · rintro ⟨node, hnode⟩
    rw [hconsumed] at hnode
    simp at hnode

end Subscription

end RustDcp
