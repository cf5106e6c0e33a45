import RustDcp.Completion

namespace RustDcp
set_option autoImplicit true

def NodeStream.takesEnd (self : NodeStream) : Bool :=
  match self.worker.output[self.taken]? with
  | some (.ok (.event event)) => event.endsStream
  | _ => false

def DriverPhase.isSending : DriverPhase → Bool
  | .sending _ => true
  | _ => false

namespace Subscription

def Closing (s : Subscription) : Prop :=
  (∀ stream ∈ s.current.streams, stream.isDry = true) ∨
  ((s.cancelled = true ∨ s.newerTopology = true) ∧
    (s.phase = .checking ∨ s.phase.isSending = true)) ∨
  (s.receiverOpen = false ∧ s.phase.isSending = true)

instance (s : Subscription) : Decidable s.Closing := inferInstanceAs (Decidable (_ ∨ _ ∨ _))

def endedLast (s : Subscription) : Bool :=
  match s.current.consumed.getLast? with
  | some (_, .ok (.event event)) => event.endsStream
  | _ => false

/-- The end of a stream is taken only as the last item of all, or when the subscription is
cancelled, its receiver is gone or a newer topology is published, and that one is not taken back. -/
def LastEnd (s : Subscription) : SubscriptionAction → Prop
  | .take node => ∀ stream ∈ s.current.streams[node]?, stream.takesEnd = true →
      s.cancelled = true ∨ s.receiverOpen = false ∨ s.newerTopology = true ∨
      ∀ other ∈ s.current.streams.set node { stream with taken := stream.taken + 1 },
        other.isDry = true
  | .publish action => s.endedLast = true → s.Closing →
      ∀ publication ∈ s.publication.step action, Closing { s with publication }
  | _ => True

instance (s : Subscription) (action : SubscriptionAction) : Decidable (s.LastEnd action) := by
  unfold LastEnd
  split <;> infer_instance

/-- The end of a stream is the last item that has been consumed, and nothing can follow it. -/
structure EndsLast (s : Subscription) : Prop where
  last : ∀ before node ended after,
    s.current.consumed = before ++ (node, .ok (.event (.streamEnd ended))) :: after → after = []
  closing : s.phase.isDriving = true → ∀ node ended,
    (node, .ok (.event (.streamEnd ended))) ∈ s.current.consumed → s.Closing

theorem EndsLast.keep {s t : Subscription} (h : s.EndsLast)
    (hconsumed : t.current.consumed = s.current.consumed)
    (hdriving : t.phase.isDriving = true → s.phase.isDriving = true ∧ (s.Closing → t.Closing)) :
    t.EndsLast := by
  refine ⟨?_, ?_⟩
  · rw [hconsumed]
    exact h.last
  · intro ht node ended hmem
    rw [hconsumed] at hmem
    obtain ⟨hs, hclosing⟩ := hdriving ht
    exact hclosing (h.closing hs node ended hmem)

theorem Frame.closing {s t : Subscription} (hframe : Frame s t) (hphase : t.phase = s.phase)
    (hnewer : t.newerTopology = s.newerTopology) (h : s.Closing) : t.Closing := by
  rw [Closing, hframe.current, hphase, hnewer]
  rcases h with hdry | ⟨hcancelled | hnew, hwhere⟩ | ⟨hreceiver, hwhere⟩
  · exact .inl hdry
  · exact .inr (.inl ⟨.inl (hframe.cancelled hcancelled), hwhere⟩)
  · exact .inr (.inl ⟨.inr hnew, hwhere⟩)
  · exact .inr (.inr ⟨hframe.receiverOpen hreceiver, hwhere⟩)

theorem Closing.dry {s : Subscription} (h : s.Closing) (hchecking : s.phase ≠ .checking)
    (hsending : s.phase.isSending = false) :
    ∀ stream ∈ s.current.streams, stream.isDry = true := by
  rcases h with hdry | ⟨-, hphase | hphase⟩ | ⟨-, hphase⟩
  · exact hdry
  · exact absurd hphase hchecking
  · cases hsending.symm.trans hphase
  · cases hsending.symm.trans hphase

theorem EndsLast.endedLast {s : Subscription} (h : s.EndsLast)
    (hmem : (node, .ok (.event (.streamEnd ended))) ∈ s.current.consumed) :
    s.endedLast = true := by
  obtain ⟨before, after, hsplit⟩ := List.append_of_mem hmem
  cases h.last before node ended after hsplit
  rw [Subscription.endedLast, hsplit, List.getLast?_concat]
  rfl

theorem Closing.turn {s t : Subscription} (h : s.Closing) (hframe : Frame s t)
    (hturn : Turn config s t.phase) (hnewer : t.newerTopology = s.newerTopology)
    (hdriving : t.phase.isDriving = true) : t.Closing := by
  generalize hphase : t.phase = phase at hturn
  have hdry : (∀ stream ∈ s.current.streams, stream.isDry = true) → t.Closing := by
    intro hdry
    rw [Closing, hframe.current]
    exact .inl hdry
  cases hturn with
  | selecting hchecking hcancelled hold =>
    rcases h with h | ⟨h | h, -⟩ | ⟨-, h⟩
    · exact hdry h
    · cases hcancelled.symm.trans h
    · cases hold.symm.trans h
    · rw [hchecking] at h
      cases h
  | again hfrom =>
    apply hdry
    rcases hfrom with hfrom | ⟨call, hfrom⟩ | hfrom
    all_goals
      refine h.dry (by simp [hfrom]) ?_
      rw [hfrom]
      rfl
  | sent hsending hreceiver =>
    rcases h with h | ⟨h | h, -⟩ | ⟨h, -⟩
    · exact hdry h
    · exact .inr (.inl ⟨.inl (hframe.cancelled h), .inl hphase⟩)
    · exact .inr (.inl ⟨.inr (hnewer.trans h), .inl hphase⟩)
    · cases hreceiver.symm.trans h
  | left | exhausted | retrying | opening | ended =>
    rw [hphase] at hdriving
    cases hdriving

theorem Turn.driving {s : Subscription} {phase : DriverPhase} (h : Turn config s phase)
    (hphase : phase.isDriving = true) : s.phase.isDriving = true := by
  cases h with
  | selecting h _ _ | sent h _ =>
    rw [h]
    rfl
  | again h =>
    rcases h with h | ⟨call, h⟩ | h
    all_goals
      rw [h]
      rfl
  | left | exhausted | retrying | opening | ended => cases hphase

theorem Handles.streamEnd {s : Subscription}
    (h : Handles config s (.ok (.event (.streamEnd ended))) t)
    (hdriving : t.phase.isDriving = true) :
    t.cancelled = s.cancelled ∧ t.receiverOpen = s.receiverOpen ∧
      t.newerTopology = s.newerTopology ∧ t.phase.isSending = true := by
  cases h with
  | ignored hevent => exact absurd rfl (hevent _)
  | left _ _ hphase =>
    rw [hphase] at hdriving
    cases hdriving
  | held hposition => cases hposition
  | delivered hdelivers =>
    cases hdelivers with
    | failed _ hphase =>
      rw [hphase] at hdriving
      cases hdriving
    | tracked _ _ _ _ _ _ _ hcancelled hreceiver hphase hnewer =>
      rcases hphase with ⟨hcutoff, -⟩ | ⟨output, hsending⟩
      · rw [documentIsBeforeListenerCutoff] at hcutoff
        cases config.skipUntil <;> simp [DcpEvent.cas?] at hcutoff
      · exact ⟨hcancelled, hreceiver, hnewer, by rw [hsending]; rfl⟩

theorem EndsLast.took {s : Subscription} (h : s.EndsLast) (hallow : s.LastEnd (.take node))
    (hphase : s.phase = .selecting) (hstream : s.current.streams[node]? = some stream)
    (hitem : stream.worker.output[stream.taken]? = some item)
    (hhandles : Handles config (s.taking node stream item) item t) : t.EndsLast := by
  obtain ⟨hstreams, hconsumed, -⟩ := hhandles.current
  -- an end before would have left nothing to take
  have hnone : ∀ node ended, (node, .ok (.event (.streamEnd ended))) ∉ s.current.consumed := by
    intro other ended hmem
    have hclosing := h.closing (by rw [hphase]; rfl) other ended hmem
    have hdry := hclosing.dry (by simp [hphase]) (by rw [hphase]; rfl) stream
      (List.mem_of_getElem? hstream)
    simp only [NodeStream.isDry, decide_eq_true_eq] at hdry
    rw [hdry.2, List.getElem?_eq_none le_rfl] at hitem
    cases hitem
  refine ⟨?_, ?_⟩
  · intro before other ended after hsplit
    rw [hconsumed, taking] at hsplit
    rcases append_singleton_eq_split hsplit with ⟨hnil, -⟩ | ⟨rest, -, hbefore⟩
    · exact hnil
    · exact absurd (by rw [hbefore]; simp) (hnone other ended)
  · intro hdriving other ended hmem
    rw [hconsumed, taking] at hmem
    rcases List.mem_append.1 hmem with hmem | hmem
    · exact absurd hmem (hnone other ended)
    · obtain ⟨rfl, rfl⟩ := Prod.mk.inj (List.mem_singleton.1 hmem)
      obtain ⟨hcancelled, hreceiver, hnewer, hsending⟩ := hhandles.streamEnd hdriving
      have htakes : stream.takesEnd = true := by
        simp only [NodeStream.takesEnd, hitem, DcpEvent.endsStream]
      rcases hallow stream hstream htakes with h | h | h | h
      · exact .inr (.inl ⟨.inl (hcancelled.trans h), .inr hsending⟩)
      · exact .inr (.inr ⟨hreceiver.trans h, hsending⟩)
      · exact .inr (.inl ⟨.inr (hnewer.trans h), .inr hsending⟩)
      · refine .inl ?_
        rw [hstreams]
        exact h

theorem step_endsLast {s : Subscription} (h : s.EndsLast) (hallow : s.LastEnd action)
    (hstep : s.step config action = some t) : t.EndsLast := by
  cases step_effect hstep with
  | outside hframe hphase hnewer =>
    rcases hnewer with ⟨act, rfl⟩ | hnewer
    · obtain ⟨publication, hpublish, rfl⟩ := Option.map_eq_some_iff.1 hstep
      refine ⟨h.last, fun hdriving node ended hmem => ?_⟩
      exact hallow (h.endedLast hmem) (h.closing hdriving node ended hmem) publication hpublish
    · refine h.keep (by rw [hframe.current]) ?_
      rw [hphase]
      exact fun hs => ⟨hs, hframe.closing hphase hnewer⟩
  | turned hframe hturn hnewer =>
    exact h.keep (by rw [hframe.current]) fun ht =>
      ⟨hturn.driving ht, fun hclosing => hclosing.turn hframe hturn hnewer ht⟩
  | system _ _ hphase hframe hnewer =>
    refine h.keep (by rw [hframe.current]) fun ht => ?_
    rcases hphase with hphase | ⟨⟨token, hskipping⟩, hphase⟩
    · refine ⟨by rw [← hphase]; exact ht, fun hclosing => ?_⟩
      exact hframe.closing hphase hnewer hclosing
    · refine ⟨by rw [hskipping]; rfl, fun hclosing => ?_⟩
      rw [Closing, hframe.current]
      exact .inl (hclosing.dry (by simp [hskipping]) (by rw [hskipping]; rfl))
  | worked _ _ hstream hworker =>
    refine h.keep rfl fun ht => ⟨ht, fun hclosing => ?_⟩
    rcases hclosing with hdry | hclosing
    · have hdry := hdry _ (List.mem_of_getElem? hstream)
      simp only [NodeStream.isDry, ne_eq, decide_eq_true_eq] at hdry
      exact absurd (Worker.step_running hworker) hdry.1
    · exact .inr hclosing
  | took hphase hstream hitem hhandles => exact h.took hallow hphase hstream hitem hhandles
  | released hphase hdelivers =>
    obtain ⟨hstreams, hconsumed, -⟩ := hdelivers.current
    refine h.keep hconsumed fun _ => ⟨by rw [hphase]; rfl, fun hclosing => ?_⟩
    rw [Closing, hstreams]
    exact .inl (hclosing.dry (by simp [hphase]) (by rw [hphase]; rfl))
  | reopened _ _ _ hcurrent _ _ _ _ =>
    refine ⟨?_, ?_⟩
    · rw [hcurrent]
      simp
    · rw [hcurrent]
      simp

theorem step_not_complete {s : Subscription} (hmode : config.mode = .infinite)
    (h : s.phase ≠ .left .complete) (hstep : s.step config action = some t) :
    t.phase ≠ .left .complete := by
  cases step_effect hstep with
  | outside _ hphase =>
    rw [hphase]
    exact h
  | turned _ hturn =>
    intro hcomplete
    rw [hcomplete] at hturn
    cases hturn with
    | left _ haction => exact haction rfl
    | exhausted _ _ hfinite =>
      rw [hmode] at hfinite
      cases hfinite
  | system _ _ hphase _ =>
    rcases hphase with hphase | ⟨-, hphase | ⟨error, hphase⟩⟩
    · rw [hphase]
      exact h
    · simp [hphase]
    · simp [hphase]
  | worked => exact h
  | took _ _ _ hhandles => exact hhandles.phase
  | released _ hdelivers => exact hdelivers.phase
  | reopened _ _ _ _ _ _ _ hafter => simp [hafter]

/-- The vBucket is an active partition of a worker that runs. -/
def Active (s : Subscription) (v : UInt16) : Prop :=
  ∃ stream ∈ s.current.streams, stream.worker.status = .running ∧
    ∃ p, stream.worker.partitions[v]? = some p

/-- The end of the vBucket's stream, or an error of its worker, is still to be taken. -/
def Queued (s : Subscription) (v : UInt16) : Prop :=
  ∃ stream ∈ s.current.streams, stream.report.partitions[v]?.isSome = true ∧
    ∃ item ∈ stream.worker.output.drop stream.taken, (∃ error, item = .error error) ∨
      ∃ reason, item = .ok (.event (.streamEnd { vbucket := v, reason }))

/-- The end of the vBucket's stream is the item that was consumed last. -/
def JustEnded (s : Subscription) (v : UInt16) : Prop :=
  ∃ before node reason, s.current.consumed =
    before ++ [(node, .ok (.event (.streamEnd { vbucket := v, reason })))]

theorem Driven.served {s : Subscription} (h : s.Driven) (hlast : s.EndsLast)
    (hdriving : s.phase.isDriving = true) (hassigned : s.Assigned vbuckets) (hv : v ∈ vbuckets) :
    s.Active v ∨ s.Queued v ∨ s.JustEnded v := by
  have hengaged := DriverPhase.isEngaged_of_driving hdriving
  obtain ⟨node, stream, state, hstream, hstate⟩ := hassigned.opened v hv
  have hmem := List.mem_of_getElem? hstream
  have hopen : stream.report.partitions[v]?.isSome = true := by
    rw [hstate]
    rfl
  have hsplit : ∀ item ∈ stream.worker.output,
      (node, item) ∈ s.current.consumed ∨ item ∈ stream.worker.output.drop stream.taken := by
    intro item hitem
    rw [← mem_consumedFrom, (h.cursor node stream hstream).2, ← List.mem_append,
      List.take_append_drop]
    exact hitem
  rcases h.accounts hengaged stream hmem v state hstate with
    ⟨event, hevent, hends⟩ | hactive | ⟨error, herror⟩
  · obtain ⟨hsent, hvbucket⟩ := mem_eventsOf.1 hevent
    cases event with
    | streamEnd ended =>
      cases hvbucket
      rcases hsplit _ hsent with hconsumed | hqueued
      · obtain ⟨before, after, hbefore⟩ := List.append_of_mem hconsumed
        cases hlast.last before node ended after hbefore
        exact .inr (.inr ⟨before, node, ended.reason, hbefore⟩)
      · exact .inr (.inl ⟨stream, hmem, hopen, _, hqueued, .inr ⟨ended.reason, rfl⟩⟩)
    | snapshotMarker _ | mutation _ | deletion _ | expiration _ | seqNoAdvanced _ | systemEvent _
    | osoSnapshot _ => cases hends
  · exact .inl ⟨stream, hmem, hactive⟩
  · rcases hsplit _ herror with hconsumed | hqueued
    · exact absurd rfl (h.clean hengaged _ hconsumed error)
    · exact .inr (.inl ⟨stream, hmem, hopen, _, hqueued, .inl ⟨error, rfl⟩⟩)

/-- Where the driver has a reason to leave the generation when it takes the end of a stream, nothing
is consumed after it, the generation is not left as complete, and no assigned vBucket is lost while
the driver goes on. -/
theorem streamEnd_consumed_last (hmode : config.mode = .infinite) (hfresh : s.Fresh config request)
    (hrun : Machine.run (step config) s acts = some t)
    (hallowed : Machine.Allowed (step config) LastEnd s acts)
    (hpast : t.past.length = s.past.length) :
    (∀ before node ended after,
      t.current.consumed = before ++ (node, .ok (.event (.streamEnd ended))) :: after →
        after = []) ∧
    t.phase ≠ .left .complete ∧
    (t.phase.isDriving = true → ∀ v ∈ request.starts.keys,
      t.Active v ∨ t.Queued v ∨ t.JustEnded v) := by
  have hstart : s.EndsLast := by
    refine ⟨?_, ?_⟩
    · rw [hfresh.consumed]
      simp
    · rw [hfresh.consumed]
      simp
  have hlast : t.EndsLast :=
    Machine.run_invariant_allowed (fun _ _ _ h hallow hstep => step_endsLast h hallow hstep)
      hstart hrun hallowed
  have hdriven : t.Driven :=
    Machine.run_invariant (fun _ _ _ h hstep => step_driven h hstep) hfresh.driven hrun
  have hcomplete : t.phase ≠ .left .complete :=
    Machine.run_invariant (P := fun u : Subscription => u.phase ≠ .left .complete)
      (fun _ _ _ h hstep => step_not_complete hmode h hstep) (by simp [hfresh.phase]) hrun
  have hassigned := hfresh.assigned.grows (run_grows hrun hpast)
  exact ⟨hlast.last, hcomplete, fun hdriving v hv => hdriven.served hlast hdriving hassigned hv⟩

def samplePreparedAlone : Result Subscription :=
  prepareSubscription (sampleConfig .infinite) (.external ((∅ : BTreeSet UInt16).insert 0))
    (.start sampleTopology) (.ok ∅) fun _ => sampleNode

def sampleLastEnd : List SubscriptionAction :=
  [.check, .work 0 (.arrive (.ok (Worker.sampleEnd 0 2))), .work 0 .receive, .work 0 .finish,
    .take 0]

theorem streamEnd_consumed_last_sample : ∃ request s t,
    Fresh (sampleConfig .infinite) request s ∧
    Machine.run (step (sampleConfig .infinite)) s sampleLastEnd = some t ∧
    t.current.consumed = [(0, .ok (.event (.streamEnd ⟨0, .stateChanged⟩)))] ∧
    ∀ v ∈ request.starts.keys, t.Active v ∨ t.Queued v ∨ t.JustEnded v := by
  have hsample : (samplePreparedAlone.toOption.bind fun s =>
      (Machine.run (step (sampleConfig .infinite)) s sampleLastEnd).map fun t =>
        ((t.phase.isDriving, decide (t.past.length = s.past.length)), t.current.consumed,
          decide (Machine.Allowed (step (sampleConfig .infinite)) LastEnd s sampleLastEnd))) =
      some ((true, true), [(0, .ok (.event (.streamEnd ⟨0, .stateChanged⟩)))], true) := by
    decide
  obtain ⟨s, hs, hsample⟩ := Option.bind_eq_some_iff.1 hsample
  obtain ⟨t, ht, hsample⟩ := Option.map_eq_some_iff.1 hsample
  simp only [Prod.mk.injEq, decide_eq_true_eq] at hsample
  obtain ⟨⟨hdriving, hpast⟩, hconsumed, hallowed⟩ := hsample
  obtain ⟨request, hfresh⟩ := prepareSubscription_fresh (toOption_eq_some.1 hs)
  exact ⟨request, s, t, hfresh, ht, hconsumed,
    (streamEnd_consumed_last rfl hfresh ht hallowed hpast).2.2 hdriving⟩

/-- The stream of vBucket 1 ends, and an item of vBucket 0 comes after it. -/
def sampleAbandoned : List SubscriptionAction :=
  [.check, .work 0 (.arrive (.ok (Worker.sampleEnd 1 2))),
    .work 0 (.arrive (.ok (Worker.sampleMarker 0))), .work 0 .receive, .work 0 .receive, .take 0,
    .send, .check, .take 0, .send, .check]

/-- The driver goes on after the end of a stream: it has consumed an item of another vBucket and
waits for more, while no worker has the ended vBucket and nothing of it is queued. -/
theorem streamEnd_abandons : ∃ request s t ended marker,
    Fresh (sampleConfig .infinite) request s ∧
    Machine.run (step (sampleConfig .infinite)) s sampleAbandoned = some t ∧
    t.past.length = s.past.length ∧ t.phase = .selecting ∧
    t.current.consumed = [(0, .ok (.event (.streamEnd ended))), (0, .ok (.event marker))] ∧
    ended.vbucket ∈ request.starts.keys ∧ marker.vbucket ≠ ended.vbucket ∧
    ∀ stream ∈ t.current.streams, stream.worker.partitions[ended.vbucket]? = none ∧
      stream.worker.output.drop stream.taken = [] := by
  have hsample : ((samplePrepared .infinite).toOption.bind fun s =>
      (Machine.run (step (sampleConfig .infinite)) s sampleAbandoned).map fun t =>
        ((t.phase, decide (t.past.length = s.past.length)), t.current.consumed,
          (s.current.streams[0]?.any fun stream =>
            stream.report.partitions[(1 : UInt16)]?.isSome) &&
          decide (∀ stream ∈ t.current.streams, stream.worker.partitions[(1 : UInt16)]? = none ∧
            stream.worker.output.drop stream.taken = []))) =
      some ((.selecting, true), [(0, .ok (.event (.streamEnd ⟨1, .stateChanged⟩))),
        (0, .ok (.event (.snapshotMarker ⟨0, 0, 9, 1, none, none, none⟩)))], true) := by
    decide
  obtain ⟨s, hs, hsample⟩ := Option.bind_eq_some_iff.1 hsample
  obtain ⟨t, ht, hsample⟩ := Option.map_eq_some_iff.1 hsample
  simp only [Prod.mk.injEq, decide_eq_true_eq, Bool.and_eq_true, Option.any_eq_true] at hsample
  obtain ⟨⟨hphase, hpast⟩, hconsumed, ⟨stream, hstream, hsome⟩, hgone⟩ := hsample
  obtain ⟨state, hstate⟩ := Option.isSome_iff_exists.1 hsome
  obtain ⟨request, hfresh⟩ := prepareSubscription_fresh (toOption_eq_some.1 hs)
  exact ⟨request, s, t, _, _, hfresh, ht, hpast, hphase, hconsumed,
    hfresh.assigned.owned 0 stream hstream 1 state hstate, by decide, hgone⟩

end Subscription

end RustDcp
