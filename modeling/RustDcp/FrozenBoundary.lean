import RustDcp.SubscriptionSteps

namespace RustDcp
set_option autoImplicit true

theorem keys_map (map : BTreeMap UInt16 α) (f : UInt16 → α → β) : (map.map f).keys = map.keys := by
  simp only [← Std.ExtTreeMap.map_fst_toList_eq_keys, Std.ExtTreeMap.toList_map, List.map_map]
  rfl

theorem keys_eq_of_isSome {m : BTreeMap UInt16 α} {n : BTreeMap UInt16 β}
    (h : ∀ v : UInt16, m[v]?.isSome = n[v]?.isSome) : m.keys = n.keys := by
  have hunit : (m.map fun _ _ => ()) = n.map fun _ _ => () := by
    apply Std.ExtTreeMap.ext_getElem?
    intro v
    have hv := h v
    rw [Std.ExtTreeMap.getElem?_map, Std.ExtTreeMap.getElem?_map]
    cases hm : m[v]? with
    | none =>
      cases hn : n[v]? with
      | none => rfl
      | some b => simp [hm, hn] at hv
    | some a =>
      cases hn : n[v]? with
      | none => simp [hm, hn] at hv
      | some b => rfl
  rw [← keys_map m fun _ _ => (), hunit, keys_map]

theorem streamEndBehind_eq_ok {entries : List (UInt16 × DcpCheckpoint)}
    {endSeqnos : BTreeMap UInt16 Nat}
    (h : ∀ entry ∈ entries, entry.2.seqno ≤ endSeqnos.getD entry.1 0) :
    streamEndBehind endSeqnos entries = .ok () := by
  induction entries with
  | nil => rfl
  | cons entry entries ih =>
    obtain ⟨hfirst, hrest⟩ := List.forall_mem_cons.1 h
    simp only [streamEndBehind, if_neg (Nat.not_lt.2 hfirst)]
    exact ih hrest

namespace Opening.Covers

theorem effective_isSome (h : Covers request request.starts.keys opening) (v : UInt16) :
    opening.effectiveCheckpoints[v]?.isSome = true ↔ v ∈ request.starts.keys := by
  constructor
  · intro hsome
    by_contra hv
    rw [(h.absent v hv).1] at hsome
    cases hsome
  · intro hv
    obtain ⟨stream, hstream, state, hstate⟩ := h.opened v hv
    rw [(h.fits stream hstream v state hstate).2.1]
    rfl

theorem effective_state (h : Covers request request.starts.keys opening)
    (hc : opening.effectiveCheckpoints[(v : UInt16)]? = some c) :
    ∃ stream ∈ opening.streams, ∃ state, stream.report.partitions[v]? = some state ∧
      state.Fits request v ∧ c = state.effectiveCheckpoint ∧
      opening.endSeqnos[v]? = some state.endSeqno := by
  have hv : v ∈ request.starts.keys := (h.effective_isSome v).1 (by rw [hc]; rfl)
  obtain ⟨stream, hstream, state, hstate⟩ := h.opened v hv
  obtain ⟨hfits, heffective, hend⟩ := h.fits stream hstream v state hstate
  exact ⟨stream, hstream, state, hstate, hfits, Option.some.inj (hc.symm.trans heffective), hend⟩

theorem endSeqnos_eq (h : Covers request request.starts.keys opening)
    (hfrozen : request.frozenEndSeqnos = some frozen)
    (hkeys : ∀ (v : UInt16) e, frozen[v]? = some e → v ∈ request.starts.keys) :
    opening.endSeqnos = frozen := by
  apply Std.ExtTreeMap.ext_getElem?
  intro v
  by_cases hv : v ∈ request.starts.keys
  · obtain ⟨stream, hstream, state, hstate⟩ := h.opened v hv
    obtain ⟨hfits, -, hend⟩ := h.fits stream hstream v state hstate
    rw [hend, hfits.frozen frozen hfrozen]
  · rw [(h.absent v hv).2]
    cases he : frozen[v]? with
    | none => rfl
    | some e => exact absurd (hkeys v e he) hv

theorem validate (h : Covers request request.starts.keys opening) (hstreams : opening.streams ≠ [])
    (hfrozen : ∀ frozen, request.frozenEndSeqnos = some frozen →
      ∀ (v : UInt16) e, frozen[v]? = some e → v ∈ request.starts.keys) :
    opening.validate request = .ok () := by
  have heffective : request.starts.keys = opening.effectiveCheckpoints.keys := by
    apply keys_eq_of_isSome
    intro v
    rw [Bool.eq_iff_iff, h.effective_isSome v, Std.ExtTreeMap.mem_keys,
      Std.ExtTreeMap.mem_iff_isSome_getElem?]
  have hends : request.starts.keys = opening.endSeqnos.keys := by
    rw [heffective]
    apply keys_eq_of_isSome
    intro v
    cases hc : opening.effectiveCheckpoints[v]? with
    | none =>
      have hv : v ∉ request.starts.keys := by
        rw [← h.effective_isSome v, hc]
        simp
      rw [(h.absent v hv).2]
      rfl
    | some c =>
      obtain ⟨-, -, state, -, -, -, hend⟩ := h.effective_state hc
      rw [hend]
      rfl
  have hsame : request.frozenEndSeqnos.getD opening.endSeqnos = opening.endSeqnos := by
    cases hf : request.frozenEndSeqnos with
    | none => rfl
    | some frozen => exact (h.endSeqnos_eq hf (hfrozen frozen hf)).symm
  have hbehind : streamEndBehind opening.endSeqnos opening.effectiveCheckpoints.toList =
      .ok () := by
    apply streamEndBehind_eq_ok
    rintro ⟨v, c⟩ hentry
    obtain ⟨-, -, state, -, hfits, rfl, hend⟩ :=
      h.effective_state (Std.ExtTreeMap.mem_toList_iff_getElem?_eq_some.1 hentry)
    rw [Std.ExtTreeMap.getD_eq_getD_getElem?, hend, hfits.effective]
    exact hfits.bounded
  have hcount : opening.streams.length ≠ 0 := by
    rw [ne_eq, List.length_eq_zero_iff]
    exact hstreams
  simp only [Opening.validate, validateOpenedPartitions, ← heffective, ← hends, ne_eq,
    not_true_eq_false, ↓reduceIte, hsame, hbehind, hcount]

end Opening.Covers

namespace Subscription

structure Bounded (s : Subscription) : Prop where
  tracks : ∀ stream ∈ s.current.streams, ∀ v : UInt16,
    stream.worker.Tracks stream.report.partitions v
  ends : ∀ stream ∈ s.current.streams, ∀ (v : UInt16) state,
    stream.report.partitions[v]? = some state → s.frozenEndSeqnos[v]? = some state.endSeqno
  held : ∀ event call n, s.phase = .mitigating event call → event.seqno = some n →
    ∃ e, s.frozenEndSeqnos[event.vbucket]? = some e ∧ n ≤ e
  partitions : ∀ (v : UInt16) p, s.system.state.partitions[v]? = some p →
    p.Holds fun c => ∃ e, s.frozenEndSeqnos[v]? = some e ∧ c.seqno ≤ e
  owned : ∀ (v : UInt16) e, s.frozenEndSeqnos[v]? = some e →
    ∃ p, s.system.state.partitions[v]? = some p
  captured : ∀ snap starts, s.phase = .opening snap starts → ∀ v : UInt16,
    (∀ c, starts[v]? = some c → ∃ e, s.frozenEndSeqnos[v]? = some e ∧ c.seqno ≤ e) ∧
    ∀ e, s.frozenEndSeqnos[v]? = some e → ∃ c, starts[v]? = some c

theorem Bounded.emitted {s : Subscription} (h : s.Bounded) (hstream : stream ∈ s.current.streams)
    (hitem : .ok (.event event) ∈ stream.worker.output) (hn : event.seqno = some n) :
    ∃ e, s.frozenEndSeqnos[event.vbucket]? = some e ∧ n ≤ e := by
  have htracks := h.tracks stream hstream event.vbucket
  have hmem : event ∈ eventsOf event.vbucket stream.worker.output :=
    List.mem_filterMap.2 ⟨_, hitem, by simp⟩
  cases hstate : stream.report.partitions[event.vbucket]? with
  | none =>
    rw [htracks.unopened hstate] at hmem
    cases hmem
  | some state =>
    refine ⟨state.endSeqno, h.ends stream hstream _ state hstate, ?_⟩
    exact ((htracks.order state hstate).bounded n (List.mem_filterMap.2 ⟨event, hmem, hn⟩)).2

theorem Bounded.system_step {s : Subscription} {act : Action} (h : s.Bounded)
    (hevent : ∀ event n, act = .track event → event.seqno = some n →
      ∃ e, s.frozenEndSeqnos[event.vbucket]? = some e ∧ n ≤ e)
    (hrebase : ∀ effective, act = .rebase effective → ∀ (v : UInt16) c, effective[v]? = some c →
      ∃ e, s.frozenEndSeqnos[v]? = some e ∧ c.seqno ≤ e)
    (hstep : s.system.step act = some after) :
    (∀ (v : UInt16) p, after.state.partitions[v]? = some p →
      p.Holds fun c => ∃ e, s.frozenEndSeqnos[v]? = some e ∧ c.seqno ≤ e) ∧
    ∀ (v : UInt16) e, s.frozenEndSeqnos[v]? = some e →
      ∃ p, after.state.partitions[v]? = some p := by
  constructor
  · refine System.step_holds (P := fun v c => ∃ e, s.frozenEndSeqnos[v]? = some e ∧ c.seqno ≤ e)
      ?_ ?_ h.partitions hstep
    · intro event hact c n window hn _ _ _
      rw [DcpCheckpoint.afterEvent_seqno]
      exact hevent event n hact hn
    · intro effective hact v c hc _
      exact hrebase effective hact v c hc
  · intro v e he
    obtain ⟨p, hp⟩ := h.owned v e he
    obtain ⟨q, hq, -⟩ := System.step_moves hstep hp
    exact ⟨q, hq⟩

/-- A step that keeps the streams, and in which the task takes up neither an event nor the starts
of an attempt. -/
theorem Bounded.keep {s t : Subscription} (h : s.Bounded)
    (hstreams : t.current.streams = s.current.streams)
    (hfrozen : t.frozenEndSeqnos = s.frozenEndSeqnos)
    (hpartitions : ∀ (v : UInt16) p, t.system.state.partitions[v]? = some p →
      p.Holds fun c => ∃ e, s.frozenEndSeqnos[v]? = some e ∧ c.seqno ≤ e)
    (howned : ∀ (v : UInt16) e, s.frozenEndSeqnos[v]? = some e →
      ∃ p, t.system.state.partitions[v]? = some p)
    (hphase : t.phase = s.phase ∨ (∀ event call, t.phase ≠ .mitigating event call) ∧
      ∀ snap starts, t.phase ≠ .opening snap starts) : t.Bounded := by
  refine ⟨?_, ?_, ?_, ?_, ?_, ?_⟩
  · rw [hstreams]
    exact h.tracks
  · rw [hstreams, hfrozen]
    exact h.ends
  · intro event call n hheld hn
    rw [hfrozen]
    rcases hphase with hphase | ⟨hphase, -⟩
    · exact h.held event call n (hphase ▸ hheld) hn
    · exact absurd hheld (hphase event call)
  · rw [hfrozen]
    exact hpartitions
  · rw [hfrozen]
    exact howned
  · intro snap starts hopening
    rw [hfrozen]
    rcases hphase with hphase | ⟨-, hphase⟩
    · exact h.captured snap starts (hphase ▸ hopening)
    · exact absurd hopening (hphase snap starts)

theorem Bounded.frame {s t : Subscription} (h : s.Bounded) (hframe : Frame s t)
    (hphase : t.phase = s.phase ∨ (∀ event call, t.phase ≠ .mitigating event call) ∧
      ∀ snap starts, t.phase ≠ .opening snap starts) : t.Bounded := by
  refine h.keep (by rw [hframe.current]) hframe.frozenEndSeqnos ?_ ?_ hphase
  · rw [hframe.system]
    exact h.partitions
  · rw [hframe.system]
    exact h.owned

theorem Bounded.deliver {s : Subscription} (h : s.Bounded)
    (hevent : ∀ n, event.seqno = some n →
      ∃ e, s.frozenEndSeqnos[event.vbucket]? = some e ∧ n ≤ e)
    (hdelivers : Delivers config s event t) : t.Bounded := by
  cases hdelivers with
  | failed hframe hphase => exact h.frame hframe (.inr (by simp [hphase]))
  | tracked hvbucket hseqno hstep htrack hcurrent hpast hfrozen _ _ hphase =>
    obtain ⟨hpartitions, howned⟩ := h.system_step
      (fun event' n hact hn => by
        cases hact
        rw [hvbucket]
        exact hevent n (hseqno ▸ hn))
      (fun effective hact => by cases hact) hstep
    refine h.keep (by rw [hcurrent]) hfrozen hpartitions howned (.inr ?_)
    rcases hphase with ⟨-, hphase⟩ | ⟨output, hphase⟩
    · simp [hphase]
    · simp [hphase]

theorem Bounded.set {s : Subscription} (h : s.Bounded)
    (hstream : s.current.streams[node]? = some stream)
    (hreport : stream'.report = stream.report)
    (htracks : ∀ v : UInt16, stream'.worker.Tracks stream.report.partitions v) :
    Bounded { s with current := { s.current with
      streams := s.current.streams.set node stream', consumed } } := by
  have hmem := List.mem_of_getElem? hstream
  refine ⟨?_, ?_, h.held, h.partitions, h.owned, h.captured⟩
  · intro other hother v
    rcases List.mem_or_eq_of_mem_set hother with hother | rfl
    · exact h.tracks other hother v
    · rw [hreport]
      exact htracks v
  · intro other hother v state hstate
    rcases List.mem_or_eq_of_mem_set hother with hother | rfl
    · exact h.ends other hother v state hstate
    · exact h.ends stream hmem v state (hreport ▸ hstate)

theorem Bounded.turn {s t : Subscription} (h : s.Bounded) (hframe : Frame s t)
    (hturn : Turn config s t.phase) : t.Bounded := by
  generalize hphase : t.phase = phase at hturn
  cases hturn with
  | @opening snap hretrying =>
    have hkeep := h.frame (t := { t with phase := s.phase })
      ⟨hframe.1, hframe.2, hframe.3, hframe.4, hframe.5, hframe.6⟩ (.inl rfl)
    refine ⟨hkeep.tracks, hkeep.ends, ?_, hkeep.partitions, hkeep.owned, ?_⟩
    · intro event call n hheld
      rw [hphase] at hheld
      cases hheld
    · intro snap' starts hopening v
      rw [hphase] at hopening
      cases hopening
      rw [hframe.frozenEndSeqnos]
      simp only [CoordinatorState.processedCheckpoints, Std.ExtTreeMap.getElem?_map,
        Option.map_eq_some_iff]
      constructor
      · rintro c ⟨p, hp, rfl⟩
        exact (h.partitions v p hp).processed
      · intro e he
        obtain ⟨p, hp⟩ := h.owned v e he
        exact ⟨p.processed, p, hp, rfl⟩
  | selecting | again | sent | left | exhausted | retrying | ended =>
    exact h.frame hframe (.inr (by simp [hphase]))

theorem Bounded.handle {s : Subscription} (h : s.Bounded)
    (hevent : ∀ event n, item = .ok (.event event) → event.seqno = some n →
      ∃ e, s.frozenEndSeqnos[event.vbucket]? = some e ∧ n ≤ e)
    (hhandles : Handles config s item t) : t.Bounded := by
  cases hhandles with
  | ignored _ hframe hphase =>
    refine h.frame hframe (.inr ?_)
    rcases hphase with hphase | ⟨call, hphase⟩
    · simp [hphase]
    · simp [hphase]
  | left hframe _ hphase => exact h.frame hframe (.inr (by simp [hphase]))
  | held _ hframe hphase =>
    have hkeep := h.frame (t := { t with phase := s.phase })
      ⟨hframe.1, hframe.2, hframe.3, hframe.4, hframe.5, hframe.6⟩ (.inl rfl)
    refine ⟨hkeep.tracks, hkeep.ends, ?_, hkeep.partitions, hkeep.owned, ?_⟩
    · intro event call n hheld hn
      rw [hphase] at hheld
      cases hheld
      rw [hframe.frozenEndSeqnos]
      exact hevent _ n rfl hn
    · intro snap starts hopening
      rw [hphase] at hopening
      cases hopening
  | delivered hdelivers => exact h.deliver (fun n hn => hevent _ n rfl hn) hdelivers

/-- The streams of an accepted generation start at or before the captured positions, and end at
the frozen ones. -/
theorem Bounded.reopen {s t : Subscription} (h : s.Bounded)
    (hopened : openTokioGeneration config (s.reopenRequest snap starts) answers = .ok opened)
    (haccept : s.system.acceptReopenedGeneration starts s.frozenEndSeqnos opened.opened =
      (.ok (), t.system))
    (hstreams : t.current.streams = opened.streams)
    (hfrozen : t.frozenEndSeqnos = s.frozenEndSeqnos) (hafter : t.phase = .checking) :
    t.Bounded := by
  obtain ⟨opening, hcovers, heq, heffective, -⟩ := openTokioGeneration_covers hopened
  obtain ⟨-, hstep, -⟩ := System.acceptReopenedGeneration_ok haccept
  have hrebase : ∀ (v : UInt16) c, opened.effectiveCheckpoints[v]? = some c →
      ∃ e, s.frozenEndSeqnos[v]? = some e ∧ c.seqno ≤ e := by
    intro v c hc
    rw [heffective] at hc
    obtain ⟨-, -, state, -, hfits, rfl, -⟩ := hcovers.effective_state hc
    refine ⟨state.endSeqno, hfits.frozen _ rfl, ?_⟩
    rw [hfits.effective]
    exact hfits.bounded
  obtain ⟨hpartitions, howned⟩ := h.system_step (fun event n hact => by cases hact)
    (fun effective hact => by cases hact; exact hrebase) hstep
  refine ⟨?_, ?_, by simp [hafter], ?_, ?_, by simp [hafter]⟩
  · intro stream hstream v
    rw [hstreams, heq] at hstream
    obtain ⟨⟨connection, credit, streamEndOnClose, hworker⟩, -⟩ := hcovers.spawned stream hstream
    rw [hworker]
    exact Worker.spawn_tracks connection stream.report.partitions credit streamEndOnClose v
  · intro stream hstream v state hstate
    rw [hstreams, heq] at hstream
    rw [hfrozen]
    exact (hcovers.fits stream hstream v state hstate).1.frozen _ rfl
  · rw [hfrozen]
    exact hpartitions
  · rw [hfrozen]
    exact howned

theorem step_bounded {s : Subscription} (h : s.Bounded) (hstep : s.step config action = some t) :
    t.Bounded := by
  cases step_effect hstep with
  | outside hframe hphase => exact h.frame hframe (.inl hphase)
  | turned hframe hturn => exact h.turn hframe hturn
  | system hact hsystem hphase hframe =>
    obtain ⟨hpartitions, howned⟩ := h.system_step
      (by rcases hact with ⟨token, rfl⟩ | ⟨flush, rfl⟩ <;> simp)
      (by rcases hact with ⟨token, rfl⟩ | ⟨flush, rfl⟩ <;> simp) hsystem
    refine h.keep ?_ hframe.frozenEndSeqnos ?_ ?_ ?_
    · rw [hframe.current]
    · rw [hframe.system]
      exact hpartitions
    · rw [hframe.system]
      exact howned
    · refine hphase.imp_right fun hphase => ?_
      rcases hphase.2 with hphase | ⟨error, hphase⟩
      · simp [hphase]
      · simp [hphase]
  | worked _ _ hstream hworker =>
    refine h.set hstream rfl fun v => ?_
    exact Worker.step_tracks (h.tracks _ (List.mem_of_getElem? hstream) v) hworker
  | took hphase hstream hitem hhandles =>
    have hmem := List.mem_of_getElem? hstream
    refine Bounded.handle (s := s.taking _ _ _) (h.set hstream rfl (h.tracks _ hmem)) ?_ hhandles
    rintro event n rfl hn
    exact h.emitted hmem (List.mem_of_getElem? hitem) hn
  | released hphase hdelivers => exact h.deliver (fun n hn => h.held _ _ n hphase hn) hdelivers
  | reopened _ hopened haccept hcurrent _ hfrozen hsystem hafter =>
    subst hsystem
    exact h.reopen hopened haccept (by rw [hcurrent]) hfrozen hafter

theorem prepareSubscription_bounded
    (h : prepareSubscription config assignment topics answer answers = .ok s) : s.Bounded := by
  obtain ⟨request, opened, loaded, system, hnone, hopened, hsystem, rfl⟩ :=
    prepareSubscription_eq_ok h
  obtain ⟨opening, hcovers, hstreams, heffective, hends⟩ := openTokioGeneration_covers hopened
  have hbound : ∀ (v : UInt16) c, opened.effectiveCheckpoints[v]? = some c →
      ∃ e, opened.endSeqnos[v]? = some e ∧ c.seqno ≤ e := by
    intro v c hc
    rw [heffective] at hc
    obtain ⟨-, -, state, -, hfits, rfl, hend⟩ := hcovers.effective_state hc
    refine ⟨state.endSeqno, hends ▸ hend, ?_⟩
    rw [hfits.effective]
    exact hfits.bounded
  refine ⟨?_, ?_, by simp [activate], ?_, ?_, by simp [activate]⟩
  · intro stream hstream v
    simp only [activate, hstreams] at hstream
    obtain ⟨⟨connection, credit, streamEndOnClose, hworker⟩, -⟩ := hcovers.spawned stream hstream
    rw [hworker]
    exact Worker.spawn_tracks connection stream.report.partitions credit streamEndOnClose v
  · intro stream hstream v state hstate
    simp only [activate, hstreams] at hstream
    simp only [activate, hends]
    exact (hcovers.fits stream hstream v state hstate).2.2
  · intro v p hp
    obtain ⟨c, generation, hc, -, rfl, -⟩ := System.opened_partition hsystem hp
    exact ⟨hbound v c hc, by simp [PartitionState.new]⟩
  · intro v e he
    simp only [activate, hends] at he
    have hv : v ∈ request.starts.keys := by
      by_contra hv
      rw [(hcovers.absent v hv).2] at he
      cases he
    obtain ⟨c, hc⟩ := Option.isSome_iff_exists.1 ((hcovers.effective_isSome v).2 hv)
    exact System.opened_forth hsystem (heffective ▸ hc)

/-- Through any number of generations no position passes the end that was frozen at the first open.
So freezing the end of a reopened request never fails and only replaces its end, and what the nodes
have opened never fails the validation. -/
theorem frozen_boundary
    (hstart : prepareSubscription config assignment topics answer answers = .ok s)
    (hrun : Machine.run (step config) s acts = some t) :
    t.frozenEndSeqnos = s.frozenEndSeqnos ∧
    (∀ (v : UInt16) p, t.system.state.partitions[v]? = some p →
      ∃ e, s.frozenEndSeqnos[v]? = some e ∧ p.processed.seqno ≤ e) ∧
    ∀ snap starts, t.phase = .opening snap starts →
      (∀ (v : UInt16) c, starts[v]? = some c → ∃ e, s.frozenEndSeqnos[v]? = some e ∧ c.seqno ≤ e ∧
        ∀ bucketUuid high failoverLog filter,
          resolveVbucketRequest v bucketUuid (.checkpoint c) config.mode high failoverLog filter
              config.rollbackPolicy config.rollbackHandler (some e) =
            (resolveVbucketRequest v bucketUuid (.checkpoint c) config.mode high failoverLog filter
              config.rollbackPolicy config.rollbackHandler none).map
              fun resolved => ({ resolved.1 with endSeqno := e }, resolved.2)) ∧
      ∀ nodes opening, openStreams config (t.reopenRequest snap starts) nodes = .ok opening →
        opening.endSeqnos = s.frozenEndSeqnos ∧
        opening.validate (t.reopenRequest snap starts) = .ok () := by
  have hfrozen : t.frozenEndSeqnos = s.frozenEndSeqnos :=
    Machine.run_invariant (P := fun u : Subscription => u.frozenEndSeqnos = s.frozenEndSeqnos)
      (fun _ _ _ h hstep => (step_frozenEndSeqnos hstep).trans h) rfl hrun
  have hbounded : t.Bounded :=
    Machine.run_invariant (fun _ _ _ h hstep => step_bounded h hstep)
      (prepareSubscription_bounded hstart) hrun
  refine ⟨hfrozen, ?_, ?_⟩
  · intro v p hp
    rw [← hfrozen]
    exact (hbounded.partitions v p hp).processed
  · intro snap starts hopening
    have hcaptured := hbounded.captured snap starts hopening
    rw [hfrozen] at hcaptured
    constructor
    · intro v c hc
      obtain ⟨e, he, hle⟩ := (hcaptured v).1 c hc
      exact ⟨e, he, hle, fun _ _ _ _ => resolveVbucketRequest_frozen hle⟩
    · intro nodes opening hopen
      obtain ⟨hcovers, hstreams⟩ := openStreams_covers hopen
      have hkeys : ∀ (v : UInt16) e, t.frozenEndSeqnos[v]? = some e →
          v ∈ (t.reopenRequest snap starts).starts.keys := by
        intro v e he
        obtain ⟨c, hc⟩ := (hcaptured v).2 e (hfrozen ▸ he)
        simp only [reopenRequest, reopenStarts_keys, Std.ExtTreeMap.mem_keys,
          Std.ExtTreeMap.mem_iff_isSome_getElem?, hc, Option.isSome_some]
      constructor
      · rw [← hfrozen]
        exact hcovers.endSeqnos_eq rfl hkeys
      · refine hcovers.validate hstreams ?_
        intro frozen heq
        cases heq
        exact hkeys

def captured? (s : Subscription) : Option (TopologySnapshot × BTreeMap UInt16 DcpCheckpoint) :=
  match s.phase with
  | .opening snapshot captured => some (snapshot, captured)
  | _ => none

theorem captured?_eq_some {s : Subscription} (h : s.captured? = some (snap, starts)) :
    s.phase = .opening snap starts := by
  rw [captured?] at h
  split at h
  · rename_i hphase
    cases h
    exact hphase
  · cases h

def sampleReconnect : List SubscriptionAction :=
  [.check, .work 0 (.arrive (.ok (Worker.sampleMarker 0))),
    .work 0 (.arrive (.ok (Worker.sampleAdvance 0))), .work 0 .receive, .work 0 .receive, .take 0,
    .send, .check, .take 0, .send, .poll, .poll, .acknowledge ⟨0, 1, 1⟩, .check, .work 0 .silence,
    .take 0, .close (.ok ()), .capture]

def sampleGrown : NodeAnswers :=
  { sampleNode with
    activeHighSeqnos := fun _ => .ok (((∅ : BTreeMap UInt16 Nat).insert 0 20).insert 1 20) }

theorem frozen_boundary_sample : ∃ s t u snap starts c e opening,
    samplePrepared .finite = .ok s ∧
    Machine.run (step (sampleConfig .finite)) s sampleReconnect = some t ∧
    t.phase = .opening snap starts ∧ starts[(0 : UInt16)]? = some c ∧ c.seqno = 1 ∧
    s.frozenEndSeqnos[(0 : UInt16)]? = some e ∧ c.seqno ≤ e ∧
    openStreams (sampleConfig .finite) (t.reopenRequest snap starts) (fun _ => sampleGrown) =
      .ok opening ∧
    opening.endSeqnos = s.frozenEndSeqnos ∧
    opening.validate (t.reopenRequest snap starts) = .ok () ∧
    t.step (sampleConfig .finite) (.openReply fun _ => sampleGrown) = some u ∧
    u.phase = .checking ∧ u.frozenEndSeqnos = s.frozenEndSeqnos := by
  have hsample : ((samplePrepared .finite).toOption.bind fun s =>
      (Machine.run (step (sampleConfig .finite)) s sampleReconnect).bind fun t =>
        (t.step (sampleConfig .finite) (.openReply fun _ => sampleGrown)).bind fun u =>
          t.captured?.bind fun captured => captured.2[(0 : UInt16)]?.bind fun c =>
            (openStreams (sampleConfig .finite) (t.reopenRequest captured.1 captured.2)
              fun _ => sampleGrown).toOption.map fun _ => (c.seqno, u.phase)) =
      some (1, .checking) := by
    decide
  obtain ⟨s, hs, hsample⟩ := Option.bind_eq_some_iff.1 hsample
  obtain ⟨t, ht, hsample⟩ := Option.bind_eq_some_iff.1 hsample
  obtain ⟨u, hu, hsample⟩ := Option.bind_eq_some_iff.1 hsample
  obtain ⟨⟨snap, starts⟩, hcaptured, hsample⟩ := Option.bind_eq_some_iff.1 hsample
  obtain ⟨c, hc, hsample⟩ := Option.bind_eq_some_iff.1 hsample
  obtain ⟨opening, hopening, hsample⟩ := Option.map_eq_some_iff.1 hsample
  simp only [Prod.mk.injEq] at hsample
  obtain ⟨hseqno, hphase⟩ := hsample
  have hstart := toOption_eq_some.1 hs
  have hopen := toOption_eq_some.1 hopening
  have hleft := captured?_eq_some hcaptured
  obtain ⟨hstarts, hnodes⟩ := (frozen_boundary hstart ht).2.2 snap starts hleft
  obtain ⟨e, he, hle, -⟩ := hstarts 0 c hc
  obtain ⟨hends, hvalid⟩ := hnodes _ opening hopen
  have hrun := Machine.run_snoc.2 ⟨t, ht, hu⟩
  exact ⟨s, t, u, snap, starts, c, e, opening, hstart, ht, hleft, hc, hseqno, he, hle, hopen, hends,
    hvalid, hu, hphase, (frozen_boundary hstart hrun).1⟩

end Subscription

end RustDcp
