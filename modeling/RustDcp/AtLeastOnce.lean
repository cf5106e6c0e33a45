import RustDcp.AckSafety
import RustDcp.GenerationRun

namespace RustDcp
set_option autoImplicit true

theorem Ledger.deliver_entries (self : Ledger) (tracked : TrackedEvent) :
    ∃ more, (self.deliver tracked).entries = self.entries ++ more := by
  rw [deliver]
  split
  · exact ⟨[], (List.append_nil _).symm⟩
  · exact ⟨_, rfl⟩
  · exact ⟨[], (List.append_nil _).symm⟩

namespace System

theorem step_entries {s : System} (h : s.step action = some t)
    (hrebase : ∀ effective, action ≠ .rebase effective)
    (hentry : entry ∈ (s.ledger v initial).entries) : entry ∈ (t.ledger v initial).entries := by
  cases step_effect h with
  | rejected | acknowledged | dirtied => exact hentry
  | @tracked p event q token hp htrack =>
    rw [@ledger_snoc (.delivered ⟨event, token⟩) v initial s _ rfl, Ledger.observe]
    split
    · obtain ⟨more, hmore⟩ := (s.ledger v initial).deliver_entries ⟨event, token⟩
      rw [hmore]
      exact List.mem_append_left _ hentry
    · exact hentry
  | rebased => exact absurd rfl (hrebase _)
  | flushed hflush =>
    rw [ledger_of_journal hflush.frame.journal]
    exact hentry

theorem step_acknowledged {s : System} (h : s.step action = some t)
    (htoken : token ∈ s.acknowledged) : token ∈ t.acknowledged := by
  cases step_effect h with
  | rejected | tracked | rebased | dirtied => exact htoken
  | acknowledged => exact List.mem_append_left _ htoken
  | flushed hflush =>
    rw [hflush.frame.acknowledged]
    exact htoken

theorem step_registered {s : System} {v : UInt16} (h : s.step action = some t)
    (hrebase : ∀ effective, action ≠ .rebase effective)
    (hp : s.state.partitions[v]? = some p) (hq : t.state.partitions[v]? = some q) :
    q.lastRegisteredSeqno = p.lastRegisteredSeqno ∨ ∃ event n, action = .track event ∧
      event.vbucket = v ∧ event.seqno = some n ∧ q.lastRegisteredSeqno = n ∧
      p.lastRegisteredSeqno < n := by
  obtain ⟨q', hq', hmoves⟩ := step_moves h hp
  cases hq.symm.trans hq'
  cases hmoves with
  | same hsame => exact .inl hsame.lastRegisteredSeqno
  | tracked hv htrack =>
    rcases PartitionState.trackEvent_cases htrack with
      ⟨marker, -, -, -, -, rfl⟩ | ⟨-, -, -, rfl⟩ | ⟨n, window, hn, -, hreg⟩
    · exact .inl rfl
    · exact .inl rfl
    · exact .inr ⟨_, n, rfl, hv, hn, by rw [hreg.eq], hreg.above⟩
  | acknowledged hv hack =>
    rcases PartitionState.acknowledge_cases hack with ⟨-, rfl, -⟩ | ⟨marked, generation, -, rfl, -⟩
    · exact .inl rfl
    · exact .inl rfl
  | rebased => exact absurd rfl (hrebase _)

theorem step_back {s : System} {v : UInt16} (h : s.step action = some t)
    (hrebase : ∀ effective, action ≠ .rebase effective)
    (hq : t.state.partitions[v]? = some q) : ∃ p, s.state.partitions[v]? = some p := by
  have hholds := step_holds (P := fun v _ => ∃ p, s.state.partitions[v]? = some p)
    (fun _ _ _ _ _ _ _ _ hp => hp) (fun effective hact => absurd hact (hrebase effective))
    (fun v p hp => ⟨⟨p, hp⟩, fun _ _ => ⟨p, hp⟩⟩) h v q hq
  exact hholds.processed

theorem track_entry {s : System} (hacc : ∀ p, s.state.partitions[event.vbucket]? = some p →
      s.Accounted event.vbucket initial p)
    (htrack : s.state.trackEvent event = (.ok tracked, after)) (hn : event.seqno = some n)
    (hstep : s.step (.track event) = some t) :
    ∃ entry ∈ (t.ledger event.vbucket initial).entries, entry.checkpoint.seqno = n ∧
      entry.token.seqno = n ∧ tracked.ack = some entry.token := by
  rcases CoordinatorState.trackEvent_cases htrack with
    ⟨error, herror, -⟩ | ⟨p, token, q, hp, hq, hok, rfl⟩
  · cases herror
  cases hok
  rcases PartitionState.trackEvent_cases hq with ⟨marker, rfl, -⟩ | ⟨-, hnone, -⟩ |
    ⟨m, window, hm, rfl, hreg⟩
  · cases hn
  · rw [hnone] at hn
    cases hn
  · cases hn.symm.trans hm
    have hwindow : (s.ledger event.vbucket initial).window = some window :=
      (hacc p hp).models.snapshot ▸ hreg.inSnapshot
    simp only [step, htrack, Option.some.injEq] at hstep
    subst hstep
    rw [@ledger_snoc (.delivered ⟨event, some _⟩) _ initial s _ rfl, Ledger.observe,
      if_pos rfl, Ledger.deliver_of_seqno hn hwindow]
    exact ⟨_, List.mem_append_right _ (List.mem_singleton.2 rfl), by simp, rfl, rfl⟩

end System

/-- The sequence numbers of one vBucket among the items that a worker has sent. -/
def seqnosOf (v : UInt16) (output : List (Result DcpStreamItem)) : List Nat :=
  (eventsOf v output).filterMap DcpEvent.seqno

theorem mem_seqnosOf {output : List (Result DcpStreamItem)} :
    n ∈ seqnosOf v output ↔
      ∃ event : DcpEvent, .ok (.event event) ∈ output ∧ event.vbucket = v ∧
        event.seqno = some n := by
  simp only [seqnosOf, List.mem_filterMap, mem_eventsOf, and_assoc]

theorem seqnosOf_append (v : UInt16) (output more : List (Result DcpStreamItem)) :
    seqnosOf v (output ++ more) = seqnosOf v output ++ seqnosOf v more := by
  rw [seqnosOf, eventsOf_append, List.filterMap_append]
  rfl

theorem Worker.Tracks.seqnos {w : Worker} (h : w.Tracks opened v) :
    (seqnosOf v w.output).Pairwise (· < ·) ∧
      ∀ n ∈ seqnosOf v w.output, ∃ state, opened[v]? = some state ∧ state.startSeqno < n := by
  cases hstate : opened[v]? with
  | none =>
    rw [seqnosOf, h.unopened hstate]
    exact ⟨.nil, by simp⟩
  | some state =>
    have horder := h.order state hstate
    exact ⟨horder.increasing, fun n hn => ⟨state, rfl, (horder.bounded n hn).1⟩⟩

namespace Subscription

def HasEntry (checkpoints : BTreeMap UInt16 DcpCheckpoint) (s : Subscription) (v : UInt16)
    (n : Nat) : Prop :=
  ∃ initial entry, checkpoints[v]? = some initial ∧ entry ∈ (s.system.ledger v initial).entries ∧
    entry.checkpoint.seqno = n ∧ entry.token.seqno = n ∧ entry.token ∈ s.current.tokens

/-- What the workers have sent is registered, or lies behind all that is. -/
structure Ledgered (checkpoints : BTreeMap UInt16 DcpCheckpoint) (s : Subscription) : Prop where
  accounted : ∀ (v : UInt16) initial p, checkpoints[v]? = some initial →
    s.system.state.partitions[v]? = some p → s.system.Accounted v initial p
  initial : ∀ (v : UInt16) p, s.system.state.partitions[v]? = some p →
    ∃ initial, checkpoints[v]? = some initial
  registered : ∀ stream ∈ s.current.streams, ∀ (v : UInt16) state p,
    stream.report.partitions[v]? = some state → s.system.state.partitions[v]? = some p →
    p.lastRegisteredSeqno ≤ state.startSeqno ∨
      p.lastRegisteredSeqno ∈ seqnosOf v stream.worker.output
  entries : ∀ stream ∈ s.current.streams, ∀ (v : UInt16) p,
    s.system.state.partitions[v]? = some p → ∀ n ∈ seqnosOf v stream.worker.output,
      p.lastRegisteredSeqno < n ∨ s.HasEntry checkpoints v n

/-- An event that a worker has sent and that is not behind the processed position was
acknowledged. -/
theorem Ledgered.acknowledged {s : Subscription} (h : s.Ledgered checkpoints)
    (hstream : stream ∈ s.current.streams) (hp : s.system.state.partitions[(v : UInt16)]? = some p)
    (hn : n ∈ seqnosOf v stream.worker.output) (hle : n ≤ p.processed.seqno) :
    ∃ token ∈ s.current.tokens, token.vbucket = v ∧ token.seqno = n ∧
      token ∈ s.system.acknowledged := by
  obtain ⟨initial, hinitial⟩ := h.initial v p hp
  have hacc := h.accounted v initial p hinitial hp
  have hprocessed : p.processed.seqno ≤ p.lastRegisteredSeqno := by
    rw [hacc.models.processed, Ledger.processed]
    rcases AckQueue.released_eq (Registration.isDone s.system.isAcknowledged)
      Registration.checkpoint (s.system.ledger v initial).base
      (s.system.ledger v initial).entries with heq | ⟨entry, hentry, heq⟩
    · rw [heq]
      exact hacc.models.below _ List.mem_cons_self
    · rw [heq]
      exact hacc.models.below _ (List.mem_cons_of_mem _ (List.mem_map_of_mem hentry))
  rcases h.entries stream hstream v p hp n hn with
    hlt | ⟨initial', entry, hinitial', hentry, hseqno, htoken, hmem⟩
  · omega
  · cases hinitial.symm.trans hinitial'
    refine ⟨entry.token, hmem, hacc.owner entry hentry, htoken, ?_⟩
    have hdone : Registration.isDone s.system.isAcknowledged entry = true :=
      AckQueue.done_of_key_le DcpCheckpoint.seqno hacc.models.sorted hentry (by
        rw [hseqno]
        rw [hacc.models.processed] at hle
        exact hle)
    simpa [Registration.isDone, System.isAcknowledged] using hdone

theorem Ledgered.keep {s t : Subscription} (h : s.Ledgered checkpoints)
    (hsystem : t.system = s.system) (htokens : t.current.tokens = s.current.tokens)
    (hstreams : ∀ stream' ∈ t.current.streams, ∃ stream ∈ s.current.streams,
      stream'.report = stream.report ∧ stream.worker.output <+: stream'.worker.output ∧
      ∀ v : UInt16, stream'.worker.Tracks stream'.report.partitions v) :
    t.Ledgered checkpoints := by
  refine ⟨?_, ?_, ?_, ?_⟩
  · rw [hsystem]
    exact h.accounted
  · rw [hsystem]
    exact h.initial
  · intro stream' ht v state p hstate hp
    obtain ⟨stream, hs, hreport, ⟨more, hmore⟩, -⟩ := hstreams stream' ht
    rw [hsystem] at hp
    rw [hreport] at hstate
    rcases h.registered stream hs v state p hstate hp with hle | hmem
    · exact .inl hle
    · rw [← hmore, seqnosOf_append]
      exact .inr (List.mem_append_left _ hmem)
  · intro stream' ht v p hp n hn
    obtain ⟨stream, hs, hreport, ⟨more, hmore⟩, htracks⟩ := hstreams stream' ht
    rw [hsystem] at hp
    rw [HasEntry, hsystem, htokens]
    -- what is new lies behind the start and all that was sent before, and so behind the
    -- registered position
    obtain ⟨hsorted, hstart⟩ := (htracks v).seqnos
    obtain ⟨state, hstate, hlt⟩ := hstart n hn
    rw [← hmore, seqnosOf_append] at hn hsorted
    rcases List.mem_append.1 hn with hold | hnew
    · exact h.entries stream hs v p hp n hold
    · left
      rw [hreport] at hstate
      rcases h.registered stream hs v state p hstate hp with hle | hmem
      · omega
      · exact (List.pairwise_append.1 hsorted).2.2 _ hmem n hnew

/-- The coordinator registers an event that the workers have sent, and no event before it is left
out. -/
structure InTurn (s : Subscription) (v : UInt16) (n : Nat) : Prop where
  sent : ∀ stream ∈ s.current.streams, ∀ state, stream.report.partitions[v]? = some state →
    n ∈ seqnosOf v stream.worker.output
  first : ∀ stream ∈ s.current.streams, ∀ p, s.system.state.partitions[v]? = some p →
    ∀ m ∈ seqnosOf v stream.worker.output, p.lastRegisteredSeqno < m → n ≤ m

theorem Ledgered.system_step {s t : Subscription} {act : Action} (h : s.Ledgered checkpoints)
    (hstreams : t.current.streams = s.current.streams)
    (htokens : ∀ token ∈ s.current.tokens, token ∈ t.current.tokens)
    (hstep : s.system.step act = some t.system)
    (hrebase : ∀ effective, act ≠ .rebase effective)
    (htrack : ∀ event n, act = .track event → event.seqno = some n →
      s.InTurn event.vbucket n ∧ t.HasEntry checkpoints event.vbucket n) :
    t.Ledgered checkpoints := by
  have hentry : ∀ v n, s.HasEntry checkpoints v n → t.HasEntry checkpoints v n := by
    rintro v n ⟨initial, entry, hinitial, hentry, hseqno, htoken, hmem⟩
    exact ⟨initial, entry, hinitial, System.step_entries hstep hrebase hentry, hseqno, htoken,
      htokens _ hmem⟩
  refine ⟨?_, ?_, ?_, ?_⟩
  · exact System.step_accounted h.accounted hstep
  · intro v q hq
    obtain ⟨p, hp⟩ := System.step_back hstep hrebase hq
    exact h.initial v p hp
  · rw [hstreams]
    intro stream hstream v state q hstate hq
    obtain ⟨p, hp⟩ := System.step_back hstep hrebase hq
    rcases System.step_registered hstep hrebase hp hq with
      heq | ⟨event, n, hact, rfl, hn, heq, -⟩
    · rw [heq]
      exact h.registered stream hstream v state p hstate hp
    · rw [heq]
      exact .inr ((htrack event n hact hn).1.sent stream hstream state hstate)
  · rw [hstreams]
    intro stream hstream v q hq m hm
    obtain ⟨p, hp⟩ := System.step_back hstep hrebase hq
    rcases h.entries stream hstream v p hp m hm with hlt | hold
    · rcases System.step_registered hstep hrebase hp hq with
        heq | ⟨event, n, hact, rfl, hn, heq, -⟩
      · rw [heq]
        exact .inl hlt
      · obtain ⟨hturn, hnew⟩ := htrack event n hact hn
        rcases (hturn.first stream hstream p hp m hm hlt).lt_or_eq with hnm | rfl
        · rw [heq]
          exact .inl hnm
        · exact .inr hnew
    · exact .inr (hentry v m hold)

/-- The numbered events among the items have been registered. -/
def Registered (s : Subscription) (items : List (Nat × Result DcpStreamItem)) : Prop :=
  ∀ node event n p, (node, .ok (.event event)) ∈ items → event.seqno = some n →
    s.system.state.partitions[event.vbucket]? = some p → n ≤ p.lastRegisteredSeqno

theorem Driven.inTurn {s t : Subscription} (h : t.Driven) (hassigned : t.Assigned vbuckets)
    (hstreams : t.current.streams = s.current.streams)
    (hconsumed : t.current.consumed = before ++ [(node, .ok (.event event))])
    (hregistered : s.Registered before) (hn : event.seqno = some n) :
    s.InTurn event.vbucket n := by
  have hlt : node < t.current.streams.length := h.inside (node, .ok (.event event)) (by
    rw [hconsumed]
    simp)
  have hfrom := List.getElem?_eq_getElem hlt
  obtain ⟨-, hcursor⟩ := h.cursor node _ hfrom
  rw [hconsumed, consumedFrom_append, consumedFrom_self] at hcursor
  generalize t.current.streams[node] = source at hfrom hcursor
  have hsource := List.mem_of_getElem? hfrom
  -- the output is what was consumed before, the event, and what is still to be taken
  have houtput : source.worker.output = consumedFrom node before ++ [.ok (.event event)] ++
      source.worker.output.drop source.taken := by
    rw [hcursor, List.take_append_drop]
  have hmem : .ok (.event event) ∈ source.worker.output := by
    rw [houtput]
    simp
  have hown : n ∈ seqnosOf event.vbucket source.worker.output :=
    mem_seqnosOf.2 ⟨event, hmem, rfl, hn⟩
  obtain ⟨hsorted, hstart⟩ := (h.tracks source hsource event.vbucket).seqnos
  obtain ⟨state, hstate, -⟩ := hstart n hown
  have hsame : ∀ stream ∈ s.current.streams, ∀ state',
      stream.report.partitions[event.vbucket]? = some state' → stream = source := by
    intro stream hstream state' hstate'
    rw [← hstreams] at hstream
    obtain ⟨i, hi⟩ := List.getElem?_of_mem hstream
    cases hassigned.apart i node _ _ hi hfrom event.vbucket _ _ hstate' hstate
    exact Option.some.inj (hi.symm.trans hfrom)
  refine ⟨?_, ?_⟩
  · intro stream hstream state' hstate'
    rw [hsame stream hstream state' hstate']
    exact hown
  · intro stream hstream p hp m hm hlast
    obtain ⟨-, hstart'⟩ := (h.tracks stream (hstreams ▸ hstream) event.vbucket).seqnos
    obtain ⟨state', hstate', -⟩ := hstart' m hm
    obtain rfl := hsame stream hstream state' hstate'
    have hevent : seqnosOf event.vbucket [.ok (.event event)] = [n] := by
      simp [seqnosOf, eventsOf, hn]
    rw [houtput, seqnosOf_append, seqnosOf_append, hevent] at hm hsorted
    rcases List.mem_append.1 hm with hm | hm
    · rcases List.mem_append.1 hm with hm | hm
      · obtain ⟨other, hother, hvbucket, hseqno⟩ := mem_seqnosOf.1 hm
        have hle := hregistered node other m p (mem_consumedFrom.1 hother) hseqno (hvbucket ▸ hp)
        omega
      · exact (List.mem_singleton.1 hm).ge
    · exact ((List.pairwise_append.1 hsorted).2.2 n (by simp) m hm).le

theorem Registered.step {s t : Subscription} {act : Action} (h : s.Registered items)
    (hstep : s.system.step act = some t.system) (hrebase : ∀ effective, act ≠ .rebase effective) :
    t.Registered items := by
  intro node event n q hmem hn hq
  obtain ⟨p, hp⟩ := System.step_back hstep hrebase hq
  have hle := h node event n p hmem hn hp
  rcases System.step_registered hstep hrebase hp hq with heq | ⟨_, m, -, -, -, heq, hlt⟩
  · omega
  · omega

theorem Registered.of_system {s t : Subscription} (h : s.Registered items)
    (hsystem : t.system = s.system) : t.Registered items := by
  rw [Registered, hsystem]
  exact h

/-- No event at or before the starting positions is without its acknowledgement. -/
def Repeats (s : Subscription) (starts : BTreeMap UInt16 DcpCheckpoint) : Prop :=
  ∀ (v : UInt16) c, starts[v]? = some c → ∀ stream ∈ s.current.streams,
    ∀ n ∈ seqnosOf v stream.worker.output, n ≤ c.seqno →
      ∃ token ∈ s.current.tokens, token.vbucket = v ∧ token.seqno = n ∧
        token ∈ s.system.acknowledged

/-- What the task has in hand: nothing, one event that is not registered, or starting positions. -/
structure Settled (s : Subscription) : Prop where
  registered : s.phase.isDriving = true → (∀ event call, s.phase ≠ .mitigating event call) →
    s.Registered s.current.consumed
  holding : ∀ event call, s.phase = .mitigating event call → ∃ before node,
    s.current.consumed = before ++ [(node, .ok (.event event))] ∧ s.Registered before
  captured : ∀ snap starts, s.phase = .opening snap starts → s.Repeats starts

theorem settled_of_not_driving {s : Subscription} (h : s.phase.isDriving = false)
    (hcaptured : ∀ snap starts, s.phase = .opening snap starts → s.Repeats starts) : s.Settled := by
  refine ⟨?_, ?_, hcaptured⟩
  · rw [h]
    simp
  · intro event call hphase
    rw [hphase] at h
    cases h

theorem settled_of_registered {s : Subscription} (h : s.Registered s.current.consumed)
    (hphase : s.phase = .checking ∨ s.phase = .selecting ∨ (∃ call, s.phase = .applying call) ∨
      (∃ ack, s.phase = .skipping ack) ∨ ∃ output, s.phase = .sending output) : s.Settled := by
  refine ⟨fun _ _ => h, ?_, ?_⟩
  · intro event call heq
    rcases hphase with hphase | hphase | ⟨_, hphase⟩ | ⟨_, hphase⟩ | ⟨_, hphase⟩
    all_goals
      rw [heq] at hphase
      cases hphase
  · intro snap starts heq
    rcases hphase with hphase | hphase | ⟨_, hphase⟩ | ⟨_, hphase⟩ | ⟨_, hphase⟩
    all_goals
      rw [heq] at hphase
      cases hphase

theorem Settled.same {s t : Subscription} (h : s.Settled) (hphase : t.phase = s.phase)
    (hconsumed : t.current.consumed = s.current.consumed)
    (hregistered : ∀ items, s.Registered items → t.Registered items)
    (hrepeats : ∀ snap starts, s.phase = .opening snap starts → s.Repeats starts →
      t.Repeats starts) :
    t.Settled := by
  refine ⟨?_, ?_, ?_⟩
  · rw [hphase, hconsumed]
    exact fun hdriving hholding => hregistered _ (h.registered hdriving hholding)
  · rw [hphase, hconsumed]
    intro event call hheld
    obtain ⟨before, node, hbefore, hreg⟩ := h.holding event call hheld
    exact ⟨before, node, hbefore, hregistered _ hreg⟩
  · rw [hphase]
    exact fun snap starts hopening => hrepeats snap starts hopening
      (h.captured snap starts hopening)

theorem Settled.turn {s t : Subscription} (h : s.Settled) (hledgered : s.Ledgered checkpoints)
    (hframe : Frame s t) (hturn : Turn config s t.phase) : t.Settled := by
  generalize hphase : t.phase = phase at hturn
  have hregistered : s.phase.isDriving = true → (∀ event call, s.phase ≠ .mitigating event call) →
      t.Registered t.current.consumed := by
    intro hdriving hholding
    rw [hframe.current]
    exact (h.registered hdriving hholding).of_system hframe.system
  cases hturn with
  | selecting hfrom =>
    refine settled_of_registered (hregistered ?_ ?_) (.inr (.inl hphase))
    · rw [hfrom]
      rfl
    · simp [hfrom]
  | again hfrom =>
    refine settled_of_registered (hregistered ?_ ?_) (.inl hphase)
    · rcases hfrom with hfrom | ⟨call, hfrom⟩ | hfrom
      all_goals
        rw [hfrom]
        rfl
    · rcases hfrom with hfrom | ⟨call, hfrom⟩ | hfrom
      all_goals simp [hfrom]
  | sent hfrom =>
    refine settled_of_registered (hregistered ?_ ?_) (.inl hphase)
    · rw [hfrom]
      rfl
    · simp [hfrom]
  | left | exhausted | retrying | ended =>
    refine settled_of_not_driving ?_ ?_
    · rw [hphase]
      rfl
    · simp [hphase]
  | opening =>
    refine settled_of_not_driving ?_ ?_
    · rw [hphase]
      rfl
    · intro snap starts hopening v c hc stream hstream n hn hle
      rw [hphase] at hopening
      cases hopening
      rw [CoordinatorState.processedCheckpoints, Std.ExtTreeMap.getElem?_map,
        Option.map_eq_some_iff] at hc
      obtain ⟨p, hp, rfl⟩ := hc
      rw [hframe.current] at hstream
      rw [hframe.current, hframe.system]
      exact hledgered.acknowledged hstream hp hn hle

/-- Everything about a subscription that keeps its events from being lost. -/
structure Lossless (checkpoints : BTreeMap UInt16 DcpCheckpoint) (s : Subscription) : Prop where
  driven : s.Driven
  bounded : s.Bounded
  assigned : ∃ vbuckets, s.Assigned vbuckets
  ledgered : s.Ledgered checkpoints
  settled : s.Settled

theorem Ledgered.frame {s t : Subscription} (h : s.Ledgered checkpoints) (hdriven : s.Driven)
    (hframe : Frame s t) : t.Ledgered checkpoints := by
  refine h.keep hframe.system (by rw [hframe.current]) ?_
  rw [hframe.current]
  exact fun stream hstream =>
    ⟨stream, hstream, rfl, List.prefix_refl _, hdriven.tracks stream hstream⟩

theorem Delivers.lossless {s t : Subscription} (hdelivers : Delivers config s event t)
    (h : s.Ledgered checkpoints) (hdriven : t.Driven) (hassigned : t.Assigned vbuckets)
    (hconsumed : s.current.consumed = before ++ [(node, .ok (.event event))])
    (hregistered : s.Registered before) : t.Ledgered checkpoints ∧ t.Settled := by
  have hcurrent := hdelivers.current
  have hinTurn : ∀ n, event.seqno = some n → s.InTurn event.vbucket n := fun n hn =>
    hdriven.inTurn hassigned hcurrent.1 (hcurrent.2.1.trans hconsumed) hregistered hn
  cases hdelivers with
  | failed hframe hphase =>
    constructor
    · refine h.keep hframe.system (by rw [hframe.current]) ?_
      intro stream hstream
      exact ⟨stream, hcurrent.1 ▸ hstream, rfl, List.prefix_refl _, hdriven.tracks stream hstream⟩
    · refine settled_of_not_driving ?_ ?_
      · rw [hphase]
        rfl
      · simp [hphase]
  | @tracked delivered tracked _ hvbucket hseqno hstep htrack hcurrent' _ _ _ _ hphase =>
    have hnew : ∀ n, delivered.seqno = some n → t.HasEntry checkpoints delivered.vbucket n := by
      intro n hn
      rcases CoordinatorState.trackEvent_cases htrack with ⟨error, herror, -⟩ | ⟨p, _, _, hp, -⟩
      · cases herror
      obtain ⟨initial, hinitial⟩ := h.initial delivered.vbucket p hp
      obtain ⟨entry, hentry, hposition, htoken, hack⟩ := System.track_entry
        (fun p hp => h.accounted _ initial p hinitial hp) htrack hn hstep
      refine ⟨initial, entry, hinitial, hentry, hposition, htoken, ?_⟩
      rw [hcurrent', hack]
      simp
    have hledgered : t.Ledgered checkpoints := by
      refine h.system_step (by rw [hcurrent']) ?_ hstep (by simp) ?_
      · intro token htoken
        rw [hcurrent']
        exact List.mem_append_left _ htoken
      · intro other n hact hn
        cases hact
        exact ⟨hvbucket ▸ hinTurn n (hseqno ▸ hn), hnew n hn⟩
    refine ⟨hledgered, settled_of_registered ?_ ?_⟩
    · rw [hcurrent']
      simp only [hconsumed]
      intro other another n q hmem hn hq
      rcases List.mem_append.1 hmem with hmem | hmem
      · exact hregistered.step hstep (by simp) other another n q hmem hn hq
      · cases List.mem_singleton.1 hmem
        obtain ⟨initial, entry, hinitial, hentry, hposition, -⟩ :=
          hvbucket ▸ hnew n (hseqno.trans hn)
        have hbelow := (hledgered.accounted event.vbucket initial q hinitial hq).models.below
          entry.checkpoint (List.mem_cons_of_mem _ (List.mem_map_of_mem hentry))
        rw [← hposition]
        exact hbelow
    · rcases hphase with ⟨-, hphase⟩ | hphase
      · exact .inr (.inr (.inr (.inl ⟨_, hphase⟩)))
      · exact .inr (.inr (.inr (.inr hphase)))

theorem Lossless.took {s : Subscription} (h : s.Lossless checkpoints) (hdriven : t.Driven)
    (hassigned : t.Assigned vbuckets) (hphase : s.phase = .selecting)
    (hstream : s.current.streams[node]? = some stream)
    (hhandles : Handles config (s.taking node stream item) item t) :
    t.Ledgered checkpoints ∧ t.Settled := by
  have hregistered : s.Registered s.current.consumed := by
    refine h.settled.registered ?_ ?_
    · rw [hphase]
      rfl
    · simp [hphase]
  have hledgered : (s.taking node stream item).Ledgered checkpoints := by
    refine h.ledgered.keep rfl rfl ?_
    intro stream' hstream'
    rcases List.mem_or_eq_of_mem_set hstream' with hmem | rfl
    · exact ⟨stream', hmem, rfl, List.prefix_refl _, h.driven.tracks stream' hmem⟩
    · have hmem := List.mem_of_getElem? hstream
      exact ⟨stream, hmem, rfl, List.prefix_refl _, h.driven.tracks stream hmem⟩
  have hkeep : ∀ {u}, Frame (s.taking node stream item) u → u.Driven → u.Ledgered checkpoints := by
    intro u hframe hu
    refine hledgered.keep hframe.system (by rw [hframe.current]) ?_
    intro stream' hstream'
    refine ⟨stream', ?_, rfl, List.prefix_refl _, hu.tracks stream' hstream'⟩
    rw [← hframe.current]
    exact hstream'
  cases hhandles with
  | ignored hevent hframe hphase =>
    refine ⟨hkeep hframe hdriven, settled_of_registered ?_ ?_⟩
    · rw [hframe.current]
      intro other event n p hmem hn hp
      rw [hframe.system] at hp
      rcases List.mem_append.1 hmem with hmem | hmem
      · exact hregistered other event n p hmem hn hp
      · cases List.mem_singleton.1 hmem
        exact absurd rfl (hevent event)
    · rcases hphase with hphase | hphase
      · exact .inl hphase
      · exact .inr (.inr (.inl hphase))
  | left hframe _ hphase =>
    refine ⟨hkeep hframe hdriven, settled_of_not_driving ?_ ?_⟩
    · rw [hphase]
      rfl
    · simp [hphase]
  | held _ hframe hphase =>
    refine ⟨hkeep hframe hdriven, ?_, ?_, ?_⟩
    · intro _ hnot
      exact absurd hphase (hnot _ _)
    · intro event call hheld
      rw [hphase] at hheld
      cases hheld
      refine ⟨s.current.consumed, node, ?_, hregistered.of_system hframe.system⟩
      rw [hframe.current]
      rfl
    · simp [hphase]
  | delivered hdelivers =>
    exact hdelivers.lossless hledgered hdriven hassigned rfl hregistered

theorem ledgered_of_covers {s : Subscription} {opening : Opening}
    (hcovers : opening.Covers request request.starts.keys)
    (hstreams : s.current.streams = opening.streams)
    (haccounted : ∀ (v : UInt16) initial p, checkpoints[v]? = some initial →
      s.system.state.partitions[v]? = some p → s.system.Accounted v initial p)
    (hinitial : ∀ (v : UInt16) p, s.system.state.partitions[v]? = some p →
      ∃ initial, checkpoints[v]? = some initial)
    (hstart : ∀ (v : UInt16) c p, opening.effectiveCheckpoints[v]? = some c →
      s.system.state.partitions[v]? = some p → p.lastRegisteredSeqno = c.seqno) :
    s.Ledgered checkpoints := by
  refine ⟨haccounted, hinitial, ?_, ?_⟩
  · intro stream hstream v state p hstate hp
    rw [hstreams] at hstream
    obtain ⟨hfits, heffective, -⟩ := hcovers.fits stream hstream v state hstate
    rw [hstart v _ p heffective hp, hfits.effective]
    exact .inl le_rfl
  · intro stream hstream v p hp n hn
    rw [hstreams] at hstream
    obtain ⟨⟨connection, credit, streamEndOnClose, hworker⟩, -⟩ := hcovers.spawned stream hstream
    rw [hworker] at hn
    cases credit with
    | ok credit => cases hn
    | error error => cases hn

theorem settled_of_fresh {s : Subscription} (hconsumed : s.current.consumed = [])
    (hphase : s.phase = .checking) : s.Settled := by
  refine settled_of_registered ?_ (.inl hphase)
  rw [hconsumed]
  intro node event n p hmem
  cases hmem

theorem prepareSubscription_lossless
    (h : prepareSubscription config assignment topics answer answers = .ok s) :
    ∃ checkpoints, s.Lossless checkpoints := by
  obtain ⟨request, hfresh⟩ := prepareSubscription_fresh h
  have hbounded := prepareSubscription_bounded h
  obtain ⟨request', opened, loaded, system, -, hopened, hsystem, rfl⟩ := prepareSubscription_eq_ok h
  obtain ⟨opening, hcovers, hstreams, heffective, -⟩ := openTokioGeneration_covers hopened
  obtain ⟨first, acts, hnew, hrun⟩ := System.opened_run hsystem
  refine ⟨opened.effectiveCheckpoints, hfresh.driven, hbounded, ⟨_, hfresh.assigned⟩, ?_,
    settled_of_fresh rfl rfl⟩
  refine ledgered_of_covers hcovers hstreams ?_ ?_ ?_
  · exact Machine.run_invariant (P := fun u : System => ∀ (v : UInt16) initial p,
        opened.effectiveCheckpoints[v]? = some initial → u.state.partitions[v]? = some p →
        u.Accounted v initial p)
      (fun _ _ _ => System.step_accounted) (fun v initial p => System.new_accounted hnew) hrun
  · intro v p hp
    obtain ⟨c, -, hc, -⟩ := System.opened_partition hsystem hp
    exact ⟨c, hc⟩
  · intro v c p hc hp
    obtain ⟨c', generation, hc', -, rfl, -⟩ := System.opened_partition hsystem hp
    rw [heffective] at hc'
    cases hc.symm.trans hc'
    rfl

theorem Lossless.reopen {s t : Subscription} (h : s.Lossless checkpoints)
    (hopened : openTokioGeneration config request answers = .ok opened)
    (haccept : s.system.acceptReopenedGeneration starts s.frozenEndSeqnos opened.opened =
      (.ok (), t.system))
    (hstreams : t.current.streams = opened.streams) : t.Ledgered checkpoints := by
  obtain ⟨opening, hcovers, heq, heffective, -⟩ := openTokioGeneration_covers hopened
  obtain ⟨-, hstep, hget⟩ := System.acceptReopenedGeneration_ok haccept
  refine ledgered_of_covers hcovers (hstreams.trans heq)
    (System.step_accounted h.ledgered.accounted hstep) ?_ ?_
  · intro v q hq
    rw [hget v, Option.map_eq_some_iff] at hq
    obtain ⟨p, hp, -⟩ := hq
    exact h.ledgered.initial v p hp
  · intro v c q hc hq
    rw [← heffective] at hc
    rw [hget v, Option.map_eq_some_iff] at hq
    obtain ⟨p, -, rfl⟩ := hq
    simp only [TokioGeneration.opened, hc, PartitionState.rebaseIf, PartitionState.rebase]

theorem Lossless.system {s t : Subscription} {act : Action} (h : s.Lossless checkpoints)
    (hact : (∃ token, act = .acknowledge token) ∨ ∃ flush, act = .flush flush)
    (hstep : s.system.step act = some t.system) (hcurrent : t.current = s.current)
    (hphase : t.phase = s.phase ∨ (∃ token, s.phase = .skipping (some token)) ∧
      (t.phase = .checking ∨ ∃ error, t.phase = .left (.fatal error))) :
    t.Ledgered checkpoints ∧ t.Settled := by
  have hrebase : ∀ effective, act ≠ .rebase effective := by
    rcases hact with ⟨token, rfl⟩ | ⟨flush, rfl⟩ <;> simp
  have htrack : ∀ event, act ≠ .track event := by
    rcases hact with ⟨token, rfl⟩ | ⟨flush, rfl⟩ <;> simp
  have hregistered : ∀ items, s.Registered items → t.Registered items :=
    fun items hitems => hitems.step hstep hrebase
  constructor
  · refine h.ledgered.system_step (by rw [hcurrent]) ?_ hstep hrebase ?_
    · rw [hcurrent]
      exact fun token htoken => htoken
    · exact fun event n heq => absurd heq (htrack event)
  rcases hphase with hphase | ⟨⟨token, hskipping⟩, hphase | ⟨error, hphase⟩⟩
  · refine h.settled.same hphase (by rw [hcurrent]) hregistered ?_
    intro snap starts _ hrepeats v c hc stream hstream n hn hle
    rw [hcurrent] at hstream
    obtain ⟨token, htoken, hv, hseqno, hack⟩ := hrepeats v c hc stream hstream n hn hle
    refine ⟨token, ?_, hv, hseqno, System.step_acknowledged hstep hack⟩
    rw [hcurrent]
    exact htoken
  · refine settled_of_registered ?_ (.inl hphase)
    rw [hcurrent]
    exact hregistered _ (h.settled.registered (by rw [hskipping]; rfl) (by simp [hskipping]))
  · exact settled_of_not_driving (by rw [hphase]; rfl) (by simp [hphase])

theorem step_lossless {s : Subscription} (h : s.Lossless checkpoints)
    (hstep : s.step config action = some t) : t.Lossless checkpoints := by
  have hdriven := step_driven h.driven hstep
  have hbounded := step_bounded h.bounded hstep
  have hgrown : Continues config action s t → ∃ vbuckets, t.Assigned vbuckets := by
    intro hcontinues
    obtain ⟨vbuckets, hassigned⟩ := h.assigned
    exact ⟨vbuckets, hassigned.grows hcontinues.grows⟩
  cases step_effect hstep with
  | outside hframe hphase =>
    refine ⟨hdriven, hbounded, hgrown (.of_eq hframe.past (by rw [hframe.current])),
      h.ledgered.frame h.driven hframe, h.settled.same hphase (by rw [hframe.current]) ?_ ?_⟩
    · exact fun items hitems => hitems.of_system hframe.system
    · intro snap starts _ hrepeats
      rw [Repeats, hframe.current, hframe.system]
      exact hrepeats
  | turned hframe hturn =>
    exact ⟨hdriven, hbounded, hgrown (.of_eq hframe.past (by rw [hframe.current])),
      h.ledgered.frame h.driven hframe, h.settled.turn h.ledgered hframe hturn⟩
  | system hact hsystem hphase hframe =>
    obtain ⟨hledgered, hsettled⟩ :=
      h.system hact (hframe.system ▸ hsystem) hframe.current hphase
    exact ⟨hdriven, hbounded, hgrown (.of_eq hframe.past (by rw [hframe.current])), hledgered,
      hsettled⟩
  | @worked act node stream worker hphase haction hstream hworker =>
    have hcontinues : Continues config (.work node act) s { s with current := { s.current with
        streams := s.current.streams.set node { stream with worker } } } :=
      .set rfl hstream rfl rfl (.inr ⟨_, rfl, haction.imp_right And.left, hworker⟩)
    refine ⟨hdriven, hbounded, hgrown hcontinues, ?_, h.settled.same rfl rfl (fun _ => id) ?_⟩
    · refine h.ledgered.keep rfl rfl ?_
      intro stream' hstream'
      obtain ⟨i, hi⟩ := List.getElem?_of_mem hstream'
      obtain ⟨old, hold, hreport, hextends⟩ := hcontinues.grows.streams i stream' hi
      exact ⟨old, List.mem_of_getElem? hold, hreport, hextends, hdriven.tracks stream' hstream'⟩
    · intro snap starts hopening
      rw [hopening] at hphase
      cases hphase
  | took hphase hstream hitem hhandles =>
    obtain ⟨hstreams, -, hpast⟩ := hhandles.current
    obtain ⟨vbuckets, hassigned⟩ := hgrown (.set hpast hstream hstreams rfl (.inl rfl))
    obtain ⟨hledgered, hsettled⟩ := h.took hdriven hassigned hphase hstream hhandles
    exact ⟨hdriven, hbounded, ⟨vbuckets, hassigned⟩, hledgered, hsettled⟩
  | released hphase hdelivers =>
    obtain ⟨hstreams, -, hpast⟩ := hdelivers.current
    obtain ⟨vbuckets, hassigned⟩ := hgrown (.of_eq hpast hstreams)
    obtain ⟨before, node, hconsumed, hregistered⟩ := h.settled.holding _ _ hphase
    obtain ⟨hledgered, hsettled⟩ :=
      hdelivers.lossless h.ledgered hdriven hassigned hconsumed hregistered
    exact ⟨hdriven, hbounded, ⟨vbuckets, hassigned⟩, hledgered, hsettled⟩
  | reopened _ hopened haccept hcurrent _ _ hsystem hafter =>
    subst hsystem
    have hfresh : t.Fresh config _ := ⟨⟨_, _, hopened, by rw [hcurrent]⟩, by rw [hcurrent], hafter⟩
    exact ⟨hdriven, hbounded, ⟨_, hfresh.assigned⟩, h.reopen hopened haccept (by rw [hcurrent]),
      settled_of_fresh (by rw [hcurrent]) hafter⟩

/-- When the next generation is opened, each vBucket of the last one is opened again, at a start
before every numbered event that a worker has sent for it and that was not acknowledged. -/
theorem reopened_before_unacknowledged
    (hstart : prepareSubscription config assignment topics answer answers = .ok s)
    (hrun : Machine.run (step config) s acts = some u) (hstep : u.step config action = some t)
    (hnext : t.past.length = u.past.length + 1) (hstream : stream ∈ u.current.streams)
    (hemitted : .ok (.event event) ∈ stream.worker.output) (hseqno : event.seqno = some n)
    (hnever : ∀ token ∈ u.current.tokens, token.vbucket = event.vbucket → token.seqno = n →
      token ∉ u.system.acknowledged) :
    t.past = u.past ++ [u.current] ∧
    (∃ stream' ∈ t.current.streams, ∃ state,
      stream'.report.partitions[event.vbucket]? = some state) ∧
    ∀ stream' ∈ t.current.streams, ∀ state,
      stream'.report.partitions[event.vbucket]? = some state → state.startSeqno < n := by
  obtain ⟨checkpoints, hlossless⟩ := prepareSubscription_lossless hstart
  have hu : u.Lossless checkpoints :=
    Machine.run_invariant (fun _ _ _ h hstep => step_lossless h hstep) hlossless hrun
  have hn : n ∈ seqnosOf event.vbucket stream.worker.output :=
    mem_seqnosOf.2 ⟨event, hemitted, rfl, hseqno⟩
  cases step_effect hstep with
  | outside hframe _ | turned hframe _ | system _ _ _ hframe =>
    rw [hframe.past] at hnext
    simp at hnext
  | worked => simp at hnext
  | took _ _ _ hhandles =>
    rw [hhandles.current.2.2] at hnext
    simp [taking] at hnext
  | released _ hdelivers =>
    rw [hdelivers.current.2.2] at hnext
    omega
  | @reopened snap starts answers opened after _ hphase hopened _ hcurrent hpast =>
    obtain ⟨opening, hcovers, heq, -⟩ := openTokioGeneration_covers hopened
    obtain ⟨-, hbounds⟩ := (hu.driven.tracks stream hstream event.vbucket).seqnos
    obtain ⟨state, hstate, -⟩ := hbounds n hn
    obtain ⟨c, hc⟩ := (hu.bounded.captured snap starts hphase event.vbucket).2 _
      (hu.bounded.ends stream hstream _ state hstate)
    have hrequested : (u.reopenRequest snap starts).starts[event.vbucket]? =
        some (.checkpoint c) := by
      simp only [reopenRequest, reopenStarts, Std.ExtTreeMap.getElem?_map, hc, Option.map_some]
    refine ⟨hpast, ?_, ?_⟩
    · have hkey : event.vbucket ∈ (u.reopenRequest snap starts).starts.keys := by
        rw [Std.ExtTreeMap.mem_keys, Std.ExtTreeMap.mem_iff_isSome_getElem?, hrequested]
        rfl
      obtain ⟨stream', hstream', state', hstate'⟩ := hcovers.opened _ hkey
      refine ⟨stream', ?_, state', hstate'⟩
      rw [hcurrent, heq]
      exact hstream'
    · intro stream' hstream' state' hstate'
      rw [hcurrent, heq] at hstream'
      have hle := (hcovers.fits stream' hstream' _ state' hstate').1.start c hrequested
      by_contra hlt
      obtain ⟨token, htoken, hv, hposition, hack⟩ :=
        hu.settled.captured snap starts hphase event.vbucket c hc stream hstream n hn (by omega)
      exact hnever token htoken hv hposition hack

/-- An event of vBucket 0 is delivered and not processed when the connection goes dead. -/
def sampleUnprocessed : List SubscriptionAction :=
  [.check, .work 0 (.arrive (.ok (Worker.sampleMarker 0))),
    .work 0 (.arrive (.ok (Worker.sampleAdvance 0))), .work 0 .receive, .work 0 .receive, .take 0,
    .send, .check, .take 0, .send, .check, .work 0 .silence, .take 0, .close (.ok ()), .capture]

theorem reopened_before_unacknowledged_sample : ∃ s u t stream,
    samplePrepared .finite = .ok s ∧
    Machine.run (step (sampleConfig .finite)) s sampleUnprocessed = some u ∧
    u.step (sampleConfig .finite) (.openReply fun _ => sampleNode) = some t ∧
    stream ∈ u.current.streams ∧
    .ok (.event (.seqNoAdvanced ⟨0, 1⟩)) ∈ stream.worker.output ∧
    ∃ stream' ∈ t.current.streams, ∃ state, stream'.report.partitions[(0 : UInt16)]? = some state ∧
      state.startSeqno < 1 := by
  have hsample : ((samplePrepared .finite).toOption.bind fun s =>
      (Machine.run (step (sampleConfig .finite)) s sampleUnprocessed).bind fun u =>
        (u.step (sampleConfig .finite) (.openReply fun _ => sampleNode)).map fun t =>
          (decide (t.past.length = u.past.length + 1), u.system.acknowledged,
            u.current.streams[0]?.any fun stream =>
              decide (.ok (.event (.seqNoAdvanced ⟨0, 1⟩)) ∈ stream.worker.output))) =
      some (true, [], true) := by
    decide
  obtain ⟨s, hs, hsample⟩ := Option.bind_eq_some_iff.1 hsample
  obtain ⟨u, hu, hsample⟩ := Option.bind_eq_some_iff.1 hsample
  obtain ⟨t, ht, hsample⟩ := Option.map_eq_some_iff.1 hsample
  simp only [Prod.mk.injEq, decide_eq_true_eq, Option.any_eq_true] at hsample
  obtain ⟨hnext, hacks, stream, hstream, hemitted⟩ := hsample
  have hstart := toOption_eq_some.1 hs
  have hmem := List.mem_of_getElem? hstream
  have hnever : ∀ token ∈ u.current.tokens, token.vbucket = 0 → token.seqno = 1 →
      token ∉ u.system.acknowledged := by
    simp [hacks]
  obtain ⟨-, ⟨stream', hstream', state, hstate⟩, hbefore⟩ :=
    reopened_before_unacknowledged hstart hu ht hnext hmem hemitted rfl hnever
  exact ⟨s, u, t, stream, hstart, hu, ht, hmem, hemitted, stream', hstream', state, hstate,
    hbefore stream' hstream' state hstate⟩

end Subscription

end RustDcp
