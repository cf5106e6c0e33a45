import RustDcp.AckSafety

namespace RustDcp
set_option autoImplicit true

open AckQueue

def Happening.token : Happening → Option EventAck
  | .delivered tracked => tracked.ack
  | .rebased _ => none

theorem markAcknowledged_split (h : markAcknowledged n pending = some marked) :
    ∃ front entry back, pending = front ++ entry :: back ∧ entry.deliveryId = n ∧
      marked = front ++ { entry with acknowledged := true } :: back := by
  induction pending generalizing marked with
  | nil => cases h
  | cons entry pending ih =>
    simp only [markAcknowledged] at h
    split at h
    · rename_i hid
      cases h
      exact ⟨[], entry, pending, rfl, hid, rfl⟩
    · obtain ⟨rest, hrest, rfl⟩ := Option.map_eq_some_iff.1 h
      obtain ⟨front, found, back, rfl, hid, rfl⟩ := ih hrest
      exact ⟨entry :: front, found, back, rfl, hid, rfl⟩

namespace PartitionState

/-- Everything pending has one of the issued tokens, whose delivery IDs grow. -/
structure Issues (p : PartitionState) (tokens : List EventAck) : Prop where
  ordered : tokens.Pairwise fun earlier later => earlier.deliveryId < later.deliveryId
  below : ∀ token ∈ tokens, token.deliveryId < p.nextDeliveryId
  pending : ∀ entry ∈ p.pending, ∃ token ∈ tokens,
    token.deliveryId = entry.deliveryId ∧ token.seqno = entry.checkpoint.seqno
  distinct : (p.pending.map PendingAck.deliveryId).Nodup

theorem Issues.same (h : Issues p tokens) (hsame : p.SameProgress q) : Issues q tokens := by
  refine ⟨h.ordered, ?_, ?_, ?_⟩
  · rw [hsame.nextDeliveryId]
    exact h.below
  · rw [hsame.pending]
    exact h.pending
  · rw [hsame.pending]
    exact h.distinct

theorem Issues.track (h : Issues p tokens) (htrack : p.trackEvent event = .ok (token, q)) :
    Issues q (tokens ++ token.toList) := by
  rcases trackEvent_cases htrack with ⟨marker, -, rfl, -, -, rfl⟩ | ⟨-, -, rfl, rfl⟩ |
    ⟨n, window, -, rfl, hreg⟩
  · rw [Option.toList_none, List.append_nil]
    exact ⟨h.ordered, h.below, h.pending, h.distinct⟩
  · rw [Option.toList_none, List.append_nil]
    exact h
  · rw [hreg.eq]
    have hfresh : ∀ entry ∈ p.pending, entry.deliveryId ≠ p.nextDeliveryId := by
      intro entry hentry
      obtain ⟨token, htoken, hid, -⟩ := h.pending entry hentry
      exact hid ▸ (h.below token htoken).ne
    refine ⟨?_, ?_, ?_, ?_⟩
    · rw [Option.toList_some, List.pairwise_append]
      refine ⟨h.ordered, List.pairwise_singleton _ _, ?_⟩
      intro earlier hearlier later hlater
      rw [List.mem_singleton] at hlater
      subst hlater
      exact h.below earlier hearlier
    · intro token htoken
      rw [Option.toList_some, List.mem_append, List.mem_singleton] at htoken
      rcases htoken with htoken | rfl
      · exact Nat.lt_succ_of_lt (h.below token htoken)
      · exact Nat.lt_succ_self _
    · intro entry hentry
      rw [List.mem_append, List.mem_singleton] at hentry
      rcases hentry with hentry | rfl
      · obtain ⟨token, htoken, hids⟩ := h.pending entry hentry
        exact ⟨token, List.mem_append_left _ htoken, hids⟩
      · exact ⟨_, List.mem_append_right _ (List.mem_singleton_self _), rfl, by simp⟩
    · rw [List.map_append, List.nodup_append]
      refine ⟨h.distinct, List.nodup_singleton _, ?_⟩
      intro i hi j hj
      obtain ⟨entry, hentry, rfl⟩ := List.mem_map.1 hi
      obtain rfl := List.mem_singleton.1 hj
      exact hfresh entry hentry

theorem acknowledge_pending {p : PartitionState} (hack : p.acknowledge token = (result, q)) :
    q.nextDeliveryId = p.nextDeliveryId ∧
      (q.pending.map PendingAck.deliveryId).Sublist (p.pending.map PendingAck.deliveryId) ∧
      ∀ entry ∈ q.pending, ∃ old ∈ p.pending, old.deliveryId = entry.deliveryId ∧
        old.checkpoint = entry.checkpoint := by
  rcases acknowledge_cases hack with ⟨-, rfl, -⟩ | ⟨marked, generation, hmarked, rfl, -⟩
  · exact ⟨rfl, List.Sublist.refl _, fun entry hentry => ⟨entry, hentry, rfl, rfl⟩⟩
  · obtain ⟨front, found, back, hpending, -, rfl⟩ := markAcknowledged_split hmarked
    refine ⟨rfl, ?_, ?_⟩
    · have hids : (front ++ { found with acknowledged := true } :: back).map
          PendingAck.deliveryId = p.pending.map PendingAck.deliveryId := by
        simp [hpending]
      rw [← hids]
      exact (List.dropWhile_sublist _).map _
    · intro entry hentry
      rw [hpending]
      rcases List.mem_append.1 (List.dropWhile_subset _ hentry) with hentry | hentry
      · exact ⟨entry, List.mem_append_left _ hentry, rfl, rfl⟩
      · rcases List.mem_cons.1 hentry with rfl | hentry
        · exact ⟨found, List.mem_append_right _ List.mem_cons_self, rfl, rfl⟩
        · exact ⟨entry, List.mem_append_right _ (List.mem_cons_of_mem _ hentry), rfl, rfl⟩

theorem Issues.acknowledge (h : Issues p tokens) (hack : p.acknowledge token = (result, q)) :
    Issues q tokens := by
  obtain ⟨hnext, hids, hentries⟩ := acknowledge_pending hack
  refine ⟨h.ordered, ?_, ?_, h.distinct.sublist hids⟩
  · rw [hnext]
    exact h.below
  · intro entry hentry
    obtain ⟨old, hold, hid, hcheckpoint⟩ := hentries entry hentry
    obtain ⟨token, htoken, hmatch⟩ := h.pending old hold
    rw [hid, hcheckpoint] at hmatch
    exact ⟨token, htoken, hmatch⟩

theorem Issues.rebaseIf (h : Issues p tokens) (c : Option DcpCheckpoint) :
    Issues (p.rebaseIf c) tokens := by
  cases c with
  | none => exact h
  | some c => exact ⟨h.ordered, h.below, by simp [PartitionState.rebaseIf, rebase],
      by simp [PartitionState.rebaseIf, rebase]⟩

end PartitionState

namespace System

def issued (s : System) : List EventAck := s.journal.filterMap Happening.token

def issuedFor (s : System) (v : UInt16) : List EventAck :=
  s.issued.filter fun token => token.vbucket = v

theorem mem_issuedFor {s : System} :
    token ∈ s.issuedFor v ↔ token ∈ s.issued ∧ token.vbucket = v := by
  simp [issuedFor]

/-- The tokens that the application holds or has used and what is pending agree. -/
structure Exact (s : System) : Prop where
  issues : ∀ (v : UInt16) p, s.state.partitions[v]? = some p → p.Issues (s.issuedFor v)
  untracked : ∀ v : UInt16, s.state.partitions[v]? = none → s.issuedFor v = []
  held : ∀ token ∈ s.tokens, token ∈ s.issued
  events : ∀ event token, .delivered ⟨event, some token⟩ ∈ s.journal →
    event.vbucket = token.vbucket ∧ event.seqno = some token.seqno

theorem Exact.frame {s t : System} (h : s.Exact) (hissued : t.issued = s.issued)
    (hjournal : ∀ tracked, .delivered tracked ∈ t.journal → .delivered tracked ∈ s.journal)
    (hheld : ∀ token ∈ t.tokens, token ∈ s.tokens)
    (hissues : ∀ (v : UInt16) q, t.state.partitions[v]? = some q →
      ∃ p, s.state.partitions[v]? = some p ∧ ∀ tokens, p.Issues tokens → q.Issues tokens)
    (huntracked : ∀ v : UInt16, t.state.partitions[v]? = none →
      s.state.partitions[v]? = none) : t.Exact := by
  have hissuedFor : ∀ v, t.issuedFor v = s.issuedFor v := by
    intro v
    rw [issuedFor, hissued, issuedFor]
  refine ⟨?_, ?_, ?_, ?_⟩
  · intro v q hq
    obtain ⟨p, hp, hkeep⟩ := hissues v q hq
    rw [hissuedFor]
    exact hkeep _ (h.issues v p hp)
  · intro v hv
    rw [hissuedFor]
    exact h.untracked v (huntracked v hv)
  · intro token htoken
    rw [hissued]
    exact h.held token (hheld token htoken)
  · intro event token hmem
    exact h.events event token (hjournal _ hmem)

theorem setPartition_issues {s : System} {w : UInt16} (hp : s.state.partitions[w]? = some p)
    (hkeep : ∀ tokens, p.Issues tokens → r.Issues tokens) :
    (∀ (v : UInt16) q, (s.state.setPartition w r).partitions[v]? = some q →
      ∃ p, s.state.partitions[v]? = some p ∧ ∀ tokens, p.Issues tokens → q.Issues tokens) ∧
    ∀ v : UInt16, (s.state.setPartition w r).partitions[v]? = none →
      s.state.partitions[v]? = none := by
  constructor
  · intro v q hq
    rcases CoordinatorState.getElem?_setPartition_cases hq with ⟨rfl, rfl⟩ | ⟨-, hq⟩
    · exact ⟨p, hp, hkeep⟩
    · exact ⟨q, hq, fun _ htokens => htokens⟩
  · intro v hv
    rw [CoordinatorState.getElem?_setPartition] at hv
    split at hv
    · cases hv
    · exact hv

theorem Exact.track {s : System} (h : s.Exact)
    (hp : s.state.partitions[event.vbucket]? = some p)
    (htrack : p.trackEvent event = .ok (token, q)) :
    Exact { s with
      state := s.state.setPartition event.vbucket q
      tokens := s.tokens ++ token.toList
      journal := s.journal ++ [.delivered ⟨event, token⟩] } := by
  have htoken : ∀ issued, token = some issued →
      event.vbucket = issued.vbucket ∧ event.seqno = some issued.seqno := by
    intro issued hissued
    rcases PartitionState.trackEvent_cases htrack with ⟨marker, -, hnone, -⟩ | ⟨-, -, hnone, -⟩ |
      ⟨n, window, hn, hsome, -⟩
    · cases hissued.symm.trans hnone
    · cases hissued.symm.trans hnone
    · cases hissued.symm.trans hsome
      exact ⟨rfl, hn⟩
  have hissued : issued { s with
      state := s.state.setPartition event.vbucket q
      tokens := s.tokens ++ token.toList
      journal := s.journal ++ [.delivered ⟨event, token⟩] } = s.issued ++ token.toList := by
    cases token <;> simp [issued, Happening.token]
  have hother : ∀ v, event.vbucket ≠ v →
      token.toList.filter (fun token => token.vbucket = v) = [] := by
    intro v hne
    rw [List.filter_eq_nil_iff]
    intro issued hmem heq
    rw [Option.mem_toList] at hmem
    exact hne ((htoken issued hmem).1.trans (of_decide_eq_true heq))
  refine ⟨?_, ?_, ?_, ?_⟩
  · intro v r hr
    rw [issuedFor, hissued, List.filter_append]
    rcases CoordinatorState.getElem?_setPartition_cases hr with ⟨rfl, rfl⟩ | ⟨hne, hr⟩
    · have hown : token.toList.filter (fun token => token.vbucket = event.vbucket) =
          token.toList := by
        rw [List.filter_eq_self]
        intro issued hmem
        rw [Option.mem_toList] at hmem
        exact decide_eq_true (htoken issued hmem).1.symm
      rw [hown]
      exact (h.issues _ p hp).track htrack
    · rw [hother v hne, List.append_nil]
      exact h.issues v r hr
  · intro v hv
    rw [CoordinatorState.getElem?_setPartition] at hv
    split at hv
    · cases hv
    · rename_i hne
      rw [issuedFor, hissued, List.filter_append, hother v hne, List.append_nil]
      exact h.untracked v hv
  · intro issued hmem
    rw [hissued]
    rcases List.mem_append.1 hmem with hmem | hmem
    · exact List.mem_append_left _ (h.held issued hmem)
    · exact List.mem_append_right _ hmem
  · intro other issued hmem
    rcases List.mem_append.1 hmem with hmem | hmem
    · exact h.events other issued hmem
    · cases List.mem_singleton.1 hmem
      exact htoken issued rfl

theorem step_exact {s : System} (h : s.Exact) (hstep : s.step action = some t) : t.Exact := by
  cases step_effect hstep with
  | rejected => exact h
  | tracked hp htrack => exact h.track hp htrack
  | @acknowledged token result after hmem hack =>
    have hheld : ∀ other ∈ s.tokens.erase token, other ∈ s.tokens :=
      fun other hother => List.mem_of_mem_erase hother
    rcases CoordinatorState.acknowledge_cases hack with ⟨-, -, rfl⟩ | ⟨p, r, hp, hr, rfl⟩
    · exact h.frame rfl (fun _ hmem => hmem) hheld
        (fun v q hq => ⟨q, hq, fun _ htokens => htokens⟩) (fun v hv => hv)
    · obtain ⟨hissues, huntracked⟩ := setPartition_issues hp fun _ htokens =>
        PartitionState.Issues.acknowledge htokens hr
      exact h.frame rfl (fun _ hmem => hmem) hheld hissues huntracked
  | @rebased effective after hvalid hget =>
    refine h.frame ?_ ?_ (fun _ hmem => hmem) ?_ ?_
    · simp [issued, Happening.token]
    · intro tracked hmem
      simpa using hmem
    · intro v q hq
      rw [hget, Option.map_eq_some_iff] at hq
      obtain ⟨p, hp, rfl⟩ := hq
      exact ⟨p, hp, fun _ htokens => htokens.rebaseIf _⟩
    · intro v hv
      rwa [hget, Option.map_eq_none_iff] at hv
  | @dirtied v p hp hlt =>
    obtain ⟨hissues, huntracked⟩ := setPartition_issues
      (r := { p with generation := p.generation + 1 }) hp fun _ htokens =>
        PartitionState.Issues.same htokens ⟨rfl, rfl, rfl, rfl, rfl⟩
    exact h.frame rfl (fun _ hmem => hmem) (fun _ hmem => hmem) hissues huntracked
  | flushed hflush =>
    have hframe := hflush.frame
    refine h.frame (by rw [issued, hframe.journal, issued]) ?_ ?_ ?_ ?_
    · rw [hframe.journal]
      exact fun _ hmem => hmem
    · rw [hframe.tokens]
      exact fun _ hmem => hmem
    · intro v q hq
      obtain ⟨p, hp, hconfirm⟩ := hframe.partitions v q hq
      refine ⟨p, hp, fun _ htokens => ?_⟩
      rcases hconfirm with rfl | ⟨d, rfl⟩
      · exact htokens
      · exact htokens.same ⟨rfl, rfl, rfl, rfl, rfl⟩
    · intro v hv
      cases hp : s.state.partitions[v]? with
      | none => rfl
      | some p =>
        obtain ⟨q, hq, -⟩ := flush_moves hflush hp
        cases hv.symm.trans hq

theorem new_exact (h : System.new config stored checkpoints = .ok s) : s.Exact := by
  obtain ⟨hnew, -, -, -, htokens, -, hjournal, -⟩ := new_eq_ok h
  have hissued : ∀ v, s.issuedFor v = [] := by
    intro v
    rw [issuedFor, issued, hjournal]
    rfl
  refine ⟨?_, fun v _ => hissued v, ?_, ?_⟩
  · intro v p hp
    rw [(CoordinatorState.new_eq_ok hnew).2 v, Option.map_eq_some_iff] at hp
    obtain ⟨c, -, rfl⟩ := hp
    rw [hissued]
    exact ⟨.nil, by simp, by simp [PartitionState.new], by simp [PartitionState.new]⟩
  · simp [htokens]
  · simp [hjournal]

/-- The acknowledgement marks the entry of the event that the token was issued for, and drains the
queue of that vBucket. -/
def Marks (s : System) (token : EventAck) (outcome : AckOutcome) (after : CoordinatorState) :
    Prop :=
  ∃ event p front entry back generation,
    .delivered ⟨event, some token⟩ ∈ s.journal ∧ event.vbucket = token.vbucket ∧
    event.seqno = some outcome.acknowledgedSeqno ∧
    s.state.partitions[token.vbucket]? = some p ∧ p.pending = front ++ entry :: back ∧
    entry.deliveryId = token.deliveryId ∧ entry.checkpoint.seqno = outcome.acknowledgedSeqno ∧
    (∀ other ∈ front ++ back, other.deliveryId ≠ token.deliveryId) ∧
    after = s.state.setPartition token.vbucket { p with
      processed := released PendingAck.acknowledged PendingAck.checkpoint p.processed
        (front ++ { entry with acknowledged := true } :: back)
      pending := (front ++ { entry with acknowledged := true } :: back).dropWhile
        PendingAck.acknowledged
      generation }

theorem Exact.marks {s : System} (h : s.Exact) (htoken : token ∈ s.issued)
    (hack : s.state.acknowledge token = (.ok outcome, after)) : s.Marks token outcome after := by
  rcases CoordinatorState.acknowledge_cases hack with ⟨-, ⟨error, herror⟩, -⟩ | ⟨p, q, hp, hq, rfl⟩
  · cases herror
  rcases PartitionState.acknowledge_cases hq with ⟨-, -, error, herror⟩ |
    ⟨marked, generation, hmarked, rfl, hends⟩
  · cases herror
  obtain ⟨front, entry, back, hpending, hid, rfl⟩ := markAcknowledged_split hmarked
  obtain ⟨happening, hmem, hsome⟩ := List.mem_filterMap.1 htoken
  cases happening with
  | rebased effective => cases hsome
  | delivered tracked =>
    obtain ⟨event, ack⟩ := tracked
    cases hsome
    obtain ⟨hv, hn⟩ := h.events event token hmem
    have hreports : outcome.acknowledgedSeqno = token.seqno := by
      cases hends with
      | waits | advances => rfl
    have hissues := h.issues token.vbucket p hp
    have hids : ((s.issuedFor token.vbucket).map EventAck.deliveryId).Nodup := by
      rw [List.Nodup, List.pairwise_map]
      exact hissues.ordered.imp Nat.ne_of_lt
    obtain ⟨other, hother, hsame, hseqno⟩ := hissues.pending entry (by simp [hpending])
    have heq : other = token := List.inj_on_of_nodup_map hids hother
      (mem_issuedFor.2 ⟨htoken, rfl⟩) (hsame.trans hid)
    refine ⟨event, p, front, entry, back, generation, hmem, hv, ?_, hp, hpending, hid, ?_, ?_, rfl⟩
    · rw [hn, hreports]
    · rw [hreports, ← heq, hseqno]
    · have hdistinct := hissues.distinct
      rw [hpending, List.map_append, List.map_cons, List.nodup_middle, List.nodup_cons,
        ← List.map_append, hid] at hdistinct
      intro other hother hother'
      exact hdistinct.1 (hother' ▸ List.mem_map_of_mem hother)

/-- Nothing of the vBucket with a smaller delivery ID than `bound` is pending any more. -/
def Past (v : UInt16) (bound : Nat) (s : System) : Prop :=
  ∃ p, s.state.partitions[v]? = some p ∧ bound ≤ p.nextDeliveryId ∧
    ∀ entry ∈ p.pending, bound ≤ entry.deliveryId

theorem Past.step {s : System} (h : s.Past v bound) (hstep : s.step action = some t) :
    t.Past v bound := by
  obtain ⟨p, hp, hnext, hpending⟩ := h
  obtain ⟨q, hq, hmoves⟩ := step_moves hstep hp
  refine ⟨q, hq, ?_⟩
  cases hmoves with
  | same hsame =>
    rw [hsame.nextDeliveryId, hsame.pending]
    exact ⟨hnext, hpending⟩
  | tracked hv htrack =>
    rcases PartitionState.trackEvent_cases htrack with ⟨marker, -, -, -, -, rfl⟩ |
      ⟨-, -, -, rfl⟩ | ⟨n, window, -, -, hreg⟩
    · exact ⟨hnext, hpending⟩
    · exact ⟨hnext, hpending⟩
    · rw [hreg.eq]
      refine ⟨hnext.trans (Nat.le_succ _), ?_⟩
      intro entry hentry
      rcases List.mem_append.1 hentry with hentry | hentry
      · exact hpending entry hentry
      · rw [List.mem_singleton.1 hentry]
        exact hnext
  | acknowledged hv hack =>
    obtain ⟨hsame, -, hentries⟩ := PartitionState.acknowledge_pending hack
    refine ⟨hsame ▸ hnext, ?_⟩
    intro entry hentry
    obtain ⟨old, hold, hid, -⟩ := hentries entry hentry
    exact hid ▸ hpending old hold
  | rebased hc => exact ⟨hnext, by simp [PartitionState.rebase]⟩

end System

theorem CoordinatorState.setPartition_self {self : CoordinatorState} {v : UInt16}
    (hp : self.partitions[v]? = some p) : self.setPartition v p = self := by
  have hsame : self.partitions.insert v p = self.partitions := by
    apply Std.ExtTreeMap.ext_getElem?
    intro w
    rw [Std.ExtTreeMap.getElem?_insert]
    split
    · rename_i heq
      rw [← Std.LawfulEqCmp.eq_of_compare heq, hp]
    · rfl
  rw [setPartition, hsame]

namespace System

theorem Past.acknowledge {s : System} (h : s.Past token.vbucket bound)
    (hlt : token.deliveryId < bound) :
    ∃ error, s.state.acknowledge token = (.error error, s.state) := by
  obtain ⟨p, hp, -, hpending⟩ := h
  have hnone : markAcknowledged token.deliveryId p.pending = none := by
    rw [markAcknowledged_eq_none]
    intro entry hentry
    exact (hlt.trans_le (hpending entry hentry)).ne'
  rw [CoordinatorState.acknowledge, hp]
  simp only [PartitionState.acknowledge, hnone, CoordinatorState.setPartition_self hp]
  exact ⟨_, rfl⟩

theorem Exact.rebase_past {s : System} (h : s.Exact)
    (hrebase : s.state.rebasePartitions s.bucketUuid effective = (.ok (), after))
    (hc : effective[v]? = some c) (hstep : s.step (.rebase effective) = some t) :
    ∃ bound, t.Past v bound ∧ ∀ token ∈ s.issued, token.vbucket = v → token.deliveryId < bound := by
  rcases CoordinatorState.rebasePartitions_cases hrebase with
    ⟨⟨error, herror⟩, -⟩ | ⟨-, hvalid, hget⟩
  · cases herror
  obtain ⟨p, hp, -⟩ := CoordinatorState.validateRebase_eq_ok.1 (hvalid v c hc)
  simp only [step, hrebase, Option.some.injEq] at hstep
  subst hstep
  refine ⟨p.nextDeliveryId, ⟨p.rebase c, ?_, le_rfl, by simp [PartitionState.rebase]⟩, ?_⟩
  · rw [hget, hp, hc]
    rfl
  · intro token htoken hv
    exact (h.issues v p hp).below token (mem_issuedFor.2 ⟨htoken, hv⟩)

/-- Delivery IDs are never used twice, an acknowledgement is about its own event, and a rebase makes
every earlier token of its vBuckets obsolete. -/
theorem tokens_exact (hnew : System.new config stored checkpoints = .ok initial)
    (hrun : Machine.run step initial acts = some s) :
    (∀ v, (s.issuedFor v).Pairwise fun earlier later => earlier.deliveryId < later.deliveryId) ∧
    (∀ token ∈ s.tokens, token ∈ s.issued) ∧
    (∀ token ∈ s.issued, ∀ outcome after, s.state.acknowledge token = (.ok outcome, after) →
      s.Marks token outcome after ∧
      ∀ w : UInt16, w ≠ token.vbucket → after.partitions[w]? = s.state.partitions[w]?) ∧
    ∀ before effective rest rebasing after, acts = before ++ .rebase effective :: rest →
      Machine.run step initial before = some rebasing →
      rebasing.state.rebasePartitions rebasing.bucketUuid effective = (.ok (), after) →
      ∀ token ∈ rebasing.issued, token.vbucket ∈ effective →
        ∃ error, s.state.acknowledge token = (.error error, s.state) := by
  have hexact : ∀ {acts t}, Machine.run step initial acts = some t → t.Exact := fun hrun =>
    Machine.run_invariant (fun _ _ _ => step_exact) (new_exact hnew) hrun
  refine ⟨?_, (hexact hrun).held, ?_, ?_⟩
  · intro v
    cases hp : s.state.partitions[v]? with
    | none =>
      rw [(hexact hrun).untracked v hp]
      exact .nil
    | some p => exact ((hexact hrun).issues v p hp).ordered
  · intro token htoken outcome after hack
    have hmarks := (hexact hrun).marks htoken hack
    refine ⟨hmarks, ?_⟩
    obtain ⟨-, -, -, -, -, -, -, -, -, -, -, -, -, -, rfl⟩ := hmarks
    intro w hw
    rw [CoordinatorState.getElem?_setPartition, if_neg hw.symm]
  · intro before effective rest rebasing after hacts hbefore hrebase token htoken hv
    subst hacts
    obtain ⟨middle, hmiddle, hrest⟩ := Machine.run_append.1 hrun
    cases hbefore.symm.trans hmiddle
    obtain ⟨next, hnext, hrest⟩ := Machine.run_cons_iff.1 hrest
    obtain ⟨bound, hpast, hlt⟩ := (hexact hbefore).rebase_past hrebase
      (Std.ExtTreeMap.getElem?_eq_some_getElem hv) hnext
    exact (Machine.run_invariant (fun _ _ _ h hstep => h.step hstep) hpast hrest).acknowledge
      (hlt token htoken rfl)

theorem tokens_exact_sample : ∃ t, Machine.run step sampleSystem
    ([.track (sampleMarker 7 9), .track (.seqNoAdvanced ⟨7, 1⟩)] ++ .rebase (sampleStart 7) ::
      [.track (sampleMarker 7 9), .track (.seqNoAdvanced ⟨7, 1⟩)]) = some t ∧
    t.issued = [⟨7, 1, 1⟩, ⟨7, 2, 1⟩] ∧
    ∃ error, t.state.acknowledge ⟨7, 1, 1⟩ = (.error error, t.state) := by
  have hnew : System.new sampleConfig ∅ (sampleStart 7) = .ok sampleSystem := rfl
  have hissued : (Machine.run step sampleSystem
      ([.track (sampleMarker 7 9), .track (.seqNoAdvanced ⟨7, 1⟩)] ++ .rebase (sampleStart 7) ::
        [.track (sampleMarker 7 9), .track (.seqNoAdvanced ⟨7, 1⟩)])).map issued =
      some [⟨7, 1, 1⟩, ⟨7, 2, 1⟩] := by decide
  obtain ⟨t, ht, hissued⟩ := Option.map_eq_some_iff.1 hissued
  exact ⟨t, ht, hissued, (tokens_exact hnew ht).2.2.2 _ _ _ _ _ rfl rfl rfl ⟨7, 1, 1⟩ (by decide)
    (by decide)⟩

end System

end RustDcp
