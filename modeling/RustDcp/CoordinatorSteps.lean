import RustDcp.Coordinator
import RustDcp.OrderedMap

namespace RustDcp
set_option autoImplicit true

open AckQueue

theorem CoordinatorState.getElem?_setPartition (self : CoordinatorState) (v w : UInt16)
    (p : PartitionState) : (self.setPartition v p).partitions[w]? =
      if v = w then some p else self.partitions[w]? := by
  simp [setPartition, Std.ExtTreeMap.getElem?_insert]

theorem CoordinatorState.getElem?_setPartition_cases {self : CoordinatorState}
    (h : (self.setPartition v p).partitions[w]? = some q) :
    (v = w ∧ q = p) ∨ (v ≠ w ∧ self.partitions[w]? = some q) := by
  rw [getElem?_setPartition] at h
  split at h
  · exact .inl ⟨by assumption, (Option.some.inj h).symm⟩
  · exact .inr ⟨by assumption, h⟩

@[simp] theorem DcpCheckpoint.afterEvent_seqno (self : DcpCheckpoint) (event : DcpEvent)
    (n : Nat) (window : Nat × Nat) : (self.afterEvent event n window).seqno = n := by
  cases event <;> rfl

@[simp] theorem DcpCheckpoint.afterEvent_vbucket (self : DcpCheckpoint) (event : DcpEvent)
    (n : Nat) (window : Nat × Nat) : (self.afterEvent event n window).vbucket = self.vbucket := by
  cases event <;> rfl

@[simp] theorem DcpCheckpoint.afterEvent_bucketUuid (self : DcpCheckpoint) (event : DcpEvent)
    (n : Nat) (window : Nat × Nat) :
    (self.afterEvent event n window).bucketUuid = self.bucketUuid := by
  cases event <;> rfl

@[simp] theorem DcpCheckpoint.afterEvent_snapshotStart (self : DcpCheckpoint) (event : DcpEvent)
    (n : Nat) (window : Nat × Nat) : (self.afterEvent event n window).snapshotStart = window.1 := by
  cases event <;> rfl

@[simp] theorem DcpCheckpoint.afterEvent_snapshotEnd (self : DcpCheckpoint) (event : DcpEvent)
    (n : Nat) (window : Nat × Nat) : (self.afterEvent event n window).snapshotEnd = window.2 := by
  cases event <;> rfl

theorem PartitionState.trackMarker_eq_ok {self : PartitionState}
    (h : self.trackMarker marker = .ok next) :
    marker.startSeqno ≤ marker.endSeqno ∧ self.processed.seqno ≤ marker.endSeqno ∧
      next = { self with snapshot := some (marker.startSeqno, marker.endSeqno) } := by
  simp only [trackMarker] at h
  split at h
  · cases h
  · cases h
    exact ⟨by omega, by omega, rfl⟩

structure PartitionState.Registers (p : PartitionState) (event : DcpEvent) (n : Nat)
    (window : Nat × Nat) (next : PartitionState) : Prop where
  inSnapshot : p.snapshot = some window
  above : p.lastRegisteredSeqno < n
  inWindow : window.1 ≤ n ∧ n ≤ window.2
  noOverflow : p.nextDeliveryId < u64Max
  eq : next = { p with
    nextDeliveryId := p.nextDeliveryId + 1
    lastRegisteredSeqno := n
    pending := p.pending ++ [{
      deliveryId := p.nextDeliveryId
      checkpoint := p.lastCheckpoint.afterEvent event n window
      acknowledged := false }] }

theorem PartitionState.trackSeqno_eq_ok {self : PartitionState}
    (h : self.trackSeqno event n = .ok (token, next)) :
    token = { vbucket := event.vbucket, deliveryId := self.nextDeliveryId, seqno := n } ∧
      ∃ window, self.Registers event n window next := by
  simp only [trackSeqno] at h
  split at h
  · cases h
  rename_i low high hsnap
  split at h
  · cases h
  split at h
  · cases h
  split at h
  · cases h
  rename_i m hm
  cases h
  obtain ⟨hlt, rfl⟩ := checkedSucc_eq_some.1 hm
  exact ⟨rfl, (low, high), hsnap, by omega, ⟨by omega, by omega⟩, hlt, rfl⟩

theorem PartitionState.trackEvent_cases {self : PartitionState}
    (h : self.trackEvent event = .ok (token, next)) :
    (∃ marker, event = .snapshotMarker marker ∧ token = none ∧
      marker.startSeqno ≤ marker.endSeqno ∧ self.processed.seqno ≤ marker.endSeqno ∧
      next = { self with snapshot := some (marker.startSeqno, marker.endSeqno) }) ∨
    ((∀ marker, event ≠ .snapshotMarker marker) ∧ event.seqno = none ∧ token = none ∧
      next = self) ∨
    (∃ n window, event.seqno = some n ∧
      token = some { vbucket := event.vbucket, deliveryId := self.nextDeliveryId, seqno := n } ∧
      self.Registers event n window next) := by
  simp only [trackEvent] at h
  split at h
  · rename_i marker
    split at h
    · cases h
    rename_i partition hp
    cases h
    exact .inl ⟨marker, rfl, rfl, trackMarker_eq_ok hp⟩
  · rename_i hmarker
    split at h
    · rename_i hn
      cases h
      exact .inr (.inl ⟨fun marker heq => hmarker marker heq, hn, rfl, rfl⟩)
    · rename_i n hn
      split at h
      · cases h
      rename_i token partition hp
      cases h
      obtain ⟨rfl, window, hreg⟩ := trackSeqno_eq_ok hp
      exact .inr (.inr ⟨n, window, hn, rfl, hreg⟩)

theorem CoordinatorState.trackEvent_cases {self : CoordinatorState}
    (h : self.trackEvent event = (result, next)) :
    (∃ error, result = .error error ∧ next = self) ∨
    ∃ p token q, self.partitions[event.vbucket]? = some p ∧
      p.trackEvent event = .ok (token, q) ∧ result = .ok { event, ack := token } ∧
      next = self.setPartition event.vbucket q := by
  simp only [trackEvent] at h
  split at h
  · cases h
    exact .inl ⟨_, rfl, rfl⟩
  rename_i p hp
  split at h
  · cases h
    exact .inl ⟨_, rfl, rfl⟩
  · rename_i ack q hq
    cases h
    exact .inr ⟨p, ack, q, hp, hq, rfl, rfl⟩

theorem markAcknowledged_eq_none :
    markAcknowledged n pending = none ↔ ∀ entry ∈ pending, entry.deliveryId ≠ n := by
  induction pending with
  | nil => simp [markAcknowledged]
  | cons entry pending ih =>
    simp only [markAcknowledged]
    split <;> simp_all

theorem markAcknowledged_checkpoints (h : markAcknowledged n pending = some marked) :
    marked.map PendingAck.checkpoint = pending.map PendingAck.checkpoint := by
  induction pending generalizing marked with
  | nil => cases h
  | cons entry pending ih =>
    simp only [markAcknowledged] at h
    split at h
    · cases h
      rfl
    · obtain ⟨rest, hrest, rfl⟩ := Option.map_eq_some_iff.1 h
      rw [List.map_cons, List.map_cons, ih hrest]

/-- The entry after the token of delivery `n` was acknowledged. -/
def PendingAck.mark (n : Nat) (entry : PendingAck) : PendingAck :=
  { entry with acknowledged := entry.acknowledged || entry.deliveryId == n }

theorem PendingAck.mark_of_ne {entry : PendingAck} (h : entry.deliveryId ≠ n) :
    entry.mark n = entry := by
  rw [mark, beq_false_of_ne h, Bool.or_false]

theorem PendingAck.mark_self (entry : PendingAck) :
    entry.mark entry.deliveryId = { entry with acknowledged := true } := by
  simp [mark]

theorem markAcknowledged_eq_some (hnodup : (pending.map PendingAck.deliveryId).Nodup)
    (h : markAcknowledged n pending = some marked) :
    marked = pending.map (PendingAck.mark n) := by
  induction pending generalizing marked with
  | nil => cases h
  | cons entry pending ih =>
    rw [List.map_cons, List.nodup_cons] at hnodup
    rw [List.map_cons]
    simp only [markAcknowledged] at h
    split at h
    · rename_i heq
      subst heq
      cases h
      have hrest : pending.map (PendingAck.mark entry.deliveryId) = pending := by
        rw [List.map_congr_left (g := id), List.map_id]
        intro other hother
        exact PendingAck.mark_of_ne fun heq => hnodup.1 (heq ▸ List.mem_map_of_mem hother)
      rw [PendingAck.mark_self, hrest]
    · rename_i hne
      obtain ⟨rest, hrest, rfl⟩ := Option.map_eq_some_iff.1 h
      rw [ih hnodup.2 hrest, PendingAck.mark_of_ne hne]

theorem drainAcknowledged_eq (processed : DcpCheckpoint) (advancedTo : Option DcpCheckpoint)
    (pending : List PendingAck) :
    drainAcknowledged processed advancedTo pending =
      (released PendingAck.acknowledged PendingAck.checkpoint processed pending,
        if (pending.takeWhile PendingAck.acknowledged).isEmpty then advancedTo
        else some (released PendingAck.acknowledged PendingAck.checkpoint processed pending),
        pending.dropWhile PendingAck.acknowledged) := by
  induction pending generalizing processed advancedTo with
  | nil => rfl
  | cons entry pending ih =>
    simp only [drainAcknowledged]
    split
    · rename_i hack
      rw [ih, released_cons_done hack, List.dropWhile_cons_of_pos hack,
        List.takeWhile_cons_of_pos hack, List.isEmpty_cons]
      by_cases hnone : (pending.takeWhile PendingAck.acknowledged).isEmpty
      · rw [if_pos hnone, released_of_isEmpty hnone]
        rfl
      · rw [if_neg hnone]
        rfl
    · rename_i hack
      rw [released_cons_open (by simpa using hack), List.dropWhile_cons_of_neg hack,
        List.takeWhile_cons_of_neg hack]
      rfl

inductive PartitionState.AckEnds (p : PartitionState) (marked : List PendingAck) (token : EventAck)
    (generation : Nat) (processed : DcpCheckpoint) : Result AckOutcome → Prop
  | waits (hhead : (marked.takeWhile PendingAck.acknowledged).isEmpty)
      (hgen : generation = p.generation) (hsame : processed = p.processed) :
      p.AckEnds marked token generation processed (.ok {
        vbucket := token.vbucket, acknowledgedSeqno := token.seqno, advancedTo := none
        pendingEvents := (marked.dropWhile PendingAck.acknowledged).length })
  | advances (hgen : generation = p.generation + 1) (hlt : p.generation < u64Max) :
      p.AckEnds marked token generation processed (.ok {
        vbucket := token.vbucket, acknowledgedSeqno := token.seqno, advancedTo := some processed
        pendingEvents := (marked.dropWhile PendingAck.acknowledged).length })
  | overflows (hgen : generation = p.generation) (hmax : u64Max ≤ p.generation) :
      p.AckEnds marked token generation processed (.error (.checkpoint
        s!"checkpoint generation overflow for vBucket {token.vbucket}"))

theorem PartitionState.acknowledge_cases {self : PartitionState}
    (h : self.acknowledge token = (result, next)) :
    (markAcknowledged token.deliveryId self.pending = none ∧ next = self ∧
      ∃ error, result = .error error) ∨
    ∃ marked generation, markAcknowledged token.deliveryId self.pending = some marked ∧
      next = { self with
        processed := released PendingAck.acknowledged PendingAck.checkpoint self.processed marked
        pending := marked.dropWhile PendingAck.acknowledged
        generation } ∧
      self.AckEnds marked token generation next.processed result := by
  simp only [acknowledge] at h
  split at h
  · rename_i hnone
    cases h
    exact .inl ⟨hnone, rfl, _, rfl⟩
  rename_i marked hmarked
  refine .inr ⟨marked, next.generation, hmarked, ?_⟩
  simp only [drainAcknowledged_eq] at h
  by_cases hhead : (marked.takeWhile PendingAck.acknowledged).isEmpty
  · rw [if_pos hhead] at h
    cases h
    exact ⟨rfl, .waits hhead rfl (released_of_isEmpty hhead)⟩
  rw [if_neg hhead] at h
  dsimp only at h
  split at h
  · rename_i hover
    cases h
    exact ⟨rfl, .overflows rfl (checkedSucc_eq_none.1 hover)⟩
  · rename_i generation hgen
    obtain ⟨hlt, rfl⟩ := checkedSucc_eq_some.1 hgen
    cases h
    exact ⟨rfl, .advances rfl hlt⟩

theorem CoordinatorState.acknowledge_cases {self : CoordinatorState}
    (h : self.acknowledge token = (result, next)) :
    (self.partitions[token.vbucket]? = none ∧ (∃ error, result = .error error) ∧ next = self) ∨
    ∃ p q, self.partitions[token.vbucket]? = some p ∧ p.acknowledge token = (result, q) ∧
      next = self.setPartition token.vbucket q := by
  simp only [acknowledge] at h
  split at h
  · rename_i hnone
    cases h
    exact .inl ⟨hnone, ⟨_, rfl⟩, rfl⟩
  · rename_i p hp
    cases h
    exact .inr ⟨p, _, hp, rfl, rfl⟩

theorem CoordinatorState.markDirty_cases {self : CoordinatorState}
    (h : self.markDirty v = (result, next)) :
    ((∃ error, result = .error error) ∧ next = self) ∨
    ∃ p, self.partitions[v]? = some p ∧ p.generation < u64Max ∧ result = .ok () ∧
      next = self.setPartition v { p with generation := p.generation + 1 } := by
  simp only [markDirty] at h
  split at h
  · cases h
    exact .inl ⟨⟨_, rfl⟩, rfl⟩
  rename_i p hp
  split at h
  · cases h
    exact .inl ⟨⟨_, rfl⟩, rfl⟩
  · rename_i generation hgen
    obtain ⟨hlt, rfl⟩ := checkedSucc_eq_some.1 hgen
    cases h
    exact .inr ⟨p, hp, hlt, rfl, rfl⟩

theorem CoordinatorState.markChangedInitialPositions_eq_ok {self : CoordinatorState}
    (h : self.markChangedInitialPositions loaded entries = (.ok (), next)) {v : UInt16}
    (hq : next.partitions[v]? = some q) :
    ∃ p generation, self.partitions[v]? = some p ∧ q = { p with generation } ∧
      p.generation ≤ generation ∧
      ∀ c, (v, c) ∈ entries → loaded[v]? = some c ∨ p.generation < generation := by
  induction entries generalizing self with
  | nil =>
    cases h
    exact ⟨q, q.generation, hq, rfl, le_rfl, by simp⟩
  | cons entry entries ih =>
    obtain ⟨w, c⟩ := entry
    simp only [markChangedInitialPositions] at h
    split at h
    · rename_i hheld
      obtain ⟨p, generation, hp, heq, hle, hrest⟩ := ih h
      refine ⟨p, generation, hp, heq, hle, fun d hd => ?_⟩
      rcases List.mem_cons.1 hd with hd | hd
      · cases hd
        exact .inl hheld
      · exact hrest d hd
    · split at h
      · cases h
      rename_i state hdirty
      obtain ⟨p, generation, hp, heq, hle, hrest⟩ := ih h
      rcases markDirty_cases hdirty with ⟨⟨error, habs⟩, -⟩ | ⟨r, hr, hlt, -, rfl⟩
      · cases habs
      rcases getElem?_setPartition_cases hp with ⟨rfl, rfl⟩ | ⟨hne, hp⟩
      · exact ⟨r, generation, hr, heq, Nat.le_of_succ_le hle, fun _ _ => .inr hle⟩
      · refine ⟨p, generation, hp, heq, hle, fun d hd => ?_⟩
        rcases List.mem_cons.1 hd with hd | hd
        · cases hd
          exact absurd rfl hne
        · exact hrest d hd

theorem validateCheckpointIdentity_eq_ok :
    validateCheckpointIdentity v bucketUuid c = .ok () ↔
      c.vbucket = v ∧ c.bucketUuid = some bucketUuid ∧ c.validate = .ok () := by
  simp only [validateCheckpointIdentity]
  split
  · simp_all
  · split <;> simp_all

theorem CoordinatorState.validateRebase_eq_ok {self : CoordinatorState} :
    self.validateRebase bucketUuid v c = .ok () ↔ ∃ p, self.partitions[v]? = some p ∧
      validateCheckpointIdentity v bucketUuid c = .ok () ∧
      (p.processed = c ∨ p.generation ≠ u64Max) := by
  simp only [validateRebase]
  split
  · simp_all
  rename_i p hp
  split
  · simp_all
  · rename_i hok
    simp only [hp, hok, Option.some.injEq, exists_eq_left', true_and]
    split
    · rename_i hover
      simp [hover.1, hover.2]
    · rename_i hover
      simp only [true_iff]
      tauto

theorem CoordinatorState.validateRebases_eq_ok {self : CoordinatorState} :
    self.validateRebases bucketUuid entries = .ok () ↔
      ∀ entry ∈ entries, self.validateRebase bucketUuid entry.1 entry.2 = .ok () := by
  induction entries with
  | nil => simp [validateRebases]
  | cons entry entries ih =>
    simp only [validateRebases]
    split <;> simp_all

/-- The rebase of the partition of `v`, if the effective map has that vBucket. -/
def PartitionState.rebaseIf (self : PartitionState) : Option DcpCheckpoint → PartitionState
  | none => self
  | some checkpoint => self.rebase checkpoint

theorem CoordinatorState.applyRebases_eq {self : CoordinatorState}
    (hdistinct : (entries.map Prod.fst).Nodup)
    (htracked : ∀ entry ∈ entries, ∃ p, self.partitions[entry.1]? = some p) :
    ∃ next, self.applyRebases entries = (.ok (), next) ∧
      ∀ v : UInt16, next.partitions[v]? =
        self.partitions[v]?.map (·.rebaseIf ((entries.find? (·.1 = v)).map Prod.snd)) := by
  induction entries generalizing self with
  | nil =>
    refine ⟨self, rfl, fun v => ?_⟩
    simp [PartitionState.rebaseIf]
  | cons entry entries ih =>
    obtain ⟨w, c⟩ := entry
    rw [List.map_cons, List.nodup_cons] at hdistinct
    obtain ⟨p, hp⟩ := htracked (w, c) List.mem_cons_self
    have hkeep : ∀ entry ∈ entries, ∃ q,
        (self.setPartition w (p.rebase c)).partitions[entry.1]? = some q := by
      intro entry hentry
      rw [getElem?_setPartition]
      split
      · exact ⟨_, rfl⟩
      · exact htracked entry (List.mem_cons_of_mem _ hentry)
    obtain ⟨next, hnext, hget⟩ := ih hdistinct.2 hkeep
    refine ⟨next, ?_, fun v => ?_⟩
    · simp only [applyRebases, hp, hnext]
    rw [hget v, getElem?_setPartition]
    by_cases hv : w = v
    · subst hv
      have hnone : entries.find? (·.1 = w) = none := by
        rw [List.find?_eq_none]
        intro entry hentry heq
        refine hdistinct.1 (List.mem_map.2 ⟨entry, hentry, ?_⟩)
        exact of_decide_eq_true heq
      rw [if_pos rfl, hnone, hp]
      simp [PartitionState.rebaseIf]
    · rw [if_neg hv, List.find?_cons_of_neg (by simpa using hv)]

theorem find?_toList_eq {m : BTreeMap UInt16 ν} (v : UInt16) :
    (m.toList.find? (·.1 = v)).map Prod.snd = m[v]? := by
  cases hfind : m.toList.find? (·.1 = v) with
  | none =>
    rw [List.find?_eq_none] at hfind
    cases hget : m[v]? with
    | none => rfl
    | some value =>
      have hmem := Std.ExtTreeMap.mem_toList_iff_getElem?_eq_some.2 hget
      exact absurd (decide_eq_true rfl) (hfind (v, value) hmem)
  | some entry =>
    have hmem := List.mem_of_find?_eq_some hfind
    have hkey : entry.1 = v := by simpa using List.find?_some hfind
    rw [← hkey, Std.ExtTreeMap.mem_toList_iff_getElem?_eq_some.1 hmem]
    rfl

theorem CoordinatorState.rebasePartitions_cases {self : CoordinatorState}
    (h : self.rebasePartitions bucketUuid effective = (result, next)) :
    ((∃ error, result = .error error) ∧ next = self) ∨
    (result = .ok () ∧
      (∀ v c, effective[v]? = some c → self.validateRebase bucketUuid v c = .ok ()) ∧
      ∀ v : UInt16, next.partitions[v]? = self.partitions[v]?.map (·.rebaseIf effective[v]?)) := by
  simp only [rebasePartitions] at h
  split at h
  · cases h
    exact .inl ⟨⟨_, rfl⟩, rfl⟩
  rename_i hvalid
  rw [validateRebases_eq_ok] at hvalid
  have htracked : ∀ entry ∈ effective.toList, ∃ p, self.partitions[entry.1]? = some p := by
    intro entry hentry
    obtain ⟨p, hp, -⟩ := validateRebase_eq_ok.1 (hvalid entry hentry)
    exact ⟨p, hp⟩
  obtain ⟨after, hafter, hget⟩ := applyRebases_eq (OrderedMap.nodup_toList_fst _) htracked
  rw [hafter] at h
  cases h
  refine .inr ⟨rfl, fun v c hc => ?_, fun v => ?_⟩
  · exact hvalid (v, c) (Std.ExtTreeMap.mem_toList_iff_getElem?_eq_some.2 hc)
  · rw [hget v, find?_toList_eq]

theorem CoordinatorState.mem_dirtyCheckpoints {self : CoordinatorState} :
    d ∈ self.dirtyCheckpoints ↔ ∃ p, self.partitions[d.vbucket]? = some p ∧ p.isDirty = true ∧
      d.checkpoint = p.processed ∧ d.generation = p.generation := by
  simp only [dirtyCheckpoints, List.mem_map, List.mem_filter, Prod.exists,
    Std.ExtTreeMap.mem_toList_iff_getElem?_eq_some]
  constructor
  · rintro ⟨v, p, ⟨hp, hdirty⟩, rfl⟩
    exact ⟨p, hp, hdirty, rfl, rfl⟩
  · rintro ⟨p, hp, hdirty, hc, hg⟩
    refine ⟨d.vbucket, p, ⟨hp, hdirty⟩, ?_⟩
    cases d
    simp_all

theorem CoordinatorState.hasDirty_eq_false {self : CoordinatorState} :
    self.hasDirty = false ↔
      ∀ (v : UInt16) p, self.partitions[v]? = some p → p.isDirty = false := by
  simp only [hasDirty, List.any_eq_false, Prod.forall, Bool.not_eq_true,
    Std.ExtTreeMap.mem_toList_iff_getElem?_eq_some]

theorem CoordinatorState.dirtyCheckpoints_eq_nil {self : CoordinatorState} :
    self.dirtyCheckpoints = [] ↔
      ∀ (v : UInt16) p, self.partitions[v]? = some p → p.isDirty = false := by
  simp only [List.eq_nil_iff_forall_not_mem, mem_dirtyCheckpoints]
  constructor
  · intro h v p hp
    by_contra hdirty
    exact h ⟨v, p.processed, p.generation⟩ ⟨p, hp, by simpa using hdirty, rfl, rfl⟩
  · rintro h d ⟨p, hp, hdirty, -⟩
    simp [h _ p hp] at hdirty

theorem PartitionState.isDirty_eq_false {self : PartitionState} :
    self.isDirty = false ↔
      self.generation = self.durableGeneration ∧ self.durable = self.processed := by
  simp [isDirty]

@[simp] theorem CoordinatorState.recordFlushAttempt_partitions (self : CoordinatorState) :
    self.recordFlushAttempt.2.partitions = self.partitions := by
  simp only [recordFlushAttempt]
  split <;> rfl

@[simp] theorem CoordinatorState.recordFlushFailure_partitions (self : CoordinatorState)
    (error : DcpError) (incrementAttempt : Bool) :
    (self.recordFlushFailure error incrementAttempt).2.partitions = self.partitions := by
  cases incrementAttempt with
  | false =>
    simp only [recordFlushFailure, Bool.false_eq_true, ↓reduceIte]
    split <;> rfl
  | true =>
    simp only [recordFlushFailure, ↓reduceIte]
    split
    · exact recordFlushAttempt_partitions self
    · split <;> exact recordFlushAttempt_partitions self

theorem CoordinatorState.confirmSaved_cases {self : CoordinatorState}
    (h : self.confirmSaved dirty = some next) (hq : next.partitions[v]? = some q) :
    ∃ p, self.partitions[v]? = some p ∧
      ((q = p ∧ ∀ d ∈ dirty, d.vbucket ≠ v) ∨ ∃ d ∈ dirty, d.vbucket = v ∧ q = p.confirm d) := by
  induction dirty generalizing self with
  | nil =>
    cases h
    exact ⟨q, hq, .inl ⟨rfl, by simp⟩⟩
  | cons d dirty ih =>
    simp only [confirmSaved] at h
    split at h
    · cases h
    rename_i p hp
    obtain ⟨r, hr, hcases⟩ := ih h
    rcases getElem?_setPartition_cases hr with ⟨rfl, rfl⟩ | ⟨hne, hr⟩
    · refine ⟨p, hp, .inr ?_⟩
      rcases hcases with ⟨rfl, -⟩ | ⟨e, he, hev, rfl⟩
      · exact ⟨d, List.mem_cons_self, rfl, rfl⟩
      · exact ⟨e, List.mem_cons_of_mem _ he, hev, rfl⟩
    · refine ⟨r, hr, hcases.imp ?_ ?_⟩
      · rintro ⟨rfl, hnone⟩
        exact ⟨rfl, List.forall_mem_cons.2 ⟨hne, hnone⟩⟩
      · rintro ⟨e, he, hev, rfl⟩
        exact ⟨e, List.mem_cons_of_mem _ he, hev, rfl⟩

theorem CoordinatorState.setPartition_tracked {self : CoordinatorState} {v : UInt16}
    (q : PartitionState)
    (hp : self.partitions[v]? = some p) : ∃ r, (self.setPartition w q).partitions[v]? = some r := by
  rw [getElem?_setPartition]
  split
  · exact ⟨q, rfl⟩
  · exact ⟨p, hp⟩

theorem CoordinatorState.confirmSaved_tracked {self : CoordinatorState}
    {v : UInt16} (h : self.confirmSaved dirty = some next)
    (hp : self.partitions[v]? = some p) : ∃ q, next.partitions[v]? = some q := by
  induction dirty generalizing self p with
  | nil =>
    cases h
    exact ⟨p, hp⟩
  | cons d dirty ih =>
    simp only [confirmSaved] at h
    split at h
    · cases h
    · obtain ⟨r, hr⟩ := setPartition_tracked _ hp
      exact ih h hr

theorem validateInitialCheckpoint_eq_ok
    (h : validateInitialCheckpoint bucketUuid v c = .ok observed) :
    c.validate = .ok () ∧ c.vbucket = v ∧ c.bucketUuid = some observed ∧
      (bucketUuid = none ∨ bucketUuid = some observed) := by
  simp only [validateInitialCheckpoint] at h
  cases hvalid : c.validate with
  | error error => simp [hvalid, bind, Except.bind] at h
  | ok u =>
    simp only [hvalid, bind, Except.bind] at h
    refine ⟨rfl, ?_⟩
    split at h
    · cases h
    rename_i hv
    split at h
    · cases h
    rename_i uuid huuid
    split at h
    · cases h
    split at h
    · split at h
      · cases h
      · rename_i expected hsame
        cases h
        exact ⟨not_not.1 hv, huuid, .inr (by rw [not_not.1 hsame])⟩
    · cases h
      exact ⟨not_not.1 hv, huuid, .inl rfl⟩

theorem validateInitialList_some (h : validateInitialList (some uuid) entries = .ok observed) :
    observed = some uuid := by
  induction entries generalizing uuid with
  | nil =>
    cases h
    rfl
  | cons first entries ih =>
    simp only [validateInitialList] at h
    cases hfirst : validateInitialCheckpoint (some uuid) first.1 first.2 with
    | error error => simp [hfirst, bind, Except.bind] at h
    | ok next =>
      simp only [hfirst, bind, Except.bind] at h
      obtain ⟨-, -, -, hsame⟩ := validateInitialCheckpoint_eq_ok hfirst
      rw [ih h, ← Option.some.inj (hsame.resolve_left (by simp))]

theorem validateInitialList_eq_ok (h : validateInitialList bucketUuid entries = .ok observed) :
    ∀ entry ∈ entries, entry.2.validate = .ok () ∧ entry.2.vbucket = entry.1 ∧
      entry.2.bucketUuid = observed := by
  intro entry hentry
  induction entries generalizing bucketUuid with
  | nil => cases hentry
  | cons first entries ih =>
    simp only [validateInitialList] at h
    cases hfirst : validateInitialCheckpoint bucketUuid first.1 first.2 with
    | error error => simp [hfirst, bind, Except.bind] at h
    | ok uuid =>
      simp only [hfirst, bind, Except.bind] at h
      obtain ⟨hvalid, hv, huuid, -⟩ := validateInitialCheckpoint_eq_ok hfirst
      rcases List.mem_cons.1 hentry with rfl | hentry
      · exact ⟨hvalid, hv, by rw [huuid, validateInitialList_some h]⟩
      · exact ih h hentry

theorem CoordinatorState.new_eq_ok
    (h : CoordinatorState.new config checkpoints = .ok (bucketUuid, state)) :
    (∀ (v : UInt16) c, checkpoints[v]? = some c →
      validateCheckpointIdentity v bucketUuid c = .ok ()) ∧
    ∀ v : UInt16, state.partitions[v]? = checkpoints[v]?.map PartitionState.new := by
  simp only [CoordinatorState.new, validateInitialCheckpoints] at h
  cases hconfig : config.validate with
  | error error => simp [hconfig, bind, Except.bind] at h
  | ok u =>
    cases hlist : validateInitialList none checkpoints.toList with
    | error error => simp [hconfig, hlist, bind, Except.bind] at h
    | ok observed =>
      cases observed with
      | none => simp [hconfig, hlist, bind, Except.bind] at h
      | some uuid =>
        simp only [hconfig, hlist, bind, Except.bind, Except.ok.injEq, Prod.mk.injEq] at h
        obtain ⟨rfl, rfl⟩ := h
        refine ⟨fun v c hc => ?_, fun v => ?_⟩
        · obtain ⟨hvalid, hv, huuid⟩ := validateInitialList_eq_ok hlist (v, c)
            (Std.ExtTreeMap.mem_toList_iff_getElem?_eq_some.2 hc)
          exact validateCheckpointIdentity_eq_ok.2 ⟨hv, huuid, hvalid⟩
        · exact Std.ExtTreeMap.getElem?_map

end RustDcp
