import RustDcp.CheckpointSystem

namespace RustDcp
set_option autoImplicit true

open AckQueue

/-- A sequence-numbered event of one vBucket, by its token and its checkpoint. -/
structure Registration where
  token : EventAck
  checkpoint : DcpCheckpoint
  deriving DecidableEq, Repr

def Registration.isDone (done : EventAck → Bool) (self : Registration) : Bool := done self.token

/-- What one vBucket registered since its last rebase, read off the journal. -/
structure Ledger where
  base : DcpCheckpoint
  window : Option (Nat × Nat)
  entries : List Registration
  deriving DecidableEq, Repr

namespace Ledger

def start (base : DcpCheckpoint) : Ledger := { base, window := none, entries := [] }

def last (self : Ledger) : DcpCheckpoint :=
  (self.entries.getLast?.map Registration.checkpoint).getD self.base

def deliver (self : Ledger) (tracked : TrackedEvent) : Ledger :=
  match tracked.event, tracked.ack, self.window with
  | .snapshotMarker marker, _, _ =>
    { self with window := some (marker.startSeqno, marker.endSeqno) }
  | event, some token, some window =>
    { self with entries := self.entries ++
      [{ token, checkpoint := self.last.afterEvent event token.seqno window }] }
  | _, _, _ => self

def observe (v : UInt16) (self : Ledger) : Happening → Ledger
  | .delivered tracked => if tracked.event.vbucket = v then self.deliver tracked else self
  | .rebased effective =>
    match effective[v]? with
    | none => self
    | some checkpoint => start checkpoint

/-- The checkpoint of the last event of the longest acknowledged front of the ledger. -/
def processed (self : Ledger) (done : EventAck → Bool) : DcpCheckpoint :=
  released (Registration.isDone done) Registration.checkpoint self.base self.entries

def view (done : EventAck → Bool) (entry : Registration) : PendingAck :=
  { deliveryId := entry.token.deliveryId
    checkpoint := entry.checkpoint
    acknowledged := done entry.token }

/-- The partition state implements the ledger, of which the events in `done` are acknowledged. -/
structure Models (ledger : Ledger) (done : EventAck → Bool) (p : PartitionState) : Prop where
  snapshot : p.snapshot = ledger.window
  pending : p.pending = (ledger.entries.dropWhile (Registration.isDone done)).map (view done)
  processed : p.processed = ledger.processed done
  below : ∀ c ∈ ledger.base :: ledger.entries.map Registration.checkpoint,
    c.seqno ≤ p.lastRegisteredSeqno
  sorted : (ledger.base :: ledger.entries.map Registration.checkpoint).Pairwise
    fun c d => c.seqno < d.seqno
  ids : (ledger.entries.map fun entry => entry.token.deliveryId).Nodup
  issued : ∀ entry ∈ ledger.entries, entry.token.deliveryId < p.nextDeliveryId

theorem models_start (h : p.snapshot = none) (hpending : p.pending = [])
    (hbelow : p.processed.seqno ≤ p.lastRegisteredSeqno) : (start p.processed).Models done p where
  snapshot := h
  pending := hpending
  processed := rfl
  below := by simpa [start] using hbelow
  sorted := by simp [start]
  ids := List.nodup_nil
  issued := by simp [start]

theorem Models.frame {self : Ledger} (h : self.Models done p) :
    self.Models done { p with durable, generation, durableGeneration } :=
  ⟨h.snapshot, h.pending, h.processed, h.below, h.sorted, h.ids, h.issued⟩

theorem Models.lastCheckpoint {self : Ledger} (h : self.Models done p) :
    p.lastCheckpoint = self.last := by
  have hlast := getLast?_dropWhile (Registration.isDone done) Registration.checkpoint
    self.base self.entries
  rw [last, ← hlast, PartitionState.lastCheckpoint, h.pending, h.processed, List.getLast?_map,
    Ledger.processed]
  cases (self.entries.dropWhile (Registration.isDone done)).getLast? <;> rfl

theorem Models.marker {self : Ledger} (h : self.Models done p) :
    (self.deliver ⟨.snapshotMarker snap, token⟩).Models done
      { p with snapshot := some (snap.startSeqno, snap.endSeqno) } :=
  ⟨rfl, h.pending, h.processed, h.below, h.sorted, h.ids, h.issued⟩

theorem deliver_of_seqno {self : Ledger} (hn : event.seqno = some n)
    (hw : self.window = some win) :
    self.deliver ⟨event, some token⟩ = { self with entries := self.entries ++
      [{ token, checkpoint := self.last.afterEvent event token.seqno win }] } := by
  cases event <;> simp_all [deliver, DcpEvent.seqno]

theorem deliver_of_no_seqno {self : Ledger} (hmarker : ∀ marker, event ≠ .snapshotMarker marker) :
    self.deliver ⟨event, none⟩ = self := by
  cases event <;> simp_all [deliver]

theorem Models.register {self : Ledger} (h : self.Models done p)
    (hn : event.seqno = some n) (hreg : p.Registers event n win q)
    (hopen : done ⟨event.vbucket, p.nextDeliveryId, n⟩ = false) :
    (self.deliver ⟨event, some ⟨event.vbucket, p.nextDeliveryId, n⟩⟩).Models done q := by
  obtain ⟨hsnap, habove, -, -, rfl⟩ := hreg
  have hw : self.window = some win := h.snapshot ▸ hsnap
  rw [deliver_of_seqno hn hw, ← h.lastCheckpoint]
  have hentry : ∀ c, Registration.isDone done ⟨⟨event.vbucket, p.nextDeliveryId, n⟩, c⟩ = false :=
    fun _ => hopen
  have hlt : ∀ c ∈ self.base :: self.entries.map Registration.checkpoint, c.seqno < n :=
    fun c hc => (h.below c hc).trans_lt habove
  refine ⟨h.snapshot, ?_, ?_, ?_, ?_, ?_, ?_⟩
  · rw [dropWhile_snoc_open (hentry _), List.map_append, ← h.pending]
    simp only [List.map_cons, List.map_nil, view, hopen]
  · rw [Ledger.processed, released_snoc_open (hentry _)]
    exact h.processed
  · intro c hc
    simp only [List.map_append, List.map_cons, List.map_nil, ← List.cons_append,
      List.mem_append, List.mem_singleton] at hc
    rcases hc with hc | rfl
    · exact (hlt c hc).le
    · simp
  · rw [List.map_append, ← List.cons_append, List.pairwise_append]
    refine ⟨h.sorted, by simp, fun c hc d hd => ?_⟩
    obtain rfl := List.mem_singleton.1 hd
    simpa using hlt c hc
  · rw [List.map_append, List.nodup_append]
    refine ⟨h.ids, by simp, fun i hi j hj => ?_⟩
    obtain ⟨entry, hentry, rfl⟩ := List.mem_map.1 hi
    obtain rfl := List.mem_singleton.1 hj
    exact (h.issued entry hentry).ne
  · intro entry hentry
    rcases List.mem_append.1 hentry with hentry | hentry
    · exact Nat.lt_succ_of_lt (h.issued entry hentry)
    · obtain rfl := List.mem_singleton.1 hentry
      exact Nat.lt_succ_self _

theorem Models.congr {self : Ledger} (h : self.Models done p)
    (hsame : ∀ entry ∈ self.entries, entry.isDone done = entry.isDone later) :
    self.Models later p := by
  refine ⟨h.snapshot, ?_, ?_, h.below, h.sorted, h.ids, h.issued⟩
  · rw [h.pending, dropWhile_congr hsame]
    refine List.map_congr_left fun entry hentry => ?_
    have := hsame entry (List.dropWhile_subset _ hentry)
    simp only [Registration.isDone] at this
    rw [view, view, this]
  · rw [h.processed, Ledger.processed, Ledger.processed, released_congr hsame]

theorem view_mark {entry : Registration}
    (hown : entry.token.deliveryId = token.deliveryId → entry.token = token) :
    (view done entry).mark token.deliveryId =
      view (fun other => done other || other == token) entry := by
  simp only [view, PendingAck.mark, PendingAck.mk.injEq, true_and]
  congr 1
  rw [Bool.eq_iff_iff, beq_iff_eq, beq_iff_eq]
  exact ⟨hown, congrArg _⟩

theorem Models.acknowledge {self : Ledger} (h : self.Models done p)
    (hown : ∀ entry ∈ self.entries, entry.token.deliveryId = token.deliveryId →
      entry.token = token)
    (hack : p.acknowledge token = (result, q)) :
    self.Models (fun other => done other || other == token) q := by
  have hmono : ∀ entry, Registration.isDone done entry = true →
      Registration.isDone (fun other => done other || other == token) entry = true := by
    intro entry hentry
    simp only [Registration.isDone, Bool.or_eq_true] at hentry ⊢
    exact .inl hentry
  rcases PartitionState.acknowledge_cases hack with ⟨hnone, rfl, -⟩ |
    ⟨marked, generation, hmarked, rfl, -⟩
  · refine h.congr fun entry hentry => ?_
    cases hd : Registration.isDone done entry with
    | true => exact (hmono entry hd).symm
    | false =>
      have hpending : view done entry ∈ q.pending := by
        rw [h.pending]
        exact List.mem_map_of_mem (mem_dropWhile_of_open hentry hd)
      have hne := markAcknowledged_eq_none.1 hnone _ hpending
      have htoken : entry.token ≠ token := fun heq => hne (congrArg EventAck.deliveryId heq)
      simp only [Registration.isDone] at hd
      simp [Registration.isDone, hd, htoken]
  · have hnodup : (p.pending.map PendingAck.deliveryId).Nodup := by
      rw [h.pending, List.map_map]
      exact h.ids.sublist ((List.dropWhile_sublist _).map _)
    have hview : marked = (self.entries.dropWhile (Registration.isDone done)).map
        (view fun other => done other || other == token) := by
      rw [markAcknowledged_eq_some hnodup hmarked, h.pending, List.map_map]
      refine List.map_congr_left fun entry hentry => view_mark ?_
      exact hown entry (List.dropWhile_subset _ hentry)
    refine ⟨h.snapshot, ?_, ?_, h.below, h.sorted, h.ids, h.issued⟩
    · rw [← dropWhile_dropWhile hmono, hview, List.dropWhile_map]
      rfl
    · rw [hview, released_map, h.processed]
      exact released_dropWhile hmono

def Stamped (self : Ledger) : Prop :=
  ∀ entry ∈ self.entries, entry.checkpoint.seqno = entry.token.seqno

theorem Stamped.deliver {self : Ledger} (h : self.Stamped) (tracked : TrackedEvent) :
    (self.deliver tracked).Stamped := by
  rw [Ledger.deliver]
  split
  · exact h
  · intro entry hentry
    rw [List.mem_append, List.mem_singleton] at hentry
    rcases hentry with hentry | rfl
    · exact h entry hentry
    · simp
  · exact h

theorem Stamped.observe {self : Ledger} (h : self.Stamped) (v : UInt16) (happening : Happening) :
    (self.observe v happening).Stamped := by
  cases happening with
  | delivered tracked =>
    rw [Ledger.observe]
    split
    · exact h.deliver tracked
    · exact h
  | rebased effective =>
    rw [Ledger.observe]
    split
    · exact h
    · simp [Stamped, start]

end Ledger

namespace System

def ledger (s : System) (v : UInt16) (initial : DcpCheckpoint) : Ledger :=
  s.journal.foldl (Ledger.observe v) (Ledger.start initial)

def isAcknowledged (s : System) (token : EventAck) : Bool := decide (token ∈ s.acknowledged)

/-- The coordinator's partition of `v` implements the ledger of `v`, and delivery IDs are fresh. -/
structure Accounted (s : System) (v : UInt16) (initial : DcpCheckpoint) (p : PartitionState) :
    Prop where
  models : (s.ledger v initial).Models s.isAcknowledged p
  owner : ∀ entry ∈ (s.ledger v initial).entries, entry.token.vbucket = v
  tokens : ∀ token ∈ s.tokens, token.vbucket = v → token.deliveryId < p.nextDeliveryId ∧
    ∀ entry ∈ (s.ledger v initial).entries,
      entry.token.deliveryId = token.deliveryId → entry.token = token
  spent : ∀ token ∈ s.acknowledged, token.vbucket = v → token.deliveryId < p.nextDeliveryId

theorem ledger_snoc {s t : System} (h : t.journal = s.journal ++ [happening]) :
    t.ledger v initial = (s.ledger v initial).observe v happening := by
  rw [ledger, h, List.foldl_append]
  rfl

theorem ledger_of_journal {s t : System} (h : t.journal = s.journal) :
    t.ledger v initial = s.ledger v initial := by
  rw [ledger, h, ledger]

theorem isAcknowledged_snoc {s t : System} (h : t.acknowledged = s.acknowledged ++ [token]) :
    t.isAcknowledged = fun other => s.isAcknowledged other || other == token := by
  funext other
  rw [Bool.eq_iff_iff]
  simp [isAcknowledged, h]

theorem isAcknowledged_of_eq {s t : System} (h : t.acknowledged = s.acknowledged) :
    t.isAcknowledged = s.isAcknowledged := by
  funext token
  rw [isAcknowledged, h, isAcknowledged]

theorem ledger_stamped (s : System) (v : UInt16) (initial : DcpCheckpoint) :
    (s.ledger v initial).Stamped :=
  List.foldlRecOn s.journal _ (by simp [Ledger.Stamped, Ledger.start])
    fun _ h happening _ => h.observe v happening

theorem Accounted.frame {s t : System} (h : s.Accounted v initial p)
    (hledger : t.ledger v initial = s.ledger v initial)
    (htokens : ∀ token ∈ t.tokens, token.vbucket = v → token ∈ s.tokens)
    (hacks : t.acknowledged = s.acknowledged) :
    t.Accounted v initial { p with durable, generation, durableGeneration } := by
  refine ⟨?_, ?_, fun token htoken hv => ?_, ?_⟩
  · rw [hledger, isAcknowledged_of_eq hacks]
    exact h.models.frame
  · rw [hledger]
    exact h.owner
  · rw [hledger]
    exact h.tokens token (htokens token htoken hv) hv
  · rw [hacks]
    exact h.spent

theorem Accounted.deliver_other {s t : System} (h : s.Accounted v initial p)
    (hjournal : t.journal = s.journal ++ [.delivered ⟨event, token⟩]) (hv : event.vbucket ≠ v)
    (hother : ∀ issued, token = some issued → issued.vbucket = event.vbucket)
    (htokens : t.tokens = s.tokens ++ token.toList) (hacks : t.acknowledged = s.acknowledged) :
    t.Accounted v initial p := by
  refine h.frame ?_ (fun issued hissued hiv => ?_) hacks
  · rw [ledger_snoc hjournal, Ledger.observe, if_neg hv]
  · rw [htokens, List.mem_append, Option.mem_toList] at hissued
    exact hissued.resolve_right fun hnew => hv ((hother issued hnew).symm.trans hiv)

theorem Accounted.deliver_own {s t : System} (h : s.Accounted event.vbucket initial p)
    (hjournal : t.journal = s.journal ++ [.delivered ⟨event, token⟩])
    (htokens : t.tokens = s.tokens ++ token.toList) (hacks : t.acknowledged = s.acknowledged)
    (htrack : p.trackEvent event = .ok (token, q)) : t.Accounted event.vbucket initial q := by
  have hledger : t.ledger event.vbucket initial =
      (s.ledger event.vbucket initial).deliver ⟨event, token⟩ := by
    rw [ledger_snoc hjournal, Ledger.observe, if_pos rfl]
  have hdone := isAcknowledged_of_eq hacks
  rcases PartitionState.trackEvent_cases htrack with ⟨marker, rfl, rfl, -, -, rfl⟩ |
    ⟨hmarker, -, rfl, rfl⟩ | ⟨n, win, hn, rfl, hreg⟩
  · refine ⟨?_, ?_, ?_, ?_⟩
    · rw [hledger, hdone]
      exact h.models.marker
    · rw [hledger]
      exact h.owner
    · rw [hledger, htokens, Option.toList_none, List.append_nil]
      exact h.tokens
    · rw [hacks]
      exact h.spent
  · rw [Ledger.deliver_of_no_seqno hmarker] at hledger
    refine h.frame hledger (fun issued hissued _ => ?_) hacks
    rwa [htokens, Option.toList_none, List.append_nil] at hissued
  · have hfresh : s.isAcknowledged ⟨event.vbucket, p.nextDeliveryId, n⟩ = false := by
      rw [isAcknowledged, decide_eq_false_iff_not]
      exact fun hmem => (h.spent _ hmem rfl).false
    have hnext : q.nextDeliveryId = p.nextDeliveryId + 1 := by rw [hreg.eq]
    have hmodels := h.models.register hn hreg hfresh
    have hwindow : (s.ledger event.vbucket initial).window = some win :=
      h.models.snapshot ▸ hreg.inSnapshot
    rw [Ledger.deliver_of_seqno hn hwindow] at hledger
    have hmem : ∀ entry ∈ (t.ledger event.vbucket initial).entries,
        entry ∈ (s.ledger event.vbucket initial).entries ∨
          entry.token = ⟨event.vbucket, p.nextDeliveryId, n⟩ := by
      intro entry hentry
      rw [hledger, List.mem_append, List.mem_singleton] at hentry
      exact hentry.imp_right fun heq => by rw [heq]
    refine ⟨?_, ?_, ?_, ?_⟩
    · rw [hdone, hledger, ← Ledger.deliver_of_seqno hn hwindow]
      exact hmodels
    · intro entry hentry
      rcases hmem entry hentry with hentry | heq
      · exact h.owner entry hentry
      · rw [heq]
    · intro issued hissued hiv
      rw [htokens, Option.toList_some, List.mem_append, List.mem_singleton] at hissued
      rw [hnext]
      rcases hissued with hissued | rfl
      · obtain ⟨hlt, hown⟩ := h.tokens issued hissued hiv
        refine ⟨Nat.lt_succ_of_lt hlt, fun entry hentry hid => ?_⟩
        rcases hmem entry hentry with hentry | heq
        · exact hown entry hentry hid
        · rw [heq] at hid
          exact absurd hid hlt.ne'
      · refine ⟨Nat.lt_succ_self _, fun entry hentry hid => ?_⟩
        rcases hmem entry hentry with hentry | heq
        · exact absurd hid (h.models.issued entry hentry).ne
        · exact heq
    · intro issued hissued hiv
      rw [hacks] at hissued
      rw [hnext]
      exact Nat.lt_succ_of_lt (h.spent issued hissued hiv)

theorem Accounted.acknowledge_own {s t : System} (h : s.Accounted token.vbucket initial p)
    (hmem : token ∈ s.tokens) (hjournal : t.journal = s.journal)
    (htokens : t.tokens = s.tokens.erase token) (hacks : t.acknowledged = s.acknowledged ++ [token])
    (hack : p.acknowledge token = (result, q)) : t.Accounted token.vbucket initial q := by
  have hledger : t.ledger token.vbucket initial = s.ledger token.vbucket initial :=
    ledger_of_journal hjournal
  have hnext : q.nextDeliveryId = p.nextDeliveryId := by
    rcases PartitionState.acknowledge_cases hack with
      ⟨-, rfl, -⟩ | ⟨marked, generation, -, rfl, -⟩ <;>
      rfl
  obtain ⟨hlt, hown⟩ := h.tokens token hmem rfl
  refine ⟨?_, ?_, ?_, ?_⟩
  · rw [hledger, isAcknowledged_snoc hacks]
    exact h.models.acknowledge hown hack
  · rw [hledger]
    exact h.owner
  · intro issued hissued
    rw [htokens] at hissued
    rw [hledger, hnext]
    exact h.tokens issued (List.mem_of_mem_erase hissued)
  · intro spent hspent hv
    rw [hacks, List.mem_append, List.mem_singleton] at hspent
    rw [hnext]
    rcases hspent with hspent | rfl
    · exact h.spent spent hspent hv
    · exact hlt

theorem Accounted.acknowledge_other {s t : System} (h : s.Accounted v initial p)
    (hv : token.vbucket ≠ v) (hjournal : t.journal = s.journal)
    (htokens : t.tokens = s.tokens.erase token)
    (hacks : t.acknowledged = s.acknowledged ++ [token]) : t.Accounted v initial p := by
  have hledger : t.ledger v initial = s.ledger v initial := ledger_of_journal hjournal
  refine ⟨?_, ?_, ?_, ?_⟩
  · rw [hledger, isAcknowledged_snoc hacks]
    refine h.models.congr fun entry hentry => ?_
    have hne : entry.token ≠ token := fun heq => hv (heq ▸ h.owner entry hentry)
    simp [Registration.isDone, hne]
  · rw [hledger]
    exact h.owner
  · intro issued hissued
    rw [htokens] at hissued
    rw [hledger]
    exact h.tokens issued (List.mem_of_mem_erase hissued)
  · intro spent hspent hsv
    rw [hacks, List.mem_append, List.mem_singleton] at hspent
    rcases hspent with hspent | rfl
    · exact h.spent spent hspent hsv
    · exact absurd hsv hv

theorem Accounted.rebase {s t : System} (h : s.Accounted v initial p)
    (hjournal : t.journal = s.journal ++ [.rebased effective]) (htokens : t.tokens = s.tokens)
    (hacks : t.acknowledged = s.acknowledged) :
    t.Accounted v initial (p.rebaseIf effective[v]?) := by
  have hledger : t.ledger v initial = (s.ledger v initial).observe v (.rebased effective) :=
    ledger_snoc hjournal
  cases hc : effective[v]? with
  | none =>
    simp only [Ledger.observe, hc] at hledger
    exact h.frame hledger (fun issued hissued _ => htokens ▸ hissued) hacks
  | some c =>
    simp only [Ledger.observe, hc] at hledger
    refine ⟨?_, ?_, ?_, ?_⟩
    · rw [hledger]
      exact Ledger.models_start (p := p.rebase c) rfl rfl le_rfl
    · simp [hledger, Ledger.start]
    · intro issued hissued hv
      rw [htokens] at hissued
      exact ⟨(h.tokens issued hissued hv).1, by simp [hledger, Ledger.start]⟩
    · rw [hacks]
      exact h.spent

theorem step_accounted {s : System} {checkpoints : BTreeMap UInt16 DcpCheckpoint}
    (hs : ∀ (v : UInt16) initial p, checkpoints[v]? = some initial →
      s.state.partitions[v]? = some p → s.Accounted v initial p)
    (h : s.step action = some t) : ∀ (v : UInt16) initial p, checkpoints[v]? = some initial →
      t.state.partitions[v]? = some p → t.Accounted v initial p := by
  intro v initial q hv hq
  cases step_effect h with
  | rejected => exact hs v initial q hv hq
  | tracked hp htrack =>
    rcases CoordinatorState.getElem?_setPartition_cases hq with ⟨rfl, rfl⟩ | ⟨hne, hq⟩
    · exact (hs _ initial _ hv hp).deliver_own rfl rfl rfl htrack
    · refine (hs v initial q hv hq).deliver_other rfl hne (fun issued hissued => ?_) rfl rfl
      subst hissued
      rcases PartitionState.trackEvent_cases htrack with ⟨_, -, hnone, -⟩ | ⟨-, -, hnone, -⟩ |
        ⟨n, window, -, hsome, -⟩
      · cases hnone
      · cases hnone
      · cases hsome
        rfl
  | acknowledged hmem hack =>
    rcases CoordinatorState.acknowledge_cases hack with ⟨hnone, -, rfl⟩ | ⟨p, r, hp, hr, rfl⟩
    · refine (hs v initial q hv hq).acknowledge_other (fun heq => ?_) rfl rfl rfl
      simp [heq, hq] at hnone
    · rcases CoordinatorState.getElem?_setPartition_cases hq with ⟨rfl, rfl⟩ | ⟨hne, hq⟩
      · exact (hs _ initial _ hv hp).acknowledge_own hmem rfl rfl rfl hr
      · exact (hs v initial q hv hq).acknowledge_other hne rfl rfl rfl
  | rebased hvalid hget =>
    rw [hget, Option.map_eq_some_iff] at hq
    obtain ⟨p, hp, rfl⟩ := hq
    exact (hs v initial p hv hp).rebase rfl rfl rfl
  | dirtied hp hlt =>
    rcases CoordinatorState.getElem?_setPartition_cases hq with ⟨rfl, rfl⟩ | ⟨-, hq⟩
    · exact (hs _ initial _ hv hp).frame rfl (fun _ hmem _ => hmem) rfl
    · exact (hs v initial q hv hq).frame rfl (fun _ hmem _ => hmem) rfl
  | flushed hflush =>
    have hframe := hflush.frame
    have hledger : t.ledger v initial = s.ledger v initial := ledger_of_journal hframe.journal
    obtain ⟨p, hp, rfl | ⟨d, rfl⟩⟩ := hframe.partitions v q hq
    · exact (hs v initial q hv hp).frame hledger (fun _ hmem _ => hframe.tokens ▸ hmem)
        hframe.acknowledged
    · exact (hs v initial p hv hp).frame hledger (fun _ hmem _ => hframe.tokens ▸ hmem)
        hframe.acknowledged

theorem new_accounted (h : System.new config stored checkpoints = .ok s)
    (hv : checkpoints[v]? = some initial) (hp : s.state.partitions[v]? = some p) :
    s.Accounted v initial p := by
  obtain ⟨hnew, -, -, -, htokens, hacks, hjournal, -⟩ := new_eq_ok h
  rw [(CoordinatorState.new_eq_ok hnew).2 v, hv, Option.map_some, Option.some.injEq] at hp
  subst hp
  have hledger : s.ledger v initial = Ledger.start initial := by rw [ledger, hjournal]; rfl
  refine ⟨?_, ?_, ?_, ?_⟩
  · rw [hledger]
    exact Ledger.models_start (p := PartitionState.new initial) rfl rfl le_rfl
  · simp [hledger, Ledger.start]
  · simp [htokens]
  · simp [hacks]

/-- The saves of a run so far, and those that are about to start, only hold checkpoints that were
`processed` before. -/
structure SavesProcessed (s : System) (acts : List Action) (t : System) : Prop where
  keyed : ∀ (v : UInt16) p, t.state.partitions[v]? = some p → p.Keyed v
  saved : ∀ c ∈ t.saved, Machine.Visited step s acts fun u => u.processed? c.vbucket = some c
  snapshotted : ∀ (i : Nat) dirty save, t.calls[i]? = some ⟨.snapshotted dirty, save⟩ →
    ∀ d ∈ dirty, Machine.Visited step s acts fun u =>
      u.processed? d.checkpoint.vbucket = some d.checkpoint

theorem SavesProcessed.step {s : System} (h : SavesProcessed s acts t)
    (ht : Machine.run System.step s acts = some t) (hu : t.step action = some u) :
    SavesProcessed s (acts ++ [action]) u := by
  have hkeyed := step_keyed h.keyed hu
  cases step_effect hu with
  | flushed hflush =>
    refine ⟨hkeyed, fun c hc => ?_, fun i dirty save hcall d hd => ?_⟩
    · rcases hflush.saved_cases hc with hc | ⟨i, dirty, save, hcall, d, hd, rfl⟩
      · exact (h.saved c hc).extend _
      · exact (h.snapshotted i dirty save hcall d hd).extend _
    · rcases hflush.snapshotted_cases hcall with ⟨old, hold⟩ | rfl
      · exact (h.snapshotted i dirty old hold d hd).extend _
      · obtain ⟨p, hp, -, hc, -⟩ := CoordinatorState.mem_dirtyCheckpoints.1 hd
        refine (Machine.Visited.last ht ?_).extend _
        rw [hc, (h.keyed _ p hp).processed, processed?, hp]
        rfl
  | rejected | tracked | acknowledged | rebased | dirtied =>
    exact ⟨hkeyed, fun c hc => (h.saved c hc).extend _,
      fun i dirty save hcall d hd => (h.snapshotted i dirty save hcall d hd).extend _⟩

/-- The coordinator never gets ahead of the acknowledgements: in every reachable state `processed`
is the checkpoint of the last event of the longest acknowledged front of the ledger, so no event
at or below it is unacknowledged, and only such checkpoints have ever been saved. -/
theorem processed_acknowledged (hnew : System.new config stored checkpoints = .ok s)
    (hr : Machine.run step s acts = some t) :
    (∀ (v : UInt16) initial p, checkpoints[v]? = some initial →
      t.state.partitions[v]? = some p →
      p.processed = (t.ledger v initial).processed t.isAcknowledged ∧
      ∀ entry ∈ (t.ledger v initial).entries,
        entry.token.seqno ≤ p.processed.seqno → entry.token ∈ t.acknowledged) ∧
    ∀ c ∈ t.saved, Machine.Visited step s acts fun u => u.processed? c.vbucket = some c := by
  refine ⟨fun v initial p hv hp => ?_, ?_⟩
  · have hacc := Machine.run_invariant (fun _ _ _ => step_accounted)
      (fun v initial p => new_accounted hnew) hr v initial p hv hp
    refine ⟨hacc.models.processed, fun entry hentry hle => ?_⟩
    rw [hacc.models.processed, ← t.ledger_stamped v initial entry hentry] at hle
    have hdone := done_of_key_le DcpCheckpoint.seqno hacc.models.sorted hentry hle
    simpa [Registration.isDone, isAcknowledged] using hdone
  · obtain ⟨-, -, -, hcalls, -, -, -, hsaved⟩ := new_eq_ok hnew
    refine (Machine.run_history (P := SavesProcessed s) ⟨fun v p => new_keyed hnew, ?_, ?_⟩ ?_
      hr).saved
    · simp [hsaved]
    · simp [hcalls]
    · exact fun acts t action u ht h hu => h.step ht hu

def samplePosition (v : UInt16) (n last : Nat) : DcpCheckpoint :=
  { DcpCheckpoint.earliest v with bucketUuid := some "bucket", seqno := n, snapshotEnd := last }

def sampleStart (v : UInt16) : BTreeMap UInt16 DcpCheckpoint :=
  (∅ : BTreeMap UInt16 DcpCheckpoint).insert v (samplePosition v 0 0)

def sampleConfig : CheckpointConfig := { mode := .manual, timeout := 60 }

def sampleMarker (v : UInt16) (last : Nat) : DcpEvent :=
  .snapshotMarker
    { vbucket := v
      startSeqno := 0
      endSeqno := last
      flags := 1
      highCompletedSeqno := none
      maxVisibleSeqno := none
      purgeSeqno := none }

/-- Flush call `i` from its dirty check to its return, with a save that writes one entry. -/
def sampleFlush (i : Nat) (entry : DirtyCheckpoint) : List Action :=
  [.flush .begin, .flush (.acquire i), .flush (.snapshot i), .flush (.spawn i),
    .flush (.write i entry), .flush (.finish i (.ok ())), .flush (.complete i)]

def sampleSystem : System :=
  start "bucket" 60 ∅ (CoordinatorState.start (sampleStart 7))

def sampleRun : List Action :=
  [.track (sampleMarker 7 9), .track (.seqNoAdvanced ⟨7, 1⟩), .track (.seqNoAdvanced ⟨7, 3⟩),
    .acknowledge ⟨7, 2, 3⟩, .acknowledge ⟨7, 1, 1⟩] ++
    sampleFlush 0 ⟨7, samplePosition 7 3 9, 1⟩

theorem processed_acknowledged_sample : ∃ t, Machine.run step sampleSystem sampleRun = some t ∧
    t.saved = [samplePosition 7 3 9] ∧
    (∀ p, t.state.partitions[(7 : UInt16)]? = some p →
      p.processed = (t.ledger 7 (samplePosition 7 0 0)).processed t.isAcknowledged) ∧
    ∀ c ∈ t.saved, Machine.Visited step sampleSystem sampleRun fun u =>
      u.processed? c.vbucket = some c := by
  have hnew : System.new sampleConfig ∅ (sampleStart 7) = .ok sampleSystem := rfl
  have hsaved : (Machine.run step sampleSystem sampleRun).map System.saved =
      some [samplePosition 7 3 9] := by decide
  obtain ⟨t, ht, hsaved⟩ := Option.map_eq_some_iff.1 hsaved
  obtain ⟨hprocessed, hsaves⟩ := processed_acknowledged hnew ht
  exact ⟨t, ht, hsaved, fun p hp => (hprocessed 7 _ p (by decide) hp).1, hsaves⟩

end System

end RustDcp
