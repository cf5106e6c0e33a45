import RustDcp.AckTokens
import RustDcp.FlushGate
import RustDcp.PartitionOrder

namespace RustDcp
set_option autoImplicit true

open AckQueue

def DcpEvent.manifestUid : DcpEvent → Option Nat
  | .systemEvent event => some event.manifestUid
  | _ => none

/-- The base checkpoint of a vBucket and the events registered since, in order. -/
structure Registered where
  base : DcpCheckpoint
  events : List TrackedEvent
  deriving DecidableEq

namespace Registered

def observe (v : UInt16) (self : Registered) : Happening → Registered
  | .delivered tracked =>
    if tracked.event.vbucket = v ∧ tracked.ack.isSome then
      { self with events := self.events ++ [tracked] }
    else self
  | .rebased effective =>
    match effective[v]? with
    | none => self
    | some checkpoint => { base := checkpoint, events := [] }

theorem observe_unregistered (self : Registered) (v : UInt16) (event : DcpEvent) :
    self.observe v (.delivered ⟨event, none⟩) = self := by
  simp [observe]

theorem observe_other (self : Registered) {v : UInt16} (h : event.vbucket ≠ v) :
    self.observe v (.delivered ⟨event, token⟩) = self := by
  simp [observe, h]

/-- The manifest of the latest system event, or of the base checkpoint if there was none. -/
def manifestUid (base : DcpCheckpoint) (events : List TrackedEvent) : Option Nat :=
  (events.reverse.findSome? fun tracked => tracked.event.manifestUid).or base.manifestUid

theorem manifestUid_snoc (base : DcpCheckpoint) (events : List TrackedEvent)
    (tracked : TrackedEvent) : manifestUid base (events ++ [tracked]) =
      tracked.event.manifestUid.or (manifestUid base events) := by
  rw [manifestUid, List.reverse_append, List.reverse_singleton, List.singleton_append,
    List.findSome?_cons]
  cases tracked.event.manifestUid <;> rfl

end Registered

theorem DcpCheckpoint.afterEvent_manifestUid (self : DcpCheckpoint) (event : DcpEvent)
    (n : Nat) (window : Nat × Nat) : (self.afterEvent event n window).manifestUid =
      event.manifestUid.or self.manifestUid := by
  cases event <;> rfl

/-- The representation invariant of the partition of `v`, given what was registered for it. -/
structure PartitionState.Represents (bucketUuid : String) (v : UInt16) (registered : Registered)
    (p : PartitionState) : Prop where
  ids : (p.pending.map PendingAck.deliveryId).Pairwise (· < ·)
  issued : ∀ entry ∈ p.pending, entry.deliveryId < p.nextDeliveryId
  ordered : p.Ordered
  front : ∀ entry, p.pending.head? = some entry → entry.acknowledged = false
  last : p.lastRegisteredSeqno = p.lastCheckpoint.seqno
  behind : p.durableGeneration ≤ p.generation
  counted : p.generation ≤ u64Max
  identified : p.Identified bucketUuid v
  durable : validateCheckpointIdentity v bucketUuid p.durable = .ok ()
  latest : p.lastCheckpoint.manifestUid = Registered.manifestUid registered.base registered.events
  manifest : ∀ entry ∈ p.pending, ∃ before tracked after,
    registered.events = before ++ tracked :: after ∧
    tracked.ack = some ⟨v, entry.deliveryId, entry.checkpoint.seqno⟩ ∧
    entry.checkpoint.manifestUid = Registered.manifestUid registered.base (before ++ [tracked])

namespace PartitionState

theorem acknowledge_lastCheckpoint {p : PartitionState}
    (hack : p.acknowledge token = (result, q)) : q.lastCheckpoint = p.lastCheckpoint := by
  have hget (p : PartitionState) : p.lastCheckpoint =
      (p.pending.getLast?.map PendingAck.checkpoint).getD p.processed := by
    rw [lastCheckpoint]
    cases p.pending.getLast? <;> rfl
  rcases acknowledge_cases hack with ⟨-, rfl, -⟩ | ⟨marked, generation, hmarked, rfl, -⟩
  · rfl
  · rw [hget, hget, getLast?_dropWhile, ← List.getLast?_map, ← List.getLast?_map,
      markAcknowledged_checkpoints hmarked]

structure AckFrame (p q : PartitionState) : Prop where
  durable : q.durable = p.durable
  durableGeneration : q.durableGeneration = p.durableGeneration
  registered : q.lastRegisteredSeqno = p.lastRegisteredSeqno
  generation : p.generation ≤ q.generation
  counted : p.generation ≤ u64Max → q.generation ≤ u64Max
  front : (∀ entry, p.pending.head? = some entry → entry.acknowledged = false) →
    ∀ entry, q.pending.head? = some entry → entry.acknowledged = false

theorem acknowledge_frame {p : PartitionState} (hack : p.acknowledge token = (result, q)) :
    AckFrame p q := by
  rcases acknowledge_cases hack with ⟨-, rfl, -⟩ | ⟨marked, generation, -, rfl, hends⟩
  · exact ⟨rfl, rfl, rfl, le_rfl, id, id⟩
  · have hgeneration : p.generation ≤ generation ∧
        (p.generation ≤ u64Max → generation ≤ u64Max) := by
      cases hends with
      | waits _ hgen _ => omega
      | advances hgen hlt => omega
      | overflows hgen _ => omega
    refine ⟨rfl, rfl, rfl, hgeneration.1, hgeneration.2, fun _ entry hentry => ?_⟩
    have hhead := List.head?_dropWhile_not PendingAck.acknowledged marked
    rw [hentry] at hhead
    simpa using hhead

end PartitionState

namespace PartitionState.Represents

theorem new (h : validateCheckpointIdentity v bucketUuid c = .ok ()) :
    (PartitionState.new c).Represents bucketUuid v ⟨c, []⟩ where
  ids := .nil
  issued := by simp [PartitionState.new]
  ordered := .new c
  front := by simp [PartitionState.new]
  last := rfl
  behind := le_rfl
  counted := Nat.zero_le _
  identified := ⟨h, by simp [PartitionState.new]⟩
  durable := h
  latest := rfl
  manifest := by simp [PartitionState.new]

theorem rebase (h : Represents bucketUuid v registered p)
    (hc : validateCheckpointIdentity v bucketUuid c = .ok ())
    (hroom : p.processed = c ∨ p.generation ≠ u64Max) :
    (p.rebase c).Represents bucketUuid v ⟨c, []⟩ where
  ids := .nil
  issued := by simp [PartitionState.rebase]
  ordered := .rebase p c
  front := by simp [PartitionState.rebase]
  last := rfl
  behind := by
    have := h.behind
    simp only [PartitionState.rebase]
    split <;> omega
  counted := by
    have := h.counted
    simp only [PartitionState.rebase]
    split
    · rename_i hne
      have := hroom.resolve_left hne
      omega
    · exact h.counted
  identified := ⟨hc, by simp [PartitionState.rebase]⟩
  durable := h.durable
  latest := rfl
  manifest := by simp [PartitionState.rebase]

theorem same (h : Represents bucketUuid v registered p) (hsame : p.SameProgress q)
    (hbehind : q.durableGeneration ≤ q.generation) (hcounted : q.generation ≤ u64Max)
    (hdurable : validateCheckpointIdentity v bucketUuid q.durable = .ok ()) :
    Represents bucketUuid v registered q := by
  have hlast : q.lastCheckpoint = p.lastCheckpoint := by
    rw [lastCheckpoint, lastCheckpoint, hsame.pending, hsame.processed]
  constructor
  case ordered =>
    exact h.ordered.frame hsame.processed hsame.pending hsame.lastRegisteredSeqno
  case last =>
    rw [hlast, hsame.lastRegisteredSeqno]
    exact h.last
  case latest =>
    rw [hlast]
    exact h.latest
  case identified =>
    refine ⟨hsame.processed ▸ h.identified.processed, ?_⟩
    rw [hsame.pending]
    exact h.identified.pending
  case behind => exact hbehind
  case counted => exact hcounted
  case durable => exact hdurable
  case issued =>
    rw [hsame.pending, hsame.nextDeliveryId]
    exact h.issued
  all_goals rw [hsame.pending]
  case ids => exact h.ids
  case front => exact h.front
  case manifest => exact h.manifest

theorem register (h : Represents bucketUuid event.vbucket registered p)
    (hreg : p.Registers event n window q)
    (htracked : tracked = ⟨event, some ⟨event.vbucket, p.nextDeliveryId, n⟩⟩) :
    Represents bucketUuid event.vbucket
      ⟨registered.base, registered.events ++ [tracked]⟩ q := by
  have hlast : q.lastCheckpoint = p.lastCheckpoint.afterEvent event n window := by
    rw [hreg.eq]
    simp [lastCheckpoint]
  have hmanifest : (p.lastCheckpoint.afterEvent event n window).manifestUid =
      Registered.manifestUid registered.base (registered.events ++ [tracked]) := by
    rw [DcpCheckpoint.afterEvent_manifestUid, Registered.manifestUid_snoc, h.latest, htracked]
  have hpending : q.pending = p.pending ++ [{
      deliveryId := p.nextDeliveryId
      checkpoint := p.lastCheckpoint.afterEvent event n window
      acknowledged := false }] := by
    rw [hreg.eq]
  have hmem : ∀ entry ∈ q.pending, entry ∈ p.pending ∨ entry = {
      deliveryId := p.nextDeliveryId
      checkpoint := p.lastCheckpoint.afterEvent event n window
      acknowledged := false } := by
    intro entry hentry
    rwa [hpending, List.mem_append, List.mem_singleton] at hentry
  have hnext : q.nextDeliveryId = p.nextDeliveryId + 1 := by
    rw [hreg.eq]
  constructor
  case ids =>
    rw [hpending, List.map_append, List.pairwise_append]
    refine ⟨h.ids, List.pairwise_singleton _ _, ?_⟩
    intro i hi j hj
    obtain ⟨entry, hentry, rfl⟩ := List.mem_map.1 hi
    obtain rfl := List.mem_singleton.1 hj
    exact h.issued entry hentry
  case issued =>
    intro entry hentry
    rw [hnext]
    rcases hmem entry hentry with hentry | rfl
    · exact Nat.lt_succ_of_lt (h.issued entry hentry)
    · exact Nat.lt_succ_self _
  case ordered => exact h.ordered.register hreg
  case front =>
    intro entry hentry
    rw [hpending, List.head?_append] at hentry
    cases hhead : p.pending.head? with
    | none =>
      rw [hhead] at hentry
      cases hentry
      rfl
    | some first =>
      rw [hhead] at hentry
      cases hentry
      exact h.front _ hhead
  case last =>
    rw [hlast, DcpCheckpoint.afterEvent_seqno, hreg.eq]
  case behind =>
    rw [hreg.eq]
    exact h.behind
  case counted =>
    rw [hreg.eq]
    exact h.counted
  case identified =>
    apply h.identified.register hreg
    exact validateCheckpointIdentity_afterEvent hreg.inWindow.1 hreg.inWindow.2
      h.identified.lastCheckpoint
  case durable =>
    rw [hreg.eq]
    exact h.durable
  case latest =>
    rw [hlast, hmanifest]
  case manifest =>
    intro entry hentry
    rcases hmem entry hentry with hentry | rfl
    · obtain ⟨before, old, after, hevents, hack, hmanifest⟩ := h.manifest entry hentry
      refine ⟨before, old, after ++ [tracked], ?_, hack, hmanifest⟩
      rw [hevents, List.append_assoc, List.cons_append]
    · exact ⟨registered.events, tracked, [], rfl, by simp [htracked], hmanifest⟩

theorem trackEvent (h : Represents bucketUuid event.vbucket registered p)
    (htrack : p.trackEvent event = .ok (token, q)) :
    Represents bucketUuid event.vbucket
      (registered.observe event.vbucket (.delivered ⟨event, token⟩)) q := by
  rcases trackEvent_cases htrack with ⟨marker, -, rfl, -, -, rfl⟩ | ⟨-, -, rfl, rfl⟩ |
    ⟨n, window, -, rfl, hreg⟩
  · rw [Registered.observe_unregistered]
    exact ⟨h.ids, h.issued, h.ordered.frame rfl rfl rfl, h.front, h.last, h.behind, h.counted,
      ⟨h.identified.processed, h.identified.pending⟩, h.durable, h.latest, h.manifest⟩
  · rw [Registered.observe_unregistered]
    exact h
  · simpa [Registered.observe] using h.register hreg rfl

theorem acknowledge (h : Represents bucketUuid v registered p)
    (hack : p.acknowledge token = (result, q)) : Represents bucketUuid v registered q := by
  obtain ⟨hnext, hids, hentries⟩ := acknowledge_pending hack
  have hlast := acknowledge_lastCheckpoint hack
  have hframe := acknowledge_frame hack
  constructor
  case ids => exact h.ids.sublist hids
  case issued =>
    intro entry hentry
    obtain ⟨old, hold, hid, -⟩ := hentries entry hentry
    rw [hnext, ← hid]
    exact h.issued old hold
  case ordered => exact (h.ordered.acknowledge hack).1
  case front =>
    intro entry hentry
    exact hframe.front h.front entry hentry
  case last =>
    rw [hlast, hframe.registered]
    exact h.last
  case behind =>
    rw [hframe.durableGeneration]
    exact h.behind.trans hframe.generation
  case counted => exact hframe.counted h.counted
  case identified => exact h.identified.acknowledge hack
  case durable =>
    rw [hframe.durable]
    exact h.durable
  case latest =>
    rw [hlast]
    exact h.latest
  case manifest =>
    intro entry hentry
    obtain ⟨old, hold, hid, hcheckpoint⟩ := hentries entry hentry
    rw [← hid, ← hcheckpoint]
    exact h.manifest old hold

end PartitionState.Represents

theorem FlushKind.confirms {s : System} (h : FlushKind s t) :
    Confirms s.calls s.state.partitions t.state.partitions := by
  cases h with
  | shrink _ _ _ hparts => exact hparts
  | snapshot _ _ ht | write _ _ _ ht | finish _ _ _ ht =>
    subst ht
    exact .of_eq rfl

theorem FlushKind.entries {s : System} {j : Nat} (h : FlushKind s t) (hg : s.gateInv)
    (hcall : t.calls[j]? = some call) (hd : call.Active d ∨ call.Finished d) :
    (∃ (i : Nat) (old : FlushCall), s.calls[i]? = some old ∧ (old.Active d ∨ old.Finished d)) ∨
      d ∈ s.state.dirtyCheckpoints := by
  have hshrink {held : BTreeMap UInt16 DcpCheckpoint} (hcalls : CallsShrink held s.calls t.calls) :
      ∃ (i : Nat) (old : FlushCall), s.calls[i]? = some old ∧ (old.Active d ∨ old.Finished d) := by
    rcases hd with hd | hd
    · obtain ⟨old, hold, hd, -⟩ := hcalls.active hcall hd
      exact ⟨j, old, hold, .inl hd⟩
    · obtain ⟨old, hold, hd⟩ := hcalls.finished hcall hd
      exact ⟨j, old, hold, .inr hd⟩
  cases h with
  | shrink hcalls => exact .inl (hshrink hcalls)
  | snapshot i hold ht =>
    subst ht
    rcases hd with hd | hd
    · rcases GateInv.snapshot_active hcall hd with hcall | ⟨hmem, -⟩
      · exact .inl ⟨j, call, hcall, .inl hd⟩
      · exact .inr hmem
    · exact .inl ⟨j, call, GateInv.snapshot_finished hcall hd, .inr hd⟩
  | write i hold hentry ht =>
    subst ht
    have hwrites := hg.write_shrinks hold hentry (hg.write_store hold hentry)
    exact .inl (hshrink (hg.callsShrink_set hold hwrites))
  | finish i hold hall ht =>
    subst ht
    have hd := hd.resolve_left fun hd => hg.finish_not_holdsGate hold hcall hd.holdsGate
    rcases GateInv.finish_finished hcall hd with hcall | ⟨-, hmem⟩
    · exact .inl ⟨j, call, hcall, .inr hd⟩
    · exact .inl ⟨i, _, hold, .inl (.running hmem)⟩

namespace System

/-- What was registered for a vBucket since its last rebase, read off the journal. -/
def registered (s : System) (v : UInt16) (initial : DcpCheckpoint) : Registered :=
  s.journal.foldl (Registered.observe v) ⟨initial, []⟩

theorem registered_snoc {s t : System} (h : t.journal = s.journal ++ [happening]) :
    t.registered v initial = (s.registered v initial).observe v happening := by
  rw [registered, h, List.foldl_append]
  rfl

theorem registered_of_journal {s t : System} (h : t.journal = s.journal) :
    t.registered v initial = s.registered v initial := by
  rw [registered, h, registered]

/-- The representation invariant of the coordinator: of its partitions, and of what the flush calls
have taken over from them and may still confirm. -/
structure Represented (checkpoints : BTreeMap UInt16 DcpCheckpoint) (s : System) : Prop where
  partitions : ∀ (v : UInt16) p, s.state.partitions[v]? = some p → ∃ c, checkpoints[v]? = some c ∧
    p.Represents s.bucketUuid v (s.registered v c)
  gate : s.gateInv
  promised : ∀ (i : Nat) call d, s.calls[i]? = some call → call.Active d ∨ call.Finished d →
    validateCheckpointIdentity d.vbucket s.bucketUuid d.checkpoint = .ok () ∧
      ∃ p, s.state.partitions[d.vbucket]? = some p ∧ d.generation ≤ p.generation

variable {checkpoints : BTreeMap UInt16 DcpCheckpoint}

theorem Represented.keyed {s : System} (h : s.Represented checkpoints) (v : UInt16)
    (p : PartitionState) (hp : s.state.partitions[v]? = some p) : p.Keyed v := by
  obtain ⟨c, -, hrep⟩ := h.partitions v p hp
  exact ⟨(validateCheckpointIdentity_eq_ok.1 hrep.identified.processed).1, fun entry hentry =>
    (validateCheckpointIdentity_eq_ok.1 (hrep.identified.pending entry hentry)).1⟩

theorem new_represented (h : System.new config stored checkpoints = .ok s) :
    s.Represented checkpoints := by
  obtain ⟨hnew, -, -, hcalls, -, -, hjournal, -⟩ := new_eq_ok h
  obtain ⟨hvalid, hget⟩ := CoordinatorState.new_eq_ok hnew
  refine ⟨fun v p hp => ?_, ?_, by simp [hcalls]⟩
  · rw [hget v, Option.map_eq_some_iff] at hp
    obtain ⟨c, hc, rfl⟩ := hp
    refine ⟨c, hc, ?_⟩
    rw [registered, hjournal]
    exact .new (hvalid v c hc)
  · rw [gateInv, hcalls]
    exact .nil _ _

theorem Represented.promised_of_moves {s t : System} (h : s.Represented checkpoints)
    (hcalls : t.calls = s.calls) (huuid : t.bucketUuid = s.bucketUuid)
    (hforth : ∀ (v : UInt16) p, s.state.partitions[v]? = some p →
      ∃ q, t.state.partitions[v]? = some q ∧ p.generation ≤ q.generation) :
    ∀ (i : Nat) call d, t.calls[i]? = some call → call.Active d ∨ call.Finished d →
      validateCheckpointIdentity d.vbucket t.bucketUuid d.checkpoint = .ok () ∧
        ∃ p, t.state.partitions[d.vbucket]? = some p ∧ d.generation ≤ p.generation := by
  intro i call d hcall hd
  rw [hcalls] at hcall
  obtain ⟨hid, p, hp, hle⟩ := h.promised i call d hcall hd
  obtain ⟨q, hq, hgrows⟩ := hforth _ p hp
  exact ⟨huuid ▸ hid, q, hq, hle.trans hgrows⟩

theorem Represented.setPartition {s t : System} {w : UInt16} (h : s.Represented checkpoints)
    (hgate : t.gateInv) (hp : s.state.partitions[w]? = some p)
    (hstate : t.state = s.state.setPartition w q) (hcalls : t.calls = s.calls)
    (huuid : t.bucketUuid = s.bucketUuid)
    (hother : ∀ v c, w ≠ v → t.registered v c = s.registered v c)
    (hown : ∀ c, p.Represents s.bucketUuid w (s.registered w c) →
      q.Represents s.bucketUuid w (t.registered w c))
    (hgrows : p.generation ≤ q.generation) : t.Represented checkpoints := by
  refine ⟨fun v r hr => ?_, hgate, h.promised_of_moves hcalls huuid fun v r hr => ?_⟩
  · rw [hstate] at hr
    rw [huuid]
    rcases CoordinatorState.getElem?_setPartition_cases hr with ⟨rfl, rfl⟩ | ⟨hne, hr⟩
    · obtain ⟨c, hc, hrep⟩ := h.partitions w p hp
      exact ⟨c, hc, hown c hrep⟩
    · obtain ⟨c, hc, hrep⟩ := h.partitions v r hr
      exact ⟨c, hc, by rw [hother v c hne]; exact hrep⟩
  · rw [hstate, CoordinatorState.getElem?_setPartition]
    split
    · rename_i heq
      subst heq
      cases hp.symm.trans hr
      exact ⟨q, rfl, hgrows⟩
    · exact ⟨r, hr, le_rfl⟩

theorem Represented.rebase {s t : System} (h : s.Represented checkpoints) (hgate : t.gateInv)
    (hjournal : t.journal = s.journal ++ [.rebased effective]) (hcalls : t.calls = s.calls)
    (huuid : t.bucketUuid = s.bucketUuid)
    (hvalid : ∀ (v : UInt16) c, effective[v]? = some c →
      s.state.validateRebase s.bucketUuid v c = .ok ())
    (hget : ∀ v : UInt16, t.state.partitions[v]? =
      s.state.partitions[v]?.map (·.rebaseIf effective[v]?)) : t.Represented checkpoints := by
  refine ⟨fun v q hq => ?_, hgate, h.promised_of_moves hcalls huuid fun v p hp => ?_⟩
  · rw [hget, Option.map_eq_some_iff] at hq
    obtain ⟨p, hp, rfl⟩ := hq
    obtain ⟨c, hc, hrep⟩ := h.partitions v p hp
    refine ⟨c, hc, ?_⟩
    rw [huuid, registered_snoc hjournal, Registered.observe]
    cases he : effective[v]? with
    | none => exact hrep
    | some d =>
      obtain ⟨r, hr, hid, hroom⟩ := CoordinatorState.validateRebase_eq_ok.1 (hvalid v d he)
      cases hp.symm.trans hr
      exact hrep.rebase hid hroom
  · refine ⟨p.rebaseIf effective[v]?, by rw [hget, hp]; rfl, ?_⟩
    cases effective[v]? with
    | none => exact le_rfl
    | some d =>
      simp only [PartitionState.rebaseIf, PartitionState.rebase]
      split <;> omega

theorem Represented.flush {s t : System} (h : s.Represented checkpoints) (hgate : t.gateInv)
    (hflush : FlushEffect s action t) : t.Represented checkpoints := by
  have hframe := hflush.frame
  have hkind := hflush.kind h.gate
  have hparts := hkind.confirms
  refine ⟨fun v q hq => ?_, hgate, fun j call d hcall hd => ?_⟩
  · obtain ⟨p, hp, hconfirm⟩ := hparts.back v q hq
    obtain ⟨c, hc, hrep⟩ := h.partitions v p hp
    refine ⟨c, hc, ?_⟩
    rw [hframe.bucketUuid, registered_of_journal hframe.journal]
    rcases hconfirm with rfl | ⟨i, call, d, hcall, hd, rfl, rfl⟩
    · exact hrep
    · obtain ⟨hid, r, hr, hle⟩ := h.promised i call d hcall (.inr hd)
      cases hp.symm.trans hr
      exact hrep.same ⟨rfl, rfl, rfl, rfl, rfl⟩ hle hrep.counted hid
  · have htaken : validateCheckpointIdentity d.vbucket s.bucketUuid d.checkpoint = .ok () ∧
        ∃ p, s.state.partitions[d.vbucket]? = some p ∧ d.generation ≤ p.generation := by
      rcases hkind.entries h.gate hcall hd with ⟨i, old, hold, hd⟩ | hmem
      · exact h.promised i old d hold hd
      · obtain ⟨p, hp, -, hcheckpoint, hgen⟩ := CoordinatorState.mem_dirtyCheckpoints.1 hmem
        obtain ⟨c, -, hrep⟩ := h.partitions _ p hp
        exact ⟨hcheckpoint ▸ hrep.identified.processed, p, hp, hgen.le⟩
    obtain ⟨hid, p, hp, hle⟩ := htaken
    obtain ⟨q, hq⟩ := hparts.forth _ p hp
    obtain ⟨r, hr, hconfirm⟩ := hparts.back _ q hq
    cases hp.symm.trans hr
    refine ⟨hframe.bucketUuid ▸ hid, q, hq, ?_⟩
    rcases hconfirm with rfl | ⟨-, -, e, -, -, -, rfl⟩
    · exact hle
    · exact hle

theorem step_represented {s : System} (h : s.Represented checkpoints)
    (ht : s.step action = some t) : t.Represented checkpoints := by
  have hgate := step_gateInv h.gate h.keyed ht
  cases step_effect ht with
  | rejected => exact h
  | @tracked event p token q hp htrack =>
    refine h.setPartition hgate hp rfl rfl rfl (fun v c hne => ?_) (fun c hrep => ?_) ?_
    · exact (registered_snoc rfl).trans (Registered.observe_other _ hne)
    · rw [registered_snoc rfl]
      exact hrep.trackEvent htrack
    · rcases PartitionState.trackEvent_cases htrack with
        ⟨marker, -, -, -, -, rfl⟩ | ⟨-, -, -, rfl⟩ |
        ⟨n, window, -, -, hreg⟩
      · exact le_rfl
      · exact le_rfl
      · rw [hreg.eq]
  | acknowledged hmem hack =>
    rcases CoordinatorState.acknowledge_cases hack with ⟨-, -, rfl⟩ | ⟨p, q, hp, hq, rfl⟩
    · exact ⟨h.partitions, hgate, h.promised⟩
    · refine h.setPartition hgate hp rfl rfl rfl (fun v c hne => rfl) (fun c hrep => ?_) ?_
      · exact hrep.acknowledge hq
      · exact (PartitionState.acknowledge_frame hq).generation
  | rebased hvalid hget => exact h.rebase hgate rfl rfl rfl hvalid hget
  | @dirtied v p hp hlt =>
    refine h.setPartition hgate hp rfl rfl rfl (fun v c hne => rfl) (fun c hrep => ?_)
      (Nat.le_succ _)
    exact hrep.same ⟨rfl, rfl, rfl, rfl, rfl⟩ (Nat.le_succ_of_le hrep.behind) hlt hrep.durable
  | flushed hflush => exact h.flush hgate hflush

theorem run_represented (hnew : System.new config stored checkpoints = .ok initial)
    (hrun : Machine.run step initial actions = some s) : s.Represented checkpoints :=
  Machine.run_invariant (P := Represented checkpoints) (fun _ _ _ h ht => step_represented h ht)
    (new_represented hnew) hrun

/-- Every reachable state satisfies the representation invariant of each partition, also when
flush calls confirm their saves late and out of order. -/
theorem partitions_represented (hnew : System.new config stored checkpoints = .ok initial)
    (hrun : Machine.run step initial actions = some s) (v : UInt16) (p : PartitionState)
    (hp : s.state.partitions[v]? = some p) :
    ∃ c, checkpoints[v]? = some c ∧ c.bucketUuid = some s.bucketUuid ∧
      p.Represents s.bucketUuid v (s.registered v c) := by
  obtain ⟨c, hc, hrep⟩ := (run_represented hnew hrun).partitions v p hp
  have huuid : s.bucketUuid = initial.bucketUuid :=
    Machine.run_invariant (P := fun t : System => t.bucketUuid = initial.bucketUuid)
      (fun _ _ _ h ht => (step_bucketUuid ht).trans h) rfl hrun
  have hid := (CoordinatorState.new_eq_ok (new_eq_ok hnew).1).1 v c hc
  refine ⟨c, hc, ?_, hrep⟩
  rw [huuid]
  exact (validateCheckpointIdentity_eq_ok.1 hid).2.1

/-- A system event and the event after it, of which the second is acknowledged. -/
def manifestRun : List Action :=
  [.track (sampleMarker 7 9), .track (.systemEvent ⟨7, 2, 5, 0, [], .scopeCreated 8⟩),
    .track (.seqNoAdvanced ⟨7, 4⟩), .acknowledge ⟨7, 2, 4⟩]

theorem partitions_represented_sample : ∃ t p, Machine.run step sampleSystem manifestRun = some t ∧
    t.state.partitions[(7 : UInt16)]? = some p ∧
    p.pending.map (fun entry => (entry.deliveryId, entry.checkpoint.manifestUid)) =
      [(1, some 5), (2, some 5)] ∧
    p.Represents t.bucketUuid 7 (t.registered 7 (samplePosition 7 0 0)) := by
  have hnew : System.new sampleConfig ∅ (sampleStart 7) = .ok sampleSystem := rfl
  have hpending : ((Machine.run step sampleSystem manifestRun).bind fun t =>
      t.state.partitions[(7 : UInt16)]?).map
        (fun p => p.pending.map fun entry => (entry.deliveryId, entry.checkpoint.manifestUid)) =
      some [(1, some 5), (2, some 5)] := by decide
  obtain ⟨p, hp, hpending⟩ := Option.map_eq_some_iff.1 hpending
  obtain ⟨t, ht, hp⟩ := Option.bind_eq_some_iff.1 hp
  obtain ⟨c, hc, -, hrep⟩ := partitions_represented hnew ht 7 p hp
  cases hc
  exact ⟨t, p, ht, hp, hpending, hrep⟩

end System

end RustDcp
