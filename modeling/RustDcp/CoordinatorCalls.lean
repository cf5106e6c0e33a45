import RustDcp.InPlace
import RustDcp.PartitionInvariant

namespace RustDcp
set_option autoImplicit true

open InPlace (outcome)

/-- How a call under the state lock can stop: with an error, or in an unchecked addition that
overflows. What it has written to a partition in place stays. -/
inductive Abort where
  | error (error : DcpError)
  | overflow
  deriving DecidableEq

abbrev CoordinatorM := InPlace.Call Abort CoordinatorState

namespace CoordinatorM

def check (read : CoordinatorState → Result α) : CoordinatorM α :=
  InPlace.check fun state => (read state).mapError .error

def raise (error : DcpError) : CoordinatorM α := throw (.error error)

/-- `partitions.get_mut(&vbucket).ok_or_else(..)?`, and `get` in the same way. -/
def getMut (vbucket : UInt16) (message : String) : CoordinatorM PartitionState :=
  check fun state => match state.partitions[vbucket]? with
    | none => .error (.checkpoint message)
    | some partition => .ok partition

def write (vbucket : UInt16) (assign : PartitionState → PartitionState) : CoordinatorM PUnit :=
  modify fun state => { state with partitions := state.partitions.modify vbucket assign }

def addOne (n : Nat) (message : String) : CoordinatorM Nat :=
  check fun _ => match checkedSucc n with
    | none => .error (.checkpoint message)
    | some next => .ok next

def trackMarker (event : DcpEvent) (marker : SnapshotMarker) (partition : PartitionState) :
    CoordinatorM TrackedEvent :=
  if marker.startSeqno > marker.endSeqno ∨ marker.endSeqno < partition.processed.seqno then
    raise (.checkpoint
      (s!"snapshot {marker.startSeqno}..={marker.endSeqno} is invalid after processed seqno " ++
       s!"{partition.processed.seqno} for vBucket {event.vbucket}"))
  else do
    write event.vbucket fun p => { p with snapshot := some (marker.startSeqno, marker.endSeqno) }
    return { event, ack := none }

def trackSeqno (event : DcpEvent) (seqno : Nat) (partition : PartitionState) :
    CoordinatorM TrackedEvent :=
  match partition.snapshot with
  | none =>
    raise (.checkpoint
      s!"received seqno {seqno} before a snapshot marker for vBucket {event.vbucket}")
  | some (snapshotStart, snapshotEnd) =>
    if seqno ≤ partition.lastRegisteredSeqno ∨ seqno < snapshotStart ∨ seqno > snapshotEnd then
      raise (.checkpoint
        (s!"seqno {seqno} is non-monotonic or outside snapshot {snapshotStart}..={snapshotEnd} " ++
         s!"for vBucket {event.vbucket}"))
    else do
      let checkpoint :=
        partition.lastCheckpoint.afterEvent event seqno (snapshotStart, snapshotEnd)
      check fun _ => checkpoint.validate
      let deliveryId := partition.nextDeliveryId
      let nextDeliveryId ←
        addOne partition.nextDeliveryId s!"delivery ID overflow for vBucket {event.vbucket}"
      write event.vbucket fun p => { p with nextDeliveryId }
      write event.vbucket fun p => { p with lastRegisteredSeqno := seqno }
      write event.vbucket fun p =>
        { p with pending := p.pending ++ [{ deliveryId, checkpoint, acknowledged := false }] }
      return { event, ack := some { vbucket := event.vbucket, deliveryId, seqno } }

def trackEvent (event : DcpEvent) : CoordinatorM TrackedEvent := do
  let partition ←
    getMut event.vbucket s!"received event for untracked vBucket {event.vbucket}"
  match event with
  | .snapshotMarker marker => trackMarker (.snapshotMarker marker) marker partition
  | event =>
    match event.seqno with
    | none => return { event, ack := none }
    | some seqno => trackSeqno event seqno partition

def markDirty (vbucket : UInt16) : CoordinatorM Unit := do
  let partition ←
    getMut vbucket s!"vBucket {vbucket} is not tracked by the checkpoint coordinator"
  let generation ←
    addOne partition.generation s!"checkpoint generation overflow for vBucket {vbucket}"
  write vbucket fun p => { p with generation }
  return ()

def validateRebases (bucketUuid : String) : List (UInt16 × DcpCheckpoint) → CoordinatorM Unit
  | [] => return ()
  | (vbucket, checkpoint) :: rest => do
    let partition ← getMut vbucket s!"cannot rebase untracked vBucket {vbucket}"
    check fun _ => validateCheckpointIdentity vbucket bucketUuid checkpoint
    if partition.processed ≠ checkpoint ∧ partition.generation = u64Max then
      raise (.checkpoint s!"checkpoint generation overflow for vBucket {vbucket}")
    else validateRebases bucketUuid rest

/-- `partition.generation += 1`, which no check guards. -/
def bumpGeneration (vbucket : UInt16) (partition : PartitionState) : CoordinatorM PUnit :=
  if u64Max ≤ partition.generation then throw .overflow
  else write vbucket fun p => { p with generation := p.generation + 1 }

def applyRebases : List (UInt16 × DcpCheckpoint) → CoordinatorM Unit
  | [] => return ()
  | (vbucket, checkpoint) :: rest => do
    let partition ← getMut vbucket s!"cannot rebase untracked vBucket {vbucket}"
    if partition.processed ≠ checkpoint then bumpGeneration vbucket partition
    write vbucket fun p => { p with processed := checkpoint }
    write vbucket fun p => { p with lastRegisteredSeqno := checkpoint.seqno }
    write vbucket fun p => { p with snapshot := none }
    write vbucket fun p => { p with pending := [] }
    applyRebases rest

def rebasePartitions (bucketUuid : String) (effective : BTreeMap UInt16 DcpCheckpoint) :
    CoordinatorM Unit := do
  validateRebases bucketUuid effective.toList
  applyRebases effective.toList

end CoordinatorM

theorem CoordinatorState.setPartition_setPartition (self : CoordinatorState) (v : UInt16)
    (p q : PartitionState) : (self.setPartition v p).setPartition v q = self.setPartition v q := by
  have hlast : (self.partitions.insert v p).insert v q = self.partitions.insert v q := by
    ext w : 1
    simp only [Std.ExtTreeMap.getElem?_insert]
    split <;> rfl
  rw [setPartition, setPartition, setPartition, hlast]

theorem CoordinatorState.modify_eq_setPartition {self : CoordinatorState}
    (hp : self.partitions[v]? = some p) (assign : PartitionState → PartitionState) :
    { self with partitions := self.partitions.modify v assign } =
      self.setPartition v (assign p) := by
  have hmodify : self.partitions.modify v assign = self.partitions.insert v (assign p) := by
    ext w : 1
    rw [Std.ExtTreeMap.getElem?_modify, Std.ExtTreeMap.getElem?_insert]
    split
    · rw [hp]
      rfl
    · rfl
  rw [setPartition, hmodify]

def CoordinatorState.Counted (self : CoordinatorState) : Prop :=
  ∀ (v : UInt16) p, self.partitions[v]? = some p → p.generation ≤ u64Max

namespace CoordinatorM

def returned (outcome : Result α × CoordinatorState) : Except Abort α × CoordinatorState :=
  (outcome.1.mapError .error, outcome.2)

theorem outcome_check_bind (read : CoordinatorState → Result α) (next : α → CoordinatorM β)
    (state : CoordinatorState) :
    outcome (check read >>= next) state =
      match read state with
      | .ok value => outcome (next value) state
      | .error error => (.error (.error error), state) := by
  rw [check, InPlace.outcome_check_bind]
  cases read state with
  | ok value => rfl
  | error error => rfl

theorem outcome_getMut_bind (vbucket : UInt16) (message : String)
    (next : PartitionState → CoordinatorM α) (state : CoordinatorState) :
    outcome (getMut vbucket message >>= next) state =
      match state.partitions[vbucket]? with
      | none => (.error (.error (.checkpoint message)), state)
      | some partition => outcome (next partition) state := by
  rw [getMut, outcome_check_bind]
  cases state.partitions[vbucket]? with
  | none => rfl
  | some partition => rfl

theorem outcome_addOne_bind (n : Nat) (message : String) (next : Nat → CoordinatorM α)
    (state : CoordinatorState) :
    outcome (addOne n message >>= next) state =
      match checkedSucc n with
      | none => (.error (.error (.checkpoint message)), state)
      | some m => outcome (next m) state := by
  rw [addOne, outcome_check_bind]
  cases checkedSucc n with
  | none => rfl
  | some m => rfl

theorem outcome_write_bind {state : CoordinatorState} (hp : state.partitions[v]? = some p)
    (assign : PartitionState → PartitionState) (next : PUnit → CoordinatorM α) :
    outcome (write v assign >>= next) state =
      outcome (next ⟨⟩) (state.setPartition v (assign p)) := by
  rw [write, InPlace.outcome_modify_bind, CoordinatorState.modify_eq_setPartition hp]

theorem outcome_write_again_bind (state : CoordinatorState)
    (assign : PartitionState → PartitionState) (next : PUnit → CoordinatorM α) :
    outcome (write v assign >>= next) (state.setPartition v p) =
      outcome (next ⟨⟩) (state.setPartition v (assign p)) := by
  have hp : (state.setPartition v p).partitions[v]? = some p := by
    rw [CoordinatorState.getElem?_setPartition, if_pos rfl]
  rw [outcome_write_bind hp, CoordinatorState.setPartition_setPartition]

theorem outcome_trackMarker {state : CoordinatorState} {marker : SnapshotMarker}
    (hp : state.partitions[marker.vbucket]? = some p) :
    outcome (trackMarker (.snapshotMarker marker) marker p) state =
      match p.trackMarker marker with
      | .error error => (.error (.error error), state)
      | .ok q => (.ok { event := .snapshotMarker marker, ack := none },
          state.setPartition marker.vbucket q) := by
  rw [trackMarker, PartitionState.trackMarker]
  split
  · rfl
  · exact outcome_write_bind hp _ _

theorem outcome_trackSeqno {state : CoordinatorState} {event : DcpEvent}
    (hp : state.partitions[event.vbucket]? = some p) (seqno : Nat) :
    outcome (trackSeqno event seqno p) state =
      match p.trackSeqno event seqno with
      | .error error => (.error (.error error), state)
      | .ok (ack, q) => (.ok { event, ack := some ack }, state.setPartition event.vbucket q) := by
  rw [trackSeqno, PartitionState.trackSeqno]
  cases hsnapshot : p.snapshot with
  | none => rfl
  | some window =>
    dsimp only
    split
    · rfl
    rw [outcome_check_bind]
    cases (p.lastCheckpoint.afterEvent event seqno window).validate with
    | error error => rfl
    | ok _ =>
      dsimp only
      rw [outcome_addOne_bind]
      cases checkedSucc p.nextDeliveryId with
      | none => rfl
      | some nextDeliveryId =>
        dsimp only
        rw [outcome_write_bind hp, outcome_write_again_bind, outcome_write_again_bind,
          InPlace.outcome_pure]
        simp only [hsnapshot]

theorem outcome_trackEvent (event : DcpEvent) (state : CoordinatorState) :
    outcome (trackEvent event) state = returned (state.trackEvent event) := by
  rw [trackEvent, outcome_getMut_bind, CoordinatorState.trackEvent]
  cases hp : state.partitions[event.vbucket]? with
  | none => rfl
  | some p =>
    dsimp only
    split
    · rename_i marker
      rw [outcome_trackMarker hp, PartitionState.trackEvent]
      cases p.trackMarker marker with
      | error error => rfl
      | ok q => rfl
    · rename_i hmarker
      rw [PartitionState.trackEvent.eq_2 _ _ hmarker]
      cases event.seqno with
      | none =>
        dsimp only
        rw [CoordinatorState.setPartition_self hp]
        rfl
      | some seqno =>
        dsimp only
        rw [outcome_trackSeqno hp]
        cases p.trackSeqno event seqno with
        | error error => rfl
        | ok registered => rfl

theorem outcome_markDirty (vbucket : UInt16) (state : CoordinatorState) :
    outcome (markDirty vbucket) state = returned (state.markDirty vbucket) := by
  rw [markDirty, outcome_getMut_bind, CoordinatorState.markDirty]
  cases hp : state.partitions[vbucket]? with
  | none => rfl
  | some p =>
    dsimp only
    rw [outcome_addOne_bind]
    cases checkedSucc p.generation with
    | none => rfl
    | some generation => exact outcome_write_bind hp _ _

theorem outcome_validateRebases (bucketUuid : String) (entries : List (UInt16 × DcpCheckpoint))
    (state : CoordinatorState) :
    outcome (validateRebases bucketUuid entries) state =
      ((state.validateRebases bucketUuid entries).mapError .error, state) := by
  induction entries with
  | nil => rfl
  | cons entry entries ih =>
    obtain ⟨v, c⟩ := entry
    rw [validateRebases, outcome_getMut_bind, CoordinatorState.validateRebases,
      CoordinatorState.validateRebase]
    cases state.partitions[v]? with
    | none => rfl
    | some p =>
      dsimp only
      rw [outcome_check_bind]
      cases validateCheckpointIdentity v bucketUuid c with
      | error error => rfl
      | ok _ =>
        dsimp only
        split
        · rfl
        · exact ih

theorem outcome_applyRebases_cons {state : CoordinatorState} (hp : state.partitions[v]? = some p)
    (hroom : p.processed = c ∨ p.generation < u64Max) (rest : List (UInt16 × DcpCheckpoint)) :
    outcome (applyRebases ((v, c) :: rest)) state =
      outcome (applyRebases rest) (state.setPartition v (p.rebase c)) := by
  rw [applyRebases, outcome_getMut_bind, hp]
  dsimp only
  split
  · rename_i hne
    have hlt : ¬u64Max ≤ p.generation := Nat.not_le.2 (hroom.resolve_left hne)
    rw [bumpGeneration, if_neg hlt, outcome_write_bind hp, outcome_write_again_bind,
      outcome_write_again_bind, outcome_write_again_bind, outcome_write_again_bind,
      PartitionState.rebase, if_pos hne]
  · rename_i heq
    rw [outcome_write_bind hp, outcome_write_again_bind, outcome_write_again_bind,
      outcome_write_again_bind, PartitionState.rebase, if_neg heq]

theorem outcome_applyRebases {state : CoordinatorState}
    (hdistinct : (entries.map Prod.fst).Nodup)
    (hroom : ∀ entry ∈ entries, ∃ p, state.partitions[entry.1]? = some p ∧
      (p.processed = entry.2 ∨ p.generation < u64Max)) :
    outcome (applyRebases entries) state = returned (state.applyRebases entries) := by
  induction entries generalizing state with
  | nil => rfl
  | cons entry entries ih =>
    obtain ⟨v, c⟩ := entry
    rw [List.map_cons, List.nodup_cons] at hdistinct
    obtain ⟨p, hp, hcount⟩ := hroom (v, c) List.mem_cons_self
    rw [outcome_applyRebases_cons hp hcount, CoordinatorState.applyRebases, hp]
    refine ih hdistinct.2 fun entry hentry => ?_
    have hne : v ≠ entry.1 := fun heq =>
      hdistinct.1 (List.mem_map.2 ⟨entry, hentry, heq.symm⟩)
    rw [CoordinatorState.getElem?_setPartition, if_neg hne]
    exact hroom entry (List.mem_cons_of_mem _ hentry)

theorem validated_room {state : CoordinatorState} (hcounted : state.Counted)
    (hvalid : state.validateRebases bucketUuid entries = .ok ()) :
    ∀ entry ∈ entries, ∃ p, state.partitions[entry.1]? = some p ∧
      (p.processed = entry.2 ∨ p.generation < u64Max) := by
  intro entry hentry
  obtain ⟨p, hp, -, hroom⟩ := CoordinatorState.validateRebase_eq_ok.1
    (CoordinatorState.validateRebases_eq_ok.1 hvalid entry hentry)
  refine ⟨p, hp, hroom.imp_right fun hne => ?_⟩
  exact Nat.lt_of_le_of_ne (hcounted entry.1 p hp) hne

theorem outcome_rebasePartitions {state : CoordinatorState} (hcounted : state.Counted)
    (bucketUuid : String) (effective : BTreeMap UInt16 DcpCheckpoint) :
    outcome (rebasePartitions bucketUuid effective) state =
      returned (state.rebasePartitions bucketUuid effective) := by
  rw [rebasePartitions, InPlace.outcome_bind, outcome_validateRebases,
    CoordinatorState.rebasePartitions]
  cases hvalid : state.validateRebases bucketUuid effective.toList with
  | error error => rfl
  | ok _ =>
    apply outcome_applyRebases (OrderedMap.nodup_toList_fst _)
    exact validated_room hcounted hvalid

theorem applyRebases_of_validated {state : CoordinatorState} (hcounted : state.Counted)
    {effective : BTreeMap UInt16 DcpCheckpoint}
    (hvalid : outcome (validateRebases bucketUuid effective.toList) state = (.ok (), validated)) :
    ∃ after, outcome (applyRebases effective.toList) validated = (.ok (), after) := by
  rw [outcome_validateRebases] at hvalid
  obtain ⟨hvalid, rfl⟩ := Prod.mk.inj hvalid
  have hpass : state.validateRebases bucketUuid effective.toList = .ok () := by
    cases hresult : state.validateRebases bucketUuid effective.toList with
    | error error =>
      rw [hresult] at hvalid
      cases hvalid
    | ok _ => rfl
  have hroom := validated_room hcounted hpass
  obtain ⟨after, hafter, -⟩ := CoordinatorState.applyRebases_eq (OrderedMap.nodup_toList_fst _)
    fun entry hentry => (hroom entry hentry).imp fun _ h => h.1
  refine ⟨after, ?_⟩
  rw [outcome_applyRebases (OrderedMap.nodup_toList_fst _) hroom, hafter]
  rfl

theorem allOrNothing_of_returned {call : CoordinatorM α} (h : outcome call state = returned whole)
    (hkept : ∀ error, whole.1 = .error error → whole.2 = state) :
    InPlace.AllOrNothing call state := by
  intro abort after hafter
  rw [h] at hafter
  obtain ⟨result, next⟩ := whole
  cases result with
  | error error =>
    cases hafter
    exact hkept error rfl
  | ok value => cases hafter

theorem trackEvent_allOrNothing (event : DcpEvent) (state : CoordinatorState) :
    InPlace.AllOrNothing (trackEvent event) state := by
  refine allOrNothing_of_returned (outcome_trackEvent event state) fun error herror => ?_
  rcases CoordinatorState.trackEvent_cases (rfl : state.trackEvent event = (_, _)) with
    ⟨-, -, hkept⟩ | ⟨p, token, q, -, -, hok, -⟩
  · exact hkept
  · cases herror.symm.trans hok

theorem markDirty_allOrNothing (vbucket : UInt16) (state : CoordinatorState) :
    InPlace.AllOrNothing (markDirty vbucket) state := by
  refine allOrNothing_of_returned (outcome_markDirty vbucket state) fun error herror => ?_
  rcases CoordinatorState.markDirty_cases (rfl : state.markDirty vbucket = (_, _)) with
    ⟨-, hkept⟩ | ⟨-, -, -, hok, -⟩
  · exact hkept
  · cases herror.symm.trans hok

theorem rebasePartitions_allOrNothing {state : CoordinatorState} (hcounted : state.Counted)
    (bucketUuid : String) (effective : BTreeMap UInt16 DcpCheckpoint) :
    InPlace.AllOrNothing (rebasePartitions bucketUuid effective) state := by
  refine allOrNothing_of_returned (outcome_rebasePartitions hcounted bucketUuid effective)
    fun error herror => ?_
  rcases CoordinatorState.rebasePartitions_cases
    (rfl : state.rebasePartitions bucketUuid effective = (_, _)) with ⟨-, hkept⟩ | ⟨hok, -⟩
  · exact hkept
  · cases herror.symm.trans hok

end CoordinatorM

namespace System

/-- In every reachable state a failed call leaves the coordinator as it was, and a rebase that
passes its first loop gets through its second. -/
theorem calls_allOrNothing (hnew : System.new config stored checkpoints = .ok initial)
    (hrun : Machine.run step initial actions = some s) :
    (∀ event, InPlace.AllOrNothing (CoordinatorM.trackEvent event) s.state) ∧
    (∀ vbucket, InPlace.AllOrNothing (CoordinatorM.markDirty vbucket) s.state) ∧
    ∀ effective : BTreeMap UInt16 DcpCheckpoint,
      InPlace.AllOrNothing (CoordinatorM.rebasePartitions s.bucketUuid effective) s.state ∧
      ∀ validated,
        outcome (CoordinatorM.validateRebases s.bucketUuid effective.toList) s.state =
          (.ok (), validated) →
        ∃ after, outcome (CoordinatorM.applyRebases effective.toList) validated =
          (.ok (), after) := by
  have hcounted : s.state.Counted := by
    intro v p hp
    obtain ⟨c, -, hrep⟩ := (run_represented hnew hrun).partitions v p hp
    exact hrep.counted
  refine ⟨fun event => ?_, fun vbucket => ?_, fun effective => ⟨?_, fun validated hvalid => ?_⟩⟩
  · exact CoordinatorM.trackEvent_allOrNothing event s.state
  · exact CoordinatorM.markDirty_allOrNothing vbucket s.state
  · exact CoordinatorM.rebasePartitions_allOrNothing hcounted s.bucketUuid effective
  · exact CoordinatorM.applyRebases_of_validated hcounted hvalid

/-- A rebase of vBucket 7, which the sample tracks, and of others, which it does not. -/
def sampleRebase (others : List UInt16) : BTreeMap UInt16 DcpCheckpoint :=
  others.foldl (fun effective v => effective.insert v (samplePosition v 5 9))
    ((∅ : BTreeMap UInt16 DcpCheckpoint).insert 7 (samplePosition 7 5 9))

theorem calls_allOrNothing_sample : ∃ t, Machine.run step sampleSystem sampleRun = some t ∧
    (∃ abort, outcome (CoordinatorM.rebasePartitions t.bucketUuid (sampleRebase [9])) t.state =
      (.error abort, t.state)) ∧
    ∃ after, outcome (CoordinatorM.applyRebases (sampleRebase []).toList) t.state =
      (.ok (), after) := by
  have hnew : System.new sampleConfig ∅ (sampleStart 7) = .ok sampleSystem := rfl
  have hresults : (Machine.run step sampleSystem sampleRun).map (fun t =>
      ((outcome (CoordinatorM.rebasePartitions t.bucketUuid (sampleRebase [9])) t.state).1.isOk,
        (outcome (CoordinatorM.validateRebases t.bucketUuid (sampleRebase []).toList)
          t.state).1.isOk)) = some (false, true) := by decide +kernel
  obtain ⟨t, ht, hresults⟩ := Option.map_eq_some_iff.1 hresults
  obtain ⟨hrejected, haccepted⟩ := Prod.mk.inj hresults
  obtain ⟨-, -, hrebase⟩ := calls_allOrNothing hnew ht
  refine ⟨t, ht, ?_, ?_⟩
  · rcases h : outcome (CoordinatorM.rebasePartitions t.bucketUuid (sampleRebase [9])) t.state with
      ⟨(abort | _), after⟩
    · rw [(hrebase (sampleRebase [9])).1 abort after h]
      exact ⟨abort, rfl⟩
    · rw [h] at hrejected
      cases hrejected
  · rcases h : outcome (CoordinatorM.validateRebases t.bucketUuid (sampleRebase []).toList)
      t.state with ⟨(abort | ⟨⟩), validated⟩
    · rw [h] at haccepted
      cases haccepted
    · have hkept := h
      rw [CoordinatorM.outcome_validateRebases] at hkept
      obtain ⟨-, rfl⟩ := Prod.mk.inj hkept
      exact (hrebase (sampleRebase [])).2 t.state h

end System

end RustDcp
