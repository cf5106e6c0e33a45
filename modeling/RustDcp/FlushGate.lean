import RustDcp.AckSafety
import RustDcp.Exclusion

namespace RustDcp
set_option autoImplicit true

/-- The entries that a flush call will still write: its dirty snapshot or its running save. -/
inductive FlushCall.Active : FlushCall → DirtyCheckpoint → Prop
  | snapshotted (h : d ∈ dirty) : Active ⟨.snapshotted dirty, task⟩ d
  | running (h : d ∈ batch) : Active ⟨ph, some ⟨batch, written, none⟩⟩ d

/-- The entries of a save that succeeded. -/
inductive FlushCall.Finished : FlushCall → DirtyCheckpoint → Prop
  | mk (h : d ∈ batch) : Finished ⟨ph, some ⟨batch, written, some (.ok ())⟩⟩ d

inductive FlushCall.HoldsGate : FlushCall → Prop
  | holding : HoldsGate ⟨.holding, task⟩
  | snapshotted : HoldsGate ⟨.snapshotted dirty, task⟩
  | running : HoldsGate ⟨ph, some ⟨batch, written, none⟩⟩

/-- A call has a save only after it was spawned. -/
def FlushCall.Fresh (call : FlushCall) : Prop :=
  (call.phase = .waiting ∨ call.phase = .holding ∨ ∃ dirty, call.phase = .snapshotted dirty) →
    call.save = none

/-- A change of a call that neither adds entries to it nor forgets what its save wrote. -/
structure FlushCall.Shrinks (store : BTreeMap UInt16 DcpCheckpoint) (call old : FlushCall) :
    Prop where
  active : ∀ d, call.Active d → old.Active d
  finished : ∀ d, call.Finished d → old.Finished d
  fresh : call.Fresh
  running : ∀ batch written, call.save = some ⟨batch, written, none⟩ →
    old.save = some ⟨batch, written, none⟩ ∨
      ∀ d ∈ written, d ∈ batch ∧ store[d.vbucket]? = some d.checkpoint

theorem FlushCall.Fresh.shrinks {call : FlushCall} (h : call.Fresh) : call.Shrinks store call :=
  ⟨fun _ => id, fun _ => id, h, fun _ _ => .inl⟩

def FlushPhase.isSettled : FlushPhase → Bool
  | .awaiting | .returned _ | .abandoned => true
  | .waiting | .holding | .snapshotted _ => false

theorem FlushCall.settled_shrinks (h : ph.isSettled = true) :
    FlushCall.Shrinks store ⟨ph, task⟩ ⟨old, task⟩ := by
  refine ⟨fun d hd => ?_, fun d hd => ?_, ?_, fun _ _ heq => .inl heq⟩
  · cases hd with
    | snapshotted => cases h
    | running hd => exact .running hd
  · cases hd with
    | mk hd => exact .mk hd
  · rintro (rfl | rfl | ⟨dirty, rfl⟩) <;> cases h

theorem FlushCall.settled_holdsGate (h : ph.isSettled = true)
    (hgate : FlushCall.HoldsGate ⟨ph, task⟩) : FlushCall.HoldsGate ⟨old, task⟩ := by
  cases hgate with
  | holding => cases h
  | snapshotted => cases h
  | running => exact .running

structure FlushCall.Idle (call : FlushCall) : Prop where
  save : call.save = none
  phase : ∀ dirty, call.phase ≠ .snapshotted dirty

theorem FlushCall.Idle.not_active {call : FlushCall} (h : call.Idle) : ¬call.Active d := by
  rintro (hd | hd)
  · exact h.phase _ rfl
  · cases h.save

theorem FlushCall.Idle.not_finished {call : FlushCall} (h : call.Idle) : ¬call.Finished d := by
  rintro ⟨-⟩
  cases h.save

/-- The gate serialises the saves: only its holder has entries to write. -/
structure GateInv (calls : List FlushCall) (gate : Option Nat)
    (store : BTreeMap UInt16 DcpCheckpoint) : Prop where
  keyed : ∀ (i : Nat) call d, calls[i]? = some call → call.Active d ∨ call.Finished d →
    d.checkpoint.vbucket = d.vbucket
  single : ∀ (i : Nat) call d e, calls[i]? = some call → call.Active d → call.Active e →
    d.vbucket = e.vbucket → d = e
  gateHeld : ∀ (i : Nat) call, calls[i]? = some call → call.HoldsGate → gate = some i
  fresh : ∀ (i : Nat) call, calls[i]? = some call → call.Fresh
  written : ∀ (i : Nat) phase batch written,
    calls[i]? = some ⟨phase, some ⟨batch, written, none⟩⟩ →
    ∀ d ∈ written, d ∈ batch ∧ store[d.vbucket]? = some d.checkpoint

theorem GateInv.nil (gate : Option Nat) (store : BTreeMap UInt16 DcpCheckpoint) :
    GateInv [] gate store :=
  ⟨by simp, by simp, by simp, by simp, by simp⟩

theorem FlushCall.Active.holdsGate {call : FlushCall} (h : call.Active d) : call.HoldsGate := by
  cases h with
  | snapshotted => exact .snapshotted
  | running => exact .running

/-- Each call either comes from the same call before or has nothing to do with the store. -/
def CallsShrink (store : BTreeMap UInt16 DcpCheckpoint) (before after : List FlushCall) : Prop :=
  ∀ (j : Nat) call, after[j]? = some call →
    (∃ old, before[j]? = some old ∧ call.Shrinks store old) ∨ call.Idle

theorem CallsShrink.active {j : Nat} (h : CallsShrink store before after)
    (hcall : after[j]? = some call) (hd : call.Active d) :
    ∃ old, before[j]? = some old ∧ old.Active d ∧ call.Shrinks store old := by
  rcases h j call hcall with ⟨old, hold, hs⟩ | hidle
  · exact ⟨old, hold, hs.active d hd, hs⟩
  · exact absurd hd hidle.not_active

theorem CallsShrink.finished {j : Nat} (h : CallsShrink store before after)
    (hcall : after[j]? = some call) (hd : call.Finished d) :
    ∃ old, before[j]? = some old ∧ old.Finished d := by
  rcases h j call hcall with ⟨old, hold, hs⟩ | hidle
  · exact ⟨old, hold, hs.finished d hd⟩
  · exact absurd hd hidle.not_finished

open Exclusion (getElem?_set_cases)

namespace GateInv

variable {calls : List FlushCall} {i j : Nat}

theorem callsShrink_set (h : GateInv calls gate store) (hold : calls[i]? = some old)
    (hs : call.Shrinks held old) : CallsShrink held calls (calls.set i call) := by
  intro j other hother
  rcases getElem?_set_cases hother with ⟨rfl, rfl⟩ | ⟨-, hother⟩
  · exact .inl ⟨old, hold, hs⟩
  · exact .inl ⟨other, hother, (h.fresh j other hother).shrinks⟩

theorem callsShrink_append (h : GateInv calls gate store) (hidle : call.Idle) :
    CallsShrink store calls (calls ++ [call]) := by
  intro j other hother
  rw [List.getElem?_append] at hother
  split at hother
  · exact .inl ⟨other, hother, (h.fresh j other hother).shrinks⟩
  · rw [List.getElem?_singleton] at hother
    split at hother
    · cases hother
      exact .inr hidle
    · cases hother

theorem shrink (h : GateInv calls gate store) (hcalls : CallsShrink store calls after)
    (hgate : ∀ (j : Nat) call, after[j]? = some call → call.HoldsGate → free = some j) :
    GateInv after free store := by
  refine ⟨fun j call d hcall hd => ?_, fun j call d e hcall hd he => ?_, hgate,
    fun j call hcall => ?_, fun j ph batch writes hcall d hd => ?_⟩
  · rcases hd with hd | hd
    · obtain ⟨old, hold, hd, -⟩ := hcalls.active hcall hd
      exact h.keyed j old d hold (.inl hd)
    · obtain ⟨old, hold, hd⟩ := hcalls.finished hcall hd
      exact h.keyed j old d hold (.inr hd)
  · obtain ⟨old, hold, hd, hs⟩ := hcalls.active hcall hd
    exact h.single j old d e hold hd (hs.active e he)
  · rcases hcalls j call hcall with ⟨old, hold, hs⟩ | hidle
    · exact hs.fresh
    · exact fun _ => hidle.save
  · rcases hcalls j _ hcall with ⟨⟨oldPhase, oldSave⟩, hold, hs⟩ | hidle
    · rcases hs.running batch writes rfl with heq | hall
      · simp only at heq
        subst heq
        exact h.written j oldPhase batch writes hold d hd
      · exact hall d hd
    · cases hidle.save

theorem keepGate (h : GateInv calls gate store) (hold : calls[i]? = some old)
    (hs : call.HoldsGate → old.HoldsGate) :
    ∀ (j : Nat) other, (calls.set i call)[j]? = some other → other.HoldsGate → gate = some j := by
  intro j other hother hholds
  rcases getElem?_set_cases hother with ⟨rfl, rfl⟩ | ⟨-, hother⟩
  · exact h.gateHeld _ old hold (hs hholds)
  · exact h.gateHeld j other hother hholds

theorem holder_unique (h : GateInv calls gate store) (hcall : calls[i]? = some call)
    (hheld : call.HoldsGate) (hother : calls[j]? = some other) (hd : other.HoldsGate) : i = j := by
  have hi := h.gateHeld i call hcall hheld
  rw [h.gateHeld j other hother hd] at hi
  exact (Option.some.inj hi).symm

theorem releaseGate (h : GateInv calls gate store) (hold : calls[i]? = some old)
    (hheld : old.HoldsGate) (hs : ¬call.HoldsGate) :
    ∀ (j : Nat) other, (calls.set i call)[j]? = some other → other.HoldsGate → free = some j := by
  intro j other hother hholds
  rcases getElem?_set_cases hother with ⟨rfl, rfl⟩ | ⟨hne, hother⟩
  · exact absurd hholds hs
  · exact absurd (h.holder_unique hold hheld hother hholds) hne

theorem not_snapshotted (h : GateInv calls gate store)
    (hold : calls[i]? = some ⟨ph, some task⟩) : ∀ dirty, ph ≠ .snapshotted dirty := by
  rintro dirty rfl
  cases h.fresh i _ hold (.inr (.inr ⟨dirty, rfl⟩))

theorem not_holding (h : GateInv calls gate store)
    (hold : calls[i]? = some ⟨ph, some task⟩) : ph ≠ .holding := by
  rintro rfl
  cases h.fresh i _ hold (.inr (.inl rfl))

theorem snapshot_active (hcall : (calls.set i ⟨.snapshotted dirty, none⟩)[j]? = some call)
    (hd : call.Active d) :
    calls[j]? = some call ∨ (d ∈ dirty ∧ call = ⟨.snapshotted dirty, none⟩) := by
  rcases getElem?_set_cases hcall with ⟨-, rfl⟩ | ⟨-, hcall⟩
  · cases hd with
    | snapshotted hd => exact .inr ⟨hd, rfl⟩
  · exact .inl hcall

theorem snapshot_finished (hcall : (calls.set i ⟨.snapshotted dirty, none⟩)[j]? = some call)
    (he : call.Finished e) : calls[j]? = some call := by
  rcases getElem?_set_cases hcall with ⟨-, rfl⟩ | ⟨-, hcall⟩
  · cases he
  · exact hcall

theorem snapshot (h : GateInv calls gate store) (hold : calls[i]? = some ⟨.holding, none⟩)
    (hkeyed : ∀ d ∈ dirty, d.checkpoint.vbucket = d.vbucket)
    (hsingle : ∀ d ∈ dirty, ∀ e ∈ dirty, d.vbucket = e.vbucket → d = e) :
    GateInv (calls.set i ⟨.snapshotted dirty, none⟩) gate store := by
  refine ⟨fun j call d hcall hd => ?_, fun j call d e hcall hd he hv => ?_,
    h.keepGate hold fun _ => .holding, fun j call hcall => ?_,
    fun j ph batch writes hcall d hd => ?_⟩
  · rcases hd with hd | hd
    · rcases snapshot_active hcall hd with hcall | ⟨hd, -⟩
      · exact h.keyed j call d hcall (.inl hd)
      · exact hkeyed d hd
    · exact h.keyed j call d (snapshot_finished hcall hd) (.inr hd)
  · rcases snapshot_active hcall hd with hold | ⟨hmem, rfl⟩
    · exact h.single j call d e hold hd he hv
    · cases he with
      | snapshotted he => exact hsingle d hmem e he hv
  · rcases getElem?_set_cases hcall with ⟨-, rfl⟩ | ⟨-, hcall⟩
    · exact fun _ => rfl
    · exact h.fresh j call hcall
  · rcases getElem?_set_cases hcall with ⟨-, heq⟩ | ⟨-, hcall⟩
    · cases heq
    · exact h.written j ph batch writes hcall d hd

theorem write_shrinks (h : GateInv calls gate store)
    (hold : calls[i]? = some ⟨ph, some ⟨batch, writes, none⟩⟩) (hentry : entry ∈ batch)
    (hstore : ∀ d ∈ entry :: writes, other[d.vbucket]? = some d.checkpoint) :
    FlushCall.Shrinks other ⟨ph, some ⟨batch, entry :: writes, none⟩⟩
      ⟨ph, some ⟨batch, writes, none⟩⟩ := by
  refine ⟨fun d hd => ?_, by rintro d ⟨⟩, fun hwait => ?_, ?_⟩
  · cases hd with
    | snapshotted => exact absurd rfl (h.not_snapshotted hold _)
    | running hd => exact .running hd
  · cases h.fresh i _ hold hwait
  · rintro _ _ ⟨⟩
    refine .inr fun d hd => ⟨?_, hstore d hd⟩
    rcases List.mem_cons.1 hd with rfl | hd
    · exact hentry
    · exact (h.written i ph batch writes hold d hd).1

theorem write_store (h : GateInv calls gate store)
    (hold : calls[i]? = some ⟨ph, some ⟨batch, writes, none⟩⟩) (hentry : entry ∈ batch) :
    ∀ d ∈ entry :: writes,
      (store.insert entry.checkpoint.vbucket entry.checkpoint)[d.vbucket]? =
        some d.checkpoint := by
  intro d hd
  have hv := h.keyed i _ entry hold (.inl (.running hentry))
  rw [hv]
  rcases List.mem_cons.1 hd with rfl | hd
  · exact Std.ExtTreeMap.getElem?_insert_self
  obtain ⟨hmem, hheld⟩ := h.written i ph batch writes hold d hd
  rw [Std.ExtTreeMap.getElem?_insert]
  split
  · rename_i heq
    rw [h.single i _ entry d hold (.running hentry) (.running hmem) (by simpa using heq)]
  · exact hheld

theorem write (h : GateInv calls gate store)
    (hold : calls[i]? = some ⟨ph, some ⟨batch, writes, none⟩⟩) (hentry : entry ∈ batch) :
    GateInv (calls.set i ⟨ph, some ⟨batch, entry :: writes, none⟩⟩) gate
      (store.insert entry.checkpoint.vbucket entry.checkpoint) := by
  have hstore := h.write_store hold hentry
  have hinsert : GateInv calls gate
      (store.insert entry.checkpoint.vbucket entry.checkpoint) := by
    refine ⟨h.keyed, h.single, h.gateHeld, h.fresh, fun j ph' batch' writes' hcall d hd => ?_⟩
    obtain rfl := h.holder_unique hold .running hcall .running
    cases hold.symm.trans hcall
    exact ⟨(h.written i ph batch writes hold d hd).1, hstore d (List.mem_cons_of_mem _ hd)⟩
  exact hinsert.shrink (hinsert.callsShrink_set hold (h.write_shrinks hold hentry hstore))
    (h.keepGate hold fun _ => .running)

theorem finish_not_holdsGate (h : GateInv calls gate store)
    (hold : calls[i]? = some ⟨ph, some ⟨batch, writes, none⟩⟩)
    (hcall : (calls.set i ⟨ph, some ⟨batch, writes, some outcome⟩⟩)[j]? = some call) :
    ¬call.HoldsGate := by
  intro hholds
  rcases getElem?_set_cases hcall with ⟨rfl, rfl⟩ | ⟨hne, hcall⟩
  · cases hholds with
    | holding => exact h.not_holding hold rfl
    | snapshotted => exact h.not_snapshotted hold _ rfl
  · exact hne (h.holder_unique hold .running hcall hholds)

theorem finish_finished (hcall :
      (calls.set i ⟨ph, some ⟨batch, writes, some outcome⟩⟩)[j]? = some call)
    (he : call.Finished e) : calls[j]? = some call ∨ (outcome = .ok () ∧ e ∈ batch) := by
  rcases getElem?_set_cases hcall with ⟨-, rfl⟩ | ⟨-, hcall⟩
  · cases he with
    | mk he => exact .inr ⟨rfl, he⟩
  · exact .inl hcall

theorem finish (h : GateInv calls gate store)
    (hold : calls[i]? = some ⟨ph, some ⟨batch, writes, none⟩⟩) :
    GateInv (calls.set i ⟨ph, some ⟨batch, writes, some outcome⟩⟩) none store := by
  refine ⟨fun j call d hcall hd => ?_, fun j call d e hcall hd => ?_, fun j call hcall hholds => ?_,
    fun j call hcall => ?_, fun j ph' batch' writes' hcall => ?_⟩
  · have hd := hd.resolve_left fun hd => h.finish_not_holdsGate hold hcall hd.holdsGate
    rcases finish_finished hcall hd with hcall | ⟨-, hmem⟩
    · exact h.keyed j call d hcall (.inr hd)
    · exact h.keyed i _ d hold (.inl (.running hmem))
  · exact absurd hd.holdsGate (h.finish_not_holdsGate hold hcall)
  · exact absurd hholds (h.finish_not_holdsGate hold hcall)
  · rcases getElem?_set_cases hcall with ⟨-, rfl⟩ | ⟨-, hcall⟩
    · intro hwait
      cases h.fresh i _ hold hwait
    · exact h.fresh j call hcall
  · exact absurd .running (h.finish_not_holdsGate hold hcall)

end GateInv

/-- The late durable update: each partition is as before or confirmed by a finished save. -/
structure Confirms (calls : List FlushCall) (before after : BTreeMap UInt16 PartitionState) :
    Prop where
  back : ∀ (v : UInt16) q, after[v]? = some q → ∃ p, before[v]? = some p ∧
    (q = p ∨ ∃ (i : Nat) (call : FlushCall) (d : DirtyCheckpoint), calls[i]? = some call ∧
      call.Finished d ∧ d.vbucket = v ∧ q = p.confirm d)
  forth : ∀ (v : UInt16) p, before[v]? = some p → ∃ q, after[v]? = some q

theorem Confirms.of_eq (h : after = before) : Confirms calls before after := by
  subst h
  exact ⟨fun v q hq => ⟨q, hq, .inl rfl⟩, fun v p hp => ⟨p, hp⟩⟩

/-- The four ways in which a step of a flush call touches the calls and the store. -/
inductive FlushKind (s t : System) : Prop
  | shrink (hcalls : CallsShrink s.store s.calls t.calls)
      (hgate : ∀ (j : Nat) call, t.calls[j]? = some call → call.HoldsGate → t.gate = some j)
      (hstore : t.store = s.store)
      (hparts : Confirms s.calls s.state.partitions t.state.partitions) : FlushKind s t
  | snapshot (i : Nat) (hold : s.calls[i]? = some ⟨.holding, none⟩)
      (ht : t = s.setCall i ⟨.snapshotted s.state.dirtyCheckpoints, none⟩) : FlushKind s t
  | write (i : Nat) (hold : s.calls[i]? = some ⟨ph, some ⟨batch, writes, none⟩⟩)
      (hentry : entry ∈ batch)
      (ht : t = { s.setCall i ⟨ph, some ⟨batch, entry :: writes, none⟩⟩ with
        store := s.store.insert entry.checkpoint.vbucket entry.checkpoint }) : FlushKind s t
  | finish (i : Nat) (hold : s.calls[i]? = some ⟨ph, some ⟨batch, writes, none⟩⟩)
      (hall : outcome = .ok () → ∀ entry ∈ batch, entry ∈ writes)
      (ht : t = { s.setCall i ⟨ph, some ⟨batch, writes, some outcome⟩⟩ with gate := none }) :
      FlushKind s t

namespace System

def gateInv (s : System) : Prop := GateInv s.calls s.gate s.store

theorem settle_kind {s : System} {i : Nat} (h : s.gateInv) (hold : s.calls[i]? = some ⟨old, task⟩)
    (hph : ph.isSettled = true) (hcalls : t.calls = s.calls.set i ⟨ph, task⟩)
    (hgate : t.gate = s.gate) (hstore : t.store = s.store)
    (hparts : Confirms s.calls s.state.partitions t.state.partitions) : FlushKind s t := by
  refine .shrink ?_ ?_ hstore hparts
  · rw [hcalls]
    exact h.callsShrink_set hold (FlushCall.settled_shrinks hph)
  · rw [hcalls, hgate]
    exact h.keepGate hold (FlushCall.settled_holdsGate hph)

theorem leave_kind {s : System} {i : Nat} (h : s.gateInv) (hold : s.calls[i]? = some ⟨old, task⟩)
    (hheld : old = .holding ∨ ∃ dirty, old = .snapshotted dirty)
    (hcalls : t.calls = s.calls.set i ⟨.returned result, task⟩) (hstore : t.store = s.store)
    (hparts : t.state.partitions = s.state.partitions) : FlushKind s t := by
  have htask : task = none := h.fresh i _ hold (.inr hheld)
  subst htask
  refine .shrink ?_ ?_ hstore (.of_eq hparts)
  · rw [hcalls]
    exact h.callsShrink_set hold (FlushCall.settled_shrinks rfl)
  · rw [hcalls]
    apply h.releaseGate hold
    · rcases hheld with rfl | ⟨dirty, rfl⟩
      · exact .holding
      · exact .snapshotted
    · rintro ⟨⟩

theorem failCall_kind {s : System} {i : Nat} (h : s.gateInv)
    (hold : s.calls[i]? = some ⟨old, task⟩) :
    FlushKind s (s.failCall i task error incrementAttempt) := by
  have hparts := s.state.recordFlushFailure_partitions error incrementAttempt
  exact settle_kind h hold rfl rfl rfl rfl (.of_eq hparts)

theorem begin_kind {s : System} (h : s.gateInv) (hidle : call.Idle) (hgate : ¬call.HoldsGate) :
    FlushKind s { s with calls := s.calls ++ [call] } := by
  refine .shrink (h.callsShrink_append hidle) ?_ rfl (.of_eq rfl)
  intro j other hother hholds
  rw [List.getElem?_append] at hother
  split at hother
  · exact h.gateHeld j other hother hholds
  · rw [List.getElem?_singleton] at hother
    split at hother
    · cases hother
      exact absurd hholds hgate
    · cases hother

theorem acquire_kind {s : System} {i : Nat} (h : s.gateInv)
    (hold : s.calls[i]? = some ⟨.waiting, task⟩) (hgate : s.gate = none) :
    FlushKind s { s.setCall i ⟨.holding, task⟩ with gate := some i } := by
  have htask : task = none := h.fresh i _ hold (.inl rfl)
  subst htask
  refine .shrink (h.callsShrink_set hold ?_) ?_ rfl (.of_eq rfl)
  · exact ⟨by rintro d ⟨⟩, by rintro d ⟨⟩, fun _ => rfl, by rintro _ _ ⟨⟩⟩
  · intro j other hother hholds
    rcases getElem?_set_cases hother with ⟨rfl, -⟩ | ⟨-, hother⟩
    · rfl
    · have := h.gateHeld j other hother hholds
      simp [hgate] at this

theorem spawn_kind {s : System} {i : Nat} (h : s.gateInv)
    (hold : s.calls[i]? = some ⟨.snapshotted dirty, task⟩)
    (hcalls : t.calls = s.calls.set i ⟨.awaiting, some ⟨dirty, [], none⟩⟩)
    (hgate : t.gate = s.gate) (hstore : t.store = s.store)
    (hparts : t.state.partitions = s.state.partitions) : FlushKind s t := by
  refine .shrink ?_ ?_ hstore (.of_eq hparts)
  · rw [hcalls]
    refine h.callsShrink_set hold ⟨?_, by rintro d ⟨⟩, ?_, ?_⟩
    · intro d hd
      cases hd with
      | running hd => exact .snapshotted hd
    · rintro (habs | habs | ⟨dirty, habs⟩) <;> cases habs
    · rintro batch writes ⟨⟩
      exact .inr (by simp)
  · rw [hcalls, hgate]
    exact h.keepGate hold fun _ => .snapshotted

theorem FlushEffect.kind {s : System} (he : FlushEffect s action t) (h : s.gateInv) :
    FlushKind s t := by
  cases he with
  | beginClean | beginDirty => exact begin_kind h ⟨rfl, by rintro _ ⟨⟩⟩ (by rintro ⟨⟩)
  | acquire hcall hgate => exact acquire_kind h hcall hgate
  | gateTimeout hcall | timeout hcall | completeError hcall => exact failCall_kind h hcall
  | cancel hcall hphase => exact settle_kind h hcall rfl rfl rfl rfl (.of_eq rfl)
  | snapshotClean hcall hdirty => exact leave_kind h hcall (.inl rfl) rfl rfl rfl
  | snapshot hcall hdirty =>
    cases h.fresh _ _ hcall (.inr (.inl rfl))
    exact .snapshot _ hcall rfl
  | spawnOverflow hcall hattempt =>
    exact leave_kind h hcall (.inr ⟨_, rfl⟩) rfl rfl (recordFlushAttempt_eq hattempt)
  | spawn hcall hattempt =>
    exact spawn_kind h hcall rfl rfl rfl (recordFlushAttempt_eq hattempt)
  | write hcall hentry => exact .write _ hcall hentry rfl
  | finish hcall hall => exact .finish _ hcall hall rfl
  | complete hcall hconfirm =>
    obtain ⟨after, hafter, heq⟩ := Option.map_eq_some_iff.1 hconfirm
    cases heq
    refine settle_kind h hcall rfl rfl rfl rfl ⟨fun v q hq => ?_, fun v p hp => ?_⟩
    · obtain ⟨p, hp, ⟨rfl, -⟩ | ⟨d, hd, hv, rfl⟩⟩ := CoordinatorState.confirmSaved_cases hafter hq
      · exact ⟨q, hp, .inl rfl⟩
      · exact ⟨p, hp, .inr ⟨_, _, d, hcall, .mk hd, hv, rfl⟩⟩
    · obtain ⟨q, hq⟩ := CoordinatorState.confirmSaved_tracked hafter hp
      exact ⟨q, hq⟩

theorem dirtyCheckpoints_single {state : CoordinatorState} :
    ∀ d ∈ state.dirtyCheckpoints, ∀ e ∈ state.dirtyCheckpoints, d.vbucket = e.vbucket → d = e := by
  intro d hd e he hv
  obtain ⟨p, hp, -, hc, hgen⟩ := CoordinatorState.mem_dirtyCheckpoints.1 hd
  obtain ⟨q, hq, -, hec, hegen⟩ := CoordinatorState.mem_dirtyCheckpoints.1 he
  rw [← hv, hp, Option.some.injEq] at hq
  subst hq
  cases d
  cases e
  simp_all

theorem step_gateInv {s : System} (h : s.gateInv)
    (hkeyed : ∀ (v : UInt16) p, s.state.partitions[v]? = some p → p.Keyed v)
    (ht : s.step action = some t) : t.gateInv := by
  cases step_effect ht with
  | rejected | tracked | acknowledged | rebased | dirtied => exact h
  | flushed hflush =>
    cases hflush.kind h with
    | shrink hcalls hgate hstore hparts =>
      rw [gateInv, hstore]
      exact h.shrink hcalls hgate
    | snapshot i hold ht =>
      subst ht
      refine h.snapshot hold (fun d hd => ?_) dirtyCheckpoints_single
      obtain ⟨p, hp, -, hc, -⟩ := CoordinatorState.mem_dirtyCheckpoints.1 hd
      rw [hc]
      exact (hkeyed _ p hp).processed
    | write i hold hentry ht =>
      subst ht
      exact h.write hold hentry
    | finish i hold hall ht =>
      subst ht
      exact h.finish hold

theorem opened_partition {v : UInt16} (h : System.opened config stored checkpoints = .ok s)
    (hq : s.state.partitions[v]? = some q) : ∃ c generation, checkpoints[v]? = some c ∧
      c.vbucket = v ∧ q = { PartitionState.new c with generation } ∧
      (s.store[v]? = some c ∨ 0 < generation) := by
  obtain ⟨bucketUuid, state, hnew, hmark, hstore, -⟩ := opened_eq_ok h
  obtain ⟨hvalid, hget⟩ := CoordinatorState.new_eq_ok hnew
  obtain ⟨p, generation, hp, rfl, -, hchanged⟩ :=
    CoordinatorState.markChangedInitialPositions_eq_ok hmark hq
  rw [hget v, Option.map_eq_some_iff] at hp
  obtain ⟨c, hc, rfl⟩ := hp
  refine ⟨c, generation, hc, (validateCheckpointIdentity_eq_ok.1 (hvalid v c hc)).1, rfl, ?_⟩
  rw [hstore]
  exact hchanged c (Std.ExtTreeMap.mem_toList_iff_getElem?_eq_some.2 hc)

theorem opened_keyed (h : System.opened config stored checkpoints = .ok s) :
    ∀ (v : UInt16) q, s.state.partitions[v]? = some q → q.Keyed v := by
  intro v q hq
  obtain ⟨c, generation, -, hv, rfl, -⟩ := opened_partition h hq
  exact ⟨hv, by simp [PartitionState.new]⟩

theorem opened_gateInv (h : System.opened config stored checkpoints = .ok s) : s.gateInv := by
  obtain ⟨-, -, -, -, -, -, hcalls⟩ := opened_eq_ok h
  rw [gateInv, hcalls]
  exact .nil _ _

end System

end RustDcp
