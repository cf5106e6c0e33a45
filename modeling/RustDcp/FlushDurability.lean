import RustDcp.FlushGate

namespace RustDcp
set_option autoImplicit true

/-- The order between the dirty snapshots, the generations and the late durable updates. -/
structure FlushInv (partitions : BTreeMap UInt16 PartitionState) (calls : List FlushCall)
    (store : BTreeMap UInt16 DcpCheckpoint) : Prop where
  behind : ∀ (v : UInt16) p, partitions[v]? = some p → p.durableGeneration ≤ p.generation
  current : ∀ (i : Nat) call d, calls[i]? = some call → call.Active d ∨ call.Finished d →
    ∃ p, partitions[d.vbucket]? = some p ∧ d.generation ≤ p.generation ∧
      (d.generation = p.generation → d.checkpoint = p.processed)
  newest : ∀ (i : Nat) call d, calls[i]? = some call → call.Active d →
    (∀ p, partitions[d.vbucket]? = some p → p.durableGeneration ≤ d.generation) ∧
    ∀ (j : Nat) other e, calls[j]? = some other → other.Finished e → e.vbucket = d.vbucket →
      e.generation ≤ d.generation
  held : ∀ (j : Nat) other e p, calls[j]? = some other → other.Finished e →
    partitions[e.vbucket]? = some p → e.generation = p.generation →
    store[e.vbucket]? = some p.processed
  clean : ∀ (v : UInt16) p, partitions[v]? = some p → p.generation = p.durableGeneration →
    store[v]? = some p.processed

/-- What the actions other than a flush do to a partition, seen from the flush. -/
structure PartitionState.Progress (p q : PartitionState) : Prop where
  durable : q.durableGeneration = p.durableGeneration
  moves : (q.generation = p.generation ∧ q.processed = p.processed) ∨ p.generation < q.generation

theorem PartitionState.Progress.refl (p : PartitionState) : Progress p p :=
  ⟨rfl, .inl ⟨rfl, rfl⟩⟩

theorem PartitionState.progress_rebaseIf (p : PartitionState) (checkpoint : Option DcpCheckpoint) :
    p.Progress (p.rebaseIf checkpoint) := by
  cases checkpoint with
  | none => exact .refl p
  | some c =>
    refine ⟨rfl, ?_⟩
    simp only [rebaseIf, rebase]
    split
    · exact .inr (Nat.lt_succ_self _)
    · rename_i hsame
      exact .inl ⟨rfl, (not_not.1 hsame).symm⟩

namespace FlushInv

variable {calls : List FlushCall} {i : Nat}

theorem progress (h : FlushInv before calls store)
    (hback : ∀ (v : UInt16) q, after[v]? = some q → ∃ p, before[v]? = some p ∧ p.Progress q)
    (hforth : ∀ (v : UInt16) p, before[v]? = some p → ∃ q, after[v]? = some q) :
    FlushInv after calls store := by
  have hnext : ∀ (v : UInt16) p, before[v]? = some p → ∃ q, after[v]? = some q ∧ p.Progress q := by
    intro v p hp
    obtain ⟨q, hq⟩ := hforth v p hp
    obtain ⟨r, hr, hprogress⟩ := hback v q hq
    cases hp.symm.trans hr
    exact ⟨q, hq, hprogress⟩
  refine ⟨fun v q hq => ?_, fun i call d hcall hd => ?_, fun i call d hcall hd => ?_,
    fun j other e q hcall he hq hgen => ?_, fun v q hq hgen => ?_⟩
  · obtain ⟨p, hp, hprogress⟩ := hback v q hq
    have := h.behind v p hp
    have := hprogress.durable
    rcases hprogress.moves with ⟨hgen, -⟩ | hgen <;> omega
  · obtain ⟨p, hp, hle, heq⟩ := h.current i call d hcall hd
    obtain ⟨q, hq, hprogress⟩ := hnext _ p hp
    refine ⟨q, hq, ?_⟩
    rcases hprogress.moves with ⟨hgen, hsame⟩ | hgen
    · rw [hgen, hsame]
      exact ⟨hle, heq⟩
    · exact ⟨by omega, fun habs => by omega⟩
  · obtain ⟨hdurable, hfinished⟩ := h.newest i call d hcall hd
    refine ⟨fun q hq => ?_, hfinished⟩
    obtain ⟨p, hp, hprogress⟩ := hback _ q hq
    rw [hprogress.durable]
    exact hdurable p hp
  · obtain ⟨p, hp, hprogress⟩ := hback _ q hq
    obtain ⟨r, hr, hle, -⟩ := h.current j other e hcall (.inr he)
    cases hp.symm.trans hr
    rcases hprogress.moves with ⟨hsameGen, hsame⟩ | hlt
    · rw [hsame]
      exact h.held j other e p hcall he hp (hgen.trans hsameGen)
    · omega
  · obtain ⟨p, hp, hprogress⟩ := hback v q hq
    have := h.behind v p hp
    have := hprogress.durable
    rcases hprogress.moves with ⟨hsameGen, hsame⟩ | hlt
    · rw [hsame]
      exact h.clean v p hp (by omega)
    · omega

theorem setPartition {state : CoordinatorState} {v : UInt16}
    (h : FlushInv state.partitions calls store) (hp : state.partitions[v]? = some p)
    (hprogress : p.Progress q) : FlushInv (state.setPartition v q).partitions calls store := by
  apply h.progress
  · intro w r hr
    rcases CoordinatorState.getElem?_setPartition_cases hr with ⟨rfl, rfl⟩ | ⟨-, hr⟩
    · exact ⟨p, hp, hprogress⟩
    · exact ⟨r, hr, .refl r⟩
  · intro w r hr
    exact CoordinatorState.setPartition_tracked q hr

theorem shrink (h : FlushInv partitions calls store) (hcalls : CallsShrink store calls after) :
    FlushInv partitions after store := by
  refine ⟨h.behind, fun j call d hcall hd => ?_, fun j call d hcall hd => ?_,
    fun j call e p hcall he => ?_, h.clean⟩
  · rcases hd with hd | hd
    · obtain ⟨old, hold, hd, -⟩ := hcalls.active hcall hd
      exact h.current j old d hold (.inl hd)
    · obtain ⟨old, hold, hd⟩ := hcalls.finished hcall hd
      exact h.current j old d hold (.inr hd)
  · obtain ⟨old, hold, hd, -⟩ := hcalls.active hcall hd
    obtain ⟨hdurable, hnewest⟩ := h.newest j old d hold hd
    refine ⟨hdurable, fun k other e hother he => ?_⟩
    obtain ⟨before, hbefore, he⟩ := hcalls.finished hother he
    exact hnewest k before e hbefore he
  · obtain ⟨old, hold, he⟩ := hcalls.finished hcall he
    exact h.held j old e p hold he

theorem confirm (h : FlushInv before calls store) (hparts : Confirms calls before after) :
    FlushInv after calls store := by
  have hpre : ∀ (v : UInt16) q, after[v]? = some q → ∃ p, before[v]? = some p ∧
      q.processed = p.processed ∧ q.generation = p.generation := by
    intro v q hq
    obtain ⟨p, hp, rfl | ⟨i, call, d, -, -, -, rfl⟩⟩ := hparts.back v q hq
    · exact ⟨q, hp, rfl, rfl⟩
    · exact ⟨p, hp, rfl, rfl⟩
  refine ⟨fun v q hq => ?_, fun j call d hcall hd => ?_, fun j call d hcall hd => ?_,
    fun j call e q hcall he hq hgen => ?_, fun v q hq hgen => ?_⟩
  · obtain ⟨p, hp, rfl | ⟨i, call, d, hcall, hd, rfl, rfl⟩⟩ := hparts.back v q hq
    · exact h.behind v q hp
    · obtain ⟨r, hr, hle, -⟩ := h.current i call d hcall (.inr hd)
      cases hp.symm.trans hr
      exact hle
  · obtain ⟨p, hp, hle, heq⟩ := h.current j call d hcall hd
    obtain ⟨q, hq⟩ := hparts.forth _ p hp
    obtain ⟨r, hr, hprocessed, hgen⟩ := hpre _ q hq
    cases hp.symm.trans hr
    refine ⟨q, hq, ?_⟩
    rw [hprocessed, hgen]
    exact ⟨hle, heq⟩
  · obtain ⟨hdurable, hnewest⟩ := h.newest j call d hcall hd
    refine ⟨fun q hq => ?_, hnewest⟩
    obtain ⟨p, hp, rfl | ⟨i, other, e, hother, he, hve, rfl⟩⟩ := hparts.back _ q hq
    · exact hdurable q hp
    · exact hnewest i other e hother he hve
  · obtain ⟨p, hp, hprocessed, hsameGen⟩ := hpre _ q hq
    rw [hprocessed]
    exact h.held j call e p hcall he hp (hgen.trans hsameGen)
  · obtain ⟨p, hp, rfl | ⟨i, call, e, hcall, he, rfl, rfl⟩⟩ := hparts.back v q hq
    · exact h.clean v q hp hgen
    · exact h.held i call e p hcall he hp hgen.symm

theorem snapshot (h : FlushInv partitions calls store)
    (hdirty : ∀ d ∈ dirty, ∃ p, partitions[d.vbucket]? = some p ∧ d.checkpoint = p.processed ∧
      d.generation = p.generation) :
    FlushInv partitions (calls.set i ⟨.snapshotted dirty, none⟩) store := by
  refine ⟨h.behind, fun j call d hcall hd => ?_, fun j call d hcall hd => ?_,
    fun j call e p hcall he => ?_, h.clean⟩
  · rcases hd with hd | hd
    · rcases GateInv.snapshot_active hcall hd with hcall | ⟨hd, -⟩
      · exact h.current j call d hcall (.inl hd)
      · obtain ⟨p, hp, hc, hgen⟩ := hdirty d hd
        exact ⟨p, hp, hgen.le, fun _ => hc⟩
    · exact h.current j call d (GateInv.snapshot_finished hcall hd) (.inr hd)
  · rcases GateInv.snapshot_active hcall hd with hcall | ⟨hd, -⟩
    · obtain ⟨hdurable, hnewest⟩ := h.newest j call d hcall hd
      refine ⟨hdurable, fun k other e hother he => ?_⟩
      exact hnewest k other e (GateInv.snapshot_finished hother he) he
    · obtain ⟨p, hp, -, hgen⟩ := hdirty d hd
      refine ⟨fun q hq => ?_, fun k other e hother he hv => ?_⟩
      · cases hp.symm.trans hq
        rw [hgen]
        exact h.behind _ p hp
      · have hother := GateInv.snapshot_finished hother he
        obtain ⟨q, hq, hle, -⟩ := h.current k other e hother (.inr he)
        rw [hv, hp, Option.some.injEq] at hq
        subst hq
        omega
  · exact h.held j call e p (GateInv.snapshot_finished hcall he) he

theorem insert (h : FlushInv partitions calls store) (hg : GateInv calls gate store)
    (hold : calls[i]? = some ⟨ph, some ⟨batch, writes, none⟩⟩) (hentry : entry ∈ batch) :
    FlushInv partitions calls (store.insert entry.checkpoint.vbucket entry.checkpoint) := by
  have hactive : FlushCall.Active ⟨ph, some ⟨batch, writes, none⟩⟩ entry := .running hentry
  obtain ⟨p, hp, hle, hsame⟩ := h.current i _ entry hold (.inl hactive)
  obtain ⟨hdurable, hnewest⟩ := h.newest i _ entry hold hactive
  rw [hg.keyed i _ entry hold (.inl hactive)]
  have hget : ∀ w c, store[w]? = some c → (entry.vbucket = w → c = entry.checkpoint) →
      (store.insert entry.vbucket entry.checkpoint)[w]? = some c := by
    intro w c hc heq
    rw [Std.ExtTreeMap.getElem?_insert]
    split
    · rename_i hw
      rw [heq (by simpa using hw)]
    · exact hc
  refine ⟨h.behind, h.current, h.newest, fun j other e q hcall he hq hgen => ?_,
    fun w q hq hgen => ?_⟩
  · apply hget _ _ (h.held j other e q hcall he hq hgen)
    intro hve
    have := hnewest j other e hcall he hve.symm
    rw [← hve, hp, Option.some.injEq] at hq
    subst hq
    exact (hsame (by omega)).symm
  · apply hget _ _ (h.clean w q hq hgen)
    intro hvw
    rw [← hvw] at hq
    have := hdurable q hq
    rw [hp, Option.some.injEq] at hq
    subst hq
    exact (hsame (by omega)).symm

theorem finish (h : FlushInv partitions calls store) (hg : GateInv calls gate store)
    (hold : calls[i]? = some ⟨ph, some ⟨batch, writes, none⟩⟩)
    (hall : outcome = .ok () → ∀ entry ∈ batch, entry ∈ writes) :
    FlushInv partitions (calls.set i ⟨ph, some ⟨batch, writes, some outcome⟩⟩) store := by
  have hidle : ∀ (j : Nat) call d,
      (calls.set i ⟨ph, some ⟨batch, writes, some outcome⟩⟩)[j]? = some call → ¬call.Active d :=
    fun j call d hcall hd => hg.finish_not_holdsGate hold hcall hd.holdsGate
  refine ⟨h.behind, fun j call d hcall hd => ?_,
    fun j call d hcall hd => absurd hd (hidle j call d hcall),
    fun j call e p hcall he hp hgen => ?_, h.clean⟩
  · have hd := hd.resolve_left (hidle j call d hcall)
    rcases GateInv.finish_finished hcall hd with hcall | ⟨-, hmem⟩
    · exact h.current j call d hcall (.inr hd)
    · exact h.current i _ d hold (.inl (.running hmem))
  · rcases GateInv.finish_finished hcall he with hcall | ⟨rfl, hmem⟩
    · exact h.held j call e p hcall he hp hgen
    · obtain ⟨q, hq, -, hsame⟩ := h.current i _ e hold (.inl (.running hmem))
      cases hp.symm.trans hq
      rw [← hsame hgen]
      exact (hg.written i ph batch writes hold e (hall rfl e hmem)).2

end FlushInv

namespace System

def flushInv (s : System) : Prop := FlushInv s.state.partitions s.calls s.store

theorem kind_flushInv {s : System} (hk : FlushKind s t) (hg : s.gateInv) (h : s.flushInv) :
    t.flushInv := by
  cases hk with
  | shrink hcalls hgate hstore hparts =>
    rw [System.flushInv, hstore]
    exact (h.confirm hparts).shrink hcalls
  | snapshot i hold ht =>
    subst ht
    apply h.snapshot
    intro d hd
    obtain ⟨p, hp, -, hc, hgen⟩ := CoordinatorState.mem_dirtyCheckpoints.1 hd
    exact ⟨p, hp, hc, hgen⟩
  | write i hold hentry ht =>
    subst ht
    have hinsert := h.insert hg hold hentry
    have hwrites := hg.write_shrinks hold hentry (hg.write_store hold hentry)
    exact hinsert.shrink (hg.callsShrink_set hold hwrites)
  | finish i hold hall ht =>
    subst ht
    exact h.finish hg hold hall

/-- No generation has reached the end of its counter. -/
def Counting (s : System) (_ : Action) : Prop :=
  ∀ entry ∈ s.state.partitions.toList, entry.2.generation < u64Max

instance (s : System) (action : Action) : Decidable (s.Counting action) :=
  inferInstanceAs (Decidable (∀ entry ∈ s.state.partitions.toList, entry.2.generation < u64Max))

theorem Counting.generation_lt {s : System} {v : UInt16} (h : s.Counting action)
    (hp : s.state.partitions[v]? = some p) : p.generation < u64Max :=
  h (v, p) (Std.ExtTreeMap.mem_toList_iff_getElem?_eq_some.2 hp)

theorem step_flushInv {s : System} (hg : s.gateInv) (h : s.flushInv) (hcount : s.Counting action)
    (ht : s.step action = some t) : t.flushInv := by
  cases step_effect ht with
  | rejected => exact h
  | tracked hp htrack =>
    apply h.setPartition hp
    rcases PartitionState.trackEvent_cases htrack with ⟨marker, -, -, -, -, rfl⟩ |
      ⟨-, -, -, rfl⟩ | ⟨n, window, -, -, hreg⟩
    · exact ⟨rfl, .inl ⟨rfl, rfl⟩⟩
    · exact .refl _
    · rw [hreg.eq]
      exact ⟨rfl, .inl ⟨rfl, rfl⟩⟩
  | acknowledged hmem hack =>
    rcases CoordinatorState.acknowledge_cases hack with ⟨-, -, rfl⟩ | ⟨p, q, hp, hq, rfl⟩
    · exact h
    apply h.setPartition hp
    rcases PartitionState.acknowledge_cases hq with ⟨-, rfl, -⟩ | ⟨_, _, -, rfl, hends⟩
    · exact .refl _
    · refine ⟨rfl, ?_⟩
      cases hends with
      | waits _ hgen hsame => exact .inl ⟨hgen, hsame⟩
      | advances hgen hlt => exact .inr (by simp only [hgen]; omega)
      | overflows _ hmax => exact absurd (hcount.generation_lt hp) (by omega)
  | rebased hvalid hget =>
    apply h.progress
    · intro v q hq
      rw [hget, Option.map_eq_some_iff] at hq
      obtain ⟨p, hp, rfl⟩ := hq
      exact ⟨p, hp, p.progress_rebaseIf _⟩
    · intro v p hp
      rw [hget, hp]
      exact ⟨_, rfl⟩
  | dirtied hp hlt => exact h.setPartition hp ⟨rfl, .inr (Nat.lt_succ_self _)⟩
  | flushed hflush => exact kind_flushInv (hflush.kind hg) hg h

theorem opened_flushInv (h : System.opened config stored checkpoints = .ok s) : s.flushInv := by
  obtain ⟨-, -, -, -, -, -, hcalls⟩ := opened_eq_ok h
  rw [flushInv, hcalls]
  refine ⟨fun v q hq => ?_, by simp, by simp, by simp, fun v q hq hgen => ?_⟩
  · obtain ⟨c, generation, -, -, rfl, -⟩ := opened_partition h hq
    exact Nat.zero_le _
  · obtain ⟨c, generation, -, -, rfl, hheld⟩ := opened_partition h hq
    apply hheld.resolve_right
    simp only [PartitionState.new] at hgen
    omega

structure Flushing (s : System) : Prop where
  keyed : ∀ (v : UInt16) p, s.state.partitions[v]? = some p → p.Keyed v
  gate : s.gateInv
  flush : s.flushInv

theorem Flushing.step {s : System} (h : s.Flushing) (hcount : s.Counting action)
    (ht : s.step action = some t) : t.Flushing :=
  ⟨step_keyed h.keyed ht, step_gateInv h.gate h.keyed ht, step_flushInv h.gate h.flush hcount ht⟩

theorem run_flushing (h : System.opened config stored checkpoints = .ok s)
    (hr : Machine.run step s acts = some t) (hcount : Machine.Allowed step Counting s acts) :
    t.Flushing :=
  Machine.run_invariant_allowed (fun _ _ _ hs hcount ht => hs.step hcount ht)
    ⟨opened_keyed h, opened_gateInv h, opened_flushInv h⟩ hr hcount

theorem getElem?_append_left {calls : List FlushCall} {i : Nat} (hi : i < calls.length)
    (h : (calls ++ [call])[i]? = some other) : calls[i]? = some other := by
  rwa [List.getElem?_append_left hi] at h

theorem FlushEffect.returned_cases {s : System} {i : Nat} (h : FlushEffect s action t)
    (hi : i < s.calls.length) (hcall : t.calls[i]? = some ⟨.returned (.ok report), task⟩) :
    (∃ old, s.calls[i]? = some ⟨.returned (.ok report), old⟩) ∨
    (∀ (v : UInt16) p, s.state.partitions[v]? = some p → p.isDirty = false) ∨
    ∃ batch writes, s.calls[i]? = some ⟨.awaiting, some ⟨batch, writes, some (.ok ())⟩⟩ := by
  cases h with
  | beginClean | beginDirty => exact .inl ⟨task, getElem?_append_left hi hcall⟩
  | snapshotClean hold hdirty =>
    rcases getElem?_setCall hcall with ⟨-, -⟩ | ⟨-, hcall⟩
    · exact .inr (.inl (CoordinatorState.dirtyCheckpoints_eq_nil.1 hdirty))
    · exact .inl ⟨task, hcall⟩
  | complete hold hconfirm =>
    rcases getElem?_setCall hcall with ⟨rfl, -⟩ | ⟨-, hcall⟩
    · exact .inr (.inr ⟨_, _, hold⟩)
    · exact .inl ⟨task, hcall⟩
  | write hold | finish hold =>
    rcases getElem?_setCall hcall with ⟨rfl, heq⟩ | ⟨-, hcall⟩
    · cases heq
      exact .inl ⟨_, hold⟩
    · exact .inl ⟨task, hcall⟩
  | acquire | gateTimeout | cancel | snapshot | spawnOverflow | spawn | timeout | completeError =>
    rcases getElem?_setCall hcall with ⟨-, heq⟩ | ⟨-, hcall⟩
    · cases heq
    · exact .inl ⟨task, hcall⟩

theorem FlushEffect.awaiting_cases {s : System} {i : Nat} (h : FlushEffect s action t)
    (hi : i < s.calls.length)
    (hcall : t.calls[i]? = some ⟨.awaiting, some ⟨batch, writes, outcome⟩⟩) :
    (∃ old, s.calls[i]? = some ⟨.awaiting, some ⟨batch, old, outcome⟩⟩) ∨
    (∃ old, s.calls[i]? = some ⟨.awaiting, some ⟨batch, old, none⟩⟩ ∧
      (outcome = some (.ok ()) → ∀ d ∈ batch, d ∈ old)) ∨
    (outcome = none ∧ ∃ old, s.calls[i]? = some ⟨.snapshotted batch, old⟩) := by
  cases h with
  | beginClean | beginDirty => exact .inl ⟨writes, getElem?_append_left hi hcall⟩
  | spawn hold hattempt =>
    rcases getElem?_setCall hcall with ⟨rfl, heq⟩ | ⟨-, hcall⟩
    · cases heq
      exact .inr (.inr ⟨rfl, _, hold⟩)
    · exact .inl ⟨writes, hcall⟩
  | write hold =>
    rcases getElem?_setCall hcall with ⟨rfl, heq⟩ | ⟨-, hcall⟩
    · cases heq
      exact .inl ⟨_, hold⟩
    · exact .inl ⟨writes, hcall⟩
  | finish hold hall =>
    rcases getElem?_setCall hcall with ⟨rfl, heq⟩ | ⟨-, hcall⟩
    · cases heq
      exact .inr (.inl ⟨_, hold, fun hok => hall (Option.some.inj hok)⟩)
    · exact .inl ⟨writes, hcall⟩
  | acquire | gateTimeout | cancel | snapshotClean | snapshot | spawnOverflow | timeout
    | completeError | complete =>
    rcases getElem?_setCall hcall with ⟨-, heq⟩ | ⟨-, hcall⟩
    · cases heq
    · exact .inl ⟨writes, hcall⟩

theorem FlushEffect.calls_length {s : System} (h : FlushEffect s action t) :
    s.calls.length ≤ t.calls.length := by
  cases h <;> simp [failCall, setCall]

theorem step_tracked {s : System} {v : UInt16} (h : s.step action = some t)
    (hq : t.state.partitions[v]? = some q) : ∃ p, s.state.partitions[v]? = some p := by
  cases step_effect h with
  | rejected => exact ⟨q, hq⟩
  | tracked hp htrack =>
    rcases CoordinatorState.getElem?_setPartition_cases hq with ⟨rfl, -⟩ | ⟨-, hq⟩
    · exact ⟨_, hp⟩
    · exact ⟨q, hq⟩
  | acknowledged hmem hack =>
    rcases CoordinatorState.acknowledge_cases hack with ⟨-, -, rfl⟩ | ⟨p, r, hp, hr, rfl⟩
    · exact ⟨q, hq⟩
    · rcases CoordinatorState.getElem?_setPartition_cases hq with ⟨rfl, -⟩ | ⟨-, hq⟩
      · exact ⟨p, hp⟩
      · exact ⟨q, hq⟩
  | rebased hvalid hget =>
    rw [hget, Option.map_eq_some_iff] at hq
    obtain ⟨p, hp, -⟩ := hq
    exact ⟨p, hp⟩
  | dirtied hp hlt =>
    rcases CoordinatorState.getElem?_setPartition_cases hq with ⟨rfl, -⟩ | ⟨-, hq⟩
    · exact ⟨_, hp⟩
    · exact ⟨q, hq⟩
  | flushed hflush =>
    obtain ⟨p, hp, -⟩ := hflush.frame.partitions v q hq
    exact ⟨p, hp⟩

/-- During the run the store held, for `v`, a checkpoint that was `processed` during the run. -/
def Observed (s : System) (acts : List Action) (v : UInt16) : Prop :=
  ∃ c, (Machine.Visited step s acts fun u => u.store[v]? = some c) ∧
    Machine.Visited step s acts fun u => u.processed? v = some c

theorem Observed.extend (h : Observed s acts v) (more : List Action) :
    Observed s (acts ++ more) v := by
  obtain ⟨c, hstore, hprocessed⟩ := h
  exact ⟨c, hstore.extend more, hprocessed.extend more⟩

theorem Observed.of_clean (ht : Machine.run step s acts = some t) (h : t.flushInv)
    (hp : t.state.partitions[v]? = some p) (hclean : p.isDirty = false) : Observed s acts v := by
  have hstore := h.clean v p hp (PartitionState.isDirty_eq_false.1 hclean).1
  exact ⟨p.processed, .last ht hstore, .last ht (by rw [processed?, hp]; rfl)⟩

/-- What the flush call `i` has seen since it began. -/
structure CallSeen (s : System) (i : Nat) (acts : List Action) (t : System) : Prop where
  flushing : t.Flushing
  begun : i < t.calls.length
  returned : ∀ report task, t.calls[i]? = some ⟨.returned (.ok report), task⟩ →
    ∀ (v : UInt16) p, t.state.partitions[v]? = some p → Observed s acts v
  snapshotted : ∀ dirty task, t.calls[i]? = some ⟨.snapshotted dirty, task⟩ →
    ∀ (v : UInt16) p, t.state.partitions[v]? = some p → Observed s acts v ∨
      ∃ d ∈ dirty, d.vbucket = v ∧
        Machine.Visited step s acts fun u => u.processed? v = some d.checkpoint
  awaiting : ∀ batch writes outcome, t.calls[i]? = some ⟨.awaiting, some ⟨batch, writes, outcome⟩⟩ →
    ∀ (v : UInt16) p, t.state.partitions[v]? = some p → Observed s acts v ∨
      ∃ d ∈ batch, d.vbucket = v ∧
        (Machine.Visited step s acts fun u => u.processed? v = some d.checkpoint) ∧
        (outcome = some (.ok ()) →
          Machine.Visited step s acts fun u => u.store[v]? = some d.checkpoint)

theorem CallSeen.flushed {s : System} (h : CallSeen s i acts t)
    (ht : Machine.run System.step s acts = some t) (hcount : t.Counting (.flush action))
    (hu : t.step (.flush action) = some u) (hflush : FlushEffect t action u) :
    CallSeen s i (acts ++ [.flush action]) u := by
  refine ⟨h.flushing.step hcount hu, h.begun.trans_le hflush.calls_length,
    fun report task hcall v q hq => ?_,
    fun dirty task hcall v q hq => ?_, fun batch writes outcome hcall v q hq => ?_⟩
  · obtain ⟨p, hp⟩ := step_tracked hu hq
    rcases hflush.returned_cases h.begun hcall with ⟨old, hold⟩ | hclean | ⟨batch, writes, hold⟩
    · exact (h.returned report old hold v p hp).extend _
    · exact (Observed.of_clean ht h.flushing.flush hp (hclean v p hp)).extend _
    · rcases h.awaiting batch writes _ hold v p hp with hseen | ⟨d, -, -, hprocessed, hstore⟩
      · exact hseen.extend _
      · exact ⟨d.checkpoint, (hstore rfl).extend _, hprocessed.extend _⟩
  · obtain ⟨p, hp⟩ := step_tracked hu hq
    rcases hflush.snapshotted_cases hcall with ⟨old, hold⟩ | rfl
    · refine (h.snapshotted dirty old hold v p hp).imp (·.extend _) ?_
      rintro ⟨d, hd, hv, hprocessed⟩
      exact ⟨d, hd, hv, hprocessed.extend _⟩
    · cases hdirty : p.isDirty with
      | false => exact .inl ((Observed.of_clean ht h.flushing.flush hp hdirty).extend _)
      | true =>
        refine .inr ⟨⟨v, p.processed, p.generation⟩, ?_, rfl, ?_⟩
        · exact CoordinatorState.mem_dirtyCheckpoints.2 ⟨p, hp, hdirty, rfl, rfl⟩
        · exact (Machine.Visited.last ht (by rw [processed?, hp]; rfl)).extend _
  · obtain ⟨p, hp⟩ := step_tracked hu hq
    rcases hflush.awaiting_cases h.begun hcall with ⟨old, hold⟩ | ⟨old, hold, hall⟩ |
      ⟨rfl, old, hold⟩
    · refine (h.awaiting batch old outcome hold v p hp).imp (·.extend _) ?_
      rintro ⟨d, hd, hv, hprocessed, hstore⟩
      exact ⟨d, hd, hv, hprocessed.extend _, fun hok => (hstore hok).extend _⟩
    · refine (h.awaiting batch old none hold v p hp).imp (·.extend _) ?_
      rintro ⟨d, hd, rfl, hprocessed, -⟩
      refine ⟨d, hd, rfl, hprocessed.extend _, fun hok => ?_⟩
      have hstore := (h.flushing.gate.written i _ batch old hold d (hall hok d hd)).2
      exact (Machine.Visited.last ht hstore).extend _
    · refine (h.snapshotted batch old hold v p hp).imp (·.extend _) ?_
      rintro ⟨d, hd, hv, hprocessed⟩
      exact ⟨d, hd, hv, hprocessed.extend _, by rintro ⟨⟩⟩

theorem CallSeen.step {s : System} (h : CallSeen s i acts t)
    (ht : Machine.run System.step s acts = some t) (hcount : t.Counting action)
    (hu : t.step action = some u) : CallSeen s i (acts ++ [action]) u := by
  have hflushing := h.flushing.step hcount hu
  have hback := fun (v : UInt16) q => step_tracked (v := v) (q := q) hu
  cases step_effect hu with
  | flushed hflush => exact h.flushed ht hcount hu hflush
  | rejected | tracked | acknowledged | rebased | dirtied =>
    refine ⟨hflushing, h.begun, fun report task hcall v q hq => ?_,
      fun dirty task hcall v q hq => ?_, fun batch writes outcome hcall v q hq => ?_⟩
    · obtain ⟨p, hp⟩ := hback v q hq
      exact (h.returned report task hcall v p hp).extend _
    · obtain ⟨p, hp⟩ := hback v q hq
      refine (h.snapshotted dirty task hcall v p hp).imp (·.extend _) ?_
      rintro ⟨d, hd, hv, hprocessed⟩
      exact ⟨d, hd, hv, hprocessed.extend _⟩
    · obtain ⟨p, hp⟩ := hback v q hq
      refine (h.awaiting batch writes outcome hcall v p hp).imp (·.extend _) ?_
      rintro ⟨d, hd, hv, hprocessed, hstore⟩
      exact ⟨d, hd, hv, hprocessed.extend _, fun hok => (hstore hok).extend _⟩

theorem CallSeen.begin {s : System} (h : s.Flushing) (hcount : s.Counting (.flush .begin))
    (ht : s.step (.flush .begin) = some t) : CallSeen t s.calls.length [] t := by
  have hflushing := h.step hcount ht
  have hflush : FlushEffect s .begin t := flushStep_effect ht
  cases hflush with
  | beginClean hclean =>
    refine ⟨hflushing, by simp, fun _ _ _ v p hp => ?_, fun _ _ hcall => ?_,
      fun _ _ _ hcall => ?_⟩
    · apply Observed.of_clean rfl hflushing.flush hp
      exact CoordinatorState.hasDirty_eq_false.1 hclean v p hp
    · simp at hcall
    · simp at hcall
  | beginDirty hdirty =>
    refine ⟨hflushing, by simp, fun _ _ hcall => ?_, fun _ _ hcall => ?_,
      fun _ _ _ hcall => ?_⟩ <;> simp at hcall

/-- A clean partition is durable, and a flush that returns `Ok` has seen the store hold, for every
partition, a checkpoint that was `processed` since the flush began. -/
theorem clean_durable (hopened : System.opened config stored checkpoints = .ok s)
    (hr : Machine.run step s acts = some t) (hcount : Machine.Allowed step Counting s acts) :
    (∀ (v : UInt16) p, t.state.partitions[v]? = some p → p.isDirty = false →
      t.store[v]? = some p.processed) ∧
    ∀ before since u w report task, acts = before ++ .flush .begin :: since →
      Machine.run step s before = some u → u.step (.flush .begin) = some w →
      t.calls[u.calls.length]? = some ⟨.returned (.ok report), task⟩ →
      ∀ (v : UInt16) p, t.state.partitions[v]? = some p → Observed w since v := by
  refine ⟨fun v p hp hclean => ?_, ?_⟩
  · exact (run_flushing hopened hr hcount).flush.clean v p hp
      (PartitionState.isDirty_eq_false.1 hclean).1
  · rintro before since u w report task rfl hu hw hcall v p hp
    obtain ⟨hbefore, hrest⟩ := (Machine.allowed_append hu).1 hcount
    obtain ⟨hbegin, hsince⟩ := (Machine.allowed_cons hw).1 hrest
    obtain ⟨u', hu', hcons⟩ := Machine.run_append.1 hr
    cases hu.symm.trans hu'
    obtain ⟨w', hw', ht⟩ := Machine.run_cons_iff.1 hcons
    cases hw.symm.trans hw'
    have hflushing := run_flushing hopened hu hbefore
    have hseen := Machine.run_history_allowed (P := CallSeen w u.calls.length)
      (.begin hflushing hbegin hw) (fun _ _ _ _ hr h hc hs => h.step hr hc hs) ht hsince
    exact hseen.returned report task hcall v p hp

def sampleOpened : System :=
  start "bucket" 60 ∅ ((CoordinatorState.start (sampleStart 7)).setPartition 7
    { PartitionState.new (samplePosition 7 0 0) with generation := 1 })

/-- An event is acknowledged while the start position is being saved, and flushed after it. -/
def sampleSaves : List Action :=
  [.track (sampleMarker 7 9), .track (.seqNoAdvanced ⟨7, 1⟩), .flush .begin, .flush (.acquire 0),
    .flush (.snapshot 0), .flush (.spawn 0), .acknowledge ⟨7, 1, 1⟩,
    .flush (.write 0 ⟨7, samplePosition 7 0 0, 1⟩), .flush (.finish 0 (.ok ())),
    .flush (.complete 0)] ++ sampleFlush 1 ⟨7, samplePosition 7 1 9, 2⟩

theorem clean_durable_sample : ∃ t, Machine.run step sampleOpened sampleSaves = some t ∧
    (∃ p, t.state.partitions[(7 : UInt16)]? = some p ∧ p.isDirty = false ∧
      t.store[(7 : UInt16)]? = some p.processed) := by
  have hopened : System.opened sampleConfig ∅ (sampleStart 7) = .ok sampleOpened := rfl
  have hrun : (Machine.run step sampleOpened sampleSaves).map (fun t =>
      t.state.partitions[(7 : UInt16)]?.map PartitionState.isDirty) = some (some false) := by decide
  obtain ⟨t, ht, hdirty⟩ := Option.map_eq_some_iff.1 hrun
  obtain ⟨p, hp, hclean⟩ := Option.map_eq_some_iff.1 hdirty
  exact ⟨t, ht, p, hp, hclean, (clean_durable hopened ht (by decide)).1 7 p hp hclean⟩

end System

end RustDcp
