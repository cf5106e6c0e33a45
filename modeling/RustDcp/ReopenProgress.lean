import RustDcp.FlushDurability
import RustDcp.Reopen

namespace RustDcp
set_option autoImplicit true

/-- No `processed` position moves back from `s` to `t`. -/
structure System.Advances (s t : System) : Prop where
  forth : ∀ (v : UInt16) p, s.state.partitions[v]? = some p →
    ∃ q, t.state.partitions[v]? = some q ∧ p.processed.seqno ≤ q.processed.seqno
  back : ∀ (v : UInt16) q, t.state.partitions[v]? = some q → ∃ p, s.state.partitions[v]? = some p

namespace System

theorem Advances.of_eq {s t : System} (h : t.state.partitions = s.state.partitions) :
    s.Advances t := by
  constructor
  · intro v p hp
    rw [h]
    exact ⟨p, hp, le_rfl⟩
  · intro v q hq
    rw [h] at hq
    exact ⟨q, hq⟩

theorem Advances.trans {s t u : System} (h : s.Advances t) (hu : t.Advances u) : s.Advances u := by
  constructor
  · intro v p hp
    obtain ⟨q, hq, hpq⟩ := h.forth v p hp
    obtain ⟨r, hr, hqr⟩ := hu.forth v q hq
    exact ⟨r, hr, hpq.trans hqr⟩
  · intro v r hr
    obtain ⟨q, hq⟩ := hu.back v r hr
    exact h.back v q hq

theorem Advances.le {s t : System} {v : UInt16} (h : s.Advances t)
    (hp : s.state.partitions[v]? = some p) (hq : t.state.partitions[v]? = some q) :
    p.processed.seqno ≤ q.processed.seqno := by
  obtain ⟨r, hr, hle⟩ := h.forth v p hp
  cases hq.symm.trans hr
  exact hle

theorem Advances.setPartition {s t : System} {v : UInt16}
    (ht : t.state = s.state.setPartition v q) (hp : s.state.partitions[v]? = some p)
    (hle : p.processed.seqno ≤ q.processed.seqno) : s.Advances t := by
  constructor
  · intro w r hr
    rw [ht, CoordinatorState.getElem?_setPartition]
    split
    · rename_i heq
      subst heq
      cases hp.symm.trans hr
      exact ⟨q, rfl, hle⟩
    · exact ⟨r, hr, le_rfl⟩
  · intro w r hr
    rw [ht] at hr
    rcases CoordinatorState.getElem?_setPartition_cases hr with ⟨rfl, -⟩ | ⟨-, hr⟩
    · exact ⟨p, hp⟩
    · exact ⟨r, hr⟩

theorem Advances.confirms {s t : System}
    (h : Confirms s.calls s.state.partitions t.state.partitions) : s.Advances t := by
  constructor
  · intro v p hp
    obtain ⟨q, hq⟩ := h.forth v p hp
    refine ⟨q, hq, ?_⟩
    obtain ⟨r, hr, rfl | ⟨_, _, d, -, -, -, rfl⟩⟩ := h.back v q hq
    · cases hp.symm.trans hr
      exact le_rfl
    · cases hp.symm.trans hr
      exact le_rfl
  · intro v q hq
    obtain ⟨p, hp, -⟩ := h.back v q hq
    exact ⟨p, hp⟩

theorem kind_advances {s t : System} (h : FlushKind s t) : s.Advances t := by
  cases h with
  | shrink hcalls hgate hstore hparts => exact .confirms hparts
  | snapshot i hold ht => exact .of_eq (by rw [ht]; rfl)
  | write i hold hentry ht => exact .of_eq (by rw [ht]; rfl)
  | finish i hold hall ht => exact .of_eq (by rw [ht]; rfl)

/-- The store is behind the entries of a running save, and these are behind `processed`. -/
structure StoreBehind (s : System) : Prop where
  store : ∀ (v : UInt16) c p, s.store[v]? = some c → s.state.partitions[v]? = some p →
    c.seqno ≤ p.processed.seqno
  active : ∀ (i : Nat) call d, s.calls[i]? = some call → call.Active d →
    (∀ c, s.store[d.vbucket]? = some c → c.seqno ≤ d.checkpoint.seqno) ∧
    ∀ p, s.state.partitions[d.vbucket]? = some p → d.checkpoint.seqno ≤ p.processed.seqno

theorem StoreBehind.advance {s t : System} (h : s.StoreBehind) (hadv : s.Advances t)
    (hcalls : CallsShrink s.store s.calls t.calls) (hstore : t.store = s.store) :
    t.StoreBehind := by
  constructor
  · intro v c q hc hq
    obtain ⟨p, hp⟩ := hadv.back v q hq
    rw [hstore] at hc
    exact (h.store v c p hc hp).trans (hadv.le hp hq)
  · intro i call d hcall hd
    obtain ⟨old, hold, hd, -⟩ := hcalls.active hcall hd
    obtain ⟨hbefore, hahead⟩ := h.active i old d hold hd
    rw [hstore]
    refine ⟨hbefore, ?_⟩
    intro q hq
    obtain ⟨p, hp⟩ := hadv.back _ q hq
    exact (hahead p hp).trans (hadv.le hp hq)

/-- No position of the store moves back from `s` to `t`. -/
def StoreAdvances (s t : System) : Prop :=
  ∀ (v : UInt16) c, s.store[v]? = some c → ∃ d, t.store[v]? = some d ∧ c.seqno ≤ d.seqno

theorem StoreAdvances.of_eq {s t : System} (h : t.store = s.store) : s.StoreAdvances t := by
  intro v c hc
  rw [h]
  exact ⟨c, hc, le_rfl⟩

theorem StoreAdvances.trans {s t u : System} (h : s.StoreAdvances t) (hu : t.StoreAdvances u) :
    s.StoreAdvances u := by
  intro v c hc
  obtain ⟨d, hd, hcd⟩ := h v c hc
  obtain ⟨e, he, hde⟩ := hu v d hd
  exact ⟨e, he, hcd.trans hde⟩

theorem kind_storeBehind {s t : System} (hk : FlushKind s t) (hg : s.gateInv) (h : s.StoreBehind) :
    t.StoreBehind ∧ s.StoreAdvances t := by
  cases hk with
  | shrink hcalls hgate hstore hparts =>
    exact ⟨h.advance (.confirms hparts) hcalls hstore, .of_eq hstore⟩
  | snapshot i hold ht =>
    subst ht
    refine ⟨⟨h.store, ?_⟩, .of_eq rfl⟩
    intro j call d hcall hd
    rcases GateInv.snapshot_active hcall hd with hcall | ⟨hmem, -⟩
    · exact h.active j call d hcall hd
    · obtain ⟨p, hp, -, hc, -⟩ := CoordinatorState.mem_dirtyCheckpoints.1 hmem
      constructor
      · intro c hstored
        rw [hc]
        exact h.store _ c p hstored hp
      · intro q hq
        cases hp.symm.trans hq
        rw [hc]
  | @write ph batch writes entry i hold hentry ht =>
    subst ht
    have hactive : FlushCall.Active ⟨ph, some ⟨batch, writes, none⟩⟩ entry := .running hentry
    have hv := hg.keyed i _ entry hold (.inl hactive)
    obtain ⟨hbefore, hahead⟩ := h.active i _ entry hold hactive
    have hget : ∀ (v : UInt16) c,
        (s.store.insert entry.checkpoint.vbucket entry.checkpoint)[v]? = some c →
        (entry.vbucket = v ∧ c = entry.checkpoint) ∨ s.store[v]? = some c := by
      intro v c hc
      rw [hv, Std.ExtTreeMap.getElem?_insert] at hc
      split at hc
      · rename_i heq
        exact .inl ⟨by simpa using heq, (Option.some.inj hc).symm⟩
      · exact .inr hc
    refine ⟨⟨?_, ?_⟩, ?_⟩
    · intro v c p hc hp
      rcases hget v c hc with ⟨rfl, rfl⟩ | hc
      · exact hahead p hp
      · exact h.store v c p hc hp
    · intro j call d hcall hd
      have hshrinks := hg.write_shrinks hold hentry (hg.write_store hold hentry)
      obtain ⟨old, hold', hd', -⟩ := (hg.callsShrink_set hold hshrinks).active hcall hd
      obtain ⟨hstored, hprocessed⟩ := h.active j old d hold' hd'
      refine ⟨?_, hprocessed⟩
      intro c hc
      rcases hget _ c hc with ⟨heq, rfl⟩ | hc
      · obtain rfl := hg.holder_unique hold .running hold' hd'.holdsGate
        cases hold.symm.trans hold'
        rw [hg.single i _ entry d hold hactive hd' heq]
      · exact hstored c hc
    · intro v c hc
      by_cases heq : entry.vbucket = v
      · subst heq
        refine ⟨entry.checkpoint, ?_, hbefore c hc⟩
        simp only [hv, Std.ExtTreeMap.getElem?_insert_self]
      · refine ⟨c, ?_, le_rfl⟩
        simp only [hv, Std.ExtTreeMap.getElem?_insert]
        rw [if_neg (by simpa using heq)]
        exact hc
  | finish i hold hall ht =>
    subst ht
    refine ⟨⟨h.store, ?_⟩, .of_eq rfl⟩
    intro j call d hcall hd
    exact absurd hd.holdsGate (hg.finish_not_holdsGate hold hcall)

/-- The invariants that keep `processed` and the store from moving back. -/
structure Progressing (s : System) : Prop where
  keyed : ∀ (v : UInt16) p, s.state.partitions[v]? = some p → p.Keyed v
  ordered : ∀ (v : UInt16) p, s.state.partitions[v]? = some p → p.Ordered
  gate : s.gateInv

theorem step_ordered {s : System} (hs : ∀ (v : UInt16) p, s.state.partitions[v]? = some p →
    p.Ordered) (h : s.step action = some t) :
    ∀ (v : UInt16) p, t.state.partitions[v]? = some p → p.Ordered := by
  intro v q hq
  cases step_effect h with
  | rejected => exact hs v q hq
  | tracked hp htrack =>
    rcases CoordinatorState.getElem?_setPartition_cases hq with ⟨rfl, rfl⟩ | ⟨-, hq⟩
    · exact ((hs _ _ hp).trackEvent htrack).1
    · exact hs v q hq
  | acknowledged hmem hack =>
    rcases CoordinatorState.acknowledge_cases hack with ⟨-, -, rfl⟩ | ⟨p, r, hp, hr, rfl⟩
    · exact hs v q hq
    · rcases CoordinatorState.getElem?_setPartition_cases hq with ⟨rfl, rfl⟩ | ⟨-, hq⟩
      · exact ((hs _ _ hp).acknowledge hr).1
      · exact hs v q hq
  | @rebased effective after hvalid hget =>
    rw [hget, Option.map_eq_some_iff] at hq
    obtain ⟨p, hp, rfl⟩ := hq
    cases effective[v]? with
    | none => exact hs v p hp
    | some c => exact .rebase p c
  | dirtied hp hlt =>
    rcases CoordinatorState.getElem?_setPartition_cases hq with ⟨rfl, rfl⟩ | ⟨-, hq⟩
    · exact (hs _ _ hp).frame rfl rfl rfl
    · exact hs v q hq
  | flushed hflush =>
    obtain ⟨p, hp, rfl | ⟨d, rfl⟩⟩ := hflush.frame.partitions v q hq
    · exact hs v q hp
    · exact (hs v p hp).frame rfl rfl rfl

theorem Progressing.step {s : System} (h : s.Progressing) (ht : s.step action = some t) :
    t.Progressing :=
  ⟨step_keyed h.keyed ht, step_ordered h.ordered ht, step_gateInv h.gate h.keyed ht⟩

theorem Progressing.advances {s : System} (h : s.Progressing) (ht : s.step action = some t)
    (hrebase : ∀ effective, action = .rebase effective → ∀ (v : UInt16) c p,
      effective[v]? = some c → s.state.partitions[v]? = some p →
      p.processed.seqno ≤ c.seqno) : s.Advances t := by
  cases step_effect ht with
  | rejected => exact .of_eq rfl
  | tracked hp htrack =>
    apply Advances.setPartition rfl hp
    rw [((h.ordered _ _ hp).trackEvent htrack).2]
  | acknowledged hmem hack =>
    rcases CoordinatorState.acknowledge_cases hack with ⟨-, -, rfl⟩ | ⟨p, q, hp, hq, rfl⟩
    · exact .of_eq rfl
    · exact .setPartition rfl hp ((h.ordered _ p hp).acknowledge hq).2
  | @rebased effective after hvalid hget =>
    constructor
    · intro v p hp
      refine ⟨p.rebaseIf effective[v]?, ?_, ?_⟩
      · rw [hget, hp]
        rfl
      · cases hc : effective[v]? with
        | none => exact le_rfl
        | some c => exact hrebase effective rfl v c p hc hp
    · intro v q hq
      rw [hget, Option.map_eq_some_iff] at hq
      obtain ⟨p, hp, -⟩ := hq
      exact ⟨p, hp⟩
  | dirtied hp hlt => exact .setPartition rfl hp le_rfl
  | flushed hflush => exact kind_advances (hflush.kind h.gate)

theorem Progressing.storeBehind {s : System} (h : s.Progressing) (hb : s.StoreBehind)
    (ht : s.step action = some t) (hadv : s.Advances t) : t.StoreBehind ∧ s.StoreAdvances t := by
  have hcalls : CallsShrink s.store s.calls s.calls := fun j call hcall =>
    .inl ⟨call, hcall, (h.gate.fresh j call hcall).shrinks⟩
  cases step_effect ht with
  | rejected | tracked | acknowledged | rebased | dirtied =>
    exact ⟨hb.advance hadv hcalls rfl, .of_eq rfl⟩
  | flushed hflush => exact kind_storeBehind (hflush.kind h.gate) h.gate hb

end System

theorem validateOpenedPartitions_eq_ok
    (h : validateOpenedPartitions starts effective endSeqnos frozen streamCount = .ok ()) :
    starts.keys = effective.keys := by
  simp only [validateOpenedPartitions] at h
  split at h
  · cases h
  · rename_i hkeys
    exact not_not.1 hkeys

theorem reopenStarts_keys (captured : BTreeMap UInt16 DcpCheckpoint) :
    (reopenStarts captured).keys = captured.keys := by
  simp only [reopenStarts, ← Std.ExtTreeMap.map_fst_toList_eq_keys, Std.ExtTreeMap.toList_map,
    List.map_map]
  rfl

theorem getElem?_of_keys_eq {m : BTreeMap UInt16 α} {n : BTreeMap UInt16 β} {v : UInt16}
    (h : m.keys = n.keys) (hm : m[v]? = some a) : ∃ b, n[v]? = some b := by
  have hmem : v ∈ n := by
    rw [← Std.ExtTreeMap.mem_keys, ← h, Std.ExtTreeMap.mem_keys]
    exact Std.ExtTreeMap.mem_iff_isSome_getElem?.2 (by simp [hm])
  exact Option.isSome_iff_exists.1 (Std.ExtTreeMap.mem_iff_isSome_getElem?.1 hmem)

theorem System.acceptReopenedGeneration_ok {s : System}
    (h : s.acceptReopenedGeneration captured frozen reply = (.ok (), t)) :
    captured.keys = reply.effectiveCheckpoints.keys ∧
      s.step (.rebase reply.effectiveCheckpoints) = some t ∧
      ∀ v : UInt16, t.state.partitions[v]? =
        s.state.partitions[v]?.map (·.rebaseIf reply.effectiveCheckpoints[v]?) := by
  simp only [acceptReopenedGeneration] at h
  split at h
  · cases h
  rename_i hvalid
  rw [← reopenStarts_keys]
  refine ⟨validateOpenedPartitions_eq_ok hvalid, ?_⟩
  split at h
  · cases h
  rename_i state hrebase
  cases h
  constructor
  · simp only [System.step, hrebase]
  · rcases CoordinatorState.rebasePartitions_cases hrebase with ⟨⟨error, herror⟩, -⟩ | ⟨-, -, hget⟩
    · cases herror
    · exact hget

theorem System.acceptReopenedGeneration_error {s : System}
    (h : s.acceptReopenedGeneration captured frozen reply = (.error error, t)) : t = s := by
  simp only [acceptReopenedGeneration] at h
  split at h
  · cases h
    rfl
  split at h
  · rename_i hrebase
    cases h
    rcases CoordinatorState.rebasePartitions_cases hrebase with ⟨-, rfl⟩ | ⟨hok, -⟩
    · rfl
    · cases hok
  · cases h

namespace Reopening

def captured? (s : Reopening) : Option (BTreeMap UInt16 DcpCheckpoint) :=
  match s.phase with
  | .opening captured => some captured
  | _ => none

/-- The generation was opened without a rollback: each effective checkpoint has the seqno of the
captured start. -/
def NoRollback (s : Reopening) : ReopenAction → Prop
  | .accept reply => ∀ captured ∈ s.captured?, ∀ entry ∈ reply.effectiveCheckpoints.toList,
      ∃ c ∈ captured[entry.1]?, entry.2.seqno = c.seqno
  | _ => True

/-- No acknowledgement has advanced `processed` since the starts were captured. -/
def Unmoved (s : Reopening) : ReopenAction → Prop
  | .accept _ => ∀ captured ∈ s.captured?, ∀ entry ∈ s.system.state.partitions.toList,
      ∀ c ∈ captured[entry.1]?, entry.2.processed.seqno = c.seqno
  | _ => True

instance (s : Reopening) : (action : ReopenAction) → Decidable (s.NoRollback action)
  | .accept reply => inferInstanceAs (Decidable (∀ captured ∈ s.captured?,
      ∀ entry ∈ reply.effectiveCheckpoints.toList,
      ∃ c ∈ captured[entry.1]?, entry.2.seqno = c.seqno))
  | .track _ | .acknowledge _ | .flush _ | .leave | .capture | .retry | .stop => isTrue trivial

instance (s : Reopening) : (action : ReopenAction) → Decidable (s.Unmoved action)
  | .accept _ => inferInstanceAs (Decidable (∀ captured ∈ s.captured?,
      ∀ entry ∈ s.system.state.partitions.toList,
      ∀ c ∈ captured[entry.1]?, entry.2.processed.seqno = c.seqno))
  | .track _ | .acknowledge _ | .flush _ | .leave | .capture | .retry | .stop => isTrue trivial

theorem captured?_of_phase {s : Reopening} (h : s.phase = .opening starts) :
    starts ∈ s.captured? := by
  rw [captured?, h]
  rfl

theorem NoRollback.seqno_eq {s : Reopening} {v : UInt16} (h : s.NoRollback (.accept reply))
    (hphase : s.phase = .opening starts) (he : reply.effectiveCheckpoints[v]? = some e) :
    ∃ c, starts[v]? = some c ∧ e.seqno = c.seqno :=
  h starts (captured?_of_phase hphase) (v, e)
    (Std.ExtTreeMap.mem_toList_iff_getElem?_eq_some.2 he)

theorem unmoved_accept {s : Reopening} (hphase : s.phase = .opening starts) :
    s.Unmoved (.accept reply) ↔ ∀ (v : UInt16) p c, s.system.state.partitions[v]? = some p →
      starts[v]? = some c → p.processed.seqno = c.seqno := by
  constructor
  · intro h v p c hp hc
    exact h starts (captured?_of_phase hphase) (v, p)
      (Std.ExtTreeMap.mem_toList_iff_getElem?_eq_some.2 hp) c hc
  · intro h captured hcaptured entry hentry c hc
    cases (Option.mem_unique hcaptured (captured?_of_phase hphase))
    exact h entry.1 entry.2 c (Std.ExtTreeMap.mem_toList_iff_getElem?_eq_some.1 hentry) hc

inductive Effect (s : Reopening) : ReopenAction → Reopening → Prop
  | coordinator (hstep : s.system.step act = some after) (hrebase : ∀ m, act ≠ .rebase m) :
      Effect s action { s with system := after }
  | moved (hphase : next = .driving ∨ next = .retrying ∨ next = .ended) :
      Effect s action { s with phase := next }
  | captured : Effect s .capture
      { s with phase := .opening s.system.state.processedCheckpoints }
  | accepted (hphase : s.phase = .opening starts)
      (haccept : s.system.acceptReopenedGeneration starts s.frozenEndSeqnos reply =
        (.ok (), after)) :
      Effect s (.accept reply) { s with system := after, phase := .driving }

theorem step_effect {s : Reopening} (h : s.step action = some t) : Effect s action t := by
  cases action with
  | track event =>
    simp only [step] at h
    split at h
    · obtain ⟨after, hstep, rfl⟩ := Option.map_eq_some_iff.1 h
      exact .coordinator hstep (by rintro m ⟨⟩)
    · cases h
  | acknowledge token =>
    obtain ⟨after, hstep, rfl⟩ := Option.map_eq_some_iff.1 h
    exact .coordinator hstep (by rintro m ⟨⟩)
  | flush act =>
    obtain ⟨after, hstep, rfl⟩ := Option.map_eq_some_iff.1 h
    exact .coordinator hstep (by rintro m ⟨⟩)
  | leave =>
    simp only [step] at h
    split at h
    · cases h
      exact .moved (.inr (.inl rfl))
    · cases h
  | capture =>
    simp only [step] at h
    split at h
    · cases h
      exact .captured
    · cases h
  | retry =>
    simp only [step] at h
    split at h
    · cases h
      exact .moved (.inr (.inl rfl))
    · cases h
  | accept reply =>
    simp only [step] at h
    split at h
    · rename_i starts hphase
      split at h
      · rename_i heq
        cases h
        obtain rfl := System.acceptReopenedGeneration_error heq
        exact .moved (.inr (.inr rfl))
      · rename_i heq
        cases h
        exact .accepted hphase heq
    · cases h
  | stop =>
    simp only [step] at h
    split at h
    · cases h
      exact .moved (.inr (.inr rfl))
    · cases h
      exact .moved (.inr (.inr rfl))
    · cases h
      exact .moved (.inr (.inr rfl))
    · cases h

/-- The captured starts are behind `processed`. -/
structure Inv (s : Reopening) : Prop where
  progressing : s.system.Progressing
  captured : ∀ starts, s.phase = .opening starts → ∀ (v : UInt16) p c,
    s.system.state.partitions[v]? = some p → starts[v]? = some c → c.seqno ≤ p.processed.seqno

theorem Inv.step {s : Reopening} (h : s.Inv) (ht : s.step action = some t) : t.Inv := by
  cases step_effect ht with
  | coordinator hstep hrebase =>
    refine ⟨h.progressing.step hstep, ?_⟩
    intro starts hphase v q c hq hc
    have hadv := h.progressing.advances hstep fun m hm => absurd hm (hrebase m)
    obtain ⟨p, hp⟩ := hadv.back v q hq
    exact (h.captured starts hphase v p c hp hc).trans (hadv.le hp hq)
  | moved hphase =>
    refine ⟨h.progressing, ?_⟩
    intro starts heq
    rcases hphase with rfl | rfl | rfl <;> cases heq
  | captured =>
    refine ⟨h.progressing, ?_⟩
    intro starts heq v p c hp hc
    cases heq
    rw [CoordinatorState.processedCheckpoints, Std.ExtTreeMap.getElem?_map, hp] at hc
    cases hc
    exact le_rfl
  | accepted hphase haccept =>
    obtain ⟨-, hstep, -⟩ := System.acceptReopenedGeneration_ok haccept
    refine ⟨h.progressing.step hstep, ?_⟩
    intro starts heq
    cases heq

/-- An accepted generation keeps every `processed` seqno exactly if none was advanced while it
was being opened. -/
theorem Inv.accept_iff {s : Reopening} (h : s.Inv) (hphase : s.phase = .opening starts)
    (hno : s.NoRollback (.accept reply))
    (haccept : s.system.acceptReopenedGeneration starts s.frozenEndSeqnos reply = (.ok (), after)) :
    s.system.Advances after ↔ s.Unmoved (.accept reply) := by
  obtain ⟨hkeys, hstep, hget⟩ := System.acceptReopenedGeneration_ok haccept
  rw [unmoved_accept hphase]
  constructor
  · intro hadv v p c hp hc
    obtain ⟨e, he⟩ := getElem?_of_keys_eq hkeys hc
    obtain ⟨d, hd, hseqno⟩ := hno.seqno_eq hphase he
    cases hc.symm.trans hd
    have hq : after.state.partitions[v]? = some (p.rebase e) := by
      rw [hget, hp, he]
      rfl
    have hle : p.processed.seqno ≤ e.seqno := hadv.le hp hq
    have hcaptured := h.captured starts hphase v p c hp hc
    omega
  · intro hun
    apply h.progressing.advances hstep
    rintro m ⟨⟩ v e p he hp
    obtain ⟨c, hc, hseqno⟩ := hno.seqno_eq hphase he
    rw [hseqno, hun v p c hp hc]

theorem Inv.step_advances {s : Reopening} (h : s.Inv) (hno : s.NoRollback action)
    (hun : s.Unmoved action) (ht : s.step action = some t) :
    s.system.Advances t.system ∧ (s.system.StoreBehind →
      t.system.StoreBehind ∧ s.system.StoreAdvances t.system) := by
  cases step_effect ht with
  | coordinator hstep hrebase =>
    have hadv := h.progressing.advances hstep fun m hm => absurd hm (hrebase m)
    exact ⟨hadv, fun hbehind => h.progressing.storeBehind hbehind hstep hadv⟩
  | moved hphase => exact ⟨.of_eq rfl, fun hbehind => ⟨hbehind, .of_eq rfl⟩⟩
  | captured => exact ⟨.of_eq rfl, fun hbehind => ⟨hbehind, .of_eq rfl⟩⟩
  | accepted hphase haccept =>
    have hadv := (h.accept_iff hphase hno haccept).2 hun
    obtain ⟨-, hstep, -⟩ := System.acceptReopenedGeneration_ok haccept
    exact ⟨hadv, fun hbehind => h.progressing.storeBehind hbehind hstep hadv⟩

def start (system : System) (frozenEndSeqnos : BTreeMap UInt16 Nat) : Reopening :=
  { system, frozenEndSeqnos, phase := .driving }

theorem start_inv (h : System.opened config stored checkpoints = .ok s) : (start s frozen).Inv := by
  refine ⟨⟨System.opened_keyed h, ?_, System.opened_gateInv h⟩, by rintro starts ⟨⟩⟩
  intro v p hp
  obtain ⟨c, generation, -, -, rfl, -⟩ := System.opened_partition h hp
  exact (PartitionState.Ordered.new c).frame rfl rfl rfl

theorem start_storeBehind (h : System.opened config stored checkpoints = .ok s)
    (hstart : ∀ (v : UInt16) c d, stored[v]? = some c → checkpoints[v]? = some d →
      c.seqno ≤ d.seqno) : (start s frozen).system.StoreBehind := by
  obtain ⟨-, -, -, -, hstore, -, hcalls⟩ := System.opened_eq_ok h
  constructor
  · intro v c p hc hp
    obtain ⟨d, generation, hd, -, rfl, -⟩ := System.opened_partition h hp
    rw [start, hstore] at hc
    exact hstart v c d hc hd
  · intro i call d hcall
    simp [start, hcalls] at hcall

theorem run_inv (h : System.opened config stored checkpoints = .ok s)
    (hr : Machine.run step (start s frozen) acts = some t) : t.Inv :=
  Machine.run_invariant (fun _ _ _ hs ht => hs.step ht) (start_inv h) hr

theorem run_advances {s : Reopening} (hs : s.Inv) (hr : Machine.run step s acts = some t)
    (hno : Machine.Allowed step NoRollback s acts) (hun : Machine.Allowed step Unmoved s acts) :
    t.Inv ∧ s.system.Advances t.system ∧ (s.system.StoreBehind →
      t.system.StoreBehind ∧ s.system.StoreAdvances t.system) := by
  induction acts generalizing s with
  | nil =>
    cases hr
    exact ⟨hs, .of_eq rfl, fun hbehind => ⟨hbehind, .of_eq rfl⟩⟩
  | cons action acts ih =>
    obtain ⟨u, hu, ht⟩ := Machine.run_cons_iff.1 hr
    obtain ⟨hno, hnoRest⟩ := (Machine.allowed_cons hu).1 hno
    obtain ⟨hun, hunRest⟩ := (Machine.allowed_cons hu).1 hun
    obtain ⟨hadv, hstore⟩ := hs.step_advances hno hun hu
    obtain ⟨hend, hadv', hstore'⟩ := ih (hs.step hu) ht hnoRest hunRest
    refine ⟨hend, hadv.trans hadv', fun hbehind => ?_⟩
    obtain ⟨hnext, hfirst⟩ := hstore hbehind
    obtain ⟨hlast, hrest⟩ := hstore' hnext
    exact ⟨hlast, hfirst.trans hrest⟩

theorem acknowledge_advancedTo {s : Reopening} (ht : s.step (.acknowledge token) = some t)
    (hok : (s.system.state.acknowledge token).1 = .ok outcome)
    (hc : outcome.advancedTo = some c) :
    ∃ q, t.system.state.partitions[token.vbucket]? = some q ∧ q.processed = c := by
  obtain ⟨after, hstep, rfl⟩ := Option.map_eq_some_iff.1 ht
  simp only [System.step] at hstep
  split at hstep
  · cases hstep
    rcases CoordinatorState.acknowledge_cases
      (Prod.eta (s.system.state.acknowledge token)).symm with
      ⟨-, ⟨error, herror⟩, -⟩ | ⟨p, q, hp, hq, heq⟩
    · rw [hok] at herror
      cases herror
    · simp only [heq, CoordinatorState.getElem?_setPartition, ↓reduceIte, Option.some.injEq,
        exists_eq_left']
      rcases PartitionState.acknowledge_cases hq with ⟨-, -, ⟨error, herror⟩⟩ |
        ⟨marked, generation, -, -, hends⟩
      · rw [hok] at herror
        cases herror
      · rw [hok] at hends
        cases hends with
        | waits => cases hc
        | advances => exact Option.some.inj hc
  · cases hstep

/-- A reopen without rollbacks loses progress exactly if an acknowledgement advanced `processed`
while the generation was being opened. In every run whose accepted generations meet that condition
no `processed` seqno, no reported `advanced_to` and, if the first generation starts at or after what
is stored, no stored seqno is ever undone. -/
theorem reopen_keeps_progress (h : System.opened config stored checkpoints = .ok s) :
    (∀ acts t starts reply after, Machine.run step (start s frozen) acts = some t →
      t.phase = .opening starts → t.NoRollback (.accept reply) →
      t.system.acceptReopenedGeneration starts t.frozenEndSeqnos reply = (.ok (), after) →
      (t.system.Advances after ↔ t.Unmoved (.accept reply))) ∧
    ∀ before since t u, Machine.run step (start s frozen) before = some t →
      Machine.run step t since = some u →
      Machine.Allowed step NoRollback (start s frozen) (before ++ since) →
      Machine.Allowed step Unmoved (start s frozen) (before ++ since) →
      t.system.Advances u.system ∧
      ((∀ (v : UInt16) c d, stored[v]? = some c → checkpoints[v]? = some d → c.seqno ≤ d.seqno) →
        t.system.StoreAdvances u.system) ∧
      ∀ token rest outcome c, since = .acknowledge token :: rest →
        (t.system.state.acknowledge token).1 = .ok outcome → outcome.advancedTo = some c →
        ∃ q, u.system.state.partitions[token.vbucket]? = some q ∧ c.seqno ≤ q.processed.seqno := by
  constructor
  · intro acts t starts reply after hr hphase hno haccept
    exact (run_inv h hr).accept_iff hphase hno haccept
  · intro before since t u hbefore hsince hno hun
    obtain ⟨hnoBefore, hnoSince⟩ := (Machine.allowed_append hbefore).1 hno
    obtain ⟨hunBefore, hunSince⟩ := (Machine.allowed_append hbefore).1 hun
    obtain ⟨hinv, -, hbehind⟩ := run_advances (start_inv h) hbefore hnoBefore hunBefore
    obtain ⟨-, hadv, hstore⟩ := run_advances hinv hsince hnoSince hunSince
    refine ⟨hadv, fun hstart => (hstore (hbehind (start_storeBehind h hstart)).1).2, ?_⟩
    rintro token rest outcome c rfl hok hc
    obtain ⟨w, hw, hrest⟩ := Machine.run_cons_iff.1 hsince
    obtain ⟨q, hq, rfl⟩ := acknowledge_advancedTo hw hok hc
    obtain ⟨-, hnoRest⟩ := (Machine.allowed_cons hw).1 hnoSince
    obtain ⟨-, hunRest⟩ := (Machine.allowed_cons hw).1 hunSince
    exact (run_advances (hinv.step hw) hrest hnoRest hunRest).2.1.forth _ q hq

def sampleEnds : BTreeMap UInt16 Nat := (∅ : BTreeMap UInt16 Nat).insert 7 100

def sampleReply (position : DcpCheckpoint) : OpenedGeneration :=
  { effectiveCheckpoints := (∅ : BTreeMap UInt16 DcpCheckpoint).insert 7 position
    endSeqnos := sampleEnds
    streamCount := 1 }

def sampleCapture : List ReopenAction :=
  [.track (System.sampleMarker 7 9), .track (.seqNoAdvanced ⟨7, 1⟩), .leave, .capture]

def sampleFlush (i : Nat) (entry : DirtyCheckpoint) : List ReopenAction :=
  [.flush .begin, .flush (.acquire i), .flush (.snapshot i), .flush (.spawn i),
    .flush (.write i entry), .flush (.finish i (.ok ())), .flush (.complete i)]

theorem reopen_keeps_progress_sample : ∃ t u,
    Machine.run step (start System.sampleOpened sampleEnds)
      [.track (System.sampleMarker 7 9), .track (.seqNoAdvanced ⟨7, 1⟩)] = some t ∧
    Machine.run step t [.acknowledge ⟨7, 1, 1⟩, .leave, .capture,
      .accept (sampleReply (System.samplePosition 7 1 9))] = some u ∧
    t.system.Advances u.system ∧ t.system.StoreAdvances u.system := by
  have hopened : System.opened System.sampleConfig ∅ (System.sampleStart 7) =
      .ok System.sampleOpened := rfl
  have hrun : (Machine.run step (start System.sampleOpened sampleEnds)
      ([.track (System.sampleMarker 7 9), .track (.seqNoAdvanced ⟨7, 1⟩)] ++
        [.acknowledge ⟨7, 1, 1⟩, .leave, .capture,
          .accept (sampleReply (System.samplePosition 7 1 9))])).isSome := by decide
  obtain ⟨u, hu⟩ := Option.isSome_iff_exists.1 hrun
  obtain ⟨t, ht, hsince⟩ := Machine.run_append.1 hu
  obtain ⟨hadv, hstore, -⟩ := (reopen_keeps_progress hopened).2 _ _ t u ht hsince
    (by decide) (by decide)
  exact ⟨t, u, ht, hsince, hadv, hstore (by simp)⟩

/-- The delivery is acknowledged and saved after the capture, and the reopen undoes both. -/
theorem reopen_undoes_acknowledgement : ∃ t u,
    Machine.run step (start System.sampleOpened sampleEnds) (sampleCapture ++
      [.acknowledge ⟨7, 1, 1⟩] ++ sampleFlush 0 ⟨7, System.samplePosition 7 1 9, 2⟩) = some t ∧
    Machine.run step t (.accept (sampleReply (System.samplePosition 7 0 0)) ::
      sampleFlush 1 ⟨7, System.samplePosition 7 0 0, 3⟩) = some u ∧
    t.NoRollback (.accept (sampleReply (System.samplePosition 7 0 0))) ∧
    t.system.processed? 7 = some (System.samplePosition 7 1 9) ∧
    u.system.processed? 7 = some (System.samplePosition 7 0 0) ∧
    t.system.store[(7 : UInt16)]? = some (System.samplePosition 7 1 9) ∧
    u.system.store[(7 : UInt16)]? = some (System.samplePosition 7 0 0) := by
  have hbefore : (Machine.run step (start System.sampleOpened sampleEnds) (sampleCapture ++
      [.acknowledge ⟨7, 1, 1⟩] ++ sampleFlush 0 ⟨7, System.samplePosition 7 1 9, 2⟩)).map
      (fun t => (t.system.processed? 7, t.system.store[(7 : UInt16)]?,
        decide (t.NoRollback (.accept (sampleReply (System.samplePosition 7 0 0)))))) =
      some (some (System.samplePosition 7 1 9), some (System.samplePosition 7 1 9), true) := by
    decide
  obtain ⟨t, ht, hseen⟩ := Option.map_eq_some_iff.1 hbefore
  have hafter : (Machine.run step (start System.sampleOpened sampleEnds) ((sampleCapture ++
      [.acknowledge ⟨7, 1, 1⟩] ++ sampleFlush 0 ⟨7, System.samplePosition 7 1 9, 2⟩) ++
      (.accept (sampleReply (System.samplePosition 7 0 0)) ::
        sampleFlush 1 ⟨7, System.samplePosition 7 0 0, 3⟩))).map
      (fun u => (u.system.processed? 7, u.system.store[(7 : UInt16)]?)) =
      some (some (System.samplePosition 7 0 0), some (System.samplePosition 7 0 0)) := by
    decide
  obtain ⟨u, hu, hend⟩ := Option.map_eq_some_iff.1 hafter
  obtain ⟨t', ht', hu⟩ := Machine.run_append.1 hu
  cases ht.symm.trans ht'
  simp only [Prod.mk.injEq, decide_eq_true_eq] at hseen hend
  exact ⟨t, u, ht, hu, hseen.2.2, hseen.1, hend.1, hseen.2.1, hend.2⟩

end Reopening

end RustDcp
