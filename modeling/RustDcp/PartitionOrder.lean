import RustDcp.CoordinatorSteps

namespace RustDcp
set_option autoImplicit true

open AckQueue

/-- The pending positions grow strictly from `processed` to the last registered one. -/
structure PartitionState.Ordered (p : PartitionState) : Prop where
  sorted : (p.processed :: p.pending.map PendingAck.checkpoint).Pairwise
    fun c d => c.seqno < d.seqno
  below : ∀ c ∈ p.processed :: p.pending.map PendingAck.checkpoint,
    c.seqno ≤ p.lastRegisteredSeqno

namespace PartitionState.Ordered

theorem new (c : DcpCheckpoint) : (PartitionState.new c).Ordered :=
  ⟨by simp [PartitionState.new], by simp [PartitionState.new]⟩

theorem rebase (p : PartitionState) (c : DcpCheckpoint) : (p.rebase c).Ordered :=
  ⟨by simp [PartitionState.rebase], by simp [PartitionState.rebase]⟩

theorem frame (h : Ordered p) (hp : q.processed = p.processed) (hpending : q.pending = p.pending)
    (hlast : q.lastRegisteredSeqno = p.lastRegisteredSeqno) : Ordered q := by
  constructor
  · rw [hp, hpending]
    exact h.sorted
  · rw [hp, hpending, hlast]
    exact h.below

theorem register (h : Ordered p) (hreg : p.Registers event n window q) : Ordered q := by
  obtain ⟨-, habove, -, -, rfl⟩ := hreg
  have hlt : ∀ c ∈ p.processed :: p.pending.map PendingAck.checkpoint, c.seqno < n :=
    fun c hc => (h.below c hc).trans_lt habove
  constructor
  · rw [List.map_append, ← List.cons_append, List.pairwise_append]
    refine ⟨h.sorted, by simp, ?_⟩
    intro c hc d hd
    obtain rfl := List.mem_singleton.1 hd
    simpa using hlt c hc
  · intro c hc
    rw [List.map_append, ← List.cons_append, List.mem_append] at hc
    rcases hc with hc | hc
    · exact (hlt c hc).le
    · obtain rfl := List.mem_singleton.1 hc
      simp

theorem trackEvent (h : Ordered p) (ht : p.trackEvent event = .ok (token, q)) :
    Ordered q ∧ q.processed = p.processed := by
  rcases trackEvent_cases ht with ⟨marker, -, -, -, -, rfl⟩ | ⟨-, -, -, rfl⟩ |
    ⟨n, window, -, -, hreg⟩
  · exact ⟨h.frame rfl rfl rfl, rfl⟩
  · exact ⟨h, rfl⟩
  · exact ⟨h.register hreg, by rw [hreg.eq]⟩

theorem acknowledge (h : Ordered p) (hack : p.acknowledge token = (result, q)) :
    Ordered q ∧ p.processed.seqno ≤ q.processed.seqno := by
  rcases acknowledge_cases hack with ⟨-, rfl, -⟩ | ⟨marked, generation, hmarked, rfl, -⟩
  · exact ⟨h, le_rfl⟩
  have hsorted := h.sorted
  rw [← markAcknowledged_checkpoints hmarked] at hsorted
  have hreleased := pairwise_released PendingAck.acknowledged hsorted
  refine ⟨⟨hreleased, ?_⟩, key_le_released DcpCheckpoint.seqno _ hsorted⟩
  intro c hc
  apply h.below
  rw [← markAcknowledged_checkpoints hmarked]
  rcases List.mem_cons.1 hc with rfl | hc
  · rcases released_eq PendingAck.acknowledged PendingAck.checkpoint p.processed marked with
      heq | ⟨entry, hentry, heq⟩
    · rw [heq]
      exact List.mem_cons_self
    · rw [heq]
      exact List.mem_cons_of_mem _ (List.mem_map_of_mem hentry)
  · obtain ⟨entry, hentry, rfl⟩ := List.mem_map.1 hc
    exact List.mem_cons_of_mem _ (List.mem_map_of_mem (List.dropWhile_subset _ hentry))

end PartitionState.Ordered

end RustDcp
