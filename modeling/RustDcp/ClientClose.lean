import RustDcp.ClientLifecycleSafety

namespace RustDcp
set_option autoImplicit true

open Exclusion

namespace DcpClient

/-- The client stays closed, and a runtime that is live was live before. -/
structure Settles (c d : DcpClient) : Prop where
  closed : d.closed = true
  live : ∀ runtime, Runs d.tasks runtime → Runs c.tasks runtime

theorem setTask_settles {c : DcpClient} {runtime : Nat} (hclosed : c.closed = true)
    (htask : c.tasks[runtime]? = some task) (hlive : task'.live = true → task.live = true) :
    c.Settles (c.setTask runtime task') :=
  ⟨hclosed, live_of_set htask hlive⟩

theorem waitDrop_settles {c : DcpClient} (hclosed : c.closed = true) (runtime : Nat)
    (wait : WaitPhase) : c.Settles (c.waitDrop runtime wait) := by
  have hsame : c.Settles c := ⟨hclosed, fun _ hlive => hlive⟩
  cases wait with
  | joining =>
    rw [waitDrop]
    split
    · exact hsame
    · rename_i task htask
      exact setTask_settles hclosed htask id
  | locking => exact hsame
  | watching => exact hsame
  | done => exact hsame

theorem subscribeNext_settles {c : DcpClient} (hclosed : c.closed = true)
    (hphase : phase.activates = false)
    (hnext : c.subscribeNext prepared phase = some (d, next)) : c.Settles d := by
  have hsame : d.closed = c.closed ∧ d.tasks = c.tasks := by
    cases phase with
    | passed => cases hphase
    | spawned runtime => cases hphase
    | stored runtime => cases hphase
    | committed runtime => cases hphase
    | returned runtime => cases hnext
    | failed error => cases hnext
    | discarding => cases hnext; exact ⟨rfl, rfl⟩
    | unwinding error => cases hnext; exact ⟨rfl, rfl⟩
    | starting spec =>
      simp only [subscribeNext] at hnext
      split at hnext <;> cases hnext <;> exact ⟨rfl, rfl⟩
    | validated =>
      simp only [subscribeNext] at hnext
      split at hnext <;> cases hnext <;> exact ⟨rfl, rfl⟩
    | reserved =>
      simp only [subscribeNext] at hnext
      split at hnext <;> cases hnext <;> exact ⟨rfl, rfl⟩
    | prepared =>
      simp only [subscribeNext] at hnext
      split at hnext <;> cases hnext
      exact ⟨rfl, rfl⟩
    | locked =>
      simp only [subscribeNext] at hnext
      split at hnext <;> cases hnext <;> exact ⟨rfl, rfl⟩
  exact ⟨hsame.1.trans hclosed, fun runtime hlive => hsame.2 ▸ hlive⟩

theorem taskNext_settles {c : DcpClient} {runtime : Nat} (hclosed : c.closed = true)
    (htask : c.tasks[runtime]? = some task) (hnext : c.taskNext panics task = some (d, next)) :
    c.Settles (d.setTask runtime next) := by
  rw [taskNext] at hnext
  split at hnext
  · rename_i hphase
    cases hnext
    exact setTask_settles hclosed htask fun _ => by simp [SubscriptionTask.live, hphase]
  · rename_i hphase
    cases hnext
    exact ⟨hclosed, live_of_set htask fun _ => by simp [SubscriptionTask.live, hphase]⟩
  · split at hnext
    · cases hnext
      exact setTask_settles hclosed htask fun hlive => by cases hlive
    · cases hnext
      exact setTask_settles hclosed htask fun hlive => by cases hlive
  · cases hnext
    exact setTask_settles hclosed htask fun hlive => by cases hlive
  · cases hnext

theorem closeNext_settles {c : DcpClient} (hclosed : c.closed = true)
    (hnext : c.closeNext phase = some (d, next)) : c.Settles d := by
  have hsame : c.Settles c := ⟨hclosed, fun _ hlive => hlive⟩
  rw [closeNext.eq_def] at hnext
  split at hnext
  · split at hnext
    · cases hnext
    · cases hnext
      exact ⟨hclosed, hsame.live⟩
  · cases hnext
    exact ⟨rfl, hsame.live⟩
  · split at hnext
    · cases hnext
      exact ⟨hclosed, hsame.live⟩
    · cases hnext
      exact ⟨hclosed, hsame.live⟩
  · cases hnext
    exact hsame
  · split at hnext
    · cases hnext
    · rename_i task htask
      obtain ⟨⟨task', wait'⟩, hwait, heq⟩ := Option.map_eq_some_iff.1 hnext
      cases heq
      refine setTask_settles hclosed htask ?_
      rw [live_congr (waitNext_eq_some hwait).1]
      exact id
  · cases hnext
    exact hsame
  · cases hnext
  · cases hnext

theorem Safe.settles {c d : DcpClient} {a : ClientAction} (h : c.Safe) (hclosed : c.closed = true)
    (hstep : c.step a = some d) : c.Settles d := by
  have hsame : c.Settles c := ⟨hclosed, fun _ hlive => hlive⟩
  cases a with
  | subscribe spec =>
    cases hstep
    exact ⟨hclosed, hsame.live⟩
  | subscribeStep call prepared =>
    simp only [DcpClient.step] at hstep
    split at hstep
    · cases hstep
    · rename_i phase hphase
      obtain ⟨⟨next, phase'⟩, hnext, rfl⟩ := Option.map_eq_some_iff.1 hstep
      have hsettles := subscribeNext_settles hclosed (h.fenced hclosed call phase hphase) hnext
      exact ⟨hsettles.closed, hsettles.live⟩
  | taskStep runtime panics =>
    simp only [DcpClient.step] at hstep
    split at hstep
    · cases hstep
    · rename_i task htask
      obtain ⟨⟨next, task'⟩, hnext, rfl⟩ := Option.map_eq_some_iff.1 hstep
      exact taskNext_settles hclosed htask hnext
  | close =>
    cases hstep
    exact ⟨hclosed, hsame.live⟩
  | closeStep call =>
    simp only [DcpClient.step] at hstep
    split at hstep
    · cases hstep
    · obtain ⟨⟨next, phase'⟩, hnext, rfl⟩ := Option.map_eq_some_iff.1 hstep
      have hsettles := closeNext_settles hclosed hnext
      exact ⟨hsettles.closed, hsettles.live⟩
  | closeDrop call =>
    simp only [DcpClient.step] at hstep
    split at hstep
    · cases hstep
    · rename_i phase hphase
      obtain ⟨⟨next, phase'⟩, hnext, rfl⟩ := Option.map_eq_some_iff.1 hstep
      cases phase with
      | waiting runtime wait =>
        cases hnext
        have hsettles := waitDrop_settles hclosed runtime wait
        exact ⟨hsettles.closed, hsettles.live⟩
      | starting => cases hnext; exact ⟨hclosed, hsame.live⟩
      | locked => cases hnext; exact ⟨hclosed, hsame.live⟩
      | marked => cases hnext; exact ⟨hclosed, hsame.live⟩
      | stopping => cases hnext; exact ⟨hclosed, hsame.live⟩
      | returned => cases hnext
      | dropped => cases hnext
  | handleClose runtime =>
    cases hstep
    exact ⟨hclosed, hsame.live⟩
  | handleStep call =>
    simp only [DcpClient.step] at hstep
    split at hstep
    · cases hstep
    · rename_i runtime wait hcall
      split at hstep
      · cases hstep
      · rename_i task htask
        obtain ⟨⟨task', wait'⟩, hwait, rfl⟩ := Option.map_eq_some_iff.1 hstep
        refine ⟨hclosed, live_of_set htask ?_⟩
        rw [live_congr (waitNext_eq_some hwait).1]
        exact id
  | handleDrop call =>
    simp only [DcpClient.step] at hstep
    split at hstep
    · cases hstep
    · rename_i runtime wait hcall
      cases hstep
      have hsettles := waitDrop_settles hclosed runtime wait
      exact ⟨hsettles.closed, hsettles.live⟩

theorem Safe.run_settles {c d : DcpClient} (h : c.Safe) (hclosed : c.closed = true)
    (hr : Machine.run DcpClient.step c acts = some d) : c.Settles d := by
  have hinv : d.Safe ∧ c.Settles d := by
    refine Machine.run_invariant (P := fun d => d.Safe ∧ c.Settles d) ?_
      ⟨h, hclosed, fun _ hlive => hlive⟩ hr
    rintro s a t ⟨hs, hsettles⟩ hstep
    have hnext := hs.settles hsettles.closed hstep
    exact ⟨hs.step hstep, hnext.closed,
      fun runtime hlive => hsettles.live runtime (hnext.live runtime hlive)⟩
  exact hinv.2

theorem Safe.live_unique {c : DcpClient} (h : c.Safe) (hlive : Runs c.tasks runtime)
    (hlive' : Runs c.tasks runtime') : runtime = runtime' := by
  have hnewest := h.newest runtime hlive
  have hnewest' := h.newest runtime' hlive'
  omega

theorem Safe.active_iff {c : DcpClient} (h : c.Safe) : c.active = true ↔
    (∃ phase ∈ c.subscribes, phase.reserves = true) ∨ ∃ runtime, Runs c.tasks runtime := by
  constructor
  · intro hactive
    have howned := h.owner
    rw [hactive, Bool.toNat_true] at howned
    by_cases hreserved : 0 < c.subscribes.countP (·.reserves)
    · exact .inl (List.countP_pos_iff.1 hreserved)
    · obtain ⟨task, hmem, hlive⟩ := List.countP_pos_iff.1 (by omega : 0 < c.tasks.countP (·.live))
      obtain ⟨runtime, hruntime⟩ := List.mem_iff_getElem?.1 hmem
      exact .inr ⟨runtime, task, hruntime, hlive⟩
  · rintro (⟨phase, hmem, hreserves⟩ | ⟨runtime, hlive⟩)
    · obtain ⟨i, hi⟩ := List.mem_iff_getElem?.1 hmem
      exact h.active_of_subscribe hi hreserves
    · exact h.active_of_live hlive

theorem step_failed {c d : DcpClient} {call : Nat} (hphase : c.subscribes[call]? = some phase)
    (hreserves : phase.reserves = true) (hstep : c.step (.subscribeStep call prepared) = some d)
    (hfailed : d.subscribes[call]? = some (.failed error)) : d.active = false := by
  simp only [DcpClient.step, hphase] at hstep
  obtain ⟨⟨client, next⟩, hnext, rfl⟩ := Option.map_eq_some_iff.1 hstep
  have hlt := (List.getElem?_eq_some_iff.1 hphase).1
  have hsame : client.subscribes = c.subscribes → next = .failed error := by
    intro hsame
    dsimp only at hfailed
    rw [hsame, List.getElem?_set_self hlt] at hfailed
    exact Option.some.inj hfailed
  cases phase with
  | unwinding error => cases hnext; rfl
  | reserved =>
    simp only [subscribeNext] at hnext
    split at hnext <;> cases hnext <;> cases hsame rfl
  | prepared =>
    simp only [subscribeNext] at hnext
    split at hnext <;> cases hnext
    cases hsame rfl
  | locked =>
    simp only [subscribeNext] at hnext
    split at hnext <;> cases hnext <;> cases hsame rfl
  | discarding => cases hnext; cases hsame rfl
  | passed => cases hnext; cases hsame rfl
  | starting spec => cases hreserves
  | validated => cases hreserves
  | spawned runtime => cases hreserves
  | stored runtime => cases hreserves
  | committed runtime => cases hreserves
  | returned runtime => cases hreserves
  | failed error => cases hreserves

/-- In every interleaving: one runtime at a time, whose call or guard owns the flag; a failed call
gives it back; no runtime becomes live after the client is marked closed, and none is live when
`close` returns. -/
theorem one_subscription (hr : Machine.run step (connected policy) acts = some s) :
    (∀ runtime runtime', Runs s.tasks runtime → Runs s.tasks runtime' → runtime = runtime') ∧
    (s.active = true ↔
      (∃ phase ∈ s.subscribes, phase.reserves = true) ∨ ∃ runtime, Runs s.tasks runtime) ∧
    (∀ (call : Nat) phase prepared error t, s.subscribes[call]? = some phase →
      phase.reserves = true → s.step (.subscribeStep call prepared) = some t →
      t.subscribes[call]? = some (.failed error) → t.active = false) ∧
    (s.closed = true → ∀ more t, Machine.run step s more = some t →
      t.closed = true ∧ ∀ runtime, Runs t.tasks runtime → Runs s.tasks runtime) ∧
    ∀ call : Nat, s.closes[call]? = some .returned → ∀ runtime, ¬ Runs s.tasks runtime := by
  have h := run_safe hr
  refine ⟨fun runtime runtime' hlive hlive' => h.live_unique hlive hlive', h.active_iff, ?_, ?_, ?_⟩
  · intro call phase prepared error t hphase hreserves hstep hfailed
    exact step_failed hphase hreserves hstep hfailed
  · intro hclosed more t hmore
    have hsettles := h.run_settles hclosed hmore
    exact ⟨hsettles.closed, hsettles.live⟩
  · intro call hcall
    exact (h.closing call _ hcall).2

def sampleSpec : DcpSubscriptionSpec := { streamId := none, rollbackHandler := none }

/-- A call that subscribes, a second one that finds the flag taken, and a close that waits for the
runtime of the first. -/
def sampleClient : List ClientAction :=
  [.subscribe sampleSpec, .subscribe sampleSpec, .subscribeStep 0 (.ok ()),
   .subscribeStep 1 (.ok ()),
    .subscribeStep 0 (.ok ()), .subscribeStep 1 (.ok ()), .subscribeStep 0 (.ok ()),
    .subscribeStep 0 (.ok ()), .subscribeStep 0 (.ok ()), .subscribeStep 0 (.ok ()),
    .subscribeStep 0 (.ok ()), .subscribeStep 0 (.ok ()), .subscribeStep 0 (.ok ()),
    .taskStep 0 false, .close, .closeStep 0, .closeStep 0, .closeStep 0, .closeStep 0,
    .taskStep 0 false, .taskStep 0 false, .taskStep 0 false, .closeStep 0, .closeStep 0,
    .closeStep 0]

theorem one_subscription_sample :
    ∃ s, Machine.run step (connected .stopAndReport) sampleClient = some s ∧
      s.closes.length = 1 ∧ s.tasks.length = 1 ∧ ∀ runtime, ¬ Runs s.tasks runtime := by
  have hrun : (Machine.run step (connected .stopAndReport) sampleClient).map (fun s =>
      (s.closes.length, s.tasks.length, s.closes[0]?.any fun phase => phase matches .returned)) =
      some (1, 1, true) := by
    decide +kernel
  obtain ⟨s, hs, hstate⟩ := Option.map_eq_some_iff.1 hrun
  obtain ⟨hcloses, hstate⟩ := Prod.mk.inj hstate
  obtain ⟨htasks, hreturned⟩ := Prod.mk.inj hstate
  refine ⟨s, hs, hcloses, htasks, (one_subscription hs).2.2.2.2 0 ?_⟩
  cases hclose : s.closes[0]? with
  | none =>
    rw [hclose] at hreturned
    cases hreturned
  | some phase =>
    rw [hclose] at hreturned
    cases phase <;> first | rfl | cases hreturned

end DcpClient

end RustDcp
