import RustDcp.ClientLifecycle
import RustDcp.Exclusion

namespace RustDcp
set_option autoImplicit true

open Exclusion

def SubscribePhase.reserves : SubscribePhase → Bool
  | .reserved | .prepared | .locked | .discarding | .passed | .unwinding _ => true
  | _ => false

def SubscribePhase.holdsLock : SubscribePhase → Bool
  | .locked | .discarding | .passed | .spawned _ | .stored _ | .committed _ => true
  | _ => false

def SubscribePhase.activates : SubscribePhase → Bool
  | .passed | .spawned _ | .stored _ | .committed _ => true
  | _ => false

def ClosePhase.holdsLock : ClosePhase → Bool
  | .locked | .marked => true
  | _ => false

/-- The runtime is running: it was spawned and `run_subscription` is not over. -/
def SubscriptionTask.live (task : SubscriptionTask) : Bool :=
  task.phase = .spawned ∨ task.phase = .running

def Runs (tasks : List SubscriptionTask) (runtime : Nat) : Prop :=
  ∃ task, tasks[runtime]? = some task ∧ task.live = true

def Closing (closed : Bool) (tasks : List SubscriptionTask) : ClosePhase → Prop
  | .marked => closed = true
  | .waiting runtime wait => closed = true ∧ (∀ other, Runs tasks other → other = runtime) ∧
      (wait = .done → ¬ Runs tasks runtime)
  | .stopping | .returned => closed = true ∧ ∀ runtime, ¬ Runs tasks runtime
  | .starting | .locked | .dropped => True

theorem SubscribePhase.holdsLock_of_activates {phase : SubscribePhase}
    (h : phase.activates = true) :
    phase.holdsLock = true := by
  cases phase <;> first | rfl | cases h

theorem Closing.mono (h : Closing closed tasks phase) (hclosed : closed = true → closed' = true)
    (hlive : ∀ runtime, Runs tasks' runtime → Runs tasks runtime) :
    Closing closed' tasks' phase := by
  cases phase with
  | marked => exact hclosed h
  | waiting runtime wait =>
    obtain ⟨hmarked, honly, hdone⟩ := h
    exact ⟨hclosed hmarked, fun other hother => honly other (hlive other hother),
      fun heq hother => hdone heq (hlive runtime hother)⟩
  | stopping => exact ⟨hclosed h.1, fun runtime hruntime => h.2 runtime (hlive runtime hruntime)⟩
  | returned => exact ⟨hclosed h.1, fun runtime hruntime => h.2 runtime (hlive runtime hruntime)⟩
  | starting => trivial
  | locked => trivial
  | dropped => trivial

namespace DcpClient

/-- Who owns the flag and the lifecycle lock, and what that means for the runtimes. -/
structure Safe (c : DcpClient) : Prop where
  owner : c.subscribes.countP (·.reserves) + c.tasks.countP (·.live) = c.active.toNat
  lock : c.subscribes.countP (·.holdsLock) + c.closes.countP (·.holdsLock) = c.lifecycle.toNat
  fenced : c.closed = true → ∀ (i : Nat) phase, c.subscribes[i]? = some phase →
    phase.activates = false
  sent : ∀ (runtime : Nat) task, c.tasks[runtime]? = some task → task.completion = true →
    task.live = false
  newest : ∀ runtime, Runs c.tasks runtime → runtime + 1 = c.tasks.length
  spawned : ∀ (i runtime : Nat), c.subscribes[i]? = some (.spawned runtime) →
    runtime + 1 = c.tasks.length
  slot : ∀ runtime, Runs c.tasks runtime → c.subscription = some runtime ∨
    ∃ i : Nat, c.subscribes[i]? = some (.spawned runtime)
  closing : ∀ (j : Nat) phase, c.closes[j]? = some phase → Closing c.closed c.tasks phase

theorem connected_safe (policy : RollbackPolicy) : (connected policy).Safe where
  owner := rfl
  lock := rfl
  fenced := by simp [connected]
  sent := by simp [connected]
  newest := by simp [connected, Runs]
  spawned := by simp [connected]
  slot := by simp [connected, Runs]
  closing := by simp [connected]

theorem Safe.subscribe {c : DcpClient} {i : Nat} (h : c.Safe) (hi : c.subscribes[i]? = some phase)
    (hspawned : ∀ runtime, phase ≠ .spawned runtime)
    (howner : next.reserves.toNat + c.active.toNat = phase.reserves.toNat + active'.toNat)
    (hlock : next.holdsLock.toNat + c.lifecycle.toNat = phase.holdsLock.toNat + lifecycle'.toNat)
    (hfenced : c.closed = true → next.activates = false)
    (hnext : ∀ runtime, next ≠ .spawned runtime) :
    ({ c with active := active', lifecycle := lifecycle', subscribes := c.subscribes.set i next } :
      DcpClient).Safe := by
  refine ⟨?_, ?_, ?_, h.sent, h.newest, ?_, ?_, h.closing⟩
  · have hcount := countP_set (·.reserves) hi next
    have howned := h.owner
    dsimp only at hcount ⊢
    omega
  · have hcount := countP_set (·.holdsLock) hi next
    have hheld := h.lock
    dsimp only at hcount ⊢
    omega
  · intro hclosed k other hk
    rcases getElem?_set_cases hk with ⟨-, rfl⟩ | ⟨-, hk⟩
    · exact hfenced hclosed
    · exact h.fenced hclosed k other hk
  · intro k runtime hk
    rcases getElem?_set_cases hk with ⟨-, heq⟩ | ⟨-, hk⟩
    · exact absurd heq.symm (hnext runtime)
    · exact h.spawned k runtime hk
  · intro runtime hlive
    rcases h.slot runtime hlive with hslot | ⟨k, hk⟩
    · exact .inl hslot
    · refine .inr ⟨k, ?_⟩
      have hne : i ≠ k := by
        intro heq
        rw [heq, hk] at hi
        cases hi
        exact hspawned runtime rfl
      rw [List.getElem?_set_ne hne]
      exact hk

theorem live_of_set {tasks : List SubscriptionTask} {runtime : Nat}
    (htask : tasks[runtime]? = some task) (hlive : task'.live = true → task.live = true)
    (other : Nat) (h : Runs (tasks.set runtime task') other) : Runs tasks other := by
  obtain ⟨found, hfound, halive⟩ := h
  rcases getElem?_set_cases hfound with ⟨rfl, rfl⟩ | ⟨-, hfound⟩
  · exact ⟨task, htask, hlive halive⟩
  · exact ⟨found, hfound, halive⟩

theorem Safe.setTask {c : DcpClient} {runtime : Nat} (h : c.Safe)
    (htask : c.tasks[runtime]? = some task) (hlive : task'.live = true → task.live = true)
    (hsent : task'.completion = true → task'.live = false)
    (howner : task'.live.toNat + c.active.toNat = task.live.toNat + active'.toNat) :
    ({ c with active := active', tasks := c.tasks.set runtime task' } : DcpClient).Safe := by
  have hback := live_of_set htask hlive
  refine ⟨?_, h.lock, h.fenced, ?_, ?_, ?_, ?_, ?_⟩
  · have hcount := countP_set (·.live) htask task'
    have howned := h.owner
    dsimp only at hcount ⊢
    omega
  · intro other found hfound
    rcases getElem?_set_cases hfound with ⟨-, rfl⟩ | ⟨-, hfound⟩
    · exact hsent
    · exact h.sent other found hfound
  · intro other hother
    dsimp only
    rw [List.length_set]
    exact h.newest other (hback other hother)
  · intro i other hother
    dsimp only
    rw [List.length_set]
    exact h.spawned i other hother
  · intro other hother
    exact h.slot other (hback other hother)
  · intro j phase hj
    exact (h.closing j phase hj).mono id hback

theorem Safe.close {c : DcpClient} {j : Nat} (h : c.Safe) (hj : c.closes[j]? = some phase)
    (hlock : next.holdsLock.toNat + c.lifecycle.toNat = phase.holdsLock.toNat + lifecycle'.toNat)
    (hnext : Closing c.closed c.tasks next) :
    ({ c with lifecycle := lifecycle', closes := c.closes.set j next } : DcpClient).Safe := by
  refine ⟨h.owner, ?_, h.fenced, h.sent, h.newest, h.spawned, h.slot, ?_⟩
  · have hcount := countP_set (·.holdsLock) hj next
    have hheld := h.lock
    dsimp only at hcount ⊢
    omega
  · intro k other hk
    rcases getElem?_set_cases hk with ⟨-, rfl⟩ | ⟨-, hk⟩
    · exact hnext
    · exact h.closing k other hk

theorem Safe.lock_le {c : DcpClient} (h : c.Safe) : c.subscribes.countP (·.holdsLock) ≤ 1 := by
  have hheld := h.lock
  have hle := Bool.toNat_le c.lifecycle
  omega

theorem Safe.lifecycle_of_subscribe {c : DcpClient} {i : Nat} (h : c.Safe)
    (hi : c.subscribes[i]? = some phase) (hholds : phase.holdsLock = true) :
    c.lifecycle = true := by
  have hheld := h.lock
  have hpos : 0 < c.subscribes.countP (·.holdsLock) := countP_pos hi hholds
  exact Bool.toNat_eq_one.1 (by have hle := Bool.toNat_le c.lifecycle; omega)

theorem Safe.active_of_subscribe {c : DcpClient} {i : Nat} (h : c.Safe)
    (hi : c.subscribes[i]? = some phase) (hreserves : phase.reserves = true) :
    c.active = true := by
  have howned := h.owner
  have hpos : 0 < c.subscribes.countP (·.reserves) := countP_pos hi hreserves
  exact Bool.toNat_eq_one.1 (by have hle := Bool.toNat_le c.active; omega)

theorem Safe.active_of_live {c : DcpClient} (h : c.Safe) (hlive : Runs c.tasks runtime) :
    c.active = true := by
  obtain ⟨task, htask, hlive⟩ := hlive
  have howned := h.owner
  have hpos : 0 < c.tasks.countP (·.live) := countP_pos htask hlive
  exact Bool.toNat_eq_one.1 (by have hle := Bool.toNat_le c.active; omega)

theorem Safe.mark {c : DcpClient} {j : Nat} (h : c.Safe) (hj : c.closes[j]? = some .locked) :
    ({ c with closed := true, closes := c.closes.set j .marked } : DcpClient).Safe := by
  have hheld := h.lock
  have hle := Bool.toNat_le c.lifecycle
  have hpos : 0 < c.closes.countP (·.holdsLock) := countP_pos hj rfl
  refine ⟨h.owner, ?_, ?_, h.sent, h.newest, h.spawned, h.slot, ?_⟩
  · dsimp only
    rw [countP_set_eq (·.holdsLock) hj .marked rfl]
    exact hheld
  · intro _ i phase hi
    rw [Bool.eq_false_iff]
    intro hactivates
    have hsubscribe : 0 < c.subscribes.countP (·.holdsLock) :=
      countP_pos hi (SubscribePhase.holdsLock_of_activates hactivates)
    omega
  · intro k other hk
    rcases getElem?_set_cases hk with ⟨-, rfl⟩ | ⟨-, hk⟩
    · rfl
    · exact (h.closing k other hk).mono (fun _ => rfl) fun _ hlive => hlive

end DcpClient

theorem Closing.of_open (h : Closing false tasks phase) : Closing closed' tasks' phase := by
  cases phase with
  | marked => cases h
  | waiting runtime wait => cases h.1
  | stopping => cases h.1
  | returned => cases h.1
  | starting => trivial
  | locked => trivial
  | dropped => trivial

namespace DcpClient

theorem not_live_of_countP {tasks : List SubscriptionTask} (h : tasks.countP (·.live) = 0)
    (runtime : Nat) : ¬ Runs tasks runtime := by
  rintro ⟨task, htask, hlive⟩
  exact absurd h (Nat.ne_of_gt (countP_pos htask hlive))

theorem Safe.spawn {c : DcpClient} {i : Nat} (h : c.Safe) (hi : c.subscribes[i]? = some .passed)
    (hlive : task.live = true) (hsent : task.completion = false) :
    ({ c with
      tasks := c.tasks ++ [task]
      subscribes := c.subscribes.set i (.spawned c.tasks.length) } : DcpClient).Safe := by
  have howned := h.owner
  have hle := Bool.toNat_le c.active
  have hreserved : 0 < c.subscribes.countP (·.reserves) := countP_pos hi rfl
  have hnone : ∀ runtime, ¬ Runs c.tasks runtime := not_live_of_countP (by omega)
  have hopen : c.closed = false := by
    rw [Bool.eq_false_iff]
    intro hclosed
    cases h.fenced hclosed i .passed hi
  have hlast : ∀ runtime, Runs (c.tasks ++ [task]) runtime → runtime = c.tasks.length := by
    rintro runtime ⟨found, hfound, halive⟩
    rw [List.getElem?_append] at hfound
    split at hfound
    · exact absurd ⟨found, hfound, halive⟩ (hnone runtime)
    · have hlt := (List.getElem?_eq_some_iff.1 hfound).1
      rw [List.length_singleton] at hlt
      omega
  have hself : (c.subscribes.set i (.spawned c.tasks.length))[i]? =
      some (.spawned c.tasks.length) :=
    List.getElem?_set_self (List.getElem?_eq_some_iff.1 hi).1
  refine ⟨?_, ?_, ?_, ?_, ?_, ?_, ?_, ?_⟩
  · have hcount : (c.subscribes.set i (.spawned c.tasks.length)).countP (·.reserves) + 1 =
        c.subscribes.countP (·.reserves) := countP_set (·.reserves) hi (.spawned c.tasks.length)
    dsimp only
    rw [List.countP_append, List.countP_singleton, if_pos hlive]
    omega
  · dsimp only
    rw [countP_set_eq (·.holdsLock) hi (.spawned c.tasks.length) rfl]
    exact h.lock
  · intro hclosed
    cases hopen.symm.trans hclosed
  · intro runtime found hfound hcompletion
    rcases List.mem_append.1 (List.mem_of_getElem? hfound) with hold | hnew
    · obtain ⟨k, hk⟩ := List.mem_iff_getElem?.1 hold
      exact h.sent k found hk hcompletion
    · rw [List.mem_singleton.1 hnew, hsent] at hcompletion
      cases hcompletion
  · intro runtime hruntime
    rw [hlast runtime hruntime]
    simp
  · intro k runtime hk
    rcases getElem?_set_cases hk with ⟨-, heq⟩ | ⟨hne, hk⟩
    · cases heq
      simp
    · -- two calls would hold the lock
      exact absurd (holder_unique h.lock_le hi hk rfl rfl) hne
  · intro runtime hruntime
    rw [hlast runtime hruntime]
    exact .inr ⟨i, hself⟩
  · intro j phase hj
    have hclosing := h.closing j phase hj
    rw [hopen] at hclosing
    exact hclosing.of_open

theorem Safe.store {c : DcpClient} {i : Nat} (h : c.Safe)
    (hi : c.subscribes[i]? = some (.spawned runtime)) :
    ({ c with
      subscription := some runtime
      subscribes := c.subscribes.set i (.stored runtime) } : DcpClient).Safe := by
  refine ⟨?_, ?_, ?_, h.sent, h.newest, ?_, ?_, h.closing⟩
  · dsimp only
    rw [countP_set_eq (·.reserves) hi (.stored runtime) rfl]
    exact h.owner
  · dsimp only
    rw [countP_set_eq (·.holdsLock) hi (.stored runtime) rfl]
    exact h.lock
  · intro hclosed
    cases h.fenced hclosed i _ hi
  · intro k other hk
    rcases getElem?_set_cases hk with ⟨-, heq⟩ | ⟨-, hk⟩
    · cases heq
    · exact h.spawned k other hk
  · intro other hother
    have hnewest := h.newest other hother
    have hspawned := h.spawned i runtime hi
    have heq : other = runtime := by omega
    exact .inl (by rw [heq])

theorem subscribeStep_safe {c : DcpClient} {i : Nat} (h : c.Safe)
    (hi : c.subscribes[i]? = some phase)
    (hnext : c.subscribeNext prepared phase = some (d, next)) :
    ({ d with subscribes := d.subscribes.set i next } : DcpClient).Safe := by
  have hclosed : phase.activates = true → c.closed = true → False := by
    intro hactivates hclosed
    cases (h.fenced hclosed i phase hi).symm.trans hactivates
  cases phase with
  | starting spec =>
    simp only [subscribeNext] at hnext
    split at hnext
    · cases hnext
      exact h.subscribe hi (by simp) rfl rfl (fun _ => rfl) (by simp)
    · cases hnext
      exact h.subscribe hi (by simp) rfl rfl (fun _ => rfl) (by simp)
  | validated =>
    simp only [subscribeNext] at hnext
    split at hnext
    · cases hnext
      exact h.subscribe hi (by simp) rfl rfl (fun _ => rfl) (by simp)
    · rename_i hactive
      rw [Bool.not_eq_true] at hactive
      cases hnext
      exact h.subscribe hi (by simp) (by rw [hactive]; rfl) rfl (fun _ => rfl) (by simp)
  | reserved =>
    simp only [subscribeNext] at hnext
    split at hnext
    · cases hnext
      exact h.subscribe hi (by simp) rfl rfl (fun _ => rfl) (by simp)
    · cases hnext
      exact h.subscribe hi (by simp) rfl rfl (fun _ => rfl) (by simp)
  | prepared =>
    simp only [subscribeNext] at hnext
    split at hnext
    · cases hnext
    · rename_i hlifecycle
      rw [Bool.not_eq_true] at hlifecycle
      cases hnext
      exact h.subscribe hi (by simp) rfl (by rw [hlifecycle]; rfl) (fun _ => rfl) (by simp)
  | locked =>
    simp only [subscribeNext] at hnext
    split at hnext
    · cases hnext
      exact h.subscribe hi (by simp) rfl rfl (fun _ => rfl) (by simp)
    · rename_i hopen
      cases hnext
      exact h.subscribe hi (by simp) rfl rfl (fun hclosed => absurd hclosed hopen) (by simp)
  | discarding =>
    cases hnext
    have hheld : c.lifecycle = true := h.lifecycle_of_subscribe hi rfl
    exact h.subscribe hi (by simp) rfl (by rw [hheld]; rfl) (fun _ => rfl) (by simp)
  | passed =>
    cases hnext
    exact h.spawn hi rfl rfl
  | spawned runtime =>
    cases hnext
    exact h.store hi
  | stored runtime =>
    cases hnext
    exact h.subscribe hi (by simp) rfl rfl (fun hyes => (hclosed rfl hyes).elim) (by simp)
  | committed runtime =>
    cases hnext
    have hheld : c.lifecycle = true := h.lifecycle_of_subscribe hi rfl
    exact h.subscribe hi (by simp) rfl (by rw [hheld]; rfl) (fun _ => rfl) (by simp)
  | unwinding error =>
    cases hnext
    have howned : c.active = true := h.active_of_subscribe hi rfl
    exact h.subscribe hi (by simp) (by rw [howned]; rfl) rfl (fun _ => rfl) (by simp)
  | returned runtime => cases hnext
  | failed error => cases hnext

theorem taskStep_safe {c : DcpClient} {runtime : Nat} (h : c.Safe)
    (htask : c.tasks[runtime]? = some task) (hnext : c.taskNext panics task = some (d, next)) :
    (d.setTask runtime next).Safe := by
  have hdead : task.phase ≠ .spawned → task.phase ≠ .running → task.live = false := by
    intro hspawned hrunning
    simp [SubscriptionTask.live, hspawned, hrunning]
  have hunsent : task.live = true → task.completion = true → False := by
    intro hlive hcompletion
    cases (h.sent runtime task htask hcompletion).symm.trans hlive
  rw [taskNext] at hnext
  split at hnext
  · rename_i hphase
    have hlive : task.live = true := by simp [SubscriptionTask.live, hphase]
    cases hnext
    exact h.setTask htask (fun _ => hlive) (fun hcompletion => (hunsent hlive hcompletion).elim)
      (by rw [hlive]; rfl)
  · rename_i hphase
    have hlive : task.live = true := by simp [SubscriptionTask.live, hphase]
    have howned : c.active = true := h.active_of_live ⟨task, htask, hlive⟩
    cases hnext
    exact h.setTask htask (fun _ => hlive) (fun _ => rfl) (by rw [hlive, howned]; rfl)
  · rename_i hphase
    have hlive := hdead (by rw [hphase]; simp) (by rw [hphase]; simp)
    split at hnext
    · cases hnext
      exact h.setTask htask (fun halive => by cases halive) (fun _ => rfl) (by rw [hlive]; rfl)
    · cases hnext
      exact h.setTask htask (fun halive => by cases halive) (fun _ => rfl) (by rw [hlive]; rfl)
  · rename_i hphase
    have hlive := hdead (by rw [hphase]; simp) (by rw [hphase]; simp)
    cases hnext
    exact h.setTask htask (fun halive => by cases halive) (fun _ => rfl) (by rw [hlive]; rfl)
  · cases hnext

theorem waitNext_eq_some (h : waitNext task wait = some (task', wait')) :
    task'.phase = task.phase ∧ task'.completion = task.completion ∧
      (wait' = .done → task.completion = true ∨ task.phase = .finished) := by
  cases wait with
  | locking =>
    simp only [waitNext] at h
    split at h
    · cases h
    split at h
    · cases h
      exact ⟨rfl, rfl, fun hdone => by cases hdone⟩
    · cases h
      exact ⟨rfl, rfl, fun hdone => by cases hdone⟩
  | joining =>
    simp only [waitNext] at h
    split at h
    · rename_i hfinished
      cases h
      exact ⟨rfl, rfl, fun _ => .inr hfinished⟩
    · cases h
  | watching =>
    simp only [waitNext] at h
    split at h
    · rename_i hover
      cases h
      exact ⟨rfl, rfl, fun _ => hover⟩
    · cases h
  | done => cases h

theorem live_congr {task task' : SubscriptionTask} (h : task'.phase = task.phase) :
    task'.live = task.live := by
  rw [SubscriptionTask.live, SubscriptionTask.live, h]

theorem Safe.setTask_phase {c : DcpClient} {runtime : Nat} (h : c.Safe)
    (htask : c.tasks[runtime]? = some task) (hphase : task'.phase = task.phase)
    (hcompletion : task'.completion = task.completion) : (c.setTask runtime task').Safe := by
  have hlive := live_congr hphase
  refine h.setTask htask (fun halive => hlive ▸ halive) ?_ (by rw [hlive])
  rw [hlive, hcompletion]
  exact h.sent runtime task htask

theorem Safe.waitDrop {c : DcpClient} (h : c.Safe) (runtime : Nat) (wait : WaitPhase) :
    (c.waitDrop runtime wait).Safe := by
  cases wait with
  | joining =>
    rw [DcpClient.waitDrop]
    split
    · exact h
    · rename_i task htask
      exact h.setTask_phase htask rfl rfl
  | locking => exact h
  | watching => exact h
  | done => exact h

theorem Safe.lifecycle_of_close {c : DcpClient} {j : Nat} (h : c.Safe)
    (hj : c.closes[j]? = some phase) (hholds : phase.holdsLock = true) : c.lifecycle = true := by
  have hheld := h.lock
  have hpos : 0 < c.closes.countP (·.holdsLock) := countP_pos hj hholds
  exact Bool.toNat_eq_one.1 (by have hle := Bool.toNat_le c.lifecycle; omega)

theorem Safe.slot_of_closed {c : DcpClient} (h : c.Safe) (hclosed : c.closed = true)
    (hlive : Runs c.tasks runtime) : c.subscription = some runtime := by
  rcases h.slot runtime hlive with hslot | ⟨i, hi⟩
  · exact hslot
  · cases h.fenced hclosed i _ hi

theorem waitStep_safe {c : DcpClient} {j runtime : Nat} (h : c.Safe)
    (hj : c.closes[j]? = some (.waiting runtime wait)) (htask : c.tasks[runtime]? = some task)
    (hwait : waitNext task wait = some (task', wait')) :
    ({ c.setTask runtime task' with
      closes := (c.setTask runtime task').closes.set j (.waiting runtime wait') } :
      DcpClient).Safe := by
  obtain ⟨hphase, hcompletion, hdone⟩ := waitNext_eq_some hwait
  have h' := h.setTask_phase htask hphase hcompletion
  obtain ⟨hclosed, honly, -⟩ := h'.closing j _ hj
  refine h'.close hj rfl ⟨hclosed, honly, ?_⟩
  rintro hover ⟨found, hfound, hlive⟩
  have hdead : task.live = false := by
    rcases hdone hover with hsent | hfinished
    · exact h.sent runtime task htask hsent
    · simp [SubscriptionTask.live, hfinished]
  rcases getElem?_set_cases hfound with ⟨-, rfl⟩ | ⟨hne, -⟩
  · cases hlive.symm.trans ((live_congr hphase).trans hdead)
  · exact hne rfl

theorem closeStep_safe {c : DcpClient} {j : Nat} (h : c.Safe) (hj : c.closes[j]? = some phase)
    (hnext : c.closeNext phase = some (d, next)) :
    ({ d with closes := d.closes.set j next } : DcpClient).Safe := by
  cases phase with
  | starting =>
    simp only [closeNext] at hnext
    split at hnext
    · cases hnext
    · rename_i hlifecycle
      rw [Bool.not_eq_true] at hlifecycle
      cases hnext
      exact h.close hj (by rw [hlifecycle]; rfl) trivial
  | locked =>
    cases hnext
    exact h.mark hj
  | marked =>
    have hclosed : c.closed = true := h.closing j _ hj
    have hheld : c.lifecycle = true := h.lifecycle_of_close hj rfl
    simp only [closeNext] at hnext
    split at hnext
    · rename_i hnone
      cases hnext
      refine h.close hj (by rw [hheld]; rfl) ⟨hclosed, fun runtime hlive => ?_⟩
      cases hnone.symm.trans (h.slot_of_closed hclosed hlive)
    · rename_i runtime hslot
      cases hnext
      refine h.close hj (by rw [hheld]; rfl) ⟨hclosed, fun other hlive => ?_,
        fun hdone => by cases hdone⟩
      cases hslot.symm.trans (h.slot_of_closed hclosed hlive)
      rfl
  | waiting runtime wait =>
    obtain ⟨hclosed, honly, hover⟩ := h.closing j _ hj
    have hstep : wait ≠ .done → ∃ task task' wait', c.tasks[runtime]? = some task ∧
        waitNext task wait = some (task', wait') ∧ d = c.setTask runtime task' ∧
        next = .waiting runtime wait' := by
      intro hwait
      rw [closeNext.eq_def] at hnext
      split at hnext <;> try contradiction
      · rename_i hphase
        cases hphase
        exact absurd rfl hwait
      · rename_i other wait' hphase
        cases hphase
        split at hnext
        · cases hnext
        · rename_i task htask
          obtain ⟨⟨task', wait'⟩, hwaits, heq⟩ := Option.map_eq_some_iff.1 hnext
          cases heq
          exact ⟨task, task', wait', htask, hwaits, rfl, rfl⟩
    by_cases hwait : wait = .done
    · subst hwait
      cases hnext
      refine h.close hj rfl ⟨hclosed, fun other hlive => ?_⟩
      rw [honly other hlive] at hlive
      exact hover rfl hlive
    · obtain ⟨task, task', wait', htask, hwaits, rfl, rfl⟩ := hstep hwait
      exact waitStep_safe h hj htask hwaits
  | stopping =>
    have hover : Closing c.closed c.tasks .stopping := h.closing j _ hj
    cases hnext
    exact h.close hj rfl hover
  | returned => cases hnext
  | dropped => cases hnext

theorem closeDrop_safe {c : DcpClient} {j : Nat} (h : c.Safe) (hj : c.closes[j]? = some phase)
    (hnext : c.closeDropped phase = some (d, next)) :
    ({ d with closes := d.closes.set j next } : DcpClient).Safe := by
  cases phase with
  | starting =>
    cases hnext
    exact h.close hj rfl trivial
  | locked =>
    have hheld : c.lifecycle = true := h.lifecycle_of_close hj rfl
    cases hnext
    exact h.close hj (by rw [hheld]; rfl) trivial
  | marked =>
    have hheld : c.lifecycle = true := h.lifecycle_of_close hj rfl
    cases hnext
    exact h.close hj (by rw [hheld]; rfl) trivial
  | waiting runtime wait =>
    cases hnext
    have hsame : (c.waitDrop runtime wait).closes = c.closes := by
      cases wait with
      | joining =>
        rw [DcpClient.waitDrop]
        split <;> rfl
      | locking => rfl
      | watching => rfl
      | done => rfl
    rw [← hsame] at hj
    exact (h.waitDrop runtime wait).close hj rfl trivial
  | stopping =>
    cases hnext
    exact h.close hj rfl trivial
  | returned => cases hnext
  | dropped => cases hnext

theorem Safe.step {c d : DcpClient} {a : ClientAction} (h : c.Safe) (hstep : c.step a = some d) :
    d.Safe := by
  cases a with
  | subscribe spec =>
    cases hstep
    have hold : ∀ (i : Nat) phase, (c.subscribes ++ [.starting spec])[i]? = some phase →
        c.subscribes[i]? = some phase ∨ phase = .starting spec := by
      intro i phase hi
      rw [List.getElem?_append] at hi
      split at hi
      · exact .inl hi
      · exact .inr (List.mem_singleton.1 (List.mem_of_getElem? hi))
    refine ⟨?_, ?_, ?_, h.sent, h.newest, ?_, ?_, h.closing⟩
    · dsimp only
      rw [List.countP_append]
      exact h.owner
    · dsimp only
      rw [List.countP_append]
      exact h.lock
    · intro hclosed i phase hi
      rcases hold i phase hi with hi | rfl
      · exact h.fenced hclosed i phase hi
      · rfl
    · intro i runtime hi
      rcases hold i _ hi with hi | heq
      · exact h.spawned i runtime hi
      · cases heq
    · intro runtime hlive
      rcases h.slot runtime hlive with hslot | ⟨i, hi⟩
      · exact .inl hslot
      · refine .inr ⟨i, ?_⟩
        rw [List.getElem?_append_left (List.getElem?_eq_some_iff.1 hi).1]
        exact hi
  | subscribeStep call prepared =>
    simp only [DcpClient.step] at hstep
    split at hstep
    · cases hstep
    · rename_i phase hphase
      obtain ⟨⟨next, phase'⟩, hnext, rfl⟩ := Option.map_eq_some_iff.1 hstep
      exact subscribeStep_safe h hphase hnext
  | taskStep runtime panics =>
    simp only [DcpClient.step] at hstep
    split at hstep
    · cases hstep
    · rename_i task htask
      obtain ⟨⟨next, task'⟩, hnext, rfl⟩ := Option.map_eq_some_iff.1 hstep
      exact taskStep_safe h htask hnext
  | close =>
    cases hstep
    refine ⟨h.owner, ?_, h.fenced, h.sent, h.newest, h.spawned, h.slot, ?_⟩
    · dsimp only
      rw [List.countP_append]
      exact h.lock
    · intro j phase hj
      dsimp only at hj
      rw [List.getElem?_append] at hj
      split at hj
      · exact h.closing j phase hj
      · rw [List.mem_singleton.1 (List.mem_of_getElem? hj)]
        trivial
  | closeStep call =>
    simp only [DcpClient.step] at hstep
    split at hstep
    · cases hstep
    · rename_i phase hphase
      obtain ⟨⟨next, phase'⟩, hnext, rfl⟩ := Option.map_eq_some_iff.1 hstep
      exact closeStep_safe h hphase hnext
  | closeDrop call =>
    simp only [DcpClient.step] at hstep
    split at hstep
    · cases hstep
    · rename_i phase hphase
      obtain ⟨⟨next, phase'⟩, hnext, rfl⟩ := Option.map_eq_some_iff.1 hstep
      exact closeDrop_safe h hphase hnext
  | handleClose runtime =>
    cases hstep
    exact ⟨h.owner, h.lock, h.fenced, h.sent, h.newest, h.spawned, h.slot, h.closing⟩
  | handleStep call =>
    simp only [DcpClient.step] at hstep
    split at hstep
    · cases hstep
    · rename_i runtime wait hcall
      split at hstep
      · cases hstep
      · rename_i task htask
        obtain ⟨⟨task', wait'⟩, hwait, rfl⟩ := Option.map_eq_some_iff.1 hstep
        obtain ⟨hphase, hcompletion, -⟩ := waitNext_eq_some hwait
        have h' := h.setTask_phase htask hphase hcompletion
        exact ⟨h'.owner, h'.lock, h'.fenced, h'.sent, h'.newest, h'.spawned, h'.slot, h'.closing⟩
  | handleDrop call =>
    simp only [DcpClient.step] at hstep
    split at hstep
    · cases hstep
    · rename_i runtime wait hcall
      cases hstep
      have h' := h.waitDrop runtime wait
      exact ⟨h'.owner, h'.lock, h'.fenced, h'.sent, h'.newest, h'.spawned, h'.slot, h'.closing⟩

theorem run_safe (hr : Machine.run step (connected policy) acts = some s) : s.Safe :=
  Machine.run_invariant (fun _ _ _ h hstep => h.step hstep) (connected_safe policy) hr

end DcpClient

end RustDcp
