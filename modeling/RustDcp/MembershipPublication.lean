import RustDcp.MembershipProcess

namespace RustDcp.Membership
set_option autoImplicit true

open RegistryDocument

namespace Process

/-- The call can only return snapshots of the generation or a later one. A loaded document counts
when the member is registered in it: an unchanged document is returned without a write. -/
def PhaseNotBehind (config : MembershipConfig) (generation : Nat) : Phase → Prop
  | .loaded (some document) =>
    document.value.Registered config.identity → generation ≤ document.value.generation
  | .finished (.ok (some view)) => generation ≤ view.assignment.generation
  | _ => True

/-- The background task holds nothing older than the visible snapshot. -/
def NotBehind (config : MembershipConfig) (s : Process) : Prop :=
  ∀ view, s.visible = some view →
    match s.task with
    | .attempting i => ∀ attempt, s.registry.attempts[i]? = some attempt →
        PhaseNotBehind config view.assignment.generation attempt.phase
    | .replacing next => view.assignment.generation ≤ next.assignment.generation
    | _ => True

def visibleGeneration (s : Process) : Option Nat := s.visible.map (·.assignment.generation)

theorem Derived.le_stored (h : CasSystem.Consistent settings s) (hderived : Derived config s view) :
    ∃ current, s.stored = some current ∧
      view.assignment.generation ≤ current.value.generation := by
  obtain ⟨document, hdocument, hview⟩ := hderived
  obtain ⟨-, -, -, -, -, hgeneration, -⟩ := snapshot_chunk hview
  obtain ⟨current, hcurrent, hevolves⟩ := h.evolves_stored hdocument
  exact ⟨current, hcurrent, hgeneration ▸ hevolves.generation⟩

theorem mutate_notBehind {attempt : Attempt} {g : Nat}
    (h : PhaseNotBehind attempt.config g (.loaded revision)) (nowMillis : Nat) :
    PhaseNotBehind attempt.config g
      (attempt.mutate settings revision nowMillis).phase := by
  simp only [Attempt.mutate]
  cases hopen : openRegistry settings attempt.action attempt.config.identity revision with
  | error error => trivial
  | ok before =>
    obtain ⟨-, hbefore⟩ := openRegistry_eq_ok hopen
    dsimp only
    cases happly : attempt.action.apply before attempt.config.identity nowMillis with
    | error error => trivial
    | ok returned =>
      obtain ⟨registry, returned⟩ := returned
      obtain ⟨-, -, hview⟩ := RegistryAction.apply_spec happly
      dsimp only
      split
      · rename_i heq
        subst heq
        cases returned with
        | none => trivial
        | some view =>
          have hview := hview view rfl
          obtain ⟨-, hregistered, -⟩ := snapshot_eq_ok hview
          obtain ⟨-, -, -, -, -, hgeneration, -⟩ := snapshot_chunk hview
          rcases hbefore with ⟨document, rfl, rfl⟩ | ⟨-, -, hempty⟩
          · exact (h hregistered).trans_eq hgeneration.symm
          · obtain ⟨member, hmember, -⟩ := hregistered
            rw [hempty] at hmember
            simp at hmember
      · trivial

theorem callStep_notBehind (h : CasSystem.Consistent settings s)
    (hderived : Derived config s view) (hok : attempt.phase.Ok settings s attempt.config.identity)
    (hconfig : attempt.config = config)
    (hphase : PhaseNotBehind config view.assignment.generation attempt.phase)
    (hcall : CasSystem.CallStep settings s t attempt attempt') :
    PhaseNotBehind config view.assignment.generation attempt'.phase := by
  obtain ⟨current, hcurrent, hle⟩ := hderived.le_stored h
  cases hcall with
  | same => exact hphase
  | moved hmoves =>
    cases hmoves with
    | load =>
      rw [hcurrent]
      exact fun _ => hle
    | mutate heq nowMillis =>
      rw [heq, ← hconfig] at hphase
      rw [← hconfig]
      exact mutate_notBehind hphase nowMillis
    | conflict =>
      rw [Attempt.conflict]
      split <;> trivial
    | fault => trivial
  | @stored registry cas returned _ heq haccepts hresult =>
    rcases hresult with rfl | ⟨error, rfl⟩
    · cases returned with
      | none => trivial
      | some next =>
        rw [heq] at hok
        obtain ⟨-, -, hnext, hcas⟩ := hok
        have hsame := of_decide_eq_true haccepts
        rw [hcurrent] at hsame
        have hevolves := (hcas _ hsame.symm).2 current hcurrent rfl
        obtain ⟨-, -, -, -, -, hgeneration, -⟩ := snapshot_chunk (hnext next rfl)
        exact (hle.trans hevolves.generation).trans_eq hgeneration.symm
    · trivial

theorem NotBehind.result (h : NotBehind config s) (hvisible : s.visible = some view)
    (htask : s.task = .attempting i) (hresult : s.result? i = some (.ok (some next))) :
    view.assignment.generation ≤ next.assignment.generation := by
  have hview := h view hvisible
  rw [htask] at hview
  rw [result?] at hresult
  split at hresult
  · rename_i result hget
    cases hresult
    exact hview _ hget
  · cases hresult

/-- The visible generation does not go back from the one state to the other. -/
def Forward (s t : Process) : Prop :=
  ∀ view view', s.visible = some view → t.visible = some view' →
    view.assignment.generation ≤ view'.assignment.generation

theorem forward_of_eq (h : t.visible = s.visible) : Forward s t := by
  intro view view' hview hview'
  cases hview.symm.trans (h.symm.trans hview')
  exact Nat.le_refl _

theorem notBehind_of_task (h : ∀ i, t.task ≠ .attempting i)
    (h' : ∀ view, t.task ≠ .replacing view) :
    NotBehind config t := by
  intro view hview
  split
  · rename_i i htask
    exact absurd htask (h i)
  · rename_i next htask
    exact absurd htask (h' next)
  · trivial

theorem step_notBehind (h : Consistent settings config s) (hreturned : s.startup = .returned)
    (hbehind : NotBehind config s) (hs : step settings config s action = some t) :
    t.startup = .returned ∧ NotBehind config t ∧ Forward s t := by
  cases step_moves hs with
  | registry hregistry =>
    refine ⟨hreturned, ?_, forward_of_eq rfl⟩
    intro view hvisible
    have hview := hbehind view hvisible
    have htask := h.task
    dsimp only
    split
    · rename_i i heq
      rw [heq] at hview htask
      obtain ⟨attempt, hget, hconfig, -⟩ := htask
      obtain ⟨attempt', hget', hcall⟩ := CasSystem.step_call hregistry hget
      intro other hother
      cases hget'.symm.trans hother
      exact callStep_notBehind h.registry (h.visible view hvisible)
        (h.registry.attempts attempt (List.mem_of_getElem? hget)) hconfig (hview attempt hget) hcall
    · rename_i next heq
      rw [heq] at hview
      exact hview
    · trivial
  | tick htask hcancelled haction =>
    rename_i action
    refine ⟨hreturned, ?_, forward_of_eq rfl⟩
    intro view hvisible attempt hget
    have hnew : (s.begin config action).registry.attempts[s.registry.attempts.length]? =
        some attempt := hget
    rw [begin, List.getElem?_concat_length] at hnew
    cases hnew
    trivial
  | taskDiffers htask hresult hchanges =>
    refine ⟨hreturned, ?_, forward_of_eq rfl⟩
    intro view hvisible
    exact hbehind.result hvisible htask hresult
  | taskAgrees htask hresult hsame =>
    exact ⟨hreturned, notBehind_of_task (by simp) (by simp), forward_of_eq rfl⟩
  | taskReplace htask =>
    refine ⟨hreturned, notBehind_of_task (by simp) (by simp), ?_⟩
    intro view view' hview hview'
    cases hview'
    have hle := hbehind view hview
    rw [htask] at hle
    exact hle
  | taskError htask =>
    rename_i fatal
    refine ⟨hreturned, ?_, forward_of_eq rfl⟩
    cases fatal
    · exact notBehind_of_task (by simp) (by simp)
    · exact notBehind_of_task (by simp) (by simp)
  | cancel => exact ⟨hreturned, hbehind, forward_of_eq rfl⟩
  | taskRemove htask hcancelled =>
    exact ⟨hreturned, notBehind_of_task (by simp) (by simp), forward_of_eq rfl⟩
  | taskDone htask =>
    exact ⟨hreturned, notBehind_of_task (by simp) (by simp), forward_of_eq rfl⟩
  -- The steps of `with_store` are over.
  | register hstartup => cases hreturned.symm.trans hstartup
  | spawn hstartup => cases hreturned.symm.trans hstartup
  | refresh hstartup => cases hreturned.symm.trans hstartup
  | differs hstartup => cases hreturned.symm.trans hstartup
  | agrees hstartup => cases hreturned.symm.trans hstartup
  | replace hstartup => cases hreturned.symm.trans hstartup
  | ret hstartup => cases hreturned.symm.trans hstartup
  | fail hstartup => exact absurd hreturned hstartup.2.1

end Process

theorem heartbeat_zero {document : RegistryDocument} (hvalid : document.Valid)
    (h : document.Registered identity) : document.heartbeat identity 0 = .ok document := by
  obtain ⟨member, hget, hincarnation⟩ := h
  have hrefresh : document.refresh member identity.memberId 0 = document := by
    have hmembers : document.members.insert identity.memberId member = document.members := by
      refine Std.ExtTreeMap.ext_getElem? fun key => ?_
      simp only [Std.ExtTreeMap.getElem?_insert, Std.compare_eq_iff_eq]
      split
      · rename_i hkey
        rw [← hkey, hget]
      · rfl
    rw [refresh, Nat.max_eq_left (Nat.zero_le _), hmembers]
  simp only [heartbeat, validate_eq_ok.2 hvalid, hget]
  rw [if_neg (not_not.2 hincarnation), hrefresh]
  rfl

theorem pruneStale_zero {document : RegistryDocument} (hvalid : document.Valid) :
    document.pruneStale 0 = .ok document := by
  have hnone : (document.members.toList.filter fun pair =>
      isStale pair.2 0 document.staleAfterMillis) = [] := by
    rw [List.filter_eq_nil_iff]
    intro pair hpair hstale
    have hle := of_decide_eq_true hstale
    have hpos := hvalid.stale
    omega
  simp only [pruneStale, validate_eq_ok.2 hvalid, hnone]
  rfl

theorem mutate_zero {attempt : Attempt} {document : StoredRegistryDocument}
    (hvalid : document.value.Valid) (hhas : document.value.Has settings)
    (hregistered : document.value.Registered attempt.config.identity)
    (haction : attempt.action ∈ [RegistryAction.heartbeat, .monitor]) :
    ∃ view, document.value.snapshot attempt.config.identity = .ok view ∧
      attempt.mutate settings (some document) 0 = attempt.finish (.ok (some view)) := by
  obtain ⟨view, hview⟩ := snapshot_of_registered hvalid hregistered
  have hopen : openRegistry settings attempt.action attempt.config.identity (some document) =
      .ok document.value := by
    simp only [openRegistry, validateSettings, validate_eq_ok.2 hvalid,
      reject_eq_ok.2 (not_not.2 hhas.1), reject_eq_ok.2 (not_not.2 hhas.2)]
    rfl
  have happly : attempt.action.apply document.value attempt.config.identity 0 =
      .ok (document.value, some view) := by
    simp only [List.mem_cons, List.not_mem_nil, or_false] at haction
    rcases haction with haction | haction
    · rw [haction]
      simp only [RegistryAction.apply, heartbeat_zero hvalid hregistered]
      simp only [bind, Except.bind, hview]
      rfl
    · rw [haction]
      simp only [RegistryAction.apply, heartbeat_zero hvalid hregistered]
      simp only [bind, Except.bind, pruneStale_zero hvalid, hview]
      rfl
  refine ⟨view, hview, ?_⟩
  simp only [Attempt.mutate, hopen, happly, if_true]

namespace Process

/-- No later step makes the visible generation go back. -/
def NeverBack (settings : Settings) (config : MembershipConfig) (s : Process) : Prop :=
  ∀ later t action u, Machine.run (step settings config) s later = some t →
    step settings config t action = some u → Forward t u

theorem NeverBack.of_step (h : NeverBack settings config s)
    (hs : step settings config s action = some t) : NeverBack settings config t := by
  intro later u next v hlater hu
  exact h (action :: later) u next v (Machine.run_cons_iff.2 ⟨t, hs, hlater⟩) hu

theorem neverBack_of_notBehind (h : Consistent settings config s)
    (hreturned : s.startup = .returned)
    (hbehind : NotBehind config s) : NeverBack settings config s := by
  intro later t action u hr hs
  have hinv := Machine.run_invariant
    (P := fun s => Consistent settings config s ∧ s.startup = .returned ∧ NotBehind config s)
    (fun s action t hp hstep =>
      ⟨step_consistent hp.1 hstep, (step_notBehind hp.1 hp.2.1 hp.2.2 hstep).1,
        (step_notBehind hp.1 hp.2.1 hp.2.2 hstep).2.1⟩)
    ⟨h, hreturned, hbehind⟩ hr
  exact (step_notBehind hinv.1 hinv.2.1 hinv.2.2 hs).2.2

theorem NeverBack.replacing (h : NeverBack settings config s) (hvisible : s.visible = some view)
    (htask : s.task = .replacing next) :
    view.assignment.generation ≤ next.assignment.generation := by
  have hs : step settings config s .taskReplace =
      some { s with task := .idle, visible := some next } := by
    simp [step, htask]
  exact h [] s .taskReplace _ rfl hs view next hvisible rfl

theorem NeverBack.result (h : NeverBack settings config s) (hvisible : s.visible = some view)
    (htask : s.task = .attempting i) (hresult : s.result? i = some (.ok (some next))) :
    view.assignment.generation ≤ next.assignment.generation := by
  by_cases hchanges : s.changes next
  · have hs : step settings config s .taskCompare =
        some { s with task := .replacing next } := by
      simp [step, htask, hresult, hchanges]
    exact (h.of_step hs).replacing hvisible rfl
  · rw [changes, hvisible, decide_eq_true_eq, not_not] at hchanges
    exact Nat.le_of_eq (congrArg (·.generation) (Option.some.inj hchanges))

theorem notBehind_of_neverBack (h : Consistent settings config s)
    (hback : NeverBack settings config s) : NotBehind config s := by
  intro view hvisible
  split
  · rename_i i htask
    intro attempt hget
    have hok := h.registry.attempts attempt (List.mem_of_getElem? hget)
    have hown := h.task
    rw [htask] at hown
    obtain ⟨attempt', hget', hconfig, haction⟩ := hown
    cases hget.symm.trans hget'
    cases hphase : attempt.phase with
    | loading => trivial
    | writing registry cas returned => trivial
    | finished result =>
      match result with
      | .error error => trivial
      | .ok none => trivial
      | .ok (some next) =>
        have hresult : s.result? i = some (.ok (some next)) := by
          obtain ⟨config, action, left, phase⟩ := attempt
          cases hphase
          rw [result?, hget]
        exact hback.result hvisible htask hresult
    | loaded revision =>
      cases revision with
      | none => trivial
      | some document =>
        intro hregistered
        rw [hphase] at hok
        obtain ⟨hvalid, hhas⟩ := h.registry.valid _ hok.1
        rw [← hconfig] at hregistered
        obtain ⟨next, hnext, hmutate⟩ := mutate_zero hvalid hhas hregistered haction
        have hs : step settings config s (.registry (.mutate i 0)) = some { s with
            registry := s.registry.setAttempt i (attempt.finish (.ok (some next))) } := by
          simp [step, CasSystem.step, hget, hphase, hmutate]
        have hlt := (List.getElem?_eq_some_iff.1 hget).1
        have hresult : result? { s with
            registry := s.registry.setAttempt i (attempt.finish (.ok (some next))) } i =
            some (.ok (some next)) := by
          rw [result?, CasSystem.setAttempt, List.getElem?_set_self hlt]
          rfl
        obtain ⟨-, -, -, -, -, hgeneration, -⟩ := snapshot_chunk hnext
        exact ((hback.of_step hs).result hvisible htask hresult).trans_eq hgeneration
  · rename_i next htask
    exact hback.replacing hvisible htask
  · trivial

/-- After `with_store` has returned the visible generation never goes back exactly when, at the
return, the background task holds no older document or snapshot. -/
theorem published_never_back_iff_notBehind (settings : Settings) (config : MembershipConfig)
    (hr : Machine.run (step settings config) start actions = some s)
    (hreturned : s.startup = .returned) :
    NeverBack settings config s ↔ NotBehind config s := by
  have h : Consistent settings config s :=
    Machine.run_invariant (fun _ _ _ h hs => step_consistent h hs)
      (start_consistent settings config) hr
  exact ⟨notBehind_of_neverBack h, neverBack_of_notBehind h hreturned⟩

/-- The store steps of the call with the index, at a time of the member's clock. -/
def sampleCall (i nowMillis : Nat) : List ProcessAction :=
  [.registry (.load i), .registry (.mutate i nowMillis), .registry (.write i)]

def sampleMember : MembershipConfig := CasSystem.sampleMember "a"

/-- The member starts alone; its heartbeat is idle when `with_store` returns. -/
def sampleStartup : List ProcessAction :=
  [.register] ++ sampleCall 0 1000 ++ [.spawn, .refresh] ++ sampleCall 1 31000 ++ [.compare, .ret]

/-- The heartbeat is stored, but its task does not get to run before another member has joined and
`with_store` has published and returned. -/
def sampleOvertaken : List ProcessAction :=
  [.register] ++ sampleCall 0 1000 ++ [.spawn, .tick .heartbeat] ++ sampleCall 1 31000 ++
    [.registry (.begin (CasSystem.sampleMember "b") .register)] ++ sampleCall 2 31001 ++
    [.refresh] ++ sampleCall 3 31002 ++ [.compare, .replace, .ret]

theorem published_never_back_iff_notBehind_sample :
    ∃ s, Machine.run (step CasSystem.sampleSettings sampleMember) start sampleStartup = some s ∧
      s.startup = .returned ∧ NeverBack CasSystem.sampleSettings sampleMember s := by
  have hrun : (Machine.run (step CasSystem.sampleSettings sampleMember) start sampleStartup).map
      (fun s => (s.startup, s.task)) = some (.returned, .idle) := by decide +kernel
  obtain ⟨s, hs, heq⟩ := Option.map_eq_some_iff.1 hrun
  obtain ⟨hreturned, hidle⟩ := Prod.mk.inj heq
  refine ⟨s, hs, hreturned, (published_never_back_iff_notBehind _ _ hs hreturned).2 ?_⟩
  exact notBehind_of_task (by simp [hidle]) (by simp [hidle])

theorem snapshots_go_back :
    ∃ s t u, Machine.run (step CasSystem.sampleSettings sampleMember) start
        sampleOvertaken = some s ∧
      s.startup = .returned ∧ s.visibleGeneration = some 2 ∧
      step CasSystem.sampleSettings sampleMember s .taskCompare = some t ∧
      step CasSystem.sampleSettings sampleMember t .taskReplace = some u ∧
      u.visibleGeneration = some 1 := by
  have hrun : (Machine.run (step CasSystem.sampleSettings sampleMember) start sampleOvertaken).map
      (fun s => (s.startup, s.visibleGeneration,
        (Machine.run (step CasSystem.sampleSettings sampleMember) s
          [.taskCompare, .taskReplace]).map visibleGeneration)) =
      some (.returned, some 2, some (some 1)) := by
    decide +kernel
  obtain ⟨s, hs, heq⟩ := Option.map_eq_some_iff.1 hrun
  obtain ⟨hreturned, heq⟩ := Prod.mk.inj heq
  obtain ⟨hvisible, hpublished⟩ := Prod.mk.inj heq
  obtain ⟨u, hu, hback⟩ := Option.map_eq_some_iff.1 hpublished
  obtain ⟨t, ht, hu⟩ := Machine.run_cons_iff.1 hu
  obtain ⟨u', hu', hu⟩ := Machine.run_cons_iff.1 hu
  cases hu
  exact ⟨s, t, u, hs, hreturned, hvisible, ht, hu', hback⟩

end Process

end RustDcp.Membership
