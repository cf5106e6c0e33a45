import RustDcp.RegistryAgreement

namespace RustDcp.Membership
set_option autoImplicit true

open RegistryDocument

/-- How far `with_store` has come. -/
inductive Startup where
  | fresh
  /-- In its first `mutate_registry`, the attempt with this index. -/
  | registering (i : Nat)
  | sleeping
  /-- In its second `mutate_registry`. -/
  | refreshing (i : Nat)
  /-- Between the comparison and `send_replace`. -/
  | replacing (view : MembershipSnapshot)
  | published
  | returned
  | failed
  deriving DecidableEq

def Startup.opened : Startup → Bool
  | .fresh | .registering _ | .failed => false
  | .sleeping | .refreshing _ | .replacing _ | .published | .returned => true

/-- Where `run_membership` stands. -/
inductive Task where
  | unspawned
  | idle
  | attempting (i : Nat)
  | replacing (view : MembershipSnapshot)
  | removing (i : Nat)
  | stopped
  deriving DecidableEq

structure Process where
  registry : CasSystem
  startup : Startup
  task : Task
  visible : Option MembershipSnapshot
  cancelled : Bool

inductive ProcessAction where
  /-- A step of a call in progress or a new call of another member. -/
  | registry (action : CasAction)
  | register
  | spawn
  | refresh
  | compare
  | replace
  | ret
  /-- `with_store` returns an error or is dropped. -/
  | fail
  /-- A tick of the heartbeat or the monitor interval. -/
  | tick (action : RegistryAction)
  | taskCompare
  | taskReplace
  /-- The call failed or timed out; `fatal` ends the task. -/
  | taskError (fatal : Bool)
  | cancel
  | taskRemove
  | taskDone

namespace Process

def start : Process where
  registry := .start
  startup := .fresh
  task := .unspawned
  visible := none
  cancelled := false

def result? (self : Process) (i : Nat) : Option (MResult (Option MembershipSnapshot)) :=
  match self.registry.attempts[i]? with
  | some { phase := .finished result, .. } => some result
  | _ => none

/-- The process with a new call of `mutate_registry` in progress. -/
def begin (self : Process) (config : MembershipConfig) (action : RegistryAction) : Process :=
  { self with registry := { self.registry with attempts := self.registry.attempts ++
      [{ config, action, left := config.maxCasAttempts, phase := .loading }] } }

def changes (self : Process) (view : MembershipSnapshot) : Bool :=
  decide (self.visible.map (·.assignment) ≠ some view.assignment)

def step (settings : Settings) (config : MembershipConfig) (self : Process) :
    ProcessAction → Option Process
  | .registry action => do
    let registry ← self.registry.step settings action
    return { self with registry }
  | .register =>
    if self.startup = .fresh then
      some { self.begin config .register with
        startup := .registering self.registry.attempts.length }
    else none
  | .spawn =>
    match self.startup with
    | .registering i =>
      match self.result? i with
      | some (.ok (some view)) =>
        some { self with startup := .sleeping, task := .idle, visible := some view }
      | _ => none
    | _ => none
  | .refresh =>
    if self.startup = .sleeping then
      some { self.begin config .register with
        startup := .refreshing self.registry.attempts.length }
    else none
  | .compare =>
    match self.startup with
    | .refreshing i =>
      match self.result? i with
      | some (.ok (some view)) =>
        some { self with startup := if self.changes view then .replacing view else .published }
      | some (.ok none) => some { self with startup := .published }
      | _ => none
    | _ => none
  | .replace =>
    match self.startup with
    | .replacing view => some { self with startup := .published, visible := some view }
    | _ => none
  | .ret =>
    if self.startup = .published ∧ self.task ≠ .stopped then
      some { self with startup := .returned }
    else none
  | .fail =>
    match self.startup with
    | .fresh | .returned | .failed => none
    | _ => some { self with startup := .failed, cancelled := true }
  | .tick action =>
    if self.task = .idle ∧ self.cancelled = false ∧
      (action = .heartbeat ∨ action = .monitor) then
      some { self.begin config action with
        task := .attempting self.registry.attempts.length }
    else none
  | .taskCompare =>
    match self.task with
    | .attempting i =>
      match self.result? i with
      | some (.ok (some view)) =>
        some { self with task := if self.changes view then .replacing view else .idle }
      | some (.ok none) => some { self with task := .idle }
      | _ => none
    | _ => none
  | .taskReplace =>
    match self.task with
    | .replacing view => some { self with task := .idle, visible := some view }
    | _ => none
  | .taskError fatal =>
    match self.task with
    | .attempting _ => some { self with task := if fatal then .stopped else .idle }
    | _ => none
  | .cancel => some { self with cancelled := true }
  | .taskRemove =>
    if self.task = .idle ∧ self.cancelled = true then
      some { self.begin config .remove with
        task := .removing self.registry.attempts.length }
    else none
  | .taskDone =>
    match self.task with
    | .removing _ => some { self with task := .stopped }
    | _ => none

inductive Moves (settings : Settings) (config : MembershipConfig) (s : Process) :
    ProcessAction → Process → Prop where
  | registry (hregistry : s.registry.step settings action = some shared) :
    Moves settings config s (.registry action) { s with registry := shared }
  | register (hstartup : s.startup = .fresh) :
    Moves settings config s .register
      { s.begin config .register with startup := .registering s.registry.attempts.length }
  | spawn (hstartup : s.startup = .registering i)
      (hresult : s.result? i = some (.ok (some view))) :
    Moves settings config s .spawn
      { s with startup := .sleeping, task := .idle, visible := some view }
  | refresh (hstartup : s.startup = .sleeping) :
    Moves settings config s .refresh
      { s.begin config .register with startup := .refreshing s.registry.attempts.length }
  | differs (hstartup : s.startup = .refreshing i)
      (hresult : s.result? i = some (.ok (some view))) (hchanges : s.changes view = true) :
    Moves settings config s .compare { s with startup := .replacing view }
  | agrees (hstartup : s.startup = .refreshing i) (hresult : s.result? i = some (.ok view))
      (hsame : ∀ other, view = some other → s.changes other = false) :
    Moves settings config s .compare { s with startup := .published }
  | replace (hstartup : s.startup = .replacing view) :
    Moves settings config s .replace { s with startup := .published, visible := some view }
  | ret (hstartup : s.startup = .published) (htask : s.task ≠ .stopped) :
    Moves settings config s .ret { s with startup := .returned }
  | fail (hstartup : s.startup ≠ .fresh ∧ s.startup ≠ .returned ∧ s.startup ≠ .failed) :
    Moves settings config s .fail { s with startup := .failed, cancelled := true }
  | tick (htask : s.task = .idle) (hcancelled : s.cancelled = false)
      (haction : action = .heartbeat ∨ action = .monitor) :
    Moves settings config s (.tick action)
      { s.begin config action with task := .attempting s.registry.attempts.length }
  | taskDiffers (htask : s.task = .attempting i)
      (hresult : s.result? i = some (.ok (some view))) (hchanges : s.changes view = true) :
    Moves settings config s .taskCompare { s with task := .replacing view }
  | taskAgrees (htask : s.task = .attempting i) (hresult : s.result? i = some (.ok view))
      (hsame : ∀ other, view = some other → s.changes other = false) :
    Moves settings config s .taskCompare { s with task := .idle }
  | taskReplace (htask : s.task = .replacing view) :
    Moves settings config s .taskReplace { s with task := .idle, visible := some view }
  | taskError (htask : s.task = .attempting i) :
    Moves settings config s (.taskError fatal)
      { s with task := if fatal then .stopped else .idle }
  | cancel : Moves settings config s .cancel { s with cancelled := true }
  | taskRemove (htask : s.task = .idle) (hcancelled : s.cancelled = true) :
    Moves settings config s .taskRemove
      { s.begin config .remove with task := .removing s.registry.attempts.length }
  | taskDone (htask : s.task = .removing i) :
    Moves settings config s .taskDone { s with task := .stopped }

theorem step_moves (hs : step settings config s action = some t) :
    Moves settings config s action t := by
  cases action with
  | registry action =>
    obtain ⟨r, hr, heq⟩ := Option.bind_eq_some_iff.1 hs
    cases heq
    exact .registry hr
  | register =>
    simp only [step, Option.ite_none_right_eq_some] at hs
    obtain ⟨hstartup, ⟨⟩⟩ := hs
    exact .register hstartup
  | spawn =>
    simp only [step] at hs
    split at hs
    · split at hs
      · cases hs
        exact .spawn (by assumption) (by assumption)
      · cases hs
    · cases hs
  | refresh =>
    simp only [step, Option.ite_none_right_eq_some] at hs
    obtain ⟨hstartup, ⟨⟩⟩ := hs
    exact .refresh hstartup
  | compare =>
    simp only [step] at hs
    split at hs
    · rename_i i hstartup
      split at hs
      · rename_i view hresult
        cases hs
        cases hchanges : s.changes view with
        | true => exact .differs hstartup hresult hchanges
        | false =>
          apply Moves.agrees hstartup hresult
          rintro other ⟨⟩
          exact hchanges
      · rename_i hresult
        cases hs
        exact .agrees hstartup hresult nofun
      · cases hs
    · cases hs
  | replace =>
    simp only [step] at hs
    split at hs
    · cases hs
      exact .replace (by assumption)
    · cases hs
  | ret =>
    simp only [step, Option.ite_none_right_eq_some] at hs
    obtain ⟨⟨hstartup, htask⟩, ⟨⟩⟩ := hs
    exact .ret hstartup htask
  | fail =>
    simp only [step] at hs
    split at hs
    · cases hs
    · cases hs
    · cases hs
    · cases hs
      exact .fail ⟨by assumption, by assumption, by assumption⟩
  | tick action =>
    simp only [step, Option.ite_none_right_eq_some] at hs
    obtain ⟨⟨htask, hcancelled, haction⟩, ⟨⟩⟩ := hs
    exact .tick htask hcancelled haction
  | taskCompare =>
    simp only [step] at hs
    split at hs
    · rename_i i htask
      split at hs
      · rename_i view hresult
        cases hs
        cases hchanges : s.changes view with
        | true => exact .taskDiffers htask hresult hchanges
        | false =>
          apply Moves.taskAgrees htask hresult
          rintro other ⟨⟩
          exact hchanges
      · rename_i hresult
        cases hs
        exact .taskAgrees htask hresult nofun
      · cases hs
    · cases hs
  | taskReplace =>
    simp only [step] at hs
    split at hs
    · cases hs
      exact .taskReplace (by assumption)
    · cases hs
  | taskError fatal =>
    simp only [step] at hs
    split at hs
    · cases hs
      exact .taskError (by assumption)
    · cases hs
  | cancel =>
    cases hs
    exact .cancel
  | taskRemove =>
    simp only [step, Option.ite_none_right_eq_some] at hs
    obtain ⟨⟨htask, hcancelled⟩, ⟨⟩⟩ := hs
    exact .taskRemove htask hcancelled
  | taskDone =>
    simp only [step] at hs
    split at hs
    · cases hs
      exact .taskDone (by assumption)
    · cases hs

end Process

namespace CasSystem

/-- Stored documents stay known and calls keep their member and action. -/
structure Extends (s t : CasSystem) : Prop where
  history : ∀ document ∈ s.history, document ∈ t.history
  attempts : ∀ (i : Nat) attempt, s.attempts[i]? = some attempt →
    ∃ attempt', t.attempts[i]? = some attempt' ∧ attempt'.config = attempt.config ∧
      attempt'.action = attempt.action

inductive CallStep (settings : Settings) (s t : CasSystem) (attempt : Attempt) :
    Attempt → Prop where
  | same : CallStep settings s t attempt attempt
  | moved (hmoves : Moves settings s attempt attempt') : CallStep settings s t attempt attempt'
  | stored (hphase : attempt.phase = .writing registry cas returned)
      (haccepts : s.accepts cas = true)
      (hresult : result = .ok returned ∨ ∃ error, result = .error error) :
      CallStep settings s t attempt (attempt.finish result)

theorem step_call (h : step settings s action = some t) {i : Nat}
    (hget : s.attempts[i]? = some attempt) :
    ∃ attempt', t.attempts[i]? = some attempt' ∧ CallStep settings s t attempt attempt' := by
  have hlt := (List.getElem?_eq_some_iff.1 hget).1
  cases step_effect h with
  | began config action => exact ⟨attempt, by rw [List.getElem?_append_left hlt, hget], .same⟩
  | @moved j _ attempt' hget' hmoves =>
    by_cases hij : j = i
    · subst hij
      cases hget.symm.trans hget'
      exact ⟨attempt', List.getElem?_set_self hlt, .moved hmoves⟩
    · exact ⟨attempt, by rw [setAttempt, List.getElem?_set_ne hij, hget], .same⟩
  | @stored j _ _ _ _ result hget' hphase haccepts hresult =>
    by_cases hij : j = i
    · subst hij
      cases hget.symm.trans hget'
      exact ⟨attempt.finish result, List.getElem?_set_self hlt, .stored hphase haccepts hresult⟩
    · exact ⟨attempt, by rw [setAttempt, List.getElem?_set_ne hij]; exact hget, .same⟩

theorem mutate_action (settings : Settings) (attempt : Attempt)
    (revision : Option StoredRegistryDocument) (nowMillis : Nat) :
    (attempt.mutate settings revision nowMillis).action = attempt.action := by
  simp only [Attempt.mutate]
  split
  · rfl
  split
  · rfl
  split <;> rfl

theorem CallStep.config_action (h : CallStep settings s t attempt attempt') :
    attempt'.config = attempt.config ∧ attempt'.action = attempt.action := by
  cases h with
  | same => exact ⟨rfl, rfl⟩
  | moved hmoves =>
    cases hmoves with
    | load => exact ⟨rfl, rfl⟩
    | mutate => exact ⟨mutate_config .., mutate_action ..⟩
    | conflict =>
      rw [Attempt.conflict]
      split <;> exact ⟨rfl, rfl⟩
    | fault => exact ⟨rfl, rfl⟩
  | stored => exact ⟨rfl, rfl⟩

theorem step_extends (h : step settings s action = some t) : s.Extends t := by
  refine ⟨?_, ?_⟩
  · intro document hdocument
    cases step_effect h with
    | began => exact hdocument
    | moved => exact hdocument
    | stored => exact List.mem_append_left _ hdocument
  · intro i attempt hget
    obtain ⟨attempt', hget', hcall⟩ := step_call h hget
    exact ⟨attempt', hget', hcall.config_action⟩

end CasSystem

namespace Process

def Derived (config : MembershipConfig) (s : CasSystem) (view : MembershipSnapshot) : Prop :=
  ∃ document ∈ s.history, document.snapshot config.identity = .ok view

def Own (config : MembershipConfig) (s : CasSystem) (i : Nat) (actions : List RegistryAction) :
    Prop :=
  ∃ attempt, s.attempts[i]? = some attempt ∧ attempt.config = config ∧ attempt.action ∈ actions

theorem Derived.mono (h : Derived config s view) (hext : s.Extends t) : Derived config t view := by
  obtain ⟨document, hdocument, hview⟩ := h
  exact ⟨document, hext.history document hdocument, hview⟩

theorem Own.mono (h : Own config s i actions) (hext : s.Extends t) : Own config t i actions := by
  obtain ⟨attempt, hget, hconfig, haction⟩ := h
  obtain ⟨attempt', hget', hconfig', haction'⟩ := hext.attempts i attempt hget
  exact ⟨attempt', hget', hconfig'.trans hconfig, haction' ▸ haction⟩

def StartupOk (config : MembershipConfig) (s : CasSystem) : Startup → Prop
  | .registering i | .refreshing i => Own config s i [.register]
  | .replacing view => Derived config s view
  | _ => True

def TaskOk (config : MembershipConfig) (s : CasSystem) : Task → Prop
  | .attempting i => Own config s i [.heartbeat, .monitor]
  | .replacing view => Derived config s view
  | _ => True

structure Consistent (settings : Settings) (config : MembershipConfig) (s : Process) : Prop where
  registry : s.registry.Consistent settings
  startup : StartupOk config s.registry s.startup
  task : TaskOk config s.registry s.task
  opened : s.startup.opened = true → ∃ view, s.visible = some view
  visible : ∀ view, s.visible = some view → Derived config s.registry view

theorem StartupOk.mono {stage : Startup} (h : StartupOk config s stage) (hext : s.Extends t) :
    StartupOk config t stage := by
  cases stage with
  | registering i => exact Own.mono h hext
  | refreshing i => exact Own.mono h hext
  | replacing view => exact Derived.mono h hext
  | fresh | sleeping | published | returned | failed => trivial

theorem TaskOk.mono {stage : Task} (h : TaskOk config s stage) (hext : s.Extends t) :
    TaskOk config t stage := by
  cases stage with
  | attempting i => exact Own.mono h hext
  | replacing view => exact Derived.mono h hext
  | unspawned | idle | removing | stopped => trivial

theorem start_consistent (settings : Settings) (config : MembershipConfig) :
    start.Consistent settings config :=
  ⟨CasSystem.start_consistent settings, trivial, trivial, by simp [start, Startup.opened],
    by simp [start]⟩

theorem Consistent.registry_step (h : Consistent settings config s)
    (hs : CasSystem.step settings s.registry action = some r) :
    Consistent settings config { s with registry := r } := by
  have hext := CasSystem.step_extends hs
  exact ⟨CasSystem.step_consistent h.registry hs, h.startup.mono hext, h.task.mono hext, h.opened,
    fun view hview => (h.visible view hview).mono hext⟩

theorem begin_own (s : Process) (config : MembershipConfig) (action : RegistryAction)
    (hmem : action ∈ actions) :
    Own config (s.begin config action).registry s.registry.attempts.length actions :=
  ⟨_, List.getElem?_concat_length, rfl, hmem⟩

theorem Consistent.begin (h : Consistent settings config s) (action : RegistryAction) :
    Consistent settings config (s.begin config action) := by
  have hs : CasSystem.step settings s.registry (.begin config action) =
      some (s.begin config action).registry := rfl
  exact h.registry_step hs

theorem Consistent.derived (h : Consistent settings config s)
    (hown : Own config s.registry i actions)
    (hresult : s.result? i = some (.ok (some view))) : Derived config s.registry view := by
  obtain ⟨attempt, hget, hconfig, -⟩ := hown
  rw [result?, hget] at hresult
  have hok := h.registry.attempts attempt (List.mem_of_getElem? hget)
  split at hresult
  · rename_i result heq
    cases heq
    cases hresult
    rw [← hconfig]
    exact hok
  · cases hresult

theorem step_consistent (h : Consistent settings config s)
    (hs : step settings config s action = some t) : Consistent settings config t := by
  have hstartupOk := h.startup
  have htaskOk := h.task
  have hopened := h.opened
  cases step_moves hs with
  | registry hregistry => exact h.registry_step hregistry
  | register hstartup =>
    have hb := h.begin .register
    exact ⟨hb.registry, begin_own s config .register List.mem_cons_self, hb.task, nofun, hb.visible⟩
  | spawn hstartup hresult =>
    rename_i i view
    rw [hstartup] at hstartupOk
    refine ⟨h.registry, trivial, trivial, fun _ => ⟨view, rfl⟩, ?_⟩
    intro other hother
    cases hother
    exact h.derived hstartupOk hresult
  | refresh hstartup =>
    rw [hstartup] at hopened
    have hb := h.begin .register
    exact ⟨hb.registry, begin_own s config .register List.mem_cons_self, hb.task,
      fun _ => hopened rfl, hb.visible⟩
  | differs hstartup hresult hchanges =>
    rw [hstartup] at hstartupOk hopened
    exact ⟨h.registry, h.derived hstartupOk hresult, h.task, fun _ => hopened rfl, h.visible⟩
  | agrees hstartup hresult hsame =>
    rw [hstartup] at hopened
    exact ⟨h.registry, trivial, h.task, fun _ => hopened rfl, h.visible⟩
  | replace hstartup =>
    rename_i view
    rw [hstartup] at hstartupOk
    refine ⟨h.registry, trivial, h.task, fun _ => ⟨view, rfl⟩, ?_⟩
    intro other hother
    cases hother
    exact hstartupOk
  | ret hstartup htask =>
    rw [hstartup] at hopened
    exact ⟨h.registry, trivial, h.task, fun _ => hopened rfl, h.visible⟩
  | fail hstartup => exact ⟨h.registry, trivial, h.task, nofun, h.visible⟩
  | tick htask hcancelled haction =>
    rename_i action
    have hb := h.begin action
    refine ⟨hb.registry, hb.startup, begin_own s config action ?_, hb.opened, hb.visible⟩
    simpa using haction
  | taskDiffers htask hresult hchanges =>
    rw [htask] at htaskOk
    exact ⟨h.registry, h.startup, h.derived htaskOk hresult, h.opened, h.visible⟩
  | taskAgrees htask hresult hsame => exact ⟨h.registry, h.startup, trivial, h.opened, h.visible⟩
  | taskReplace htask =>
    rename_i view
    rw [htask] at htaskOk
    refine ⟨h.registry, h.startup, trivial, fun _ => ⟨view, rfl⟩, ?_⟩
    intro other hother
    cases hother
    exact htaskOk
  | taskError htask =>
    rename_i fatal
    refine ⟨h.registry, h.startup, ?_, h.opened, h.visible⟩
    cases fatal <;> trivial
  | cancel => exact ⟨h.registry, h.startup, h.task, h.opened, h.visible⟩
  | taskRemove htask hcancelled =>
    have hb := h.begin .remove
    exact ⟨hb.registry, hb.startup, trivial, hb.opened, hb.visible⟩
  | taskDone htask => exact ⟨h.registry, h.startup, trivial, h.opened, h.visible⟩

end Process

end RustDcp.Membership
