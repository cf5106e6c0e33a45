import RustDcp.CoordinatorSteps

namespace RustDcp
set_option autoImplicit true

/-- The detached store task of one flush. `outcome` is set when the task ends. -/
structure Save where
  batch : List DirtyCheckpoint
  written : List DirtyCheckpoint
  outcome : Option (Result Unit)
  deriving DecidableEq

inductive FlushPhase where
  | waiting
  | holding
  | snapshotted (dirty : List DirtyCheckpoint)
  | awaiting
  | returned (result : Result CheckpointFlushReport)
  | abandoned
  deriving DecidableEq

structure FlushCall where
  phase : FlushPhase
  save : Option Save
  deriving DecidableEq

inductive Happening where
  | delivered (tracked : TrackedEvent)
  | rebased (effective : BTreeMap UInt16 DcpCheckpoint)
  deriving DecidableEq

/-- A coordinator with its store, its flush calls and the tokens the application holds. The last
three fields are history: no step reads them. -/
structure System where
  bucketUuid : String
  timeout : Duration
  state : CoordinatorState
  store : BTreeMap UInt16 DcpCheckpoint
  gate : Option Nat
  calls : List FlushCall
  tokens : List EventAck
  acknowledged : List EventAck
  journal : List Happening
  saved : List DcpCheckpoint
  deriving DecidableEq

inductive FlushAction where
  | begin
  | acquire (call : Nat)
  | gateTimeout (call : Nat)
  | cancel (call : Nat)
  | snapshot (call : Nat)
  | spawn (call : Nat)
  | write (call : Nat) (entry : DirtyCheckpoint)
  | finish (call : Nat) (outcome : Result Unit)
  | timeout (call : Nat)
  | complete (call : Nat)
  deriving DecidableEq

inductive Action where
  | track (event : DcpEvent)
  | acknowledge (token : EventAck)
  | rebase (effective : BTreeMap UInt16 DcpCheckpoint)
  | markDirty (vbucket : UInt16)
  | flush (action : FlushAction)
  deriving DecidableEq

namespace System

def start (bucketUuid : String) (timeout : Duration) (store : BTreeMap UInt16 DcpCheckpoint)
    (state : CoordinatorState) : System :=
  { bucketUuid
    timeout
    state
    store
    gate := none
    calls := []
    tokens := []
    acknowledged := []
    journal := []
    saved := [] }

def new (config : CheckpointConfig) (store checkpoints : BTreeMap UInt16 DcpCheckpoint) :
    Result System := do
  let (bucketUuid, state) ← CoordinatorState.new config checkpoints
  .ok (start bucketUuid config.timeout store state)

/-- A new coordinator over a store, with the positions that the store does not hold marked. -/
def opened (config : CheckpointConfig) (store checkpoints : BTreeMap UInt16 DcpCheckpoint) :
    Result System := do
  let (bucketUuid, state) ← CoordinatorState.new config checkpoints
  match state.markChangedInitialPositions store checkpoints.toList with
  | (.error error, _) => .error error
  | (.ok (), state) => .ok (start bucketUuid config.timeout store state)

def setCall (self : System) (i : Nat) (call : FlushCall) : System :=
  { self with calls := self.calls.set i call }

def emptyReport : CheckpointFlushReport := { attempted := 0, persisted := 0, remainingDirty := 0 }

def failCall (self : System) (i : Nat) (save : Option Save) (error : DcpError)
    (incrementAttempt : Bool) : System :=
  let (error, state) := self.state.recordFlushFailure error incrementAttempt
  { self.setCall i { phase := .returned (.error error), save } with state }

def flushStep (self : System) : FlushAction → Option System
  | .begin =>
    let phase := if self.state.hasDirty then .waiting else .returned (.ok emptyReport)
    some { self with calls := self.calls ++ [{ phase, save := none }] }
  | .acquire i =>
    match self.calls[i]?, self.gate with
    | some { phase := .waiting, save }, none =>
      some { self.setCall i { phase := .holding, save } with gate := some i }
    | _, _ => none
  | .gateTimeout i =>
    match self.calls[i]? with
    | some { phase := .waiting, save } => some (self.failCall i save (.timeout self.timeout) true)
    | _ => none
  | .cancel i =>
    match self.calls[i]? with
    | some { phase := .waiting, save } => some (self.setCall i { phase := .abandoned, save })
    | some { phase := .awaiting, save } => some (self.setCall i { phase := .abandoned, save })
    | _ => none
  | .snapshot i =>
    match self.calls[i]? with
    | some { phase := .holding, save } =>
      match self.state.dirtyCheckpoints with
      | [] =>
        some { self.setCall i { phase := .returned (.ok emptyReport), save } with gate := none }
      | dirty => some (self.setCall i { phase := .snapshotted dirty, save })
    | _ => none
  | .spawn i =>
    match self.calls[i]? with
    | some { phase := .snapshotted dirty, save } =>
      match self.state.recordFlushAttempt with
      | (.error error, state) =>
        some { self.setCall i { phase := .returned (.error error), save } with state, gate := none }
      | (.ok (), state) =>
        let save := { batch := dirty, written := [], outcome := none }
        some { self.setCall i { phase := .awaiting, save := some save } with
          state
          saved := self.saved ++ dirty.map DirtyCheckpoint.checkpoint }
    | _ => none
  | .write i entry =>
    match self.calls[i]? with
    | some { phase, save := some { batch, written, outcome := none } } =>
      if entry ∈ batch then
        let save := { batch, written := entry :: written, outcome := none }
        some { self.setCall i { phase, save := some save } with
          store := self.store.insert entry.checkpoint.vbucket entry.checkpoint }
      else none
    | _ => none
  | .finish i outcome =>
    match self.calls[i]? with
    | some { phase, save := some { batch, written, outcome := none } } =>
      if outcome = .ok () → ∀ entry ∈ batch, entry ∈ written then
        let save := { batch, written, outcome := some outcome }
        some { self.setCall i { phase, save := some save } with gate := none }
      else none
    | _ => none
  | .timeout i =>
    match self.calls[i]? with
    | some { phase := .awaiting, save := some { batch, written, outcome := none } } =>
      some (self.failCall i (some { batch, written, outcome := none })
        (.timeout self.timeout) false)
    | _ => none
  | .complete i =>
    match self.calls[i]? with
    | some { phase := .awaiting, save := some { batch, written, outcome := some outcome } } =>
      let save := some { batch, written, outcome := some outcome }
      match outcome with
      | .error error => some (self.failCall i save error false)
      | .ok () =>
        match self.state.completeFlush batch with
        | none => none
        | some (report, state) =>
          some { self.setCall i { phase := .returned (.ok report), save } with state }
    | _ => none

def step (self : System) : Action → Option System
  | .track event =>
    match self.state.trackEvent event with
    | (.error _, state) => some { self with state }
    | (.ok tracked, state) =>
      some { self with
        state
        tokens := self.tokens ++ tracked.ack.toList
        journal := self.journal ++ [.delivered tracked] }
  | .acknowledge token =>
    if token ∈ self.tokens then
      some { self with
        state := (self.state.acknowledge token).2
        tokens := self.tokens.erase token
        acknowledged := self.acknowledged ++ [token] }
    else none
  | .rebase effective =>
    match self.state.rebasePartitions self.bucketUuid effective with
    | (.error _, state) => some { self with state }
    | (.ok (), state) =>
      some { self with state, journal := self.journal ++ [.rebased effective] }
  | .markDirty vbucket => some { self with state := (self.state.markDirty vbucket).2 }
  | .flush action => self.flushStep action

inductive FlushEffect (s : System) : FlushAction → System → Prop
  | beginClean (h : s.state.hasDirty = false) : FlushEffect s .begin
      { s with calls := s.calls ++ [⟨.returned (.ok emptyReport), none⟩] }
  | beginDirty (h : s.state.hasDirty = true) : FlushEffect s .begin
      { s with calls := s.calls ++ [⟨.waiting, none⟩] }
  | acquire (hcall : s.calls[i]? = some ⟨.waiting, save⟩) (hgate : s.gate = none) :
      FlushEffect s (.acquire i) { s.setCall i ⟨.holding, save⟩ with gate := some i }
  | gateTimeout (hcall : s.calls[i]? = some ⟨.waiting, save⟩) :
      FlushEffect s (.gateTimeout i) (s.failCall i save (.timeout s.timeout) true)
  | cancel (hcall : s.calls[i]? = some ⟨phase, save⟩)
      (hphase : phase = .waiting ∨ phase = .awaiting) :
      FlushEffect s (.cancel i) (s.setCall i ⟨.abandoned, save⟩)
  | snapshotClean (hcall : s.calls[i]? = some ⟨.holding, save⟩)
      (hdirty : s.state.dirtyCheckpoints = []) :
      FlushEffect s (.snapshot i)
        { s.setCall i ⟨.returned (.ok emptyReport), save⟩ with gate := none }
  | snapshot (hcall : s.calls[i]? = some ⟨.holding, save⟩)
      (hdirty : s.state.dirtyCheckpoints ≠ []) :
      FlushEffect s (.snapshot i)
        (s.setCall i ⟨.snapshotted s.state.dirtyCheckpoints, save⟩)
  | spawnOverflow (hcall : s.calls[i]? = some ⟨.snapshotted dirty, save⟩)
      (hattempt : s.state.recordFlushAttempt = (.error error, after)) :
      FlushEffect s (.spawn i)
        { s.setCall i ⟨.returned (.error error), save⟩ with state := after, gate := none }
  | spawn (hcall : s.calls[i]? = some ⟨.snapshotted dirty, save⟩)
      (hattempt : s.state.recordFlushAttempt = (.ok (), after)) :
      FlushEffect s (.spawn i) { s.setCall i ⟨.awaiting, some ⟨dirty, [], none⟩⟩ with
        state := after, saved := s.saved ++ dirty.map DirtyCheckpoint.checkpoint }
  | write (hcall : s.calls[i]? = some ⟨phase, some ⟨batch, written, none⟩⟩)
      (hentry : entry ∈ batch) :
      FlushEffect s (.write i entry)
        { s.setCall i ⟨phase, some ⟨batch, entry :: written, none⟩⟩ with
          store := s.store.insert entry.checkpoint.vbucket entry.checkpoint }
  | finish (hcall : s.calls[i]? = some ⟨phase, some ⟨batch, written, none⟩⟩)
      (hall : outcome = .ok () → ∀ entry ∈ batch, entry ∈ written) :
      FlushEffect s (.finish i outcome)
        { s.setCall i ⟨phase, some ⟨batch, written, some outcome⟩⟩ with gate := none }
  | timeout (hcall : s.calls[i]? = some ⟨.awaiting, some ⟨batch, written, none⟩⟩) :
      FlushEffect s (.timeout i)
        (s.failCall i (some ⟨batch, written, none⟩) (.timeout s.timeout) false)
  | completeError
      (hcall : s.calls[i]? = some ⟨.awaiting, some ⟨batch, written, some (.error error)⟩⟩) :
      FlushEffect s (.complete i)
        (s.failCall i (some ⟨batch, written, some (.error error)⟩) error false)
  | complete (hcall : s.calls[i]? = some ⟨.awaiting, some ⟨batch, written, some (.ok ())⟩⟩)
      (hconfirm : s.state.completeFlush batch = some (report, after)) :
      FlushEffect s (.complete i)
        { s.setCall i ⟨.returned (.ok report), some ⟨batch, written, some (.ok ())⟩⟩ with
          state := after }

theorem flushStep_effect {s : System} (h : s.flushStep action = some t) :
    FlushEffect s action t := by
  cases action with
  | begin =>
    simp only [flushStep, Option.some.injEq] at h
    subst h
    cases hdirty : s.state.hasDirty with
    | false => exact .beginClean hdirty
    | true => exact .beginDirty hdirty
  | acquire i =>
    simp only [flushStep] at h
    split at h
    · cases h
      exact .acquire (by assumption) (by assumption)
    · cases h
  | gateTimeout i =>
    simp only [flushStep] at h
    split at h
    · cases h
      exact .gateTimeout (by assumption)
    · cases h
  | cancel i =>
    simp only [flushStep] at h
    split at h
    · cases h
      exact .cancel (by assumption) (.inl rfl)
    · cases h
      exact .cancel (by assumption) (.inr rfl)
    · cases h
  | snapshot i =>
    simp only [flushStep] at h
    split at h
    · split at h
      · cases h
        exact .snapshotClean (by assumption) (by assumption)
      · cases h
        exact .snapshot (by assumption) (by assumption)
    · cases h
  | spawn i =>
    simp only [flushStep] at h
    split at h
    · split at h
      · cases h
        exact .spawnOverflow (by assumption) (by assumption)
      · cases h
        exact .spawn (by assumption) (by assumption)
    · cases h
  | write i entry =>
    simp only [flushStep] at h
    split at h
    · split at h
      · cases h
        exact .write (by assumption) (by assumption)
      · cases h
    · cases h
  | finish i outcome =>
    simp only [flushStep] at h
    split at h
    · split at h
      · cases h
        exact .finish (by assumption) (by assumption)
      · cases h
    · cases h
  | timeout i =>
    simp only [flushStep] at h
    split at h
    · cases h
      exact .timeout (by assumption)
    · cases h
  | complete i =>
    simp only [flushStep] at h
    split at h
    · split at h
      · cases h
        exact .completeError (by assumption)
      · split at h
        · cases h
        · cases h
          exact .complete (by assumption) (by assumption)
    · cases h

inductive Effect (s : System) : Action → System → Prop
  | rejected : Effect s action s
  | tracked (hp : s.state.partitions[event.vbucket]? = some p)
      (htrack : p.trackEvent event = .ok (token, q)) :
      Effect s (.track event) { s with
        state := s.state.setPartition event.vbucket q
        tokens := s.tokens ++ token.toList
        journal := s.journal ++ [.delivered ⟨event, token⟩] }
  | acknowledged (hmem : token ∈ s.tokens) (hack : s.state.acknowledge token = (result, after)) :
      Effect s (.acknowledge token) { s with
        state := after
        tokens := s.tokens.erase token
        acknowledged := s.acknowledged ++ [token] }
  | rebased
      (hvalid : ∀ (v : UInt16) c, effective[v]? = some c →
        s.state.validateRebase s.bucketUuid v c = .ok ())
      (hget : ∀ v : UInt16, after.partitions[v]? =
        s.state.partitions[v]?.map (·.rebaseIf effective[v]?)) :
      Effect s (.rebase effective)
        { s with state := after, journal := s.journal ++ [.rebased effective] }
  | dirtied (hp : s.state.partitions[v]? = some p) (hlt : p.generation < u64Max) :
      Effect s (.markDirty v) { s with
        state := s.state.setPartition v { p with generation := p.generation + 1 } }
  | flushed (hflush : FlushEffect s action t) : Effect s (.flush action) t

theorem step_effect {s : System} (h : s.step action = some t) : Effect s action t := by
  cases action with
  | track event =>
    simp only [step] at h
    split at h
    · rename_i error state heq
      cases h
      rcases CoordinatorState.trackEvent_cases heq with ⟨-, -, rfl⟩ | ⟨p, token, q, -, -, hok, -⟩
      · exact .rejected
      · cases hok
    · rename_i tracked state heq
      cases h
      rcases CoordinatorState.trackEvent_cases heq with
        ⟨error, herror, -⟩ | ⟨p, token, q, hp, hq, hok, rfl⟩
      · cases herror
      · cases hok
        exact .tracked hp hq
  | acknowledge token =>
    simp only [step] at h
    split at h
    · cases h
      exact .acknowledged (by assumption) rfl
    · cases h
  | rebase effective =>
    simp only [step] at h
    split at h
    · rename_i error state heq
      cases h
      rcases CoordinatorState.rebasePartitions_cases heq with ⟨-, rfl⟩ | ⟨hok, -⟩
      · exact .rejected
      · cases hok
    · rename_i state heq
      cases h
      rcases CoordinatorState.rebasePartitions_cases heq with ⟨⟨error, herror⟩, -⟩ | ⟨-, hv, hget⟩
      · cases herror
      · exact .rebased hv hget
  | markDirty v =>
    simp only [step, Option.some.injEq] at h
    subst h
    rcases CoordinatorState.markDirty_cases (Prod.eta (s.state.markDirty v)).symm with
      ⟨-, heq⟩ | ⟨p, hp, hlt, -, heq⟩
    · rw [heq]
      exact .rejected
    · rw [heq]
      exact .dirtied hp hlt
  | flush action => exact .flushed (flushStep_effect h)

/-- A flush leaves everything but the durable half of the partitions to the other actions. -/
structure FlushFrame (s t : System) : Prop where
  bucketUuid : t.bucketUuid = s.bucketUuid
  tokens : t.tokens = s.tokens
  acknowledged : t.acknowledged = s.acknowledged
  journal : t.journal = s.journal
  partitions : ∀ (v : UInt16) q, t.state.partitions[v]? = some q →
    ∃ p, s.state.partitions[v]? = some p ∧ (q = p ∨ ∃ d, q = p.confirm d)

theorem FlushFrame.of_partitions {s t : System} (hu : t.bucketUuid = s.bucketUuid)
    (htokens : t.tokens = s.tokens) (hacks : t.acknowledged = s.acknowledged)
    (hjournal : t.journal = s.journal) (h : t.state.partitions = s.state.partitions) :
    FlushFrame s t :=
  ⟨hu, htokens, hacks, hjournal, fun _ q hq => ⟨q, h ▸ hq, .inl rfl⟩⟩

theorem failCall_frame (s : System) (i : Nat) (save : Option Save) (error : DcpError)
    (incrementAttempt : Bool) : FlushFrame s (s.failCall i save error incrementAttempt) :=
  .of_partitions rfl rfl rfl rfl (CoordinatorState.recordFlushFailure_partitions ..)

theorem recordFlushAttempt_eq {state : CoordinatorState}
    (h : state.recordFlushAttempt = (result, after)) : after.partitions = state.partitions := by
  have := state.recordFlushAttempt_partitions
  rwa [h] at this

theorem FlushEffect.frame {s : System} (h : FlushEffect s action t) : FlushFrame s t := by
  cases h with
  | beginClean | beginDirty | acquire | cancel | snapshotClean | snapshot | write | finish =>
    exact .of_partitions rfl rfl rfl rfl rfl
  | gateTimeout | timeout | completeError => exact failCall_frame ..
  | spawnOverflow _ hattempt | spawn _ hattempt =>
    exact .of_partitions rfl rfl rfl rfl (recordFlushAttempt_eq hattempt)
  | complete hcall hconfirm =>
    refine ⟨rfl, rfl, rfl, rfl, fun v q hq => ?_⟩
    obtain ⟨after, hafter, heq⟩ := Option.map_eq_some_iff.1 hconfirm
    cases heq
    obtain ⟨p, hp, ⟨rfl, -⟩ | ⟨d, -, -, rfl⟩⟩ := CoordinatorState.confirmSaved_cases hafter hq
    · exact ⟨q, hp, .inl rfl⟩
    · exact ⟨p, hp, .inr ⟨d, rfl⟩⟩

theorem getElem?_setCall {s : System} {i j : Nat} (h : (s.setCall i call).calls[j]? = some other) :
    (i = j ∧ other = call) ∨ (i ≠ j ∧ s.calls[j]? = some other) := by
  rw [setCall, List.getElem?_set] at h
  split at h
  · split at h
    · exact .inl ⟨by assumption, (Option.some.inj h).symm⟩
    · cases h
  · exact .inr ⟨by assumption, h⟩

theorem FlushEffect.saved_cases {s : System} (h : FlushEffect s action t) (hc : c ∈ t.saved) :
    c ∈ s.saved ∨ ∃ (i : Nat) (dirty : List DirtyCheckpoint) (save : Option Save),
      s.calls[i]? = some ⟨.snapshotted dirty, save⟩ ∧ ∃ d ∈ dirty, d.checkpoint = c := by
  cases h with
  | spawn hcall hattempt =>
    rw [List.mem_append, List.mem_map] at hc
    exact hc.imp_right fun hd => ⟨_, _, _, hcall, hd⟩
  | beginClean | beginDirty | acquire | gateTimeout | cancel | snapshotClean | snapshot
    | spawnOverflow | write | finish | timeout | completeError | complete => exact .inl hc

theorem FlushEffect.snapshotted_cases {s : System} {j : Nat} (h : FlushEffect s action t)
    (hcall : t.calls[j]? = some ⟨.snapshotted dirty, save⟩) :
    (∃ old, s.calls[j]? = some ⟨.snapshotted dirty, old⟩) ∨
      dirty = s.state.dirtyCheckpoints := by
  cases h with
  | beginClean | beginDirty =>
    rw [List.getElem?_append] at hcall
    split at hcall
    · exact .inl ⟨save, hcall⟩
    · rw [List.getElem?_singleton] at hcall
      split at hcall <;> cases hcall
  | snapshot hold =>
    rcases getElem?_setCall hcall with ⟨rfl, heq⟩ | ⟨-, hcall⟩
    · cases heq
      exact .inr rfl
    · exact .inl ⟨save, hcall⟩
  | write hold | finish hold =>
    rcases getElem?_setCall hcall with ⟨rfl, heq⟩ | ⟨-, hcall⟩
    · cases heq
      exact .inl ⟨_, hold⟩
    · exact .inl ⟨save, hcall⟩
  | acquire | gateTimeout | cancel | snapshotClean | spawnOverflow | spawn | timeout
    | completeError | complete =>
    rcases getElem?_setCall hcall with ⟨rfl, heq⟩ | ⟨-, hcall⟩
    · cases heq
    · exact .inl ⟨save, hcall⟩

theorem new_eq_ok (h : System.new config stored checkpoints = .ok s) :
    CoordinatorState.new config checkpoints = .ok (s.bucketUuid, s.state) ∧ s.store = stored ∧
      s.gate = none ∧ s.calls = [] ∧ s.tokens = [] ∧ s.acknowledged = [] ∧ s.journal = [] ∧
      s.saved = [] := by
  simp only [System.new] at h
  cases hnew : CoordinatorState.new config checkpoints with
  | error error => simp [hnew, bind, Except.bind] at h
  | ok pair =>
    simp only [hnew, bind, Except.bind, Except.ok.injEq] at h
    subst h
    exact ⟨rfl, rfl, rfl, rfl, rfl, rfl, rfl, rfl⟩

theorem opened_eq_ok (h : System.opened config stored checkpoints = .ok s) :
    ∃ bucketUuid state, CoordinatorState.new config checkpoints = .ok (bucketUuid, state) ∧
      state.markChangedInitialPositions stored checkpoints.toList = (.ok (), s.state) ∧
      s.store = stored ∧ s.gate = none ∧ s.calls = [] := by
  simp only [System.opened] at h
  cases hnew : CoordinatorState.new config checkpoints with
  | error error => simp [hnew, bind, Except.bind] at h
  | ok pair =>
    obtain ⟨bucketUuid, state⟩ := pair
    simp only [hnew, bind, Except.bind] at h
    split at h
    · cases h
    · rename_i after hmark
      cases h
      exact ⟨bucketUuid, state, rfl, hmark, rfl, rfl, rfl⟩

theorem markChangedInitialPositions_run {s : System} {after : CoordinatorState}
    (h : s.state.markChangedInitialPositions loaded entries = (.ok (), after)) :
    ∃ acts, Machine.run step s acts = some { s with state := after } := by
  induction entries generalizing s with
  | nil =>
    cases h
    exact ⟨[], rfl⟩
  | cons entry entries ih =>
    obtain ⟨v, c⟩ := entry
    simp only [CoordinatorState.markChangedInitialPositions] at h
    split at h
    · exact ih h
    · split at h
      · cases h
      · rename_i state hmark
        obtain ⟨acts, hacts⟩ := ih (s := { s with state }) h
        refine ⟨.markDirty v :: acts, Machine.run_cons_iff.2 ⟨{ s with state }, ?_, hacts⟩⟩
        simp only [step, hmark]

theorem opened_run (h : System.opened config stored checkpoints = .ok s) :
    ∃ initial acts, System.new config stored checkpoints = .ok initial ∧
      Machine.run step initial acts = some s := by
  simp only [System.opened] at h
  cases hnew : CoordinatorState.new config checkpoints with
  | error error => simp [hnew, bind, Except.bind] at h
  | ok pair =>
    obtain ⟨bucketUuid, state⟩ := pair
    simp only [hnew, bind, Except.bind] at h
    split at h
    · cases h
    · rename_i after hmark
      cases h
      obtain ⟨acts, hacts⟩ :=
        markChangedInitialPositions_run (s := start bucketUuid config.timeout stored state) hmark
      refine ⟨start bucketUuid config.timeout stored state, acts, ?_, hacts⟩
      simp only [System.new, hnew, bind, Except.bind]

def processed? (s : System) (v : UInt16) : Option DcpCheckpoint :=
  s.state.partitions[v]?.map PartitionState.processed

end System

/-- The processed and the pending checkpoints of a partition have a property. -/
structure PartitionState.Holds (P : DcpCheckpoint → Prop) (p : PartitionState) : Prop where
  processed : P p.processed
  pending : ∀ entry ∈ p.pending, P entry.checkpoint

theorem PartitionState.Holds.lastCheckpoint (h : Holds P p) : P p.lastCheckpoint := by
  simp only [PartitionState.lastCheckpoint]
  split
  · exact h.processed
  · rename_i entry hentry
    exact h.pending entry (List.mem_of_getLast? hentry)

theorem PartitionState.Holds.register (h : Holds P p) (hreg : p.Registers event n window q)
    (hafter : P (p.lastCheckpoint.afterEvent event n window)) : Holds P q := by
  rw [hreg.eq]
  refine ⟨h.processed, fun entry hentry => ?_⟩
  rcases List.mem_append.1 hentry with hentry | hentry
  · exact h.pending entry hentry
  · obtain rfl := List.mem_singleton.1 hentry
    exact hafter

theorem PartitionState.Holds.trackEvent (h : Holds P p)
    (hafter : ∀ c n window, event.seqno = some n → window.1 ≤ n → n ≤ window.2 → P c →
      P (c.afterEvent event n window))
    (ht : p.trackEvent event = .ok (token, q)) : Holds P q := by
  rcases trackEvent_cases ht with ⟨marker, -, -, -, -, rfl⟩ | ⟨-, -, -, rfl⟩ |
    ⟨n, window, hn, -, hreg⟩
  · exact ⟨h.processed, h.pending⟩
  · exact h
  · apply h.register hreg
    exact hafter _ n window hn hreg.inWindow.1 hreg.inWindow.2 h.lastCheckpoint

theorem PartitionState.Holds.acknowledge (h : Holds P p)
    (hack : p.acknowledge token = (result, q)) : Holds P q := by
  rcases acknowledge_cases hack with ⟨-, rfl, -⟩ | ⟨marked, generation, hmarked, rfl, -⟩
  · exact h
  have hkeep : ∀ entry ∈ marked, P entry.checkpoint := by
    intro entry hentry
    have hmem := List.mem_map_of_mem (f := PendingAck.checkpoint) hentry
    rw [markAcknowledged_checkpoints hmarked, List.mem_map] at hmem
    obtain ⟨old, hold, heq⟩ := hmem
    rw [← heq]
    exact h.pending old hold
  refine ⟨?_, fun entry hentry => hkeep entry (List.dropWhile_subset _ hentry)⟩
  rcases AckQueue.released_eq PendingAck.acknowledged PendingAck.checkpoint p.processed marked with
    heq | ⟨entry, hentry, heq⟩
  · rw [heq]
    exact h.processed
  · rw [heq]
    exact hkeep entry hentry

theorem System.step_holds {s : System} {P : UInt16 → DcpCheckpoint → Prop}
    (hafter : ∀ event, action = .track event → ∀ c n window, event.seqno = some n →
      window.1 ≤ n → n ≤ window.2 → P event.vbucket c →
        P event.vbucket (c.afterEvent event n window))
    (hrebase : ∀ effective, action = .rebase effective → ∀ (v : UInt16) c, effective[v]? = some c →
      validateCheckpointIdentity v s.bucketUuid c = .ok () → P v c)
    (hs : ∀ (v : UInt16) p, s.state.partitions[v]? = some p → p.Holds (P v))
    (h : s.step action = some t) :
    ∀ (v : UInt16) p, t.state.partitions[v]? = some p → p.Holds (P v) := by
  intro v q hq
  cases step_effect h with
  | rejected => exact hs v q hq
  | tracked hp htrack =>
    rcases CoordinatorState.getElem?_setPartition_cases hq with ⟨rfl, rfl⟩ | ⟨-, hq⟩
    · exact (hs _ _ hp).trackEvent (hafter _ rfl) htrack
    · exact hs v q hq
  | acknowledged hmem hack =>
    rcases CoordinatorState.acknowledge_cases hack with ⟨-, -, rfl⟩ | ⟨p, r, hp, hr, rfl⟩
    · exact hs v q hq
    · rcases CoordinatorState.getElem?_setPartition_cases hq with ⟨rfl, rfl⟩ | ⟨-, hq⟩
      · exact (hs _ _ hp).acknowledge hr
      · exact hs v q hq
  | @rebased effective after hvalid hget =>
    rw [hget, Option.map_eq_some_iff] at hq
    obtain ⟨p, hp, rfl⟩ := hq
    cases hc : effective[v]? with
    | none =>
      rw [PartitionState.rebaseIf]
      exact hs v p hp
    | some c =>
      obtain ⟨-, -, hid, -⟩ := CoordinatorState.validateRebase_eq_ok.1 (hvalid v c hc)
      exact ⟨hrebase effective rfl v c hc hid, by simp [PartitionState.rebaseIf,
        PartitionState.rebase]⟩
  | dirtied hp hlt =>
    rcases CoordinatorState.getElem?_setPartition_cases hq with ⟨rfl, rfl⟩ | ⟨-, hq⟩
    · exact ⟨(hs _ _ hp).processed, (hs _ _ hp).pending⟩
    · exact hs v q hq
  | flushed hflush =>
    obtain ⟨p, hp, rfl | ⟨d, rfl⟩⟩ := hflush.frame.partitions v q hq
    · exact hs v q hp
    · exact ⟨(hs v p hp).processed, (hs v p hp).pending⟩

abbrev PartitionState.Keyed (v : UInt16) (p : PartitionState) : Prop :=
  p.Holds fun c => c.vbucket = v

theorem System.step_keyed {s : System} (hs : ∀ (v : UInt16) p, s.state.partitions[v]? = some p →
    p.Keyed v) (h : s.step action = some t) :
    ∀ (v : UInt16) p, t.state.partitions[v]? = some p → p.Keyed v := by
  refine step_holds (P := fun v c => c.vbucket = v) ?_ ?_ hs h
  · intro event _ c n window _ _ _ hc
    rw [DcpCheckpoint.afterEvent_vbucket, hc]
  · intro effective _ v c _ hid
    exact (validateCheckpointIdentity_eq_ok.1 hid).1

theorem System.new_keyed {v : UInt16} (h : System.new config stored checkpoints = .ok s)
    (hp : s.state.partitions[v]? = some p) : p.Keyed v := by
  obtain ⟨hvalid, hget⟩ := CoordinatorState.new_eq_ok (new_eq_ok h).1
  rw [hget v, Option.map_eq_some_iff] at hp
  obtain ⟨c, hc, rfl⟩ := hp
  exact ⟨(validateCheckpointIdentity_eq_ok.1 (hvalid v c hc)).1, by simp [PartitionState.new]⟩

/-- The checkpoints of a partition are valid positions of its vBucket in the bucket. -/
abbrev PartitionState.Identified (bucketUuid : String) (v : UInt16) (p : PartitionState) : Prop :=
  p.Holds fun c => validateCheckpointIdentity v bucketUuid c = .ok ()

theorem System.step_bucketUuid {s : System} (h : s.step action = some t) :
    t.bucketUuid = s.bucketUuid := by
  cases step_effect h with
  | rejected | tracked | acknowledged | rebased | dirtied => rfl
  | flushed hflush => exact hflush.frame.bucketUuid

theorem validateCheckpointIdentity_afterEvent (hlow : window.1 ≤ n) (hhigh : n ≤ window.2)
    (h : validateCheckpointIdentity v bucketUuid c = .ok ()) :
    validateCheckpointIdentity v bucketUuid (c.afterEvent event n window) = .ok () := by
  obtain ⟨hv, huuid, -⟩ := validateCheckpointIdentity_eq_ok.1 h
  rw [validateCheckpointIdentity_eq_ok, DcpCheckpoint.validate_eq_ok]
  simp only [DcpCheckpoint.afterEvent_vbucket, DcpCheckpoint.afterEvent_bucketUuid,
    DcpCheckpoint.afterEvent_snapshotStart, DcpCheckpoint.afterEvent_snapshotEnd,
    DcpCheckpoint.afterEvent_seqno]
  exact ⟨hv, huuid, hlow.trans hhigh, hhigh, .inr hlow⟩

theorem System.step_identified {s : System}
    (hs : ∀ (v : UInt16) p, s.state.partitions[v]? = some p → p.Identified s.bucketUuid v)
    (h : s.step action = some t) :
    ∀ (v : UInt16) p, t.state.partitions[v]? = some p → p.Identified t.bucketUuid v := by
  rw [step_bucketUuid h]
  refine step_holds (P := fun v c => validateCheckpointIdentity v s.bucketUuid c = .ok ()) ?_
    (fun effective _ v c _ hid => hid) hs h
  intro event _ c n window _ hlow hhigh hc
  exact validateCheckpointIdentity_afterEvent hlow hhigh hc

theorem System.new_identified {v : UInt16} (h : System.new config stored checkpoints = .ok s)
    (hp : s.state.partitions[v]? = some p) : p.Identified s.bucketUuid v := by
  obtain ⟨hvalid, hget⟩ := CoordinatorState.new_eq_ok (new_eq_ok h).1
  rw [hget v, Option.map_eq_some_iff] at hp
  obtain ⟨c, hc, rfl⟩ := hp
  exact ⟨hvalid v c hc, by simp [PartitionState.new]⟩

/-- Everything but the durable half and the generation of a partition is the same. -/
structure PartitionState.SameProgress (p q : PartitionState) : Prop where
  processed : q.processed = p.processed
  pending : q.pending = p.pending
  snapshot : q.snapshot = p.snapshot
  lastRegisteredSeqno : q.lastRegisteredSeqno = p.lastRegisteredSeqno
  nextDeliveryId : q.nextDeliveryId = p.nextDeliveryId

theorem PartitionState.SameProgress.refl (p : PartitionState) : p.SameProgress p :=
  ⟨rfl, rfl, rfl, rfl, rfl⟩

inductive PartitionState.Moves (v : UInt16) (p : PartitionState) :
    Action → PartitionState → Prop where
  | same (h : p.SameProgress q) : Moves v p action q
  | tracked (hv : event.vbucket = v) (h : p.trackEvent event = .ok (token, q)) :
      Moves v p (.track event) q
  | acknowledged (hv : token.vbucket = v) (h : p.acknowledge token = (result, q)) :
      Moves v p (.acknowledge token) q
  | rebased (h : effective[v]? = some c) : Moves v p (.rebase effective) (p.rebase c)

theorem System.setPartition_moves {s : System} {v w : UInt16}
    (hp : s.state.partitions[v]? = some p) (hw : s.state.partitions[w]? = some r)
    (hmoves : w = v → PartitionState.Moves v r action q) :
    ∃ q', (s.state.setPartition w q).partitions[v]? = some q' ∧
      PartitionState.Moves v p action q' := by
  rw [CoordinatorState.getElem?_setPartition]
  split
  · rename_i heq
    subst heq
    cases hp.symm.trans hw
    exact ⟨q, rfl, hmoves rfl⟩
  · exact ⟨p, hp, .same (.refl p)⟩

theorem System.flush_moves {s : System} {v : UInt16} (hflush : FlushEffect s action t)
    (hp : s.state.partitions[v]? = some p) :
    ∃ q, t.state.partitions[v]? = some q ∧ p.SameProgress q := by
  have hforth : ∃ q, t.state.partitions[v]? = some q := by
    cases hflush with
    | beginClean | beginDirty | acquire | cancel | snapshotClean | snapshot | write | finish =>
      exact ⟨p, hp⟩
    | gateTimeout | timeout | completeError =>
      refine ⟨p, ?_⟩
      rw [failCall, CoordinatorState.recordFlushFailure_partitions]
      exact hp
    | spawnOverflow _ hattempt | spawn _ hattempt =>
      refine ⟨p, ?_⟩
      rw [recordFlushAttempt_eq hattempt]
      exact hp
    | complete hcall hconfirm =>
      obtain ⟨after, hafter, heq⟩ := Option.map_eq_some_iff.1 hconfirm
      cases heq
      obtain ⟨q, hq⟩ := CoordinatorState.confirmSaved_tracked hafter hp
      exact ⟨q, hq⟩
  obtain ⟨q, hq⟩ := hforth
  obtain ⟨r, hr, rfl | ⟨d, rfl⟩⟩ := hflush.frame.partitions v q hq
  · cases hp.symm.trans hr
    exact ⟨_, hq, .refl _⟩
  · cases hp.symm.trans hr
    exact ⟨_, hq, rfl, rfl, rfl, rfl, rfl⟩

theorem System.step_moves {s : System} {v : UInt16} (h : s.step action = some t)
    (hp : s.state.partitions[v]? = some p) :
    ∃ q, t.state.partitions[v]? = some q ∧ p.Moves v action q := by
  cases step_effect h with
  | rejected => exact ⟨p, hp, .same (.refl p)⟩
  | tracked hr htrack => exact setPartition_moves hp hr fun hv => .tracked hv htrack
  | acknowledged hmem hack =>
    rcases CoordinatorState.acknowledge_cases hack with ⟨-, -, rfl⟩ | ⟨r, q, hr, hq, rfl⟩
    · exact ⟨p, hp, .same (.refl p)⟩
    · exact setPartition_moves hp hr fun hv => .acknowledged hv hq
  | @rebased effective after hvalid hget =>
    refine ⟨p.rebaseIf effective[v]?, by rw [hget, hp]; rfl, ?_⟩
    cases hc : effective[v]? with
    | none => exact .same (.refl p)
    | some c => exact .rebased hc
  | dirtied hr hlt => exact setPartition_moves hp hr fun _ => .same ⟨rfl, rfl, rfl, rfl, rfl⟩
  | flushed hflush =>
    obtain ⟨q, hq, hsame⟩ := flush_moves hflush hp
    exact ⟨q, hq, .same hsame⟩

theorem System.opened_forth {v : UInt16} (h : System.opened config stored checkpoints = .ok s)
    (hc : checkpoints[v]? = some c) : ∃ p, s.state.partitions[v]? = some p := by
  obtain ⟨initial, acts, hnew, hrun⟩ := opened_run h
  have hinitial : ∃ p, initial.state.partitions[v]? = some p := by
    refine ⟨.new c, ?_⟩
    rw [(CoordinatorState.new_eq_ok (new_eq_ok hnew).1).2 v, hc]
    rfl
  refine Machine.run_invariant (P := fun s : System => ∃ p, s.state.partitions[v]? = some p)
    ?_ hinitial hrun
  rintro s act t ⟨p, hp⟩ hstep
  obtain ⟨q, hq, -⟩ := step_moves hstep hp
  exact ⟨q, hq⟩

end RustDcp
