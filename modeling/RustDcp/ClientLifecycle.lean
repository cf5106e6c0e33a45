import RustDcp.StreamRequest

namespace RustDcp
set_option autoImplicit true

structure DcpSubscriptionSpec where
  streamId : Option UInt16
  rollbackHandler : Option RollbackHandler

/-- How far a call of `subscribe` has come. From `reserved` to `passed`, and in `unwinding`, its
uncommitted `ActiveReservation` answers for the flag; from `spawned` on the runtime's guard does. -/
inductive SubscribePhase where
  | starting (spec : DcpSubscriptionSpec)
  | validated
  | reserved
  | prepared
  | locked
  | discarding
  | passed
  | spawned (runtime : Nat)
  | stored (runtime : Nat)
  | committed (runtime : Nat)
  | returned (runtime : Nat)
  | unwinding (error : DcpError)
  | failed (error : DcpError)

/-- The task of a subscription. Its guard exists from the first poll until `run_subscription` is
over, and the completion is sent after that, unless the task has panicked. -/
inductive RuntimePhase where
  | spawned
  | running
  | ended
  | completed
  | finished
  deriving DecidableEq

structure SubscriptionTask where
  phase : RuntimePhase
  completion : Bool
  handle : Bool
  joinLocked : Bool

inductive WaitPhase where
  | locking
  | joining
  | watching
  | done

inductive ClosePhase where
  | starting
  | locked
  | marked
  | waiting (runtime : Nat) (wait : WaitPhase)
  | stopping
  | returned
  | dropped

/-- The client, the calls made on it and the runtimes they have started. `handles` are the calls of
`DcpSubscription::close`, which wait for a runtime too. -/
structure DcpClient where
  rollbackPolicy : RollbackPolicy
  active : Bool
  closed : Bool
  lifecycle : Bool
  subscription : Option Nat
  tasks : List SubscriptionTask
  subscribes : List SubscribePhase
  closes : List ClosePhase
  handles : List (Nat × WaitPhase)

/-- The step that is taken next. `prepared` is what `prepare_subscription` returns if the call is
there, and `panics` says that the task ends without a completion. -/
inductive ClientAction where
  | subscribe (spec : DcpSubscriptionSpec)
  | subscribeStep (call : Nat) (prepared : Result Unit)
  | taskStep (runtime : Nat) (panics : Bool)
  | close
  | closeStep (call : Nat)
  | closeDrop (call : Nat)
  | handleClose (runtime : Nat)
  | handleStep (call : Nat)
  | handleDrop (call : Nat)

namespace DcpClient

def connected (rollbackPolicy : RollbackPolicy) : DcpClient :=
  { rollbackPolicy
    active := false
    closed := false
    lifecycle := false
    subscription := none
    tasks := []
    subscribes := []
    closes := []
    handles := [] }

def validateSubscriptionSpec (client : DcpClient) (spec : DcpSubscriptionSpec) : Result Unit :=
  if client.closed then .error .cancelled
  else if spec.streamId = some 0 then
    .error (.invalidConfiguration "DCP stream ID must be non-zero")
  else if client.rollbackPolicy = .delegateToHandler ∧ spec.rollbackHandler.isNone then
    .error (.invalidConfiguration
      "DelegateToHandler rollback policy requires a rollback handler")
  else .ok ()

/-- The next step of `subscribe`, from one suspension or access to shared state to the next. A call
that waits for the lifecycle lock has none. -/
def subscribeNext (client : DcpClient) (prepared : Result Unit) :
    SubscribePhase → Option (DcpClient × SubscribePhase)
  | .starting spec =>
    match client.validateSubscriptionSpec spec with
    | .error error => some (client, .failed error)
    | .ok () => some (client, .validated)
  | .validated =>
    if client.active then
      some (client, .failed (.invalidConfiguration
        "this DCP client already has an active subscription"))
    else some ({ client with active := true }, .reserved)
  | .reserved =>
    match prepared with
    | .error error => some (client, .unwinding error)
    | .ok () => some (client, .prepared)
  | .prepared =>
    if client.lifecycle then none else some ({ client with lifecycle := true }, .locked)
  | .locked => if client.closed then some (client, .discarding) else some (client, .passed)
  | .discarding => some ({ client with lifecycle := false }, .unwinding .cancelled)
  | .passed =>
    some ({ client with
      tasks := client.tasks ++
        [{ phase := .spawned, completion := false, handle := true, joinLocked := false }] },
      .spawned client.tasks.length)
  | .spawned runtime => some ({ client with subscription := some runtime }, .stored runtime)
  | .stored runtime => some (client, .committed runtime)
  | .committed runtime => some ({ client with lifecycle := false }, .returned runtime)
  | .unwinding error => some ({ client with active := false }, .failed error)
  | .returned _ => none
  | .failed _ => none

/-- The next step of a task; the guard resets the flag when `run_subscription` is over. -/
def taskNext (client : DcpClient) (panics : Bool) (task : SubscriptionTask) :
    Option (DcpClient × SubscriptionTask) :=
  match task.phase with
  | .spawned => some (client, { task with phase := .running })
  | .running => some ({ client with active := false }, { task with phase := .ended })
  | .ended =>
    if panics then some (client, { task with phase := .finished })
    else some (client, { task with phase := .completed, completion := true })
  | .completed => some (client, { task with phase := .finished })
  | .finished => none

/-- The next step of `wait`. The lock of the join handle is held while the task is joined. -/
def waitNext (task : SubscriptionTask) : WaitPhase → Option (SubscriptionTask × WaitPhase)
  | .locking =>
    if task.joinLocked then none
    else if task.handle then some ({ task with handle := false, joinLocked := true }, .joining)
    else some (task, .watching)
  | .joining =>
    if task.phase = .finished then some ({ task with joinLocked := false }, .done) else none
  | .watching => if task.completion ∨ task.phase = .finished then some (task, .done) else none
  | .done => none

def setTask (client : DcpClient) (runtime : Nat) (task : SubscriptionTask) : DcpClient :=
  { client with tasks := client.tasks.set runtime task }

def closeNext (client : DcpClient) : ClosePhase → Option (DcpClient × ClosePhase)
  | .starting =>
    if client.lifecycle then none else some ({ client with lifecycle := true }, .locked)
  | .locked => some ({ client with closed := true }, .marked)
  | .marked =>
    match client.subscription with
    | none => some ({ client with lifecycle := false }, .stopping)
    | some runtime => some ({ client with lifecycle := false }, .waiting runtime .locking)
  | .waiting _ .done => some (client, .stopping)
  | .waiting runtime wait =>
    match client.tasks[runtime]? with
    | none => none
    | some task =>
      (waitNext task wait).map fun (task, wait) =>
        (client.setTask runtime task, .waiting runtime wait)
  | .stopping => some (client, .returned)
  | .returned => none
  | .dropped => none

/-- A wait that is dropped while it joins gives the lock back, without the handle. -/
def waitDrop (client : DcpClient) (runtime : Nat) : WaitPhase → DcpClient
  | .joining =>
    match client.tasks[runtime]? with
    | none => client
    | some task => client.setTask runtime { task with joinLocked := false }
  | .locking => client
  | .watching => client
  | .done => client

def closeDropped (client : DcpClient) : ClosePhase → Option (DcpClient × ClosePhase)
  | .starting => some (client, .dropped)
  | .locked => some ({ client with lifecycle := false }, .dropped)
  | .marked => some ({ client with lifecycle := false }, .dropped)
  | .waiting runtime wait => some (client.waitDrop runtime wait, .dropped)
  | .stopping => some (client, .dropped)
  | .returned => none
  | .dropped => none

def step (client : DcpClient) : ClientAction → Option DcpClient
  | .subscribe spec => some { client with subscribes := client.subscribes ++ [.starting spec] }
  | .subscribeStep call prepared =>
    match client.subscribes[call]? with
    | none => none
    | some phase =>
      (client.subscribeNext prepared phase).map fun (client, phase) =>
        { client with subscribes := client.subscribes.set call phase }
  | .taskStep runtime panics =>
    match client.tasks[runtime]? with
    | none => none
    | some task =>
      (client.taskNext panics task).map fun (client, task) => client.setTask runtime task
  | .close => some { client with closes := client.closes ++ [.starting] }
  | .closeStep call =>
    match client.closes[call]? with
    | none => none
    | some phase =>
      (client.closeNext phase).map fun (client, phase) =>
        { client with closes := client.closes.set call phase }
  | .closeDrop call =>
    match client.closes[call]? with
    | none => none
    | some phase =>
      (client.closeDropped phase).map fun (client, phase) =>
        { client with closes := client.closes.set call phase }
  | .handleClose runtime => some { client with handles := client.handles ++ [(runtime, .locking)] }
  | .handleStep call =>
    match client.handles[call]? with
    | none => none
    | some (runtime, wait) =>
      match client.tasks[runtime]? with
      | none => none
      | some task =>
        (waitNext task wait).map fun (task, wait) =>
          { client.setTask runtime task with handles := client.handles.set call (runtime, wait) }
  | .handleDrop call =>
    match client.handles[call]? with
    | none => none
    | some (runtime, wait) =>
      some { client.waitDrop runtime wait with handles := client.handles.set call (runtime, .done) }

end DcpClient

end RustDcp
