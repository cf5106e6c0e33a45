import RustDcp.CheckpointServer
import RustDcp.ClusterRouting
import RustDcp.CouchbaseStoreAgreement
import RustDcp.OrderedMap

namespace RustDcp
set_option autoImplicit true

open Dialogue CouchbaseCheckpointStore

/-- The futures of a call, one a vBucket, and what the call has made of those that have ended. -/
structure Futures (α β : Type) where
  collection : CheckpointCollection Bytes
  running : BTreeMap UInt16 (KvClient α)
  collected : β

/-- A future has an exchange with a node, or the call takes the result of one that has ended. -/
inductive Futures.Step (server : CheckpointServer) (collect : UInt16 → Result α → β → Option β) :
    Futures α β → Futures α β → Prop
  | exchange {s : Futures α β} {vbucket : UInt16}
      (hrunning : s.running[vbucket]? = some (.ask command next))
      (hserves : server.Serves s.collection ⟨command, reply⟩ after) :
      Step server collect s { s with
        collection := after
        running := s.running.insert vbucket (next reply) }
  | collect {s : Futures α β} {vbucket : UInt16} {later : β}
      (hrunning : s.running[vbucket]? = some (.done result))
      (hcollect : collect vbucket result s.collected = some later) :
      Step server collect s { s with running := s.running.erase vbucket, collected := later }

/-- What a store of checkpoints over KV connections is made of. -/
structure KvCheckpointStore where
  env : KvEnvironment
  json : DocumentJson Bytes
  adapter : CouchbaseKvCheckpointCollection
  store : CouchbaseCheckpointStore

namespace KvCheckpointStore

variable (self : KvCheckpointStore) (server : CheckpointServer)

def get (vbucket : UInt16) : KvClient (Option Bytes) :=
  self.adapter.getXattr self.env (self.store.checkpointKey vbucket) checkpointXattr

def put (vbucket : UInt16) : Option Bytes → KvClient Unit
  | some value =>
    self.adapter.upsertXattr self.env (self.store.checkpointKey vbucket) checkpointXattr value
  | none => self.adapter.removeDocument self.env (self.store.checkpointKey vbucket)

def checkedPut (vbucket : UInt16) (task : WriteTask Bytes) (existing : Option Bytes) :
    KvClient Unit := do
  checkExisting self.json vbucket task.expectedBucketUuid existing
  self.put vbucket task.value

/-- The future of one vBucket in `save` and `clear`. -/
def writeFuture (vbucket : UInt16) (task : WriteTask Bytes) : KvClient Unit := do
  let existing ← self.get vbucket
  self.checkedPut vbucket task existing

def collectWrite (vbucket : UInt16) (result : Result Unit) (failures : List String) :
    Option (List String) :=
  some (failures ++ failure vbucket result)

def collectRead (bucketUuid : String) (vbucket : UInt16) (result : Result (Option Bytes)) :
    Result (BTreeMap UInt16 DcpCheckpoint) → Option (Result (BTreeMap UInt16 DcpCheckpoint))
  | .ok checkpoints => some (addLoaded self.json bucketUuid vbucket checkpoints result)
  | .error _ => none

def RunsWrites (operation : String) (before : CheckpointCollection Bytes)
    (tasks : BTreeMap UInt16 (WriteTask Bytes)) (result : Result Unit)
    (after : CheckpointCollection Bytes) : Prop :=
  ∃ failures, Relation.ReflTransGen (Futures.Step server collectWrite)
      ⟨before, tasks.map self.writeFuture, []⟩ ⟨after, ∅, failures⟩ ∧
    result = collectCouchbaseWrites operation failures

def Saves (before : CheckpointCollection Bytes) (checkpoints : List DcpCheckpoint)
    (result : Result Unit) (after : CheckpointCollection Bytes) : Prop :=
  match serializeCheckpointBatch checkpoints with
  | .error error => result = .error error ∧ after = before
  | .ok documents =>
    self.RunsWrites server "save" before (saveTasks self.json documents) result after

def Clears (before : CheckpointCollection Bytes) (bucketUuid : String) (vbuckets : List UInt16)
    (result : Result Unit) (after : CheckpointCollection Bytes) : Prop :=
  match validateVbuckets vbuckets with
  | .error error => result = .error error ∧ after = before
  | .ok () => self.RunsWrites server "clear" before (clearTasks bucketUuid vbuckets) result after

/-- The futures that are left after an error are dropped. -/
def Loads (before : CheckpointCollection Bytes) (bucketUuid : String) (vbuckets : List UInt16)
    (result : Result (BTreeMap UInt16 DcpCheckpoint)) (after : CheckpointCollection Bytes) : Prop :=
  match validateVbuckets vbuckets with
  | .error error => result = .error error ∧ after = before
  | .ok () => ∃ left, Relation.ReflTransGen (Futures.Step server (self.collectRead bucketUuid))
      ⟨before, Std.ExtTreeMap.ofList (vbuckets.map fun vbucket =>
        (vbucket, self.get vbucket)) compare,
        .ok ∅⟩ ⟨after, left, result⟩ ∧ (left = ∅ ∨ CheckpointServer.Failed result)

def Call (before : CheckpointCollection Bytes) (c : StoreCall) (reply : Result StoreReply)
    (after : CheckpointCollection Bytes) : Prop :=
  match c with
  | .load bucketUuid vbuckets =>
    ∃ result, self.Loads server before bucketUuid vbuckets result after ∧ reply = .loaded <$> result
  | .save checkpoints =>
    ∃ result, self.Saves server before checkpoints result after ∧
      reply = (fun _ => .done) <$> result
  | .clear bucketUuid vbuckets =>
    ∃ result, self.Clears server before bucketUuid vbuckets result after ∧
      reply = (fun _ => .done) <$> result

/-- A sequence of calls with their replies. -/
inductive Calls : CheckpointCollection Bytes → List StoreCall → List (Result StoreReply) →
    CheckpointCollection Bytes → Prop
  | nil : Calls before [] [] before
  | cons {c : StoreCall} {rest : List StoreCall} (hcall : self.Call server before c reply between)
      (hrest : Calls between rest replies after) : Calls before (c :: rest) (reply :: replies) after

section

variable {self : KvCheckpointStore} {server : CheckpointServer}

/-- How far a future of a write is: it settles its read, or its write, or it has ended. -/
def Phase (self : KvCheckpointStore) (server : CheckpointServer) (vbucket : UInt16)
    (task : WriteTask Bytes) (future : KvClient Unit) : WritePhase → Prop
  | .reading => ∃ first : KvClient (Option Bytes),
      first.Settles server.Possible server.Silent (server.Reads (self.store.checkpointKey vbucket))
        CheckpointServer.Failed ∧
      future = first >>= self.checkedPut vbucket task
  | .writing => future.Settles server.Possible server.Silent
      (server.Writes (self.store.checkpointKey vbucket) task.value) CheckpointServer.Failed
  | .finished result => future = .done result

theorem get_settles (hcollection : self.adapter.collection = server.collection) (vbucket : UInt16) :
    (self.get vbucket).Settles server.Possible server.Silent
      (server.Reads (self.store.checkpointKey vbucket)) CheckpointServer.Failed :=
  CouchbaseKvCheckpointCollection.getXattr_settles self.env hcollection _

theorem put_settles (hcollection : self.adapter.collection = server.collection) (vbucket : UInt16)
    (value : Option Bytes) : (self.put vbucket value).Settles server.Possible server.Silent
      (server.Writes (self.store.checkpointKey vbucket) value) CheckpointServer.Failed := by
  cases value with
  | some value =>
    exact CouchbaseKvCheckpointCollection.upsertXattr_settles self.env hcollection _ value
  | none => exact CouchbaseKvCheckpointCollection.removeDocument_settles self.env hcollection _

theorem phase_start (hcollection : self.adapter.collection = server.collection) (vbucket : UInt16)
    (task : WriteTask Bytes) :
    self.Phase server vbucket task (self.writeFuture vbucket task) .reading :=
  ⟨self.get vbucket, get_settles hcollection vbucket, rfl⟩

theorem phase_afterRead (hcollection : self.adapter.collection = server.collection)
    (vbucket : UInt16) (task : WriteTask Bytes) (existing : Option Bytes) (answer : Answer) :
    self.Phase server vbucket task
      ((liftM ((fun _ => existing) <$> answer.result) : KvClient (Option Bytes)) >>=
        self.checkedPut vbucket task) (afterRead self.json vbucket task existing answer) := by
  cases answer with
  | failed error => rfl
  | lost error => rfl
  | done =>
    simp only [afterRead]
    cases hcheck : checkExisting self.json vbucket task.expectedBucketUuid existing with
    | error error =>
      change self.checkedPut vbucket task existing = _
      rw [checkedPut, hcheck]
      rfl
    | ok _ =>
      change (self.checkedPut vbucket task existing).Settles _ _ _ _
      rw [checkedPut, hcheck]
      exact put_settles hcollection vbucket task.value

theorem Phase.exchange (hcollection : self.adapter.collection = server.collection)
    (h : self.Phase server vbucket task (.ask command next) phase)
    (hserves : server.Serves before ⟨command, reply⟩ after) :
    after = before ∧ self.Phase server vbucket task (next reply) phase ∨
    (∃ answer, phase = .reading ∧ after = before ∧ self.Phase server vbucket task (next reply)
      (afterRead self.json vbucket task before[self.store.checkpointKey vbucket]? answer)) ∨
    ∃ answer, phase = .writing ∧
      after = afterWrite before (self.store.checkpointKey vbucket) task.value answer ∧
      self.Phase server vbucket task (next reply) (.finished answer.result) := by
  have hpossible : server.Possible ⟨command, reply⟩ := ⟨before, after, hserves⟩
  cases phase with
  | reading =>
    obtain ⟨first, hfirst, hsame⟩ := h
    rcases hfirst.of_bind_ask hsame.symm hpossible with ⟨hsilent, later, hlater, hnext⟩ |
      ⟨result, hnext, hreads⟩
    · exact .inl ⟨hsilent _ _ hserves, later, hlater, hnext⟩
    · obtain ⟨hkept, answer, rfl⟩ := hreads _ _ hserves
      refine .inr (.inl ⟨answer, rfl, hkept, ?_⟩)
      rw [hnext]
      exact phase_afterRead hcollection vbucket task _ answer
  | writing =>
    rcases h reply hpossible with ⟨hsilent, hnext⟩ | ⟨result, hnext, hwrites⟩
    · exact .inl ⟨hsilent _ _ hserves, hnext⟩
    · obtain ⟨answer, rfl, hafter⟩ := hwrites _ _ hserves
      exact .inr (.inr ⟨answer, rfl, hafter, hnext⟩)
  | finished result => cases h

theorem Phase.done (h : self.Phase server vbucket task (.done result) phase) :
    phase = .finished result ∨
      ∃ error, result = .error error ∧ (phase = .reading ∨ phase = .writing) := by
  cases phase with
  | reading =>
    obtain ⟨first, hfirst, hsame⟩ := h
    obtain ⟨error, rfl⟩ := hfirst.of_bind_done hsame.symm
    exact .inr ⟨error, rfl, .inl rfl⟩
  | writing =>
    obtain ⟨error, rfl⟩ := h
    exact .inr ⟨error, rfl, .inr rfl⟩
  | finished ended =>
    cases h
    exact .inl rfl

structure SimulatesWrites (kv : KvCheckpointStore) (server : CheckpointServer)
    (tasks : BTreeMap UInt16 (WriteTask Bytes)) (s : Futures Unit (List String))
    (w : Writes Bytes) :
    Prop where
  collection : w.collection = s.collection
  failures : w.failures = s.collected
  futures : OrderedMap.Pointwise (fun vbucket future phase =>
    ∃ task, tasks[vbucket]? = some task ∧ kv.Phase server vbucket task future phase)
    s.running w.pending

theorem erase_insert (map : BTreeMap UInt16 α) (vbucket : UInt16) (value : α) :
    (map.insert vbucket value).erase vbucket = map.erase vbucket := by
  apply Std.ExtTreeMap.ext_getElem?
  intro other
  simp only [Std.ExtTreeMap.getElem?_erase, Std.ExtTreeMap.getElem?_insert]
  split <;> rfl

theorem finish_write (json : DocumentJson Bytes) (store : CouchbaseCheckpointStore)
    {tasks : BTreeMap UInt16 (WriteTask Bytes)} (w : Writes Bytes)
    (htask : tasks[vbucket]? = some task) (hpending : w.pending[vbucket]? = some phase)
    (h : phase = .finished result ∨
      ∃ error, result = .error error ∧ (phase = .reading ∨ phase = .writing)) :
    ∃ acts pending, Machine.run (writeStep json store tasks) w acts = some { w with pending } ∧
      pending[vbucket]? = some (.finished result) ∧
      pending.erase vbucket = w.pending.erase vbucket := by
  rcases h with rfl | ⟨error, rfl, rfl | rfl⟩
  · exact ⟨[], w.pending, rfl, hpending, rfl⟩
  · refine ⟨[.read vbucket (.failed error)], w.pending.insert vbucket (.finished (.error error)),
      ?_, Std.ExtTreeMap.getElem?_insert_self, erase_insert ..⟩
    simp only [Machine.run_cons_iff, writeStep, htask, hpending]
    exact ⟨_, rfl, rfl⟩
  · refine ⟨[.write vbucket (.failed error)], w.pending.insert vbucket (.finished (.error error)),
      ?_, Std.ExtTreeMap.getElem?_insert_self, erase_insert ..⟩
    simp only [Machine.run_cons_iff, writeStep, htask, hpending]
    exact ⟨_, rfl, rfl⟩

theorem SimulatesWrites.step (hcollection : self.adapter.collection = server.collection)
    (h : self.SimulatesWrites server tasks s w) (hstep : Futures.Step server collectWrite s t) :
    ∃ acts u, Machine.run (writeStep self.json self.store tasks) w acts = some u ∧
      self.SimulatesWrites server tasks t u := by
  obtain ⟨collection, pending, failures⟩ := w
  obtain rfl : collection = s.collection := h.collection
  obtain rfl : failures = s.collected := h.failures
  cases hstep with
  | @exchange command next reply after _ vbucket hrunning hserves =>
    obtain ⟨phase, hpending, task, htask, hphase⟩ := h.futures.get hrunning
    dsimp only at hpending
    rcases hphase.exchange hcollection hserves with ⟨rfl, hnext⟩ | ⟨answer, rfl, rfl, hnext⟩ |
      ⟨answer, rfl, rfl, hnext⟩
    · exact ⟨[], _, rfl, rfl, rfl, h.futures.insert_left hpending ⟨task, htask, hnext⟩⟩
    · refine ⟨[.read vbucket answer], ⟨_, _, _⟩, ?_, rfl, rfl,
        h.futures.insert ⟨task, htask, hnext⟩⟩
      simp only [Machine.run_cons_iff, writeStep, htask, hpending]
      exact ⟨_, rfl, rfl⟩
    · refine ⟨[.write vbucket answer], ⟨_, _, _⟩, ?_, rfl, rfl,
        h.futures.insert ⟨task, htask, hnext⟩⟩
      simp only [Machine.run_cons_iff, writeStep, htask, hpending]
      exact ⟨_, rfl, rfl⟩
  | @collect result _ vbucket later hrunning hcollect =>
    obtain ⟨phase, hpending, task, htask, hphase⟩ := h.futures.get hrunning
    dsimp only at hpending
    cases hcollect
    -- a failure without the exchange of the phase is one more action of the model
    obtain ⟨acts, finished, hrun, hfinished, herase⟩ :=
      finish_write self.json self.store ⟨_, pending, _⟩ htask hpending hphase.done
    refine ⟨acts ++ [.collect vbucket], ⟨_, _, _⟩, ?_, rfl, rfl, h.futures.erase vbucket⟩
    rw [Machine.run_snoc]
    refine ⟨_, hrun, ?_⟩
    simp only [writeStep, hfinished, herase]
    rfl

theorem RunsWrites.simulated (hcollection : self.adapter.collection = server.collection)
    (h : self.RunsWrites server operation before tasks result after) :
    ∃ schedule, runWrites self.json self.store operation before tasks schedule =
      some (result, after) := by
  obtain ⟨failures, hrun, rfl⟩ := h
  have hstart : self.SimulatesWrites server tasks ⟨before, tasks.map self.writeFuture, []⟩
      ⟨before, tasks.map fun _ _ => .reading, []⟩ := by
    refine ⟨rfl, rfl, fun vbucket => ?_⟩
    simp only [Std.ExtTreeMap.getElem?_map]
    cases htask : tasks[vbucket]? with
    | none => exact .none
    | some task => exact .some ⟨task, rfl, phase_start hcollection vbucket task⟩
  obtain ⟨schedule, w, hschedule, hend⟩ :=
    Machine.run_of_simulation (fun _ _ _ hsim hstep => hsim.step hcollection hstep) hstart hrun
  refine ⟨schedule, ?_⟩
  rw [runWrites, hschedule]
  simp only [hend.collection, hend.failures, hend.futures.eq_empty]
  rfl

/-- How far a future of `load` is: it settles its read, or it has ended. -/
def Awaits (self : KvCheckpointStore) (server : CheckpointServer) (vbucket : UInt16)
    (future : KvClient (Option Bytes)) : Option (Result (Option Bytes)) → Prop
  | none => future.Settles server.Possible server.Silent
      (server.Reads (self.store.checkpointKey vbucket)) CheckpointServer.Failed
  | some result => future = .done result

/-- The state of the model that a state of the futures of `load` stands for. -/
structure SimulatesReads (kv : KvCheckpointStore) (server : CheckpointServer)
    (before : CheckpointCollection Bytes)
    (s : Futures (Option Bytes) (Result (BTreeMap UInt16 DcpCheckpoint))) (r : Reads Bytes) :
    Prop where
  collection : s.collection = before
  checkpoints : r.checkpoints = s.collected
  futures : OrderedMap.Pointwise (kv.Awaits server) s.running r.pending

theorem SimulatesReads.step (h : self.SimulatesReads server before s r)
    (hstep : Futures.Step server (self.collectRead bucketUuid) s t) :
    ∃ acts u, Machine.run (readStep self.json self.store before bucketUuid) r acts = some u ∧
      self.SimulatesReads server before t u := by
  obtain ⟨pending, checkpoints⟩ := r
  obtain rfl : checkpoints = s.collected := h.checkpoints
  obtain rfl := h.collection
  cases hstep with
  | @exchange command next reply after _ vbucket hrunning hserves =>
    obtain ⟨entry, hpending, hentry⟩ := h.futures.get hrunning
    dsimp only at hpending
    cases entry with
    | some result => cases hentry
    | none =>
      rcases hentry reply ⟨_, _, hserves⟩ with ⟨hsilent, hnext⟩ | ⟨result, hnext, hreads⟩
      · exact ⟨[], _, rfl, hsilent _ _ hserves, rfl, h.futures.insert_left hpending hnext⟩
      · obtain ⟨hsame, answer, rfl⟩ := hreads _ _ hserves
        have hended : self.Awaits server vbucket (next reply)
            (some ((fun _ => s.collection[self.store.checkpointKey vbucket]?) <$> answer.result)) :=
          hnext
        refine ⟨[.read vbucket answer], ⟨_, _⟩, ?_, hsame, rfl, h.futures.insert hended⟩
        simp only [Machine.run_cons_iff, readStep, hpending]
        exact ⟨_, rfl, rfl⟩
  | @collect result _ vbucket later hrunning hcollect =>
    obtain ⟨entry, hpending, hentry⟩ := h.futures.get hrunning
    dsimp only at hpending
    have herased := h.futures.erase vbucket
    cases hcollected : s.collected with
    | error error =>
      rw [hcollected] at hcollect
      cases hcollect
    | ok checkpoints =>
      rw [hcollected] at hcollect
      cases hcollect
      cases entry with
      | some ended =>
        cases hentry
        refine ⟨[.collect vbucket], ⟨_, _⟩, ?_, rfl, rfl, herased⟩
        simp only [Machine.run_cons_iff, readStep, hpending]
        exact ⟨_, rfl, rfl⟩
      | none =>
        -- a failure without the exchange is one more action of the model
        obtain ⟨error, rfl⟩ := hentry
        refine ⟨[.read vbucket (.failed error), .collect vbucket], ⟨_, _⟩, ?_, rfl, rfl, herased⟩
        simp only [Machine.run_cons_iff, readStep, hpending]
        refine ⟨_, rfl, _, ?_, rfl⟩
        simp only [Std.ExtTreeMap.getElem?_insert_self, erase_insert]
        rfl

theorem Loads.simulated (hcollection : self.adapter.collection = server.collection)
    (h : self.Loads server before bucketUuid vbuckets result after) :
    after = before ∧ ∃ schedule,
      load self.json self.store before bucketUuid vbuckets schedule = some result := by
  rw [Loads] at h
  split at h <;> rename_i hvalid
  · obtain ⟨rfl, rfl⟩ := h
    refine ⟨rfl, [], ?_⟩
    rw [load, hvalid]
  · obtain ⟨left, hrun, hleft⟩ := h
    have hstart : self.SimulatesReads server before
        ⟨before, Std.ExtTreeMap.ofList (vbuckets.map fun vbucket =>
          (vbucket, self.get vbucket)) compare,
          .ok ∅⟩ ⟨loadFutures vbuckets, .ok ∅⟩ := by
      refine ⟨rfl, rfl, fun vbucket => ?_⟩
      have hnodup := validateVbuckets_eq_ok.1 hvalid
      rw [loadFutures, getElem?_ofList_map _ hnodup, getElem?_ofList_map _ hnodup]
      split
      · exact .some (get_settles hcollection vbucket)
      · exact .none
    obtain ⟨schedule, r, hschedule, hend⟩ :=
      Machine.run_of_simulation (fun _ _ _ hsim hstep => hsim.step hstep) hstart hrun
    refine ⟨hend.collection, schedule, ?_⟩
    rw [load, hvalid]
    simp only [hschedule]
    obtain ⟨pending, checkpoints⟩ := r
    obtain rfl : checkpoints = result := hend.checkpoints
    rcases hleft with rfl | ⟨error, rfl⟩
    · obtain rfl : pending = ∅ := hend.futures.eq_empty
      cases checkpoints with
      | error error => rfl
      | ok checkpoints => rfl
    · rfl

theorem Call.simulated (hcollection : self.adapter.collection = server.collection)
    (h : self.Call server before c reply after) :
    ∃ schedule, call self.json self.store before schedule c = some (reply, after) := by
  cases c with
  | load bucketUuid vbuckets =>
    obtain ⟨result, hload, rfl⟩ := h
    obtain ⟨rfl, schedule, hschedule⟩ := hload.simulated hcollection
    refine ⟨schedule, ?_⟩
    rw [call, hschedule]
    rfl
  | save checkpoints =>
    obtain ⟨result, hsave, rfl⟩ := h
    rw [Saves] at hsave
    split at hsave <;> rename_i hdocuments
    · obtain ⟨rfl, rfl⟩ := hsave
      refine ⟨[], ?_⟩
      simp only [call, save, hdocuments]
      rfl
    · obtain ⟨schedule, hschedule⟩ := hsave.simulated hcollection
      refine ⟨schedule, ?_⟩
      simp only [call, save, hdocuments, hschedule]
      rfl
  | clear bucketUuid vbuckets =>
    obtain ⟨result, hclear, rfl⟩ := h
    rw [Clears] at hclear
    split at hclear <;> rename_i hvalid
    · obtain ⟨rfl, rfl⟩ := hclear
      refine ⟨[], ?_⟩
      simp only [call, clear, hvalid]
      rfl
    · obtain ⟨schedule, hschedule⟩ := hclear.simulated hcollection
      refine ⟨schedule, ?_⟩
      simp only [call, clear, hvalid, hschedule]
      rfl

/-- The calls of the store over KV connections are calls of the store on the collection, whose
operations are atomic. -/
theorem calls_refine (self : KvCheckpointStore) (server : CheckpointServer)
    (hcollection : self.adapter.collection = server.collection)
    {requested : List StoreCall} (h : self.Calls server before requested replies after) :
    ∃ scheduled : List (StoreCall × List CallAction), scheduled.map Prod.fst = requested ∧
      CouchbaseCheckpointStore.calls self.json self.store before scheduled =
        some (replies, after) := by
  induction h with
  | nil => exact ⟨[], rfl, rfl⟩
  | @cons before reply between replies after c rest hcall _ ih =>
    obtain ⟨schedule, hschedule⟩ := hcall.simulated hcollection
    obtain ⟨scheduled, rfl, hscheduled⟩ := ih
    refine ⟨(c, schedule) :: scheduled, rfl, ?_⟩
    rw [CouchbaseCheckpointStore.calls, hschedule]
    simp only [hscheduled]
    rfl

end

section

variable {server : CheckpointServer}
  {handle : CheckpointCollection Bytes → (command : KvCommand) → command.Reply ×
    CheckpointCollection Bytes}

theorem conducted {collect : UInt16 → Result α → β → Option β}
    (hhandle : ∀ collection command, server.Serves collection
      ⟨command, (handle collection command).1⟩ (handle collection command).2)
    {s : Futures α β} (hrunning : s.running[vbucket]? = some future) :
    Relation.ReflTransGen (Futures.Step server collect) s { s with
      collection := (future.conduct handle s.collection).2.2
      running := s.running.insert vbucket (.done (future.conduct handle s.collection).1) } := by
  induction future generalizing s with
  | done result =>
    have hsame : s.running.insert vbucket (.done result) = s.running := by
      apply Std.ExtTreeMap.ext_getElem?
      intro other
      rw [Std.ExtTreeMap.getElem?_insert]
      split <;> rename_i hother
      · rw [← Std.compare_eq_iff_eq.1 hother, hrunning]
      · rfl
    simp only [conduct, hsame]
    exact .refl
  | ask command next ih =>
    refine .head (.exchange hrunning (hhandle s.collection command)) ?_
    have hrest := ih (handle s.collection command).1 (s := { s with
      collection := (handle s.collection command).2
      running := s.running.insert vbucket (next (handle s.collection command).1) })
      Std.ExtTreeMap.getElem?_insert_self
    have hsame : ∀ value, (s.running.insert vbucket (next (handle s.collection command).1)).insert
        vbucket value = s.running.insert vbucket value := by
      intro value
      apply Std.ExtTreeMap.ext_getElem?
      intro other
      simp only [Std.ExtTreeMap.getElem?_insert]
      split <;> rfl
    simp only [hsame] at hrest
    exact hrest

theorem conducted_alone (vbucket : UInt16) {collect : UInt16 → Result α → β → Option β}
    {collected later : β}
    (hhandle : ∀ collection command, server.Serves collection
      ⟨command, (handle collection command).1⟩ (handle collection command).2)
    (hcollect : collect vbucket (future.conduct handle before).1 collected = some later)
    (hrunning : ∀ other : UInt16, running[other]? = if vbucket = other then some future else none) :
    Relation.ReflTransGen (Futures.Step server collect) ⟨before, running, collected⟩
      ⟨(future.conduct handle before).2.2, ∅, later⟩ := by
  refine .tail (conducted hhandle ((hrunning vbucket).trans (if_pos rfl))) ?_
  have hempty : (running.insert vbucket (.done (future.conduct handle before).1)).erase vbucket =
      ∅ := by
    apply Std.ExtTreeMap.ext_getElem?
    intro other
    rw [erase_insert, Std.ExtTreeMap.getElem?_erase, hrunning]
    by_cases hother : vbucket = other
    · simp [hother]
    · simp [hother]
  rw [← hempty]
  exact .collect Std.ExtTreeMap.getElem?_insert_self hcollect

end

def unary (numbers : List Nat) : Bytes := numbers.flatMap fun n => List.replicate n 1 ++ [0]

def readUnary (n : Nat) : Bytes → List Nat
  | [] => []
  | byte :: bytes => if byte = 0 then n :: readUnary 0 bytes else readUnary (n + 1) bytes

theorem readUnary_replicate (n m : Nat) (bytes : Bytes) :
    readUnary n (List.replicate m 1 ++ 0 :: bytes) = (n + m) :: readUnary 0 bytes := by
  induction m generalizing n with
  | zero => rfl
  | succ m ih =>
    rw [List.replicate_succ, List.cons_append, readUnary, if_neg (by decide), ih]
    congr 1
    omega

theorem readUnary_unary (numbers : List Nat) : readUnary 0 (unary numbers) = numbers := by
  induction numbers with
  | nil => rfl
  | cons n numbers ih =>
    rw [unary, List.flatMap_cons, List.append_assoc, List.singleton_append, readUnary_replicate,
      Nat.zero_add]
    exact congrArg (n :: ·) ih

def unaryJson : DocumentJson Bytes where
  toVec document := unary ([document.checkpoint.snapshot.startSeqno,
    document.checkpoint.snapshot.endSeqno, document.checkpoint.vbucketUuid,
    document.checkpoint.seqno, (document.manifestUid.map (· + 1)).getD 0] ++
      document.bucketUuid.toList.map Char.toNat)
  fromSlice bytes :=
    match readUnary 0 bytes with
    | startSeqno :: endSeqno :: vbucketUuid :: seqno :: manifest :: chars => .ok {
        checkpoint := { snapshot := { startSeqno, endSeqno }, vbucketUuid, seqno }
        bucketUuid := String.ofList (chars.map Char.ofNat)
        manifestUid := if manifest = 0 then none else some (manifest - 1) }
    | _ => .error "missing field"
  fromSlice_toVec document := by
    have hchars : (document.bucketUuid.toList.map Char.toNat).map Char.ofNat =
        document.bucketUuid.toList := by
      rw [List.map_map]
      exact (List.map_congr_left fun c _ => Char.ofNat_toNat c).trans (List.map_id _)
    obtain ⟨⟨⟨startSeqno, endSeqno⟩, vbucketUuid, seqno⟩, bucketUuid, manifestUid⟩ := document
    simp only [readUnary_unary, List.cons_append, List.nil_append, hchars, String.ofList_toList]
    cases manifestUid <;> rfl

def sampleServer : CheckpointServer where
  collection := ⟨"_default", "_default"⟩
  cid := 0
  default _ := rfl

def sampleKey : String := sampleStore.checkpointKey 3

def sampleHandle (collection : CheckpointCollection Bytes) :
    (command : KvCommand) → command.Reply × CheckpointCollection Bytes
  | .request _ frame =>
    if frame.opcode = Opcode.subdocMultiLookup ∧ frame.key = asBytes sampleKey then
      match collection[sampleKey]? with
      | some value => (.ok { grant frame with
          value := putU16 Status.success ++ putU32 (.ofNat value.length) ++ value }, collection)
      | none => (.ok { grant frame with status := Status.keyNotFound }, collection)
    else if frame.opcode = Opcode.subdocMultiMutation ∧ frame.key = asBytes sampleKey then
      (.ok (grant frame), collection.insert sampleKey (frame.value.drop 12))
    else if frame.opcode ∈ Opcode.subdocMultiLookup :: writeOpcodes then
      (.error .cancelled, collection)
    else (.ok (grant frame), collection)
  | command => ((grantingPeer () command).1, collection)

theorem sampleHandle_looked {frame : Frame} (hopcode : frame.opcode = Opcode.subdocMultiLookup)
    (hkey : frame.key = asBytes sampleKey)
    (hfound : ∀ response : Frame, reply = .ok response → response.Found collection[sampleKey]?) :
    sampleServer.Answered collection frame reply collection where
  kept _ := rfl
  refused _ _ _ := rfl
  named _ hnamed _ _ _ _ := by
    rw [hopcode] at hnamed
    exact absurd hnamed (by decide)
  looked hlooks hreply _ := by
    obtain rfl := asBytes_injective (hkey.symm.trans hlooks.key)
    exact hfound _ hreply
  wrote hwrites := by
    have hmem := hwrites.mem_writeOpcodes
    rw [hopcode] at hmem
    exact absurd hmem (by decide)

theorem sampleHandle_wrote {frame : Frame} (hopcode : frame.opcode = Opcode.subdocMultiMutation)
    (hkey : frame.key = asBytes sampleKey) : sampleServer.Answered collection frame
      (.ok (grant frame)) (collection.insert sampleKey (frame.value.drop 12)) where
  kept hkept := by
    rw [hopcode] at hkept
    exact absurd hkept (by decide)
  refused hreply _ hstatus := by
    cases hreply
    have hsuccess : Status.success = Status.notMyVbucket ∨
        Status.success = Status.collectionUnknown := hstatus
    exact absurd hsuccess (by decide)
  named _ hnamed _ _ _ _ := by
    rw [hopcode] at hnamed
    exact absurd hnamed (by decide)
  looked hlooks _ _ := absurd (hlooks.opcode.symm.trans hopcode) (by decide)
  wrote {key value} hwrites := by
    obtain rfl := asBytes_injective (hkey.symm.trans hwrites.key)
    cases value with
    | none => exact absurd (hwrites.body.1.symm.trans hopcode) (by decide)
    | some value =>
      rw [hwrites.body.2.2]
      exact ⟨.inr rfl, fun _ _ _ _ => rfl⟩

theorem sampleHandle_serves (collection : CheckpointCollection Bytes) (command : KvCommand) :
    sampleServer.Serves collection ⟨command, (sampleHandle collection command).1⟩
      (sampleHandle collection command).2 := by
  cases command with
  | request connectionId frame =>
    simp only [CheckpointServer.Serves, sampleHandle]
    split <;> rename_i hlookup
    · split <;> rename_i hget
      · refine sampleHandle_looked hlookup.1 hlookup.2 ?_
        rintro response ⟨⟩
        constructor
        · intro hstatus
          have hsuccess : Status.success = Status.keyNotFound := hstatus
          exact absurd hsuccess (by decide)
        · intro _ state document hvalue
          obtain ⟨hheader, hdocument⟩ := List.append_inj hvalue rfl
          obtain ⟨hstate, -⟩ := List.append_inj hheader rfl
          subst hdocument
          refine ⟨fun _ => hget, fun hmissing => ?_⟩
          rw [hmissing] at hstate
          exact absurd hstate (by decide)
      · refine sampleHandle_looked hlookup.1 hlookup.2 ?_
        rintro response ⟨⟩
        refine ⟨fun _ => hget, fun hstatus => ?_⟩
        have hmissing : Status.keyNotFound = Status.success ∨
            Status.keyNotFound = Status.subdocMultiPathFailure := hstatus
        exact absurd hmissing (by decide)
    · split <;> rename_i hmutation
      · exact sampleHandle_wrote hmutation.1 hmutation.2
      · split <;> rename_i hother
        · exact {
            kept := fun _ => rfl
            refused := fun _ _ _ => rfl
            named := fun hreply => by cases hreply
            looked := fun _ hreply => by cases hreply
            wrote := fun _ => ⟨.inl rfl, fun _ hreply => by cases hreply⟩ }
        · have hother := not_or.1 (List.mem_cons.not.1 hother)
          exact {
            kept := fun _ => rfl
            refused := fun _ _ _ => rfl
            named := by
              rintro response ⟨⟩ _ _ _ _ hlength
              cases hlength
            looked := fun hlooks => absurd hlooks.opcode hother.1
            wrote := fun hwrites => absurd hwrites.mem_writeOpcodes hother.2 }
  | _ => rfl

def sampleKv : KvCheckpointStore where
  env := {
    crypto := noCrypto
    json := { bucketConfig := fun _ => .ok sampleBucketConfig, manifest := fun _ => .error "" }
    ipv6 := loopbackOnly
    crc32 := fun _ => 0 }
  json := unaryJson
  adapter :=
    { config := sampleClientConfig, collection := ⟨"_default", "_default"⟩, routingAttempts := 3 }
  store := sampleStore

def sampleCheckpoint : DcpCheckpoint :=
  { DcpCheckpoint.earliest 3 with bucketUuid := some "b", seqno := 5, snapshotEnd := 9 }

def sampleDocument : StoredCheckpointDocument where
  checkpoint := { snapshot := { startSeqno := 0, endSeqno := 9 }, vbucketUuid := 0, seqno := 5 }
  bucketUuid := "b"
  manifestUid := none

theorem serialize_sample : serializeCheckpointBatch [sampleCheckpoint] =
    .ok ((∅ : StoredDocuments).insert 3 sampleDocument) := rfl

def savedRun : Result Unit × KvLog × CheckpointCollection Bytes :=
  (sampleKv.writeFuture 3
    { expectedBucketUuid := "b", value := some (unaryJson.toVec sampleDocument) }).conduct
      sampleHandle ∅

def loadedRun : Result (Option Bytes) × KvLog × CheckpointCollection Bytes :=
  (sampleKv.get 3).conduct sampleHandle savedRun.2.2

theorem savedRun_ok : savedRun.1 = .ok () := by
  have hok : savedRun.1.isOk = true := by decide +kernel
  cases hresult : savedRun.1 with
  | error error =>
    rw [hresult] at hok
    cases hok
  | ok _ => rfl

theorem saves_sample : sampleKv.Saves sampleServer ∅ [sampleCheckpoint] (.ok ()) savedRun.2.2 := by
  rw [Saves, serialize_sample]
  refine ⟨[], conducted_alone 3 sampleHandle_serves ?_ fun other => ?_, rfl⟩
  · exact congrArg (fun result => collectWrite 3 result []) savedRun_ok
  · rw [Std.ExtTreeMap.getElem?_map, getElem?_saveTasks, Std.ExtTreeMap.getElem?_insert]
    simp only [Std.compare_eq_iff_eq, Std.ExtTreeMap.getElem?_empty]
    by_cases hother : 3 = other
    · subst hother
      rfl
    · rw [if_neg hother, if_neg hother]
      rfl

theorem loads_sample : ∃ loaded, sampleKv.Loads sampleServer savedRun.2.2 "b" [3] (.ok loaded)
    loadedRun.2.2 ∧ loaded.toList = [(3, sampleCheckpoint)] := by
  have hloaded : (addLoaded unaryJson "b" 3 ∅ loadedRun.1).toOption.map (·.toList) =
      some [(3, sampleCheckpoint)] := by decide +kernel
  cases hresult : addLoaded unaryJson "b" 3 ∅ loadedRun.1 with
  | error error =>
    rw [hresult] at hloaded
    cases hloaded
  | ok loaded =>
    rw [hresult] at hloaded
    refine ⟨loaded, ?_, Option.some.inj hloaded⟩
    rw [Loads, validateVbuckets_eq_ok.2 (by decide)]
    refine ⟨∅, conducted_alone 3 sampleHandle_serves (congrArg some hresult)
      fun other => ?_, .inl rfl⟩
    rw [getElem?_ofList_map _ (by decide)]
    by_cases hother : 3 = other
    · simp [← hother]
    · simp [hother, Ne.symm hother]

theorem calls_refine_saved : ∃ loaded, loaded.toList = [(3, sampleCheckpoint)] ∧
    ∃ scheduled : List (StoreCall × List CallAction),
      scheduled.map Prod.fst = [.save [sampleCheckpoint], .load "b" [3]] ∧
      CouchbaseCheckpointStore.calls unaryJson sampleStore ∅ scheduled =
        some ([.ok .done, .ok (.loaded loaded)], loadedRun.2.2) := by
  obtain ⟨loaded, hload, hlist⟩ := loads_sample
  refine ⟨loaded, hlist, calls_refine sampleKv sampleServer rfl ?_⟩
  exact .cons ⟨_, saves_sample, rfl⟩ (.cons ⟨_, hload, rfl⟩ .nil)

end KvCheckpointStore

end RustDcp
