import RustDcp.FileStore
import RustDcp.ClusterConfig

namespace RustDcp
set_option autoImplicit true

/-- The JSON text of one document, assumed to be read back as it was written. -/
structure DocumentJson (Text : Type) where
  toVec : StoredCheckpointDocument → Text
  fromSlice : Text → Except String StoredCheckpointDocument
  fromSlice_toVec : ∀ document, fromSlice (toVec document) = .ok document

/-- The collection: the value of the XATTR `cbgo` of each document that has one. -/
abbrev CheckpointCollection (Text : Type) := BTreeMap String Text

/-- How one operation on the collection ends. A write that fails may still have been made. -/
inductive Answer where
  | done
  | failed (error : DcpError)
  | lost (error : DcpError)
  deriving DecidableEq

def Answer.result : Answer → Result Unit
  | .done => .ok ()
  | .failed error => .error error
  | .lost error => .error error

/-- What the scheduler lets happen next inside a call. -/
inductive CallAction where
  | read (vbucket : UInt16) (answer : Answer)
  | write (vbucket : UInt16) (answer : Answer)
  | collect (vbucket : UInt16)

structure CouchbaseCheckpointStore where
  group : String

/-- A checked write: an `upsert_xattr` of the value, or without one a `remove_document`. -/
structure WriteTask (Text : Type) where
  expectedBucketUuid : String
  value : Option Text

inductive WritePhase where
  | reading
  | writing
  | finished (result : Result Unit)

/-- The futures that have not been collected yet, one a vBucket, and the failures of the others. -/
structure Writes (Text : Type) where
  collection : CheckpointCollection Text
  pending : BTreeMap UInt16 WritePhase
  failures : List String

/-- The futures of `load` with the answers they have, and the result so far. -/
structure Reads (Text : Type) where
  pending : BTreeMap UInt16 (Option (Result (Option Text)))
  checkpoints : Result (BTreeMap UInt16 DcpCheckpoint)

namespace CouchbaseCheckpointStore

def new (group : String) : Result CouchbaseCheckpointStore :=
  if group.toList.all isWhitespace ∨ '.' ∈ group.toList then
    .error (.invalidConfiguration "checkpoint group must be non-empty and must not contain '.'")
  else .ok { group }

def checkpointKey (store : CouchbaseCheckpointStore) (vbucket : UInt16) : String :=
  s!"_connector:cbgo:{store.group}:checkpoint:{vbucket}"

section

variable (json : DocumentJson Text) (store : CouchbaseCheckpointStore)

/-- The check that both `save` and `clear` make before they write. -/
def checkExisting (vbucket : UInt16) (expectedBucketUuid : String) : Option Text → Result Unit
  | none => .ok ()
  | some existing =>
    match json.fromSlice existing with
    | .error error => .error (.checkpointStore
        s!"invalid existing Couchbase checkpoint for vBucket {vbucket}: {error}")
    | .ok existing =>
      if existing.bucketUuid ≠ expectedBucketUuid then
        .error (bucketMismatch vbucket expectedBucketUuid existing.bucketUuid)
      else .ok ()

def afterRead (vbucket : UInt16) (task : WriteTask Text) (existing : Option Text) :
    Answer → WritePhase
  | .done =>
    match checkExisting json vbucket task.expectedBucketUuid existing with
    | .ok () => .writing
    | .error error => .finished (.error error)
  | .failed error => .finished (.error error)
  | .lost error => .finished (.error error)

def put (collection : CheckpointCollection Text) (key : String) :
    Option Text → CheckpointCollection Text
  | some value => collection.insert key value
  | none => collection.erase key

def afterWrite (collection : CheckpointCollection Text) (key : String) (value : Option Text) :
    Answer → CheckpointCollection Text
  | .done => put collection key value
  | .failed _ => collection
  | .lost _ => put collection key value

def failure (vbucket : UInt16) : Result Unit → List String
  | .ok () => []
  | .error error => [s!"vBucket {vbucket}: {error.toString}"]

def writeStep (tasks : BTreeMap UInt16 (WriteTask Text)) (s : Writes Text) :
    CallAction → Option (Writes Text)
  | .read vbucket answer =>
    match tasks[vbucket]?, s.pending[vbucket]? with
    | some task, some .reading =>
      let existing := s.collection[store.checkpointKey vbucket]?
      some { s with
        pending := s.pending.insert vbucket (afterRead json vbucket task existing answer) }
    | _, _ => none
  | .write vbucket answer =>
    match tasks[vbucket]?, s.pending[vbucket]? with
    | some task, some .writing =>
      some { s with
        collection := afterWrite s.collection (store.checkpointKey vbucket) task.value answer
        pending := s.pending.insert vbucket (.finished answer.result) }
    | _, _ => none
  | .collect vbucket =>
    match s.pending[vbucket]? with
    | some (.finished result) =>
      some { s with
        pending := s.pending.erase vbucket
        failures := s.failures ++ failure vbucket result }
    | _ => none

def collectCouchbaseWrites (operation : String) (failures : List String) : Result Unit :=
  let joined := "; ".intercalate failures
  if failures.isEmpty then .ok ()
  else .error (.checkpointStore s!"Couchbase checkpoint {operation} failed: {joined}")

/-- The writes of a call under a schedule, which has to bring every future to its end. -/
def runWrites (operation : String) (collection : CheckpointCollection Text)
    (tasks : BTreeMap UInt16 (WriteTask Text)) (schedule : List CallAction) :
    Option (Result Unit × CheckpointCollection Text) :=
  match Machine.run (writeStep json store tasks)
    { collection, pending := tasks.map fun _ _ => .reading, failures := [] } schedule with
  | some s =>
    if s.pending.isEmpty then some (collectCouchbaseWrites operation s.failures, s.collection)
    else none
  | none => none

def saveTasks (documents : StoredDocuments) : BTreeMap UInt16 (WriteTask Text) :=
  documents.map fun _ document =>
    { expectedBucketUuid := document.bucketUuid, value := some (json.toVec document) }

def save (collection : CheckpointCollection Text) (checkpoints : List DcpCheckpoint)
    (schedule : List CallAction) : Option (Result Unit × CheckpointCollection Text) :=
  match serializeCheckpointBatch checkpoints with
  | .error error => some (.error error, collection)
  | .ok documents => runWrites json store "save" collection (saveTasks json documents) schedule

def clearTasks (bucketUuid : String) (vbuckets : List UInt16) : BTreeMap UInt16 (WriteTask Text) :=
  Std.ExtTreeMap.ofList
    (vbuckets.map fun vbucket =>
      (vbucket, { expectedBucketUuid := bucketUuid, value := none })) compare

def clear (collection : CheckpointCollection Text) (bucketUuid : String) (vbuckets : List UInt16)
    (schedule : List CallAction) : Option (Result Unit × CheckpointCollection Text) :=
  match validateVbuckets vbuckets with
  | .error error => some (.error error, collection)
  | .ok () => runWrites json store "clear" collection (clearTasks bucketUuid vbuckets) schedule

def addLoaded (bucketUuid : String) (vbucket : UInt16)
    (checkpoints : BTreeMap UInt16 DcpCheckpoint) :
    Result (Option Text) → Result (BTreeMap UInt16 DcpCheckpoint)
  | .error error => .error error
  | .ok none => .ok checkpoints
  | .ok (some value) =>
    match json.fromSlice value with
    | .error error => .error (.checkpointStore
        s!"invalid Couchbase checkpoint for vBucket {vbucket}: {error}")
    | .ok document =>
      match document.intoCheckpoint vbucket bucketUuid with
      | .error error => .error error
      | .ok checkpoint => .ok (checkpoints.insert vbucket checkpoint)

def readStep (collection : CheckpointCollection Text) (bucketUuid : String) (s : Reads Text) :
    CallAction → Option (Reads Text)
  | .read vbucket answer =>
    match s.pending[vbucket]? with
    | some none =>
      let value := collection[store.checkpointKey vbucket]?
      some { s with
        pending := s.pending.insert vbucket (some ((fun _ => value) <$> answer.result)) }
    | _ => none
  | .write _ _ => none
  | .collect vbucket =>
    match s.checkpoints, s.pending[vbucket]? with
    | .ok checkpoints, some (some value) =>
      some {
        pending := s.pending.erase vbucket
        checkpoints := addLoaded json bucketUuid vbucket checkpoints value }
    | _, _ => none

def loadFutures (vbuckets : List UInt16) : BTreeMap UInt16 (Option (Result (Option Text))) :=
  Std.ExtTreeMap.ofList (vbuckets.map fun vbucket => (vbucket, none)) compare

def load (collection : CheckpointCollection Text) (bucketUuid : String) (vbuckets : List UInt16)
    (schedule : List CallAction) : Option (Result (BTreeMap UInt16 DcpCheckpoint)) :=
  match validateVbuckets vbuckets with
  | .error error => some (.error error)
  | .ok () =>
    match Machine.run (readStep json store collection bucketUuid)
      { pending := loadFutures vbuckets, checkpoints := .ok ∅ } schedule with
    | none => none
    | some { checkpoints := .error error, .. } => some (.error error)
    | some { checkpoints := .ok checkpoints, pending } =>
      if pending.isEmpty then some (.ok checkpoints) else none

/-- A call under a schedule; there is no result as long as the call has not returned. -/
def call (collection : CheckpointCollection Text) (schedule : List CallAction) :
    StoreCall → Option (Result StoreReply × CheckpointCollection Text)
  | .load bucketUuid vbuckets =>
    (load json store collection bucketUuid vbuckets schedule).map fun result =>
      (.loaded <$> result, collection)
  | .save checkpoints =>
    (save json store collection checkpoints schedule).map fun (result, collection) =>
      ((fun _ => .done) <$> result, collection)
  | .clear bucketUuid vbuckets =>
    (clear json store collection bucketUuid vbuckets schedule).map fun (result, collection) =>
      ((fun _ => .done) <$> result, collection)

def calls : CheckpointCollection Text → List (StoreCall × List CallAction) →
    Option (List (Result StoreReply) × CheckpointCollection Text)
  | collection, [] => some ([], collection)
  | collection, (c, schedule) :: rest =>
    match call json store collection schedule c with
    | none => none
    | some (result, collection) =>
      (calls collection rest).map fun (results, collection) => (result :: results, collection)

end

end CouchbaseCheckpointStore

end RustDcp
