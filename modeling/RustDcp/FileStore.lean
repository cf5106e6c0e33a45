import RustDcp.Checkpoint
import RustDcp.Topology

namespace RustDcp
set_option autoImplicit true

structure StoredSnapshot where
  startSeqno : Nat
  endSeqno : Nat
  deriving DecidableEq

structure StoredCheckpointPosition where
  snapshot : StoredSnapshot
  vbucketUuid : Nat
  seqno : Nat
  deriving DecidableEq

structure StoredCheckpointDocument where
  checkpoint : StoredCheckpointPosition
  bucketUuid : String
  manifestUid : Option Nat
  deriving DecidableEq

abbrev StoredDocuments := BTreeMap UInt16 StoredCheckpointDocument

def bucketMismatch (vbucket : UInt16) (expected observed : String) : DcpError :=
  .checkpoint
    s!"vBucket {vbucket} checkpoint bucket UUID {observed} does not match current bucket {expected}"

namespace StoredCheckpointDocument

def fromCheckpoint (checkpoint : DcpCheckpoint) : Result StoredCheckpointDocument := do
  checkpoint.validate
  match checkpoint.bucketUuid with
  | none => .error (.checkpoint s!"vBucket {checkpoint.vbucket} checkpoint has no bucket UUID")
  | some bucketUuid => .ok {
      checkpoint := {
        snapshot := { startSeqno := checkpoint.snapshotStart, endSeqno := checkpoint.snapshotEnd }
        vbucketUuid := checkpoint.vbucketUuid
        seqno := checkpoint.seqno }
      bucketUuid
      manifestUid := checkpoint.manifestUid }

/-- The checkpoint of the document, before `into_checkpoint` checks it. -/
def toCheckpoint (self : StoredCheckpointDocument) (vbucket : UInt16) : DcpCheckpoint :=
  { bucketUuid := some self.bucketUuid
    vbucket
    vbucketUuid := self.checkpoint.vbucketUuid
    seqno := self.checkpoint.seqno
    snapshotStart := self.checkpoint.snapshot.startSeqno
    snapshotEnd := self.checkpoint.snapshot.endSeqno
    manifestUid := self.manifestUid }

def intoCheckpoint (self : StoredCheckpointDocument) (vbucket : UInt16)
    (expectedBucketUuid : String) : Result DcpCheckpoint :=
  if self.bucketUuid ≠ expectedBucketUuid then
    .error (bucketMismatch vbucket expectedBucketUuid self.bucketUuid)
  else do
    (self.toCheckpoint vbucket).validate
    return self.toCheckpoint vbucket

end StoredCheckpointDocument

open StoredCheckpointDocument (fromCheckpoint)

def serializeCheckpoints : List DcpCheckpoint → StoredDocuments → Option String →
    Result StoredDocuments
  | [], documents, _ => .ok documents
  | checkpoint :: checkpoints, documents, bucketUuid =>
    match checkpoint.bucketUuid with
    | none => .error (.checkpoint s!"vBucket {checkpoint.vbucket} checkpoint has no bucket UUID")
    | some observed =>
      match bucketUuid.filter (· ≠ observed) with
      | some expected =>
        .error (.checkpoint s!"checkpoint batch mixes bucket UUID {expected} and {observed}")
      | none =>
        match fromCheckpoint checkpoint with
        | .error error => .error error
        | .ok document =>
          if checkpoint.vbucket ∈ documents then
            .error (.checkpoint s!"duplicate vBucket {checkpoint.vbucket} in checkpoint batch")
          else serializeCheckpoints checkpoints (documents.insert checkpoint.vbucket document)
            (some observed)

def serializeCheckpointBatch (checkpoints : List DcpCheckpoint) : Result StoredDocuments :=
  serializeCheckpoints checkpoints ∅ none

def validateVbuckets (vbuckets : List UInt16) : Result Unit :=
  let unique : BTreeSet UInt16 := Std.ExtTreeSet.ofList vbuckets compare
  if unique.size ≠ vbuckets.length then
    .error (.checkpoint "checkpoint vBucket list contains duplicates")
  else .ok ()

/-- The JSON text of the documents, assumed to be read back as it was written. -/
structure CheckpointJson (Text : Type) where
  toVec : StoredDocuments → Text
  fromSlice : Text → Except String StoredDocuments
  fromSlice_toVec : ∀ documents, fromSlice (toVec documents) = .ok documents

/-- The calls that the gate of the store lets through one at a time. -/
inductive StoreCall where
  | load (bucketUuid : String) (vbuckets : List UInt16)
  | save (checkpoints : List DcpCheckpoint)
  | clear (bucketUuid : String) (vbuckets : List UInt16)

inductive StoreReply where
  | loaded (checkpoints : BTreeMap UInt16 DcpCheckpoint)
  | done

namespace FileCheckpointStore

section

variable (json : CheckpointJson Text)

/-- `path` is the text of the path in the messages; a missing file has no documents. -/
def readFileDocuments (path : String) (file : Option Text) : Result (Option StoredDocuments) :=
  match file with
  | none => .ok none
  | some text =>
    match json.fromSlice text with
    | .ok documents => .ok (some documents)
    | .error error => .error (.checkpointStore s!"invalid checkpoint JSON in {path}: {error}")

def intoCheckpoints (bucketUuid : String) :
    List (UInt16 × StoredCheckpointDocument) → Result (BTreeMap UInt16 DcpCheckpoint)
  | [] => .ok ∅
  | (vbucket, document) :: rest =>
    match document.intoCheckpoint vbucket bucketUuid with
    | .error error => .error error
    | .ok checkpoint => (·.insert vbucket checkpoint) <$> intoCheckpoints bucketUuid rest

def load (path : String) (file : Option Text) (bucketUuid : String) (vbuckets : List UInt16) :
    Result (BTreeMap UInt16 DcpCheckpoint) := do
  validateVbuckets vbuckets
  let documents := (← readFileDocuments json path file).getD ∅
  intoCheckpoints bucketUuid (documents.toList.filter fun pair => pair.1 ∈ vbuckets)

def checkBuckets (documents : StoredDocuments) :
    List (UInt16 × StoredCheckpointDocument) → Result Unit
  | [] => .ok ()
  | (vbucket, update) :: updates =>
    match documents[vbucket]? with
    | some existing =>
      if existing.bucketUuid ≠ update.bucketUuid then
        .error (bucketMismatch vbucket update.bucketUuid existing.bucketUuid)
      else checkBuckets documents updates
    | none => checkBuckets documents updates

/-- The file after `save`, together with its result. Without I/O errors the rename replaces the
whole file. -/
def save (path : String) (file : Option Text) (checkpoints : List DcpCheckpoint) :
    Result Unit × Option Text :=
  match serializeCheckpointBatch checkpoints with
  | .error error => (.error error, file)
  | .ok updates =>
    if updates.isEmpty then (.ok (), file)
    else match readFileDocuments json path file with
      | .error error => (.error error, file)
      | .ok read =>
        let documents := read.getD ∅
        match checkBuckets documents updates.toList with
        | .error error => (.error error, file)
        | .ok () => (.ok (), some (json.toVec (documents.insertMany updates.toList)))

/-- The loop of `clear`, on the documents in memory. -/
def removeDocuments (bucketUuid : String) : List UInt16 → StoredDocuments → Result StoredDocuments
  | [], documents => .ok documents
  | vbucket :: vbuckets, documents =>
    match documents[vbucket]?.filter fun document => document.bucketUuid ≠ bucketUuid with
    | some document => .error (bucketMismatch vbucket bucketUuid document.bucketUuid)
    | none => removeDocuments bucketUuid vbuckets (documents.erase vbucket)

/-- The file after `clear`; it goes when no document is left. -/
def clear (path : String) (file : Option Text) (bucketUuid : String) (vbuckets : List UInt16) :
    Result Unit × Option Text :=
  match validateVbuckets vbuckets with
  | .error error => (.error error, file)
  | .ok () =>
    if vbuckets.isEmpty then (.ok (), file)
    else match readFileDocuments json path file with
      | .error error => (.error error, file)
      | .ok none => (.ok (), file)
      | .ok (some documents) =>
        match removeDocuments bucketUuid vbuckets documents with
        | .error error => (.error error, file)
        | .ok documents =>
          if documents.isEmpty then (.ok (), none) else (.ok (), some (json.toVec documents))

def call (path : String) (file : Option Text) : StoreCall → Result StoreReply × Option Text
  | .load bucketUuid vbuckets => (.loaded <$> load json path file bucketUuid vbuckets, file)
  | .save checkpoints =>
    let (result, file) := save json path file checkpoints
    ((fun _ => .done) <$> result, file)
  | .clear bucketUuid vbuckets =>
    let (result, file) := clear json path file bucketUuid vbuckets
    ((fun _ => .done) <$> result, file)

def calls (path : String) : Option Text → List StoreCall → List (Result StoreReply) × Option Text
  | file, [] => ([], file)
  | file, c :: rest =>
    let (result, file) := call json path file c
    let (results, file) := calls path file rest
    (result :: results, file)

end

end FileCheckpointStore

end RustDcp
