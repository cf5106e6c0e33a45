import RustDcp.CodecReencode
import RustDcp.CouchbaseStore
import RustDcp.KvRouting

namespace RustDcp
set_option autoImplicit true

open Dialogue CouchbaseCheckpointStore

def checkpointXattr : String := "cbgo"

def writeOpcodes : List Opcode :=
  [Opcode.set, Opcode.add, Opcode.replace, Opcode.delete, Opcode.subdocMultiMutation]

/-- The request is the lookup of the XATTR of a document of the collection. -/
structure Frame.LooksUp (frame : Frame) (cid : UInt32) (key : String) : Prop where
  opcode : frame.opcode = Opcode.subdocMultiLookup
  key : frame.key = asBytes key
  collection : frame.collectionId.getD 0 = cid
  value : frame.value =
    [Command.subdocGet, Command.xattrPath] ++ putU16 4 ++ asBytes checkpointXattr

/-- The request stores the XATTR, or without a value deletes the document. -/
structure Frame.Writes (frame : Frame) (cid : UInt32) (key : String) (value : Option Bytes) :
    Prop where
  key : frame.key = asBytes key
  collection : frame.collectionId.getD 0 = cid
  body : match value with
    | some value => frame.opcode = Opcode.subdocMultiMutation ∧ frame.extras = [Command.mkdoc] ∧
        frame.value = [Command.subdocDictSet, Command.xattrPath] ++ putU16 4 ++
          putU32 (.ofNat value.length) ++ asBytes checkpointXattr ++ value
    | none => frame.opcode = Opcode.delete ∧ frame.cas = 0 ∧ frame.value = []

theorem Frame.Writes.mem_writeOpcodes {frame : Frame} {document : String}
    {written : Option Bytes} (h : frame.Writes cid document written) :
    frame.opcode ∈ writeOpcodes := by
  cases written with
  | some value =>
    rw [h.body.1]
    decide
  | none =>
    rw [h.body.1]
    decide

/-- A lookup answers with the state of its one path, and with the value if there is one. -/
structure Frame.Found (response : Frame) (found : Option Bytes) : Prop where
  missing : response.status = Status.keyNotFound → found = none
  path : response.status = Status.success ∨ response.status = Status.subdocMultiPathFailure →
    ∀ (state : Status) (document : Bytes),
      response.value = putU16 state ++ putU32 (.ofNat document.length) ++ document →
      (state = Status.success → found = some document) ∧
        (state = Status.subdocPathNotFound → found = none)

/-- The statuses of a write that was made; there is nothing to delete if there is no document. -/
def Frame.Done (response : Frame) : Option Bytes → Prop
  | some _ => response.status.isSuccess = true
  | none => response.status = Status.success ∨ response.status = Status.keyNotFound

/-- The collection as the KV nodes know it. -/
structure CheckpointServer where
  collection : CollectionSpec
  cid : UInt32
  default : collection.isDefault → cid = 0

namespace CheckpointServer

/-- What an answer tells about the collection before and after its request. An error may stand for a
write that was made. -/
structure Answered (server : CheckpointServer) (C : CheckpointCollection Bytes) (frame : Frame)
    (reply : Result Frame) (D : CheckpointCollection Bytes) : Prop where
  kept : frame.opcode ∉ writeOpcodes → D = C
  refused : reply = .ok response → response.Answers frame →
    response.status = Status.notMyVbucket ∨ response.status = Status.collectionUnknown → D = C
  named : reply = .ok response → frame.opcode = Opcode.collectionsGetId →
    frame.value = asBytes s!"{server.collection.scope}.{server.collection.collection}" →
    response.Answers frame → response.status.isSuccess → response.extras.length = 12 →
    response.extras.drop 8 = putU32 server.cid
  looked : frame.LooksUp server.cid key → reply = .ok response → response.Answers frame →
    response.Found C[key]?
  wrote : frame.Writes server.cid key value → (D = C ∨ D = put C key value) ∧
    ∀ response, reply = .ok response → response.Answers frame → response.Done value →
      D = put C key value

def Serves (server : CheckpointServer) (C : CheckpointCollection Bytes) :
    Exchange KvCommand.Reply → CheckpointCollection Bytes → Prop
  | ⟨.request _ frame, reply⟩, D => server.Answered C frame reply D
  | _, D => D = C

def Possible (server : CheckpointServer) (exchange : Exchange KvCommand.Reply) : Prop :=
  ∃ C D, server.Serves C exchange D

def Silent (server : CheckpointServer) (exchange : Exchange KvCommand.Reply) : Prop :=
  ∀ C D, server.Serves C exchange D → D = C

def Reads (server : CheckpointServer) (key : String) (exchange : Exchange KvCommand.Reply)
    (result : Result (Option Bytes)) : Prop :=
  ∀ C D, server.Serves C exchange D →
    D = C ∧ ∃ answer : Answer, result = (fun _ => C[key]?) <$> answer.result

def Writes (server : CheckpointServer) (key : String) (value : Option Bytes)
    (exchange : Exchange KvCommand.Reply) (result : Result Unit) : Prop :=
  ∀ C D, server.Serves C exchange D →
    ∃ answer : Answer, result = answer.result ∧ D = afterWrite C key value answer

def Failed (result : Result α) : Prop := ∃ error, result = .error error

theorem not_mem_writeOpcodes (h : opcode ∈ metadataOpcodes) : opcode ∉ writeOpcodes := by
  have hdisjoint : ∀ opcode ∈ metadataOpcodes, opcode ∉ writeOpcodes := by decide +kernel
  exact hdisjoint opcode h

theorem routing (server : CheckpointServer) :
    Routing server.collection server.cid server.Possible server.Silent where
  metadata {command reply} h := by
    intro C D hserves
    cases command with
    | request connectionId frame => exact hserves.kept (not_mem_writeOpcodes h)
    | _ => exact hserves
  default := server.default
  named h hopcode hvalue hanswers hsuccess hlength := by
    obtain ⟨C, D, hserves⟩ := h
    exact hserves.named rfl hopcode hvalue hanswers hsuccess hlength

end CheckpointServer

theorem validateResponseEnvelope_eq_ok {response request : Frame} :
    validateResponseEnvelope kind response request.opcode = .ok () ↔ response.Answers request := by
  rw [validateResponseEnvelope, Frame.Answers]
  split <;> rename_i hmagic
  · simp_all
  · split <;> rename_i hopcode
    · simp_all
    · simp_all

/-- What an attempt makes of a response: an error, another attempt, or the result of the
operation. -/
theorem readReply_cases (convert : DcpError → ε) (kind : String) (retried : List Status)
    (parse : Frame → Except ε α) (request response : Frame) :
    (∃ error, readReply convert kind retried parse request.opcode response = .error error) ∨
    response.Answers request ∧
      (response.status ∈ retried ∧
          readReply convert kind retried parse request.opcode response = .ok none ∨
        readReply convert kind retried parse request.opcode response =
          some <$> parse response) := by
  cases henvelope : validateResponseEnvelope kind response request.opcode with
  | error error =>
    refine .inl ⟨convert error, ?_⟩
    rw [readReply, henvelope]
    rfl
  | ok _ =>
    refine .inr ⟨validateResponseEnvelope_eq_ok.1 henvelope, ?_⟩
    rw [readReply, henvelope]
    change _ ∧ (if _ then _ else _) = _ ∨ (if _ then _ else _) = _
    split <;> rename_i hretried
    · exact .inl ⟨hretried, rfl⟩
    · refine .inr ?_
      cases parse response <;> rfl

namespace Command

theorem lookupHeader (bytes : Bytes) (h : 6 ≤ bytes.length) :
    bytes = putU16 (.ofNat (readField 2 bytes 0)) ++ putU32 (.ofNat (readField 4 bytes 2)) ++
      bytes.drop 6 := by
  have hfield : ∀ offset width, offset + width ≤ 6 →
      putUint width (readField width bytes offset % 256 ^ width) =
        FrameCodec.slice bytes offset (offset + width) := by
    intro offset width hle
    refine putUint_bigEndian ?_
    simp [FrameCodec.slice]
    omega
  rw [show putU16 (.ofNat (readField 2 bytes 0)) = _ from hfield 0 2 (by decide),
    show putU32 (.ofNat (readField 4 bytes 2)) = _ from hfield 2 4 (by decide)]
  simp only [FrameCodec.slice, List.drop_zero, List.append_assoc]
  have hrest : (bytes.drop 2).take 4 ++ bytes.drop 6 = bytes.drop 2 := by
    rw [← List.drop_drop (i := 4) (j := 2), List.take_append_drop]
  rw [hrest, List.take_append_drop]

theorem parseLookupResult_eq_ok (h : parseLookupResult frame = .ok found) :
    ∃ (status : Status) (value : Bytes),
      frame.value = putU16 status ++ putU32 (.ofNat value.length) ++ value ∧
      (status = Status.success ∧ found = some value ∨
        status = Status.subdocPathNotFound ∧ found = none) := by
  rw [parseLookupResult] at h
  split at h <;> rename_i hheader
  · cases h
  · have hfields := lookupHeader frame.value (by omega)
    simp only at h
    split at h <;> rename_i hexpected
    · cases h
    · split at h <;> rename_i hlength
      · cases h
      · have hlength : (frame.value.drop 6).length = readField 4 frame.value 2 := by
          rw [checkedAdd] at hexpected
          split at hexpected
          · have hlen := Option.some.inj hexpected
            rw [List.length_drop]
            omega
          · cases hexpected
        refine ⟨_, _, by rw [hlength]; exact hfields, ?_⟩
        split at h <;> rename_i hstatus
        · exact .inl ⟨hstatus, (Except.ok.inj h).symm⟩
        · split at h <;> rename_i hmissing
          · exact .inr ⟨hmissing, (Except.ok.inj h).symm⟩
          · cases h

theorem parseSubdocGetXattr_eq_ok (h : parseSubdocGetXattr response = .ok value)
    (hfound : response.Found found) : value = found := by
  obtain ⟨⟨⟩, -, h⟩ := bind_eq_ok.1 h
  split at h <;> rename_i hmissing
  · rw [hfound.missing hmissing]
    exact (Except.ok.inj h).symm
  · split at h <;> rename_i hstatus
    · cases h
    · have hpath : response.status = Status.success ∨
          response.status = Status.subdocMultiPathFailure := by
        by_contra hother
        exact hstatus (not_or.1 hother)
      obtain ⟨state, document, hvalue, hcase⟩ := parseLookupResult_eq_ok h
      obtain ⟨hsome, hnone⟩ := hfound.path hpath state document hvalue
      rcases hcase with ⟨hstate, rfl⟩ | ⟨hstate, rfl⟩
      · exact (hsome hstate).symm
      · exact (hnone hstate).symm

theorem subdocPathLen_checkpointXattr : subdocPathLen checkpointXattr = .ok 4 := by decide

theorem subdocGetXattr_looksUp
    (h : subdocGetXattr (asBytes key) checkpointXattr collectionId vbucket opaqueId = .ok frame)
    (hcid : collectionId.getD 0 = cid) : frame.LooksUp cid key := by
  rw [subdocGetXattr, subdocPathLen_checkpointXattr] at h
  obtain rfl := Except.ok.inj h
  exact ⟨rfl, rfl, hcid, rfl⟩

theorem subdocUpsertXattr_writes
    (h : subdocUpsertXattr (asBytes key) checkpointXattr value collectionId vbucket opaqueId =
      .ok frame) (hcid : collectionId.getD 0 = cid) : frame.Writes cid key (some value) := by
  rw [subdocUpsertXattr, subdocPathLen_checkpointXattr] at h
  obtain ⟨valueLen, hlen, h⟩ := bind_eq_ok.1 (show tryU32 _ _ >>= _ = _ from h)
  obtain ⟨-, rfl⟩ := tryUint_eq_ok.1 hlen
  split at h
  · cases h
  · obtain rfl := Except.ok.inj h
    exact ⟨rfl, hcid, rfl, rfl, rfl⟩

end Command

namespace CouchbaseKvCheckpointCollection

section

variable {self : CouchbaseKvCheckpointCollection} {server : CheckpointServer}

theorem execute_settles (env : KvEnvironment) {operation : CheckpointKvOperation}
    {decided : Exchange KvCommand.Reply → Result CheckpointKvResult → Prop}
    (hcollection : self.collection = server.collection)
    (hdecided : ∀ collectionId vbucket frame, collectionId.getD 0 = server.cid →
      operation.request key collectionId vbucket = .ok frame →
      ∀ connectionId (reply : Result Frame),
        (∀ error, reply >>= readResponse operation frame.opcode = .error error →
          decided ⟨.request connectionId frame, reply⟩ (.error error)) ∧
        ∀ response, reply = .ok response → response.Answers frame →
          decided ⟨.request connectionId frame, reply⟩ (operation.parseResponse response)) :
    (self.execute env key operation).Settles server.Possible server.Silent decided
      CheckpointServer.Failed := by
  refine .lift_bind (fun error => ⟨error, rfl⟩) fun _ _ => retryRouting_settles ?_
  have herror : ∀ (error : DcpError) (a : CheckpointKvResult),
      Except.error error ≠ Except.ok (some a) := by simp
  have hrouting := server.routing
  rw [← hcollection] at hrouting
  refine (hrouting.routeToOwner env self.config clientName "checkpoint" key).silent_bind herror ?_
  rintro ⟨collectionId, vbucket, session⟩ hcid
  refine .lift_bind herror fun _ _ => .lift_bind herror fun frame hframe => ?_
  refine Connection.settles_exchange fun reply _ => ?_
  obtain ⟨hfailed, hanswered⟩ :=
    hdecided collectionId vbucket frame hcid hframe session.connection.id reply
  cases reply with
  | error error => exact .inr ⟨.error error, rfl, hfailed error rfl⟩
  | ok response =>
    rcases readReply_cases id "checkpoint" [Status.notMyVbucket, Status.collectionUnknown]
      operation.parseResponse frame response with ⟨error, hresult⟩ | ⟨hanswers, hcase⟩
    · exact .inr ⟨.error error, hresult, hfailed error hresult⟩
    rcases hcase with ⟨hmoved, hresult⟩ | hresult
    · refine .inl ⟨fun C D hserves => hserves.refused rfl hanswers (by simpa using hmoved), ?_⟩
      exact fun a ha => by cases hresult.symm.trans ha
    · exact .inr ⟨_, hresult, hanswered response rfl hanswers⟩

theorem getXattr_settles (env : KvEnvironment) (hcollection : self.collection = server.collection)
    (key : String) : (self.getXattr env key checkpointXattr).Settles server.Possible server.Silent
      (server.Reads key) CheckpointServer.Failed := by
  have hexecute : (self.execute env key (.getXattr checkpointXattr)).Settles server.Possible
      server.Silent (fun exchange result => ∃ found, result = .xattr <$> found ∧
        server.Reads key exchange found) CheckpointServer.Failed := by
    refine execute_settles env hcollection ?_
    intro collectionId vbucket frame hcid hframe connectionId reply
    have hlooks := Command.subdocGetXattr_looksUp ((mapError_eq_ok DcpError.protocol).1 hframe) hcid
    have hkept : frame.opcode ∉ writeOpcodes := by
      rw [hlooks.opcode]
      decide
    constructor
    · intro error _
      exact ⟨.error error, rfl, fun C D hserves => ⟨hserves.kept hkept, .failed error, rfl⟩⟩
    · intro response hreply hanswers
      refine ⟨(Command.parseSubdocGetXattr response).mapError .protocol, rfl, ?_⟩
      intro C D hserves
      refine ⟨hserves.kept hkept, ?_⟩
      cases hparse : Command.parseSubdocGetXattr response with
      | error error => exact ⟨.failed (.protocol error), rfl⟩
      | ok value =>
        have hfound := hserves.looked hlooks hreply hanswers
        exact ⟨.done, congrArg Except.ok (Command.parseSubdocGetXattr_eq_ok hparse hfound)⟩
  refine hexecute.bind ?_ ?_
  · rintro result ⟨error, rfl⟩
    exact ⟨error, rfl⟩
  · rintro exchange result - ⟨found, rfl, hfound⟩
    refine ⟨found, ?_, hfound⟩
    cases found <;> rfl

theorem writes_error {frame : Frame} (h : frame.Writes server.cid key value)
    (connectionId : ConnectionId) (reply : Result Frame) (error : DcpError) :
    server.Writes key value ⟨.request connectionId frame, reply⟩ (.error error) := by
  intro C D hserves
  rcases (hserves.wrote h).1 with hkept | hput
  · exact ⟨.failed error, rfl, hkept⟩
  · exact ⟨.lost error, rfl, hput⟩

theorem execute_writes (env : KvEnvironment) (hcollection : self.collection = server.collection)
    (key : String) (value : Option Bytes) {operation : CheckpointKvOperation}
    (hrequest : ∀ collectionId vbucket frame, collectionId.getD 0 = server.cid →
      operation.request key collectionId vbucket = .ok frame → frame.Writes server.cid key value)
    (hparse : ∀ response, (∃ error, operation.parseResponse response = .error error) ∨
      response.Done value ∧ operation.parseResponse response = .ok .mutation) :
    (self.execute env key operation).Settles server.Possible server.Silent
      (fun exchange result => ∃ made, result = (fun _ => .mutation) <$> made ∧
        server.Writes key value exchange made) CheckpointServer.Failed := by
  refine execute_settles env hcollection ?_
  intro collectionId vbucket frame hcid hframe connectionId reply
  have hwrites := hrequest collectionId vbucket frame hcid hframe
  constructor
  · intro error _
    exact ⟨.error error, rfl, writes_error hwrites connectionId reply error⟩
  · rintro response rfl hanswers
    rcases hparse response with ⟨error, herror⟩ | ⟨hdone, hmade⟩
    · exact ⟨.error error, herror, writes_error hwrites connectionId _ error⟩
    · refine ⟨.ok (), hmade, fun C D hserves => ⟨.done, rfl, ?_⟩⟩
      exact (hserves.wrote hwrites).2 response rfl hanswers hdone

theorem upsertXattr_settles (env : KvEnvironment)
    (hcollection : self.collection = server.collection) (key : String) (value : Bytes) :
    (self.upsertXattr env key checkpointXattr value).Settles server.Possible server.Silent
      (server.Writes key (some value)) CheckpointServer.Failed := by
  refine (execute_writes env hcollection key (some value) ?_ ?_).bind ?_ ?_
  · intro collectionId vbucket frame hcid hframe
    exact Command.subdocUpsertXattr_writes ((mapError_eq_ok DcpError.protocol).1 hframe) hcid
  · intro response
    cases hparse : Command.parseSubdocMutation response with
    | error error => exact .inl ⟨_, by simp only [CheckpointKvOperation.parseResponse, hparse]; rfl⟩
    | ok _ =>
      refine .inr ⟨(Command.ensureResponse_eq_ok.1 hparse).2, ?_⟩
      simp only [CheckpointKvOperation.parseResponse, hparse]
      rfl
  · rintro result ⟨error, rfl⟩
    exact ⟨error, rfl⟩
  · rintro exchange result - ⟨made, rfl, hmade⟩
    refine ⟨made, ?_, hmade⟩
    cases made <;> rfl

theorem removeDocument_settles (env : KvEnvironment)
    (hcollection : self.collection = server.collection) (key : String) :
    (self.removeDocument env key).Settles server.Possible server.Silent
      (server.Writes key none) CheckpointServer.Failed := by
  refine (execute_writes env hcollection key none ?_ ?_).bind ?_ ?_
  · intro collectionId vbucket frame hcid hframe
    obtain rfl := Except.ok.inj hframe
    exact ⟨rfl, hcid, rfl, rfl, rfl⟩
  · intro response
    simp only [CheckpointKvOperation.parseResponse]
    split <;> rename_i hstatus
    · exact .inr ⟨hstatus, rfl⟩
    · exact .inl ⟨_, rfl⟩
  · rintro result ⟨error, rfl⟩
    exact ⟨error, rfl⟩
  · rintro exchange result - ⟨made, rfl, hmade⟩
    refine ⟨made, ?_, hmade⟩
    cases made <;> rfl

end

end CouchbaseKvCheckpointCollection

end RustDcp
