import RustDcp.CheckpointWire

namespace RustDcp.Membership
set_option autoImplicit true

open Dialogue

def Fails (result : MResult α) : Prop := ∃ error, result = .error error

/-- The document and the CAS tokens of all its revisions. No token is given twice, and zero stands
for the absence of one. -/
structure RegistryState where
  stored : Option RegistryBytes
  issued : List UInt64
  nodup : issued.Nodup
  nonzero : 0 ∉ issued
  current : ∀ document, stored = some document → document.cas ∈ issued

def RegistryState.cas (self : RegistryState) : Option UInt64 := self.stored.map (·.cas)

def RegistryState.Stores (self : RegistryState) (value : Bytes) (later : RegistryState) : Prop :=
  ∃ token, later.stored = some ⟨value, token⟩ ∧ later.issued = self.issued ++ [token]

structure Loads (frame : Frame) (cid : UInt32) (key : String) : Prop where
  opcode : frame.opcode = Opcode.get
  key : frame.key = asBytes key
  collection : frame.collectionId.getD 0 = cid

/-- The request stores the value if the document has the token, or if there is none. -/
structure Stores (frame : Frame) (cid : UInt32) (key : String) (value : Bytes)
    (cas : Option UInt64) : Prop where
  key : frame.key = asBytes key
  collection : frame.collectionId.getD 0 = cid
  value : frame.value = value
  extras : frame.extras = putU32 0 ++ putU32 0
  condition : match cas with
    | some token => frame.opcode = Opcode.replace ∧ frame.cas = token ∧ token ≠ 0
    | none => frame.opcode = Opcode.add ∧ frame.cas = 0

theorem Stores.mem_writeOpcodes {frame : Frame} {document : String} {written : Bytes}
    (h : Stores frame cid document written cas) : frame.opcode ∈ writeOpcodes := by
  cases cas with
  | none =>
    rw [h.condition.1]
    decide
  | some token =>
    rw [h.condition.1]
    decide

def Conflicts (response : Frame) : Option UInt64 → Prop
  | some _ => response.status = Status.keyExists ∨ response.status = Status.keyNotFound
  | none => response.status = Status.keyExists

/-- The document as the KV nodes know it. -/
structure RegistryServer where
  collection : CollectionSpec
  cid : UInt32
  default : collection.isDefault → cid = 0
  key : String

namespace RegistryServer

/-- What an answer tells about the document before and after its request. An error may stand for a
write that was made. -/
structure Answered (server : RegistryServer) (R : RegistryState) (frame : Frame)
    (reply : Result Frame) (S : RegistryState) : Prop where
  kept : frame.opcode ∉ writeOpcodes → S = R
  refused : reply = .ok response → response.Answers frame →
    response.status = Status.notMyVbucket → S = R
  named : reply = .ok response → frame.opcode = Opcode.collectionsGetId →
    frame.value = asBytes s!"{server.collection.scope}.{server.collection.collection}" →
    response.Answers frame → response.status.isSuccess → response.extras.length = 12 →
    response.extras.drop 8 = putU32 server.cid
  loaded : Loads frame server.cid server.key → reply = .ok response → response.Answers frame →
    (response.status = Status.success → R.stored = some ⟨response.value, response.cas⟩) ∧
      (response.status = Status.keyNotFound → R.stored = none)
  wrote : Stores frame server.cid server.key value cas →
    (S = R ∨ R.cas = cas ∧ R.Stores value S) ∧
    ∀ response, reply = .ok response → response.Answers frame →
      (response.status = Status.success → R.cas = cas ∧ R.Stores value S) ∧
        (Conflicts response cas → R.cas ≠ cas ∧ S = R)

def Serves (server : RegistryServer) (R : RegistryState) :
    Exchange KvCommand.Reply → RegistryState → Prop
  | ⟨.request _ frame, reply⟩, S => server.Answered R frame reply S
  | _, S => S = R

def Possible (server : RegistryServer) (exchange : Exchange KvCommand.Reply) : Prop :=
  ∃ R S, server.Serves R exchange S

def Silent (server : RegistryServer) (exchange : Exchange KvCommand.Reply) : Prop :=
  ∀ R S, server.Serves R exchange S → S = R

/-- How a load may end. -/
def Loaded (result : MResult (Option RegistryBytes)) (R S : RegistryState) : Prop :=
  S = R ∧ (Fails result ∨ result = .ok R.stored)

/-- How a write on the condition may end. A write that fails may still have been made. -/
inductive Written (value : Bytes) (cas : Option UInt64) :
    MResult StoreWriteResult → RegistryState → RegistryState → Prop
  | stored (hcas : R.cas = cas) (hstores : R.Stores value S) : Written value cas (.ok .stored) R S
  | conflict (hcas : R.cas ≠ cas) : Written value cas (.ok .conflict) R R
  | failed : Written value cas (.error error) R R
  | lost (hcas : R.cas = cas) (hstores : R.Stores value S) : Written value cas (.error error) R S

def Decides (server : RegistryServer) (effect : MResult α → RegistryState → RegistryState → Prop)
    (exchange : Exchange KvCommand.Reply) (result : MResult α) : Prop :=
  ∀ R S, server.Serves R exchange S → effect result R S

theorem routing (server : RegistryServer) :
    Routing server.collection server.cid server.Possible server.Silent where
  metadata {command reply} h := by
    intro C D hserves
    cases command with
    | request connectionId frame =>
      exact hserves.kept (CheckpointServer.not_mem_writeOpcodes h)
    | _ => exact hserves
  default := server.default
  named h hopcode hvalue hanswers hsuccess hlength := by
    obtain ⟨C, D, hserves⟩ := h
    exact hserves.named rfl hopcode hvalue hanswers hsuccess hlength

end RegistryServer

namespace CouchbaseKvMembershipStore

open RegistryServer

section

variable {self : CouchbaseKvMembershipStore} {server : RegistryServer}

theorem execute_settles (env : KvEnvironment) {operation : KvOperation}
    {decided : Exchange KvCommand.Reply → MResult KvResult → Prop}
    (hcollection : self.collection = server.collection)
    (hdecided : ∀ collectionId vbucket datatype, collectionId.getD 0 = server.cid →
      ∀ frame, operation.request server.key collectionId vbucket datatype = frame →
      ∀ connectionId (reply : Result Frame),
        (∀ error, decided ⟨.request connectionId frame, reply⟩ (.error error)) ∧
        ∀ response, reply = .ok response → response.Answers frame →
          decided ⟨.request connectionId frame, reply⟩ (operation.parseResponse response)) :
    (self.execute env server.key operation).Settles server.Possible server.Silent decided
      Fails := by
  refine .lift_bind (fun error => ⟨error, rfl⟩) fun _ _ => retryRouting_settles ?_
  have herror : ∀ (error : CouchbaseMembershipError) (a : KvResult),
      Except.error error ≠ Except.ok (some a) := by simp
  have hrouting := server.routing
  rw [← hcollection] at hrouting
  refine Settles.silent_bind (Q := fun route => route.1.getD 0 = server.cid)
    ((hrouting.routeToOwner env self.config clientName "registry" server.key).mapError ?_
      fun _ _ hfalse => hfalse) herror ?_
  · intro result hresult route hroute
    exact hresult route ((mapError_eq_ok _).1 hroute)
  rintro ⟨collectionId, vbucket, session⟩ hcid
  refine .lift_bind herror fun _ _ => Connection.settles_mapped fun reply _ => ?_
  obtain ⟨hfailed, hanswered⟩ :=
    hdecided collectionId vbucket _ hcid _ rfl session.connection.id reply
  cases reply with
  | error error => exact .inr ⟨_, rfl, hfailed (.dcp error)⟩
  | ok response =>
    rcases readReply_cases .dcp "membership" [Status.notMyVbucket]
      operation.parseResponse _ response
      with ⟨error, hresult⟩ | ⟨hanswers, hcase⟩
    · exact .inr ⟨.error error, hresult, hfailed error⟩
    rcases hcase with ⟨hmoved, hresult⟩ | hresult
    · refine .inl ⟨fun R S hserves => hserves.refused rfl hanswers (by simpa using hmoved), ?_⟩
      exact fun a ha => by cases hresult.symm.trans ha
    · exact .inr ⟨_, hresult, hanswered response rfl hanswers⟩

theorem load_settles (env : KvEnvironment) (hcollection : self.collection = server.collection) :
    (self.load env server.key).Settles server.Possible server.Silent (server.Decides Loaded)
      Fails := by
  have hexecute : (self.execute env server.key .load).Settles server.Possible server.Silent
      (fun exchange result => ∃ loaded, result = .loaded <$> loaded ∧
        server.Decides Loaded exchange loaded)
      Fails := by
    refine execute_settles env hcollection ?_
    rintro collectionId vbucket datatype hcid frame rfl connectionId reply
    have hkept : Opcode.get ∉ writeOpcodes := by decide
    constructor
    · intro error
      exact ⟨.error error, rfl, fun R S hserves => ⟨hserves.kept hkept, .inl ⟨error, rfl⟩⟩⟩
    · intro response hreply hanswers
      have hloads : Loads (KvOperation.load.request server.key collectionId vbucket datatype)
          server.cid server.key := ⟨rfl, rfl, hcid⟩
      simp only [KvOperation.parseResponse]
      split <;> rename_i hsuccess
      · refine ⟨.ok (some _), rfl, fun R S hserves => ⟨hserves.kept hkept, .inr ?_⟩⟩
        rw [(hserves.loaded hloads hreply hanswers).1 hsuccess]
      · split <;> rename_i hmissing
        · refine ⟨.ok none, rfl, fun R S hserves => ⟨hserves.kept hkept, .inr ?_⟩⟩
          rw [(hserves.loaded hloads hreply hanswers).2 hmissing]
        · exact ⟨.error _, rfl, fun R S hserves => ⟨hserves.kept hkept, .inl ⟨_, rfl⟩⟩⟩
  refine hexecute.bind ?_ ?_
  · rintro result ⟨error, rfl⟩
    exact ⟨error, rfl⟩
  · rintro exchange result - ⟨loaded, rfl, hloaded⟩
    refine ⟨loaded, ?_, hloaded⟩
    cases loaded <;> rfl

/-- The write of a new revision: over the one with the token, or of the first one. -/
def writing (value : Bytes) : Option UInt64 → KvOperation
  | some cas => .replace value cas
  | none => .create value

theorem writing_stores (value : Bytes) (vbucket : UInt16) (datatype : UInt8) (hcas : cas ≠ some 0)
    (hcid : collectionId.getD 0 = server.cid) :
    Stores ((writing value cas).request server.key collectionId vbucket datatype) server.cid
      server.key value cas := by
  cases cas with
  | none => exact ⟨rfl, hcid, rfl, rfl, rfl, rfl⟩
  | some token => exact ⟨rfl, hcid, rfl, rfl, rfl, rfl, fun hzero => hcas (congrArg some hzero)⟩

theorem execute_writes (env : KvEnvironment) (hcollection : self.collection = server.collection)
    (value : Bytes) (cas : Option UInt64) (hcas : cas ≠ some 0) :
    (self.execute env server.key (writing value cas)).Settles server.Possible server.Silent
      (fun exchange result => ∃ made, result = .written <$> made ∧
        server.Decides (Written value cas) exchange made) Fails := by
  refine execute_settles env hcollection ?_
  rintro collectionId vbucket datatype hcid frame rfl connectionId reply
  have hstores := writing_stores value vbucket datatype hcas hcid
  have hfailed : ∀ error, server.Decides (Written value cas) ⟨.request connectionId
      ((writing value cas).request server.key collectionId vbucket datatype), reply⟩
      (.error error) := by
    intro error R S hserves
    rcases (hserves.wrote hstores).1 with rfl | ⟨hcas, hput⟩
    · exact .failed
    · exact .lost hcas hput
  constructor
  · exact fun error => ⟨.error error, rfl, hfailed error⟩
  · intro response hreply hanswers
    have hwrote := fun R S (hserves : server.Answered R _ reply S) =>
      (hserves.wrote hstores).2 response hreply hanswers
    cases cas with
    | none | some token =>
      simp only [writing, KvOperation.parseResponse]
      split <;> rename_i hsuccess
      · refine ⟨.ok .stored, rfl, fun R S hserves => ?_⟩
        obtain ⟨hcas, hput⟩ := (hwrote R S hserves).1 hsuccess
        exact .stored hcas hput
      · split <;> rename_i hexists
        · refine ⟨.ok .conflict, rfl, fun R S hserves => ?_⟩
          obtain ⟨hcas, rfl⟩ := (hwrote R S hserves).2 hexists
          exact .conflict hcas
        · exact ⟨.error _, rfl, hfailed _⟩

theorem write_settles (env : KvEnvironment) (hcollection : self.collection = server.collection)
    (value : Bytes) (cas : Option UInt64) (hcas : cas ≠ some 0) (error : CouchbaseMembershipError) :
    (self.execute env server.key (writing value cas) >>= fun result => match result with
      | .written result => (pure result : MembershipClient StoreWriteResult)
      | .loaded _ => throw error).Settles server.Possible server.Silent
        (server.Decides (Written value cas)) Fails := by
  refine (execute_writes env hcollection value cas hcas).bind ?_ ?_
  · rintro result ⟨error, rfl⟩
    exact ⟨error, rfl⟩
  · rintro exchange result - ⟨made, rfl, hmade⟩
    refine ⟨made, ?_, hmade⟩
    cases made <;> rfl

end

end CouchbaseKvMembershipStore

namespace RegistryServer

variable {server : RegistryServer}

/-- An exchange of one client, with the document before and after it. Between two of them other
clients may have changed the document. -/
structure Served (server : RegistryServer) where
  before : RegistryState
  exchange : Exchange KvCommand.Reply
  after : RegistryState
  serves : server.Serves before exchange after

/-- The run fails and leaves the document alone, or its last exchange alone has the effect. -/
def Atomic (run : List server.Served) (effect : MResult α → RegistryState → RegistryState → Prop)
    (result : MResult α) : Prop :=
  (∀ step ∈ run, step.after = step.before) ∧ Fails result ∨
    ∃ earlier last, run = earlier ++ [last] ∧ (∀ step ∈ earlier, step.after = step.before) ∧
      effect result last.before last.after

theorem atomic_of_settles {d : MembershipClient α}
    (h : d.Settles server.Possible server.Silent (server.Decides effect) Fails)
    {run : List server.Served} (hpath : d.Path (run.map Served.exchange) result) :
    Atomic run effect result := by
  have hpossible : ∀ exchange ∈ run.map Served.exchange, server.Possible exchange := by
    intro exchange hmem
    obtain ⟨step, -, rfl⟩ := List.mem_map.1 hmem
    exact ⟨step.before, step.after, step.serves⟩
  have hkept : ∀ {part : List server.Served},
      (∀ exchange ∈ part.map Served.exchange, server.Silent exchange) →
      ∀ step ∈ part, step.after = step.before :=
    fun hsilent step hstep => hsilent _ (List.mem_map_of_mem hstep) _ _ step.serves
  rcases h.path hpath hpossible with ⟨hsilent, hfails⟩ | ⟨before, last, hlog, hsilent, hlast⟩
  · exact .inl ⟨hkept hsilent, hfails⟩
  · obtain ⟨earlier, final, rfl, rfl, hfinal⟩ := List.map_eq_append_iff.1 hlog
    obtain ⟨step, rest, rfl, rfl, hrest⟩ := List.map_eq_cons_iff.1 hfinal
    obtain rfl := List.map_eq_nil_iff.1 hrest
    exact .inr ⟨earlier, step, rfl, hkept hsilent, hlast _ _ step.serves⟩

end RegistryServer

namespace CouchbaseKvMembershipStore

open RegistryServer

/-- A load, a create and a replace are atomic, whatever other clients do between their exchanges. -/
theorem operations_atomic (self : CouchbaseKvMembershipStore) (env : KvEnvironment)
    {server : RegistryServer} (hcollection : self.collection = server.collection)
    (run : List server.Served) :
    (∀ result, (self.load env server.key).Path (run.map Served.exchange) result →
      Atomic run Loaded result) ∧
    (∀ value result, (self.create env server.key value).Path (run.map Served.exchange) result →
      Atomic run (Written value none) result) ∧
    ∀ value token result, token ≠ 0 →
      (self.replace env server.key value token).Path (run.map Served.exchange) result →
      Atomic run (Written value (some token)) result := by
  refine ⟨?_, ?_, ?_⟩
  · intro result hpath
    exact atomic_of_settles (load_settles env hcollection) hpath
  · intro value result hpath
    exact atomic_of_settles (write_settles env hcollection value none (by simp) _) hpath
  · intro value token result htoken hpath
    exact atomic_of_settles
      (write_settles env hcollection value (some token) (by simpa using htoken) _) hpath

theorem conduct_served {server : RegistryServer} {registry : σ → RegistryState}
    {handle : σ → (command : KvCommand) → command.Reply × σ}
    (hserves : ∀ s command, server.Serves (registry s) ⟨command, (handle s command).1⟩
      (registry (handle s command).2)) (d : MembershipClient α) (s : σ) :
    ∃ run : List server.Served, run.map Served.exchange = (d.conduct handle s).2.1 ∧
      d.Path (run.map Served.exchange) (d.conduct handle s).1 := by
  induction d generalizing s with
  | done result => exact ⟨[], rfl, rfl, rfl⟩
  | ask command next ih =>
    obtain ⟨run, hrun, hpath⟩ := ih (handle s command).1 (handle s command).2
    exact ⟨⟨_, _, _, hserves s command⟩ :: run, congrArg (_ :: ·) hrun, _, _, rfl, hpath⟩

def sampleServer : RegistryServer := ⟨_, _, KvCheckpointStore.sampleServer.default, "replica"⟩

abbrev SampleNodes := Bool × Option Bytes

def SampleNodes.registry : SampleNodes → RegistryState
  | (_, none) => ⟨none, [], .nil, by simp, by simp⟩
  | (_, some value) => ⟨some ⟨value, 1⟩, [1], by simp, by decide, by simp⟩

def sampleHandle (nodes : SampleNodes) : (command : KvCommand) → command.Reply × SampleNodes
  | .request _ frame =>
    if frame.opcode = Opcode.get ∧ frame.key = asBytes sampleServer.key then
      match nodes.2 with
      | some value => (.ok { grant frame with value, cas := 1 }, nodes)
      | none => (.ok { grant frame with status := Status.keyNotFound }, nodes)
    else if frame.opcode = Opcode.add ∧ frame.key = asBytes sampleServer.key then
      match nodes with
      | (false, stored) => (.ok { grant frame with status := Status.notMyVbucket }, (true, stored))
      | (true, none) => (.ok (grant frame), (true, some frame.value))
      | (true, some _) => (.ok { grant frame with status := Status.keyExists }, nodes)
    else if frame.opcode ∈ Opcode.get :: writeOpcodes then (.error .cancelled, nodes)
    else (.ok (grant frame), nodes)
  | command => ((grantingPeer () command).1, nodes)

theorem sampleHandle_loaded {frame : Frame} (hopcode : frame.opcode = Opcode.get)
    (hloaded : ∀ response, reply = .ok response →
      (response.status = Status.success → R.stored = some ⟨response.value, response.cas⟩) ∧
        (response.status = Status.keyNotFound → R.stored = none)) :
    sampleServer.Answered R frame reply R where
  kept _ := rfl
  refused _ _ _ := rfl
  named _ hnamed _ _ _ _ := by
    rw [hopcode] at hnamed
    exact absurd hnamed (by decide)
  loaded _ hreply _ := hloaded _ hreply
  wrote hstores := by
    have hmem := hstores.mem_writeOpcodes
    rw [hopcode] at hmem
    exact absurd hmem (by decide)

theorem sampleHandle_wrote {frame : Frame} (hopcode : frame.opcode = Opcode.add)
    (hrefused : response.status = Status.notMyVbucket → S = R)
    (hwrote : (S = R ∨ R.cas = none ∧ R.Stores frame.value S) ∧
      (response.status = Status.success → R.cas = none ∧ R.Stores frame.value S) ∧
      (response.status = Status.keyExists → R.cas ≠ none ∧ S = R)) :
    sampleServer.Answered R frame (.ok response) S where
  kept hkept := by
    rw [hopcode] at hkept
    exact absurd hkept (by decide)
  refused hreply _ hstatus := by
    cases hreply
    exact hrefused hstatus
  named _ hnamed _ _ _ _ := by
    rw [hopcode] at hnamed
    exact absurd hnamed (by decide)
  loaded hloads _ _ := absurd (hloads.opcode.symm.trans hopcode) (by decide)
  wrote {value cas} hstores := by
    cases cas with
    | some token => exact absurd (hstores.condition.1.symm.trans hopcode) (by decide)
    | none =>
      rw [← hstores.value]
      refine ⟨hwrote.1, ?_⟩
      rintro _ ⟨⟩ _
      exact hwrote.2

theorem sampleHandle_get (nodes : SampleNodes) {frame : Frame}
    (hget : frame.opcode = Opcode.get ∧ frame.key = asBytes sampleServer.key) :
    sampleServer.Serves nodes.registry
      ⟨.request connectionId frame, (sampleHandle nodes (.request connectionId frame)).1⟩
      (SampleNodes.registry (sampleHandle nodes (.request connectionId frame)).2) := by
  obtain ⟨moved, stored⟩ := nodes
  simp only [RegistryServer.Serves, sampleHandle, if_pos hget]
  cases stored with
  | some value =>
    refine sampleHandle_loaded hget.1 ?_
    rintro response ⟨⟩
    exact ⟨fun _ => rfl, fun hstatus => absurd hstatus (by decide : Status.success ≠ _)⟩
  | none =>
    refine sampleHandle_loaded hget.1 ?_
    rintro response ⟨⟩
    exact ⟨fun hstatus => absurd hstatus (by decide : Status.keyNotFound ≠ _), fun _ => rfl⟩

theorem sampleHandle_add (nodes : SampleNodes) {frame : Frame}
    (hadd : frame.opcode = Opcode.add ∧ frame.key = asBytes sampleServer.key) :
    sampleServer.Serves nodes.registry
      ⟨.request connectionId frame, (sampleHandle nodes (.request connectionId frame)).1⟩
      (SampleNodes.registry (sampleHandle nodes (.request connectionId frame)).2) := by
  obtain ⟨moved, stored⟩ := nodes
  have hget : ¬(frame.opcode = Opcode.get ∧ frame.key = asBytes sampleServer.key) :=
    fun h => absurd (hadd.1.symm.trans h.1) (by decide)
  simp only [RegistryServer.Serves, sampleHandle, if_neg hget, if_pos hadd]
  cases moved with
  | false =>
    refine sampleHandle_wrote hadd.1 (fun _ => ?_) ⟨.inl ?_, ?_, ?_⟩
    · cases stored <;> rfl
    · cases stored <;> rfl
    · exact fun hstatus => absurd hstatus (by decide : Status.notMyVbucket ≠ _)
    · exact fun hstatus => absurd hstatus (by decide : Status.notMyVbucket ≠ _)
  | true =>
    cases stored with
    | none =>
      have hstored : RegistryState.Stores (SampleNodes.registry (true, none)) frame.value
          (SampleNodes.registry (true, some frame.value)) := ⟨1, rfl, rfl⟩
      refine sampleHandle_wrote hadd.1 ?_ ⟨.inr ⟨rfl, hstored⟩, fun _ => ⟨rfl, hstored⟩, ?_⟩
      · exact fun hstatus => absurd hstatus (by decide : Status.success ≠ _)
      · exact fun hstatus => absurd hstatus (by decide : Status.success ≠ _)
    | some value =>
      refine sampleHandle_wrote hadd.1 (fun _ => rfl) ⟨.inl rfl, ?_, fun _ => ⟨?_, rfl⟩⟩
      · exact fun hstatus => absurd hstatus (by decide : Status.keyExists ≠ _)
      · simp [RegistryState.cas, SampleNodes.registry]

theorem sampleHandle_serves (nodes : SampleNodes) (command : KvCommand) :
    sampleServer.Serves nodes.registry ⟨command, (sampleHandle nodes command).1⟩
      (SampleNodes.registry (sampleHandle nodes command).2) := by
  cases command with
  | request connectionId frame =>
    by_cases hget : frame.opcode = Opcode.get ∧ frame.key = asBytes sampleServer.key
    · exact sampleHandle_get nodes hget
    by_cases hadd : frame.opcode = Opcode.add ∧ frame.key = asBytes sampleServer.key
    · exact sampleHandle_add nodes hadd
    simp only [RegistryServer.Serves, sampleHandle, if_neg hget, if_neg hadd]
    split
    · exact {
        kept := fun _ => rfl
        refused := fun _ _ _ => rfl
        named := fun hreply => by cases hreply
        loaded := fun _ hreply => by cases hreply
        wrote := fun _ => ⟨.inl rfl, fun _ hreply => by cases hreply⟩ }
    next hother =>
      have hother := not_or.1 (List.mem_cons.not.1 hother)
      exact {
        kept := fun _ => rfl
        refused := fun _ _ _ => rfl
        named := by
          rintro response ⟨⟩ _ _ _ _ hlength
          cases hlength
        loaded := fun hloads => absurd hloads.opcode hother.1
        wrote := fun hstores => absurd hstores.mem_writeOpcodes hother.2 }
  | _ => rfl

def sampleStore : CouchbaseKvMembershipStore := ⟨sampleClientConfig, sampleServer.collection, 3⟩

def sampleCreate : MembershipClient StoreWriteResult :=
  sampleStore.create KvCheckpointStore.sampleKv.env sampleServer.key [1]

def sampleLoad : MembershipClient (Option RegistryBytes) :=
  sampleStore.load KvCheckpointStore.sampleKv.env sampleServer.key

theorem operations_atomic_created : ∃ created loaded refused : List sampleServer.Served,
    ((KvLog.requests (created.map Served.exchange)).filter (·.1.opcode = Opcode.add)).length = 2 ∧
    sampleCreate.Path (created.map Served.exchange) (.ok .stored) ∧
    Atomic created (Written [1] none) (.ok .stored) ∧
    sampleLoad.Path (loaded.map Served.exchange) (.ok (some ⟨[1], 1⟩)) ∧
    Atomic loaded Loaded (.ok (some ⟨[1], 1⟩)) ∧
    sampleCreate.Path (refused.map Served.exchange) (.ok .conflict) ∧
    Atomic refused (Written [1] none) (.ok .conflict) := by
  have hcreated : (sampleCreate.conduct sampleHandle (false, none)).1 = .ok .stored := by
    decide +kernel
  have hloaded : (sampleLoad.conduct sampleHandle (true, some [1])).1 = .ok (some ⟨[1], 1⟩) := by
    decide +kernel
  have hrefused : (sampleCreate.conduct sampleHandle (true, some [1])).1 = .ok .conflict := by
    decide +kernel
  obtain ⟨created, hcreate, hcreatePath⟩ :=
    conduct_served sampleHandle_serves sampleCreate (false, none)
  obtain ⟨loaded, -, hloadPath⟩ :=
    conduct_served sampleHandle_serves sampleLoad (true, some [1])
  obtain ⟨refused, -, hrefusePath⟩ :=
    conduct_served sampleHandle_serves sampleCreate (true, some [1])
  rw [hcreated] at hcreatePath
  rw [hloaded] at hloadPath
  rw [hrefused] at hrefusePath
  refine ⟨created, loaded, refused, ?_, hcreatePath,
    (operations_atomic sampleStore _ rfl created).2.1 _ _ hcreatePath, hloadPath,
    (operations_atomic sampleStore _ rfl loaded).1 _ hloadPath, hrefusePath,
    (operations_atomic sampleStore _ rfl refused).2.1 _ _ hrefusePath⟩
  rw [hcreate]
  decide +kernel

end CouchbaseKvMembershipStore

end RustDcp.Membership
