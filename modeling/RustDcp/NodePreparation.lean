import RustDcp.CodecRoundTrip
import RustDcp.NodeSession

namespace RustDcp
set_option autoImplicit true

open Dialogue KvLog

namespace KvLog

def answer (log : KvLog) (frame : Frame) : Result Frame :=
  ((requests log).lookup frame).getD (.error (.timeout 0))

theorem answer_eq (hnodup : ((requests first).map Prod.fst).Nodup)
    (h : (frame, reply) ∈ requests first) (second : KvLog) :
    answer (first ++ second) frame = reply := by
  obtain ⟨before, after, heq⟩ := List.append_of_mem h
  have hlookup : (requests first).lookup frame = some reply := by
    refine List.lookup_eq_some_iff.2 ⟨before, after, heq, ?_⟩
    intro earlier hearlier
    rw [heq, List.map_append, List.map_cons, List.nodup_append] at hnodup
    have hne := hnodup.2.2 earlier.1 (List.mem_map_of_mem hearlier) frame List.mem_cons_self
    exact bne_iff_ne.2 hne.symm
  rw [answer, requests_append, List.lookup_append, hlookup]
  rfl

end KvLog

theorem Connection.path_exchange {connection : Connection} {read : Frame → Result α} :
    (connection.request frame >>= fun response => liftM (read response)).Path log outcome ↔
      ∃ reply : Result Frame, log = [⟨.request connection.id frame, reply⟩] ∧
        outcome = reply >>= read := by
  rw [path_bind]
  simp only [Connection.path_request, path_lift]
  constructor
  · rintro (⟨response, -, -, rfl, rfl, rfl, rfl⟩ | ⟨error, rfl, rfl⟩)
    · exact ⟨.ok response, rfl, rfl⟩
    · exact ⟨.error error, rfl, rfl⟩
  · rintro ⟨reply, rfl, rfl⟩
    cases reply with
    | error error => exact .inr ⟨error, rfl, rfl⟩
    | ok response => exact .inl ⟨response, _, [], rfl, rfl, rfl, rfl⟩

theorem Connection.yields_exchange {connection : Connection} {read : Frame → Result α}
    (h : ∀ reply : Result Frame, A ⟨.request connection.id frame, reply⟩ →
      reply >>= read = result) :
    (connection.request frame >>= fun response => liftM (read response)).Yields A result := by
  intro log outcome hlog hpath
  obtain ⟨reply, rfl, rfl⟩ := Connection.path_exchange.1 hpath
  exact h reply (hlog _ List.mem_cons_self)

structure Once (P : Frame → Prop) (d : KvClient α) : Prop where
  nodup : d.Path log outcome → ((requests log).map Prod.fst).Nodup
  sent : d.Path log outcome → ∀ x ∈ requests log, P x.1

namespace Once

theorem lift (result : Result α) : Once P (liftM result : KvClient α) where
  nodup hpath := by simp [(path_lift.1 hpath).1]
  sent hpath := by simp [(path_lift.1 hpath).1]

theorem pure (a : α) : Once P (Pure.pure a : KvClient α) := .lift (.ok a)

theorem exchange {connection : Connection} {read : Frame → Result α} (h : P frame) :
    Once P (connection.request frame >>= fun response => liftM (read response)) where
  nodup hpath := by
    obtain ⟨reply, rfl, rfl⟩ := Connection.path_exchange.1 hpath
    simp
  sent hpath := by
    obtain ⟨reply, rfl, rfl⟩ := Connection.path_exchange.1 hpath
    simpa using h

theorem weaken {d : KvClient α} (h : Once P d) (hle : ∀ frame, P frame → Q frame) : Once Q d where
  nodup := h.nodup
  sent hpath x hx := hle _ (h.sent hpath x hx)

theorem bind {d : KvClient α} {f : α → KvClient β} (hd : Once P d)
    (hf : ∀ log a, d.Path log (.ok a) → Once Q (f a)) (hdisjoint : ∀ frame, P frame → ¬Q frame) :
    Once (fun frame => P frame ∨ Q frame) (d >>= f) where
  nodup hpath := by
    rcases path_bind.1 hpath with ⟨a, first, second, rfl, hfirst, hsecond⟩ | ⟨error, herror, rfl⟩
    · rw [requests_append, List.map_append, List.nodup_append]
      refine ⟨hd.nodup hfirst, (hf _ _ hfirst).nodup hsecond, ?_⟩
      simp only [List.mem_map]
      rintro - ⟨x, hx, rfl⟩ - ⟨y, hy, rfl⟩ heq
      exact hdisjoint _ (hd.sent hfirst x hx) (heq ▸ (hf _ _ hfirst).sent hsecond y hy)
    · exact hd.nodup herror
  sent hpath := by
    rcases path_bind.1 hpath with ⟨a, first, second, rfl, hfirst, hsecond⟩ | ⟨error, herror, rfl⟩
    · rw [requests_append, List.forall_mem_append]
      exact ⟨fun x hx => .inl (hd.sent hfirst x hx),
        fun y hy => .inr ((hf _ _ hfirst).sent hsecond y hy)⟩
    · exact fun x hx => .inl (hd.sent herror x hx)

theorem bind_silent {d : KvClient α} {f : α → KvClient β} (hd : Once P d)
    (hf : ∀ log a, d.Path log (.ok a) → Once (fun _ => False) (f a)) : Once P (d >>= f) :=
  (hd.bind hf fun _ _ h => h).weaken fun _ h => h.resolve_right id

end Once

structure StreamFilter.Coherent (filter : StreamFilter) : Prop where
  scope : filter.scopeId.isSome = true → filter.collectionIds = []
  distinct : filter.collectionIds.Nodup

theorem StreamFilter.Coherent.encode {self : StreamFilter} (h : self.Coherent)
    (hstream : self.streamId ≠ some 0) : ∃ bytes, self.encode = .ok bytes := by
  have hscope : ¬(self.scopeId.isSome = true ∧ ¬self.collectionIds.isEmpty = true) := by
    rintro ⟨hsome, hne⟩
    exact hne (by rw [h.scope hsome]; rfl)
  have hdistinct : self.collectionIds.dedup.length = self.collectionIds.length := by
    rw [h.distinct.dedup]
  rw [StreamFilter.encode, if_neg hscope, if_neg (not_not.2 hdistinct), if_neg hstream]
  exact ⟨_, rfl⟩

theorem StreamFilter.encodes_manifest {self : StreamFilter}
    (h : ∃ bytes, self.encode = .ok bytes) (manifestUid : Option Nat) :
    ∃ bytes, { self with manifestUid }.encode = .ok bytes := by
  obtain ⟨bytes, h⟩ := h
  rw [StreamFilter.encode] at h ⊢
  split at h
  · cases h
  split at h
  · cases h
  split at h
  · cases h
  rename_i hscope hdistinct hstream
  rw [if_neg hscope, if_neg hdistinct, if_neg hstream]
  exact ⟨_, rfl⟩

def CollectionSelection.Coherent (self : CollectionSelection) : Prop :=
  ∀ resolved, self.resolved = some resolved → resolved.streamFilter.Coherent ∧
    resolved.collectionIds.Nodup

theorem validateCollections_uids {collectionNames : List String}
    (h : validateCollections scopeName collectionIds collectionNames collections = .ok seen) :
    (collections.map (·.uid)).Nodup ∧
      ∀ collection ∈ collections, collection.uid ∉ collectionIds := by
  induction collections generalizing collectionIds collectionNames with
  | nil => simp
  | cons collection collections ih =>
    rw [validateCollections] at h
    split at h
    · cases h
    rename_i huid
    split at h
    · cases h
    obtain ⟨hdistinct, hfresh⟩ := ih h
    rw [List.map_cons, List.nodup_cons, List.forall_mem_cons]
    refine ⟨⟨?_, hdistinct⟩, huid, ?_⟩
    · intro hmem
      obtain ⟨later, hlater, heq⟩ := List.mem_map.1 hmem
      exact hfresh later hlater (heq ▸ List.mem_cons_self)
    · intro later hlater hmem
      exact hfresh later hlater (List.mem_cons_of_mem _ hmem)

theorem validateScopes_uids (h : validateScopes scopeIds scopeNames collectionIds scopes = .ok ())
    (hscope : scope ∈ scopes) : (scope.collections.map (·.uid)).Nodup := by
  induction scopes generalizing scopeIds scopeNames collectionIds with
  | nil => cases hscope
  | cons first scopes ih =>
    rw [validateScopes] at h
    split at h
    · cases h
    split at h
    · cases h
    obtain ⟨seen, hfirst, hrest⟩ := bind_eq_ok.1 h
    rcases List.mem_cons.1 hscope with rfl | hscope
    · exact (validateCollections_uids hfirst).1
    · exact ih hrest hscope

theorem CollectionManifest.resolveNames_forall₂ {self : CollectionManifest}
    (h : self.resolveNames scopeName scope collectionIds collectionNames names = .ok (ids, found)) :
    ∃ more, ids = collectionIds ++ more ∧ List.Forall₂ (fun name uid =>
      ∃ collection ∈ scope.collections, collection.name = name ∧ collection.uid = uid)
      names more := by
  induction names generalizing collectionIds collectionNames with
  | nil =>
    cases h
    exact ⟨[], (List.append_nil _).symm, .nil⟩
  | cons name names ih =>
    rw [resolveNames] at h
    split at h
    · cases h
    rename_i collection hfind
    obtain ⟨more, rfl, hmore⟩ := ih h
    refine ⟨collection.uid :: more, by rw [List.append_assoc, List.singleton_append],
      .cons ?_ hmore⟩
    exact ⟨collection, List.mem_of_find?_eq_some hfind, by simpa using List.find?_some hfind, rfl⟩

theorem CollectionManifest.resolve_coherent {self : CollectionManifest}
    (hvalid : self.validateIdentity = .ok ())
    (h : self.resolve configured streamId = .ok resolved) :
    resolved.streamFilter.Coherent ∧ resolved.collectionIds.Nodup := by
  obtain ⟨⟨⟩, hconfigured, h⟩ := bind_eq_ok.1 h
  split at h
  · cases h
  rename_i scope hscope
  have hmem := List.mem_of_find?_eq_some hscope
  dsimp only at h
  split at h
  · cases h
    exact ⟨⟨fun _ => rfl, List.nodup_nil⟩, List.nodup_nil⟩
  · rename_i hsome
    obtain ⟨⟨ids, names⟩, hnames, h⟩ := bind_eq_ok.1 h
    cases h
    obtain ⟨more, hids, hmore⟩ := resolveNames_forall₂ hnames
    rw [List.nil_append] at hids
    subst hids
    -- Within a scope a name belongs to one UID and a UID to one name.
    have hunique : Relator.BiUnique fun (name : String) (uid : UInt32) =>
        ∃ collection ∈ scope.collections, collection.name = name ∧ collection.uid = uid := by
      constructor
      · rintro _ uid _ ⟨first, hfirst, rfl, rfl⟩ ⟨second, hsecond, rfl, heq⟩
        rw [List.inj_on_of_nodup_map (validateScopes_uids hvalid hmem) hfirst hsecond heq.symm]
      · rintro name _ _ ⟨first, hfirst, rfl, rfl⟩ ⟨second, hsecond, heq, rfl⟩
        rw [List.inj_on_of_nodup_map (validateScopes_nodup hvalid hmem) hfirst hsecond heq.symm]
    have hdistinct : ids.Nodup :=
      (List.rel_nodup hunique hmore).1 (CollectionFilter.validate_nodup hconfigured)
    refine ⟨⟨?_, hdistinct⟩, hdistinct⟩
    intro hnone
    cases hnone

theorem CollectionManifest.parse_valid (h : CollectionManifest.parse json bytes = .ok manifest) :
    manifest.validateIdentity = .ok () := by
  obtain ⟨wire, -, h⟩ := bind_eq_ok.1 h
  obtain ⟨uid, -, h⟩ := bind_eq_ok.1 h
  obtain ⟨scopes, -, h⟩ := bind_eq_ok.1 h
  obtain ⟨⟨⟩, hvalid, h⟩ := bind_eq_ok.1 h
  cases h
  exact hvalid

theorem resolveCollectionSelection_coherent
    (h : (resolveCollectionSelection json session configured streamId).Path log (.ok selection)) :
    selection.Coherent := by
  obtain ⟨valid, -, h⟩ := path_lift_bind_ok.1 h
  split at h
  · cases (path_lift.1 h).2
  split at h
  · obtain ⟨manifest, first, second, -, hmanifest, hresolve⟩ := path_bind_ok.1 h
    obtain ⟨resolved, hresolved, hselection⟩ := path_lift_bind_ok.1 hresolve
    cases (path_pure.1 hselection).2
    obtain ⟨reply, -, hreply⟩ := Connection.path_exchange.1 hmanifest
    obtain ⟨response, -, hresponse⟩ := bind_eq_ok.1 hreply.symm
    obtain ⟨payload, -, hparse⟩ := bind_eq_ok.1 hresponse
    intro found hfound
    cases hfound
    exact CollectionManifest.resolve_coherent (CollectionManifest.parse_valid hparse) hresolved
  split at h
  · cases (path_pure.1 h).2
    intro found hfound
    cases hfound
  · cases (path_lift.1 h).2

namespace Wire

/-- What the log of a session says about the answer to the stream request before it. -/
def openReply (vbucket : UInt16) (reply : Result Frame) (later : List (Frame × Result Frame)) :
    UInt32 × OpenReply :=
  match reply with
  | .error error => (0, .failed error)
  | .ok response =>
    (response.opaqueId, match Command.parseStreamRequestResponse response with
      | .error error => .failed (.protocol error)
      | .ok (.opened entries) => .opened entries
      | .ok (.rollback rollbackSeqno) => .rollback rollbackSeqno
          ((later.head?.elim (.error (.timeout 0)) Prod.snd) >>= failoverLogOf vbucket))

def repliesOf (vbucket : UInt16) : List (Frame × Result Frame) → List (UInt32 × OpenReply)
  | [] => []
  | (frame, reply) :: later =>
    if frame.opcode = Opcode.dcpStreamRequest ∧ frame.vbucket = vbucket then
      openReply vbucket reply later :: repliesOf vbucket later
    else repliesOf vbucket later

def answersOf (env : Environment) (client : ClientConfig) (streamId : Option UInt16)
    (session : KvSession) (log : KvLog) : NodeAnswers where
  bootstrap := .ok ()
  collections := .collections ∈ session.capabilities.helloFeatures
  streamIds := .streamId ∈ session.capabilities.dcpControls
  streamEndOnClose := .streamEndOnClose ∈ session.capabilities.dcpControls
  selection := resolveSelection session.capabilities client.collections streamId
    (answer log (Command.getCollectionManifest 0) >>= manifestOf env.json)
  activeHighSeqnos collectionId :=
    answer log (Command.getVbucketSeqnos VBucketState.active collectionId 0) >>= activeHighSeqnosOf
  failoverLog vbucket := answer log (Command.getFailoverLog vbucket 0) >>= failoverLogOf vbucket
  replies vbucket := repliesOf vbucket (requests log)
  connection := env.transport session.connection.id

def unanswered (env : Environment) (client : ClientConfig) (error : DcpError) : NodeAnswers :=
  { answersOf env client none ⟨⟨0, ""⟩, ⟨∅, .plain, ∅⟩⟩ [] with bootstrap := .error error }

def Agrees (env : Environment) (answers : NodeAnswers) (manifest : Result CollectionManifest) :
    Exchange KvCommand.Reply → Prop
  | ⟨.request _ frame, reply⟩ =>
    (frame = Command.getCollectionManifest 0 →
      (reply : Result Frame) >>= manifestOf env.json = manifest) ∧
    (∀ collectionId, frame = Command.getVbucketSeqnos VBucketState.active collectionId 0 →
      (reply : Result Frame) >>= activeHighSeqnosOf = answers.activeHighSeqnos collectionId) ∧
    ∀ vbucket, frame = Command.getFailoverLog vbucket 0 →
      (reply : Result Frame) >>= failoverLogOf vbucket = answers.failoverLog vbucket
  | _ => True

theorem agrees_of_nodup (hnodup : ((requests first).map Prod.fst).Nodup) (second : KvLog) :
    ∀ exchange ∈ first, Agrees env (answersOf env client streamId session (first ++ second))
      (answer (first ++ second) (Command.getCollectionManifest 0) >>= manifestOf env.json)
      exchange := by
  rintro ⟨command, reply⟩ hmem
  cases command with
  | request connectionId frame =>
    have hreply := answer_eq hnodup (mem_requests hmem) second
    refine ⟨?_, ?_, ?_⟩
    · rintro rfl
      rw [hreply]
    · rintro collectionId rfl
      simp only [answersOf, hreply]
    · rintro vbucket rfl
      simp only [answersOf, hreply]
  | _ => trivial

section

variable {env : Environment} {answers : NodeAnswers} {manifest : Result CollectionManifest}

theorem fetchActiveHighSeqnos_yields (connection : Connection) (collectionId : Option UInt32) :
    (fetchActiveHighSeqnos connection collectionId).Yields (Agrees env answers manifest)
      (answers.activeHighSeqnos collectionId) :=
  Connection.yields_exchange fun _ hagrees => hagrees.2.1 _ rfl

theorem fetchFailoverLog_yields (connection : Connection) (vbucket : UInt16) :
    (fetchFailoverLog connection vbucket).Yields (Agrees env answers manifest)
      (answers.failoverLog vbucket) :=
  Connection.yields_exchange fun _ hagrees => hagrees.2.2 _ rfl

theorem fetchCollectionManifest_yields (connection : Connection) :
    (fetchCollectionManifest env.json connection).Yields (Agrees env answers manifest) manifest :=
  Connection.yields_exchange fun _ hagrees => hagrees.1 rfl

theorem mergeCollectionHighs_yields (connection : Connection) (merged : BTreeMap UInt16 Nat)
    (collectionIds : List UInt32) :
    (mergeCollectionHighs connection merged collectionIds).Yields (Agrees env answers manifest)
      (RustDcp.mergeCollectionHighs answers.activeHighSeqnos merged collectionIds) := by
  induction collectionIds generalizing merged with
  | nil => exact Yields.lift _
  | cons collectionId collectionIds ih =>
    refine (fetchActiveHighSeqnos_yields connection (some collectionId)).bind ?_ ?_
    · intro seqnos hseqnos
      rw [RustDcp.mergeCollectionHighs, hseqnos]
      exact ih _
    · intro error herror
      rw [RustDcp.mergeCollectionHighs, herror]

theorem fetchSelectionHighSeqnos_yields (connection : Connection)
    (selection : CollectionSelection) :
    (fetchSelectionHighSeqnos connection selection).Yields (Agrees env answers manifest)
      (RustDcp.fetchSelectionHighSeqnos answers.activeHighSeqnos selection) := by
  simp only [fetchSelectionHighSeqnos, RustDcp.fetchSelectionHighSeqnos]
  cases selection.highSeqnoCollectionIds with
  | none => exact fetchActiveHighSeqnos_yields connection none
  | some collectionIds => exact mergeCollectionHighs_yields connection ∅ collectionIds

theorem resolveSelection_yields {fetch : KvClient CollectionManifest}
    (h : fetch.Yields (Agrees env answers manifest) manifest) (capabilities : BootstrapCapabilities)
    (configured : CollectionFilter) (streamId : Option UInt16) :
    (resolveSelection capabilities configured streamId fetch).Yields (Agrees env answers manifest)
      (resolveSelection capabilities configured streamId manifest) := by
  refine (Yields.lift configured.validate).seq ?_
  intro valid _
  split
  · exact Yields.lift _
  split
  · refine h.seq ?_
    intro found _
    refine (Yields.lift (found.resolve configured streamId)).seq ?_
    intro resolved _
    exact Yields.lift _
  split
  · exact Yields.lift _
  · exact Yields.lift _

variable (config : DcpConfig) (request : OpenGenerationRequest)

theorem resolveNodeRequest_yields (node : NodeId) (connection : Connection)
    (selection : CollectionSelection) (highSeqnos : BTreeMap UInt16 Nat) (vbucket : UInt16) :
    (resolveNodeRequest config request node connection selection highSeqnos vbucket).Yields
      (Agrees env answers manifest)
      (RustDcp.resolveNodeRequest config request node answers selection highSeqnos vbucket) := by
  simp only [resolveNodeRequest, RustDcp.resolveNodeRequest]
  cases highSeqnos[vbucket]? with
  | none => exact Yields.lift _
  | some highSeqno =>
    refine (fetchFailoverLog_yields connection vbucket).seq ?_
    intro failoverLog _
    cases request.starts[vbucket]? with
    | none => exact Yields.lift _
    | some start =>
      refine (Yields.lift (request.frozenEndSeqno vbucket)).seq ?_
      intro frozenEndSeqno _
      exact Yields.lift _

theorem resolveNodeRequests_yields (node : NodeId) (connection : Connection)
    (selection : CollectionSelection) (highSeqnos : BTreeMap UInt16 Nat) (rollbacks : Nat)
    (vbuckets : List UInt16) :
    (resolveNodeRequests config request node connection selection highSeqnos rollbacks
      vbuckets).Yields (Agrees env answers manifest)
      (RustDcp.resolveNodeRequests config request node answers selection highSeqnos rollbacks
        vbuckets) := by
  induction vbuckets generalizing rollbacks with
  | nil => exact Yields.lift _
  | cons vbucket vbuckets ih =>
    refine (resolveNodeRequest_yields config request node connection selection highSeqnos
      vbucket).seq ?_
    rintro ⟨resolved, more⟩ _
    dsimp only
    split
    · exact Yields.lift _
    · refine (ih (rollbacks + more)).seq ?_
      intro rest _
      exact Yields.lift _

/-- The part of the model of a node that `prepareNode` refines. -/
def preparedBy (answers : NodeAnswers) (node : NodeId) (vbuckets : List UInt16)
    (existing : Option CollectionSelection) :
    Result (CollectionSelection × List VBucketStreamRequest × Nat) := do
  let selection ← existing.elim answers.selection .ok
  let highSeqnos ← RustDcp.fetchSelectionHighSeqnos answers.activeHighSeqnos selection
  let (requests, rollbacks) ←
    RustDcp.resolveNodeRequests config request node answers selection highSeqnos 0 vbuckets
  return (selection, requests, rollbacks)

theorem prepareNode_yields (client : ClientConfig) (streamId : Option UInt16) (node : NodeId)
    (vbuckets : List UInt16) (existing : Option CollectionSelection) (session : KvSession)
    (hselection : answers.selection =
      resolveSelection session.capabilities client.collections streamId manifest) :
    (prepareNode env client config request streamId node vbuckets existing session).Yields
      (Agrees env answers manifest)
      (preparedBy config request answers node vbuckets existing) := by
  have hfirst : (nodeSelection env client streamId session existing).Yields
      (Agrees env answers manifest) (existing.elim answers.selection .ok) := by
    cases existing with
    | some selection => exact Yields.lift _
    | none =>
      rw [Option.elim_none, hselection]
      exact resolveSelection_yields (fetchCollectionManifest_yields session.connection) _ _ _
  refine hfirst.seq ?_
  intro selection _
  refine (fetchSelectionHighSeqnos_yields session.connection selection).seq ?_
  intro highSeqnos _
  refine (resolveNodeRequests_yields config request node session.connection selection highSeqnos 0
    vbuckets).seq ?_
  intro resolved _
  exact Yields.lift _

end

theorem getVbucketSeqnos_injective
    (h : Command.getVbucketSeqnos state (some a) 0 = Command.getVbucketSeqnos state (some b) 0) :
    a = b := by
  have hextras := List.append_cancel_left (congrArg Frame.extras h)
  have hvalue := congrArg Protocol.bigEndian (show putU32 a = putU32 b from hextras)
  rw [putU32, putU32, bigEndian_putUint 4 a.toNat_lt, bigEndian_putUint 4 b.toNat_lt] at hvalue
  exact UInt32.toNat_inj.1 hvalue

theorem mergeCollectionHighs_once (connection : Connection) (hdistinct : collectionIds.Nodup) :
    Once (fun frame => ∃ collectionId ∈ collectionIds,
        frame = Command.getVbucketSeqnos VBucketState.active (some collectionId) 0)
      (mergeCollectionHighs connection merged collectionIds) := by
  induction collectionIds generalizing merged with
  | nil => exact Once.pure _
  | cons collectionId collectionIds ih =>
    rw [List.nodup_cons] at hdistinct
    have hfirst : Once (· = Command.getVbucketSeqnos VBucketState.active (some collectionId) 0)
        (fetchActiveHighSeqnos connection (some collectionId)) := Once.exchange rfl
    refine (hfirst.bind (fun _ _ _ => ih hdistinct.2) ?_).weaken ?_
    · rintro frame rfl ⟨other, hother, heq⟩
      exact hdistinct.1 (getVbucketSeqnos_injective heq ▸ hother)
    · rintro frame (rfl | ⟨other, hother, rfl⟩)
      · exact ⟨collectionId, List.mem_cons_self, rfl⟩
      · exact ⟨other, List.mem_cons_of_mem _ hother, rfl⟩

theorem fetchSelectionHighSeqnos_once (connection : Connection) (h : selection.Coherent) :
    Once (fun frame => frame.opcode = Opcode.getAllVbSeqnos)
      (fetchSelectionHighSeqnos connection selection) := by
  simp only [fetchSelectionHighSeqnos]
  split
  · exact Once.exchange rfl
  · rename_i collectionIds hids
    obtain ⟨resolved, hresolved, heq⟩ := Option.bind_eq_some_iff.1 hids
    split at heq
    · cases heq
    cases heq
    refine (mergeCollectionHighs_once connection (h resolved hresolved).2).weaken ?_
    rintro frame ⟨collectionId, -, rfl⟩
    rfl

theorem resolveNodeRequest_once (connection : Connection) (vbucket : UInt16) :
    Once (· = Command.getFailoverLog vbucket 0)
      (resolveNodeRequest config request node connection selection highSeqnos vbucket) := by
  simp only [resolveNodeRequest]
  split
  · exact Once.lift _
  · have hfirst : Once (· = Command.getFailoverLog vbucket 0)
        (fetchFailoverLog connection vbucket) := Once.exchange rfl
    refine hfirst.bind_silent ?_
    intro _ failoverLog _
    split
    · exact Once.lift _
    · exact (Once.lift _).bind_silent fun _ _ _ => Once.lift _

theorem resolveNodeRequests_once (connection : Connection) (hdistinct : vbuckets.Nodup) :
    Once (fun frame => ∃ vbucket ∈ vbuckets, frame = Command.getFailoverLog vbucket 0)
      (resolveNodeRequests config request node connection selection highSeqnos rollbacks
        vbuckets) := by
  induction vbuckets generalizing rollbacks with
  | nil => exact Once.pure _
  | cons vbucket vbuckets ih =>
    rw [List.nodup_cons] at hdistinct
    refine ((resolveNodeRequest_once connection vbucket).bind (Q := fun frame =>
      ∃ other ∈ vbuckets, frame = Command.getFailoverLog other 0) ?_ ?_).weaken ?_
    · rintro _ ⟨resolved, more⟩ _
      dsimp only
      split
      · exact Once.lift _
      · exact (ih hdistinct.2).bind_silent fun _ _ _ => Once.pure _
    · rintro frame rfl ⟨other, hother, heq⟩
      obtain rfl : vbucket = other := congrArg Frame.vbucket heq
      exact hdistinct.1 hother
    · rintro frame (rfl | ⟨other, hother, rfl⟩)
      · exact ⟨vbucket, List.mem_cons_self, rfl⟩
      · exact ⟨other, List.mem_cons_of_mem _ hother, rfl⟩

theorem nodeSelection_once :
    Once (· = Command.getCollectionManifest 0)
      (nodeSelection env client streamId session existing) := by
  cases existing with
  | some selection => exact Once.pure _
  | none =>
    refine ((Once.lift _).bind (P := fun _ => False) (fun _ _ _ => ?_) (by simp)).weaken
      fun _ h => h.resolve_left id
    split
    · exact Once.lift _
    split
    · have hfirst : Once (· = Command.getCollectionManifest 0)
          (fetchCollectionManifest env.json session.connection) := Once.exchange rfl
      refine hfirst.bind_silent fun _ manifest _ => ?_
      exact (Once.lift _).bind_silent fun _ _ _ => Once.pure _
    split
    · exact Once.pure _
    · exact Once.lift _

theorem nodeSelection_coherent (hexisting : ∀ selection ∈ existing, selection.Coherent)
    (h : (nodeSelection env client streamId session existing).Path log (.ok selection)) :
    selection.Coherent := by
  cases existing with
  | some selected =>
    cases (path_pure.1 h).2
    exact hexisting _ rfl
  | none => exact resolveCollectionSelection_coherent h

theorem prepareNode_once (hexisting : ∀ selection ∈ existing, selection.Coherent)
    (hdistinct : vbuckets.Nodup) :
    Once (fun frame => frame.opcode ≠ Opcode.dcpStreamRequest)
      (prepareNode env client config request streamId node vbuckets existing session) := by
  refine (nodeSelection_once.bind (Q := fun frame => frame.opcode ∈
    [Opcode.getAllVbSeqnos, Opcode.dcpGetFailoverLog]) ?_ ?_).weaken ?_
  · intro _ selection hselection
    refine ((fetchSelectionHighSeqnos_once session.connection
      (nodeSelection_coherent hexisting hselection)).bind (Q := fun frame =>
        ∃ vbucket ∈ vbuckets, frame = Command.getFailoverLog vbucket 0) ?_ ?_).weaken ?_
    · intro _ highSeqnos _
      exact (resolveNodeRequests_once session.connection hdistinct).bind_silent
        fun _ _ _ => Once.pure _
    · rintro frame hopcode ⟨vbucket, -, rfl⟩
      have hsame : Opcode.dcpGetFailoverLog = Opcode.getAllVbSeqnos := hopcode
      exact absurd hsame (by decide)
    · rintro frame (hopcode | ⟨vbucket, -, rfl⟩)
      · rw [hopcode]
        decide
      · exact List.mem_cons_of_mem _ List.mem_cons_self
  · rintro frame rfl
    decide
  · rintro frame (rfl | hopcode)
    · decide
    · intro heq
      rw [heq] at hopcode
      exact absurd hopcode (by decide)

end Wire

end RustDcp
