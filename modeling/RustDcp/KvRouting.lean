import RustDcp.BootstrapOrder
import RustDcp.CodecRoundTrip
import RustDcp.KvStores

namespace RustDcp
set_option autoImplicit true

open Dialogue

/-- The requests of the handshake, and those for the topology and for the ID of a collection. -/
def metadataOpcodes : List Opcode :=
  [Opcode.hello, Opcode.saslListMechs, Opcode.saslAuth, Opcode.saslStep, Opcode.selectBucket,
    Opcode.getClusterConfig, Opcode.collectionsGetId]

def KvCommand.Metadata : KvCommand → Prop
  | .request _ frame => frame.opcode ∈ metadataOpcodes
  | _ => True

theorem mem_metadataOpcodes_of_rank (h : handshakeRank opcode < 5) : opcode ∈ metadataOpcodes := by
  have hlt : handshakeRank opcode < 7 := by omega
  have hget := List.getElem_idxOf hlt
  have hfirst : ∀ place : Fin 5, [Opcode.hello, Opcode.saslListMechs, Opcode.saslAuth,
      Opcode.saslStep, Opcode.selectBucket, Opcode.dcpOpen, Opcode.dcpControl][place.val] ∈
        metadataOpcodes := by decide
  rw [← hget]
  exact hfirst ⟨_, h⟩

theorem KvCommand.Reply.nonempty (command : KvCommand) : Nonempty command.Reply := by
  cases command with
  | connect seed => exact ⟨Except.ok 0⟩
  | fillNonce => exact ⟨Except.ok []⟩
  | setCollectionsEnabled connection enabled => exact ⟨()⟩
  | setSnappyEnabled connection enabled => exact ⟨()⟩
  | request connection frame => exact ⟨Except.error (.topology "")⟩

theorem Staged.metadata {d : KvClient α} (h : Staged connection low 5 d) :
    d.Issues KvCommand.Metadata := by
  refine .of_path KvCommand.Reply.nonempty ?_
  intro log outcome hpath exchange hmem
  obtain ⟨command, reply⟩ := exchange
  cases command with
  | request id frame =>
    have hrequest : (frame, reply) ∈ KvLog.requests log := KvLog.mem_requests hmem
    exact mem_metadataOpcodes_of_rank (h.ranked hpath _ hrequest).2
  | _ => trivial

theorem bootstrapSeeds_metadata {bootstrap : Connection → KvClient KvSession}
    (h : ∀ connection, (bootstrap connection).Issues KvCommand.Metadata) :
    (bootstrapSeeds tls bootstrap failures seeds).Issues KvCommand.Metadata := by
  induction seeds generalizing failures with
  | nil => trivial
  | cons seed seeds ih =>
    refine Issues.bind ⟨trivial, fun _ => trivial⟩ ?_
    rintro (error | id)
    · exact ih
    · refine (h _).attempt.bind ?_
      rintro (error | session)
      · exact ih
      · trivial

theorem bootstrapKvConnection_metadata (crypto : ScramCrypto) (config : ClientConfig)
    (clientName : String) : (bootstrapKvConnection crypto config clientName).Issues
      KvCommand.Metadata := by
  refine .lift_bind fun _ _ => .lift_bind fun _ _ => bootstrapSeeds_metadata fun connection => ?_
  exact (bootstrapKvOnConnection_staged crypto connection config clientName).metadata

theorem discoverTopology_metadata (json : ServerJson) (connection : Connection)
    (expectedBucket : String) (tls : Bool) (network : TopologyNetwork) :
    (discoverTopology json connection expectedBucket tls network).Issues KvCommand.Metadata :=
  Issues.bind ⟨.tail _ (.tail _ (.tail _ (.tail _ (.tail _ (.head _))))), fun _ => trivial⟩
    fun _ => trivial

theorem Connection.settles_exchange {connection : Connection} {frame : Frame}
    {check : Frame → Result α}
    (h : ∀ reply : Result Frame, A ⟨.request connection.id frame, reply⟩ →
      silent ⟨.request connection.id frame, reply⟩ ∧ idle (reply >>= check) ∨
        decided ⟨.request connection.id frame, reply⟩ (reply >>= check)) :
    (connection.request frame >>= fun response => liftM (check response)).Settles A silent decided
      idle := by
  intro reply hreply
  have hcases := h reply hreply
  cases reply with
  | error _ | ok _ => exact hcases.imp_right fun hdecided => ⟨_, rfl, hdecided⟩

theorem Connection.settles_mapped {connection : Connection} {frame : Frame} {f : DcpError → ε}
    {check : Frame → Except ε α}
    (h : ∀ reply : Result Frame, A ⟨.request connection.id frame, reply⟩ →
      silent ⟨.request connection.id frame, reply⟩ ∧ idle (reply.mapError f >>= check) ∨
        decided ⟨.request connection.id frame, reply⟩ (reply.mapError f >>= check)) :
    ((connection.request frame).mapError f >>= fun response => liftM (check response)).Settles A
      silent decided idle := by
  intro reply hreply
  have hcases := h reply hreply
  cases reply with
  | error _ | ok _ => exact hcases.imp_right fun hdecided => ⟨_, rfl, hdecided⟩

/-- The response answers the request. -/
def Frame.Answers (response request : Frame) : Prop :=
  response.magic.isResponse = true ∧ response.opcode = request.opcode

/-- What the stores assume of all exchanges: those for the metadata are silent, and the name of the
collection, unless it is the default one, stands for the ID. -/
structure Routing (collection : CollectionSpec) (cid : UInt32)
    (A silent : Exchange KvCommand.Reply → Prop) : Prop where
  metadata : KvCommand.Metadata command → silent ⟨command, reply⟩
  default : collection.isDefault → cid = 0
  named : A ⟨.request connectionId frame, .ok response⟩ → frame.opcode = Opcode.collectionsGetId →
    frame.value = asBytes s!"{collection.scope}.{collection.collection}" →
    response.Answers frame → response.status.isSuccess → response.extras.length = 12 →
    response.extras.drop 8 = putU32 cid

theorem Command.ensureResponse_eq_ok :
    Command.ensureResponse frame opcode = .ok () ↔
      (frame.magic.isResponse = true ∧ frame.opcode = opcode) ∧ frame.status.isSuccess = true := by
  simp only [Command.ensureResponse, Command.ensureResponseOpcode, Command.ensureSuccess]
  split <;> rename_i h
  · simp only [Bool.or_eq_true, Bool.not_eq_true', bne_iff_ne, ne_eq] at h
    constructor
    · intro hok
      cases hok
    · rintro ⟨⟨hmagic, hopcode⟩, -⟩
      simp [hmagic, hopcode] at h
  · simp only [Bool.or_eq_true, Bool.not_eq_true', bne_iff_ne, ne_eq, not_or, not_not,
      Bool.not_eq_false] at h
    change (if _ then _ else _) = _ ↔ _
    split <;> rename_i hstatus
    · simp [h, hstatus]
    · simp [h, hstatus]

theorem collectionIdOf_eq_ok (h : collectionIdOf response = .ok resolved) :
    (response.magic.isResponse = true ∧ response.opcode = Opcode.collectionsGetId) ∧
      response.status.isSuccess = true ∧ response.extras.length = 12 ∧
      resolved.collectionId = .ofNat (Protocol.bigEndian (response.extras.drop 8)) := by
  have hparse := (mapError_eq_ok _).1 h
  obtain ⟨⟨⟩, hensure, hrest⟩ := bind_eq_ok.1 hparse
  obtain ⟨hanswers, hsuccess⟩ := Command.ensureResponse_eq_ok.1 hensure
  split at hrest <;> rename_i hlength
  · cases hrest
  · obtain rfl := Except.ok.inj hrest
    have hlength := not_not.1 hlength
    refine ⟨hanswers, hsuccess, hlength, ?_⟩
    have htake : FrameCodec.slice response.extras 8 12 = response.extras.drop 8 :=
      List.take_of_length_le (by simp [hlength])
    simp only [Command.readField, htake]

section

variable {A silent : Exchange KvCommand.Reply → Prop} {collection : CollectionSpec} {cid : UInt32}

theorem Routing.settles (h : Routing collection cid A silent) {d : KvClient α}
    (hd : d.Issues KvCommand.Metadata) :
    d.Settles A silent (fun _ _ => False) fun result => ∀ a, result = .ok a → True :=
  (Settles.of_issues hd fun _ _ => h.metadata).mono (fun _ _ _ hfalse => hfalse)
    fun _ _ _ _ => trivial

theorem Routing.resolveCollectionId (h : Routing collection cid A silent)
    (connection : Connection) :
    (resolveCollectionId connection collection.scope collection.collection).Settles A silent
      (fun _ _ => False) fun result => ∀ id, result = .ok id → id.collectionId = cid := by
  refine .lift_bind (fun error id hid => by cases hid) ?_
  intro frame hframe
  have hframe := (mapError_eq_ok _).1 hframe
  obtain ⟨_, _, hframe⟩ := bind_eq_ok.1 hframe
  obtain ⟨_, _, hframe⟩ := bind_eq_ok.1 hframe
  obtain rfl := Except.ok.inj hframe
  refine Connection.settles_exchange ?_
  intro reply hreply
  refine .inl ⟨h.metadata (.tail _ (.tail _ (.tail _ (.tail _ (.tail _ (.tail _ (.head _))))))), ?_⟩
  intro resolved hresolved
  cases reply with
  | error error => cases hresolved
  | ok response =>
    obtain ⟨hanswers, hsuccess, hlength, hid⟩ := collectionIdOf_eq_ok hresolved
    rw [hid, h.named hreply rfl rfl hanswers hsuccess hlength, putU32,
      bigEndian_putUint 4 (UInt32.toNat_lt _)]
    exact UInt32.ofNat_toNat

theorem Routing.resolve (h : Routing collection cid A silent) (kind : String)
    (session : KvSession) :
    (collection.resolve kind session).Settles A silent (fun _ _ => False) fun result =>
      ∀ id, result = .ok id → id.getD 0 = cid := by
  rw [CollectionSpec.resolve]
  split
  · split <;> rename_i hdefault
    · rintro id ⟨⟩
      exact (h.default hdefault).symm
    · rintro id ⟨⟩
  · split <;> rename_i hdefault
    · rintro id ⟨⟩
      exact (h.default hdefault).symm
    · refine (h.resolveCollectionId session.connection).silent_bind (fun _ _ hid => by cases hid) ?_
      intro resolved hresolved
      rintro id ⟨⟩
      exact hresolved

theorem Routing.routeToOwner (h : Routing collection cid A silent) (env : KvEnvironment)
    (config : ClientConfig) (clientName kind key : String) :
    (routeToOwner env config clientName kind collection key).Settles A silent (fun _ _ => False)
      fun result => ∀ route, result = .ok route → route.1.getD 0 = cid := by
  have herror : ∀ (error : DcpError) (route : Option UInt32 × UInt16 × KvSession),
      Except.error error = Except.ok route → route.1.getD 0 = cid := by
    intro error route hroute
    cases hroute
  refine (h.settles (bootstrapKvConnection_metadata _ _ _)).silent_bind herror ?_
  intro seedSession _
  refine (h.resolve kind seedSession).silent_bind herror ?_
  intro collectionId hid
  refine (h.settles (discoverTopology_metadata _ _ _ _ _)).silent_bind herror ?_
  intro topology _
  refine .lift_bind herror fun vbucket _ => .lift_bind herror fun endpoint _ =>
    .lift_bind herror fun seed _ => ?_
  refine (h.settles (bootstrapKvConnection_metadata _ _ _)).silent_bind herror ?_
  rintro nodeSession - route ⟨⟩
  exact hid

end

theorem retryRouting_settles {attempt : Dialogue KvCommand.Reply ε (Option α)}
    (h : attempt.Settles A silent (fun exchange result => ∃ last : Except ε α,
      result = some <$> last ∧ decided exchange last) fun result => ∀ a, result ≠ .ok (some a)) :
    (retryRouting exhausted attempt left).Settles A silent decided
      fun result => ∃ error, result = .error error := by
  induction left with
  | zero => exact ⟨exhausted, rfl⟩
  | succ left ih =>
    refine h.bind ?_ ?_
    · intro result hidle
      match result with
      | .error error => exact ⟨error, rfl⟩
      | .ok none => exact ih
      | .ok (some a) => exact absurd rfl (hidle a)
    · rintro exchange result - ⟨last, rfl, hlast⟩
      refine ⟨last, ?_, hlast⟩
      cases last with
      | error error => rfl
      | ok a => rfl

end RustDcp
