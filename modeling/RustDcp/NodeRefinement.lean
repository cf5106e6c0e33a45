import RustDcp.ClusterRouting
import RustDcp.StreamOpening
import RustDcp.Subscription

namespace RustDcp
set_option autoImplicit true

open Dialogue KvLog

namespace Wire

def nodeAnswers (env : Environment) (client : ClientConfig) (streamId : Option UInt16)
    (log : KvLog) : Result KvSession → NodeAnswers
  | .ok session => answersOf env client streamId session log
  | .error error => unanswered env client error

theorem connectNode_endpoint
    (h : (connectNode env client request node).Path log (.ok session)) :
    ∃ endpoint, request.topology.endpoints[node]? = some endpoint := by
  simp only [connectNode] at h
  split at h
  · cases (path_lift.1 h).2
  · rename_i endpoint hendpoint
    exact ⟨endpoint, hendpoint⟩

theorem openTokioNode_unanswered
    (h : (connectNode env client request node).Path log (.error error)) :
    RustDcp.openTokioNode config request node vbuckets existing (unanswered env client error) =
      .error error := by
  rw [connectNode] at h
  rw [RustDcp.openTokioNode]
  cases hendpoint : request.topology.endpoints[node]? with
  | none =>
    rw [hendpoint] at h
    cases (path_lift.1 h).2
    rfl
  | some endpoint => rfl

theorem openTokioNode_eq (hendpoint : request.topology.endpoints[node]? = some endpoint)
    (hbootstrap : answers.bootstrap = .ok ()) :
    RustDcp.openTokioNode config request node vbuckets existing answers =
      preparedBy config request answers node vbuckets existing >>= fun prepared => do
        let stream ← RustDcp.openDcpStream config answers prepared.2.1
        return (stream, prepared.1, prepared.2.2) := by
  rw [RustDcp.openTokioNode, hendpoint]
  simp only [hbootstrap, preparedBy, LawfulMonad.bind_assoc, pure_bind]
  rfl

theorem preparedBy_filtered
    (h : preparedBy config request answers node vbuckets existing =
      .ok (selection, prepared, count)) :
    ∀ resolved ∈ prepared, resolved.Filtered selection.streamFilter := by
  obtain ⟨selected, -, h₁⟩ := bind_eq_ok.1 h
  obtain ⟨highSeqnos, -, h₂⟩ := bind_eq_ok.1 h₁
  obtain ⟨⟨resolved, total⟩, hresolved, h₃⟩ := bind_eq_ok.1 h₂
  cases h₃
  exact resolveNodeRequests_filtered hresolved

theorem prepareNode_coherent (hexisting : ∀ selection ∈ existing, selection.Coherent)
    (h : (prepareNode env client config request streamId node vbuckets existing session).Path log
      (.ok (selection, prepared))) : selection.Coherent := by
  obtain ⟨selected, first, second, -, hselected, h₁⟩ := path_bind_ok.1 h
  obtain ⟨highSeqnos, third, fourth, -, -, h₂⟩ := path_bind_ok.1 h₁
  obtain ⟨resolved, fifth, sixth, -, -, h₃⟩ := path_bind_ok.1 h₂
  cases (path_pure.1 h₃).2
  exact nodeSelection_coherent hexisting hselected

theorem prepareNode_refines (hexisting : ∀ selection ∈ existing, selection.Coherent)
    (hdistinct : vbuckets.Nodup)
    (h : (prepareNode env client config request streamId node vbuckets existing session).Path log
      outcome) (later : KvLog) :
    preparedBy config request (answersOf env client streamId session (log ++ later)) node vbuckets
      existing = outcome := by
  have honce : Once (fun frame => frame.opcode ≠ Opcode.dcpStreamRequest)
      (prepareNode env client config request streamId node vbuckets existing session) :=
    prepareNode_once hexisting hdistinct
  exact (prepareNode_yields config request client streamId node vbuckets existing session rfl log
    outcome (agrees_of_nodup (honce.nodup h) later) h).symm

theorem openTokioNode_refines (hexisting : ∀ selection ∈ existing, selection.Coherent)
    (hdistinct : vbuckets.Nodup)
    (h : (openTokioNode env client config request streamId node vbuckets existing).Path
      log outcome) :
    ∃ connecting session opening, log = connecting ++ opening ∧
      (connectNode env client request node).Path connecting session ∧
      RustDcp.openTokioNode config request node vbuckets existing
        (nodeAnswers env client streamId opening session) = outcome ∧
      ∀ stream selection count, outcome = .ok (stream, selection, count) → selection.Coherent := by
  rcases path_bind.1 h with ⟨session, connecting, opening, rfl, hconnect, h₁⟩ |
    ⟨error, hconnect, rfl⟩
  · refine ⟨connecting, .ok session, opening, rfl, hconnect, ?_⟩
    obtain ⟨endpoint, hendpoint⟩ := connectNode_endpoint hconnect
    rw [nodeAnswers, openTokioNode_eq hendpoint rfl]
    rcases path_bind.1 h₁ with ⟨⟨selection, requests, count⟩, first, second, rfl, hprepare, h₂⟩ |
      ⟨error, hprepare, rfl⟩
    · have hprepared := prepareNode_refines hexisting hdistinct hprepare second
      have honce : Once (fun frame => frame.opcode ≠ Opcode.dcpStreamRequest)
          (prepareNode env client config request streamId node vbuckets existing session) :=
        prepareNode_once hexisting hdistinct
      have hcoherent := prepareNode_coherent hexisting hprepare
      have hencodes : ∀ resolved ∈ requests, ∀ filter, resolved.filter = some filter →
          ∃ bytes, filter.encode = .ok bytes := fun resolved hresolved =>
        (preparedBy_filtered hprepared resolved hresolved).encodes hcoherent
      rw [hprepared]
      change (RustDcp.openDcpStream config (answersOf env client streamId session (first ++ second))
        requests >>= fun stream => pure (stream, selection, count)) = outcome ∧ _
      rcases path_bind.1 h₂ with ⟨stream, third, fourth, rfl, hopen, hdone⟩ | ⟨error, hopen, rfl⟩
      · obtain ⟨rfl, rfl⟩ := path_pure.1 hdone
        rw [List.append_nil, openDcpStream_refines hencodes (honce.sent hprepare) hopen]
        refine ⟨rfl, ?_⟩
        intro stream selection count hok
        cases hok
        exact hcoherent
      · rw [openDcpStream_refines hencodes (honce.sent hprepare) hopen]
        refine ⟨rfl, ?_⟩
        intro stream selection count hok
        cases hok
    · have hprepared := prepareNode_refines hexisting hdistinct hprepare []
      rw [List.append_nil] at hprepared
      rw [hprepared]
      refine ⟨rfl, ?_⟩
      intro stream selection count hok
      cases hok
  · refine ⟨log, .error error, [], (List.append_nil _).symm, hconnect,
      openTokioNode_unanswered hconnect, ?_⟩
    intro stream selection count hok
    cases hok

/-- The part of a log that belongs to one node. -/
structure NodePart where
  node : NodeId
  connecting : KvLog
  session : Result KvSession
  opening : KvLog

def NodePart.log (self : NodePart) : KvLog := self.connecting ++ self.opening

def NodePart.answers (env : Environment) (client : ClientConfig) (streamId : Option UInt16)
    (self : NodePart) : NodeAnswers :=
  nodeAnswers env client streamId self.opening self.session

def answersFrom (env : Environment) (client : ClientConfig) (streamId : Option UInt16)
    (parts : List NodePart) (node : NodeId) : NodeAnswers :=
  match parts.find? fun part => part.node = node with
  | some part => part.answers env client streamId
  | none => unanswered env client (.timeout 0)

theorem answersFrom_eq (hdistinct : (parts.map NodePart.node).Nodup) (hpart : part ∈ parts) :
    answersFrom env client streamId parts part.node = part.answers env client streamId := by
  have hsome : (parts.find? fun other => other.node = part.node).isSome = true :=
    List.find?_isSome.2 ⟨part, hpart, by simp⟩
  obtain ⟨found, hfound⟩ := Option.isSome_iff_exists.1 hsome
  have hsame : found = part := by
    apply List.inj_on_of_nodup_map hdistinct (List.mem_of_find?_eq_some hfound) hpart
    simpa using List.find?_some hfound
  rw [answersFrom, hfound, hsame]

section

variable (env : Environment) (client : ClientConfig) (config : DcpConfig)
  (request : OpenGenerationRequest) (streamId : Option UInt16)

/-- The parts of a log, one for each of the first nodes, that let the model of these nodes come to
the same outcome. -/
structure ReadsOff (opening : Opening) (nodes : List (NodeId × List UInt16)) (log : KvLog)
    (outcome : Result Opening) (parts : List NodePart) : Prop where
  log_eq : log = parts.flatMap NodePart.log
  connects : ∀ part ∈ parts,
    (connectNode env client request part.node).Path part.connecting part.session
  first : parts.map NodePart.node <+: nodes.map Prod.fst
  opens : ∀ answers : NodeId → NodeAnswers,
    (∀ part ∈ parts, answers part.node = part.answers env client streamId) →
    RustDcp.openNodes config request answers opening nodes = outcome

end

theorem insertPartitions_selection {partitions : List (UInt16 × PartitionOpenState)}
    (h : Opening.insertPartitions opening partitions = .ok next) :
    next.selection = opening.selection := by
  induction partitions generalizing opening with
  | nil =>
    cases h
    rfl
  | cons partition partitions ih =>
    obtain ⟨vbucket, state⟩ := partition
    rw [Opening.insertPartitions] at h
    split at h
    · cases h
    · exact (ih h).trans rfl

theorem ReadsOff.single
    (hconnect : (connectNode env client request node).Path connecting session)
    (h : ∀ answers : NodeId → NodeAnswers,
      answers node = nodeAnswers env client streamId opened session →
      RustDcp.openNodes config request answers opening ((node, vbuckets) :: nodes) = outcome) :
    ReadsOff env client config request streamId opening ((node, vbuckets) :: nodes)
      (connecting ++ opened) outcome [⟨node, connecting, session, opened⟩] where
  log_eq := by simp [NodePart.log]
  connects := by simpa using hconnect
  first := by simp
  opens answers hanswers := h answers (hanswers _ List.mem_cons_self)

theorem ReadsOff.cons
    (hconnect : (connectNode env client request node).Path connecting session)
    (hrest : ReadsOff env client config request streamId next nodes log outcome parts)
    (h : ∀ answers : NodeId → NodeAnswers,
      answers node = nodeAnswers env client streamId opened session →
      RustDcp.openNodes config request answers opening ((node, vbuckets) :: nodes) =
        RustDcp.openNodes config request answers next nodes) :
    ReadsOff env client config request streamId opening ((node, vbuckets) :: nodes)
      (connecting ++ opened ++ log) outcome (⟨node, connecting, session, opened⟩ :: parts) where
  log_eq := by rw [List.flatMap_cons, ← hrest.log_eq, NodePart.log]
  connects := List.forall_mem_cons.2 ⟨hconnect, hrest.connects⟩
  first := List.cons_prefix_cons.2 ⟨rfl, hrest.first⟩
  opens answers hanswers := by
    obtain ⟨hfirst, hothers⟩ := List.forall_mem_cons.1 hanswers
    rw [h answers hfirst]
    exact hrest.opens answers hothers

theorem openNodes_refines (hexisting : ∀ selection ∈ opening.selection, selection.Coherent)
    (hdistinct : ∀ group ∈ nodes, group.2.Nodup)
    (h : (openNodes env client config request streamId opening nodes).Path log outcome) :
    ∃ parts, ReadsOff env client config request streamId opening nodes log outcome parts := by
  induction nodes generalizing opening log with
  | nil =>
    obtain ⟨rfl, rfl⟩ := path_pure.1 h
    exact ⟨[], rfl, by simp, List.prefix_refl _, fun _ _ => rfl⟩
  | cons group nodes ih =>
    obtain ⟨node, vbuckets⟩ := group
    obtain ⟨hvbuckets, hrest⟩ := List.forall_mem_cons.1 hdistinct
    rcases path_bind.1 h with ⟨⟨stream, selection, rollbacks⟩, first, second, rfl, hnode, h₁⟩ |
      ⟨error, hnode, rfl⟩
    · obtain ⟨connecting, session, opened, rfl, hconnect, hopened, hcoherent⟩ :=
        openTokioNode_refines hexisting hvbuckets hnode
      dsimp only at h₁
      split at h₁
      · rename_i hoverflow
        obtain ⟨rfl, rfl⟩ := path_lift.1 h₁
        rw [List.append_nil]
        refine ⟨_, ReadsOff.single hconnect ?_⟩
        intro answers hanswers
        rw [RustDcp.openNodes, hanswers, hopened]
        exact if_pos hoverflow
      · rename_i hfits
        rcases path_lift_bind.1 h₁ with ⟨next, hnext, h₂⟩ | ⟨error, herror, rfl, rfl⟩
        · have hselected : ∀ selected ∈ next.selection, selected.Coherent := by
            intro selected hselected
            rw [insertPartitions_selection hnext] at hselected
            rcases Option.or_eq_some_iff.1 hselected with hearlier | ⟨-, hown⟩
            · exact hexisting selected hearlier
            · cases hown
              exact hcoherent stream selection rollbacks rfl
          obtain ⟨parts, hparts⟩ := ih hselected hrest h₂
          refine ⟨_, ReadsOff.cons hconnect hparts ?_⟩
          intro answers hanswers
          rw [RustDcp.openNodes, hanswers, hopened]
          refine (if_neg hfits).trans ?_
          rw [hnext]
          rfl
        · rw [List.append_nil]
          refine ⟨_, ReadsOff.single hconnect ?_⟩
          intro answers hanswers
          rw [RustDcp.openNodes, hanswers, hopened]
          refine (if_neg hfits).trans ?_
          rw [herror]
          rfl
    · obtain ⟨connecting, session, opened, rfl, hconnect, hopened, -⟩ :=
        openTokioNode_refines hexisting hvbuckets hnode
      refine ⟨_, ReadsOff.single hconnect ?_⟩
      intro answers hanswers
      rw [RustDcp.openNodes, hanswers, hopened]
      rfl

theorem openStreams_refines
    (h : (openStreams env client config request streamId).Path log outcome) :
    ∃ parts : List NodePart, log = parts.flatMap NodePart.log ∧
      (parts.map NodePart.node).Nodup ∧
      (∀ part ∈ parts,
        (connectNode env client request part.node).Path part.connecting part.session) ∧
      RustDcp.openStreams config request (answersFrom env client streamId parts) = outcome := by
  simp only [openStreams] at h
  simp only [RustDcp.openStreams]
  split at h
  · rename_i hempty
    obtain ⟨rfl, rfl⟩ := path_lift.1 h
    exact ⟨[], rfl, List.nodup_nil, by simp, if_pos hempty⟩
  rename_i hsome
  simp only [if_neg hsome]
  rcases path_lift_bind.1 h with ⟨grouped, hgrouped, h₁⟩ | ⟨error, herror, rfl, rfl⟩
  · have hgroups := ClusterTopology.activeVbucketsByNode_groups hgrouped
    have hvbuckets : ∀ group ∈ grouped.toList, group.2.Nodup := by
      intro group hgroup
      have hget := Std.ExtTreeMap.mem_toList_iff_getElem?_eq_some.1 hgroup
      exact (hgroups.sorted group.1 group.2 hget).imp fun hlt => UInt16.ne_of_lt hlt
    obtain ⟨parts, hparts⟩ := openNodes_refines (by simp [Opening.empty]) hvbuckets h₁
    have hnodes : (grouped.toList.map Prod.fst).Nodup := by
      rw [List.Nodup, List.pairwise_map]
      exact Std.ExtTreeMap.distinct_keys_toList.imp fun hne heq =>
        hne (Std.compare_eq_iff_eq.2 heq)
    have hdistinct := hnodes.sublist hparts.first.sublist
    refine ⟨parts, hparts.log_eq, hdistinct, hparts.connects, ?_⟩
    rw [hgrouped]
    exact hparts.opens _ fun part hpart => answersFrom_eq hdistinct hpart
  · refine ⟨[], rfl, List.nodup_nil, by simp, ?_⟩
    rw [herror]
    rfl

/-- What a client sees when it opens a generation is what the model of the generation gives for the
answers that the log of the sessions shows. -/
theorem openTokioGeneration_refines (env : Environment) (client : ClientConfig)
    (config : DcpConfig) (request : OpenGenerationRequest) (streamId : Option UInt16)
    (h : (openTokioGeneration env client config request streamId).Path log outcome) :
    ∃ parts : List NodePart, log = parts.flatMap NodePart.log ∧
      (parts.map NodePart.node).Nodup ∧
      (∀ part ∈ parts,
        (connectNode env client request part.node).Path part.connecting part.session) ∧
      RustDcp.openTokioGeneration config request (answersFrom env client streamId parts) =
        outcome := by
  have hmodel : ∀ answers, RustDcp.openTokioGeneration config request answers =
      RustDcp.openStreams config request answers >>= completeGeneration config request :=
    fun _ => rfl
  rcases path_bind.1 h with ⟨opening, first, second, rfl, hopen, h₁⟩ | ⟨error, hopen, rfl⟩
  · obtain ⟨parts, hlog, hdistinct, hconnects, hstreams⟩ := openStreams_refines hopen
    obtain ⟨rfl, rfl⟩ := path_lift.1 h₁
    refine ⟨parts, by rw [List.append_nil, hlog], hdistinct, hconnects, ?_⟩
    rw [hmodel, hstreams]
    rfl
  · obtain ⟨parts, hlog, hdistinct, hconnects, hstreams⟩ := openStreams_refines hopen
    refine ⟨parts, hlog, hdistinct, hconnects, ?_⟩
    rw [hmodel, hstreams]
    rfl

def sampleEnvironment : Environment where
  crypto := noCrypto
  json := {
    bucketConfig := fun _ => .error "no configuration"
    manifest := fun _ => .ok ⟨"1f", [⟨"0", "_default", [⟨"0", "_default"⟩]⟩]⟩ }
  ipv6 := loopbackOnly
  connectionName node := s!"rust-dcp-{node}-1"
  transport _ := Subscription.sampleNode.connection

/-- A server with vBucket 0 at seqno 9 that rolls a stream from seqno 5 back to 3. -/
def sampleAnswer (frame : Frame) : Frame :=
  let branch := putU64 77 ++ putU64 0
  if frame.opcode = Opcode.getAllVbSeqnos then { grant frame with value := putU16 0 ++ putU64 9 }
  else if frame.opcode = Opcode.dcpGetFailoverLog then { grant frame with value := branch }
  else if frame.opcode = Opcode.dcpStreamRequest then
    if Command.readField 8 frame.extras 8 = 5 then
      { grant frame with status := Status.rollback, value := putU64 3 }
    else { grant frame with value := branch }
  else grant frame

def samplePeer : Unit → (command : KvCommand) → command.Reply × Unit
  | _, .request _ frame => (.ok (sampleAnswer frame), ())
  | s, command => grantingPeer s command

def sampleRequest : OpenGenerationRequest where
  topology := Subscription.sampleTopology
  starts := (∅ : BTreeMap UInt16 StartPosition).insert 0
    (.checkpoint ⟨some "b1", 0, 77, 5, 5, 5, none⟩)
  frozenEndSeqnos := none

def openedRun : Result TokioGeneration × KvLog × Unit :=
  (openTokioGeneration sampleEnvironment sampleClientConfig (Subscription.sampleConfig .infinite)
    sampleRequest none).conduct samplePeer ()

theorem openTokioGeneration_refines_opened :
    openedRun.1.toOption.map (fun generation =>
      (generation.rollbackCount, generation.effectiveCheckpoints.toList.map (·.2.seqno))) =
        some (1, [3]) ∧
    ∃ parts : List NodePart, openedRun.2.1 = parts.flatMap NodePart.log ∧
      RustDcp.openTokioGeneration (Subscription.sampleConfig .infinite) sampleRequest
        (answersFrom sampleEnvironment sampleClientConfig none parts) = openedRun.1 := by
  refine ⟨by decide +kernel, ?_⟩
  obtain ⟨parts, hlog, -, -, hopened⟩ := openTokioGeneration_refines sampleEnvironment
    sampleClientConfig (Subscription.sampleConfig .infinite) sampleRequest none (conduct_path rfl)
  exact ⟨parts, hlog, hopened⟩

end Wire

end RustDcp
