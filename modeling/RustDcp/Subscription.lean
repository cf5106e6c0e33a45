import RustDcp.OpenedStreams

namespace RustDcp
set_option autoImplicit true

/-- What `drive_generation` returns. -/
inductive GenerationAction where
  | stop
  | complete
  | reopen (snapshot : TopologySnapshot)
  | reconnect
  | fatal (error : DcpError)
  deriving DecidableEq

structure ManagedOutput where
  generation : Nat
  item : Result TrackedEvent
  deriving DecidableEq

/-- Where the subscription task stands. Up to `sending` it is in `drive_generation`, in `left` it
shuts the streams down, and `retrying` and `opening` are in the loop of `reopen_generation`. -/
inductive DriverPhase where
  | checking
  | selecting
  | mitigating (event : DcpEvent) (call : Nat)
  | applying (call : Nat)
  | skipping (ack : Option EventAck)
  | sending (output : ManagedOutput)
  | left (action : GenerationAction)
  | retrying (snapshot : TopologySnapshot)
  | opening (snapshot : TopologySnapshot) (captured : BTreeMap UInt16 DcpCheckpoint)
  | ended (error : Option DcpError)
  deriving DecidableEq

/-- The streams of one connection generation. The last two fields are history: the items that
`handle_stream_item` got, with their streams, and the tokens registered. -/
structure Generation where
  number : Nat
  streams : List NodeStream
  consumed : List (Nat × Result DcpStreamItem)
  tokens : List EventAck

/-- A subscription with its task, its coordinator and the application. `held` are the tokens of the
deliveries that the application has got and not processed, `stopping` the streams whose workers have
been sent the shutdown command, `past` is history. -/
structure Subscription where
  current : Generation
  past : List Generation
  frozenEndSeqnos : BTreeMap UInt16 Nat
  connectionGeneration : Nat
  snapshot : TopologySnapshot
  publication : Publication
  system : System
  registry : RegistryState
  mitigation : Option Mitigation.Mitigator
  cancelled : Bool
  receiverOpen : Bool
  channel : List ManagedOutput
  held : List EventAck
  stopping : List Nat
  phase : DriverPhase

/-- The actions up to `flush` are taken by others: topology updates, the mitigation observer, the
node workers and the application. The rest are steps of the subscription task. -/
inductive SubscriptionAction where
  | publish (action : PublicationAction)
  | mitigator (action : Mitigation.MitigatorAction)
  | work (node : Nat) (action : WorkerAction)
  | cancel
  | hangUp
  | poll
  | acknowledge (token : EventAck)
  | flush (action : FlushAction)
  | check
  | interrupt
  | disturb
  | take (node : Nat)
  | exhaust
  | release
  | settle
  | skip
  | send
  | shutDown (node : Nat)
  | close (shutdown : Result Unit)
  | capture
  | openReply (answers : NodeId → NodeAnswers)
  | report

def DcpError.isRetryable : DcpError → Bool
  | .io _ | .timeout _ | .deadConnection _ _ | .topology _ | .stream _ _ | .cancelled => true
  | _ => false

def mitigationPosition : DcpEvent → Option (UInt16 × Nat)
  | .snapshotMarker marker => some (marker.vbucket, marker.startSeqno)
  | event => event.seqno.map fun seqno => (event.vbucket, seqno)

def DcpEvent.cas? : DcpEvent → Option Nat
  | .mutation event => some event.cas.toNat
  | .deletion event => some event.cas.toNat
  | .expiration event => some event.cas.toNat
  | _ => none

/-- A cutoff before the epoch is before every document. -/
def documentIsBeforeListenerCutoff (config : DcpConfig) (event : DcpEvent) : Bool :=
  match config.skipUntil, event.cas? with
  | some skipUntil, some cas => skipUntil > ((cas / 10 ^ 9 * 10 ^ 9 : Nat) : Int)
  | _, _ => false

def WorkerAction.isInternal : WorkerAction → Bool
  | .arrive _ | .fault _ _ | .receive | .silence | .finish => true
  | .hangUp | .command _ | .commandsClosed => false

def DriverPhase.hasStreams : DriverPhase → Bool
  | .retrying _ | .opening _ _ | .ended _ => false
  | _ => true

def DriverPhase.isLeft : DriverPhase → Bool
  | .left _ => true
  | _ => false

def NodeStream.isDry (self : NodeStream) : Bool :=
  self.worker.status ≠ .running ∧ self.taken = self.worker.output.length

namespace Subscription

def newerTopology (self : Subscription) : Bool :=
  self.publication.published.generation > self.snapshot.generation

def leave (self : Subscription) (action : GenerationAction) : Subscription :=
  { self with phase := .left action }

def track (self : Subscription) (event : DcpEvent) : Result TrackedEvent × Subscription :=
  match self.system.state.trackEvent event with
  | (.error error, state) => (.error error, { self with system := { self.system with state } })
  | (.ok tracked, state) =>
    (.ok tracked, { self with
      system := { self.system with
        state
        tokens := self.system.tokens ++ tracked.ack.toList
        journal := self.system.journal ++ [.delivered tracked] }
      current := { self.current with tokens := self.current.tokens ++ tracked.ack.toList } })

/-- The part of `handle_stream_item` after the mitigation has let an event through. -/
def deliver (config : DcpConfig) (self : Subscription) (event : DcpEvent) : Subscription :=
  if documentIsBeforeListenerCutoff config event then
    match self.track event with
    | (.error error, self) => self.leave (.fatal error)
    | (.ok tracked, self) => { self with phase := .skipping tracked.ack }
  else
    match self.registry.decorate event with
    | (.error error, registry) => leave { self with registry } (.fatal error)
    | (.ok event, registry) =>
      match track { self with registry } event with
      | (.error error, self) => self.leave (.fatal error)
      | (.ok tracked, self) =>
        { self with phase := .sending ⟨self.connectionGeneration, .ok tracked⟩ }

def waitForMitigation (config : DcpConfig) (self : Subscription) (event : DcpEvent) :
    Subscription :=
  match mitigationPosition event, self.mitigation with
  | some (vbucket, seqno), some mitigator =>
    if self.cancelled then self.leave .stop
    else if self.newerTopology then self.leave (.reopen self.publication.published)
    else match mitigator.step (.call vbucket seqno) with
      | none => self
      | some mitigation =>
        { self with
          mitigation := some mitigation
          phase := .mitigating event mitigator.calls.length }
  | _, _ => self.deliver config event

def handleStreamItem (config : DcpConfig) (self : Subscription) :
    Result DcpStreamItem → Subscription
  | .ok (.event event) => self.waitForMitigation config event
  | .ok (.unknown _) => { self with phase := .checking }
  | .ok (.topologyConfig source payload) =>
    match config.parseTopology payload source with
    | .error error => self.leave (.fatal error)
    | .ok candidate =>
      { self with
        publication := { self.publication with
          calls := self.publication.calls ++ [.waiting candidate] }
        phase := .applying self.publication.calls.length }
  | .error error =>
    self.leave (if error.isRetryable then .reconnect else .fatal error)

def beginReopen (self : Subscription) (snapshot : TopologySnapshot) : Subscription :=
  let observed := self.publication.published
  let snapshot := if observed.generation > snapshot.generation then observed else snapshot
  match checkedSucc self.connectionGeneration with
  | none =>
    { self with phase := .ended (some (.stream 0 "connection generation overflow")) }
  | some connectionGeneration => { self with connectionGeneration, phase := .retrying snapshot }

/-- What `shutdown` of a stream returns. A worker that ends with the command still in its queue
drops the response. -/
def shutdownResult (self : Subscription) (node : Nat) (stream : NodeStream) : Result Unit :=
  if node ∈ self.stopping then stream.worker.replies.head?.getD (.error .cancelled) else .ok ()

/-- The results that `shutdown_selected_streams` may return: the streams are in no order, so that
any of their errors may be the first. -/
def shutdownSelectedStreams (self : Subscription) : Result Unit → Bool
  | .ok () => (self.current.streams.mapIdx self.shutdownResult).all (· = .ok ())
  | .error error => (self.current.streams.mapIdx self.shutdownResult).any (· = .error error)

/-- `run_subscription` once the streams of the generation are shut down. -/
def afterShutdown (self : Subscription) (shutdown : Result Unit) : GenerationAction → Subscription
  | .stop | .complete =>
    match shutdown with
    | .ok () => { self with phase := .ended none }
    | .error error => { self with phase := .ended (some error) }
  | .fatal error => { self with phase := .ended (some error) }
  | .reconnect => self.beginReopen self.publication.published
  | .reopen snapshot => self.beginReopen snapshot

def acceptReopened (self : Subscription) (snapshot : TopologySnapshot)
    (captured : BTreeMap UInt16 DcpCheckpoint) (opened : TokioGeneration) : Subscription :=
  match self.system.acceptReopenedGeneration captured self.frozenEndSeqnos opened.opened with
  | (.error error, system) => { self with system, phase := .ended (some error) }
  | (.ok (), system) =>
    { self with
      system
      registry := opened.registry
      mitigation := opened.mitigation
      snapshot
      past := self.past ++ [self.current]
      current :=
        { number := self.connectionGeneration
          streams := opened.streams
          consumed := []
          tokens := [] }
      stopping := []
      phase := .checking }

def reopenRequest (self : Subscription) (snapshot : TopologySnapshot)
    (captured : BTreeMap UInt16 DcpCheckpoint) : OpenGenerationRequest :=
  { topology := snapshot.topology
    starts := reopenStarts captured
    frozenEndSeqnos := some self.frozenEndSeqnos }

def newer (self : Subscription) (snapshot : TopologySnapshot) : TopologySnapshot :=
  if self.publication.published.generation > snapshot.generation then self.publication.published
  else snapshot

/-- The cancel and topology arms of a select of `drive_generation`. -/
def interrupted (self : Subscription) (otherwise : Option Subscription) : Option Subscription :=
  if self.cancelled then some (self.leave .stop)
  else if self.newerTopology then some (self.leave (.reopen self.publication.published))
  else otherwise

def interrupt (self : Subscription) : Option Subscription :=
  match self.phase with
  | .selecting => self.interrupted (some { self with phase := .checking })
  | .mitigating _ _ => self.interrupted none
  | .sending _ => self.interrupted (some self)
  | .retrying snapshot | .opening snapshot _ =>
    if self.cancelled then some { self with phase := .ended none }
    else some { self with phase := .retrying (self.newer snapshot) }
  | _ => none

/-- The application's `poll_next`, for one item of the channel. -/
def poll (self : Subscription) : Option Subscription :=
  if self.receiverOpen then
    match self.channel with
    | [] => none
    | output :: channel =>
      if output.generation ≠ self.connectionGeneration then some { self with channel }
      else match output.item with
        | .error _ => some { self with channel }
        | .ok tracked => some { self with channel, held := self.held ++ tracked.ack.toList }
  else none

section

variable (config : DcpConfig) (self : Subscription)

def take (node : Nat) : Option Subscription :=
  match self.phase, self.current.streams[node]? with
  | .selecting, some stream =>
    match stream.worker.output[stream.taken]? with
    | none => none
    | some item =>
      some (handleStreamItem config { self with
        current := { self.current with
          streams := self.current.streams.set node { stream with taken := stream.taken + 1 }
          consumed := self.current.consumed ++ [(node, item)] } } item)
  | _, _ => none

def work (node : Nat) (action : WorkerAction) : Option Subscription :=
  if self.phase.hasStreams ∧ (action.isInternal ∨
      action = .command .shutdown ∧ self.phase.isLeft ∧ node ∈ self.stopping) then
    match self.current.streams[node]? with
    | none => none
    | some stream =>
      (stream.worker.step config.flowControl.deadConnectionTimeout action).map fun worker =>
        { self with current := { self.current with
            streams := self.current.streams.set node { stream with worker } } }
  else none

/-- The shutdown command to the next stream, once the streams before it have been awaited. -/
def shutDown (node : Nat) : Option Subscription :=
  match self.phase, self.current.streams[node]? with
  | .left _, some stream =>
    if stream.worker.status = .running ∧ ∀ other ∈ self.stopping,
        ∀ earlier ∈ self.current.streams[other]?, earlier.worker.status ≠ .running then
      some { self with stopping := node :: self.stopping }
    else none
  | _, _ => none

/-- The end of the wait of `wait_for_mitigation`. -/
def release : Option Subscription :=
  match self.phase with
  | .mitigating event call =>
    match self.mitigation.bind (·.calls[call]?) with
    | some (.returned _ _ (.ok _)) => some (self.deliver config event)
    | some (.returned _ _ (.error error)) => some (self.leave (.fatal error))
    | _ => none
  | _ => none

/-- The end of the driver's own call of `apply_topology_candidate`. -/
def settle : Option Subscription :=
  match self.phase with
  | .applying call =>
    match self.publication.calls[call]? with
    | some (.finished (.ok (some snapshot))) => some (self.leave (.reopen snapshot))
    | some (.finished (.ok none)) => some { self with phase := .checking }
    | some (.finished (.error error)) => some (self.leave (.fatal error))
    | _ => none
  | _ => none

def skip : Option Subscription :=
  match self.phase with
  | .skipping none => some { self with phase := .checking }
  | .skipping (some token) =>
    (self.system.step (.acknowledge token)).map fun system =>
      match self.system.state.acknowledge token with
      | (.error error, _) => leave { self with system } (.fatal error)
      | (.ok _, _) => { self with system, phase := .checking }
  | _ => none

def send : Option Subscription :=
  match self.phase with
  | .sending output =>
    if self.receiverOpen then
      some { self with channel := self.channel ++ [output], phase := .checking }
    else some (self.leave .stop)
  | _ => none

/-- One attempt of `reopen_generation`, from the answers of the nodes. -/
def openReply (answers : NodeId → NodeAnswers) : Option Subscription :=
  match self.phase with
  | .opening snapshot captured =>
    match openTokioGeneration config (self.reopenRequest snapshot captured) answers with
    | .ok opened => some (self.acceptReopened snapshot captured opened)
    | .error error =>
      if error.isRetryable then some { self with phase := .retrying snapshot }
      else some { self with phase := .ended (some error) }
  | _ => none

def step : SubscriptionAction → Option Subscription
  | .publish action =>
    (self.publication.step action).map fun publication => { self with publication }
  | .mitigator action =>
    (self.mitigation.bind (·.step action)).map fun mitigator =>
      { self with mitigation := some mitigator }
  | .work node action => self.work config node action
  | .cancel => some { self with cancelled := true }
  | .hangUp => some { self with receiverOpen := false, channel := [] }
  | .poll => self.poll
  | .acknowledge token =>
    if token ∈ self.held then
      (self.system.step (.acknowledge token)).map fun system =>
        { self with system, held := self.held.erase token }
    else none
  | .flush action =>
    (self.system.step (.flush action)).map fun system => { self with system }
  | .check =>
    match self.phase with
    | .checking => self.interrupted (some { self with phase := .selecting })
    | _ => none
  | .interrupt => self.interrupt
  | .disturb =>
    match self.phase with
    | .mitigating _ _ => some (self.leave .reconnect)
    | _ => none
  | .take node => self.take config node
  | .exhaust =>
    match self.phase with
    | .selecting =>
      if self.current.streams.all NodeStream.isDry then
        match config.mode with
        | .finite => some (self.leave .complete)
        | .infinite => some (self.leave .reconnect)
      else none
    | _ => none
  | .release => self.release config
  | .settle => self.settle
  | .skip => self.skip
  | .send => self.send
  | .shutDown node => self.shutDown node
  | .close shutdown =>
    match self.phase with
    | .left action =>
      if (self.current.streams.all fun stream => stream.worker.status ≠ .running) ∧
          self.shutdownSelectedStreams shutdown then
        some (afterShutdown { self with mitigation := none } shutdown action)
      else none
    | _ => none
  | .capture =>
    match self.phase with
    | .retrying snapshot =>
      if self.cancelled then some { self with phase := .ended none }
      else some { self with phase := .opening snapshot self.system.state.processedCheckpoints }
    | _ => none
  | .openReply answers => self.openReply config answers
  | .report =>
    match self.phase with
    | .ended (some error) =>
      some { self with
        channel := if self.cancelled ∨ ¬self.receiverOpen then self.channel
          else self.channel ++ [⟨self.connectionGeneration, .error error⟩]
        phase := .ended none }
    | _ => none

end

end Subscription

inductive AssignmentMode where
  | standalone
  | external (vbuckets : BTreeSet UInt16)

def checkActiveNodes (topology : ClusterTopology) : List UInt16 → Result Unit
  | [] => .ok ()
  | vbucket :: rest => do
    let _ ← topology.activeNode vbucket
    checkActiveNodes topology rest

/-- `resolve_assignment`, without the generation of the assignment. -/
def resolveAssignment (mode : AssignmentMode) (topology : ClusterTopology) :
    Result (List UInt16) := do
  let vbuckets ← match mode with
    | .standalone =>
      if topology.vbuckets.size > 2 ^ 16 then
        .error (.topology
          "invalid vBucket identifier: out of range integral type conversion attempted")
      else .ok ((List.range topology.vbuckets.size).map UInt16.ofNat)
    | .external vbuckets => .ok vbuckets.toList
  if vbuckets.isEmpty then
    .error (.invalidConfiguration "a DCP subscription must own at least one vBucket")
  else
    checkActiveNodes topology vbuckets
    return vbuckets

def validateLoaded (bucketUuid : String) (vbuckets : List UInt16) :
    List (UInt16 × DcpCheckpoint) → Result Unit
  | [] => .ok ()
  | (vbucket, checkpoint) :: rest =>
    if vbucket ∉ vbuckets then
      .error (.checkpoint s!"checkpoint store returned unrequested vBucket {vbucket}")
    else do
      validateCheckpointIdentity vbucket bucketUuid checkpoint
      validateLoaded bucketUuid vbuckets rest

/-- `answer` is what the store returns, or the timeout. -/
def loadCheckpoints (bucketUuid : String) (vbuckets : List UInt16) (timeout : Duration)
    (answer : Result (BTreeMap UInt16 DcpCheckpoint)) : Result (BTreeMap UInt16 DcpCheckpoint) :=
  if bucketUuid = "" then
    .error (.invalidConfiguration "checkpoint bucket UUID must not be empty")
  else if timeout = 0 then
    .error (.invalidConfiguration "checkpoint load timeout must be greater than zero")
  else if ¬vbuckets.Nodup then
    .error (.checkpoint "checkpoint load vBucket list contains duplicates")
  else do
    let checkpoints ← answer
    validateLoaded bucketUuid vbuckets checkpoints.toList
    return checkpoints

def resolveInitialStart (loaded : BTreeMap UInt16 DcpCheckpoint) (fallback : StartPosition)
    (vbucket : UInt16) : Result StartPosition :=
  match loaded[vbucket]?, fallback with
  | some checkpoint, _ => .ok (.checkpoint checkpoint)
  | none, .checkpoint checkpoint =>
    if checkpoint.vbucket = vbucket then .ok (.checkpoint checkpoint)
    else .error (.invalidConfiguration
      (s!"fallback checkpoint for vBucket {checkpoint.vbucket} cannot initialize missing " ++
       s!"vBucket {vbucket}"))
  | none, fallback => .ok fallback

def resolveInitialStarts (loaded : BTreeMap UInt16 DcpCheckpoint) (fallback : StartPosition) :
    BTreeMap UInt16 StartPosition → List UInt16 → Result (BTreeMap UInt16 StartPosition)
  | starts, [] => .ok starts
  | starts, vbucket :: rest => do
    let start ← resolveInitialStart loaded fallback vbucket
    resolveInitialStarts loaded fallback (starts.insert vbucket start) rest

def Subscription.activate (publication : Publication) (opened : TokioGeneration)
    (system : System) : Subscription where
  current := { number := 1, streams := opened.streams, consumed := [], tokens := [] }
  past := []
  frozenEndSeqnos := opened.endSeqnos
  connectionGeneration := 1
  snapshot := publication.published
  publication
  system
  registry := opened.registry
  mitigation := opened.mitigation
  cancelled := false
  receiverOpen := true
  channel := []
  held := []
  stopping := []
  phase := .checking

/-- `prepare_subscription` and `activate_subscription`. -/
def prepareSubscription (config : DcpConfig) (assignment : AssignmentMode)
    (publication : Publication) (answer : Result (BTreeMap UInt16 DcpCheckpoint))
    (answers : NodeId → NodeAnswers) : Result Subscription := do
  let topology := publication.published.topology
  let vbuckets ← resolveAssignment assignment topology
  let loaded ← loadCheckpoints topology.bucketIdentity vbuckets config.checkpoint.timeout answer
  let starts ← resolveInitialStarts loaded config.startFrom ∅ vbuckets
  let opened ← openTokioGeneration config { topology, starts, frozenEndSeqnos := none } answers
  validateOpenedPartitions starts opened.effectiveCheckpoints opened.endSeqnos none
    opened.streams.length
  let system ← System.opened config.checkpoint loaded opened.effectiveCheckpoints
  return .activate publication opened system

theorem prepareSubscription_eq_ok
    (h : prepareSubscription config assignment publication answer answers = .ok s) :
    ∃ request opened loaded system, request.frozenEndSeqnos = none ∧
      openTokioGeneration config request answers = .ok opened ∧
      System.opened config.checkpoint loaded opened.effectiveCheckpoints = .ok system ∧
      s = .activate publication opened system := by
  simp only [prepareSubscription, bind_eq_ok] at h
  obtain ⟨vbuckets, -, loaded, -, starts, -, opened, hopened, -, -, system, hsystem, h⟩ := h
  cases h
  exact ⟨_, opened, loaded, system, rfl, hopened, hsystem, rfl⟩

namespace Subscription

def sampleTopology : ClusterTopology where
  bucket := "travel"
  bucketUuid := some "b1"
  revision := { epoch := 1, revision := 1 }
  network := "default"
  endpoints := (∅ : BTreeMap NodeId KvEndpoint).insert "n1"
    ⟨"n1", "10.0.0.1:11210", "n1:11210", none⟩
  vbuckets := ((∅ : BTreeMap UInt16 VBucketRoute).insert 0 ⟨"n1", []⟩).insert 1 ⟨"n1", []⟩

def sampleConfig (mode : DcpMode) : DcpConfig where
  mode
  startFrom := .earliest
  skipUntil := none
  flowControl :=
    { connectionBufferSize := 1000
      ackRatioValid := true
      belowTarget := fun n => n < 500
      noopInterval := 10 ^ 9
      deadConnectionTimeout := 2 * 10 ^ 9 }
  checkpoint := { mode := .manual, timeout := 60 }
  rollbackPolicy := .rewindAndReplay
  rollbackHandler := none
  mitigationEnabled := false
  maximumStall := 0
  parseTopology := fun _ _ => .error (.topology "no configuration")

/-- One node with the vBuckets 0 and 1 at seqno 9. The opaque of a stream is 5 more than its
vBucket. -/
def sampleNode : NodeAnswers where
  bootstrap := .ok ()
  collections := false
  streamIds := false
  streamEndOnClose := true
  selection := .ok { resolved := none, legacyCollectionName := some "_default" }
  activeHighSeqnos := fun _ => .ok (((∅ : BTreeMap UInt16 Nat).insert 0 9).insert 1 9)
  failoverLog := fun _ => .ok [⟨77, 0⟩]
  replies := fun vbucket => [(vbucket.toUInt32 + 5, .opened [⟨77, 0⟩])]
  connection :=
    { peer := "n1", requestTimeout := 60, nextOpaque := 7, pending := [], inbound := [], sent := [],
      fault := none }

def samplePrepared (mode : DcpMode) : Result Subscription :=
  prepareSubscription (sampleConfig mode) .standalone (.start sampleTopology)
    (.ok ∅) fun _ => sampleNode

end Subscription

end RustDcp
