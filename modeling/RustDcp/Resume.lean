import RustDcp.AckSafety
import RustDcp.StreamRequest
import RustDcp.Worker

namespace RustDcp
set_option autoImplicit true

/-- One vBucket of an append-only server history: its high seqno and that of each collection. -/
structure ServerVbucket where
  high : Nat
  collectionHigh : UInt32 → Nat
  bounded : ∀ c, collectionHigh c ≤ high

namespace ServerVbucket

def append (self : ServerVbucket) (collection : Option UInt32) (gap : Nat) : ServerVbucket where
  high := self.high + gap + 1
  collectionHigh c := if collection = some c then self.high + gap + 1 else self.collectionHigh c
  bounded c := by
    have := self.bounded c
    split <;> omega

theorem collectionHigh_le_append (self : ServerVbucket) (collection : Option UInt32) (gap : Nat)
    (c : UInt32) : self.collectionHigh c ≤ (self.append collection gap).collectionHigh c := by
  have := self.bounded c
  simp only [append]
  split <;> omega

/-- What the server reports to `fetch_active_high_seqnos`. -/
def Answers (self : ServerVbucket) (v : UInt16)
    (fetch : Option UInt32 → Result (BTreeMap UInt16 Nat)) : Prop :=
  ∀ c, ∃ answers, fetch (some c) = .ok answers ∧ answers[v]? = some (self.collectionHigh c)

def fetch (self : ServerVbucket) (v : UInt16) (collection : Option UInt32) :
    Result (BTreeMap UInt16 Nat) :=
  .ok ((∅ : BTreeMap UInt16 Nat).insert v (collection.elim self.high self.collectionHigh))

theorem fetch_answers (self : ServerVbucket) (v : UInt16) : self.Answers v (self.fetch v) :=
  fun _ => ⟨_, rfl, Std.ExtTreeMap.getElem?_insert_self⟩

def Sends (self : ServerVbucket) (ids : List UInt32) : Protocol.DcpMessage → Prop
  | .mutation event => ∃ c ∈ ids, event.collectionId = some c ∧ event.seqno ≤ self.collectionHigh c
  | .deletion event => ∃ c ∈ ids, event.collectionId = some c ∧ event.seqno ≤ self.collectionHigh c
  | .expiration event =>
    ∃ c ∈ ids, event.collectionId = some c ∧ event.seqno ≤ self.collectionHigh c
  | .seqNoAdvanced event => event.seqno ≤ self.high
  | .systemEvent event => event.seqno ≤ self.high
  | .snapshotMarker marker => marker.endSeqno ≤ self.high
  | .streamEnd _ | .osoSnapshot _ | .noop _ | .unknown _ => True

instance (self : ServerVbucket) (ids : List UInt32) :
    (message : Protocol.DcpMessage) → Decidable (self.Sends ids message)
  | .mutation _ | .deletion _ | .expiration _ =>
    inferInstanceAs (Decidable (∃ c ∈ ids, _ ∧ _))
  | .seqNoAdvanced _ | .systemEvent _ | .snapshotMarker _ => inferInstanceAs (Decidable (_ ≤ _))
  | .streamEnd _ | .osoSnapshot _ | .noop _ | .unknown _ => isTrue trivial

end ServerVbucket

/-- One vBucket of an infinite stream: its server, the worker's progress and the coordinator. -/
structure Resuming where
  server : ServerVbucket
  progress : PartitionProgress
  system : System

inductive ResumeAction where
  | append (collection : Option UInt32) (gap : Nat)
  | deliver (message : Protocol.DcpMessage)
  | acknowledge (token : EventAck)
  | flush (action : FlushAction)
  | reopen (opaqueId : UInt32)
  deriving DecidableEq

namespace Resuming

section

variable (v : UInt16) (selection : CollectionSelection) (ids : List UInt32)
  (failoverLog : List FailoverEntry)

def resolve (self : Resuming) (highSeqno : Nat) (checkpoint : DcpCheckpoint) :
    Result VBucketStreamRequest :=
  VBucketStreamRequest.resolve v (some self.system.bucketUuid) (.checkpoint checkpoint) .infinite
    highSeqno failoverLog selection.streamFilter

/-- The reopen of the stream from the processed checkpoint, up to the producer's answer. -/
def openState (self : Resuming) (opaqueId : UInt32) : Option PartitionOpenState := do
  let checkpoint ← self.system.processed? v
  let highSeqnos ← (fetchSelectionHighSeqnos (self.server.fetch v) selection).toOption
  let highSeqno ← highSeqnos[v]?
  let request ← (self.resolve v selection failoverLog highSeqno checkpoint).toOption
  (request.openState opaqueId failoverLog).toOption

/-- A reopened stream starts at its effective checkpoint, and so does the coordinator. -/
def reopened (self : Resuming) (opened : PartitionOpenState) : Option Resuming :=
  (self.system.step (.rebase
      ((∅ : BTreeMap UInt16 DcpCheckpoint).insert v opened.effectiveCheckpoint))).map
    fun system => { self with
      system
      progress := .new opened.startSeqno opened.endSeqno opened.streamId opened.opaqueId }

def step (self : Resuming) : ResumeAction → Option Resuming
  | .append collection gap => some { self with server := self.server.append collection gap }
  | .deliver message =>
    if self.server.Sends ids message ∧ Protocol.messageVbucket message = some v then
      match Protocol.observe self.progress message, Protocol.convertEvent message with
      | .ok progress, .ok event =>
        (self.system.step (.track event)).map fun system => { self with system, progress }
      | _, _ => none
    else none
  | .acknowledge token =>
    (self.system.step (.acknowledge token)).map fun system => { self with system }
  | .flush action => (self.system.step (.flush action)).map fun system => { self with system }
  | .reopen opaqueId => (self.openState v selection failoverLog opaqueId).bind (self.reopened v)

/-- A sequence-numbered message lies at or below the high seqno of a selected collection. -/
def Covered (self : Resuming) : ResumeAction → Prop
  | .deliver message =>
    ∀ n ∈ Protocol.messageSeqno message, ∃ c ∈ ids, n ≤ self.server.collectionHigh c
  | _ => True

instance (self : Resuming) : (act : ResumeAction) → Decidable (self.Covered ids act)
  | .deliver message =>
    inferInstanceAs (Decidable (∀ n ∈ Protocol.messageSeqno message, ∃ c ∈ ids, _))
  | .append _ _ | .acknowledge _ | .flush _ | .reopen _ => isTrue trivial

inductive Effect (s : Resuming) : ResumeAction → Resuming → Prop where
  | appended : Effect s (.append collection gap)
      { s with server := s.server.append collection gap }
  | tracked (hv : Protocol.messageVbucket message = some v)
      (hevent : Protocol.convertEvent message = .ok event)
      (hstep : s.system.step (.track event) = some t.system) (hserver : t.server = s.server) :
      Effect s (.deliver message) t
  | acknowledged (hstep : s.system.step (.acknowledge token) = some t.system)
      (hserver : t.server = s.server) : Effect s (.acknowledge token) t
  | flushed (hstep : s.system.step (.flush action) = some t.system)
      (hserver : t.server = s.server) : Effect s (.flush action) t
  | reopened (hopen : s.openState v selection failoverLog opaqueId = some opened)
      (hstep : s.system.step (.rebase
        ((∅ : BTreeMap UInt16 DcpCheckpoint).insert v opened.effectiveCheckpoint)) = some t.system)
      (hserver : t.server = s.server) : Effect s (.reopen opaqueId) t

theorem step_effect (h : step v selection ids failoverLog s act = some t) :
    Effect v selection failoverLog s act t := by
  cases act with
  | append collection gap =>
    cases h
    exact .appended
  | deliver message =>
    simp only [step] at h
    split at h
    case isFalse => cases h
    case isTrue hsend =>
      split at h
      case h_1 progress event _ hevent =>
        obtain ⟨system, hstep, rfl⟩ := Option.map_eq_some_iff.1 h
        exact .tracked hsend.2 hevent hstep rfl
      case h_2 => cases h
  | acknowledge token =>
    obtain ⟨system, hstep, rfl⟩ := Option.map_eq_some_iff.1 h
    exact .acknowledged hstep rfl
  | flush action =>
    obtain ⟨system, hstep, rfl⟩ := Option.map_eq_some_iff.1 h
    exact .flushed hstep rfl
  | reopen opaqueId =>
    obtain ⟨opened, hopen, h⟩ := Option.bind_eq_some_iff.1 h
    obtain ⟨system, hstep, rfl⟩ := Option.map_eq_some_iff.1 h
    exact .reopened hopen hstep rfl

theorem step_identified
    (hs : ∀ (u : UInt16) p, s.system.state.partitions[u]? = some p →
      p.Identified s.system.bucketUuid u)
    (h : step v selection ids failoverLog s act = some t) :
    ∀ (u : UInt16) p, t.system.state.partitions[u]? = some p →
      p.Identified t.system.bucketUuid u := by
  cases step_effect v selection ids failoverLog h with
  | appended => exact hs
  | tracked _ _ hstep _ => exact System.step_identified hs hstep
  | acknowledged hstep _ => exact System.step_identified hs hstep
  | flushed hstep _ => exact System.step_identified hs hstep
  | reopened _ hstep _ => exact System.step_identified hs hstep

/-- The seqno lies at or below the high seqno of a selected collection. -/
def Within (self : Resuming) (n : Nat) : Prop := ∃ c ∈ ids, n ≤ self.server.collectionHigh c

instance (self : Resuming) (n : Nat) : Decidable (self.Within ids n) :=
  inferInstanceAs (Decidable (∃ c ∈ ids, _))

/-- Every position that the coordinator holds for the vBucket is within the selection. -/
def AllWithin (self : Resuming) : Prop :=
  ∀ (u : UInt16) p, self.system.state.partitions[u]? = some p →
    p.Holds fun c => u = v → self.Within ids c.seqno

theorem openState_seqno (h : openState v selection failoverLog s opaqueId = some opened) :
    ∃ c, s.system.processed? v = some c ∧ opened.effectiveCheckpoint.seqno = c.seqno := by
  simp only [openState, Option.bind_eq_bind, Option.bind_eq_some_iff] at h
  obtain ⟨c, hc, highs, -, high, -, request, hrequest, hopened⟩ := h
  refine ⟨c, hc, ?_⟩
  cases hresolve : s.resolve v selection failoverLog high c with
  | error error =>
    rw [hresolve] at hrequest
    cases hrequest
  | ok resolved =>
    rw [hresolve] at hrequest
    cases hrequest
    cases hstate : request.openState opaqueId failoverLog with
    | error error =>
      rw [hstate] at hopened
      cases hopened
    | ok state =>
      rw [hstate] at hopened
      cases hopened
      rw [(VBucketStreamRequest.openState_eq_ok hstate).1]
      exact (VBucketStreamRequest.resolve_eq_ok hresolve).1

theorem AllWithin.of_step {s t : Resuming} {action : Action} (hs : AllWithin v ids s)
    (hserver : t.server = s.server)
    (hafter : ∀ event, action = .track event → event.vbucket = v → ∀ n, event.seqno = some n →
      s.Within ids n)
    (hrebase : ∀ effective, action = .rebase effective → ∀ c, effective[v]? = some c →
      s.Within ids c.seqno)
    (hstep : s.system.step action = some t.system) : AllWithin v ids t := by
  have hholds := System.step_holds (P := fun u c => u = v → s.Within ids c.seqno)
    (fun event hact c n window hn _ _ _ hu => by
      rw [DcpCheckpoint.afterEvent_seqno]
      exact hafter event hact hu n hn)
    (fun effective hact u c hc _ hu => hrebase effective hact c (hu ▸ hc)) hs hstep
  intro u p hp
  have hwithin := hholds u p hp
  simp only [Within, hserver]
  exact hwithin

theorem step_allWithin (hs : AllWithin v ids s) (hcovered : Covered ids s act)
    (h : step v selection ids failoverLog s act = some t) : AllWithin v ids t := by
  cases step_effect v selection ids failoverLog h with
  | @appended collection gap =>
    intro u p hp
    have hold := hs u p hp
    have hgrow : ∀ n, s.Within ids n →
        ({ s with server := s.server.append collection gap } : Resuming).Within ids n := by
      rintro n ⟨c, hc, hle⟩
      exact ⟨c, hc, hle.trans (s.server.collectionHigh_le_append collection gap c)⟩
    exact ⟨fun hu => hgrow _ (hold.processed hu), fun entry hentry hu =>
      hgrow _ (hold.pending entry hentry hu)⟩
  | @tracked message event _ hv hevent hstep hserver =>
    refine hs.of_step v ids hserver ?_ (fun effective hact => by cases hact) hstep
    intro event' hact _ n hn
    cases hact
    obtain ⟨converted, hconverted, -, hseqno⟩ := Protocol.convertEvent_of_vbucket hv
    cases hevent.symm.trans hconverted
    exact hcovered n (hseqno ▸ hn)
  | acknowledged hstep hserver =>
    exact hs.of_step v ids hserver (fun event hact => by cases hact)
      (fun effective hact => by cases hact) hstep
  | flushed hstep hserver =>
    exact hs.of_step v ids hserver (fun event hact => by cases hact)
      (fun effective hact => by cases hact) hstep
  | reopened hopen hstep hserver =>
    refine hs.of_step v ids hserver (fun event hact => by cases hact) ?_ hstep
    intro effective hact c hc
    cases hact
    rw [Std.ExtTreeMap.getElem?_insert_self, Option.some.injEq] at hc
    obtain ⟨start, hstart, hseqno⟩ := openState_seqno v selection failoverLog hopen
    obtain ⟨p, hp, rfl⟩ := Option.map_eq_some_iff.1 hstart
    rw [← hc, hseqno]
    exact (hs v p hp).processed rfl

end

theorem resolve_processed {t : Resuming} {p : PartitionState}
    (hids : selection.highSeqnoCollectionIds = some ids)
    (hlog : failoverLog ≠ []) (hstream : selection.streamFilter.bind (·.streamId) ≠ some 0)
    (hid : p.Identified t.system.bucketUuid v) (hanswers : t.server.Answers v fetch) :
    ∃ highs high, fetchSelectionHighSeqnos fetch selection = .ok highs ∧ highs[v]? = some high ∧
      (t.Within ids p.processed.seqno → ∃ request,
        t.resolve v selection failoverLog high p.processed = .ok request) ∧
      (¬ t.Within ids p.processed.seqno → t.resolve v selection failoverLog high p.processed =
        .error (.rollbackRequired v p.processed.seqno high failoverLog)) := by
  obtain ⟨highs, high, hhighs, hhigh, hle⟩ := mergeCollectionHighs_eq fetch
    t.server.collectionHigh hanswers ids ∅ (.inl (highSeqnoCollectionIds_ne_nil hids))
  have hwithin : p.processed.seqno ≤ high ↔ t.Within ids p.processed.seqno := by
    rw [hle]
    simp [Within]
  obtain ⟨hv, huuid, hvalid⟩ := validateCheckpointIdentity_eq_ok.1 hid.processed
  obtain ⟨hok, hrollback⟩ :=
    VBucketStreamRequest.resolve_checkpoint hv huuid hvalid hlog hstream .infinite high
  refine ⟨highs, high, ?_, hhigh, ?_, ?_⟩
  · rw [fetchSelectionHighSeqnos, hids]
    exact hhighs
  · intro h
    exact hok (hwithin.2 h)
  · intro h
    exact hrollback (Nat.lt_of_not_le (mt hwithin.1 h))

/-- A resume from `processed` resolves exactly if some selected collection has reached its seqno,
and is refused with a rollback otherwise. If every sequence-numbered message is covered by a
selected collection then no resume is refused. -/
theorem resume_resolves_iff (hids : selection.highSeqnoCollectionIds = some ids)
    (hlog : failoverLog ≠ []) (hstream : selection.streamFilter.bind (·.streamId) ≠ some 0)
    (hnew : System.new config stored checkpoints = .ok s.system)
    (hrun : Machine.run (step v selection ids failoverLog) s acts = some t)
    (hp : t.system.state.partitions[v]? = some p) (hanswers : t.server.Answers v fetch) :
    ∃ highs high, fetchSelectionHighSeqnos fetch selection = .ok highs ∧ highs[v]? = some high ∧
      ((∃ request, t.resolve v selection failoverLog high p.processed = .ok request) ↔
        t.Within ids p.processed.seqno) ∧
      (¬ t.Within ids p.processed.seqno → t.resolve v selection failoverLog high p.processed =
        .error (.rollbackRequired v p.processed.seqno high failoverLog)) ∧
      ((∀ c ∈ s.system.processed? v, s.Within ids c.seqno) →
        Machine.Allowed (step v selection ids failoverLog) (Covered ids) s acts →
        ∃ request, t.resolve v selection failoverLog high p.processed = .ok request) := by
  have hidentified := Machine.run_invariant
    (P := fun s : Resuming => ∀ (u : UInt16) p, s.system.state.partitions[u]? = some p →
      p.Identified s.system.bucketUuid u)
    (fun s act t hs hstep => step_identified v selection ids failoverLog hs hstep)
    (fun u p hp => System.new_identified hnew hp) hrun
  obtain ⟨highs, high, hhighs, hhigh, hok, hrollback⟩ :=
    resolve_processed hids hlog hstream (hidentified v p hp) hanswers
  refine ⟨highs, high, hhighs, hhigh, ⟨?_, hok⟩, hrollback, ?_⟩
  · rintro ⟨request, hrequest⟩
    by_contra hnot
    rw [hrollback hnot] at hrequest
    cases hrequest
  · intro hstart hallowed
    have hbefore : AllWithin v ids s := by
      intro u q hq
      obtain ⟨-, hget⟩ := CoordinatorState.new_eq_ok (System.new_eq_ok hnew).1
      have hq' := hq
      rw [hget u, Option.map_eq_some_iff] at hq'
      obtain ⟨c, -, rfl⟩ := hq'
      refine ⟨fun hu => hstart c ?_, fun entry hentry => absurd hentry List.not_mem_nil⟩
      subst hu
      rw [System.processed?, hq]
      rfl
    have hafter := Machine.run_invariant_allowed
      (fun s act t hs hact hstep => step_allWithin v selection ids failoverLog hs hact hstep)
      hbefore hrun hallowed
    exact hok ((hafter v p hp).processed rfl)

def sampleSelection : CollectionSelection where
  resolved := some
    { manifestUid := 3
      scopeId := 8
      collectionIds := [9]
      collectionNames := (∅ : BTreeMap UInt32 String).insert 9 "orders"
      streamFilter :=
        { scopeId := none, collectionIds := [9], manifestUid := none, streamId := none } }
  legacyCollectionName := none

def sampleLog : List FailoverEntry := [⟨77, 0⟩]

def sample : Resuming where
  server := { high := 0, collectionHigh := fun _ => 0, bounded := fun _ => le_refl 0 }
  progress := .new 0 u64Max none 5
  system := System.sampleSystem

/-- The server gets an item of the selected collection and one of another; the stream delivers the
first. -/
def sampleDelivered : List ResumeAction :=
  [.append (some 9) 0, .append (some 10) 3,
    .deliver (.snapshotMarker ⟨7, none, 0, 5, 1, none, none, none, none⟩),
    .deliver (.mutation ⟨7, none, 1, 1, 0, 0, 0, 0, 0, some 9, [107], []⟩),
    .acknowledge ⟨7, 1, 1⟩]

theorem resume_resolves_sample : ∃ t highs high request,
    Machine.run (step 7 sampleSelection [9] sampleLog) sample sampleDelivered = some t ∧
    t.system.processed? 7 = some (System.samplePosition 7 1 5) ∧
    fetchSelectionHighSeqnos (t.server.fetch 7) sampleSelection = .ok highs ∧
    highs[(7 : UInt16)]? = some high ∧
    t.resolve 7 sampleSelection sampleLog high (System.samplePosition 7 1 5) = .ok request := by
  have hrun : (Machine.run (step 7 sampleSelection [9] sampleLog) sample sampleDelivered).map
      (fun t => t.system.processed? 7) = some (some (System.samplePosition 7 1 5)) := by decide
  obtain ⟨t, ht, hprocessed⟩ := Option.map_eq_some_iff.1 hrun
  obtain ⟨p, hp, hposition⟩ := Option.map_eq_some_iff.1 hprocessed
  have hnew : System.new System.sampleConfig ∅ (System.sampleStart 7) = .ok sample.system := rfl
  obtain ⟨highs, high, hhighs, hhigh, -, -, hok⟩ := resume_resolves_iff rfl (by decide) (by decide)
    hnew ht hp (t.server.fetch_answers 7)
  obtain ⟨request, hrequest⟩ := hok (by decide) (by decide)
  exact ⟨t, highs, high, request, ht, hprocessed, hhighs, hhigh, hposition ▸ hrequest⟩

/-- The stream advances over the other collection's item, and the resume from there is refused. -/
theorem resume_rolls_back : ∃ t,
    Machine.run (step 7 sampleSelection [9] sampleLog) sample (sampleDelivered ++
      [.deliver (.seqNoAdvanced ⟨7, none, 5⟩), .acknowledge ⟨7, 2, 5⟩]) = some t ∧
    t.server.high = 5 ∧ t.system.processed? 7 = some (System.samplePosition 7 5 5) ∧
    ∃ highs, fetchSelectionHighSeqnos (t.server.fetch 7) sampleSelection = .ok highs ∧
      highs[(7 : UInt16)]? = some 1 ∧
      t.resolve 7 sampleSelection sampleLog 1 (System.samplePosition 7 5 5) =
        .error (.rollbackRequired 7 5 1 sampleLog) := by
  refine ⟨_, rfl, ?_, ?_, _, rfl, ?_, ?_⟩
  · decide
  · decide
  · decide
  · decide

end Resuming

end RustDcp
