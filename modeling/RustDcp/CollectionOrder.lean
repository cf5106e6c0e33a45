import RustDcp.Collections

namespace RustDcp
set_option autoImplicit true

def DcpEvent.collectionId? : DcpEvent → Option UInt32
  | .mutation event => event.collectionId
  | .deletion event => event.collectionId
  | .expiration event => event.collectionId
  | _ => none

def DcpEvent.named (name : String) : DcpEvent → DcpEvent
  | .mutation event => .mutation { event with collectionName := some name }
  | .deletion event => .deletion { event with collectionName := some name }
  | .expiration event => .expiration { event with collectionName := some name }
  | event => event

theorem DcpEvent.named_injective (event : DcpEvent) (h : event.collectionId? = some c)
    (heq : event.named a = event.named b) : a = b := by
  cases event with
  | mutation event | deletion event | expiration event =>
    simp only [named, DcpEvent.mutation.injEq, DcpEvent.deletion.injEq,
      DcpEvent.expiration.injEq] at heq
    injections
  | snapshotMarker _ | streamEnd _ | seqNoAdvanced _ | systemEvent _ | osoSnapshot _ => cases h

theorem RegistryState.decorate_document (self : RegistryState) {event : DcpEvent}
    (h : event.collectionId? = some c) :
    self.decorate event =
      ((requiredCollectionName self.selection (some c)).map event.named, self) := by
  rw [← h]
  cases event with
  | mutation event => rfl
  | deletion event => rfl
  | expiration event => rfl
  | snapshotMarker marker => cases h
  | streamEnd event => cases h
  | seqNoAdvanced event => cases h
  | systemEvent event => cases h
  | osoSnapshot event => cases h

namespace ResolvedCollectionFilter

def Drops (self : ResolvedCollectionFilter) (c : UInt32) : SystemEventKind → Prop
  | .collectionDropped scopeId collectionId => scopeId = self.scopeId ∧ collectionId = c
  | .scopeDropped scopeId => scopeId = self.scopeId
  | _ => False

/-- The event names `c`, in a selection of the whole scope. -/
def Creates (self : ResolvedCollectionFilter) (c : UInt32) : SystemEventKind → Prop
  | .collectionCreated scopeId collectionId _ =>
    scopeId = self.scopeId ∧ self.collectionIds = [] ∧ collectionId = c
  | _ => False

instance : (kind : SystemEventKind) → Decidable (Drops self c kind)
  | .collectionDropped _ _ => inferInstanceAs (Decidable (_ ∧ _))
  | .scopeDropped _ => inferInstanceAs (Decidable (_ = _))
  | .collectionCreated _ _ _ | .collectionFlushed _ | .scopeCreated _ | .collectionChanged _ _
  | .unknown _ _ => isFalse id

instance : (kind : SystemEventKind) → Decidable (Creates self c kind)
  | .collectionCreated _ _ _ => inferInstanceAs (Decidable (_ ∧ _ ∧ _))
  | .collectionDropped _ _ | .scopeDropped _ | .collectionFlushed _ | .scopeCreated _
  | .collectionChanged _ _ | .unknown _ _ => isFalse id

/-- The name of `c` after one more manifest change. -/
def nameAfter (self : ResolvedCollectionFilter) (c : UInt32) (name : Option String)
    (change : SystemEvent) : Option String :=
  if self.Drops c change.kind then none
  else if self.Creates c change.kind then (parseSystemEventName change.key).toOption
  else name

/-- The name of `c` after the first `position` changes of the history. -/
def nameAt (self : ResolvedCollectionFilter) (history : List SystemEvent) (c : UInt32)
    (position : Nat) : Option String :=
  (history.take position).foldl (self.nameAfter c) self.collectionNames[c]?

def replay (self : ResolvedCollectionFilter) : List SystemEvent → Result ResolvedCollectionFilter
  | [] => .ok self
  | change :: history =>
    match self.applyKind change.key change.kind with
    | .error error => .error error
    | .ok next => next.replay history

theorem createCollection_eq_ok {self : ResolvedCollectionFilter}
    (h : self.createCollection c key = .ok next) :
    ∃ name, parseSystemEventName key = .ok name ∧
      (∀ existing, self.collectionNames[c]? = some existing → existing = name) ∧
      next = { self with collectionNames := self.collectionNames.insert c name } := by
  rw [createCollection] at h
  split at h
  case h_1 => cases h
  case h_2 name hname =>
    have hinsert : createCollection.insertName self c name = .ok next →
        next = { self with collectionNames := self.collectionNames.insert c name } := by
      intro h
      rw [createCollection.insertName] at h
      split at h
      · cases h
      · cases h
        rfl
    split at h
    case h_1 existing hexisting =>
      split at h
      · cases h
      · rename_i heq
        refine ⟨name, hname, ?_, hinsert h⟩
        intro other hother
        cases hexisting.symm.trans hother
        exact not_not.1 heq
    case h_2 hnone =>
      refine ⟨name, hname, ?_, hinsert h⟩
      intro other hother
      rw [hnone] at hother
      cases hother

theorem dropCollection_eq_ok {self : ResolvedCollectionFilter}
    (h : self.dropCollection c = .ok next) :
    next = { self with collectionNames := self.collectionNames.erase c } := by
  simp only [dropCollection] at h
  split at h
  · cases h
  · cases h
    rfl

theorem applyKind_eq_ok {self : ResolvedCollectionFilter} {change : SystemEvent}
    (h : self.applyKind change.key change.kind = .ok next) :
    next.scopeId = self.scopeId ∧ next.collectionIds = self.collectionIds ∧
      ∀ c : UInt32, next.collectionNames[c]? =
        self.nameAfter c self.collectionNames[c]? change := by
  simp only [nameAfter]
  cases hkind : change.kind with
  | collectionCreated scopeId collectionId maxTtl =>
    rw [hkind] at h
    simp only [applyKind] at h
    split at h
    case isTrue hsel =>
      obtain ⟨name, hname, -, rfl⟩ := createCollection_eq_ok h
      refine ⟨rfl, rfl, fun c => ?_⟩
      by_cases hc : collectionId = c
      · simp [Drops, Creates, hsel, hc, hname, Except.toOption]
      · simp [Drops, Creates, hsel, hc, Std.ExtTreeMap.getElem?_insert]
    case isFalse hsel =>
      cases h
      refine ⟨rfl, rfl, fun c => ?_⟩
      have hnot : ¬next.Creates c (.collectionCreated scopeId collectionId maxTtl) := by
        intro hcreates
        exact hsel ⟨hcreates.1, hcreates.2.1⟩
      simp [Drops, hnot]
  | collectionDropped scopeId collectionId =>
    rw [hkind] at h
    simp only [applyKind] at h
    split at h
    case isTrue hscope =>
      obtain rfl := dropCollection_eq_ok h
      refine ⟨rfl, rfl, fun c => ?_⟩
      by_cases hc : collectionId = c
      · simp [Drops, hscope, hc]
      · simp [Drops, Creates, hc, Std.ExtTreeMap.getElem?_erase]
    case isFalse hscope =>
      cases h
      refine ⟨rfl, rfl, fun c => ?_⟩
      simp [Drops, Creates, hscope]
  | scopeDropped scopeId =>
    rw [hkind] at h
    simp only [applyKind] at h
    split at h
    case isTrue hscope =>
      cases h
      refine ⟨rfl, rfl, fun c => ?_⟩
      simp [Drops, hscope]
    case isFalse hscope =>
      cases h
      refine ⟨rfl, rfl, fun c => ?_⟩
      simp [Drops, Creates, hscope]
  | collectionFlushed collectionId =>
    rw [hkind] at h
    cases h
    simp [Drops, Creates]
  | scopeCreated scopeId =>
    rw [hkind] at h
    cases h
    simp [Drops, Creates]
  | collectionChanged collectionId maxTtl =>
    rw [hkind] at h
    cases h
    simp [Drops, Creates]
  | unknown code data =>
    rw [hkind] at h
    cases h
    simp [Drops, Creates]

theorem replay_cons {self : ResolvedCollectionFilter} :
    self.replay (change :: history) = .ok final ↔
      ∃ next, self.applyKind change.key change.kind = .ok next ∧
        next.replay history = .ok final := by
  rw [replay]
  cases self.applyKind change.key change.kind <;> simp

theorem replay_append {self : ResolvedCollectionFilter} :
    self.replay (before ++ after) = .ok final ↔
      ∃ mid, self.replay before = .ok mid ∧ mid.replay after = .ok final := by
  induction before generalizing self with
  | nil => simp [replay]
  | cons change before ih =>
    simp only [List.cons_append, replay_cons, ih]
    constructor
    · rintro ⟨next, hnext, mid, hmid, hfinal⟩
      exact ⟨mid, ⟨next, hnext, hmid⟩, hfinal⟩
    · rintro ⟨mid, ⟨next, hnext, hmid⟩, hfinal⟩
      exact ⟨next, hnext, mid, hmid, hfinal⟩

theorem drops_creates_congr {self next : ResolvedCollectionFilter}
    (hscope : next.scopeId = self.scopeId) (hids : next.collectionIds = self.collectionIds)
    (c : UInt32) (kind : SystemEventKind) :
    (next.Drops c kind ↔ self.Drops c kind) ∧ (next.Creates c kind ↔ self.Creates c kind) := by
  cases kind <;> simp [Drops, Creates, hscope, hids]

theorem nameAfter_congr {self next : ResolvedCollectionFilter}
    (hscope : next.scopeId = self.scopeId) (hids : next.collectionIds = self.collectionIds)
    (c : UInt32) : next.nameAfter c = self.nameAfter c := by
  funext name change
  have h := drops_creates_congr hscope hids c change.kind
  simp only [nameAfter, h]

theorem replay_name {self : ResolvedCollectionFilter} (h : self.replay changes = .ok final) :
    final.scopeId = self.scopeId ∧ final.collectionIds = self.collectionIds ∧
      ∀ c : UInt32, final.collectionNames[c]? =
        changes.foldl (self.nameAfter c) self.collectionNames[c]? := by
  induction changes generalizing self with
  | nil =>
    cases h
    exact ⟨rfl, rfl, fun c => rfl⟩
  | cons change changes ih =>
    obtain ⟨next, hnext, hfinal⟩ := replay_cons.1 h
    obtain ⟨hscope, hids, hname⟩ := applyKind_eq_ok hnext
    obtain ⟨hscope', hids', hname'⟩ := ih hfinal
    refine ⟨hscope'.trans hscope, hids'.trans hids, fun c => ?_⟩
    rw [hname' c, List.foldl_cons, hname c, nameAfter_congr hscope hids]

end ResolvedCollectionFilter

/-- A manifest history after the resolved manifest: its changes are newer, in order, and apply. -/
structure ManifestHistory (resolved : ResolvedCollectionFilter) (history : List SystemEvent) :
    Prop where
  newer : ∀ change ∈ history, resolved.manifestUid < change.manifestUid
  increasing : history.Pairwise fun earlier later => earlier.manifestUid < later.manifestUid
  applies : ∃ final, resolved.replay history = .ok final

/-- The registry that all vBuckets share, and how many changes each vBucket has delivered. -/
structure Sharing where
  registry : RegistryState
  position : UInt16 → Nat

inductive SharingAction where
  | system (vbucket : UInt16) (seqno : Nat) (version : UInt8)
  | document (event : DcpEvent)

namespace Sharing

def start (resolved : ResolvedCollectionFilter) : Sharing :=
  { registry := .new { resolved := some resolved, legacyCollectionName := none }
    position := fun _ => 0 }

/-- The name that the event's collection has at the position of the event's own vBucket. -/
def ownName (resolved : ResolvedCollectionFilter) (history : List SystemEvent) (self : Sharing)
    (event : DcpEvent) : Option String :=
  event.collectionId?.bind fun c => resolved.nameAt history c (self.position event.vbucket)

def delivered (self : Sharing) (registry : RegistryState) (vbucket : UInt16) : Sharing :=
  { registry
    position := fun other =>
      if other = vbucket then self.position vbucket + 1 else self.position other }

/-- A vBucket delivers the next change of the history, or a document of a collection that is live
at its position. A failed `decorate` ends the generation. -/
def step (resolved : ResolvedCollectionFilter) (history : List SystemEvent) (self : Sharing) :
    SharingAction → Option Sharing
  | .system vbucket seqno version =>
    match history[self.position vbucket]? with
    | none => none
    | some change =>
      match self.registry.decorate (.systemEvent { change with vbucket, seqno, version }) with
      | (.error _, _) => none
      | (.ok _, registry) => some (self.delivered registry vbucket)
  | .document event =>
    match ownName resolved history self event, self.registry.decorate event with
    | some _, (.ok _, registry) => some { self with registry }
    | _, _ => none

/-- `decorate` succeeds on a live document and attaches the name of its own position. -/
def Named (resolved : ResolvedCollectionFilter) (history : List SystemEvent) (self : Sharing) :
    SharingAction → Prop
  | .system _ _ _ => True
  | .document event => ∀ name, ownName resolved history self event = some name →
      (self.registry.decorate event).1 = .ok (event.named name)

/-- The collection of a live document has the same name at the position of the foremost vBucket as
at that of the document's own: no vBucket ahead has delivered a drop of it. -/
def SameAtFront (resolved : ResolvedCollectionFilter) (history : List SystemEvent)
    (self : Sharing) : SharingAction → Prop
  | .system _ _ _ => True
  | .document event => ∀ c name, event.collectionId? = some c →
      resolved.nameAt history c (self.position event.vbucket) = some name →
      ∀ front, (∀ vbucket, self.position vbucket ≤ self.position front) →
        resolved.nameAt history c (self.position front) = some name

end Sharing

theorem RegistryState.applySystemEvent_stale {self : RegistryState} {event : SystemEvent}
    (hobserved : self.observedManifestUid = some uid) (hstale : event.manifestUid ≤ uid) :
    self.applySystemEvent event = .ok self := by
  rw [applySystemEvent]
  split
  case h_1 hnone =>
    rw [hobserved] at hnone
    cases hnone
  case h_2 observed hsome =>
    cases hobserved.symm.trans hsome
    rw [if_pos hstale]

theorem RegistryState.applySystemEvent_fresh {self : RegistryState} {event : SystemEvent}
    (hresolved : self.selection.resolved = some current)
    (hobserved : self.observedManifestUid = some uid) (hfresh : uid < event.manifestUid)
    (happly : current.applyKind event.key event.kind = .ok next) :
    ∃ after, self.applySystemEvent event = .ok after ∧
      after.selection = { self.selection with resolved := some next } ∧
      after.observedManifestUid = some event.manifestUid := by
  rw [applySystemEvent]
  split
  case h_1 hnone =>
    rw [hobserved] at hnone
    cases hnone
  case h_2 observed hsome =>
    cases hobserved.symm.trans hsome
    rw [if_neg (Nat.not_le.2 hfresh)]
    simp only [hresolved, Option.get_some, happly]
    exact ⟨_, rfl, rfl, rfl⟩

theorem RegistryState.decorate_named {self : RegistryState} {event : DcpEvent}
    (hresolved : self.selection.resolved = some current) (hc : event.collectionId? = some c) :
    (self.decorate event).1 = match current.collectionNames[c]? with
    | some name => .ok (event.named name)
    | none => .error (.collection
      s!"event collection ID {debugOption (some c)} is outside the resolved stream selection") := by
  rw [decorate_document self hc]
  simp only [requiredCollectionName, CollectionSelection.collectionName, hresolved]
  cases current.collectionNames[c]? <;> rfl

namespace Sharing

/-- The registry has applied `passed`, which is as far as the foremost vBucket has come. -/
structure Follows (resolved : ResolvedCollectionFilter) (history passed rest : List SystemEvent)
    (current : ResolvedCollectionFilter) (uid : Nat) (s : Sharing) : Prop where
  split : history = passed ++ rest
  replayed : resolved.replay passed = .ok current
  selected : s.registry.selection.resolved = some current
  observed : s.registry.observedManifestUid = some uid
  older : ∀ change ∈ passed, change.manifestUid ≤ uid
  newer : ∀ change ∈ rest, uid < change.manifestUid
  behind : ∀ v, s.position v ≤ passed.length
  front : passed = [] ∨ ∃ v, s.position v = passed.length

def Followed (resolved : ResolvedCollectionFilter) (history : List SystemEvent) (s : Sharing) :
    Prop :=
  ∃ passed rest current uid, Follows resolved history passed rest current uid s

theorem start_followed (h : ManifestHistory resolved history) :
    Followed resolved history (start resolved) :=
  ⟨[], history, resolved, resolved.manifestUid, rfl, rfl, rfl, rfl, nofun, h.newer,
    fun _ => Nat.le_refl 0, .inl rfl⟩

theorem Follows.repeat (h : Follows resolved history passed rest current uid s)
    (hlt : s.position v < passed.length) :
    Follows resolved history passed rest current uid (s.delivered s.registry v) where
  split := h.split
  replayed := h.replayed
  selected := h.selected
  observed := h.observed
  older := h.older
  newer := h.newer
  behind u := by
    simp only [delivered]
    split
    · exact hlt
    · exact h.behind u
  front := by
    cases h.front with
    | inl hnil => exact .inl hnil
    | inr hfront =>
      obtain ⟨u, hu⟩ := hfront
      refine .inr ⟨u, ?_⟩
      have huv : u ≠ v := by
        intro heq
        rw [heq] at hu
        omega
      simp only [delivered, huv, ↓reduceIte, hu]

theorem Follows.advance (h : Follows resolved history passed (change :: rest) current uid s)
    (hhistory : ManifestHistory resolved history) (hfront : s.position v = passed.length)
    (happly : current.applyKind change.key change.kind = .ok next) {after : RegistryState}
    (hselected : after.selection.resolved = some next)
    (hobserved : after.observedManifestUid = some change.manifestUid) :
    Follows resolved history (passed ++ [change]) rest next change.manifestUid
      (s.delivered after v) where
  split := by rw [h.split, List.append_assoc, List.singleton_append]
  replayed := ResolvedCollectionFilter.replay_append.2
    ⟨current, h.replayed, ResolvedCollectionFilter.replay_cons.2 ⟨next, happly, rfl⟩⟩
  selected := hselected
  observed := hobserved
  older earlier hearlier := by
    cases List.mem_append.1 hearlier with
    | inl hpassed =>
      have hnewer := h.newer change List.mem_cons_self
      have holder := h.older earlier hpassed
      omega
    | inr hself => rw [List.mem_singleton.1 hself]
  newer := by
    have hpairs := hhistory.increasing
    rw [h.split, List.pairwise_append] at hpairs
    exact (List.pairwise_cons.1 hpairs.2.1).1
  behind u := by
    simp only [delivered, List.length_append, List.length_singleton]
    split
    · rw [hfront]
    · exact Nat.le_succ_of_le (h.behind u)
  front := .inr ⟨v, by simp only [delivered, ↓reduceIte, hfront, List.length_append,
    List.length_singleton]⟩

theorem step_followed (hhistory : ManifestHistory resolved history)
    (hs : Followed resolved history s) (h : step resolved history s act = some t) :
    Followed resolved history t := by
  obtain ⟨passed, rest, current, uid, hfollows⟩ := hs
  cases act with
  | document event =>
    simp only [step] at h
    split at h
    case h_2 => cases h
    case h_1 name decorated registry hown hdecorate =>
      cases h
      obtain ⟨c, hc, -⟩ := Option.bind_eq_some_iff.1 hown
      rw [RegistryState.decorate_document _ hc] at hdecorate
      cases (Prod.mk.inj hdecorate).2
      exact ⟨passed, rest, current, uid, hfollows⟩
  | system v seqno version =>
    simp only [step] at h
    split at h
    case h_1 => cases h
    case h_2 change hchange =>
      simp only [RegistryState.decorate] at h
      by_cases hlt : s.position v < passed.length
      · -- The front has passed this change.
        have hmem : change ∈ passed := by
          rw [hfollows.split, List.getElem?_append_left hlt] at hchange
          exact List.mem_of_getElem? hchange
        rw [RegistryState.applySystemEvent_stale hfollows.observed
          (by exact hfollows.older change hmem)] at h
        cases h
        exact ⟨passed, rest, current, uid, hfollows.repeat hlt⟩
      · have hfront : s.position v = passed.length :=
          Nat.le_antisymm (hfollows.behind v) (Nat.not_lt.1 hlt)
        rw [hfollows.split, List.getElem?_append_right (Nat.not_lt.1 hlt), hfront,
          Nat.sub_self] at hchange
        cases rest with
        | nil => cases hchange
        | cons first rest =>
          cases hchange
          obtain ⟨final, hfinal⟩ := hhistory.applies
          rw [hfollows.split, ResolvedCollectionFilter.replay_append] at hfinal
          obtain ⟨mid, hmid, hfinal⟩ := hfinal
          cases hfollows.replayed.symm.trans hmid
          obtain ⟨next, happly, -⟩ := ResolvedCollectionFilter.replay_cons.1 hfinal
          have hfresh : uid < ({ change with vbucket := v, seqno, version } :
              SystemEvent).manifestUid := hfollows.newer change List.mem_cons_self
          obtain ⟨after, hafter, hselection, hobserved⟩ :=
            RegistryState.applySystemEvent_fresh hfollows.selected hfollows.observed hfresh happly
          rw [hafter] at h
          cases h
          exact ⟨_, rest, next, _, hfollows.advance hhistory hfront happly
            (by rw [hselection]) hobserved⟩

theorem Follows.nameAt (h : Follows resolved history passed rest current uid s)
    (hfirst : ∀ v, s.position v ≤ s.position u) (c : UInt32) :
    current.collectionNames[c]? = resolved.nameAt history c (s.position u) := by
  have hposition : s.position u = passed.length := by
    refine Nat.le_antisymm (h.behind u) ?_
    rcases h.front with rfl | ⟨v, hv⟩
    · exact Nat.zero_le _
    · exact hv ▸ hfirst v
  rw [(ResolvedCollectionFilter.replay_name h.replayed).2.2 c, ResolvedCollectionFilter.nameAt,
    h.split, hposition, List.take_left]

theorem exists_front (s : Sharing) : ∃ front, ∀ v, s.position v ≤ s.position front :=
  Finite.exists_max s.position

theorem named_iff_sameAtFront (hs : Followed resolved history s) :
    Named resolved history s act ↔ SameAtFront resolved history s act := by
  obtain ⟨passed, rest, current, uid, hfollows⟩ := hs
  cases act with
  | system v seqno version => exact Iff.rfl
  | document event =>
    constructor
    · intro hnamed c name hc hat front hfront
      have hok := hnamed name (Option.bind_eq_some_iff.2 ⟨c, hc, hat⟩)
      rw [RegistryState.decorate_named hfollows.selected hc, hfollows.nameAt hfront c] at hok
      cases hname : resolved.nameAt history c (s.position front) with
      | none =>
        rw [hname] at hok
        cases hok
      | some other =>
        rw [hname] at hok
        rw [event.named_injective hc (Except.ok.inj hok)]
    · intro hsame name hown
      obtain ⟨c, hc, hat⟩ := Option.bind_eq_some_iff.1 hown
      obtain ⟨front, hfront⟩ := s.exists_front
      rw [RegistryState.decorate_named hfollows.selected hc, hfollows.nameAt hfront c,
        hsame c name hc hat front hfront]

/-- Every live document is decorated with the name of its own vBucket's position just when the name
is the same at the position of the foremost vBucket. -/
theorem decorate_own_name_iff (resolved : ResolvedCollectionFilter) (history : List SystemEvent)
    (acts : List SharingAction) (hhistory : ManifestHistory resolved history) :
    Machine.Allowed (step resolved history) (Named resolved history) (start resolved) acts ↔
      Machine.Allowed (step resolved history) (SameAtFront resolved history) (start resolved)
        acts := by
  have hstart := start_followed hhistory
  constructor
  · exact Machine.allowed_mono (fun _ _ _ hs _ h => step_followed hhistory hs h)
      (fun _ _ hs hnamed => (named_iff_sameAtFront hs).1 hnamed) hstart
  · exact Machine.allowed_mono (fun _ _ _ hs _ h => step_followed hhistory hs h)
      (fun _ _ hs hsame => (named_iff_sameAtFront hs).2 hsame) hstart

def sampleFilter : ResolvedCollectionFilter where
  manifestUid := 3
  scopeId := 8
  collectionIds := []
  collectionNames := (∅ : BTreeMap UInt32 String).insert 9 "orders"
  streamFilter := { scopeId := some 8, collectionIds := [], manifestUid := none, streamId := none }

def sampleChange (manifestUid : Nat) (key : Bytes) (kind : SystemEventKind) : SystemEvent where
  vbucket := 0
  seqno := 0
  manifestUid
  version := 0
  key
  kind

def sampleCreate : SystemEvent := sampleChange 4 [117] (.collectionCreated 8 10 none)

def sampleDrop : SystemEvent := sampleChange 5 [] (.collectionDropped 8 9)

def sampleDocument (vbucket : UInt16) : DcpEvent :=
  .deletion
    { vbucket
      seqno := 5
      revSeqno := 1
      deleteTime := none
      cas := 0
      collectionId := some 9
      collectionName := none
      key := []
      value := []
      datatype := 0 }

theorem sampleHistory : ManifestHistory sampleFilter [sampleCreate, sampleDrop] where
  newer := by decide
  increasing := by decide
  applies := ⟨_, rfl⟩

/-- vBucket 0 delivers the creation, vBucket 1 a document while it is behind, and then both deliver
the drop. -/
def sampleShared : List SharingAction :=
  [.system 0 6 0, .document (sampleDocument 1), .document (sampleDocument 0), .system 1 7 0,
    .system 1 8 0, .system 0 9 0]

theorem sample_sameAtFront {s : Sharing} (h : ∀ v, s.position v ≤ 1) (vbucket : UInt16) :
    SameAtFront sampleFilter [sampleCreate, sampleDrop] s (.document (sampleDocument vbucket)) := by
  have hname : ∀ n ≤ 1, sampleFilter.nameAt [sampleCreate, sampleDrop] 9 n = some "orders" := by
    decide
  intro c name hc hat front _
  cases hc
  rw [hname _ (h _)] at hat
  rw [hname _ (h front), hat]

theorem decorate_own_name_sample :
    Machine.Allowed (step sampleFilter [sampleCreate, sampleDrop])
      (Named sampleFilter [sampleCreate, sampleDrop]) (start sampleFilter) sampleShared := by
  refine (decorate_own_name_iff _ _ _ sampleHistory).2 ?_
  have hahead : ∀ registry v, (delivered (start sampleFilter) registry 0).position v ≤ 1 := by
    intro registry v
    simp only [delivered, start]
    split <;> omega
  refine (Machine.allowed_cons rfl).2 ⟨trivial, ?_⟩
  refine (Machine.allowed_cons rfl).2 ⟨sample_sameAtFront (hahead _) 1, ?_⟩
  refine (Machine.allowed_cons rfl).2 ⟨sample_sameAtFront (hahead _) 0, ?_⟩
  refine (Machine.allowed_cons rfl).2 ⟨trivial, ?_⟩
  refine (Machine.allowed_cons rfl).2 ⟨trivial, ?_⟩
  exact Machine.allowed_singleton.2 trivial

/-- One vBucket delivers the drop; a document that another vBucket sent before it has no name. -/
theorem decorate_loses_name : ∃ s,
    Machine.run (step sampleFilter [sampleDrop]) (start sampleFilter) [.system 0 6 0] = some s ∧
    ownName sampleFilter [sampleDrop] s (sampleDocument 1) = some "orders" ∧
    (s.registry.decorate (sampleDocument 1)).1 = .error (.collection
      "event collection ID Some(9) is outside the resolved stream selection") := by
  refine ⟨_, rfl, ?_, ?_⟩
  · rfl
  · rfl

end Sharing

end RustDcp
