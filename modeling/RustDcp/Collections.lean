import RustDcp.Event

namespace RustDcp
set_option autoImplicit true

structure StreamFilter where
  scopeId : Option UInt32
  collectionIds : List UInt32
  manifestUid : Option Nat
  streamId : Option UInt16
  deriving DecidableEq

/-- A stream filter resolved from collection names against one manifest. -/
structure ResolvedCollectionFilter where
  manifestUid : Nat
  scopeId : UInt32
  collectionIds : List UInt32
  collectionNames : BTreeMap UInt32 String
  streamFilter : StreamFilter
  deriving DecidableEq

structure CollectionSelection where
  resolved : Option ResolvedCollectionFilter
  legacyCollectionName : Option String
  deriving DecidableEq

def CollectionSelection.streamFilter (self : CollectionSelection) : Option StreamFilter :=
  self.resolved.map (·.streamFilter)

def CollectionSelection.collectionName (self : CollectionSelection)
    (collectionId : Option UInt32) : Option String :=
  match collectionId, self.resolved with
  | some collectionId, some resolved => resolved.collectionNames[collectionId]?
  | none, none => self.legacyCollectionName
  | _, _ => none

def CollectionSelection.highSeqnoCollectionIds (self : CollectionSelection) :
    Option (List UInt32) :=
  self.resolved.bind fun resolved =>
    if resolved.collectionIds.isEmpty then none else some resolved.collectionIds

/-- Every byte is an ASCII letter or digit, an underscore, a hyphen or a percent sign. -/
def isCollectionNameByte (byte : UInt8) : Bool :=
  let char := Char.ofNat byte.toNat
  byte < 0x80 && (char.isAlphanum || char == '_' || char == '-' || char == '%')

def parseSystemEventName (key : Bytes) : Result String :=
  match String.fromUTF8? ⟨key.toArray⟩ with
  | none => .error (.collection s!"system-event name is not UTF-8: {utf8Error key}")
  | some name =>
    if key.isEmpty || key.length > 251 || !key.all isCollectionNameByte then
      .error (.collection
        s!"system-event collection name {debugStr name} violates Couchbase naming rules")
    else .ok name

namespace ResolvedCollectionFilter

def createCollection (self : ResolvedCollectionFilter) (collectionId : UInt32) (key : Bytes) :
    Result ResolvedCollectionFilter :=
  match parseSystemEventName key with
  | .error error => .error error
  | .ok name =>
    match self.collectionNames[collectionId]? with
    | some existing =>
      if existing ≠ name then
        .error (.collection
          (s!"collection ID 0x{hex 1 collectionId.toNat} changed name from {debugStr existing} " ++
           s!"to {debugStr name}"))
      else insertName self collectionId name
    | none => insertName self collectionId name
where
  insertName (self : ResolvedCollectionFilter) (collectionId : UInt32) (name : String) :
      Result ResolvedCollectionFilter :=
    match self.collectionNames.toList.find? fun entry => entry.1 != collectionId &&
      entry.2 == name with
    | some (existingId, _) =>
      .error (.collection
        s!"collection name {debugStr name} is already mapped to ID 0x{hex 1 existingId.toNat}")
    | none => .ok { self with collectionNames := self.collectionNames.insert collectionId name }

def dropCollection (self : ResolvedCollectionFilter) (collectionId : UInt32) :
    Result ResolvedCollectionFilter :=
  let wasSelected := self.collectionIds.isEmpty || self.collectionIds.contains collectionId
  if !self.collectionNames.contains collectionId && wasSelected then
    .error (.collection
      s!"dropped collection ID 0x{hex 1 collectionId.toNat} was absent from the registry")
  else .ok { self with collectionNames := self.collectionNames.erase collectionId }

def applyKind (self : ResolvedCollectionFilter) (key : Bytes) :
    SystemEventKind → Result ResolvedCollectionFilter
  | .collectionCreated scopeId collectionId _ =>
    if scopeId = self.scopeId ∧ self.collectionIds = [] then self.createCollection collectionId key
    else .ok self
  | .collectionDropped scopeId collectionId =>
    if scopeId = self.scopeId then self.dropCollection collectionId else .ok self
  | .scopeDropped scopeId =>
    if scopeId = self.scopeId then .ok { self with collectionNames := ∅ } else .ok self
  | _ => .ok self

end ResolvedCollectionFilter

def SystemEventKind.isUnknown : SystemEventKind → Bool
  | .unknown _ _ => true
  | _ => false

/-- The state behind the registry's lock. A manifest UID is observed only for a resolved
selection. -/
structure RegistryState where
  selection : CollectionSelection
  observedManifestUid : Option Nat
  stale : Bool
  resolvedOfObserved : observedManifestUid.isSome = true → selection.resolved.isSome = true

namespace RegistryState

def new (selection : CollectionSelection) : RegistryState where
  selection
  observedManifestUid := selection.resolved.map (·.manifestUid)
  stale := false
  resolvedOfObserved := by simp

def applySystemEvent (self : RegistryState) (event : SystemEvent) : Result RegistryState :=
  match hobserved : self.observedManifestUid with
  | none => .error (.collection "received a collection system event on a legacy stream")
  | some observed =>
    if event.manifestUid ≤ observed then .ok self
    else
      let resolved := self.selection.resolved.get (self.resolvedOfObserved (by rw [hobserved]; rfl))
      match resolved.applyKind event.key event.kind with
      | .error error => .error error
      | .ok resolved => .ok {
          selection := { self.selection with resolved := some resolved }
          observedManifestUid := some event.manifestUid
          stale := self.stale || event.kind.isUnknown
          resolvedOfObserved := fun _ => rfl }

def requiredCollectionName (selection : CollectionSelection) (collectionId : Option UInt32) :
    Result String :=
  match selection.collectionName collectionId with
  | some name => .ok name
  | none => .error (.collection
      s!"event collection ID {debugOption collectionId} is outside the resolved stream selection")

def decorate (self : RegistryState) : DcpEvent → Result DcpEvent × RegistryState
  | .systemEvent event =>
    match self.applySystemEvent event with
    | .error error => (.error error, self)
    | .ok self => (.ok (.systemEvent event), self)
  | .mutation event =>
    ((requiredCollectionName self.selection event.collectionId).map fun name =>
      .mutation { event with collectionName := some name }, self)
  | .deletion event =>
    ((requiredCollectionName self.selection event.collectionId).map fun name =>
      .deletion { event with collectionName := some name }, self)
  | .expiration event =>
    ((requiredCollectionName self.selection event.collectionId).map fun name =>
      .expiration { event with collectionName := some name }, self)
  | event => (.ok event, self)

end RegistryState

/-- Retains the maximum per vBucket. -/
def mergeHighSeqno (merged : BTreeMap UInt16 Nat) (vbucket : UInt16) (seqno : Nat) :
    BTreeMap UInt16 Nat :=
  merged.insert vbucket (match merged[vbucket]? with
    | some current => max current seqno
    | none => seqno)

/-- The loop of `fetch_selection_high_seqnos` over an explicit collection list. -/
def mergeCollectionHighs (fetch : Option UInt32 → Result (BTreeMap UInt16 Nat)) :
    BTreeMap UInt16 Nat → List UInt32 → Result (BTreeMap UInt16 Nat)
  | merged, [] => .ok merged
  | merged, collectionId :: collectionIds =>
    match fetch (some collectionId) with
    | .error error => .error error
    | .ok seqnos => mergeCollectionHighs fetch (seqnos.foldl mergeHighSeqno merged) collectionIds

/-- `fetch` is `fetch_active_high_seqnos` on the node's connection. -/
def fetchSelectionHighSeqnos (fetch : Option UInt32 → Result (BTreeMap UInt16 Nat))
    (selection : CollectionSelection) : Result (BTreeMap UInt16 Nat) :=
  match selection.highSeqnoCollectionIds with
  | none => fetch none
  | some collectionIds => mergeCollectionHighs fetch ∅ collectionIds

theorem highSeqnoCollectionIds_ne_nil {selection : CollectionSelection}
    (h : selection.highSeqnoCollectionIds = some ids) : ids ≠ [] := by
  obtain ⟨resolved, -, hids⟩ := Option.bind_eq_some_iff.1 h
  split at hids
  case isTrue => cases hids
  case isFalse hempty =>
    cases hids
    exact fun hnil => hempty (by rw [hnil]; rfl)

theorem getElem?_mergeHighSeqno (merged : BTreeMap UInt16 Nat) (u v : UInt16) (n : Nat) :
    (mergeHighSeqno merged u n)[v]? =
      if u = v then some (max (merged[v]?.getD 0) n) else merged[v]? := by
  simp only [mergeHighSeqno, Std.ExtTreeMap.getElem?_insert, Std.compare_eq_iff_eq]
  by_cases h : u = v
  · subst h
    cases merged[u]? <;> simp
  · simp only [h, ↓reduceIte]

theorem getElem?_foldl_merge_absent (entries : List (UInt16 × Nat)) (merged : BTreeMap UInt16 Nat)
    (h : ∀ entry ∈ entries, entry.1 ≠ v) :
    (entries.foldl (fun merged entry => mergeHighSeqno merged entry.1 entry.2) merged)[v]? =
      merged[v]? := by
  induction entries generalizing merged with
  | nil => rfl
  | cons entry entries ih =>
    obtain ⟨hne, h⟩ := List.forall_mem_cons.1 h
    rw [List.foldl_cons, ih _ h, getElem?_mergeHighSeqno, if_neg hne]

theorem getElem?_foldl_merge (entries : List (UInt16 × Nat)) (merged : BTreeMap UInt16 Nat)
    (hkeys : entries.Pairwise fun a b => ¬compare a.1 b.1 = .eq) (hmem : (v, n) ∈ entries) :
    (entries.foldl (fun merged entry => mergeHighSeqno merged entry.1 entry.2) merged)[v]? =
      some (max (merged[v]?.getD 0) n) := by
  induction entries generalizing merged with
  | nil => cases hmem
  | cons entry entries ih =>
    obtain ⟨hfirst, hkeys⟩ := List.pairwise_cons.1 hkeys
    rw [List.foldl_cons]
    cases List.mem_cons.1 hmem with
    | inl heq =>
      subst heq
      rw [getElem?_foldl_merge_absent, getElem?_mergeHighSeqno, if_pos rfl]
      intro other hother heq
      exact hfirst other hother (Std.compare_eq_iff_eq.2 heq.symm)
    | inr hmem =>
      have hne : entry.1 ≠ v := by
        intro heq
        exact hfirst (v, n) hmem (Std.compare_eq_iff_eq.2 heq)
      rw [ih _ hkeys hmem, getElem?_mergeHighSeqno, if_neg hne]

theorem mergeCollectionHighs_eq {v : UInt16} (fetch : Option UInt32 → Result (BTreeMap UInt16 Nat))
    (collectionHigh : UInt32 → Nat)
    (hfetch : ∀ c, ∃ answers, fetch (some c) = .ok answers ∧ answers[v]? = some (collectionHigh c))
    (ids : List UInt32) (merged : BTreeMap UInt16 Nat)
    (hsome : ids ≠ [] ∨ merged[v]?.isSome = true) :
    ∃ highs high, mergeCollectionHighs fetch merged ids = .ok highs ∧ highs[v]? = some high ∧
      ∀ n, n ≤ high ↔ (∃ current, merged[v]? = some current ∧ n ≤ current) ∨
        ∃ c ∈ ids, n ≤ collectionHigh c := by
  induction ids generalizing merged with
  | nil =>
    obtain ⟨high, hhigh⟩ := Option.isSome_iff_exists.1 (hsome.resolve_left (absurd rfl))
    exact ⟨merged, high, rfl, hhigh, by simp [hhigh]⟩
  | cons c ids ih =>
    obtain ⟨answers, hanswers, hv⟩ := hfetch c
    have hmerged : (answers.foldl mergeHighSeqno merged)[v]? =
        some (max (merged[v]?.getD 0) (collectionHigh c)) := by
      rw [Std.ExtTreeMap.foldl_eq_foldl_toList]
      exact getElem?_foldl_merge _ _ Std.ExtTreeMap.distinct_keys_toList
        (Std.ExtTreeMap.mem_toList_iff_getElem?_eq_some.2 hv)
    obtain ⟨highs, high, hok, hhigh, hle⟩ :=
      ih (answers.foldl mergeHighSeqno merged) (.inr (by rw [hmerged]; rfl))
    refine ⟨highs, high, ?_, hhigh, fun n => ?_⟩
    · rw [mergeCollectionHighs, hanswers]
      exact hok
    · rw [hle n, hmerged]
      cases merged[v]? with
      | none => simp
      | some current => simp [or_assoc]

end RustDcp
