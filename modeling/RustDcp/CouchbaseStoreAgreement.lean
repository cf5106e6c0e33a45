import RustDcp.CouchbaseStoreMap

namespace RustDcp
set_option autoImplicit true

namespace CheckpointMap

theorem Effect.unique {map : CheckpointMap} (h : map.Effect c (.ok reply) after)
    (h' : map.Effect c result after') : result = .ok reply ∧ after' = after := by
  cases h with
  | loaded howned hloaded =>
    cases h' with
    | loaded howned' hloaded' =>
      have heq := Std.ExtTreeMap.ext_getElem? fun v => (hloaded' v).trans (hloaded v).symm
      exact ⟨by rw [heq], rfl⟩
    | loadRejected error hother => exact absurd howned hother
  | @saved bucketUuid checkpoints haccepts =>
    cases h' with
    | @saved bucketUuid' _ haccepts' =>
      refine ⟨rfl, ?_⟩
      cases checkpoints with
      | nil => rfl
      | cons checkpoint checkpoints =>
        have hsame := (haccepts'.2 checkpoint List.mem_cons_self).1.symm.trans
          (haccepts.2 checkpoint List.mem_cons_self).1
        rw [Option.some.inj hsame]
    | saveRejected error hother => exact absurd haccepts (hother _)
  | cleared howned =>
    cases h' with
    | cleared howned' => exact ⟨rfl, rfl⟩
    | clearRejected error hother => exact absurd howned hother

end CheckpointMap

namespace CouchbaseCheckpointStore

section

variable {json : DocumentJson Text} {store : CouchbaseCheckpointStore}

def entriesOf (documents : UInt16 → Option StoredCheckpointDocument) : CheckpointMap := fun v =>
  (documents v).map fun document => (document.bucketUuid, document.toCheckpoint v)

/-- The documents of the store's keys, each of which would be accepted again. -/
structure Stores (json : DocumentJson Text) (store : CouchbaseCheckpointStore)
    (collection : CheckpointCollection Text)
    (documents : UInt16 → Option StoredCheckpointDocument) :
    Prop where
  stored : ∀ v, collection[store.checkpointKey v]?.map json.fromSlice = (documents v).map .ok
  valid : ∀ v document, documents v = some document → (document.toCheckpoint v).validate = .ok ()

def Represents (json : DocumentJson Text) (store : CouchbaseCheckpointStore)
    (collection : CheckpointCollection Text) (map : CheckpointMap) : Prop :=
  ∃ documents, Stores json store collection documents ∧ map = entriesOf documents

theorem owned_entriesOf : (entriesOf documents).Owned bucketUuid vbuckets ↔ vbuckets.Nodup ∧
    ∀ v ∈ vbuckets, ∀ document, documents v = some document →
      document.bucketUuid = bucketUuid := by
  simp [CheckpointMap.Owned, entriesOf]

theorem Stores.checkExisting (h : Stores json store collection documents)
    (hcheck : checkExisting json v bucketUuid collection[store.checkpointKey v]? = .ok ())
    (hdocument : documents v = some document) : document.bucketUuid = bucketUuid := by
  have hstored := h.stored v
  rw [hdocument] at hstored
  obtain ⟨text, hget, htext⟩ := Option.map_eq_some_iff.1 hstored
  rw [hget, CouchbaseCheckpointStore.checkExisting, htext] at hcheck
  dsimp only at hcheck
  split at hcheck
  · cases hcheck
  · rename_i hbucket
    exact not_not.1 hbucket

theorem Stores.written {tasks : BTreeMap UInt16 (WriteTask Text)}
    (h : Stores json store before documents)
    (hrun : runWrites json store operation before tasks schedule = some (.ok (), after))
    (hafter : ∀ v, match tasks[v]? with
      | some task => task.value.map json.fromSlice = (documents' v).map .ok
      | none => documents' v = documents v)
    (hvalid : ∀ v document, documents' v = some document →
      (document.toCheckpoint v).validate = .ok ()) :
    Stores json store after documents' := by
  obtain ⟨hframe, hwrites⟩ := runWrites_eq_some hrun
  refine ⟨?_, hvalid⟩
  intro v
  have hv := hafter v
  cases htask : tasks[v]? with
  | some task =>
    rw [htask] at hv
    rw [((hwrites v task htask).2 rfl).2]
    exact hv
  | none =>
    rw [htask] at hv
    dsimp only at hv
    rw [hv, ← h.stored v, hframe]
    intro w hw heq
    rw [checkpointKey_inj heq, Std.ExtTreeMap.mem_iff_isSome_getElem?, htask] at hw
    cases hw

theorem save_effect (h : Represents json store before map)
    (hsave : save json store before checkpoints schedule = some (.ok (), after)) :
    ∃ map', Represents json store after map' ∧ map.Effect (.save checkpoints) (.ok .done) map' := by
  obtain ⟨documents, hstores, rfl⟩ := h
  rw [save] at hsave
  split at hsave
  · cases hsave
  rename_i updates hbatch
  obtain ⟨bucketUuid, hisBatch, hvalid, hentries, -⟩ := serializeCheckpointBatch_eq_ok hbatch
  obtain ⟨hbuckets, hlisted⟩ := FileCheckpointStore.batch_documents hentries
  refine ⟨(entriesOf documents).overwrite bucketUuid checkpoints,
    ⟨fun v => updates[v]?.or (documents v), hstores.written hsave ?_ ?_, ?_⟩,
      .saved ⟨?_, fun _ => hisBatch.valid⟩⟩
  · intro v
    rw [getElem?_saveTasks]
    cases updates[v]? with
    | none => rfl
    | some update => simp [json.fromSlice_toVec]
  · intro v document hdocument
    cases hget : updates[v]? with
    | none =>
      rw [hget] at hdocument
      exact hstores.valid v document hdocument
    | some update =>
      rw [hget] at hdocument
      cases hdocument
      exact hvalid v _ hget
  · funext v
    rw [CheckpointMap.overwrite_apply hentries]
    simp only [StoredDocuments.entries, entriesOf]
    cases updates[v]? with
    | none => rfl
    | some update => rfl
  · refine owned_entriesOf.2 ⟨hisBatch.distinct, ?_⟩
    intro v hv document hdocument
    obtain ⟨update, hget⟩ := hlisted v hv
    have htask : (saveTasks json updates)[v]? = some
        { expectedBucketUuid := update.bucketUuid, value := some (json.toVec update) } := by
      rw [getElem?_saveTasks, hget]
      rfl
    have hwritten := ((runWrites_eq_some hsave).2 v _ htask).2 rfl
    rw [hstores.checkExisting hwritten.1 hdocument]
    exact (hbuckets v update hget).1

theorem clear_effect (h : Represents json store before map)
    (hclear : clear json store before bucketUuid vbuckets schedule = some (.ok (), after)) :
    ∃ map', Represents json store after map' ∧
      map.Effect (.clear bucketUuid vbuckets) (.ok .done) map' := by
  obtain ⟨documents, hstores, rfl⟩ := h
  rw [clear] at hclear
  split at hclear
  · cases hclear
  rename_i hvalidate
  have hdistinct := validateVbuckets_eq_ok.1 hvalidate
  refine ⟨(entriesOf documents).remove vbuckets,
    ⟨fun v => if v ∈ vbuckets then none else documents v, hstores.written hclear ?_ ?_, ?_⟩,
    .cleared (owned_entriesOf.2 ⟨hdistinct, ?_⟩)⟩
  · intro v
    rw [getElem?_clearTasks hdistinct]
    by_cases hv : v ∈ vbuckets
    · simp [hv]
    · simp [hv]
  · intro v document hdocument
    split at hdocument
    · cases hdocument
    · exact hstores.valid v document hdocument
  · funext v
    simp only [CheckpointMap.remove, entriesOf]
    split <;> rfl
  · intro v hv document hdocument
    have htask : (clearTasks bucketUuid vbuckets : BTreeMap UInt16 (WriteTask Text))[v]? =
        some { expectedBucketUuid := bucketUuid, value := none } := by
      rw [getElem?_clearTasks hdistinct, if_pos hv]
    have hwritten := ((runWrites_eq_some hclear).2 v _ htask).2 rfl
    exact hstores.checkExisting hwritten.1 hdocument

/-- What the loop of `load` has found under the key of a vBucket. -/
def Found (json : DocumentJson Text) (bucketUuid : String) (v : UInt16)
    (loaded : Option DcpCheckpoint) :
    Option Text → Prop
  | none => loaded = none
  | some text => ∃ document checkpoint, json.fromSlice text = .ok document ∧
      document.intoCheckpoint v bucketUuid = .ok checkpoint ∧ loaded = some checkpoint

/-- What holds of a vBucket of `load` while its future is where it is. -/
def ReadPhase (json : DocumentJson Text) (bucketUuid : String) (v : UInt16) (value : Option Text)
    (loaded : Option DcpCheckpoint) : Option (Option (Result (Option Text))) → Prop
  | some none => loaded = none
  | some (some (.ok answer)) => loaded = none ∧ answer = value
  | some (some (.error _)) => loaded = none
  | none => Found json bucketUuid v loaded value

structure Loading (json : DocumentJson Text) (store : CouchbaseCheckpointStore)
    (collection : CheckpointCollection Text) (bucketUuid : String) (vbuckets : List UInt16)
    (pending : BTreeMap UInt16 (Option (Result (Option Text))))
    (checkpoints : BTreeMap UInt16 DcpCheckpoint) : Prop where
  phase : ∀ v ∈ vbuckets, ReadPhase json bucketUuid v collection[store.checkpointKey v]?
    checkpoints[v]? pending[v]?
  unlisted : ∀ v, v ∉ vbuckets → checkpoints[v]? = none ∧ pending[v]? = none

theorem addLoaded_eq_ok (h : addLoaded json bucketUuid v checkpoints answer = .ok after)
    (hphase : ReadPhase json bucketUuid v value checkpoints[v]? (some (some answer))) :
    Found json bucketUuid v after[v]? value ∧ ∀ w, v ≠ w → after[w]? = checkpoints[w]? := by
  match answer with
  | .error error => cases h
  | .ok none =>
    obtain ⟨hnone, rfl⟩ := hphase
    cases h
    exact ⟨hnone, fun _ _ => rfl⟩
  | .ok (some text) =>
    obtain ⟨-, rfl⟩ := hphase
    rw [addLoaded] at h
    split at h
    · cases h
    rename_i document hdocument
    split at h
    · cases h
    rename_i checkpoint hcheckpoint
    cases h
    refine ⟨⟨document, checkpoint, hdocument, hcheckpoint, Std.ExtTreeMap.getElem?_insert_self⟩, ?_⟩
    intro w hw
    rw [Std.ExtTreeMap.getElem?_insert, if_neg fun heq => hw (Std.compare_eq_iff_eq.1 heq)]

theorem readStep_loading {s t : Reads Text}
    (h : ∀ checkpoints, s.checkpoints = .ok checkpoints →
      Loading json store collection bucketUuid vbuckets s.pending checkpoints)
    (hstep : readStep json store collection bucketUuid s a = some t) :
    ∀ checkpoints, t.checkpoints = .ok checkpoints →
      Loading json store collection bucketUuid vbuckets t.pending checkpoints := by
  intro checkpoints hok
  cases a with
  | read vbucket answer =>
    simp only [readStep] at hstep
    split at hstep
    · rename_i hpending
      cases hstep
      have hloading := h checkpoints hok
      have hlisted : vbucket ∈ vbuckets := by
        by_contra hnot
        cases hpending.symm.trans (hloading.unlisted vbucket hnot).2
      refine ⟨?_, ?_⟩
      · intro v hv
        have hphase := hloading.phase v hv
        simp only [Std.ExtTreeMap.getElem?_insert, Std.compare_eq_iff_eq]
        by_cases heq : vbucket = v
        · subst heq
          rw [hpending] at hphase
          rw [if_pos rfl]
          cases answer with
          | done => exact ⟨hphase, rfl⟩
          | failed error => exact hphase
          | lost error => exact hphase
        · rw [if_neg heq]
          exact hphase
      · intro v hv
        simp only [Std.ExtTreeMap.getElem?_insert, Std.compare_eq_iff_eq]
        rw [if_neg (ne_of_mem_of_not_mem hlisted hv)]
        exact hloading.unlisted v hv
    · cases hstep
  | write vbucket answer => cases hstep
  | collect vbucket =>
    simp only [readStep] at hstep
    split at hstep
    · rename_i loaded answer hloaded hpending
      cases hstep
      have hloading := h loaded hloaded
      have hlisted : vbucket ∈ vbuckets := by
        by_contra hnot
        cases hpending.symm.trans (hloading.unlisted vbucket hnot).2
      have hphase := hloading.phase vbucket hlisted
      rw [hpending] at hphase
      obtain ⟨hfound, hsame⟩ := addLoaded_eq_ok hok hphase
      refine ⟨?_, ?_⟩
      · intro v hv
        simp only [Std.ExtTreeMap.getElem?_erase, Std.compare_eq_iff_eq]
        by_cases heq : vbucket = v
        · subst heq
          rw [if_pos rfl]
          exact hfound
        · rw [if_neg heq, hsame v heq]
          exact hloading.phase v hv
      · intro v hv
        have hne : vbucket ≠ v := ne_of_mem_of_not_mem hlisted hv
        simp only [Std.ExtTreeMap.getElem?_erase, Std.compare_eq_iff_eq]
        rw [if_neg hne, hsame v hne]
        exact hloading.unlisted v hv
    · cases hstep

theorem load_eq_ok
    (h : load json store collection bucketUuid vbuckets schedule = some (.ok checkpoints)) :
    vbuckets.Nodup ∧ (∀ v, v ∉ vbuckets → checkpoints[v]? = none) ∧
      ∀ v ∈ vbuckets, Found json bucketUuid v checkpoints[v]?
        collection[store.checkpointKey v]? := by
  rw [load] at h
  split at h
  · cases h
  rename_i hvalidate
  have hdistinct := validateVbuckets_eq_ok.1 hvalidate
  have hstart : ∀ empty, (.ok ∅ : Result (BTreeMap UInt16 DcpCheckpoint)) = .ok empty →
      Loading json store collection bucketUuid vbuckets (loadFutures vbuckets) empty := by
    intro empty hempty
    cases hempty
    refine ⟨?_, ?_⟩
    · intro v hv
      rw [loadFutures, getElem?_ofList_map _ hdistinct, if_pos hv]
      exact Std.ExtTreeMap.getElem?_empty
    · intro v hv
      rw [loadFutures, getElem?_ofList_map _ hdistinct, if_neg hv]
      exact ⟨Std.ExtTreeMap.getElem?_empty, rfl⟩
  split at h
  · cases h
  · cases h
  rename_i loaded pending hrun
  split at h
  · rename_i hempty
    cases h
    have hend := Machine.run_invariant (fun _ _ _ h hstep => readStep_loading h hstep) hstart hrun
    have hloading := hend checkpoints rfl
    refine ⟨hdistinct, fun v hv => (hloading.unlisted v hv).1, ?_⟩
    intro v hv
    have hphase := hloading.phase v hv
    rw [Std.ExtTreeMap.isEmpty_iff.1 hempty, Std.ExtTreeMap.getElem?_empty] at hphase
    exact hphase
  · cases h

theorem Stores.found (h : Stores json store collection documents)
    (hfound : Found json bucketUuid v loaded collection[store.checkpointKey v]?) :
    loaded = (documents v).map (·.toCheckpoint v) ∧
      ∀ document, documents v = some document → document.bucketUuid = bucketUuid := by
  have hstored := h.stored v
  cases hdocument : documents v with
  | none =>
    rw [hdocument, Option.map_none, Option.map_eq_none_iff] at hstored
    rw [hstored] at hfound
    exact ⟨hfound, by simp⟩
  | some document =>
    rw [hdocument] at hstored
    obtain ⟨text, hget, htext⟩ := Option.map_eq_some_iff.1 hstored
    rw [hget] at hfound
    obtain ⟨other, checkpoint, hother, hcheckpoint, hloaded⟩ := hfound
    cases htext.symm.trans hother
    rw [intoCheckpoint_eq_ok (h.valid v document hdocument)] at hcheckpoint
    split at hcheckpoint
    · rename_i hbucket
      cases hcheckpoint
      refine ⟨hloaded, ?_⟩
      intro other hsame
      cases hsame
      exact hbucket
    · cases hcheckpoint

theorem load_effect (h : Represents json store collection map)
    (hload : load json store collection bucketUuid vbuckets schedule = some (.ok checkpoints)) :
    map.Effect (.load bucketUuid vbuckets) (.ok (.loaded checkpoints)) map := by
  obtain ⟨documents, hstores, rfl⟩ := h
  obtain ⟨hdistinct, hunlisted, hfound⟩ := load_eq_ok hload
  refine .loaded (owned_entriesOf.2 ⟨hdistinct, fun v hv => (hstores.found (hfound v hv)).2⟩) ?_
  intro v
  split
  · rename_i hv
    rw [(hstores.found (hfound v hv)).1, entriesOf, Option.map_map]
    rfl
  · rename_i hv
    exact hunlisted v hv

theorem call_effect (h : Represents json store before map)
    (hcall : call json store before schedule c = some (.ok reply, after)) :
    ∃ map', Represents json store after map' ∧ map.Effect c (.ok reply) map' := by
  cases c with
  | load bucketUuid vbuckets =>
    obtain ⟨result, hload, hcall⟩ := Option.map_eq_some_iff.1 hcall
    cases result with
    | error error => cases hcall
    | ok checkpoints =>
      cases hcall
      exact ⟨map, h, load_effect h hload⟩
  | save checkpoints =>
    obtain ⟨⟨result, collection⟩, hsave, hcall⟩ := Option.map_eq_some_iff.1 hcall
    cases result with
    | error error => cases hcall
    | ok value =>
      cases hcall
      exact save_effect h hsave
  | clear bucketUuid vbuckets =>
    obtain ⟨⟨result, collection⟩, hclear, hcall⟩ := Option.map_eq_some_iff.1 hcall
    cases result with
    | error error => cases hcall
    | ok value =>
      cases hcall
      exact clear_effect h hclear

theorem calls_agree (fileJson : CheckpointJson FileText) (path : String)
    (h : Represents json store collection map)
    (hfile : FileCheckpointStore.Represents fileJson file map)
    (hcalls : calls json store collection cs = some (results, after))
    (hok : ∀ result ∈ results, ∃ reply, result = .ok reply) :
    (FileCheckpointStore.calls fileJson path file (cs.map (·.1))).1 = results := by
  induction cs generalizing collection file map results with
  | nil =>
    cases hcalls
    rfl
  | cons c rest ih =>
    obtain ⟨c, schedule⟩ := c
    rw [calls] at hcalls
    split at hcalls
    · cases hcalls
    rename_i result collection' hcall
    obtain ⟨⟨results', after'⟩, hrest, hcalls⟩ := Option.map_eq_some_iff.1 hcalls
    cases hcalls
    obtain ⟨⟨reply, rfl⟩, hoks⟩ := List.forall_mem_cons.1 hok
    obtain ⟨map', hrepresents, heffect⟩ := call_effect h hcall
    obtain ⟨fileMap, hfile', heffect'⟩ := FileCheckpointStore.call_effect hfile path c
    obtain ⟨hsame, rfl⟩ := heffect.unique heffect'
    rw [List.map_cons, FileCheckpointStore.calls]
    dsimp only
    rw [hsame, ih hrepresents hfile' hrest hoks]

/-- The Couchbase store returns what the file store does as long as its calls succeed, and a call
that fails leaves each listed vBucket with its old or its new value and changes nothing else. -/
theorem couchbase_store_agrees (json : DocumentJson Text) (store : CouchbaseCheckpointStore) :
    (∀ (FileText : Type) (fileJson : CheckpointJson FileText) path collection file map cs
      results after,
      Represents json store collection map → FileCheckpointStore.Represents fileJson file map →
      calls json store collection cs = some (results, after) →
      (∀ result ∈ results, ∃ reply, result = .ok reply) →
      (FileCheckpointStore.calls fileJson path file (cs.map (·.1))).1 = results) ∧
    ∀ before schedule c error after, call json store before schedule c =
      some (.error error, after) →
      (∀ v ∈ c.listed, after[store.checkpointKey v]? = before[store.checkpointKey v]? ∨
        c.Requests json v after[store.checkpointKey v]?) ∧
      (∀ v, v ∉ c.listed → after[store.checkpointKey v]? = before[store.checkpointKey v]?) ∧
      ∀ (key : String) text document, before[key]? = some text →
        json.fromSlice text = .ok document → ¬ c.OfBucket document.bucketUuid →
        after[key]? = some text := by
  constructor
  · intro FileText fileJson path collection file map cs results after h hfile hcalls hok
    exact calls_agree fileJson path h hfile hcalls hok
  · intro before schedule c error after hcall
    have hkeeps := call_keeps hcall
    exact ⟨hkeeps.listed, hkeeps.unlisted, hkeeps.other⟩

end

def sampleDocumentJson : DocumentJson StoredCheckpointDocument where
  toVec := id
  fromSlice := .ok
  fromSlice_toVec _ := rfl

def sampleStore : CouchbaseCheckpointStore := { group := "replica" }

def sampleBatch : List DcpCheckpoint :=
  [{ DcpCheckpoint.earliest 3 with bucketUuid := some "b1", seqno := 5, snapshotEnd := 9 },
    { DcpCheckpoint.earliest 4 with bucketUuid := some "b1", seqno := 2, snapshotEnd := 2 }]

def sampleScheduled : List (StoreCall × List CallAction) :=
  [(.save sampleBatch, [.read 4 .done, .read 3 .done, .write 3 .done, .collect 3, .write 4 .done,
      .collect 4]),
    (.load "b1" [3, 4], [.read 4 .done, .read 3 .done, .collect 4, .collect 3]),
    (.clear "b1" [4], [.read 4 .done, .write 4 .done, .collect 4])]

def sampleFailing : List CallAction :=
  [.read 4 .done, .read 3 .done, .write 3 .done, .write 4 (.failed (.io "timeout")), .collect 4,
    .collect 3]

theorem represents_empty (json : DocumentJson Text) (store : CouchbaseCheckpointStore) :
    Represents json store ∅ (StoredDocuments.entries ∅) := by
  refine ⟨fun _ => none, ⟨?_, ?_⟩, ?_⟩
  · intro v
    simp
  · intro v document hdocument
    cases hdocument
  · funext v
    simp [StoredDocuments.entries, entriesOf]

theorem couchbase_store_agrees_sample :
    (∃ results after, calls sampleDocumentJson sampleStore ∅ sampleScheduled =
      some (results, after) ∧
      results.length = 3 ∧
      (FileCheckpointStore.calls FileCheckpointStore.sampleJson "checkpoints.json" none
        (sampleScheduled.map (·.1))).1 = results) ∧
    ∃ error after, call sampleDocumentJson sampleStore ∅ sampleFailing (.save sampleBatch) =
        some (.error error, after) ∧
      ∀ v, v ∉ (StoreCall.save sampleBatch).listed → after[sampleStore.checkpointKey v]? =
        (∅ : CheckpointCollection StoredCheckpointDocument)[sampleStore.checkpointKey v]? := by
  have hagrees := couchbase_store_agrees sampleDocumentJson sampleStore
  constructor
  · have hrun : (calls sampleDocumentJson sampleStore ∅ sampleScheduled).map
        (fun r => (r.1.length, r.1.all (·.isOk))) = some (3, true) := by
      decide +kernel
    obtain ⟨⟨results, after⟩, hcalls, hresults⟩ := Option.map_eq_some_iff.1 hrun
    obtain ⟨hlength, hall⟩ := Prod.mk.inj hresults
    refine ⟨results, after, hcalls, hlength, ?_⟩
    refine hagrees.1 _ _ _ _ _ _ _ _ _ (represents_empty _ _) (.inl ⟨rfl, rfl⟩) hcalls ?_
    intro result hresult
    have hok := List.all_eq_true.1 hall result hresult
    cases result with
    | error error => cases hok
    | ok reply => exact ⟨reply, rfl⟩
  · have hrun : (call sampleDocumentJson sampleStore ∅ sampleFailing (.save sampleBatch)).map
        (fun r => r.1.isOk) = some false := by
      decide +kernel
    obtain ⟨⟨result, after⟩, hcall, hresult⟩ := Option.map_eq_some_iff.1 hrun
    cases result with
    | ok reply => cases hresult
    | error error => exact ⟨error, after, hcall, (hagrees.2 _ _ _ _ _ hcall).2.1⟩

end CouchbaseCheckpointStore

end RustDcp
