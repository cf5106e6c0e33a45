import RustDcp.CouchbaseStore
import RustDcp.FileStoreMap

namespace RustDcp
set_option autoImplicit true

namespace CouchbaseCheckpointStore

theorem checkpointKey_inj {store : CouchbaseCheckpointStore} {v w : UInt16}
    (h : store.checkpointKey v = store.checkpointKey w) : v = w := by
  have hnat : toString v.toNat = toString w.toNat := by
    have h : "_connector:cbgo:" ++ toString store.group ++ ":checkpoint:" ++ toString v =
        "_connector:cbgo:" ++ toString store.group ++ ":checkpoint:" ++ toString w := h
    exact String.append_right_inj _ |>.1 h
  exact UInt16.toNat_inj.1 (Nat.repr_inj.1 hnat)

theorem getElem?_put (collection : CheckpointCollection Text) (key other : String)
    (value : Option Text) :
    (put collection key value)[other]? = if key = other then value else collection[other]? := by
  cases value with
  | none => simp only [put, Std.ExtTreeMap.getElem?_erase, Std.compare_eq_iff_eq]
  | some value => simp only [put, Std.ExtTreeMap.getElem?_insert, Std.compare_eq_iff_eq]

theorem getElem?_afterWrite_of_ne {collection : CheckpointCollection Text} {key other : String}
    (h : key ≠ other) (value : Option Text) (answer : Answer) :
    (afterWrite collection key value answer)[other]? = collection[other]? := by
  cases answer with
  | done => rw [afterWrite, getElem?_put, if_neg h]
  | failed error => rfl
  | lost error => rw [afterWrite, getElem?_put, if_neg h]

section

variable {json : DocumentJson Text} {store : CouchbaseCheckpointStore}

/-- What the value under the key of a vBucket may be: the old one, or after the check the new. -/
def Holds (json : DocumentJson Text) (v : UInt16) (task : WriteTask Text) (old now : Option Text) :
    Prop :=
  now = old ∨ checkExisting json v task.expectedBucketUuid old = .ok () ∧ now = task.value

/-- The write was checked and made. -/
def Written (json : DocumentJson Text) (v : UInt16) (task : WriteTask Text)
    (old now : Option Text) : Prop :=
  checkExisting json v task.expectedBucketUuid old = .ok () ∧ now = task.value

/-- What holds of the value while the future is where it is; a collected future has no phase. -/
def InPhase (json : DocumentJson Text) (v : UInt16) (task : WriteTask Text) (old now : Option Text)
    (failures : List String) : Option WritePhase → Prop
  | some .reading => now = old
  | some .writing => now = old ∧ checkExisting json v task.expectedBucketUuid old = .ok ()
  | some (.finished (.ok ())) => Written json v task old now
  | some (.finished (.error _)) => Holds json v task old now
  | none => Holds json v task old now ∧ (failures = [] → Written json v task old now)

structure Progress (json : DocumentJson Text) (store : CouchbaseCheckpointStore)
    (tasks : BTreeMap UInt16 (WriteTask Text)) (before : CheckpointCollection Text)
    (s : Writes Text) : Prop where
  frame : ∀ key, (∀ v ∈ tasks, store.checkpointKey v ≠ key) → s.collection[key]? = before[key]?
  phase : ∀ (v : UInt16) task, tasks[v]? = some task →
    InPhase json v task before[store.checkpointKey v]? s.collection[store.checkpointKey v]?
      s.failures s.pending[v]?

theorem afterRead_inPhase (v : UInt16) (task : WriteTask Text) (h : now = old) (answer : Answer)
    (failures : List String) :
    InPhase json v task old now failures (some (afterRead json v task now answer)) := by
  subst h
  cases answer with
  | done =>
    rw [afterRead]
    split
    · rename_i hcheck
      exact ⟨rfl, hcheck⟩
    · exact .inl rfl
  | failed error => exact .inl rfl
  | lost error => exact .inl rfl

theorem afterWrite_inPhase {collection : CheckpointCollection Text}
    (hcheck : checkExisting json v task.expectedBucketUuid old = .ok ())
    (h : collection[key]? = old) (answer : Answer) (failures : List String) :
    InPhase json v task old (afterWrite collection key task.value answer)[key]? failures
      (some (.finished answer.result)) := by
  cases answer with
  | done => exact ⟨hcheck, by rw [afterWrite, getElem?_put, if_pos rfl]⟩
  | failed error => exact .inl h
  | lost error => exact .inr ⟨hcheck, by rw [afterWrite, getElem?_put, if_pos rfl]⟩

theorem InPhase.collect (h : InPhase json v task old now failures (some (.finished result))) :
    InPhase json v task old now (failures ++ failure v result) none := by
  cases result with
  | ok value => exact ⟨.inr h, fun _ => h⟩
  | error error => exact ⟨h, fun hnone => by simp [failure] at hnone⟩

theorem InPhase.append (h : InPhase json v task old now failures phase) (more : List String) :
    InPhase json v task old now (failures ++ more) phase := by
  cases phase with
  | none => exact ⟨h.1, fun hnil => h.2 (List.append_eq_nil_iff.1 hnil).1⟩
  | some phase =>
    match phase with
    | .reading => exact h
    | .writing => exact h
    | .finished (.ok ()) => exact h
    | .finished (.error _) => exact h

theorem Progress.step {tasks : BTreeMap UInt16 (WriteTask Text)}
    (h : Progress json store tasks before s) (hstep : writeStep json store tasks s a = some t) :
    Progress json store tasks before t := by
  cases a with
  | read vbucket answer =>
    simp only [writeStep] at hstep
    split at hstep
    · rename_i task htask hpending
      cases hstep
      refine ⟨h.frame, ?_⟩
      intro v other hother
      have hphase := h.phase v other hother
      simp only [Std.ExtTreeMap.getElem?_insert, Std.compare_eq_iff_eq]
      by_cases hv : vbucket = v
      · subst hv
        cases htask.symm.trans hother
        rw [hpending] at hphase
        rw [if_pos rfl]
        exact afterRead_inPhase _ _ hphase _ _
      · rw [if_neg hv]
        exact hphase
    · cases hstep
  | write vbucket answer =>
    simp only [writeStep] at hstep
    split at hstep
    · rename_i task htask hpending
      cases hstep
      have hmem : vbucket ∈ tasks :=
        Std.ExtTreeMap.mem_iff_isSome_getElem?.2 (Option.isSome_of_eq_some htask)
      refine ⟨?_, ?_⟩
      · intro key hkey
        dsimp only
        rw [getElem?_afterWrite_of_ne (hkey vbucket hmem)]
        exact h.frame key hkey
      · intro v other hother
        have hphase := h.phase v other hother
        simp only [Std.ExtTreeMap.getElem?_insert, Std.compare_eq_iff_eq]
        by_cases hv : vbucket = v
        · subst hv
          cases htask.symm.trans hother
          rw [hpending] at hphase
          rw [if_pos rfl]
          exact afterWrite_inPhase hphase.2 hphase.1 _ _
        · -- the other futures have other keys
          rw [if_neg hv, getElem?_afterWrite_of_ne fun heq => hv (checkpointKey_inj heq)]
          exact hphase
    · cases hstep
  | collect vbucket =>
    simp only [writeStep] at hstep
    split at hstep
    · rename_i result hpending
      cases hstep
      refine ⟨h.frame, ?_⟩
      intro v other hother
      have hphase := h.phase v other hother
      simp only [Std.ExtTreeMap.getElem?_erase, Std.compare_eq_iff_eq]
      by_cases hv : vbucket = v
      · subst hv
        rw [hpending] at hphase
        rw [if_pos rfl]
        exact hphase.collect
      · rw [if_neg hv]
        exact hphase.append _
    · cases hstep

/-- Under every schedule: other keys keep their values, each key of the call has its old value or
the checked new one, and after a success the new one. -/
theorem runWrites_eq_some {tasks : BTreeMap UInt16 (WriteTask Text)}
    (h : runWrites json store operation before tasks schedule = some (result, after)) :
    (∀ key, (∀ v ∈ tasks, store.checkpointKey v ≠ key) → after[key]? = before[key]?) ∧
      ∀ (v : UInt16) task, tasks[v]? = some task →
        Holds json v task before[store.checkpointKey v]? after[store.checkpointKey v]? ∧
        (result = .ok () →
          Written json v task before[store.checkpointKey v]? after[store.checkpointKey v]?) := by
  rw [runWrites] at h
  split at h
  · rename_i s hrun
    split at h
    · rename_i hempty
      cases h
      have hstart : Progress json store tasks before
          { collection := before, pending := tasks.map fun _ _ => .reading, failures := [] } := by
        refine ⟨fun _ _ => rfl, ?_⟩
        intro v task htask
        rw [Std.ExtTreeMap.getElem?_map, htask]
        rfl
      have hend := Machine.run_invariant (fun _ _ _ h hstep => Progress.step h hstep) hstart hrun
      refine ⟨hend.frame, ?_⟩
      intro v task htask
      have hphase := hend.phase v task htask
      rw [Std.ExtTreeMap.isEmpty_iff.1 hempty, Std.ExtTreeMap.getElem?_empty] at hphase
      refine ⟨hphase.1, fun hok => hphase.2 ?_⟩
      rw [collectCouchbaseWrites] at hok
      split at hok
      · rename_i hnil
        exact List.isEmpty_iff.1 hnil
      · cases hok
    · cases h
  · cases h

theorem Holds.other {document : StoredCheckpointDocument}
    (h : Holds json v task (some text) now) (hdocument : json.fromSlice text = .ok document)
    (hother : document.bucketUuid ≠ task.expectedBucketUuid) : now = some text := by
  rcases h with h | ⟨hcheck, -⟩
  · exact h
  · rw [checkExisting, hdocument] at hcheck
    dsimp only at hcheck
    rw [if_pos hother] at hcheck
    cases hcheck

theorem getElem?_ofList_map {vbuckets : List UInt16} (f : UInt16 → β) (h : vbuckets.Nodup)
    (v : UInt16) :
    (Std.ExtTreeMap.ofList (vbuckets.map fun v => (v, f v)) compare)[v]? =
      if v ∈ vbuckets then some (f v) else none := by
  split
  · rename_i hv
    refine Std.ExtTreeMap.getElem?_ofList_of_mem Std.compare_self ?_
      (List.mem_map.2 ⟨v, hv, rfl⟩)
    rw [List.pairwise_map]
    refine h.imp ?_
    intro a b hab heq
    exact hab (Std.compare_eq_iff_eq.1 heq)
  · rename_i hv
    refine Std.ExtTreeMap.getElem?_ofList_of_contains_eq_false ?_
    rw [Bool.eq_false_iff, ne_eq, List.contains_iff_mem, List.map_map]
    simpa using hv

end

end CouchbaseCheckpointStore

def StoreCall.listed : StoreCall → List UInt16
  | .load _ _ => []
  | .save checkpoints => checkpoints.map (·.vbucket)
  | .clear _ vbuckets => vbuckets

/-- The bucket of the documents that a call may replace or remove. -/
def StoreCall.OfBucket (bucketUuid : String) : StoreCall → Prop
  | .load _ _ => False
  | .save checkpoints => ∃ checkpoint ∈ checkpoints, checkpoint.bucketUuid = some bucketUuid
  | .clear expected _ => expected = bucketUuid

/-- The value that a call asks for: the text of the listed checkpoint, or no value. -/
def StoreCall.Requests (json : DocumentJson Text) (v : UInt16) (value : Option Text) :
    StoreCall → Prop
  | .load _ _ => False
  | .save checkpoints => ∃ checkpoint ∈ checkpoints, checkpoint.vbucket = v ∧
      ∃ document, StoredCheckpointDocument.fromCheckpoint checkpoint = .ok document ∧
        value = some (json.toVec document)
  | .clear _ vbuckets => v ∈ vbuckets ∧ value = none

theorem serializeCheckpointBatch_eq_ok (h : serializeCheckpointBatch checkpoints = .ok updates) :
    ∃ bucketUuid, IsBatch bucketUuid checkpoints ∧ updates.Valid ∧
      updates.entries = (StoredDocuments.entries ∅).overwrite bucketUuid checkpoints ∧
      ∀ (v : UInt16) update, updates[v]? = some update →
        ∃ checkpoint ∈ checkpoints, checkpoint.vbucket = v ∧
          StoredCheckpointDocument.fromCheckpoint checkpoint = .ok update := by
  obtain ⟨bucketUuid, -, hbatch, hvalid, hentries, -⟩ :=
    serializeCheckpoints_eq_ok h (by intro v document hget; simp at hget)
  refine ⟨bucketUuid, hbatch, hvalid, hentries, ?_⟩
  intro v update hget
  have hv := congrFun hentries v
  simp only [StoredDocuments.entries, hget, Option.map_some, CheckpointMap.overwrite] at hv
  split at hv
  · rename_i checkpoint hfind
    obtain ⟨huuid, hcheckpoint⟩ := Prod.mk.inj (Option.some.inj hv)
    have hmem := List.mem_of_find?_eq_some hfind
    have hvbucket : checkpoint.vbucket = v := by simpa using List.find?_some hfind
    obtain ⟨hbucket, hvalidate⟩ := hbatch.valid hmem
    refine ⟨checkpoint, hmem, hvbucket, fromCheckpoint_eq_ok.2 ⟨hvalidate, ?_, ?_⟩⟩
    · rw [hbucket, huuid]
    · rw [hvbucket, hcheckpoint]
  · simp at hv

namespace CouchbaseCheckpointStore

section

variable {json : DocumentJson Text} {store : CouchbaseCheckpointStore}

theorem getElem?_clearTasks (h : vbuckets.Nodup) (v : UInt16) :
    (clearTasks bucketUuid vbuckets : BTreeMap UInt16 (WriteTask Text))[v]? =
      if v ∈ vbuckets then some { expectedBucketUuid := bucketUuid, value := none } else none :=
  getElem?_ofList_map _ h v

theorem getElem?_saveTasks (documents : StoredDocuments) (v : UInt16) :
    (saveTasks json documents)[v]? = documents[v]?.map fun document =>
      { expectedBucketUuid := document.bucketUuid, value := some (json.toVec document) } :=
  Std.ExtTreeMap.getElem?_map

/-- What a call leaves behind, whatever its result. -/
structure Keeps (json : DocumentJson Text) (store : CouchbaseCheckpointStore) (c : StoreCall)
    (before after : CheckpointCollection Text) : Prop where
  listed : ∀ v ∈ c.listed, after[store.checkpointKey v]? = before[store.checkpointKey v]? ∨
    c.Requests json v after[store.checkpointKey v]?
  unlisted : ∀ v, v ∉ c.listed → after[store.checkpointKey v]? = before[store.checkpointKey v]?
  other : ∀ (key : String) text document, before[key]? = some text →
    json.fromSlice text = .ok document → ¬ c.OfBucket document.bucketUuid → after[key]? = some text

theorem Keeps.refl (c : StoreCall) (collection : CheckpointCollection Text) :
    Keeps json store c collection collection :=
  ⟨fun _ _ => .inl rfl, fun _ _ => rfl, fun _ _ _ hget _ _ => hget⟩

/-- The writes of a call keep what they should if its tasks are for listed vBuckets, ask for the
requested values and expect the call's bucket. -/
theorem runWrites_keeps {tasks : BTreeMap UInt16 (WriteTask Text)}
    (h : runWrites json store operation before tasks schedule = some (result, after))
    (htasks : ∀ (v : UInt16) task, tasks[v]? = some task →
      v ∈ c.listed ∧ c.Requests json v task.value ∧ c.OfBucket task.expectedBucketUuid) :
    Keeps json store c before after := by
  obtain ⟨hframe, hwrites⟩ := runWrites_eq_some h
  have hholds : ∀ (v : UInt16), after[store.checkpointKey v]? = before[store.checkpointKey v]? ∨
      ∃ task, tasks[v]? = some task ∧ after[store.checkpointKey v]? = task.value := by
    intro v
    cases htask : tasks[v]? with
    | none =>
      refine .inl (hframe _ ?_)
      intro w hw heq
      rw [checkpointKey_inj heq, Std.ExtTreeMap.mem_iff_isSome_getElem?, htask] at hw
      cases hw
    | some task =>
      rcases (hwrites v task htask).1 with hold | ⟨-, hnew⟩
      · exact .inl hold
      · exact .inr ⟨task, rfl, hnew⟩
  refine ⟨?_, ?_, ?_⟩
  · intro v _
    rcases hholds v with hold | ⟨task, htask, hnew⟩
    · exact .inl hold
    · rw [hnew]
      exact .inr (htasks v task htask).2.1
  · intro v hv
    rcases hholds v with hold | ⟨task, htask, -⟩
    · exact hold
    · exact absurd (htasks v task htask).1 hv
  · intro key text document hget hdocument hother
    by_cases hkey : ∀ v ∈ tasks, store.checkpointKey v ≠ key
    · rw [hframe key hkey, hget]
    · simp only [not_forall, not_not] at hkey
      obtain ⟨v, hv, rfl⟩ := hkey
      obtain ⟨task, htask⟩ := Option.isSome_iff_exists.1
        (Std.ExtTreeMap.mem_iff_isSome_getElem?.1 hv)
      have hhold := (hwrites v task htask).1
      rw [hget] at hhold
      refine hhold.other hdocument ?_
      intro heq
      rw [heq] at hother
      exact hother (htasks v task htask).2.2

theorem call_keeps (h : call json store before schedule c = some (result, after)) :
    Keeps json store c before after := by
  cases c with
  | load bucketUuid vbuckets =>
    obtain ⟨loaded, -, h⟩ := Option.map_eq_some_iff.1 h
    cases h
    exact .refl _ _
  | save checkpoints =>
    obtain ⟨⟨saved, collection⟩, hsave, h⟩ := Option.map_eq_some_iff.1 h
    cases h
    rw [save] at hsave
    split at hsave
    · cases hsave
      exact .refl _ _
    · rename_i updates hbatch
      obtain ⟨bucketUuid, hisBatch, -, -, hupdates⟩ := serializeCheckpointBatch_eq_ok hbatch
      refine runWrites_keeps hsave ?_
      intro v task htask
      rw [getElem?_saveTasks] at htask
      obtain ⟨update, hget, rfl⟩ := Option.map_eq_some_iff.1 htask
      obtain ⟨checkpoint, hmem, hvbucket, hdocument⟩ := hupdates v update hget
      exact ⟨List.mem_map.2 ⟨checkpoint, hmem, hvbucket⟩,
        ⟨checkpoint, hmem, hvbucket, update, hdocument, rfl⟩,
        checkpoint, hmem, (fromCheckpoint_eq_ok.1 hdocument).2.1⟩
  | clear bucketUuid vbuckets =>
    obtain ⟨⟨cleared, collection⟩, hclear, h⟩ := Option.map_eq_some_iff.1 h
    cases h
    rw [clear] at hclear
    split at hclear
    · cases hclear
      exact .refl _ _
    · rename_i hvalidate
      refine runWrites_keeps hclear ?_
      intro v task htask
      rw [getElem?_clearTasks (validateVbuckets_eq_ok.1 hvalidate)] at htask
      split at htask
      · rename_i hv
        cases htask
        exact ⟨hv, ⟨hv, rfl⟩, rfl⟩
      · cases htask

end

end CouchbaseCheckpointStore

end RustDcp
