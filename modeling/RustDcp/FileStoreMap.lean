import RustDcp.FileStore
import RustDcp.OrderedMap
import Mathlib.Data.List.Dedup

namespace RustDcp
set_option autoImplicit true

/-- What a checkpoint store is for: a map from vBucket to the bucket UUID and the checkpoint. -/
abbrev CheckpointMap := UInt16 → Option (String × DcpCheckpoint)

namespace CheckpointMap

/-- The listed vBuckets are distinct and those present belong to the bucket. -/
def Owned (map : CheckpointMap) (bucketUuid : String) (vbuckets : List UInt16) : Prop :=
  vbuckets.Nodup ∧ ∀ v ∈ vbuckets, ∀ entry ∈ map v, entry.1 = bucketUuid

/-- Valid checkpoints of one bucket, one a vBucket, none of them over an entry of another bucket. -/
def Accepts (map : CheckpointMap) (bucketUuid : String) (checkpoints : List DcpCheckpoint) : Prop :=
  map.Owned bucketUuid (checkpoints.map (·.vbucket)) ∧
    ∀ checkpoint ∈ checkpoints, checkpoint.bucketUuid = some bucketUuid ∧
      checkpoint.validate = .ok ()

def overwrite (map : CheckpointMap) (bucketUuid : String) (checkpoints : List DcpCheckpoint) :
    CheckpointMap := fun v =>
  match checkpoints.find? fun checkpoint => checkpoint.vbucket = v with
  | some checkpoint => some (bucketUuid, checkpoint)
  | none => map v

def remove (map : CheckpointMap) (vbuckets : List UInt16) : CheckpointMap := fun v =>
  if v ∈ vbuckets then none else map v

inductive Effect (map : CheckpointMap) : StoreCall → Result StoreReply → CheckpointMap → Prop where
  | loaded (howned : map.Owned bucketUuid vbuckets)
      (hloaded : ∀ v, checkpoints[v]? = if v ∈ vbuckets then (map v).map (·.2) else none) :
      Effect map (.load bucketUuid vbuckets) (.ok (.loaded checkpoints)) map
  | loadRejected (error : DcpError) (hother : ¬ map.Owned bucketUuid vbuckets) :
      Effect map (.load bucketUuid vbuckets) (.error error) map
  | saved (haccepts : map.Accepts bucketUuid checkpoints) :
      Effect map (.save checkpoints) (.ok .done) (map.overwrite bucketUuid checkpoints)
  | saveRejected (error : DcpError) (hother : ∀ bucketUuid, ¬ map.Accepts bucketUuid checkpoints) :
      Effect map (.save checkpoints) (.error error) map
  | cleared (howned : map.Owned bucketUuid vbuckets) :
      Effect map (.clear bucketUuid vbuckets) (.ok .done) (map.remove vbuckets)
  | clearRejected (error : DcpError) (hother : ¬ map.Owned bucketUuid vbuckets) :
      Effect map (.clear bucketUuid vbuckets) (.error error) map

inductive Effects : CheckpointMap → List StoreCall → List (Result StoreReply) → CheckpointMap → Prop
    where
  | nil : Effects map [] [] map
  | cons (hcall : Effect map call result map') (hrest : Effects map' calls results map'') :
      Effects map (call :: calls) (result :: results) map''

end CheckpointMap

def StoredDocuments.entries (documents : StoredDocuments) : CheckpointMap := fun v =>
  documents[v]?.map fun document => (document.bucketUuid, document.toCheckpoint v)

def StoredDocuments.Valid (documents : StoredDocuments) : Prop :=
  ∀ (v : UInt16) document, documents[v]? = some document →
    (document.toCheckpoint v).validate = .ok ()

/-- The file is absent and the map empty, or the file has the text of the map's documents. -/
def FileCheckpointStore.Represents (json : CheckpointJson Text) (file : Option Text)
    (map : CheckpointMap) : Prop :=
  (file = none ∧ map = StoredDocuments.entries ∅) ∨
    ∃ documents : StoredDocuments, file = some (json.toVec documents) ∧ documents.Valid ∧
      map = documents.entries

theorem validateVbuckets_eq_ok : validateVbuckets vbuckets = .ok () ↔ vbuckets.Nodup := by
  have hperm : (Std.ExtTreeSet.ofList vbuckets compare).toList.Perm vbuckets.dedup := by
    rw [List.perm_ext_iff_of_nodup _ vbuckets.nodup_dedup]
    · intro v
      rw [Std.ExtTreeSet.mem_toList, Std.ExtTreeSet.mem_ofList, List.contains_iff_mem,
        List.mem_dedup]
    · exact OrderedMap.nodup_toList _
  have hsize : (Std.ExtTreeSet.ofList vbuckets compare).size = vbuckets.dedup.length := by
    rw [← Std.ExtTreeSet.length_toList, hperm.length_eq]
  simp only [validateVbuckets, hsize]
  constructor
  · intro h
    split at h
    · cases h
    · rename_i hlength
      rw [← vbuckets.dedup_sublist.eq_of_length (not_not.1 hlength)]
      exact vbuckets.nodup_dedup
  · intro h
    rw [h.dedup, if_neg (by simp)]

theorem validateVbuckets_error (h : ¬ vbuckets.Nodup) :
    ∃ error, validateVbuckets vbuckets = .error error := by
  cases hresult : validateVbuckets vbuckets with
  | error error => exact ⟨error, rfl⟩
  | ok result => exact absurd (validateVbuckets_eq_ok.1 hresult) h

theorem fromCheckpoint_eq_ok {checkpoint : DcpCheckpoint} :
    StoredCheckpointDocument.fromCheckpoint checkpoint = .ok document ↔
      checkpoint.validate = .ok () ∧ checkpoint.bucketUuid = some document.bucketUuid ∧
        document.toCheckpoint checkpoint.vbucket = checkpoint := by
  simp only [StoredCheckpointDocument.fromCheckpoint, bind_eq_ok]
  obtain ⟨bucketUuid, vbucket, vbucketUuid, seqno, snapshotStart, snapshotEnd, manifestUid⟩ :=
    checkpoint
  obtain ⟨⟨⟨start, stop⟩, uuid, position⟩, bucket, manifest⟩ := document
  cases bucketUuid with
  | none => simp
  | some bucketUuid =>
    simp [StoredCheckpointDocument.toCheckpoint]
    grind

theorem serializeCheckpoints_cons {documents : StoredDocuments} :
    serializeCheckpoints (checkpoint :: checkpoints) documents bucket = .ok updates ↔
      ∃ document : StoredCheckpointDocument, (∀ expected ∈ bucket, expected = document.bucketUuid) ∧
        StoredCheckpointDocument.fromCheckpoint checkpoint = .ok document ∧
        checkpoint.vbucket ∉ documents ∧
        serializeCheckpoints checkpoints (documents.insert checkpoint.vbucket document)
          (some document.bucketUuid) = .ok updates := by
  rw [serializeCheckpoints]
  constructor
  · intro h
    split at h
    · cases h
    rename_i observed hobserved
    split at h
    · cases h
    rename_i hfilter
    split at h
    · cases h
    rename_i document hdocument
    split at h
    · cases h
    rename_i hnew
    have hbucket := (fromCheckpoint_eq_ok.1 hdocument).2.1
    cases hobserved.symm.trans hbucket
    refine ⟨document, ?_, hdocument, hnew, h⟩
    intro expected hexpected
    rw [Option.filter_eq_none_iff] at hfilter
    simpa using hfilter expected hexpected
  · rintro ⟨document, hbucket, hdocument, hnew, h⟩
    have hobserved := (fromCheckpoint_eq_ok.1 hdocument).2.1
    have hfilter : bucket.filter (· ≠ document.bucketUuid) = none := by
      rw [Option.filter_eq_none_iff]
      intro expected hexpected
      simpa using hbucket expected hexpected
    rw [hobserved]
    dsimp only
    rw [hfilter, hdocument]
    dsimp only
    rw [if_neg hnew, h]

namespace CheckpointMap

theorem overwrite_cons (map : CheckpointMap) (bucketUuid : String)
    (h : checkpoint.vbucket ∉ checkpoints.map (·.vbucket)) :
    (map.overwrite bucketUuid [checkpoint]).overwrite bucketUuid checkpoints =
      map.overwrite bucketUuid (checkpoint :: checkpoints) := by
  funext v
  by_cases hv : checkpoint.vbucket = v
  · have hnone : (checkpoints.find? fun c => c.vbucket = v) = none := by
      rw [List.find?_eq_none]
      intro c hc heq
      refine h (List.mem_map.2 ⟨c, hc, ?_⟩)
      rw [hv, of_decide_eq_true heq]
    simp [overwrite, hnone, hv]
  · simp [overwrite, hv]

theorem overwrite_apply {updates : StoredDocuments}
    (h : updates.entries = (StoredDocuments.entries ∅).overwrite bucketUuid checkpoints)
    (map : CheckpointMap) (v : UInt16) :
    map.overwrite bucketUuid checkpoints v = (updates.entries v).or (map v) := by
  have hv := congrFun h v
  simp only [overwrite] at hv ⊢
  rw [hv]
  cases checkpoints.find? fun checkpoint => checkpoint.vbucket = v with
  | some checkpoint => rfl
  | none => simp [StoredDocuments.entries]

end CheckpointMap

theorem entries_insert (documents : StoredDocuments) {checkpoint : DcpCheckpoint}
    (h : StoredCheckpointDocument.fromCheckpoint checkpoint = .ok document) :
    StoredDocuments.entries (documents.insert checkpoint.vbucket document) =
      documents.entries.overwrite document.bucketUuid [checkpoint] := by
  obtain ⟨-, -, hcheckpoint⟩ := fromCheckpoint_eq_ok.1 h
  funext v
  simp only [StoredDocuments.entries, CheckpointMap.overwrite, Std.ExtTreeMap.getElem?_insert,
    Std.compare_eq_iff_eq]
  by_cases hv : checkpoint.vbucket = v
  · subst hv
    simp [hcheckpoint]
  · simp [hv]

theorem valid_insert {documents : StoredDocuments} (hvalid : documents.Valid)
    {checkpoint : DcpCheckpoint}
    (h : StoredCheckpointDocument.fromCheckpoint checkpoint = .ok document) :
    StoredDocuments.Valid (documents.insert checkpoint.vbucket document) := by
  obtain ⟨hvalidate, -, hcheckpoint⟩ := fromCheckpoint_eq_ok.1 h
  intro v other hother
  simp only [Std.ExtTreeMap.getElem?_insert, Std.compare_eq_iff_eq] at hother
  split at hother
  · rename_i hv
    cases hother
    rw [← hv, hcheckpoint]
    exact hvalidate
  · exact hvalid v other hother

/-- A batch that is accepted: one bucket, distinct vBuckets, valid checkpoints. -/
structure IsBatch (bucketUuid : String) (checkpoints : List DcpCheckpoint) : Prop where
  distinct : (checkpoints.map (·.vbucket)).Nodup
  valid {checkpoint : DcpCheckpoint} (h : checkpoint ∈ checkpoints) :
    checkpoint.bucketUuid = some bucketUuid ∧ checkpoint.validate = .ok ()

theorem serializeCheckpoints_eq_ok {documents : StoredDocuments}
    (h : serializeCheckpoints checkpoints documents bucket = .ok updates)
    (hvalid : documents.Valid) :
    ∃ bucketUuid, (∀ expected ∈ bucket, expected = bucketUuid) ∧
      IsBatch bucketUuid checkpoints ∧ updates.Valid ∧
      updates.entries = documents.entries.overwrite bucketUuid checkpoints ∧
      ∀ v ∈ checkpoints.map (·.vbucket), v ∉ documents := by
  induction checkpoints generalizing documents bucket with
  | nil =>
    cases h
    refine ⟨bucket.getD "", ?_, ⟨List.nodup_nil, by simp⟩, hvalid, rfl, by simp⟩
    intro expected hexpected
    rw [Option.mem_def.1 hexpected]
    rfl
  | cons checkpoint checkpoints ih =>
    obtain ⟨document, hbucket, hdocument, hnew, h⟩ := serializeCheckpoints_cons.1 h
    obtain ⟨bucketUuid, hsame, hbatch, hupdates, hentries, hfresh⟩ :=
      ih h (valid_insert hvalid hdocument)
    cases hsame _ rfl
    obtain ⟨hvalidate, huuid, -⟩ := fromCheckpoint_eq_ok.1 hdocument
    have hnotin : checkpoint.vbucket ∉ checkpoints.map (·.vbucket) := by
      intro hin
      exact hfresh _ hin Std.ExtTreeMap.mem_insert_self
    refine ⟨document.bucketUuid, hbucket, ⟨?_, ?_⟩, hupdates, ?_, ?_⟩
    · exact List.nodup_cons.2 ⟨hnotin, hbatch.distinct⟩
    · intro other hother
      rcases List.mem_cons.1 hother with rfl | hother
      · exact ⟨huuid, hvalidate⟩
      · exact hbatch.valid hother
    · rw [hentries, entries_insert documents hdocument, CheckpointMap.overwrite_cons _ _ hnotin]
    · intro v hv
      rcases List.mem_cons.1 hv with rfl | hv
      · exact hnew
      · intro hin
        exact hfresh v hv (Std.ExtTreeMap.mem_insert.2 (.inr hin))

theorem serializeCheckpoints_isOk {documents : StoredDocuments}
    (hbatch : IsBatch bucketUuid checkpoints)
    (hbucket : ∀ expected ∈ bucket, expected = bucketUuid)
    (hfresh : ∀ v ∈ checkpoints.map (·.vbucket), v ∉ documents) :
    ∃ updates, serializeCheckpoints checkpoints documents bucket = .ok updates := by
  induction checkpoints generalizing documents bucket with
  | nil => exact ⟨documents, rfl⟩
  | cons checkpoint checkpoints ih =>
    obtain ⟨hnotin, hdistinct⟩ := List.nodup_cons.1 hbatch.distinct
    obtain ⟨huuid, hvalidate⟩ := hbatch.valid List.mem_cons_self
    have hdocument : ∃ document, StoredCheckpointDocument.fromCheckpoint checkpoint = .ok document ∧
        document.bucketUuid = bucketUuid := by
      simp only [StoredCheckpointDocument.fromCheckpoint, hvalidate, huuid]
      exact ⟨_, rfl, rfl⟩
    obtain ⟨document, hdocument, rfl⟩ := hdocument
    have hfresh' : ∀ v ∈ checkpoints.map (·.vbucket),
        v ∉ documents.insert checkpoint.vbucket document := by
      intro v hv hin
      rcases Std.ExtTreeMap.mem_insert.1 hin with heq | hin
      · rw [Std.compare_eq_iff_eq] at heq
        subst heq
        exact hnotin hv
      · exact hfresh v (List.mem_cons_of_mem _ hv) hin
    have hbatch' : IsBatch document.bucketUuid checkpoints :=
      ⟨hdistinct, fun h => hbatch.valid (List.mem_cons_of_mem _ h)⟩
    have hsame : ∀ expected ∈ some document.bucketUuid, expected = document.bucketUuid := by simp
    obtain ⟨updates, hupdates⟩ := ih hbatch' hsame hfresh'
    exact ⟨updates, serializeCheckpoints_cons.2 ⟨document, hbucket, hdocument,
      hfresh _ List.mem_cons_self, hupdates⟩⟩

theorem intoCheckpoint_eq_ok {document : StoredCheckpointDocument}
    (hvalid : (document.toCheckpoint v).validate = .ok ()) (bucketUuid : String) :
    document.intoCheckpoint v bucketUuid =
      if document.bucketUuid = bucketUuid then .ok (document.toCheckpoint v)
      else .error (bucketMismatch v bucketUuid document.bucketUuid) := by
  by_cases h : document.bucketUuid = bucketUuid
  · rw [StoredCheckpointDocument.intoCheckpoint, if_neg (not_not.2 h), if_pos h, hvalid]
    rfl
  · rw [StoredCheckpointDocument.intoCheckpoint, if_pos h, if_neg h]

namespace FileCheckpointStore

theorem intoCheckpoints_eq_ok {pairs : List (UInt16 × StoredCheckpointDocument)}
    {bucketUuid : String}
    (hvalid : ∀ pair ∈ pairs, (pair.2.toCheckpoint pair.1).validate = .ok ())
    (hbucket : ∀ pair ∈ pairs, pair.2.bucketUuid = bucketUuid)
    (hdistinct : pairs.Pairwise fun a b => a.1 ≠ b.1) :
    ∃ checkpoints, intoCheckpoints bucketUuid pairs = .ok checkpoints ∧
      ∀ (v : UInt16) checkpoint, checkpoints[v]? = some checkpoint ↔
        ∃ document, (v, document) ∈ pairs ∧ document.toCheckpoint v = checkpoint := by
  induction pairs with
  | nil => exact ⟨∅, rfl, by simp⟩
  | cons pair pairs ih =>
    obtain ⟨vbucket, document⟩ := pair
    obtain ⟨hnotin, hrest⟩ := List.pairwise_cons.1 hdistinct
    obtain ⟨hvalid, hvalids⟩ := List.forall_mem_cons.1 hvalid
    obtain ⟨hbucket, hbuckets⟩ := List.forall_mem_cons.1 hbucket
    obtain ⟨checkpoints, hok, hmem⟩ := ih hvalids hbuckets hrest
    refine ⟨checkpoints.insert vbucket (document.toCheckpoint vbucket), ?_, ?_⟩
    · rw [intoCheckpoints, intoCheckpoint_eq_ok hvalid, if_pos hbucket, hok]
      rfl
    · intro v checkpoint
      simp only [Std.ExtTreeMap.getElem?_insert, Std.compare_eq_iff_eq]
      by_cases hv : vbucket = v
      · subst hv
        rw [if_pos rfl, Option.some_inj]
        constructor
        · intro heq
          exact ⟨document, List.mem_cons_self, heq⟩
        · rintro ⟨other, hother, heq⟩
          rcases List.mem_cons.1 hother with hother | hother
          · cases hother
            exact heq
          · exact absurd rfl (hnotin (vbucket, other) hother)
      · rw [if_neg hv, hmem]
        simp [Ne.symm hv]

theorem intoCheckpoints_error {pairs : List (UInt16 × StoredCheckpointDocument)}
    (hvalid : ∀ pair ∈ pairs, (pair.2.toCheckpoint pair.1).validate = .ok ())
    {bucketUuid : String} (hother : ∃ pair ∈ pairs, pair.2.bucketUuid ≠ bucketUuid) :
    ∃ error, intoCheckpoints bucketUuid pairs = .error error := by
  induction pairs with
  | nil =>
    obtain ⟨pair, hpair, -⟩ := hother
    cases hpair
  | cons pair pairs ih =>
    obtain ⟨vbucket, document⟩ := pair
    obtain ⟨hvalid, hvalids⟩ := List.forall_mem_cons.1 hvalid
    rw [intoCheckpoints, intoCheckpoint_eq_ok hvalid]
    by_cases hbucket : document.bucketUuid = bucketUuid
    · rw [if_pos hbucket]
      obtain ⟨error, herror⟩ := ih hvalids <| by
        obtain ⟨pair, hpair, hne⟩ := hother
        rcases List.mem_cons.1 hpair with rfl | hpair
        · exact absurd hbucket hne
        · exact ⟨pair, hpair, hne⟩
      dsimp only
      rw [herror]
      exact ⟨error, rfl⟩
    · rw [if_neg hbucket]
      exact ⟨_, rfl⟩

variable {json : CheckpointJson Text}

theorem Represents.read (h : Represents json file map) (path : String) :
    ∃ read : Option StoredDocuments, readFileDocuments json path file = .ok read ∧
      (read = none → file = none) ∧ StoredDocuments.Valid (read.getD ∅) ∧
      map = StoredDocuments.entries (read.getD ∅) := by
  rcases h with ⟨rfl, hmap⟩ | ⟨documents, rfl, hvalid, hmap⟩
  · refine ⟨none, rfl, fun _ => rfl, ?_, hmap⟩
    intro v document h
    simp at h
  · refine ⟨some documents, ?_, by simp, hvalid, hmap⟩
    rw [readFileDocuments, json.fromSlice_toVec]

theorem owned_entries {documents : StoredDocuments} :
    documents.entries.Owned bucketUuid vbuckets ↔ vbuckets.Nodup ∧
      ∀ v ∈ vbuckets, ∀ document, documents[v]? = some document →
        document.bucketUuid = bucketUuid := by
  simp [CheckpointMap.Owned, StoredDocuments.entries]

theorem load_effect (h : Represents json file map) (path : String) :
    map.Effect (.load bucketUuid vbuckets)
      (.loaded <$> load json path file bucketUuid vbuckets) map := by
  obtain ⟨read, hread, -, hvalid, rfl⟩ := h.read path
  have hvalids : ∀ pair ∈ (read.getD ∅).toList.filter fun pair => pair.1 ∈ vbuckets,
      (pair.2.toCheckpoint pair.1).validate = .ok () := by
    intro pair hpair
    exact hvalid _ _ (Std.ExtTreeMap.mem_toList_iff_getElem?_eq_some.1
      (List.mem_of_mem_filter hpair))
  have hmem : ∀ v document,
      (v, document) ∈ (read.getD ∅).toList.filter (fun pair => pair.1 ∈ vbuckets) ↔
      v ∈ vbuckets ∧ (read.getD ∅)[v]? = some document := by
    intro v document
    rw [List.mem_filter, Std.ExtTreeMap.mem_toList_iff_getElem?_eq_some,
      decide_eq_true_eq, and_comm]
  by_cases hdistinct : vbuckets.Nodup
  · have hload : load json path file bucketUuid vbuckets = intoCheckpoints bucketUuid
        ((read.getD ∅).toList.filter fun pair => pair.1 ∈ vbuckets) := by
      rw [load, validateVbuckets_eq_ok.2 hdistinct, hread]
      rfl
    rw [hload]
    by_cases howned : ∀ v ∈ vbuckets, ∀ document, (read.getD ∅)[v]? = some document →
        document.bucketUuid = bucketUuid
    · have hbucket : ∀ pair ∈ (read.getD ∅).toList.filter fun pair => pair.1 ∈ vbuckets,
          pair.2.bucketUuid = bucketUuid := by
        intro pair hpair
        obtain ⟨hin, hget⟩ := (hmem _ _).1 hpair
        exact howned _ hin _ hget
      have hkeys : ((read.getD ∅).toList.filter fun pair => pair.1 ∈ vbuckets).Pairwise
          fun a b => a.1 ≠ b.1 := (OrderedMap.distinct_toList _).filter _
      obtain ⟨checkpoints, hok, hcheckpoints⟩ := intoCheckpoints_eq_ok hvalids hbucket hkeys
      rw [hok]
      refine .loaded (owned_entries.2 ⟨hdistinct, howned⟩) ?_
      intro v
      refine Option.ext fun checkpoint => ?_
      rw [hcheckpoints]
      simp only [hmem]
      by_cases hv : v ∈ vbuckets
      · simp [hv, StoredDocuments.entries]
      · simp [hv]
    · have hother : ∃ pair ∈ (read.getD ∅).toList.filter fun pair => pair.1 ∈ vbuckets,
          pair.2.bucketUuid ≠ bucketUuid := by
        simp only [not_forall] at howned
        obtain ⟨v, hv, document, hget, hne⟩ := howned
        exact ⟨(v, document), (hmem v document).2 ⟨hv, hget⟩, hne⟩
      obtain ⟨error, herror⟩ := intoCheckpoints_error hvalids hother
      rw [herror]
      exact .loadRejected error fun h => howned (owned_entries.1 h).2
  · obtain ⟨error, herror⟩ := validateVbuckets_error hdistinct
    rw [load, herror]
    exact .loadRejected error fun h => hdistinct h.1

theorem checkBuckets_eq_ok {documents : StoredDocuments} :
    checkBuckets documents updates = .ok () ↔ ∀ update ∈ updates,
      ∀ existing, documents[update.1]? = some existing →
        existing.bucketUuid = update.2.bucketUuid := by
  induction updates with
  | nil => simp [checkBuckets]
  | cons update updates ih =>
    obtain ⟨vbucket, update⟩ := update
    rw [checkBuckets, List.forall_mem_cons]
    cases documents[vbucket]? with
    | none => simp [ih]
    | some existing =>
      by_cases hbucket : existing.bucketUuid = update.bucketUuid
      · simp [ih, hbucket]
      · simp [hbucket]

theorem getElem?_extend (documents updates : StoredDocuments) (v : UInt16) :
    (documents.insertMany updates.toList)[v]? = updates[v]?.or documents[v]? := by
  cases hget : updates[v]? with
  | some update =>
    exact Std.ExtTreeMap.getElem?_insertMany_list_of_mem Std.compare_self
      Std.ExtTreeMap.distinct_keys_toList (Std.ExtTreeMap.mem_toList_iff_getElem?_eq_some.2 hget)
  | none =>
    refine Std.ExtTreeMap.getElem?_insertMany_list_of_contains_eq_false ?_
    rw [Bool.eq_false_iff, ne_eq, List.contains_iff_mem]
    intro hmem
    obtain ⟨⟨v, update⟩, hupdate, rfl⟩ := List.mem_map.1 hmem
    rw [Std.ExtTreeMap.mem_toList_iff_getElem?_eq_some] at hupdate
    cases hget.symm.trans hupdate

theorem removeDocuments_cons (documents : StoredDocuments) :
    (∃ error, removeDocuments bucketUuid (vbucket :: vbuckets) documents = .error error ∧
      ∃ document, documents[vbucket]? = some document ∧ document.bucketUuid ≠ bucketUuid) ∨
    removeDocuments bucketUuid (vbucket :: vbuckets) documents =
        removeDocuments bucketUuid vbuckets (documents.erase vbucket) ∧
      ∀ document, documents[vbucket]? = some document → document.bucketUuid = bucketUuid := by
  rw [removeDocuments]
  cases hget : documents[vbucket]? with
  | none => exact .inr ⟨rfl, by simp⟩
  | some document =>
    by_cases hbucket : document.bucketUuid = bucketUuid
    · refine .inr ⟨by simp [Option.filter, hbucket], ?_⟩
      intro other hother
      cases hother
      exact hbucket
    · exact .inl ⟨bucketMismatch vbucket bucketUuid document.bucketUuid,
        by simp [Option.filter, hbucket], document, rfl, hbucket⟩

theorem getElem?_erase_of_ne {documents : StoredDocuments} (h : vbucket ≠ v) :
    (documents.erase vbucket)[v]? = documents[v]? := by
  simp only [Std.ExtTreeMap.getElem?_erase, Std.compare_eq_iff_eq]
  exact if_neg h

theorem removeDocuments_eq_ok {documents : StoredDocuments} (hdistinct : vbuckets.Nodup)
    (hbucket : ∀ v ∈ vbuckets, ∀ document, documents[v]? = some document →
      document.bucketUuid = bucketUuid) :
    ∃ removed : StoredDocuments, removeDocuments bucketUuid vbuckets documents = .ok removed ∧
      ∀ v : UInt16, removed[v]? = if v ∈ vbuckets then none else documents[v]? := by
  induction vbuckets generalizing documents with
  | nil => exact ⟨documents, rfl, by simp⟩
  | cons vbucket vbuckets ih =>
    obtain ⟨hnotin, hrest⟩ := List.nodup_cons.1 hdistinct
    obtain ⟨hhead, htail⟩ := List.forall_mem_cons.1 hbucket
    rcases removeDocuments_cons documents with ⟨error, -, document, hget, hne⟩ | ⟨heq, -⟩
    · exact absurd (hhead document hget) hne
    have htail' : ∀ v ∈ vbuckets, ∀ document, (documents.erase vbucket)[v]? = some document →
        document.bucketUuid = bucketUuid := by
      intro v hv document hget
      rw [getElem?_erase_of_ne (ne_of_mem_of_not_mem hv hnotin).symm] at hget
      exact htail v hv document hget
    obtain ⟨removed, hok, hremoved⟩ := ih hrest htail'
    refine ⟨removed, heq.trans hok, fun v => ?_⟩
    rw [hremoved]
    by_cases hv : vbucket = v
    · subst hv
      simp
    · rw [getElem?_erase_of_ne hv]
      simp [Ne.symm hv]

theorem removeDocuments_error {documents : StoredDocuments} (hdistinct : vbuckets.Nodup)
    (hother : ∃ v ∈ vbuckets, ∃ document, documents[v]? = some document ∧
      document.bucketUuid ≠ bucketUuid) :
    ∃ error, removeDocuments bucketUuid vbuckets documents = .error error := by
  induction vbuckets generalizing documents with
  | nil =>
    obtain ⟨v, hv, -⟩ := hother
    cases hv
  | cons vbucket vbuckets ih =>
    obtain ⟨hnotin, hrest⟩ := List.nodup_cons.1 hdistinct
    rcases removeDocuments_cons documents with ⟨error, herror, -⟩ | ⟨heq, hsame⟩
    · exact ⟨error, herror⟩
    obtain ⟨v, hv, document, hget, hne⟩ := hother
    rcases List.mem_cons.1 hv with rfl | hv
    · exact absurd (hsame document hget) hne
    rw [heq]
    refine ih hrest ⟨v, hv, document, ?_, hne⟩
    rw [getElem?_erase_of_ne (ne_of_mem_of_not_mem hv hnotin).symm]
    exact hget

theorem entries_remove {documents removed : StoredDocuments}
    (h : ∀ v : UInt16, removed[v]? = if v ∈ vbuckets then none else documents[v]?) :
    removed.entries = documents.entries.remove vbuckets := by
  funext v
  rw [StoredDocuments.entries, CheckpointMap.remove, h]
  split <;> rfl

theorem valid_remove {documents removed : StoredDocuments} {vbuckets : List UInt16}
    (hvalid : documents.Valid)
    (h : ∀ v : UInt16, removed[v]? = if v ∈ vbuckets then none else documents[v]?) :
    removed.Valid := by
  intro v document hget
  rw [h] at hget
  split at hget
  · cases hget
  · exact hvalid v document hget

theorem clear_effect (h : Represents json file map) (path : String) :
    ∃ map', Represents json (clear json path file bucketUuid vbuckets).2 map' ∧
      map.Effect (.clear bucketUuid vbuckets)
        ((fun _ => .done) <$> (clear json path file bucketUuid vbuckets).1) map' := by
  obtain ⟨read, hread, hnone, hvalid, rfl⟩ := h.read path
  by_cases hdistinct : vbuckets.Nodup
  rotate_left
  · obtain ⟨error, herror⟩ := validateVbuckets_error hdistinct
    have hclear : clear json path file bucketUuid vbuckets = (.error error, file) := by
      simp [clear, herror]
    rw [hclear]
    exact ⟨_, h, .clearRejected error fun h => hdistinct h.1⟩
  have hvalidate := validateVbuckets_eq_ok.2 hdistinct
  by_cases hempty : vbuckets.isEmpty
  · have hclear : clear json path file bucketUuid vbuckets = (.ok (), file) := by
      simp [clear, hvalidate, hempty]
    cases List.isEmpty_iff.1 hempty
    rw [hclear]
    exact ⟨_, h, .cleared ⟨hdistinct, by simp⟩⟩
  rw [Bool.not_eq_true] at hempty
  cases read with
  | none =>
    have hclear : clear json path file bucketUuid vbuckets = (.ok (), file) := by
      simp [clear, hvalidate, hempty, hread]
    have hremove : (StoredDocuments.entries ∅).remove vbuckets = StoredDocuments.entries ∅ :=
      (entries_remove (by simp)).symm
    rw [hclear]
    refine ⟨(StoredDocuments.entries ∅).remove vbuckets, ?_,
      .cleared (owned_entries.2 ⟨hdistinct, by simp⟩)⟩
    rw [hremove]
    exact h
  | some documents =>
    by_cases howned : ∀ v ∈ vbuckets, ∀ document, documents[v]? = some document →
        document.bucketUuid = bucketUuid
    · obtain ⟨removed, hok, hremoved⟩ := removeDocuments_eq_ok hdistinct howned
      have hclear : clear json path file bucketUuid vbuckets =
          (.ok (), if removed.isEmpty then none else some (json.toVec removed)) := by
        simp only [clear, hvalidate, hempty, Bool.false_eq_true, if_false, hread, hok]
        split <;> rfl
      rw [hclear]
      refine ⟨documents.entries.remove vbuckets, ?_,
        .cleared (owned_entries.2 ⟨hdistinct, howned⟩)⟩
      by_cases hgone : removed.isEmpty
      · refine .inl ⟨by rw [if_pos hgone], ?_⟩
        rw [← entries_remove hremoved, Std.ExtTreeMap.isEmpty_iff.1 hgone]
      · exact .inr ⟨removed, by rw [if_neg hgone], valid_remove hvalid hremoved,
          (entries_remove hremoved).symm⟩
    · have hother := howned
      simp only [not_forall] at hother
      obtain ⟨v, hv, document, hget, hne⟩ := hother
      obtain ⟨error, herror⟩ := removeDocuments_error hdistinct ⟨v, hv, document, hget, hne⟩
      have hclear : clear json path file bucketUuid vbuckets = (.error error, file) := by
        simp [clear, hvalidate, hempty, hread, herror]
      rw [hclear]
      exact ⟨_, h, .clearRejected error fun h => howned (owned_entries.1 h).2⟩

theorem batch_documents {updates : StoredDocuments}
    (h : updates.entries = (StoredDocuments.entries ∅).overwrite bucketUuid checkpoints) :
    (∀ (v : UInt16) update, updates[v]? = some update →
      update.bucketUuid = bucketUuid ∧ v ∈ checkpoints.map (·.vbucket)) ∧
    ∀ v ∈ checkpoints.map (·.vbucket), ∃ update, updates[v]? = some update := by
  constructor
  · intro v update hget
    have hv := congrFun h v
    simp only [StoredDocuments.entries, hget, Option.map_some, CheckpointMap.overwrite] at hv
    split at hv
    · rename_i checkpoint hfind
      have hvbucket : checkpoint.vbucket = v := by simpa using List.find?_some hfind
      exact ⟨(Prod.mk.inj (Option.some.inj hv)).1,
        List.mem_map.2 ⟨checkpoint, List.mem_of_find?_eq_some hfind, hvbucket⟩⟩
    · simp at hv
  · intro v hv
    obtain ⟨checkpoint, hcheckpoint, hvbucket⟩ := List.mem_map.1 hv
    have hsome : (checkpoints.find? fun checkpoint => checkpoint.vbucket = v).isSome := by
      rw [List.find?_isSome]
      exact ⟨checkpoint, hcheckpoint, decide_eq_true hvbucket⟩
    obtain ⟨found, hfound⟩ := Option.isSome_iff_exists.1 hsome
    have hentry := congrFun h v
    simp only [StoredDocuments.entries, CheckpointMap.overwrite, hfound] at hentry
    cases hget : updates[v]? with
    | none =>
      rw [hget] at hentry
      cases hentry
    | some update => exact ⟨update, rfl⟩

theorem entries_extend {documents updates : StoredDocuments}
    (h : updates.entries = (StoredDocuments.entries ∅).overwrite bucketUuid checkpoints) :
    StoredDocuments.entries (documents.insertMany updates.toList) =
      documents.entries.overwrite bucketUuid checkpoints := by
  funext v
  rw [CheckpointMap.overwrite_apply h]
  simp only [StoredDocuments.entries, getElem?_extend]
  cases updates[v]? with
  | none => rfl
  | some update => rfl

theorem valid_extend {documents updates : StoredDocuments} (hvalid : documents.Valid)
    (hupdates : updates.Valid) :
    StoredDocuments.Valid (documents.insertMany updates.toList) := by
  intro v document hget
  rw [getElem?_extend] at hget
  cases hupdate : updates[v]? with
  | some update =>
    rw [hupdate] at hget
    cases hget
    exact hupdates v _ hupdate
  | none =>
    rw [hupdate] at hget
    exact hvalid v document hget

theorem save_effect (h : Represents json file map) (path : String) :
    ∃ map', Represents json (save json path file checkpoints).2 map' ∧
      map.Effect (.save checkpoints)
        ((fun _ => .done) <$> (save json path file checkpoints).1) map' := by
  obtain ⟨read, hread, -, hvalid, rfl⟩ := h.read path
  cases hbatch : serializeCheckpointBatch checkpoints with
  | error error =>
    have hsave : save json path file checkpoints = (.error error, file) := by
      simp [save, hbatch]
    rw [hsave]
    refine ⟨_, h, .saveRejected error ?_⟩
    rintro bucketUuid ⟨⟨hdistinct, -⟩, hcheckpoints⟩
    have hok : ∃ updates, serializeCheckpointBatch checkpoints = .ok updates :=
      serializeCheckpoints_isOk ⟨hdistinct, hcheckpoints _⟩ (by simp) (by simp)
    obtain ⟨updates, hok⟩ := hok
    cases hbatch.symm.trans hok
  | ok updates =>
    obtain ⟨bucketUuid, -, hisBatch, hupdates, hentries, -⟩ :=
      serializeCheckpoints_eq_ok hbatch (by intro v document hget; simp at hget)
    obtain ⟨hbuckets, hlisted⟩ := batch_documents hentries
    by_cases hempty : updates.isEmpty
    · have hsave : save json path file checkpoints = (.ok (), file) := by
        simp [save, hbatch, hempty]
      have hnil : checkpoints = [] := by
        rw [List.eq_nil_iff_forall_not_mem]
        intro checkpoint hcheckpoint
        obtain ⟨update, hget⟩ := hlisted _ (List.mem_map.2 ⟨checkpoint, hcheckpoint, rfl⟩)
        rw [Std.ExtTreeMap.isEmpty_iff.1 hempty] at hget
        simp at hget
      subst hnil
      rw [hsave]
      have haccepts : (StoredDocuments.entries (read.getD ∅)).Accepts bucketUuid [] :=
        ⟨⟨List.nodup_nil, by simp⟩, by simp⟩
      exact ⟨_, h, .saved haccepts⟩
    rw [Bool.not_eq_true] at hempty
    cases hcheck : checkBuckets (read.getD ∅) updates.toList with
    | ok result =>
      have hsave : save json path file checkpoints =
          (.ok (), some (json.toVec ((read.getD ∅).insertMany updates.toList))) := by
        simp [save, hbatch, hempty, hread, hcheck]
      rw [hsave]
      refine ⟨_, .inr ⟨_, rfl, valid_extend hvalid hupdates, (entries_extend hentries).symm⟩,
        .saved ⟨owned_entries.2 ⟨hisBatch.distinct, ?_⟩, fun _ => hisBatch.valid⟩⟩
      intro v hv document hget
      obtain ⟨update, hupdate⟩ := hlisted v hv
      rw [checkBuckets_eq_ok.1 hcheck _ (Std.ExtTreeMap.mem_toList_iff_getElem?_eq_some.2 hupdate)
        document hget]
      exact (hbuckets v update hupdate).1
    | error error =>
      have hsave : save json path file checkpoints = (.error error, file) := by
        simp [save, hbatch, hempty, hread, hcheck]
      rw [hsave]
      refine ⟨_, h, .saveRejected error ?_⟩
      rintro bucketUuid' ⟨howned, hcheckpoints⟩
      have hok : checkBuckets (read.getD ∅) updates.toList = .ok () := by
        rw [checkBuckets_eq_ok]
        intro update hupdate existing hget
        rw [Std.ExtTreeMap.mem_toList_iff_getElem?_eq_some] at hupdate
        obtain ⟨hbucket, hlistedHere⟩ := hbuckets _ _ hupdate
        obtain ⟨checkpoint, hcheckpoint, -⟩ := List.mem_map.1 hlistedHere
        have hsame := (hcheckpoints checkpoint hcheckpoint).1.symm.trans
          (hisBatch.valid hcheckpoint).1
        rw [hbucket, (owned_entries.1 howned).2 _ hlistedHere existing hget]
        exact Option.some.inj hsame
      cases hcheck.symm.trans hok

theorem call_effect (h : Represents json file map) (path : String) (c : StoreCall) :
    ∃ map', Represents json (call json path file c).2 map' ∧
      map.Effect c (call json path file c).1 map' := by
  cases c with
  | load bucketUuid vbuckets => exact ⟨map, h, load_effect h path⟩
  | save checkpoints => exact save_effect h path
  | clear bucketUuid vbuckets => exact clear_effect h path

/-- Over every sequence of calls the file store is a checkpoint map. -/
theorem file_store_refines_map (json : CheckpointJson Text) (path : String)
    (h : Represents json file map) (cs : List StoreCall) :
    ∃ map', Represents json (calls json path file cs).2 map' ∧
      map.Effects cs (calls json path file cs).1 map' := by
  induction cs generalizing file map with
  | nil => exact ⟨map, h, .nil⟩
  | cons c rest ih =>
    obtain ⟨map₁, hrepresents, heffect⟩ := call_effect h path c
    obtain ⟨map₂, hrepresents', heffects⟩ := ih hrepresents
    exact ⟨map₂, hrepresents', .cons heffect heffects⟩

def sampleJson : CheckpointJson StoredDocuments where
  toVec := id
  fromSlice := .ok
  fromSlice_toVec _ := rfl

def sampleCheckpoint (bucketUuid : String) : DcpCheckpoint :=
  { DcpCheckpoint.earliest 3 with bucketUuid := some bucketUuid, seqno := 5, snapshotEnd := 9 }

def sampleCalls : List StoreCall :=
  [.save [sampleCheckpoint "b1"], .save [sampleCheckpoint "b2"], .load "b1" [3], .clear "b1" [3]]

theorem file_store_refines_map_sample :
    (calls sampleJson "checkpoints.json" none sampleCalls).2 = none ∧
    ∃ map', Represents sampleJson (calls sampleJson "checkpoints.json" none sampleCalls).2 map' ∧
      (StoredDocuments.entries ∅).Effects sampleCalls
        (calls sampleJson "checkpoints.json" none sampleCalls).1 map' :=
  ⟨by decide, file_store_refines_map sampleJson "checkpoints.json" (.inl ⟨rfl, rfl⟩) sampleCalls⟩

end FileCheckpointStore

end RustDcp
