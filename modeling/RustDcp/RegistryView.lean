import RustDcp.Registry
import RustDcp.OrderedMap

namespace RustDcp.Membership
set_option autoImplicit true

inductive RegistryOperation where
  | register (identity : MemberIdentity) (nowMillis : Nat)
  | heartbeat (identity : MemberIdentity) (nowMillis : Nat)
  | pruneStale (nowMillis : Nat)
  | remove (identity : MemberIdentity)
  deriving DecidableEq

namespace RegistryDocument

/-- What `validate` has checked. -/
structure Valid (document : RegistryDocument) : Prop where
  schema : document.schemaVersion = registrySchemaVersion
  count : 0 < document.vbucketCount ∧ document.vbucketCount ≤ 65536
  stale : document.staleAfterMillis ≠ 0
  size : document.members.size ≤ document.vbucketCount
  member : ∀ key member, document.members[key]? = some member → validateMember key member = .ok ()

theorem reject_eq_ok [Decidable condition] : reject condition error = .ok () ↔ ¬ condition := by
  rw [reject]
  split <;> simp_all

theorem then_eq_ok {before : MResult Unit} {next : MResult α} :
    (before >>= fun _ => next) = .ok a ↔ before = .ok () ∧ next = .ok a := by
  rw [bind_eq_ok]
  constructor
  · rintro ⟨⟨⟩, hbefore, hnext⟩
    exact ⟨hbefore, hnext⟩
  · rintro ⟨hbefore, hnext⟩
    exact ⟨(), hbefore, hnext⟩

theorem validateMembers_eq_ok : validateMembers pairs = .ok () ↔
    ∀ pair ∈ pairs, validateMember pair.1 pair.2 = .ok () := by
  induction pairs with
  | nil => simp [validateMembers]
  | cons pair pairs ih => rw [validateMembers, then_eq_ok, List.forall_mem_cons, ih]

theorem asRegistryError_eq_ok : asRegistryError result = .ok () ↔ result = .ok () := by
  cases result with
  | ok value => simp [asRegistryError]
  | error message => simp [asRegistryError]

theorem validateVbucketCount_eq_ok :
    validateVbucketCount count = .ok () ↔ 0 < count ∧ count ≤ 65536 := by
  rw [validateVbucketCount]
  split
  · simp only [reduceCtorEq, false_iff]
    omega
  · simp only [true_iff]
    omega

theorem validate_eq_ok {document : RegistryDocument} :
    document.validate = .ok () ↔ document.Valid := by
  simp only [validate, then_eq_ok, reject_eq_ok, asRegistryError_eq_ok,
    validateVbucketCount_eq_ok, validateMembers_eq_ok, Prod.forall,
    Std.ExtTreeMap.mem_toList_iff_getElem?_eq_some, not_not, Nat.not_lt]
  constructor
  · rintro ⟨hschema, hcount, hstale, hsize, hmember⟩
    exact ⟨hschema, hcount, hstale, hsize, hmember⟩
  · intro h
    exact ⟨h.schema, h.count, h.stale, h.size, h.member⟩

theorem validateMember_key (h : validateMember key member = .ok ()) : key = member.memberId := by
  simp only [validateMember, then_eq_ok, reject_eq_ok, not_not] at h
  exact h.2.2.1

def core (member : RegistryMember) : String × String × Nat :=
  (member.memberId, member.incarnation, member.joinedAtMillis)

def roster (document : RegistryDocument) : BTreeMap String (String × String × Nat) :=
  document.members.map fun _ member => core member

def entries (document : RegistryDocument) : Set (String × String × Nat) :=
  {entry | ∃ (key : String) (member : RegistryMember),
    document.members[key]? = some member ∧ core member = entry}

theorem entries_eq_of_roster {d d' : RegistryDocument} (h : d.roster = d'.roster) :
    d.entries = d'.entries := by
  have hmem : ∀ document : RegistryDocument, document.entries =
      {entry | ∃ key : String, document.roster[key]? = some entry} := by
    intro document
    ext entry
    simp [entries, roster]
  rw [hmem, hmem, h]

/-- The generation does not go back, and while it stays the same so do the members. -/
structure Evolves (before after : RegistryDocument) : Prop where
  count : after.vbucketCount = before.vbucketCount
  stale : after.staleAfterMillis = before.staleAfterMillis
  generation : before.generation ≤ after.generation
  roster : before.generation = after.generation → before.roster = after.roster

theorem Evolves.refl (document : RegistryDocument) : document.Evolves document :=
  ⟨rfl, rfl, Nat.le_refl _, fun _ => rfl⟩

theorem Evolves.trans (h : Evolves a b) (h' : Evolves b c) : Evolves a c := by
  refine ⟨h'.count.trans h.count, h'.stale.trans h.stale,
    Nat.le_trans h.generation h'.generation, ?_⟩
  intro heq
  have hle := h.generation
  have hle' := h'.generation
  exact (h.roster (by omega)).trans (h'.roster (by omega))

theorem Evolves.of_lt (hcount : after.vbucketCount = before.vbucketCount)
    (hstale : after.staleAfterMillis = before.staleAfterMillis)
    (h : before.generation < after.generation) : Evolves before after :=
  ⟨hcount, hstale, Nat.le_of_lt h, fun heq => absurd heq (Nat.ne_of_lt h)⟩

theorem nextGeneration_eq_ok {document : RegistryDocument}
    (h : document.nextGeneration = .ok next) : next = document.generation + 1 := by
  simp only [nextGeneration] at h
  split at h
  · rename_i hsucc
    cases h
    exact (checkedSucc_eq_some.1 hsucc).2
  · cases h

theorem refresh_evolves {document : RegistryDocument} {key : String}
    (h : document.members[key]? = some existing) (nowMillis : Nat) :
    document.Evolves (document.refresh existing key nowMillis) := by
  refine ⟨rfl, rfl, Nat.le_refl _, fun _ => Std.ExtTreeMap.ext_getElem? ?_⟩
  intro other
  simp only [RegistryDocument.roster, refresh, Std.ExtTreeMap.getElem?_map,
    Std.ExtTreeMap.getElem?_insert, Std.compare_eq_iff_eq]
  by_cases hkey : key = other
  · subst hkey
    rw [h, if_pos rfl]
    rfl
  · rw [if_neg hkey]

def withMember (document : RegistryDocument) (identity : MemberIdentity) (nowMillis : Nat) :
    RegistryDocument :=
  { document with
    generation := document.generation + 1
    members := document.members.insert identity.memberId
      { memberId := identity.memberId
        incarnation := identity.incarnation
        joinedAtMillis := nowMillis
        heartbeatAtMillis := nowMillis } }

def withoutStale (document : RegistryDocument) (nowMillis : Nat) : RegistryDocument :=
  { document with
    generation := document.generation + 1
    members := document.members.filter fun _ member =>
      !isStale member nowMillis document.staleAfterMillis }

def withoutMember (document : RegistryDocument) (memberId : String) : RegistryDocument :=
  { document with
    generation := document.generation + 1
    members := document.members.erase memberId }

inductive Changes (document : RegistryDocument) : RegistryOperation → RegistryDocument → Prop where
  | refreshed {identity : MemberIdentity} {nowMillis : Nat} {existing : RegistryMember}
      (hop : operation = .register identity nowMillis ∨
        operation = .heartbeat identity nowMillis)
      (hget : document.members[identity.memberId]? = some existing)
      (hsame : existing.incarnation = identity.incarnation) :
    Changes document operation (document.refresh existing identity.memberId nowMillis)
  | joined (hstale : ∀ existing, document.members[identity.memberId]? = some existing →
        existing.incarnation ≠ identity.incarnation ∧
          isStale existing nowMillis document.staleAfterMillis = true)
      (hroom : document.members[identity.memberId]? = none →
        document.members.size < document.vbucketCount) :
    Changes document (.register identity nowMillis) (document.withMember identity nowMillis)
  | pruned {key : String} (hget : document.members[key]? = some member)
      (hstale : isStale member nowMillis document.staleAfterMillis = true) :
    Changes document (.pruneStale nowMillis) (document.withoutStale nowMillis)
  | fresh (hfresh : ∀ (key : String) member, document.members[key]? = some member →
        isStale member nowMillis document.staleAfterMillis = false) :
    Changes document (.pruneStale nowMillis) document
  | removed (hget : document.members[identity.memberId]? = some member)
      (hsame : member.incarnation = identity.incarnation) :
    Changes document (.remove identity) (document.withoutMember identity.memberId)
  | absent (hget : document.members[identity.memberId]? = none) :
    Changes document (.remove identity) document

theorem join_eq_ok {document : RegistryDocument}
    (h : document.join identity nowMillis = .ok after) :
    after = document.withMember identity nowMillis := by
  obtain ⟨next, hnext, h⟩ := bind_eq_ok.1 h
  cases h
  rw [nextGeneration_eq_ok hnext]
  rfl

theorem register_changes {document : RegistryDocument}
    (h : document.register identity nowMillis = .ok after) :
    document.Valid ∧ document.Changes (.register identity nowMillis) after := by
  obtain ⟨hvalid, h⟩ := then_eq_ok.1 h
  refine ⟨validate_eq_ok.1 hvalid, ?_⟩
  split at h
  · rename_i existing hexisting
    split at h
    · rename_i hsame
      cases h
      exact .refreshed (.inl rfl) hexisting hsame
    rename_i hne
    split at h
    · cases h
    rename_i hstale
    rw [join_eq_ok h]
    apply Changes.joined
    · intro other hother
      cases hexisting.symm.trans hother
      exact ⟨hne, by simpa using hstale⟩
    · intro hnone
      cases hexisting.symm.trans hnone
  · rename_i hnone
    split at h
    · cases h
    rename_i hroom
    rw [join_eq_ok h]
    apply Changes.joined
    · intro other hother
      cases hnone.symm.trans hother
    · intro _
      omega

theorem heartbeat_changes {document : RegistryDocument}
    (h : document.heartbeat identity nowMillis = .ok after) :
    document.Valid ∧ document.Changes (.heartbeat identity nowMillis) after := by
  obtain ⟨hvalid, h⟩ := then_eq_ok.1 h
  refine ⟨validate_eq_ok.1 hvalid, ?_⟩
  split at h
  · cases h
  rename_i member hmember
  split at h
  · cases h
  rename_i hsame
  cases h
  exact .refreshed (.inr rfl) hmember (not_not.1 hsame)

theorem pruneStale_changes {document : RegistryDocument}
    (h : document.pruneStale nowMillis = .ok after) :
    document.Valid ∧ document.Changes (.pruneStale nowMillis) after := by
  obtain ⟨hvalid, h⟩ := then_eq_ok.1 h
  refine ⟨validate_eq_ok.1 hvalid, ?_⟩
  dsimp only at h
  split at h
  · rename_i hnone
    cases h
    apply Changes.fresh
    intro key member hget
    rw [List.length_eq_zero_iff, List.filter_eq_nil_iff] at hnone
    simpa using hnone _ (Std.ExtTreeMap.mem_toList_iff_getElem?_eq_some.2 hget)
  · rename_i hsome
    obtain ⟨next, hnext, h⟩ := bind_eq_ok.1 h
    cases h
    obtain ⟨⟨key, member⟩, hpair⟩ := List.exists_mem_of_ne_nil _
      (mt List.length_eq_zero_iff.2 hsome)
    obtain ⟨hmem, hstale⟩ := List.mem_filter.1 hpair
    rw [nextGeneration_eq_ok hnext]
    exact .pruned (Std.ExtTreeMap.mem_toList_iff_getElem?_eq_some.1 hmem) hstale

theorem remove_changes {document : RegistryDocument} (h : document.remove identity = .ok after) :
    document.Valid ∧ document.Changes (.remove identity) after := by
  obtain ⟨hvalid, h⟩ := then_eq_ok.1 h
  refine ⟨validate_eq_ok.1 hvalid, ?_⟩
  split at h
  · rename_i hnone
    cases h
    exact .absent hnone
  rename_i member hmember
  split at h
  · cases h
  rename_i hsame
  obtain ⟨next, hnext, h⟩ := bind_eq_ok.1 h
  cases h
  rw [nextGeneration_eq_ok hnext]
  exact .removed hmember (not_not.1 hsame)

theorem Changes.evolves (h : Changes document operation after) : document.Evolves after := by
  cases h with
  | refreshed hop hget hsame => exact refresh_evolves hget _
  | joined hstale hroom => exact .of_lt rfl rfl (Nat.lt_succ_self _)
  | pruned hget hstale => exact .of_lt rfl rfl (Nat.lt_succ_self _)
  | fresh hfresh => exact .refl _
  | removed hget hsame => exact .of_lt rfl rfl (Nat.lt_succ_self _)
  | absent hget => exact .refl _

theorem getElem?_withoutMember {document : RegistryDocument} {key : String}
    (memberId : String) :
    (document.withoutMember memberId).members[key]? =
      if memberId = key then none else document.members[key]? := by
  rw [withoutMember, Std.ExtTreeMap.getElem?_erase]
  simp only [Std.compare_eq_iff_eq]

theorem Valid.withoutMember {document : RegistryDocument} (h : document.Valid) (memberId : String) :
    (document.withoutMember memberId).Valid := by
  refine ⟨h.schema, h.count, h.stale, Std.ExtTreeMap.size_erase_le.trans h.size, ?_⟩
  intro key member hmember
  rw [getElem?_withoutMember] at hmember
  split at hmember
  · cases hmember
  · exact h.member key member hmember

theorem remove_valid {document : RegistryDocument} (h : document.remove identity = .ok after) :
    after.Valid := by
  obtain ⟨hvalid, hchanges⟩ := remove_changes h
  cases hchanges with
  | refreshed hop hget hsame => obtain hop | hop := hop <;> cases hop
  | removed hget hsame => exact hvalid.withoutMember _
  | absent hget => exact hvalid

/-- The exact incarnation is registered. -/
def Registered (document : RegistryDocument) (identity : MemberIdentity) : Prop :=
  ∃ member, document.members[identity.memberId]? = some member ∧
    member.incarnation = identity.incarnation

theorem snapshot_eq_ok {document : RegistryDocument}
    (h : document.snapshot identity = .ok view) :
    document.Valid ∧ document.Registered identity ∧ view.members = document.ordered ∧
      ∃ index, document.ordered.findIdx? (fun member => member.memberId = identity.memberId) =
          some index ∧
        VBucketAssignment.balanced document.generation document.vbucketCount (index + 1)
          document.ordered.length = .ok view.assignment := by
  obtain ⟨hvalid, h⟩ := then_eq_ok.1 h
  split at h
  · cases h
  rename_i own hown
  split at h
  · cases h
  rename_i hincarnation
  split at h
  · cases h
  rename_i index hindex
  split at h
  · cases h
  rename_i assignment hassignment
  cases h
  exact ⟨validate_eq_ok.1 hvalid, ⟨own, hown, not_not.1 hincarnation⟩, rfl, index, hindex,
    hassignment⟩

theorem ordered_perm (document : RegistryDocument) :
    document.ordered.Perm (document.members.toList.map (·.2)) :=
  List.perm_insertionSort _ _

theorem length_ordered (document : RegistryDocument) :
    document.ordered.length = document.members.size :=
  OrderedMap.length_values (ordered_perm document)

theorem mem_ordered {document : RegistryDocument} :
    member ∈ document.ordered ↔ ∃ key : String, document.members[key]? = some member :=
  OrderedMap.mem_values (ordered_perm document)

theorem ordered_nodup {document : RegistryDocument} (h : document.Valid) :
    (document.ordered.map (·.memberId)).Nodup := by
  apply OrderedMap.nodup_values (ordered_perm document)
  intro key member hget
  exact (validateMember_key (h.member key member hget)).symm

theorem ordered_core {document other : RegistryDocument} (h : document.roster = other.roster) :
    document.ordered.map core = other.ordered.map core := by
  have hvalues : ∀ d : RegistryDocument,
      (d.members.toList.map (·.2)).map core = d.roster.toList.map (·.2) := by
    intro d
    rw [roster, Std.ExtTreeMap.toList_map, List.map_map, List.map_map]
    rfl
  let before (left right : String × String × Nat) : Prop :=
    left.2.2 < right.2.2 ∨ left.2.2 = right.2.2 ∧ left.1 ≤ right.1
  have : DecidableRel before := fun _ _ => inferInstanceAs (Decidable (_ ∨ _ ∧ _))
  rw [ordered, ordered, List.map_insertionSort Before before core _ (fun _ _ _ _ => Iff.rfl),
    List.map_insertionSort Before before core _ (fun _ _ _ _ => Iff.rfl), hvalues, hvalues, h]

theorem findIdx?_core (document : RegistryDocument) (id : String) :
    document.ordered.findIdx? (fun member => member.memberId = id) =
      (document.ordered.map core).findIdx? fun entry => entry.1 = id := by
  rw [List.findIdx?_map]
  rfl

theorem snapshot_assignment_eq {document other : RegistryDocument}
    (hcount : document.vbucketCount = other.vbucketCount)
    (hgeneration : document.generation = other.generation)
    (hroster : document.roster = other.roster)
    (h : document.snapshot identity = .ok view) (h' : other.snapshot identity = .ok view') :
    view.assignment = view'.assignment := by
  obtain ⟨-, -, -, index, hindex, hassignment⟩ := snapshot_eq_ok h
  obtain ⟨-, -, -, index', hindex', hassignment'⟩ := snapshot_eq_ok h'
  have hcore := ordered_core hroster
  rw [findIdx?_core, hcore, ← findIdx?_core, hindex', Option.some_inj] at hindex
  have hlength : document.ordered.length = other.ordered.length := by
    simpa using congrArg List.length hcore
  rw [hcount, hgeneration, ← hindex, hlength, hassignment'] at hassignment
  exact (Except.ok.inj hassignment).symm

theorem getElem?_of_mem_ordered {document : RegistryDocument} (hvalid : document.Valid)
    (h : member ∈ document.ordered) : document.members[member.memberId]? = some member := by
  obtain ⟨key, hkey⟩ := mem_ordered.1 h
  rw [← validateMember_key (hvalid.member key member hkey)]
  exact hkey

theorem balanced_of_index {document : RegistryDocument} (hvalid : document.Valid)
    (h : index < document.ordered.length) :
    ∃ assignment, VBucketAssignment.balanced document.generation document.vbucketCount (index + 1)
        document.ordered.length = .ok assignment ∧
      assignment.generation = document.generation ∧
      ∀ v : UInt16, v ∈ assignment.vbuckets ↔
        chunkStart document.vbucketCount document.ordered.length index ≤ v.toNat ∧
          v.toNat < chunkStart document.vbucketCount document.ordered.length (index + 1) := by
  refine VBucketAssignment.balanced_eq_ok _ hvalid.count.2 ?_ h
  rw [length_ordered]
  exact hvalid.size

theorem snapshot_chunk {document : RegistryDocument}
    (h : document.snapshot identity = .ok view) :
    ∃ index member, document.ordered[index]? = some member ∧
      member.memberId = identity.memberId ∧ member.incarnation = identity.incarnation ∧
      view.assignment.generation = document.generation ∧
      ∀ v : UInt16, v ∈ view.assignment.vbuckets ↔
        chunkStart document.vbucketCount document.ordered.length index ≤ v.toNat ∧
          v.toNat < chunkStart document.vbucketCount document.ordered.length (index + 1) := by
  obtain ⟨hvalid, ⟨own, hown, hincarnation⟩, -, index, hindex, hassignment⟩ := snapshot_eq_ok h
  obtain ⟨hlt, hid, -⟩ := List.findIdx?_eq_some_iff_getElem.1 hindex
  have hid := of_decide_eq_true hid
  have hmember := getElem?_of_mem_ordered hvalid (List.getElem_mem hlt)
  rw [hid, hown, Option.some_inj] at hmember
  obtain ⟨assignment, hok, hgeneration, hchunk⟩ := balanced_of_index hvalid hlt
  cases hassignment.symm.trans hok
  exact ⟨index, _, List.getElem?_eq_getElem hlt, hid, hmember ▸ hincarnation, hgeneration, hchunk⟩

theorem snapshot_of_member {document : RegistryDocument} (hvalid : document.Valid)
    (h : document.ordered[index]? = some member) :
    ∃ view, document.snapshot ⟨member.memberId, member.incarnation⟩ = .ok view ∧
      ∀ v : UInt16, v ∈ view.assignment.vbuckets ↔
        chunkStart document.vbucketCount document.ordered.length index ≤ v.toNat ∧
          v.toNat < chunkStart document.vbucketCount document.ordered.length (index + 1) := by
  obtain ⟨hlt, rfl⟩ := List.getElem?_eq_some_iff.1 h
  have hown := getElem?_of_mem_ordered hvalid (List.getElem_mem hlt)
  have hindex : document.ordered.findIdx?
      (fun member => member.memberId = document.ordered[index].memberId) = some index := by
    rw [List.findIdx?_eq_some_iff_getElem]
    refine ⟨hlt, decide_eq_true rfl, fun j hj => ?_⟩
    intro heq
    have hnodup := ordered_nodup hvalid
    rw [List.nodup_iff_getElem?_ne_getElem?] at hnodup
    refine hnodup j index hj (by simpa using hlt) ?_
    simp only [List.getElem?_map, List.getElem?_eq_getElem hlt,
      List.getElem?_eq_getElem (Nat.lt_trans hj hlt), Option.map_some]
    rw [of_decide_eq_true heq]
  obtain ⟨assignment, hok, -, hchunk⟩ := balanced_of_index hvalid hlt
  refine ⟨{ assignment, members := document.ordered }, ?_, hchunk⟩
  simp only [snapshot, validate_eq_ok.2 hvalid, hown, hindex, hok]
  rw [if_neg (not_not.2 rfl)]
  rfl

theorem snapshot_of_registered {document : RegistryDocument} (hvalid : document.Valid)
    (h : document.Registered identity) : ∃ view, document.snapshot identity = .ok view := by
  obtain ⟨member, hget, hincarnation⟩ := h
  obtain ⟨index, hindex⟩ := List.mem_iff_getElem?.1 (mem_ordered.2 ⟨_, hget⟩)
  obtain ⟨view, hview, -⟩ := snapshot_of_member hvalid hindex
  rw [← validateMember_key (hvalid.member _ _ hget), hincarnation] at hview
  exact ⟨view, hview⟩

theorem Registered.of_roster {document other : RegistryDocument}
    (h : document.Registered identity) (hroster : document.roster = other.roster) :
    other.Registered identity := by
  obtain ⟨member, hget, hincarnation⟩ := h
  have hother : other.roster[identity.memberId]? = some (core member) := by
    rw [← hroster, roster, Std.ExtTreeMap.getElem?_map, hget]
    rfl
  rw [roster, Std.ExtTreeMap.getElem?_map] at hother
  obtain ⟨renewed, hrenewed, hcore⟩ := Option.map_eq_some_iff.1 hother
  have hsame := congrArg (fun entry : String × String × Nat => entry.2.1) hcore
  exact ⟨renewed, hrenewed, hsame.trans hincarnation⟩

theorem snapshot_disjoint {document : RegistryDocument} (hne : identity ≠ identity')
    (h : document.snapshot identity = .ok view) (h' : document.snapshot identity' = .ok view')
    (hv : v ∈ view.assignment.vbuckets) : v ∉ view'.assignment.vbuckets := by
  intro hv'
  obtain ⟨index, member, hindex, hid, hincarnation, -, hchunk⟩ := snapshot_chunk h
  obtain ⟨index', member', hindex', hid', hincarnation', -, hchunk'⟩ := snapshot_chunk h'
  cases interval_unique (chunkStart_mono _ _) ((hchunk v).1 hv) ((hchunk' v).1 hv')
  cases hindex.symm.trans hindex'
  obtain ⟨memberId, incarnation⟩ := identity
  obtain ⟨memberId', incarnation'⟩ := identity'
  cases hid.symm.trans hid'
  cases hincarnation.symm.trans hincarnation'
  exact hne rfl

theorem snapshot_cover {document : RegistryDocument} (hvalid : document.Valid)
    (hsome : document.ordered ≠ []) (hv : v.toNat < document.vbucketCount) :
    ∃ identity view, document.snapshot identity = .ok view ∧ v ∈ view.assignment.vbuckets := by
  have hpos := List.length_pos_iff.2 hsome
  obtain ⟨index, hlt, hle, hlt'⟩ := exists_interval
    (f := chunkStart document.vbucketCount document.ordered.length)
    (by simp [chunkStart] : _ ≤ v.toNat) (by rwa [chunkStart_total hpos])
  obtain ⟨view, hview, hchunk⟩ := snapshot_of_member hvalid (List.getElem?_eq_getElem hlt)
  exact ⟨_, view, hview, (hchunk v).2 ⟨hle, hlt'⟩⟩

end RegistryDocument

end RustDcp.Membership
