import RustDcp.InPlace
import RustDcp.RegistryView

namespace RustDcp.Membership
set_option autoImplicit true

abbrev RegistryM := ExceptT CouchbaseMembershipError (StateM RegistryDocument)

namespace RegistryM

def outcome (call : RegistryM α) (document : RegistryDocument) : MResult α × RegistryDocument :=
  call.run.run document

/-- `self.method()?` of a method that only reads. -/
def check (method : RegistryDocument → MResult α) : RegistryM α :=
  ExceptT.mk fun document => (method document, document)

def enter (identity : MemberIdentity) (nowMillis : Nat) : RegistryM Unit := do
  let nextGeneration ← check (·.nextGeneration)
  modify fun self => { self with
    members := self.members.insert identity.memberId
      { memberId := identity.memberId
        incarnation := identity.incarnation
        joinedAtMillis := nowMillis
        heartbeatAtMillis := nowMillis } }
  modify fun self => { self with generation := nextGeneration }

def register (identity : MemberIdentity) (nowMillis : Nat) : RegistryM Unit := do
  check (·.validate)
  let self ← get
  match self.members[identity.memberId]? with
  | some existing =>
    if existing.incarnation = identity.incarnation then
      modify fun self => self.refresh existing identity.memberId nowMillis
    else if !isStale existing nowMillis self.staleAfterMillis then
      throw (.duplicateMember identity.memberId)
    else enter identity nowMillis
  | none =>
    if self.members.size ≥ self.vbucketCount then
      throw (.configuration
        s!"cannot register more than {self.vbucketCount} members for {self.vbucketCount} vBuckets")
    else enter identity nowMillis

def heartbeat (identity : MemberIdentity) (nowMillis : Nat) : RegistryM Unit := do
  check (·.validate)
  let self ← get
  match self.members[identity.memberId]? with
  | none => throw (.fenced identity.memberId)
  | some member =>
    if member.incarnation ≠ identity.incarnation then throw (.fenced identity.memberId)
    else modify fun self => self.refresh member identity.memberId nowMillis

def pruneStale (nowMillis : Nat) : RegistryM Nat := do
  check (·.validate)
  let self ← get
  let removed := (self.members.toList.filter fun pair =>
    isStale pair.2 nowMillis self.staleAfterMillis).length
  if removed = 0 then return 0
  else
    let nextGeneration ← check (·.nextGeneration)
    modify fun self => { self with
      members := self.members.filter fun _ member =>
        !isStale member nowMillis self.staleAfterMillis }
    modify fun self => { self with generation := nextGeneration }
    return removed

def remove (identity : MemberIdentity) : RegistryM Bool := do
  check (·.validate)
  let self ← get
  match self.members[identity.memberId]? with
  | none => return false
  | some member =>
    if member.incarnation ≠ identity.incarnation then throw (.fenced identity.memberId)
    else
      let nextGeneration ← check (·.nextGeneration)
      modify fun self => { self with members := self.members.erase identity.memberId }
      modify fun self => { self with generation := nextGeneration }
      return true

theorem outcome_bind (call : RegistryM α) (next : α → RegistryM β) (document : RegistryDocument) :
    (call >>= next).outcome document =
      match call.outcome document with
      | (.ok value, after) => (next value).outcome after
      | (.error error, after) => (.error error, after) := by
  have houtcome : call.outcome document = InPlace.outcome call document := rfl
  rw [houtcome]
  refine (InPlace.outcome_bind call next document).trans ?_
  rcases InPlace.outcome call document with ⟨(error | value), after⟩ <;> rfl

theorem outcome_check_bind (method : RegistryDocument → MResult α) (next : α → RegistryM β)
    (document : RegistryDocument) :
    (check method >>= next).outcome document =
      match method document with
      | .ok value => (next value).outcome document
      | .error error => (.error error, document) := by
  refine (InPlace.outcome_check_bind method next document).trans ?_
  cases method document with
  | ok value => rfl
  | error error => rfl

def settled (value : α) (document : RegistryDocument) :
    MResult RegistryDocument → MResult α × RegistryDocument
  | .ok after => (.ok value, after)
  | .error error => (.error error, document)

theorem outcome_enter (identity : MemberIdentity) (nowMillis : Nat) (document : RegistryDocument) :
    (enter identity nowMillis).outcome document =
      settled () document (document.join identity nowMillis) := by
  rw [enter, outcome_check_bind, RegistryDocument.join]
  cases document.nextGeneration with
  | ok next => rfl
  | error error => rfl

theorem outcome_register (identity : MemberIdentity) (nowMillis : Nat)
    (document : RegistryDocument) :
    (register identity nowMillis).outcome document =
      settled () document (document.register identity nowMillis) := by
  rw [register, outcome_check_bind, RegistryDocument.register]
  cases document.validate with
  | error error => rfl
  | ok checked =>
    change outcome (match document.members[identity.memberId]? with | some _ => _ | none => _) _ =
      settled () document
        (match document.members[identity.memberId]? with | some _ => _ | none => _)
    cases document.members[identity.memberId]? with
    | some existing =>
      dsimp only
      split
      · rfl
      split
      · rfl
      · exact outcome_enter identity nowMillis document
    | none =>
      dsimp only
      split
      · rfl
      · exact outcome_enter identity nowMillis document

theorem outcome_heartbeat (identity : MemberIdentity) (nowMillis : Nat)
    (document : RegistryDocument) :
    (heartbeat identity nowMillis).outcome document =
      settled () document (document.heartbeat identity nowMillis) := by
  rw [heartbeat, outcome_check_bind, RegistryDocument.heartbeat]
  cases document.validate with
  | error error => rfl
  | ok checked =>
    change outcome (match document.members[identity.memberId]? with | none => _ | some _ => _) _ =
      settled () document
        (match document.members[identity.memberId]? with | none => _ | some _ => _)
    cases document.members[identity.memberId]? with
    | none => rfl
    | some member =>
      dsimp only
      split <;> rfl

/-- The stale members are counted before they are removed. -/
def staleCount (document : RegistryDocument) (nowMillis : Nat) : Nat :=
  (document.members.toList.filter fun pair =>
    isStale pair.2 nowMillis document.staleAfterMillis).length

theorem outcome_pruneStale (nowMillis : Nat) (document : RegistryDocument) :
    (pruneStale nowMillis).outcome document =
      settled (staleCount document nowMillis) document (document.pruneStale nowMillis) := by
  rw [pruneStale, outcome_check_bind, RegistryDocument.pruneStale]
  cases document.validate with
  | error error => rfl
  | ok checked =>
    change outcome (if staleCount document nowMillis = 0 then _ else _) document =
      settled _ document (if staleCount document nowMillis = 0 then _ else _)
    split
    · rename_i hzero
      rw [hzero]
      rfl
    · rw [outcome_check_bind]
      cases document.nextGeneration with
      | ok next => rfl
      | error error => rfl

theorem outcome_remove (identity : MemberIdentity) (document : RegistryDocument) :
    (remove identity).outcome document =
      settled document.members[identity.memberId]?.isSome document (document.remove identity) := by
  rw [remove, outcome_check_bind, RegistryDocument.remove]
  cases document.validate with
  | error error => rfl
  | ok checked =>
    change outcome (match document.members[identity.memberId]? with | none => _ | some _ => _) _ =
      settled _ document (match document.members[identity.memberId]? with | none => _ | some _ => _)
    cases document.members[identity.memberId]? with
    | none => rfl
    | some member =>
      dsimp only
      split
      · rfl
      · rw [outcome_check_bind]
        cases document.nextGeneration with
        | ok next => rfl
        | error error => rfl

theorem outcome_settled {call : RegistryM α} {value : α}
    (h : call.outcome document = settled value document result) :
    (call >>= fun _ => pure ()).outcome document = settled () document result := by
  rw [outcome_bind, h]
  cases result with
  | ok after => rfl
  | error error => rfl

end RegistryM

namespace RegistryOperation

def call : RegistryOperation → RegistryM Unit
  | register identity nowMillis => RegistryM.register identity nowMillis
  | heartbeat identity nowMillis => RegistryM.heartbeat identity nowMillis
  | pruneStale nowMillis => do
    let _ ← RegistryM.pruneStale nowMillis
    return ()
  | remove identity => do
    let _ ← RegistryM.remove identity
    return ()

def result (document : RegistryDocument) : RegistryOperation → MResult RegistryDocument
  | register identity nowMillis => document.register identity nowMillis
  | heartbeat identity nowMillis => document.heartbeat identity nowMillis
  | pruneStale nowMillis => document.pruneStale nowMillis
  | remove identity => document.remove identity

theorem outcome_call (operation : RegistryOperation) (document : RegistryDocument) :
    operation.call.outcome document = RegistryM.settled () document
      (operation.result document) := by
  cases operation with
  | register identity nowMillis => exact RegistryM.outcome_register identity nowMillis document
  | heartbeat identity nowMillis => exact RegistryM.outcome_heartbeat identity nowMillis document
  | pruneStale nowMillis =>
    exact RegistryM.outcome_settled (RegistryM.outcome_pruneStale nowMillis document)
  | remove identity => exact RegistryM.outcome_settled (RegistryM.outcome_remove identity document)

/-- The caller's identity is one that `MemberIdentity::new` has made. -/
def Identified : RegistryOperation → Prop
  | register identity _ | heartbeat identity _ | remove identity =>
    MemberIdentity.new identity.memberId identity.incarnation = .ok identity
  | pruneStale _ => True

end RegistryOperation

namespace RegistryDocument

theorem result_changes {document : RegistryDocument} {operation : RegistryOperation}
    (h : operation.result document = .ok after) :
    document.Valid ∧ document.Changes operation after := by
  cases operation with
  | register identity nowMillis => exact register_changes h
  | heartbeat identity nowMillis => exact heartbeat_changes h
  | pruneStale nowMillis => exact pruneStale_changes h
  | remove identity => exact remove_changes h

section

variable {document : RegistryDocument} {key : String}

theorem getElem?_refresh (existing : RegistryMember) (memberId : String) (nowMillis : Nat) :
    (document.refresh existing memberId nowMillis).members[key]? =
      if memberId = key then
        some { existing with heartbeatAtMillis := max existing.heartbeatAtMillis nowMillis }
      else document.members[key]? := by
  rw [refresh, Std.ExtTreeMap.getElem?_insert]
  simp only [Std.compare_eq_iff_eq]

theorem getElem?_withMember (document : RegistryDocument) (identity : MemberIdentity)
    (nowMillis : Nat) (key : String) :
    (document.withMember identity nowMillis).members[key]? =
      if identity.memberId = key then some {
        memberId := identity.memberId
        incarnation := identity.incarnation
        joinedAtMillis := nowMillis
        heartbeatAtMillis := nowMillis }
      else document.members[key]? := by
  rw [withMember, Std.ExtTreeMap.getElem?_insert]
  simp only [Std.compare_eq_iff_eq]

theorem getElem?_withoutStale (nowMillis : Nat) :
    (document.withoutStale nowMillis).members[key]? =
      (document.members[key]?).filter fun member =>
        !isStale member nowMillis document.staleAfterMillis := by
  rw [withoutStale, Std.ExtTreeMap.getElem?_filter']

end

theorem isStale_iff {member : RegistryMember} {stale : Nat} (h : stale ≠ 0) :
    isStale member nowMillis stale = true ↔ member.heartbeatAtMillis + stale ≤ nowMillis := by
  rw [isStale, decide_eq_true_iff]
  omega

theorem validateMember_eq_ok : validateMember key member = .ok () ↔
    validateIdentifier "member ID" key = .ok () ∧
      validateIdentifier "incarnation" member.incarnation = .ok () ∧
      key = member.memberId ∧ member.joinedAtMillis ≤ member.heartbeatAtMillis := by
  simp only [validateMember, then_eq_ok, reject_eq_ok, asRegistryError_eq_ok, not_not, Nat.not_lt]

theorem new_eq_ok {identity : MemberIdentity}
    (h : MemberIdentity.new identity.memberId identity.incarnation = .ok identity) :
    validateIdentifier "member ID" identity.memberId = .ok () ∧
      validateIdentifier "incarnation" identity.incarnation = .ok () := by
  have hchecked : ∀ result, Membership.asConfigurationError result = .ok () → result = .ok () := by
    rintro (message | ⟨⟩) h
    · cases h
    · rfl
  obtain ⟨hid, h⟩ := then_eq_ok.1 h
  obtain ⟨hincarnation, -⟩ := then_eq_ok.1 h
  exact ⟨hchecked _ hid, hchecked _ hincarnation⟩

theorem Changes.valid (h : Changes document operation after) (hvalid : document.Valid)
    (hidentified : operation.Identified) : after.Valid := by
  cases h with
  | refreshed hop hget hsame =>
    rename_i identity nowMillis existing
    refine ⟨hvalid.schema, hvalid.count, hvalid.stale, ?_, ?_⟩
    · have hmem : document.members.contains identity.memberId = true := by
        rw [Std.ExtTreeMap.contains_eq_isSome_getElem?, hget, Option.isSome_some]
      rw [refresh, Std.ExtTreeMap.size_insert, if_pos hmem]
      exact hvalid.size
    · intro key member hmember
      rw [getElem?_refresh] at hmember
      split at hmember
      · rename_i hkey
        subst hkey
        cases hmember
        obtain ⟨hid, hincarnation, hown, hbeat⟩ := validateMember_eq_ok.1 (hvalid.member _ _ hget)
        exact validateMember_eq_ok.2 ⟨hid, hincarnation, hown, hbeat.trans (Nat.le_max_left _ _)⟩
      · exact hvalid.member key member hmember
  | joined hstale hroom =>
    rename_i identity nowMillis
    refine ⟨hvalid.schema, hvalid.count, hvalid.stale, ?_, ?_⟩
    · have hsize := hvalid.size
      rw [withMember, Std.ExtTreeMap.size_insert]
      split
      · exact hsize
      · rename_i hmem
        rw [Std.ExtTreeMap.contains_eq_isSome_getElem?, Option.not_isSome_iff_eq_none] at hmem
        exact hroom hmem
    · intro key member hmember
      rw [getElem?_withMember] at hmember
      split at hmember
      · rename_i hkey
        subst hkey
        cases hmember
        obtain ⟨hid, hincarnation⟩ := new_eq_ok hidentified
        exact validateMember_eq_ok.2 ⟨hid, hincarnation, rfl, Nat.le_refl _⟩
      · exact hvalid.member key member hmember
  | pruned hget hstale =>
    refine ⟨hvalid.schema, hvalid.count, hvalid.stale, ?_, ?_⟩
    · exact Std.ExtTreeMap.size_filter_le_size.trans hvalid.size
    · intro key member hmember
      rw [getElem?_withoutStale] at hmember
      exact hvalid.member key member (Option.filter_eq_some_iff.1 hmember).1
  | fresh hfresh => exact hvalid
  | removed hget hsame => exact hvalid.withoutMember _
  | absent hget => exact hvalid

theorem Valid.mem_entries {document : RegistryDocument} (h : document.Valid) :
    entry ∈ document.entries ↔
      ∃ member, document.members[entry.1]? = some member ∧ core member = entry := by
  constructor
  · rintro ⟨key, member, hget, rfl⟩
    obtain rfl := validateMember_key (h.member key member hget)
    exact ⟨member, hget, rfl⟩
  · rintro ⟨member, hget, hcore⟩
    exact ⟨entry.1, member, hget, hcore⟩

theorem entries_refresh {document : RegistryDocument} {key : String}
    (h : document.members[key]? = some existing) (nowMillis : Nat) :
    (document.refresh existing key nowMillis).entries = document.entries := by
  ext entry
  constructor
  · rintro ⟨other, member, hget, hcore⟩
    rw [getElem?_refresh] at hget
    split at hget
    · cases hget
      exact ⟨key, existing, h, hcore⟩
    · exact ⟨other, member, hget, hcore⟩
  · rintro ⟨other, member, hget, hcore⟩
    by_cases hkey : key = other
    · subst hkey
      cases h.symm.trans hget
      refine ⟨key, { existing with
        heartbeatAtMillis := max existing.heartbeatAtMillis nowMillis }, ?_, hcore⟩
      rw [getElem?_refresh, if_pos rfl]
    · exact ⟨other, member, by rw [getElem?_refresh, if_neg hkey, hget], hcore⟩

theorem entries_ne {document other : RegistryDocument} {key : String} (hvalid : document.Valid)
    (hother : other.Valid) (hget : document.members[key]? = some member)
    (hgone : ∀ new, other.members[key]? = some new → new.incarnation ≠ member.incarnation) :
    other.entries ≠ document.entries := by
  intro heq
  have hkey := validateMember_key (hvalid.member key member hget)
  have hmem : core member ∈ other.entries := heq ▸ ⟨key, member, hget, rfl⟩
  obtain ⟨new, hnew, hcore⟩ := hother.mem_entries.1 hmem
  have hincarnation := congrArg (fun entry : String × String × Nat => entry.2.1) hcore
  exact hgone new (by rw [hkey]; exact hnew) hincarnation

theorem Changes.generation (h : Changes document operation after) (hvalid : document.Valid)
    (hafter : after.Valid) :
    after.generation = document.generation + 1 ∧ after.entries ≠ document.entries ∨
      after.generation = document.generation ∧ after.entries = document.entries := by
  cases h with
  | refreshed hop hget hsame => exact .inr ⟨rfl, entries_refresh hget _⟩
  | @joined nowMillis identity hstale hroom =>
    have hown := document.getElem?_withMember identity nowMillis identity.memberId
    rw [if_pos rfl] at hown
    refine .inl ⟨rfl, (entries_ne hafter hvalid hown ?_).symm⟩
    intro old hold
    exact (hstale old hold).1
  | pruned hget hstale =>
    refine .inl ⟨rfl, entries_ne hvalid hafter hget ?_⟩
    intro new hnew
    rw [getElem?_withoutStale, hget, Option.filter_some, hstale] at hnew
    cases hnew
  | fresh hfresh => exact .inr ⟨rfl, rfl⟩
  | removed hget hsame =>
    refine .inl ⟨rfl, entries_ne hvalid hafter hget ?_⟩
    intro new hnew
    rw [getElem?_withoutMember, if_pos rfl] at hnew
    cases hnew
  | absent hget => exact .inr ⟨rfl, rfl⟩

theorem Changes.settings (h : Changes document operation after) :
    after.vbucketCount = document.vbucketCount ∧
      after.staleAfterMillis = document.staleAfterMillis := by
  cases h <;> exact ⟨rfl, rfl⟩

/-- The keys whose records the operation must not touch: those of other members, and for pruning
all but those of the stale ones. -/
def Spares (document : RegistryDocument) (key : String) : RegistryOperation → Prop
  | .register identity _ | .heartbeat identity _ | .remove identity => key ≠ identity.memberId
  | .pruneStale nowMillis => ∀ member, document.members[key]? = some member →
      isStale member nowMillis document.staleAfterMillis = false

theorem Changes.spares (h : Changes document operation after)
    (hspares : document.Spares key operation) :
    after.members[key]? = document.members[key]? := by
  cases h with
  | refreshed hop hget hsame =>
    rcases hop with rfl | rfl <;> rw [getElem?_refresh, if_neg (Ne.symm hspares)]
  | joined hstale hroom => rw [getElem?_withMember, if_neg (Ne.symm hspares)]
  | pruned hget hstale =>
    rw [getElem?_withoutStale]
    cases hkey : document.members[key]? with
    | none => rfl
    | some member => rw [Option.filter_some, hspares member hkey]; rfl
  | removed hget hsame => rw [getElem?_withoutMember, if_neg (Ne.symm hspares)]
  | fresh | absent => rfl

theorem Changes.heartbeat {key : String} (h : Changes document operation after)
    (hbefore : document.members[key]? = some member) (hafter : after.members[key]? = some kept)
    (hsame : kept.incarnation = member.incarnation) :
    member.heartbeatAtMillis ≤ kept.heartbeatAtMillis := by
  cases h with
  | @refreshed _ identity nowMillis existing hop hget hincarnation =>
    rw [getElem?_refresh] at hafter
    split at hafter
    · rename_i hkey
      subst hkey
      cases hget.symm.trans hbefore
      cases hafter
      exact Nat.le_max_left _ _
    · cases hbefore.symm.trans hafter
      exact Nat.le_refl _
  | joined hstale hroom =>
    rw [getElem?_withMember] at hafter
    split at hafter
    · rename_i hkey
      subst hkey
      cases hafter
      exact absurd hsame.symm (hstale member hbefore).1
    · cases hbefore.symm.trans hafter
      exact Nat.le_refl _
  | pruned hget hstale =>
    rw [getElem?_withoutStale, hbefore] at hafter
    cases (Option.filter_eq_some_iff.1 hafter).1
    exact Nat.le_refl _
  | removed hget hincarnation =>
    rw [getElem?_withoutMember] at hafter
    split at hafter
    · cases hafter
    · cases hbefore.symm.trans hafter
      exact Nat.le_refl _
  | fresh | absent =>
    cases hbefore.symm.trans hafter
    exact Nat.le_refl _

end RegistryDocument

/-- The registry operations are well-behaved. -/
theorem RegistryOperation.well_behaved {document : RegistryDocument}
    (hvalid : document.validate = .ok ()) {operation : RegistryOperation}
    (hidentified : operation.Identified) :
    (∀ after, operation.call.outcome document = (.ok (), after) →
      after.validate = .ok () ∧ after.vbucketCount = document.vbucketCount ∧
      after.staleAfterMillis = document.staleAfterMillis ∧
      (∀ key : String, document.Spares key operation →
        after.members[key]? = document.members[key]?) ∧
      (∀ (key : String) member new, document.members[key]? = some member →
        after.members[key]? = some new → new.incarnation = member.incarnation →
        member.heartbeatAtMillis ≤ new.heartbeatAtMillis) ∧
      (after.generation = document.generation + 1 ∧ after.entries ≠ document.entries ∨
        after.generation = document.generation ∧ after.entries = document.entries)) ∧
    (∀ error after, operation.call.outcome document = (.error error, after) →
      after = document) := by
  have hvalid := RegistryDocument.validate_eq_ok.1 hvalid
  rw [operation.outcome_call]
  cases hresult : operation.result document with
  | error failure =>
    refine ⟨fun after h => ?_, fun error after h => ?_⟩
    · cases h
    · cases h
      rfl
  | ok changed =>
    refine ⟨fun after h => ?_, fun error after h => ?_⟩
    · cases h
      obtain ⟨-, hchanges⟩ := RegistryDocument.result_changes hresult
      have hafter := hchanges.valid hvalid hidentified
      exact ⟨RegistryDocument.validate_eq_ok.2 hafter, hchanges.settings.1, hchanges.settings.2,
        fun key hspares => hchanges.spares hspares,
        fun key member new hbefore hnew hsame => hchanges.heartbeat hbefore hnew hsame,
        hchanges.generation hvalid hafter⟩
    · cases h

def newcomer : MemberIdentity := { memberId := "a", incarnation := "1" }

def sampleRegistry : RegistryDocument :=
  { schemaVersion := 1
    vbucketCount := 4
    staleAfterMillis := 1000
    generation := 3
    members := (∅ : BTreeMap String RegistryMember).insert "b"
      { memberId := "b", incarnation := "7", joinedAtMillis := 1, heartbeatAtMillis := 2 } }

theorem RegistryOperation.well_behaved_newcomer : ∃ after,
    (register newcomer 5).call.outcome sampleRegistry = (.ok (), after) ∧
      after.validate = .ok () ∧ after.generation = 4 ∧ after.entries ≠ sampleRegistry.entries ∧
      after.members["b"]? = sampleRegistry.members["b"]? := by
  have hvalid : sampleRegistry.validate = .ok () := by decide +kernel
  have hidentified : (register newcomer 5).Identified := by
    change MemberIdentity.new "a" "1" = .ok newcomer
    decide
  obtain ⟨hok, -⟩ := well_behaved hvalid hidentified
  have houtcome : (register newcomer 5).call.outcome sampleRegistry =
      (.ok (), sampleRegistry.withMember newcomer 5) := by decide +kernel
  obtain ⟨hafter, -, -, hspares, -, hgeneration⟩ := hok _ houtcome
  have hnext : (sampleRegistry.withMember newcomer 5).generation = 4 := rfl
  have hother : "b" ≠ newcomer.memberId := by decide
  refine ⟨_, houtcome, hafter, hnext, ?_, hspares "b" hother⟩
  rcases hgeneration with ⟨-, hentries⟩ | ⟨hsame, -⟩
  · exact hentries
  · cases hnext.symm.trans hsame

end RustDcp.Membership
