import RustDcp.RegistryUpdate
import RustDcp.RegistryCas

namespace RustDcp.Membership
set_option autoImplicit true

def RegistryAction.operations (identity : MemberIdentity) (nowMillis : Nat) :
    RegistryAction → List RegistryOperation
  | .register => [.pruneStale nowMillis, .register identity nowMillis]
  | .heartbeat => [.heartbeat identity nowMillis]
  | .monitor => [.heartbeat identity nowMillis, .pruneStale nowMillis]
  | .remove => [.remove identity]

namespace RegistryOperation

def clock : RegistryOperation → Option Nat
  | register _ nowMillis | heartbeat _ nowMillis | pruneStale nowMillis => some nowMillis
  | remove _ => none

/-- The operation is not one that the incarnation does to its own record. -/
def ByOther (identity : MemberIdentity) : RegistryOperation → Prop
  | register other _ | heartbeat other _ | remove other => other ≠ identity
  | pruneStale _ => True

end RegistryOperation

namespace RegistryDocument

/-- The record of the incarnation. -/
def Holds (document : RegistryDocument) (identity : MemberIdentity) (member : RegistryMember) :
    Prop :=
  document.members[identity.memberId]? = some member ∧ member.incarnation = identity.incarnation

theorem Holds.registered (h : Holds document identity member) : document.Registered identity :=
  ⟨member, h.1, h.2⟩

theorem identity_eq {identity other : MemberIdentity} (hid : other.memberId = identity.memberId)
    (hincarnation : other.incarnation = identity.incarnation) : other = identity := by
  cases other
  cases identity
  cases hid
  cases hincarnation
  rfl

theorem Changes.caller (h : Changes document operation after)
    (hop : operation = .register identity nowMillis ∨ operation = .heartbeat identity nowMillis) :
    ∃ member, after.Holds identity member ∧ nowMillis ≤ member.heartbeatAtMillis := by
  cases h with
  | @refreshed _ caller clock existing hcaller hget hsame =>
    have hboth : caller = identity ∧ clock = nowMillis := by
      rcases hop with rfl | rfl <;> rcases hcaller with h | h <;> cases h <;> exact ⟨rfl, rfl⟩
    obtain ⟨rfl, rfl⟩ := hboth
    exact ⟨_, ⟨(getElem?_refresh _ _ _).trans (if_pos rfl), hsame⟩, Nat.le_max_right _ _⟩
  | @joined clock caller hstale hroom =>
    rcases hop with h | h <;> cases h
    exact ⟨_, ⟨(getElem?_withMember _ _ _ _).trans (if_pos rfl), rfl⟩, Nat.le_refl _⟩
  | pruned | fresh | removed | absent => rcases hop with h | h <;> cases h

theorem Changes.keeps (h : Changes document operation after) (hother : operation.ByOther identity)
    (hholds : document.Holds identity member) :
    after.Holds identity member ∨ ∃ nowMillis, operation.clock = some nowMillis ∧
      isStale member nowMillis document.staleAfterMillis = true := by
  obtain ⟨hget, hincarnation⟩ := hholds
  cases h with
  | @refreshed _ caller clock existing hcaller hown hsame =>
    have hcallerNe : caller ≠ identity := by rcases hcaller with rfl | rfl <;> exact hother
    refine .inl ⟨?_, hincarnation⟩
    rw [getElem?_refresh, if_neg, hget]
    intro hid
    rw [hid] at hown
    cases hget.symm.trans hown
    exact hcallerNe (identity_eq hid (hsame.symm.trans hincarnation))
  | @joined clock caller hstale hroom =>
    by_cases hid : caller.memberId = identity.memberId
    · rw [hid] at hstale
      exact .inr ⟨clock, rfl, (hstale member hget).2⟩
    · refine .inl ⟨?_, hincarnation⟩
      rw [getElem?_withMember, if_neg hid, hget]
  | @pruned stale clock key hkey hstale =>
    cases hown : isStale member clock document.staleAfterMillis with
    | true => exact .inr ⟨clock, rfl, hown⟩
    | false =>
      refine .inl ⟨?_, hincarnation⟩
      rw [getElem?_withoutStale, hget, Option.filter_some, hown]
      rfl
  | @removed caller existing hown hsame =>
    refine .inl ⟨?_, hincarnation⟩
    rw [getElem?_withoutMember, if_neg, hget]
    intro hid
    rw [hid] at hown
    cases hget.symm.trans hown
    exact hother (identity_eq hid (hsame.symm.trans hincarnation))
  | fresh | absent => exact .inl ⟨hget, hincarnation⟩

theorem Changes.registered_of_after (h : Changes document operation after)
    (hregistered : after.Registered identity) :
    document.Registered identity ∨ ∃ nowMillis, operation = .register identity nowMillis := by
  obtain ⟨member, hget, hincarnation⟩ := hregistered
  cases h with
  | @refreshed _ caller clock existing hcaller hown hsame =>
    rw [getElem?_refresh] at hget
    split at hget
    · rename_i hid
      cases hget
      rw [hid] at hown
      exact .inl ⟨existing, hown, hincarnation⟩
    · exact .inl ⟨member, hget, hincarnation⟩
  | @joined clock caller hstale hroom =>
    rw [getElem?_withMember] at hget
    split at hget
    · rename_i hid
      cases hget
      exact .inr ⟨clock, by rw [identity_eq hid hincarnation]⟩
    · exact .inl ⟨member, hget, hincarnation⟩
  | pruned hstale =>
    rw [getElem?_withoutStale] at hget
    exact .inl ⟨member, (Option.filter_eq_some_iff.1 hget).1, hincarnation⟩
  | removed hown =>
    rw [getElem?_withoutMember] at hget
    split at hget
    · cases hget
    · exact .inl ⟨member, hget, hincarnation⟩
  | fresh | absent => exact .inl ⟨member, hget, hincarnation⟩

section

variable {document : RegistryDocument} (hvalid : document.Valid)
  (h : ¬ document.Registered identity)
include hvalid h

theorem heartbeat_fenced (nowMillis : Nat) :
    document.heartbeat identity nowMillis = .error (.fenced identity.memberId) := by
  rw [heartbeat, validate_eq_ok.2 hvalid]
  dsimp only [bind, Except.bind]
  cases hget : document.members[identity.memberId]? with
  | none => rfl
  | some member => exact if_pos fun hsame => h ⟨member, hget, hsame⟩

theorem snapshot_fenced : document.snapshot identity = .error (.fenced identity.memberId) := by
  rw [snapshot, validate_eq_ok.2 hvalid]
  dsimp only [bind, Except.bind]
  cases hget : document.members[identity.memberId]? with
  | none => rfl
  | some member => exact if_pos fun hsame => h ⟨member, hget, hsame⟩

theorem remove_fenced :
    document.remove identity = .ok document ∨
      document.remove identity = .error (.fenced identity.memberId) := by
  rw [remove, validate_eq_ok.2 hvalid]
  dsimp only [bind, Except.bind]
  cases hget : document.members[identity.memberId]? with
  | none => exact .inl rfl
  | some member => exact .inr (if_pos fun hsame => h ⟨member, hget, hsame⟩)

end

def perform (document : RegistryDocument) (operations : List RegistryOperation) :
    RegistryDocument :=
  operations.foldl (fun document operation => (operation.call.outcome document).2) document

theorem perform_snoc (document : RegistryDocument) (operations : List RegistryOperation)
    (operation : RegistryOperation) :
    document.perform (operations ++ [operation]) =
      (operation.call.outcome (document.perform operations)).2 := by
  rw [perform, List.foldl_append]
  rfl

theorem outcome_changes (document : RegistryDocument) (operation : RegistryOperation) :
    (∃ after, operation.call.outcome document = (.ok (), after) ∧
        document.Changes operation after) ∨
      ∃ error, operation.call.outcome document = (.error error, document) := by
  rw [operation.outcome_call]
  cases hresult : operation.result document with
  | ok after => exact .inl ⟨after, rfl, (result_changes hresult).2⟩
  | error error => exact .inr ⟨error, rfl⟩

theorem perform_valid {document : RegistryDocument} (hvalid : document.Valid)
    (h : ∀ operation ∈ operations, operation.Identified) : (document.perform operations).Valid := by
  induction operations using List.reverseRecOn with
  | nil => exact hvalid
  | append_singleton operations operation ih =>
    rw [List.forall_mem_append] at h
    have hbefore := ih h.1
    rw [perform_snoc]
    rcases outcome_changes (document.perform operations) operation with
      ⟨after, houtcome, hchanges⟩ | ⟨error, houtcome⟩
    · rw [houtcome]
      exact hchanges.valid hbefore (h.2 operation List.mem_cons_self)
    · rw [houtcome]
      exact hbefore

/-- Through any operations of others a record stays as it is, unless it is stale by the clock of
one of them. -/
theorem perform_keeps {document : RegistryDocument}
    (h : ∀ operation ∈ operations, operation.ByOther identity)
    (hholds : document.Holds identity member) :
    (document.perform operations).staleAfterMillis = document.staleAfterMillis ∧
      ((document.perform operations).Holds identity member ∨
        ∃ operation ∈ operations, ∃ nowMillis, operation.clock = some nowMillis ∧
          isStale member nowMillis document.staleAfterMillis = true) := by
  induction operations using List.reverseRecOn with
  | nil => exact ⟨rfl, .inl hholds⟩
  | append_singleton operations operation ih =>
    rw [List.forall_mem_append] at h
    obtain ⟨hsettings, hrecord⟩ := ih h.1
    rw [perform_snoc]
    rcases outcome_changes (document.perform operations) operation with
      ⟨after, houtcome, hchanges⟩ | ⟨error, houtcome⟩
    · rw [houtcome]
      refine ⟨hchanges.settings.2.trans hsettings, ?_⟩
      rcases hrecord with hholds | ⟨other, hmem, hstale⟩
      · rcases hchanges.keeps (h.2 operation List.mem_cons_self) hholds with hkept | hstale
        · exact .inl hkept
        · rw [hsettings] at hstale
          exact .inr ⟨operation, by simp, hstale⟩
      · exact .inr ⟨other, List.mem_append_left _ hmem, hstale⟩
    · rw [houtcome]
      refine ⟨hsettings, hrecord.imp id ?_⟩
      rintro ⟨other, hmem, hstale⟩
      exact ⟨other, List.mem_append_left _ hmem, hstale⟩

/-- No registration of the incarnation among the operations succeeds. -/
def StaysOut (document : RegistryDocument) (identity : MemberIdentity)
    (operations : List RegistryOperation) : Prop :=
  ∀ before nowMillis, before ++ [.register identity nowMillis] <+: operations →
    ∃ error, ((RegistryOperation.register identity nowMillis).call.outcome
      (document.perform before)).1 = .error error

theorem perform_not_registered {document : RegistryDocument}
    (h : ¬ document.Registered identity) (hout : document.StaysOut identity operations) :
    ¬ (document.perform operations).Registered identity := by
  induction operations using List.reverseRecOn with
  | nil => exact h
  | append_singleton operations operation ih =>
    have hbefore := ih fun before nowMillis hb =>
      hout before nowMillis (hb.trans (List.prefix_append _ _))
    rw [perform_snoc]
    rcases outcome_changes (document.perform operations) operation with
      ⟨after, houtcome, hchanges⟩ | ⟨error, houtcome⟩
    · rw [houtcome]
      intro hregistered
      rcases hchanges.registered_of_after hregistered with hwas | ⟨nowMillis, rfl⟩
      · exact hbefore hwas
      · obtain ⟨error, herror⟩ := hout operations nowMillis List.prefix_rfl
        rw [houtcome] at herror
        cases herror
    · rw [houtcome]
      exact hbefore

theorem pruneStale_of_room {document : RegistryDocument} (hvalid : document.Valid)
    (hroom : document.generation < u64Max) (nowMillis : Nat) :
    ∃ after, document.pruneStale nowMillis = .ok after := by
  rw [pruneStale, validate_eq_ok.2 hvalid]
  change ∃ after, (if RegistryM.staleCount document nowMillis = 0 then _ else _) = _
  split
  · exact ⟨document, rfl⟩
  · rw [nextGeneration, checkedSucc_eq_some.2 ⟨hroom, rfl⟩]
    exact ⟨_, rfl⟩

/-- The snapshot lists the incarnation. -/
def Contains (view : MembershipSnapshot) (identity : MemberIdentity) : Prop :=
  ∃ member ∈ view.members, member.memberId = identity.memberId ∧
    member.incarnation = identity.incarnation

theorem snapshot_contains {document : RegistryDocument} (hvalid : document.Valid)
    (h : document.Registered identity) :
    ∃ view, document.snapshot identity = .ok view ∧ Contains view identity := by
  obtain ⟨view, hview⟩ := snapshot_of_registered hvalid h
  obtain ⟨member, hget, hincarnation⟩ := h
  obtain ⟨-, -, hmembers, -⟩ := snapshot_eq_ok hview
  refine ⟨view, hview, member, ?_, (validateMember_key (hvalid.member _ _ hget)).symm, hincarnation⟩
  rw [hmembers]
  exact mem_ordered.2 ⟨_, hget⟩

theorem register_past {document pruned registered : RegistryDocument}
    (hidentity : MemberIdentity.new identity.memberId identity.incarnation = .ok identity)
    (hprune : document.pruneStale nowMillis = .ok pruned)
    (hregister : pruned.register identity nowMillis = .ok registered) :
    ∃ view, RegistryAction.register.apply document identity nowMillis =
        .ok (registered, some view) ∧ Contains view identity := by
  obtain ⟨hvalid, hchanges⟩ := register_changes hregister
  obtain ⟨member, hholds, -⟩ := hchanges.caller (.inl rfl)
  obtain ⟨view, hview, hcontains⟩ :=
    snapshot_contains (hchanges.valid hvalid hidentity) hholds.registered
  refine ⟨view, bind_eq_ok.2 ⟨pruned, hprune, ?_⟩, hcontains⟩
  exact bind_eq_ok.2 ⟨registered, hregister, bind_eq_ok.2 ⟨view, hview, rfl⟩⟩

theorem monitor_past {document beaten : RegistryDocument}
    (hidentity : MemberIdentity.new identity.memberId identity.incarnation = .ok identity)
    (hroom : document.generation < u64Max)
    (hbeat : document.heartbeat identity nowMillis = .ok beaten) :
    ∃ pruned view, beaten.pruneStale nowMillis = .ok pruned ∧ pruned.Registered identity ∧
      RegistryAction.monitor.apply document identity nowMillis = .ok (pruned, some view) ∧
      Contains view identity := by
  obtain ⟨hvalid, hchanges⟩ := heartbeat_changes hbeat
  have hbeaten := hchanges.valid hvalid hidentity
  have hroom' : beaten.generation < u64Max := by
    cases hchanges with
    | refreshed hop hget hsame => exact hroom
  obtain ⟨member, hholds, hclock⟩ := hchanges.caller (.inr rfl)
  obtain ⟨pruned, hprune⟩ := pruneStale_of_room hbeaten hroom' nowMillis
  obtain ⟨-, hpruned⟩ := pruneStale_changes hprune
  -- the record is not older than the clock, so it is not stale by it
  have hkept : pruned.Holds identity member := by
    rcases hpruned.keeps trivial hholds with hkept | ⟨clock, hsame, hstale⟩
    · exact hkept
    · cases hsame
      have hpos := hbeaten.stale
      rw [isStale_iff hpos] at hstale
      omega
  obtain ⟨view, hview, hcontains⟩ :=
    snapshot_contains (hpruned.valid hbeaten trivial) hkept.registered
  refine ⟨pruned, view, hprune, hkept.registered, bind_eq_ok.2 ⟨beaten, hbeat, ?_⟩, hcontains⟩
  exact bind_eq_ok.2 ⟨pruned, hprune, bind_eq_ok.2 ⟨view, hview, rfl⟩⟩

theorem perform_of_result {document : RegistryDocument} (operation : RegistryOperation)
    (h : operation.result document = .ok after) : document.perform [operation] = after := by
  change (operation.call.outcome document).2 = after
  rw [operation.outcome_call, h]
  rfl

theorem apply_perform {action : RegistryAction} {document : RegistryDocument}
    (h : action.apply document identity nowMillis = .ok (after, view)) :
    after = document.perform (action.operations identity nowMillis) := by
  have hfollow : ∀ middle first second, first.result document = .ok middle →
      second.result middle = .ok after → after = document.perform [first, second] := by
    intro middle first second hfirst hsecond
    have hstep := perform_snoc document [first] second
    rw [perform_of_result first hfirst] at hstep
    rw [← perform_of_result second hsecond]
    exact hstep.symm
  cases action with
  | register =>
    obtain ⟨pruned, hprune, h⟩ := bind_eq_ok.1 h
    obtain ⟨registered, hregister, h⟩ := bind_eq_ok.1 h
    obtain ⟨snapshot, -, h⟩ := bind_eq_ok.1 h
    cases h
    exact hfollow pruned (.pruneStale nowMillis) (.register identity nowMillis) hprune hregister
  | heartbeat =>
    obtain ⟨beaten, hbeat, h⟩ := bind_eq_ok.1 h
    obtain ⟨snapshot, -, h⟩ := bind_eq_ok.1 h
    cases h
    exact (perform_of_result (.heartbeat identity nowMillis) hbeat).symm
  | monitor =>
    obtain ⟨beaten, hbeat, h⟩ := bind_eq_ok.1 h
    obtain ⟨pruned, hprune, h⟩ := bind_eq_ok.1 h
    obtain ⟨snapshot, -, h⟩ := bind_eq_ok.1 h
    cases h
    exact hfollow beaten (.heartbeat identity nowMillis) (.pruneStale nowMillis) hbeat hprune
  | remove =>
    obtain ⟨removed, hremove, h⟩ := bind_eq_ok.1 h
    cases h
    exact (perform_of_result (.remove identity) hremove).symm

theorem operations_byOther (action : RegistryAction) (nowMillis : Nat) (hne : other ≠ identity) :
    ∀ operation ∈ action.operations other nowMillis,
      operation.ByOther identity ∧
        ∀ clock, operation.clock = some clock → clock = nowMillis := by
  intro operation hmem
  cases action with
  | register =>
    rcases List.mem_pair.1 hmem with rfl | rfl
    · exact ⟨trivial, fun clock h => (Option.some.inj h).symm⟩
    · exact ⟨hne, fun clock h => (Option.some.inj h).symm⟩
  | monitor =>
    rcases List.mem_pair.1 hmem with rfl | rfl
    · exact ⟨hne, fun clock h => (Option.some.inj h).symm⟩
    · exact ⟨trivial, fun clock h => (Option.some.inj h).symm⟩
  | heartbeat =>
    obtain rfl := List.mem_singleton.1 hmem
    exact ⟨hne, fun clock h => (Option.some.inj h).symm⟩
  | remove =>
    obtain rfl := List.mem_singleton.1 hmem
    refine ⟨hne, fun clock h => ?_⟩
    cases h

/-- A live member keeps itself, and a fenced one stays out. -/
theorem live_kept_fenced_out {document current : RegistryDocument}
    (hvalid : document.validate = .ok ())
    (hidentified : ∀ operation ∈ operations, operation.Identified)
    (hcurrent : document.perform operations = current) (identity : MemberIdentity)
    (hidentity : MemberIdentity.new identity.memberId identity.incarnation = .ok identity) :
    (∀ nowMillis pruned registered, current.pruneStale nowMillis = .ok pruned →
      pruned.register identity nowMillis = .ok registered →
      ∃ view, RegistryAction.register.apply current identity nowMillis =
          .ok (registered, some view) ∧ Contains view identity) ∧
    (∀ nowMillis beaten, current.generation < u64Max →
      current.heartbeat identity nowMillis = .ok beaten →
      ∃ pruned view, beaten.pruneStale nowMillis = .ok pruned ∧ pruned.Registered identity ∧
        RegistryAction.monitor.apply current identity nowMillis = .ok (pruned, some view) ∧
        Contains view identity) ∧
    (∀ member (operation : RegistryOperation) after, current.Holds identity member →
      operation.ByOther identity → operation.result current = .ok after →
      ¬ after.Registered identity →
      ∃ nowMillis, operation.clock = some nowMillis ∧
        member.heartbeatAtMillis + current.staleAfterMillis ≤ nowMillis) ∧
    (∀ member action other nowMillis after view, current.Holds identity member →
      other ≠ identity → RegistryAction.apply action current other nowMillis = .ok (after, view) →
      ¬ after.Registered identity →
      member.heartbeatAtMillis + current.staleAfterMillis ≤ nowMillis) ∧
    (∀ later final, ¬ current.Registered identity → current.StaysOut identity later →
      (∀ operation ∈ later, operation.Identified) → current.perform later = final →
      (∀ nowMillis, final.heartbeat identity nowMillis = .error (.fenced identity.memberId)) ∧
      final.snapshot identity = .error (.fenced identity.memberId) ∧
      final.perform [.remove identity] = final) := by
  have hvalid : current.Valid :=
    hcurrent ▸ perform_valid (validate_eq_ok.1 hvalid) hidentified
  refine ⟨?_, ?_, ?_, ?_, ?_⟩
  · intro nowMillis pruned registered hprune hregister
    exact register_past hidentity hprune hregister
  · intro nowMillis beaten hroom hbeat
    exact monitor_past hidentity hroom hbeat
  · intro member operation after hholds hother hresult hgone
    rcases (result_changes hresult).2.keeps hother hholds with hkept | ⟨clock, hclock, hstale⟩
    · exact absurd hkept.registered hgone
    · exact ⟨clock, hclock, (isStale_iff hvalid.stale).1 hstale⟩
  · intro member action other nowMillis after view hholds hne happly hgone
    have hothers := operations_byOther action nowMillis hne
    obtain ⟨-, hrecord⟩ := perform_keeps (fun operation hmem => (hothers operation hmem).1) hholds
    rw [← apply_perform happly] at hrecord
    rcases hrecord with hkept | ⟨operation, hmem, clock, hclock, hstale⟩
    · exact absurd hkept.registered hgone
    · cases (hothers operation hmem).2 clock hclock
      exact (isStale_iff hvalid.stale).1 hstale
  · intro later final hnot hout hlater hfinal
    have hfinalValid : final.Valid := hfinal ▸ perform_valid hvalid hlater
    have hfinalNot : ¬ final.Registered identity := hfinal ▸ perform_not_registered hnot hout
    refine ⟨heartbeat_fenced hfinalValid hfinalNot, snapshot_fenced hfinalValid hfinalNot, ?_⟩
    change ((RegistryOperation.remove identity).call.outcome final).2 = final
    rw [RegistryOperation.outcome_call, RegistryOperation.result]
    rcases remove_fenced hfinalValid hfinalNot with hremove | hremove <;> rw [hremove] <;> rfl

theorem live_kept_fenced_out_newcomer :
    (∃ pruned view, RegistryAction.monitor.apply
        (sampleRegistry.perform [.register newcomer 5]) newcomer 9 = .ok (pruned, some view) ∧
      Contains view newcomer) ∧
    (sampleRegistry.perform [.register newcomer 5, .pruneStale 2000]).heartbeat newcomer 2001 =
      .error (.fenced "a") := by
  have hvalid : sampleRegistry.validate = .ok () := by decide +kernel
  have hidentity : MemberIdentity.new newcomer.memberId newcomer.incarnation = .ok newcomer := by
    decide
  have hjoined : ∀ operation ∈ [RegistryOperation.register newcomer 5], operation.Identified := by
    rintro operation (_ | ⟨_, ⟨⟩⟩)
    exact hidentity
  have hpruned : ∀ operation ∈ [RegistryOperation.register newcomer 5, .pruneStale 2000],
      operation.Identified := by
    rintro operation (_ | ⟨_, _ | ⟨_, ⟨⟩⟩⟩)
    · exact hidentity
    · trivial
  constructor
  · obtain ⟨-, hmonitor, -⟩ := live_kept_fenced_out hvalid hjoined rfl newcomer hidentity
    have hbeat : ((sampleRegistry.perform [.register newcomer 5]).heartbeat newcomer 9).isOk := by
      decide +kernel
    cases hbeaten : (sampleRegistry.perform [.register newcomer 5]).heartbeat newcomer 9 with
    | error error =>
      rw [hbeaten] at hbeat
      cases hbeat
    | ok beaten =>
      obtain ⟨pruned, view, -, -, happly, hcontains⟩ :=
        hmonitor 9 beaten (by decide +kernel) hbeaten
      exact ⟨pruned, view, happly, hcontains⟩
  · obtain ⟨-, -, -, -, hfenced⟩ := live_kept_fenced_out hvalid hpruned rfl newcomer hidentity
    have hgone : (sampleRegistry.perform
        [.register newcomer 5, .pruneStale 2000]).members[newcomer.memberId]? = none := by
      decide +kernel
    refine (hfenced [] _ ?_ ?_ (by simp) rfl).1 2001
    · rintro ⟨member, hget, -⟩
      rw [hgone] at hget
      cases hget
    · intro before nowMillis hbefore
      simp at hbefore

end RegistryDocument

end RustDcp.Membership
