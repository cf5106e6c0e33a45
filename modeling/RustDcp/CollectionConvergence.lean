import RustDcp.CollectionManifest
import RustDcp.CollectionOrder
import RustDcp.Watermark

namespace RustDcp
set_option autoImplicit true

namespace ResolvedCollectionFilter

theorem createCollection_injective {self : ResolvedCollectionFilter}
    (h : self.createCollection c key = .ok next)
    (hinjective : InjectiveNames self.collectionNames) :
    InjectiveNames next.collectionNames := by
  have hinsert : ∀ name, createCollection.insertName self c name = .ok next →
      InjectiveNames next.collectionNames := by
    intro name h
    rw [createCollection.insertName] at h
    split at h
    · cases h
    rename_i hfind
    cases h
    apply hinjective.insert
    intro other hne hother
    have hnone := List.find?_eq_none.1 hfind (other, name)
      (Std.ExtTreeMap.mem_toList_iff_getElem?_eq_some.2 hother)
    simp [hne] at hnone
  rw [createCollection] at h
  split at h
  · cases h
  split at h
  · split at h
    · cases h
    · exact hinsert _ h
  · exact hinsert _ h

theorem applyKind_injective {self : ResolvedCollectionFilter}
    (h : self.applyKind key kind = .ok next) (hinjective : InjectiveNames self.collectionNames) :
    InjectiveNames next.collectionNames := by
  cases kind with
  | collectionCreated scopeId collectionId maxTtl =>
    rw [applyKind] at h
    split at h
    · exact createCollection_injective h hinjective
    · cases h
      exact hinjective
  | collectionDropped scopeId collectionId =>
    rw [applyKind] at h
    split at h
    · rw [dropCollection_eq_ok h]
      exact hinjective.erase collectionId
    · cases h
      exact hinjective
  | scopeDropped scopeId =>
    rw [applyKind] at h
    split at h
    · cases h
      exact .empty
    · cases h
      exact hinjective
  | collectionFlushed | scopeCreated | collectionChanged | unknown =>
    cases h
    exact hinjective

end ResolvedCollectionFilter

namespace RegistryState

/-- The registry after a system event; one that it refuses leaves it as it was. -/
def observe (self : RegistryState) (event : SystemEvent) : RegistryState :=
  (self.decorate (.systemEvent event)).2

theorem observe_eq (self : RegistryState) (event : SystemEvent) :
    self.observe event =
      match self.applySystemEvent event with
      | .ok next => next
      | .error _ => self := by
  rw [observe, decorate]
  cases self.applySystemEvent event with
  | ok next => rfl
  | error error => rfl

theorem observe_cases (self : RegistryState) (event : SystemEvent) :
    self.observe event = self ∨
      ∃ observed current next, self.observedManifestUid = some observed ∧
        observed < event.manifestUid ∧ self.selection.resolved = some current ∧
        current.applyKind event.key event.kind = .ok next ∧
        (self.observe event).selection.resolved = some next ∧
        (self.observe event).observedManifestUid = some event.manifestUid := by
  cases hobserved : self.observedManifestUid with
  | none =>
    left
    have hlegacy : ∃ error, self.applySystemEvent event = .error error := by
      rw [applySystemEvent]
      split
      · exact ⟨_, rfl⟩
      · rename_i observed hsome
        rw [hobserved] at hsome
        cases hsome
    obtain ⟨error, herror⟩ := hlegacy
    rw [observe_eq, herror]
  | some observed =>
    by_cases hold : event.manifestUid ≤ observed
    · left
      rw [observe_eq, applySystemEvent_stale hobserved hold]
    have hnew := Nat.lt_of_not_le hold
    obtain ⟨current, hcurrent⟩ := Option.isSome_iff_exists.1
      (self.resolvedOfObserved (by rw [hobserved]; rfl))
    cases happly : current.applyKind event.key event.kind with
    | error error =>
      left
      have hrefused : self.applySystemEvent event = .error error := by
        rw [applySystemEvent]
        split
        · rename_i hnone
          rw [hobserved] at hnone
          cases hnone
        · rename_i other hother
          cases hobserved.symm.trans hother
          rw [if_neg hold]
          simp only [hcurrent, Option.get_some, happly]
      rw [observe_eq, hrefused]
    | ok next =>
      right
      obtain ⟨after, hafter, hselection, huid⟩ :=
        applySystemEvent_fresh hcurrent hobserved hnew happly
      refine ⟨observed, current, next, rfl, hnew, hcurrent, happly, ?_⟩
      rw [observe_eq, hafter]
      exact ⟨by rw [hselection], huid⟩

def level (self : RegistryState) : Nat := self.observedManifestUid.getD 0

theorem observe_deduplicates :
    Watermark.Deduplicates level SystemEvent.manifestUid observe where
  old := by
    intro self event hold
    rcases self.observe_cases event with hsame | ⟨observed, current, next, hobserved, hnew, -⟩
    · exact hsame
    · rw [level, hobserved] at hold
      exact absurd hnew (Nat.not_lt.2 hold)
  new := by
    intro self event
    rcases self.observe_cases event with hsame | ⟨observed, current, next, -, -, -, -, -, huid⟩
    · exact .inl hsame
    · right
      rw [level, huid]
      rfl

def Injective (self : RegistryState) : Prop :=
  ∀ resolved, self.selection.resolved = some resolved → InjectiveNames resolved.collectionNames

theorem Injective.observe {self : RegistryState} (h : self.Injective) (event : SystemEvent) :
    (self.observe event).Injective := by
  rcases self.observe_cases event with
    hsame | ⟨observed, current, next, -, -, hcurrent, happly, hresolved, -⟩
  · rw [hsame]
    exact h
  · intro resolved hres
    cases hresolved.symm.trans hres
    exact ResolvedCollectionFilter.applyKind_injective happly (h current hcurrent)

def ofResolved (resolved : ResolvedCollectionFilter) : RegistryState :=
  new { resolved := some resolved, legacyCollectionName := none }

end RegistryState

/-- A system event as a vBucket's stream carries it: under its own vBucket and seqno. -/
structure ChangeDelivery where
  vbucket : UInt16
  seqno : Nat

namespace ChangeDelivery

def deliver (history : List SystemEvent) (self : Watermark.Shuffle UInt16 RegistryState)
    (delivery : ChangeDelivery) : Watermark.Shuffle UInt16 RegistryState :=
  match history[self.positions delivery.vbucket]? with
  | some event => {
      positions := Function.update self.positions delivery.vbucket
        (self.positions delivery.vbucket + 1)
      state := self.state.observe
        { event with vbucket := delivery.vbucket, seqno := delivery.seqno } }
  | none => self

/-- The registry that the streams share, and how far each vBucket is in the history. -/
def deliverAll (history : List SystemEvent) (resolved : ResolvedCollectionFilter)
    (schedule : List ChangeDelivery) : Watermark.Shuffle UInt16 RegistryState :=
  schedule.foldl (deliver history)
    { positions := fun _ => 0, state := .ofResolved resolved }

theorem deliver_eq (history : List SystemEvent) (self : Watermark.Shuffle UInt16 RegistryState)
    (delivery : ChangeDelivery) :
    deliver history self delivery =
      Watermark.deliver RegistryState.observe history self delivery.vbucket := by
  rw [deliver, Watermark.deliver]
  cases history[self.positions delivery.vbucket]? with
  | none => rfl
  | some event =>
    have hsame : self.state.observe
        { event with vbucket := delivery.vbucket, seqno := delivery.seqno } =
          self.state.observe event := by
      rw [RegistryState.observe_eq, RegistryState.observe_eq]
      rfl
    dsimp only
    rw [hsame]

theorem deliverAll_eq (history : List SystemEvent) (resolved : ResolvedCollectionFilter)
    (schedule : List ChangeDelivery) :
    deliverAll history resolved schedule =
      Watermark.deliverAll RegistryState.observe history (.ofResolved resolved)
        (schedule.map (·.vbucket)) := by
  rw [deliverAll, Watermark.deliverAll, List.foldl_map]
  congr 1
  funext self delivery
  exact deliver_eq history self delivery

theorem deliverAll_snoc (history : List SystemEvent) (resolved : ResolvedCollectionFilter)
    (schedule : List ChangeDelivery) (delivery : ChangeDelivery) :
    deliverAll history resolved (schedule ++ [delivery]) =
      deliver history (deliverAll history resolved schedule) delivery := by
  rw [deliverAll, List.foldl_append]
  rfl

theorem observed_isSome (history : List SystemEvent) (resolved : ResolvedCollectionFilter)
    (schedule : List ChangeDelivery) :
    (deliverAll history resolved schedule).state.observedManifestUid.isSome = true := by
  rw [deliverAll_eq]
  refine Watermark.deliverAll_invariant
    (P := fun s : RegistryState => s.observedManifestUid.isSome = true) ?_ rfl _
  intro s event hsome
  rcases s.observe_cases event with hsame | ⟨observed, current, next, -, -, -, -, -, huid⟩
  · rw [hsame]
    exact hsome
  · rw [huid]
    rfl

theorem level_mono (history : List SystemEvent) (resolved : ResolvedCollectionFilter)
    (schedule : List ChangeDelivery) (delivery : ChangeDelivery) :
    (deliverAll history resolved schedule).state.level ≤
      (deliverAll history resolved (schedule ++ [delivery])).state.level := by
  rw [deliverAll_snoc, deliver]
  split
  · exact RegistryState.observe_deduplicates.level_le _ _ (Nat.le_total _ _)
  · exact Nat.le_refl _

/-- The registry does not depend on how the vBuckets deliver the history. -/
theorem delivery_converges {manifest : CollectionManifest}
    (hvalid : manifest.validateIdentity = .ok ())
    (hresolve : manifest.resolve configured streamId = .ok resolved)
    (hincreasing : history.Pairwise fun a b => a.manifestUid < b.manifestUid)
    (schedule : List ChangeDelivery) :
    (∃ longest ≤ history.length,
      (∀ v, (deliverAll history resolved schedule).positions v ≤ longest) ∧
      (longest = 0 ∨ ∃ v, (deliverAll history resolved schedule).positions v = longest) ∧
      (deliverAll history resolved schedule).state =
        (history.take longest).foldl RegistryState.observe (.ofResolved resolved)) ∧
    (∃ current, (deliverAll history resolved schedule).state.selection.resolved = some current ∧
      InjectiveNames current.collectionNames) ∧
    (∀ delivery, ∃ before after,
      (deliverAll history resolved schedule).state.observedManifestUid = some before ∧
      (deliverAll history resolved (schedule ++ [delivery])).state.observedManifestUid =
        some after ∧
      before ≤ after) := by
  have hobserved := observed_isSome history resolved schedule
  refine ⟨?_, ?_, ?_⟩
  · rw [deliverAll_eq]
    obtain ⟨longest, h⟩ := Watermark.converges RegistryState.observe_deduplicates hincreasing
      (.ofResolved resolved) (schedule.map (·.vbucket))
    exact ⟨longest, h.length, h.bound, h.reached, h.state⟩
  · obtain ⟨current, hcurrent⟩ := Option.isSome_iff_exists.1
      ((deliverAll history resolved schedule).state.resolvedOfObserved hobserved)
    refine ⟨current, hcurrent, ?_⟩
    have hinjective : (deliverAll history resolved schedule).state.Injective := by
      rw [deliverAll_eq]
      refine Watermark.deliverAll_invariant (fun s event h => h.observe event) ?_ _
      rintro first ⟨⟩
      exact CollectionManifest.resolve_injective hvalid hresolve
    exact hinjective current hcurrent
  · intro delivery
    obtain ⟨before, hbefore⟩ := Option.isSome_iff_exists.1 hobserved
    obtain ⟨after, hafter⟩ := Option.isSome_iff_exists.1
      (observed_isSome history resolved (schedule ++ [delivery]))
    have hle := level_mono history resolved schedule delivery
    rw [RegistryState.level, RegistryState.level, hbefore, hafter] at hle
    exact ⟨before, after, hbefore, hafter, hle⟩

def twoCollections : CollectionManifest where
  uid := 1
  scopes := [{
    uid := 8
    name := "app"
    collections := [{ uid := 9, name := "a" }, { uid := 10, name := "b" }] }]

def wholeScope : CollectionFilter := { scope := "app", collections := [] }

def renamed : List SystemEvent :=
  [{ vbucket := 0, seqno := 0, manifestUid := 2, version := 0, key := []
     kind := .collectionDropped 8 9 },
   { vbucket := 0, seqno := 0, manifestUid := 3, version := 0, key := [97]
     kind := .collectionCreated 8 11 none }]

def overtaking : List ChangeDelivery := [⟨0, 5⟩, ⟨1, 7⟩, ⟨1, 8⟩, ⟨0, 6⟩]

theorem delivery_converges_overtaking : ∃ resolved longest,
    twoCollections.resolve wholeScope none = .ok resolved ∧
      (deliverAll renamed resolved overtaking).state =
        (renamed.take longest).foldl RegistryState.observe (.ofResolved resolved) := by
  have hresolve : (twoCollections.resolve wholeScope none).isOk = true := by decide +kernel
  cases hresolved : twoCollections.resolve wholeScope none with
  | error error =>
    rw [hresolved] at hresolve
    cases hresolve
  | ok resolved =>
    obtain ⟨⟨longest, -, -, -, hstate⟩, -⟩ := delivery_converges (by decide +kernel) hresolved
      (by decide : renamed.Pairwise fun a b => a.manifestUid < b.manifestUid) overtaking
    exact ⟨resolved, longest, rfl, hstate⟩

end ChangeDelivery

end RustDcp
