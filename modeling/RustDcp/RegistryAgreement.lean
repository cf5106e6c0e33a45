import RustDcp.RegistryCas

namespace RustDcp.Membership
set_option autoImplicit true

open RegistryDocument

theorem RegistryAction.apply_spec
    (h : RegistryAction.apply action before identity nowMillis = .ok (registry, returned)) :
    before.Evolves registry ∧ registry.Valid ∧
      ∀ view, returned = some view → registry.snapshot identity = .ok view := by
  cases action with
  | register =>
    obtain ⟨pruned, hpruned, h⟩ := bind_eq_ok.1 h
    obtain ⟨registered, hregistered, h⟩ := bind_eq_ok.1 h
    obtain ⟨view, hview, h⟩ := bind_eq_ok.1 h
    cases h
    refine ⟨(pruneStale_changes hpruned).2.evolves.trans (register_changes hregistered).2.evolves,
      (snapshot_eq_ok hview).1, ?_⟩
    intro view hsome
    cases hsome
    exact hview
  | heartbeat =>
    obtain ⟨renewed, hrenewed, h⟩ := bind_eq_ok.1 h
    obtain ⟨view, hview, h⟩ := bind_eq_ok.1 h
    cases h
    refine ⟨(heartbeat_changes hrenewed).2.evolves, (snapshot_eq_ok hview).1, ?_⟩
    intro view hsome
    cases hsome
    exact hview
  | monitor =>
    obtain ⟨renewed, hrenewed, h⟩ := bind_eq_ok.1 h
    obtain ⟨pruned, hpruned, h⟩ := bind_eq_ok.1 h
    obtain ⟨view, hview, h⟩ := bind_eq_ok.1 h
    cases h
    refine ⟨(heartbeat_changes hrenewed).2.evolves.trans (pruneStale_changes hpruned).2.evolves,
      (snapshot_eq_ok hview).1, ?_⟩
    intro view hsome
    cases hsome
    exact hview
  | remove =>
    obtain ⟨removed, hremoved, h⟩ := bind_eq_ok.1 h
    cases h
    exact ⟨(remove_changes hremoved).2.evolves, remove_valid hremoved, by simp⟩

def RegistryDocument.Has (document : RegistryDocument) (settings : Settings) : Prop :=
  document.vbucketCount = settings.vbucketCount ∧
    document.staleAfterMillis = settings.staleAfterMillis

theorem RegistryDocument.Evolves.has (h : Evolves before after) (hbefore : before.Has settings) :
    after.Has settings :=
  ⟨h.count.trans hbefore.1, h.stale.trans hbefore.2⟩

theorem openRegistry_eq_ok (h : openRegistry settings action identity stored = .ok before) :
    before.Has settings ∧
      ((∃ document, stored = some document ∧ before = document.value) ∨
        stored = none ∧ action = .register ∧ before.members = ∅) := by
  cases stored with
  | some stored =>
    obtain ⟨hsettings, h⟩ := then_eq_ok.1 h
    cases h
    simp only [validateSettings, then_eq_ok, reject_eq_ok, not_not] at hsettings
    exact ⟨⟨hsettings.2.1, hsettings.2.2⟩, .inl ⟨stored, rfl, rfl⟩⟩
  | none =>
    cases action with
    | register =>
      simp only [openRegistry, RegistryDocument.new] at h
      split at h
      · cases h
      split at h
      · cases h
      · cases h
        exact ⟨⟨rfl, rfl⟩, .inr ⟨rfl, rfl, rfl⟩⟩
    | heartbeat => cases h
    | monitor => cases h
    | remove => cases h

/-- What is known of a call of `mutate_registry` in the state of the document. -/
def Phase.Ok (settings : Settings) (s : CasSystem) (identity : MemberIdentity) : Phase → Prop
  | .loading => True
  | .loaded none => True
  | .loaded (some document) => document.value ∈ s.history ∧ document.cas < s.nextCas ∧
      ∀ current, s.stored = some current → current.cas = document.cas →
        current.value = document.value
  | .writing registry cas snapshot => registry.Valid ∧ registry.Has settings ∧
      (∀ view, snapshot = some view → registry.snapshot identity = .ok view) ∧
      ∀ token, cas = some token → token < s.nextCas ∧
        ∀ current, s.stored = some current → current.cas = token → current.value.Evolves registry
  | .finished (.ok (some view)) => ∃ document ∈ s.history, document.snapshot identity = .ok view
  | .finished _ => True

/-- The stored documents form one line of evolution, and every call works along it. -/
structure CasSystem.Consistent (settings : Settings) (s : CasSystem) : Prop where
  chain : s.history.Pairwise Evolves
  valid : ∀ document ∈ s.history, document.Valid ∧ document.Has settings
  last : s.stored.map (·.value) = s.history.getLast?
  token : ∀ current, s.stored = some current → current.cas < s.nextCas
  attempts : ∀ attempt ∈ s.attempts, attempt.phase.Ok settings s attempt.config.identity

namespace CasSystem

theorem start_consistent (settings : Settings) : start.Consistent settings :=
  ⟨List.Pairwise.nil, by simp [start], rfl, by simp [start], by simp [start]⟩

theorem Consistent.setAttempt (h : Consistent settings s) (i : Nat) {attempt : Attempt}
    (hattempt : attempt.phase.Ok settings s attempt.config.identity) :
    Consistent settings (s.setAttempt i attempt) := by
  refine ⟨h.chain, h.valid, h.last, h.token, ?_⟩
  intro other hother
  rcases List.mem_or_eq_of_mem_set hother with hother | rfl
  · exact h.attempts other hother
  · exact hattempt

theorem Consistent.evolves_stored (h : Consistent settings s) (hdocument : document ∈ s.history) :
    ∃ current, s.stored = some current ∧ document.Evolves current.value := by
  have hlast := h.last
  obtain ⟨older, newest, heq⟩ := List.eq_nil_or_concat s.history |>.resolve_left
    (List.ne_nil_of_mem hdocument)
  rw [List.concat_eq_append] at heq
  rw [heq, List.getLast?_append_of_ne_nil _ (List.cons_ne_nil _ _)] at hlast
  obtain ⟨current, hcurrent, hvalue⟩ := Option.map_eq_some_iff.1 hlast
  refine ⟨current, hcurrent, ?_⟩
  have hchain := h.chain
  rw [heq] at hchain hdocument
  rw [hvalue]
  rcases List.mem_append.1 hdocument with hdocument | hdocument
  · exact (List.pairwise_append.1 hchain).2.2 _ hdocument _ List.mem_cons_self
  · rw [List.mem_singleton.1 hdocument]
    exact .refl _

end CasSystem

theorem Phase.Ok.store {phase : Phase} (h : phase.Ok settings s identity)
    (registry : RegistryDocument) : phase.Ok settings (s.store registry) identity := by
  have hfresh : ∀ token current, token < s.nextCas → (s.store registry).stored = some current →
      current.cas ≠ token := by
    intro token current hlt hcurrent
    cases hcurrent
    exact Nat.ne_of_gt hlt
  cases phase with
  | loading => trivial
  | loaded stored =>
    cases stored with
    | none => trivial
    | some document =>
      obtain ⟨hmem, hlt, -⟩ := h
      refine ⟨List.mem_append_left _ hmem, Nat.lt_succ_of_lt hlt, ?_⟩
      intro current hcurrent hcas
      exact absurd hcas (hfresh _ _ hlt hcurrent)
  | writing written cas snapshot =>
    obtain ⟨hvalid, hhas, hview, hcas⟩ := h
    refine ⟨hvalid, hhas, hview, ?_⟩
    intro token htoken
    obtain ⟨hlt, -⟩ := hcas token htoken
    refine ⟨Nat.lt_succ_of_lt hlt, ?_⟩
    intro current hcurrent hsame
    exact absurd hsame (hfresh _ _ hlt hcurrent)
  | finished result =>
    match result with
    | .error error => trivial
    | .ok none => trivial
    | .ok (some view) =>
      obtain ⟨document, hmem, hview⟩ := h
      exact ⟨document, List.mem_append_left _ hmem, hview⟩

namespace CasSystem

theorem Consistent.store (h : Consistent settings s) (hvalid : registry.Valid)
    (hhas : registry.Has settings)
    (hevolves : ∀ current, s.stored = some current → current.value.Evolves registry) :
    Consistent settings (s.store registry) := by
  refine ⟨?_, ?_, ?_, ?_, ?_⟩
  · refine List.pairwise_append.2 ⟨h.chain, List.pairwise_singleton _ _, ?_⟩
    intro document hdocument newest hnewest
    rw [List.mem_singleton.1 hnewest]
    obtain ⟨current, hcurrent, hdocument⟩ := h.evolves_stored hdocument
    exact hdocument.trans (hevolves current hcurrent)
  · intro document hdocument
    rcases List.mem_append.1 hdocument with hdocument | hdocument
    · exact h.valid document hdocument
    · rw [List.mem_singleton.1 hdocument]
      exact ⟨hvalid, hhas⟩
  · exact (List.getLast?_append_of_ne_nil s.history (List.cons_ne_nil registry [])).symm
  · intro current hcurrent
    cases hcurrent
    exact Nat.lt_succ_self _
  · intro attempt hattempt
    exact (h.attempts attempt hattempt).store registry

inductive Moves (settings : Settings) (s : CasSystem) (attempt : Attempt) : Attempt → Prop where
  | load (hphase : attempt.phase = .loading) :
      Moves settings s attempt { attempt with phase := .loaded s.stored }
  | mutate (hphase : attempt.phase = .loaded revision) (nowMillis : Nat) :
      Moves settings s attempt (attempt.mutate settings revision nowMillis)
  | conflict (hphase : attempt.phase = .writing registry cas returned)
      (hconflict : s.accepts cas = false) : Moves settings s attempt attempt.conflict
  | fault (hphase : ∀ result, attempt.phase ≠ .finished result)
      (error : CouchbaseMembershipError) : Moves settings s attempt (attempt.finish (.error error))

inductive Effect (settings : Settings) (s : CasSystem) : CasSystem → Prop where
  | began (config : MembershipConfig) (action : RegistryAction) :
      Effect settings s { s with attempts := s.attempts ++
        [{ config, action, left := config.maxCasAttempts, phase := .loading }] }
  | moved (hget : s.attempts[i]? = some attempt) (hmoves : Moves settings s attempt attempt') :
      Effect settings s (s.setAttempt i attempt')
  | stored {i : Nat} {attempt : Attempt} {registry : RegistryDocument} {cas : Option Nat}
      {returned : Option MembershipSnapshot} {result : MResult (Option MembershipSnapshot)}
      (hget : s.attempts[i]? = some attempt)
      (hphase : attempt.phase = .writing registry cas returned) (haccepts : s.accepts cas = true)
      (hresult : result = .ok returned ∨ ∃ error, result = .error error) :
      Effect settings s ((s.store registry).setAttempt i (attempt.finish result))

theorem mutate_ok {attempt : Attempt} {revision : Option StoredRegistryDocument}
    (hphase : Phase.Ok settings s attempt.config.identity (.loaded revision)) (nowMillis : Nat) :
    (attempt.mutate settings revision nowMillis).phase.Ok settings s attempt.config.identity := by
  simp only [Attempt.mutate]
  cases hopen : openRegistry settings attempt.action attempt.config.identity revision with
  | error error => trivial
  | ok before =>
    obtain ⟨hhas, hbefore⟩ := openRegistry_eq_ok hopen
    dsimp only
    cases happly : attempt.action.apply before attempt.config.identity nowMillis with
    | error error => trivial
    | ok returned =>
      obtain ⟨registry, returned⟩ := returned
      obtain ⟨hevolves, hvalid, hview⟩ := RegistryAction.apply_spec happly
      dsimp only
      split
      · rename_i heq
        subst heq
        cases returned with
        | none => trivial
        | some view =>
          have hview := hview view rfl
          rcases hbefore with ⟨document, rfl, rfl⟩ | ⟨-, -, hempty⟩
          · exact ⟨document.value, hphase.1, hview⟩
          · -- An empty registry has no member to return a snapshot to.
            obtain ⟨-, ⟨member, hmember, -⟩, -⟩ := snapshot_eq_ok hview
            rw [hempty] at hmember
            simp at hmember
      · refine ⟨hvalid, hevolves.has hhas, hview, ?_⟩
        intro token htoken
        rcases hbefore with ⟨document, rfl, rfl⟩ | ⟨rfl, -⟩
        · cases htoken
          obtain ⟨-, hlt, hsame⟩ := hphase
          refine ⟨hlt, fun current hcurrent hcas => ?_⟩
          rw [hsame current hcurrent hcas]
          exact hevolves
        · cases htoken

theorem mutate_config (settings : Settings) (attempt : Attempt)
    (revision : Option StoredRegistryDocument) (nowMillis : Nat) :
    (attempt.mutate settings revision nowMillis).config = attempt.config := by
  simp only [Attempt.mutate]
  split
  · rfl
  split
  · rfl
  split <;> rfl

theorem conflict_ok (settings : Settings) (s : CasSystem) (attempt : Attempt) :
    attempt.conflict.phase.Ok settings s attempt.conflict.config.identity := by
  rw [Attempt.conflict]
  split <;> trivial

theorem Consistent.store_accepted (h : Consistent settings s)
    (hphase : Phase.Ok settings s identity (.writing registry cas returned))
    (haccepts : s.accepts cas = true) : Consistent settings (s.store registry) := by
  obtain ⟨hvalid, hhas, -, hcas⟩ := hphase
  refine h.store hvalid hhas ?_
  intro current hcurrent
  have hsame := of_decide_eq_true haccepts
  rw [hcurrent] at hsame
  exact (hcas current.cas hsame.symm).2 current hcurrent rfl

theorem step_effect (h : step settings s action = some t) : s.Effect settings t := by
  cases action with
  | begin config action =>
    cases h
    exact .began config action
  | load i =>
    obtain ⟨attempt, hget, h⟩ := Option.bind_eq_some_iff.1 h
    split at h
    · rename_i hphase
      cases h
      exact .moved hget (.load hphase)
    · cases h
  | mutate i nowMillis =>
    obtain ⟨attempt, hget, h⟩ := Option.bind_eq_some_iff.1 h
    split at h
    · rename_i revision hphase
      cases h
      exact .moved hget (.mutate hphase nowMillis)
    · cases h
  | write i =>
    obtain ⟨attempt, hget, h⟩ := Option.bind_eq_some_iff.1 h
    split at h
    · rename_i registry cas returned hphase
      split at h
      · rename_i haccepts
        cases h
        exact .stored hget hphase haccepts (.inl rfl)
      · rename_i hconflict
        cases h
        exact .moved hget (.conflict hphase (Bool.not_eq_true _ ▸ hconflict))
    · cases h
  | fault i error applied =>
    obtain ⟨attempt, hget, h⟩ := Option.bind_eq_some_iff.1 h
    split at h
    · cases h
    · rename_i registry cas returned hphase
      split at h
      · rename_i happlied
        cases h
        exact .stored hget hphase (Bool.and_eq_true_iff.1 happlied).2 (.inr ⟨error, rfl⟩)
      · cases h
        exact .moved hget (.fault (by rw [hphase]; simp) error)
    · rename_i hfinished hwriting
      cases h
      exact .moved hget (.fault hfinished error)

theorem step_consistent (h : Consistent settings s) (hs : step settings s action = some t) :
    Consistent settings t := by
  cases step_effect hs with
  | began config action =>
    refine ⟨h.chain, h.valid, h.last, h.token, ?_⟩
    intro attempt hattempt
    rcases List.mem_append.1 hattempt with hattempt | hattempt
    · exact h.attempts attempt hattempt
    · rw [List.mem_singleton.1 hattempt]
      trivial
  | moved hget hmoves =>
    have hok := h.attempts _ (List.mem_of_getElem? hget)
    refine h.setAttempt _ ?_
    cases hmoves with
    | load hphase =>
      cases hstored : s.stored with
      | none => trivial
      | some document =>
        refine ⟨?_, h.token document hstored, ?_⟩
        · have hlast := h.last
          rw [hstored] at hlast
          exact List.mem_of_getLast? hlast.symm
        · intro current hcurrent hcas
          cases hstored.symm.trans hcurrent
          rfl
    | mutate hphase nowMillis =>
      rw [hphase] at hok
      rw [mutate_config]
      exact mutate_ok hok nowMillis
    | conflict hphase hconflict => exact conflict_ok settings s _
    | fault hphase error => trivial
  | @stored _ _ registry _ returned _ hget hphase haccepts hresult =>
    have hok := h.attempts _ (List.mem_of_getElem? hget)
    rw [hphase] at hok
    refine (h.store_accepted hok haccepts).setAttempt _ ?_
    rcases hresult with rfl | ⟨error, rfl⟩
    · cases returned with
      | none => trivial
      | some view =>
        exact ⟨registry, List.mem_append_right _ List.mem_cons_self, hok.2.2.1 view rfl⟩
    · trivial

theorem step_generation (h : Consistent settings s) (hs : step settings s action = some t)
    (hstored : s.stored = some before) :
    ∃ after, t.stored = some after ∧ before.value.generation ≤ after.value.generation := by
  cases step_effect hs with
  | began config action => exact ⟨before, hstored, Nat.le_refl _⟩
  | moved hget hmoves => exact ⟨before, hstored, Nat.le_refl _⟩
  | @stored _ _ registry _ _ _ hget hphase haccepts hresult =>
    have hok := h.attempts _ (List.mem_of_getElem? hget)
    rw [hphase] at hok
    have hsame := of_decide_eq_true haccepts
    rw [hstored] at hsame
    exact ⟨_, rfl, ((hok.2.2.2 _ hsame.symm).2 before hstored rfl).generation⟩

theorem run_consistent (hr : Machine.run (step settings) start actions = some s) :
    Consistent settings s :=
  Machine.run_invariant (fun _ _ _ h hs => step_consistent h hs) (start_consistent settings) hr

theorem run_generation (h : Consistent settings s)
    (hr : Machine.run (step settings) s actions = some t) (hstored : s.stored = some before) :
    ∃ after, t.stored = some after ∧ before.value.generation ≤ after.value.generation := by
  induction actions generalizing s before with
  | nil =>
    cases hr
    exact ⟨before, hstored, Nat.le_refl _⟩
  | cons action actions ih =>
    obtain ⟨s', hs, hr⟩ := Machine.run_cons_iff.1 hr
    obtain ⟨middle, hmiddle, hle⟩ := step_generation h hs hstored
    obtain ⟨after, hafter, hle'⟩ := ih (step_consistent h hs) hr hmiddle
    exact ⟨after, hafter, Nat.le_trans hle hle'⟩

/-- The assignment that a member derives from a document that was stored. -/
def Derives (s : CasSystem) (identity : MemberIdentity) (assignment : VBucketAssignment) : Prop :=
  ∃ document ∈ s.history, ∃ view, document.snapshot identity = .ok view ∧
    view.assignment = assignment

theorem Consistent.same_roster (h : Consistent settings s) (hd : d ∈ s.history)
    (hd' : d' ∈ s.history) (hgeneration : d.generation = d'.generation) : d.roster = d'.roster := by
  have hpairwise : s.history.Pairwise fun d d' => d.generation = d'.generation →
      d.roster = d'.roster := h.chain.imp fun hevolves => hevolves.roster
  have : Std.Symm fun d d' : RegistryDocument => d.generation = d'.generation →
      d.roster = d'.roster := ⟨fun _ _ hab heq => (hab heq.symm).symm⟩
  exact hpairwise.forall_of_forall (fun _ _ _ => rfl) hd hd' hgeneration

theorem Consistent.derives_from (h : Consistent settings s)
    (hderives : s.Derives identity assignment)
    (hd : d ∈ s.history) (hgeneration : assignment.generation = d.generation) :
    ∃ view, d.snapshot identity = .ok view ∧ view.assignment = assignment := by
  obtain ⟨document, hdocument, view, hview, rfl⟩ := hderives
  obtain ⟨-, -, -, -, -, hview', -⟩ := snapshot_chunk hview
  have hsame : document.generation = d.generation := hview'.symm.trans hgeneration
  have hroster := h.same_roster hdocument hd hsame
  have hcount : document.vbucketCount = d.vbucketCount :=
    (h.valid _ hdocument).2.1.trans (h.valid _ hd).2.1.symm
  have hregistered := (snapshot_eq_ok hview).2.1.of_roster hroster
  obtain ⟨other, hother⟩ := snapshot_of_registered (h.valid _ hd).1 hregistered
  exact ⟨other, hother, (snapshot_assignment_eq hcount hsame hroster hview hother).symm⟩

theorem Consistent.disjoint (h : Consistent settings s) (hderives : s.Derives identity assignment)
    (hderives' : s.Derives identity' assignment')
    (hgeneration : assignment.generation = assignment'.generation) (hne : identity ≠ identity')
    (hv : v ∈ assignment.vbuckets) : v ∉ assignment'.vbuckets := by
  obtain ⟨document, hdocument, view, hview, rfl⟩ := hderives
  obtain ⟨-, -, -, -, -, hview', -⟩ := snapshot_chunk hview
  obtain ⟨other, hother, rfl⟩ :=
    h.derives_from hderives' hdocument (hgeneration.symm.trans hview')
  exact snapshot_disjoint hne hview hother hv

theorem Consistent.cover (h : Consistent settings s) (hderives : s.Derives identity assignment)
    (hv : v.toNat < settings.vbucketCount) :
    ∃ owner owned, s.Derives owner owned ∧ owned.generation = assignment.generation ∧
      v ∈ owned.vbuckets := by
  obtain ⟨document, hdocument, view, hview, rfl⟩ := hderives
  obtain ⟨hvalid, hcount, -⟩ := h.valid _ hdocument
  obtain ⟨index, member, hindex, -, -, hgeneration, -⟩ := snapshot_chunk hview
  have hsome : document.ordered ≠ [] := List.ne_nil_of_mem (List.mem_of_getElem? hindex)
  obtain ⟨owner, owned, howned, hin⟩ := snapshot_cover hvalid hsome (hcount ▸ hv)
  obtain ⟨-, -, -, -, -, hgeneration', -⟩ := snapshot_chunk howned
  exact ⟨owner, owned.assignment, ⟨document, hdocument, owned, howned, rfl⟩,
    hgeneration'.trans hgeneration.symm, hin⟩

/-- The stored generation never decreases, documents of one generation have the same members, and
the assignments derived from one generation deal out every vBucket once. -/
theorem membership_agreement (settings : Settings)
    (hr : Machine.run (step settings) start actions = some s) :
    (∀ later t before, Machine.run (step settings) s later = some t → s.stored = some before →
      ∃ after, t.stored = some after ∧ before.value.generation ≤ after.value.generation) ∧
    (s.history.Pairwise fun older newer => older.generation ≤ newer.generation) ∧
    (∀ d ∈ s.history, ∀ d' ∈ s.history, d.generation = d'.generation → d.entries = d'.entries) ∧
    (∀ attempt ∈ s.attempts, ∀ view, attempt.phase = .finished (.ok (some view)) →
      s.Derives attempt.config.identity view.assignment) ∧
    (∀ identity identity' assignment assignment', s.Derives identity assignment →
      s.Derives identity' assignment' → assignment.generation = assignment'.generation →
      identity ≠ identity' → ∀ v ∈ assignment.vbuckets, v ∉ assignment'.vbuckets) ∧
    ∀ identity assignment, s.Derives identity assignment →
      ∀ v : UInt16, v.toNat < settings.vbucketCount → ∃! owner, ∃ owned, s.Derives owner owned ∧
        owned.generation = assignment.generation ∧ v ∈ owned.vbuckets := by
  have h := run_consistent hr
  refine ⟨fun later t before hlater hstored => run_generation h hlater hstored,
    h.chain.imp fun hevolves => hevolves.generation, ?_, ?_, ?_, ?_⟩
  · intro d hd d' hd' hgeneration
    exact entries_eq_of_roster (h.same_roster hd hd' hgeneration)
  · intro attempt hattempt view hphase
    have hok := h.attempts attempt hattempt
    rw [hphase] at hok
    obtain ⟨document, hdocument, hview⟩ := hok
    exact ⟨document, hdocument, view, hview, rfl⟩
  · intro identity identity' assignment assignment' hderives hderives' hgeneration hne v hv
    exact h.disjoint hderives hderives' hgeneration hne hv
  · intro identity assignment hderives v hv
    obtain ⟨owner, owned, howned, hgeneration, hin⟩ := h.cover hderives hv
    refine ⟨owner, ⟨owned, howned, hgeneration, hin⟩, ?_⟩
    rintro other ⟨assigned, hassigned, hgeneration', hin'⟩
    by_contra hne
    exact h.disjoint hassigned howned (hgeneration'.trans hgeneration.symm) hne hin' hin

def sampleSettings : Settings := { vbucketCount := 4, staleAfterMillis := 70000 }

def sampleMember (memberId : String) : MembershipConfig :=
  { identity := { memberId, incarnation := "i1" }, maxCasAttempts := 16 }

/-- Two members register, the second with a conflict, and the first sends a heartbeat. -/
def sampleRegistrations : List CasAction :=
  [.begin (sampleMember "a") .register, .begin (sampleMember "b") .register, .load 0,
    .load 1, .mutate 0 1000, .mutate 1 2000, .write 0, .write 1, .load 1, .mutate 1 2000, .write 1,
    .begin (sampleMember "a") .heartbeat, .load 2, .mutate 2 3000, .write 2]

theorem membership_agreement_sample : ∃ s a b,
    Machine.run (step sampleSettings) start sampleRegistrations = some s ∧ s.history.length = 3 ∧
      (s.history.Pairwise fun older newer => older.generation ≤ newer.generation) ∧
      s.Derives (sampleMember "a").identity a ∧ s.Derives (sampleMember "b").identity b ∧
      a.generation = b.generation ∧ (∀ v ∈ a.vbuckets, v ∉ b.vbuckets) ∧
      ∀ v : UInt16, v.toNat < 4 → ∃! owner, ∃ owned, s.Derives owner owned ∧
        owned.generation = a.generation ∧ v ∈ owned.vbuckets := by
  have hsample : ((Machine.run (step sampleSettings) start sampleRegistrations).bind fun s =>
      s.attempts[2]?.bind fun first => s.attempts[1]?.bind fun second =>
        first.view?.bind fun a => second.view?.map fun b =>
          (s.history.length, (first.config.identity, second.config.identity),
            decide (a.assignment.generation = b.assignment.generation))) =
      some (3, ((sampleMember "a").identity, (sampleMember "b").identity), true) := by
    decide +kernel
  obtain ⟨s, hs, hsample⟩ := Option.bind_eq_some_iff.1 hsample
  obtain ⟨first, hfirst, hsample⟩ := Option.bind_eq_some_iff.1 hsample
  obtain ⟨second, hsecond, hsample⟩ := Option.bind_eq_some_iff.1 hsample
  obtain ⟨a, ha, hsample⟩ := Option.bind_eq_some_iff.1 hsample
  obtain ⟨b, hb, hsample⟩ := Option.map_eq_some_iff.1 hsample
  simp only [Prod.mk.injEq, decide_eq_true_eq] at hsample
  obtain ⟨hlength, ⟨hidentity, hidentity'⟩, hgeneration⟩ := hsample
  obtain ⟨-, hordered, -, hderives, hdisjoint, hcover⟩ := membership_agreement sampleSettings hs
  have hderivesA := hderives first (List.mem_of_getElem? hfirst) a (Attempt.view?_eq_some ha)
  have hderivesB := hderives second (List.mem_of_getElem? hsecond) b (Attempt.view?_eq_some hb)
  rw [hidentity] at hderivesA
  rw [hidentity'] at hderivesB
  exact ⟨s, a.assignment, b.assignment, hs, hlength, hordered, hderivesA, hderivesB, hgeneration,
    hdisjoint _ _ _ _ hderivesA hderivesB hgeneration (by decide), hcover _ _ hderivesA⟩

end CasSystem

end RustDcp.Membership
