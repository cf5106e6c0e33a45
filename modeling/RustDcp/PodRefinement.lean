import RustDcp.PodView

namespace RustDcp.Kubernetes
set_option autoImplicit true

def opened (pods : List PodState) : List PodWatchEvent := .init :: pods.map .initApply

def relist (pods : List PodState) : List PodWatchEvent := opened pods ++ [.initDone]

theorem opened_snoc (pods : List PodState) (pod : PodState) :
    opened (pods ++ [pod]) = opened pods ++ [.initApply pod] := by
  simp [opened]

theorem view_opened (before : List PodWatchEvent) (pods : List PodState) :
    view (before ++ opened pods) = view before := by
  induction pods using List.reverseRecOn with
  | nil => exact view_init before
  | append_singleton pods pod ih =>
    rw [opened_snoc, ← List.append_assoc, view_initApply, ih]

/-- Incremental events, in any order, that tell what a relist tells: the listed pods are applied,
and those of the view that are not listed are deleted. -/
structure Equivalent (before : List PodWatchEvent) (pods : List PodState)
    (events : List PodWatchEvent) : Prop where
  started : .initDone ∈ before
  distinct : (pods.map (·.podName)).Nodup
  incremental : ∀ event ∈ events, (∃ pod ∈ pods, event = .apply pod) ∨
    ∃ gone, event = .delete gone ∧ ∀ pod ∈ pods, pod.podName ≠ gone.podName
  applied : ∀ pod ∈ pods, .apply pod ∈ events
  deleted : ∀ name pod, view before name = some pod → (∀ other ∈ pods, other.podName ≠ name) →
    .delete ⟨name, pod.uid⟩ ∈ events

theorem relisted_opened (before : List PodWatchEvent) (pods : List PodState) (name : String) :
    relisted name (before ++ opened pods).reverse = pods.reverse.find? (·.podName = name) := by
  induction pods using List.reverseRecOn with
  | nil => simp [opened, relisted]
  | append_singleton pods pod ih =>
    rw [opened_snoc, ← List.append_assoc, relisted_snoc, ih, List.reverse_append,
      List.reverse_singleton, List.singleton_append, List.find?_cons]
    by_cases hname : pod.podName = name <;> simp [hname]

theorem view_relist (before : List PodWatchEvent) (pods : List PodState) (name : String) :
    view (before ++ relist pods) name =
      (pods.reverse.find? (·.podName = name)).filter (·.isEffective) := by
  rw [relist, ← List.append_assoc, view_initDone, relisted_opened]

theorem view_relist_of_mem (hdistinct : (pods.map (·.podName)).Nodup) (hpod : pod ∈ pods) :
    view (before ++ relist pods) pod.podName = if pod.isEffective then some pod else none := by
  have hfind : pods.reverse.find? (·.podName = pod.podName) = some pod := by
    cases hfound : pods.reverse.find? (·.podName = pod.podName) with
    | none =>
      have hnone := List.find?_eq_none.1 hfound pod (List.mem_reverse.2 hpod)
      simp at hnone
    | some other =>
      have hother := List.mem_reverse.1 (List.mem_of_find?_eq_some hfound)
      have hname : other.podName = pod.podName := by simpa using List.find?_some hfound
      rw [List.inj_on_of_nodup_map hdistinct hother hpod hname]
  rw [view_relist, hfind, Option.filter_some]

theorem view_relist_of_not_mem (h : ∀ pod ∈ pods, pod.podName ≠ name) :
    view (before ++ relist pods) name = none := by
  have hfind : pods.reverse.find? (·.podName = name) = none := by
    rw [List.find?_eq_none]
    intro pod hpod
    simpa using h pod (List.mem_reverse.1 hpod)
  rw [view_relist, hfind]
  rfl

theorem view_incremental_of_ne (hdone : .initDone ∈ before)
    (hevent : (∃ pod : PodState, pod.podName ≠ name ∧ event = .apply pod) ∨
      ∃ gone : PodIdentity, gone.podName ≠ name ∧ event = .delete gone) :
    view (before ++ [event]) name = view before name := by
  rcases hevent with ⟨pod, hne, rfl⟩ | ⟨gone, hne, rfl⟩
  · rw [view_apply hdone, if_neg hne]
  · rw [view_delete hdone, if_neg hne]

theorem view_of_applied (hdone : .initDone ∈ before) (hpod : PodWatchEvent.apply pod ∈ events)
    (hevents : ∀ event ∈ events, event = .apply pod ∨
      (∃ other : PodState, other.podName ≠ pod.podName ∧ event = .apply other) ∨
      ∃ gone : PodIdentity, gone.podName ≠ pod.podName ∧ event = .delete gone) :
    view (before ++ events) pod.podName = if pod.isEffective then some pod else none := by
  -- induction from the newest event: it applies the pod, or says nothing of its name
  induction events using List.reverseRecOn with
  | nil => cases hpod
  | append_singleton events event ih =>
    have hdone' : .initDone ∈ before ++ events := List.mem_append_left _ hdone
    rw [← List.append_assoc]
    rcases hevents event (by simp) with rfl | hother
    · rw [view_apply hdone', if_pos rfl]
    · rw [view_incremental_of_ne hdone' hother]
      apply ih
      · rcases List.mem_append.1 hpod with hpod | hpod
        · exact hpod
        · obtain rfl := List.mem_singleton.1 hpod
          rcases hother with ⟨other, hne, heq⟩ | ⟨gone, hne, heq⟩
          · cases heq
            exact absurd rfl hne
          · cases heq
      · intro other hmem
        exact hevents other (List.mem_append_left _ hmem)

theorem view_of_deletes (hdone : .initDone ∈ before)
    (hevents : ∀ event ∈ events,
      (∃ pod : PodState, pod.podName ≠ name ∧ event = .apply pod) ∨
      ∃ gone : PodIdentity, event = .delete gone) :
    view (before ++ events) name =
      (view before name).filter fun pod => .delete ⟨name, pod.uid⟩ ∉ events := by
  induction events using List.reverseRecOn with
  | nil =>
    rw [List.append_nil]
    cases view before name with
    | none => rfl
    | some pod => simp [Option.filter_some]
  | append_singleton events event ih =>
    have hdone' : .initDone ∈ before ++ events := List.mem_append_left _ hdone
    have hbefore := ih fun other hmem => hevents other (List.mem_append_left _ hmem)
    rw [← List.append_assoc]
    rcases hevents event (by simp) with ⟨pod, hne, rfl⟩ | ⟨gone, rfl⟩
    · rw [view_apply hdone', if_neg hne, hbefore]
      simp
    · rw [view_delete hdone', hbefore]
      by_cases hname : gone.podName = name
      · rw [if_pos hname, Option.filter_filter]
        congr 1
        funext pod
        obtain ⟨goneName, goneUid⟩ := gone
        obtain rfl : goneName = name := hname
        simp [PodIdentity.mk.injEq]
      · rw [if_neg hname]
        congr 1
        funext pod
        have hne : PodWatchEvent.delete ⟨name, pod.uid⟩ ≠ .delete gone := by
          rintro heq
          cases heq
          exact hname rfl
        simp [hne]

theorem Equivalent.view_eq (h : Equivalent before pods events) :
    view (before ++ relist pods) = view (before ++ events) := by
  funext name
  by_cases hlisted : ∃ pod ∈ pods, pod.podName = name
  · obtain ⟨pod, hpod, rfl⟩ := hlisted
    rw [view_relist_of_mem h.distinct hpod, view_of_applied h.started (h.applied pod hpod)]
    intro event hevent
    rcases h.incremental event hevent with ⟨other, hother, rfl⟩ | ⟨gone, rfl, hgone⟩
    · by_cases hname : other.podName = pod.podName
      · exact .inl (by rw [List.inj_on_of_nodup_map h.distinct hother hpod hname])
      · exact .inr (.inl ⟨other, hname, rfl⟩)
    · exact .inr (.inr ⟨gone, (hgone pod hpod).symm, rfl⟩)
  · have hunlisted : ∀ pod ∈ pods, pod.podName ≠ name :=
      fun pod hpod heq => hlisted ⟨pod, hpod, heq⟩
    rw [view_relist_of_not_mem hunlisted, view_of_deletes h.started]
    · cases hview : view before name with
      | none => rfl
      | some pod => simp [Option.filter_some, h.deleted name pod hview hunlisted]
    · intro event hevent
      rcases h.incremental event hevent with ⟨pod, hpod, rfl⟩ | ⟨gone, rfl, -⟩
      · exact .inl ⟨pod, hunlisted pod hpod, rfl⟩
      · exact .inr ⟨gone, rfl⟩

def activeAfter (state : PodMembershipState) (history : List PodWatchEvent) : Pods :=
  ((Watch.start state).run history).state.active

def generationAfter (state : PodMembershipState) (history : List PodWatchEvent) : Nat :=
  ((Watch.start state).run history).state.generation

section

variable {identity : PodIdentity} {vbucketCount : Nat}

theorem follows_of_wellFormed (hnew : PodMembershipState.new identity vbucketCount = .ok state)
    (h : WellFormed history) (hroom : viewChanges history ≤ u64Max) :
    ∃ phase, ((Watch.start state).run history).state.Follows history phase := by
  obtain ⟨phase, hwatched⟩ := h.watched
  refine ⟨phase, follows_run (PodMembershipState.new_follows hnew) hwatched ?_⟩
  intro before hbefore
  exact ⟨h.distinct before hbefore, (viewChanges_mono hbefore).trans hroom⟩

theorem activeAfter_eq (hnew : PodMembershipState.new identity vbucketCount = .ok state)
    (h : WellFormed history) (hroom : viewChanges history ≤ u64Max) (name : String) :
    (activeAfter state history)[name]? = view history name := by
  obtain ⟨phase, hfollows⟩ := follows_of_wellFormed hnew h hroom
  exact hfollows.active name

theorem activeAfter_congr (hnew : PodMembershipState.new identity vbucketCount = .ok state)
    (h : WellFormed history) (hroom : viewChanges history ≤ u64Max)
    (h' : WellFormed history') (hroom' : viewChanges history' ≤ u64Max)
    (hview : view history = view history') :
    activeAfter state history = activeAfter state history' := by
  apply Std.ExtTreeMap.ext_getElem?
  intro name
  rw [activeAfter_eq hnew h hroom, activeAfter_eq hnew h' hroom', hview]

open Classical in
/-- The watcher refines the reference view. -/
theorem refines_view (hnew : PodMembershipState.new identity vbucketCount = .ok state)
    (h : WellFormed history) (hroom : viewChanges history ≤ u64Max) :
    (∀ before, before <+: history → ∀ name : String,
      (activeAfter state before)[name]? = view before name) ∧
    (∀ before event, before ++ [event] <+: history →
      generationAfter state (before ++ [event]) = generationAfter state before +
        if view (before ++ [event]) = view before then 0 else 1) ∧
    (∀ before pods, before ++ opened pods <+: history →
      activeAfter state (before ++ opened pods) = activeAfter state before) ∧
    (∀ before pod, before ++ [.delete pod] <+: history →
      (∀ current, view before pod.podName = some current → current.uid ≠ pod.uid) →
      activeAfter state (before ++ [.delete pod]) = activeAfter state before) ∧
    (∀ before pods events, before ++ relist pods <+: history → Equivalent before pods events →
      WellFormed (before ++ events) → viewChanges (before ++ events) ≤ u64Max →
      activeAfter state (before ++ relist pods) = activeAfter state (before ++ events)) := by
  have hroomOf : ∀ before, before <+: history → viewChanges before ≤ u64Max :=
    fun before hbefore => (viewChanges_mono hbefore).trans hroom
  -- two prefixes of the history with one view have the same active pods
  have hcongr : ∀ before after, before ++ after <+: history →
      view (before ++ after) = view before →
      activeAfter state (before ++ after) = activeAfter state before := by
    intro before after hafter hview
    have hbefore := (List.prefix_append before after).trans hafter
    exact activeAfter_congr hnew (h.of_prefix hafter) (hroomOf _ hafter) (h.of_prefix hbefore)
      (hroomOf _ hbefore) hview
  refine ⟨?_, ?_, ?_, ?_, ?_⟩
  · intro before hbefore
    exact activeAfter_eq hnew (h.of_prefix hbefore) (hroomOf before hbefore)
  · intro before event hevent
    have hbefore := (List.prefix_append before [event]).trans hevent
    obtain ⟨phase, hfollows⟩ :=
      follows_of_wellFormed hnew (h.of_prefix hbefore) (hroomOf _ hbefore)
    obtain ⟨phase', hfollows'⟩ :=
      follows_of_wellFormed hnew (h.of_prefix hevent) (hroomOf _ hevent)
    rw [generationAfter, generationAfter, hfollows.generation, hfollows'.generation,
      viewChanges_snoc]
  · intro before pods hopened
    exact hcongr before _ hopened (view_opened before pods)
  · intro before pod hdelete hother
    apply hcongr before _ hdelete
    funext name
    by_cases hdone : .initDone ∈ before
    · rw [view_delete hdone]
      split
      · rename_i hname
        subst hname
        cases hview : view before pod.podName with
        | none => rfl
        | some current => simp [Option.filter_some, hother current hview]
      · rfl
    · rw [view_of_not_mem hdone, view_of_not_mem (by simpa using hdone)]
  · intro before pods events hrelist hequivalent hevents hroomEvents
    exact activeAfter_congr hnew (h.of_prefix hrelist) (hroomOf _ hrelist) hevents hroomEvents
      hequivalent.view_eq

end

def Mentions (history : List PodWatchEvent) (pod : PodState) : Prop :=
  .initApply pod ∈ history ∨ .apply pod ∈ history

theorem mentions_of_relisted (h : relisted name history = some pod) :
    pod.podName = name ∧ Mentions history pod := by
  induction history with
  | nil => cases h
  | cons event older ih =>
    cases event with
    | initApply other =>
      rw [relisted] at h
      split at h
      · rename_i hname
        cases h
        exact ⟨hname, .inl List.mem_cons_self⟩
      · exact ⟨(ih h).1, (ih h).2.imp (List.mem_cons_of_mem _) (List.mem_cons_of_mem _)⟩
    | apply | delete | init | initDone => cases h

theorem mentions_of_latest (h : latest name history = some pod) :
    pod.podName = name ∧ Mentions history pod := by
  induction history with
  | nil => cases h
  | cons event older ih =>
    have hrest : latest name older = some pod →
        pod.podName = name ∧ Mentions (event :: older) pod :=
      fun h => ⟨(ih h).1, (ih h).2.imp (List.mem_cons_of_mem _) (List.mem_cons_of_mem _)⟩
    cases event with
    | apply other =>
      rw [latest] at h
      split at h
      · rename_i hname
        cases h
        exact ⟨hname, .inr List.mem_cons_self⟩
      · exact hrest h
    | delete gone =>
      rw [latest] at h
      split at h
      · exact hrest (Option.filter_eq_some_iff.1 h).1
      · exact hrest h
    | initDone =>
      obtain ⟨hname, hmentions⟩ := mentions_of_relisted h
      exact ⟨hname, hmentions.imp (List.mem_cons_of_mem _) (List.mem_cons_of_mem _)⟩
    | init | initApply => exact hrest h

theorem mentions_of_view (h : view history name = some pod) :
    pod.podName = name ∧ Mentions history pod := by
  rw [view] at h
  split at h
  · obtain ⟨hname, hmentions⟩ := mentions_of_latest (Option.filter_eq_some_iff.1 h).1
    exact ⟨hname, hmentions.imp List.mem_reverse.1 List.mem_reverse.1⟩
  · cases h

theorem wellFormed_of_mentions (hwatched : Watched history phase)
    (h : ∀ pod pod', Mentions history pod → Mentions history pod' → pod.uid = pod'.uid →
      pod.podName = pod'.podName) : WellFormed history := by
  refine ⟨⟨phase, hwatched⟩, ?_⟩
  intro before hbefore name name' pod pod' hpod hpod' huid
  obtain ⟨rfl, hmentions⟩ := mentions_of_view hpod
  obtain ⟨rfl, hmentions'⟩ := mentions_of_view hpod'
  exact h pod pod' (hmentions.imp (fun h => hbefore.subset h) fun h => hbefore.subset h)
    (hmentions'.imp (fun h => hbefore.subset h) fun h => hbefore.subset h) huid

theorem viewChanges_le_length (history : List PodWatchEvent) :
    viewChanges history ≤ history.length := by
  rw [viewChanges]
  exact List.countP_le_length.trans_eq List.length_range

def idleWatcher : PodMembershipState := {
  identity := ⟨"dcp-9", "u9"⟩
  vbucketCount := 4
  generation := 0
  active := ∅
  initializing := none
  initialized := false
  publishedOnce := false }

def flickering : PodState :=
  { podName := "dcp-0", uid := "u0", createdAtMillis := 1000, ready := true, terminating := false }

def replacedPod : List PodWatchEvent :=
  [.init, .initApply flickering, .initDone, .delete ⟨"dcp-0", "u8"⟩]

theorem replacedPod_wellFormed : WellFormed replacedPod := by
  have hwatched : Watched replacedPod .idle :=
    (Watched.nil.init.initApply List.not_mem_nil).initDone.delete
  refine wellFormed_of_mentions hwatched ?_
  intro pod pod' hpod hpod' _
  have hsame : ∀ pod, Mentions replacedPod pod → pod = flickering := by
    rintro pod (h | h) <;> simpa [replacedPod] using h
  rw [hsame pod hpod, hsame pod' hpod']

theorem refines_view_replacedPod :
    (activeAfter idleWatcher replacedPod)["dcp-0"]? = some flickering := by
  have hnew : PodMembershipState.new ⟨"dcp-9", "u9"⟩ 4 = .ok idleWatcher := by decide +kernel
  obtain ⟨hactive, -⟩ := refines_view hnew replacedPod_wellFormed
    ((viewChanges_le_length _).trans (by decide))
  rw [hactive replacedPod List.prefix_rfl]
  decide

def flicker : Nat → List PodWatchEvent
  | 0 => [.init, .initDone]
  | n + 1 => flicker n ++ [if n % 2 = 0 then .apply flickering else .delete ⟨"dcp-0", "u0"⟩]

theorem initDone_mem_flicker (n : Nat) : .initDone ∈ flicker n := by
  induction n with
  | zero => decide
  | succ n ih => exact List.mem_append_left _ ih

theorem watched_flicker (n : Nat) : Watched (flicker n) .idle := by
  induction n with
  | zero => exact Watched.nil.init.initDone
  | succ n ih =>
    rw [flicker]
    split
    · exact ih.apply
    · exact ih.delete

theorem flicker_wellFormed (n : Nat) : WellFormed (flicker n) := by
  have hsame : ∀ pod, Mentions (flicker n) pod → pod = flickering := by
    induction n with
    | zero => rintro pod (h | h) <;> simp [flicker] at h
    | succ n ih =>
      rintro pod (h | h) <;> rcases List.mem_append.1 h with h | h
      · exact ih pod (.inl h)
      · split at h <;> simp at h
      · exact ih pod (.inr h)
      · split at h <;> simpa using h
  refine wellFormed_of_mentions (watched_flicker n) ?_
  intro pod pod' hpod hpod' _
  rw [hsame pod hpod, hsame pod' hpod']

theorem view_flicker (n : Nat) :
    view (flicker n) "dcp-0" = if n % 2 = 0 then none else some flickering := by
  induction n with
  | zero => decide
  | succ n ih =>
    rw [flicker]
    rcases Nat.mod_two_eq_zero_or_one n with heven | hodd
    · have hnext : (n + 1) % 2 ≠ 0 := by omega
      rw [if_pos heven, view_apply (initDone_mem_flicker n), if_neg hnext]
      rfl
    · have hnow : n % 2 ≠ 0 := by omega
      have hnext : (n + 1) % 2 = 0 := by omega
      rw [if_neg hnow, view_delete (initDone_mem_flicker n), ih, if_neg hnow, if_pos hnext]
      rfl

theorem viewChanges_flicker (n : Nat) : viewChanges (flicker n) = n := by
  induction n with
  | zero =>
    have hsame : view ([.init] ++ [.initDone]) = view [.init] := by
      funext name
      rw [view_initDone, view_of_not_mem (by simp)]
      rfl
    have hfirst : viewChanges ([] ++ [.init]) = 0 := by
      rw [viewChanges_snoc, view_init, if_pos rfl, viewChanges]
      rfl
    change viewChanges ([.init] ++ [.initDone]) = 0
    rw [viewChanges_snoc, if_pos hsame]
    exact hfirst
  | succ n ih =>
    have hne : view (flicker (n + 1)) ≠ view (flicker n) := by
      intro heq
      have hpod := congrFun heq "dcp-0"
      rw [view_flicker, view_flicker] at hpod
      split at hpod <;> split at hpod <;> simp at hpod <;> omega
    have hchanges := viewChanges_snoc (flicker n)
      (if n % 2 = 0 then .apply flickering else .delete ⟨"dcp-0", "u0"⟩)
    rw [← flicker, if_neg hne, ih] at hchanges
    exact hchanges

namespace PodMembershipState

variable {state : PodMembershipState}

theorem commit_of_last (state : PodMembershipState) (h : state.generation = u64Max) (next : Pods) :
    (state.commit next).2 = state := by
  rw [commit]
  split
  · rfl
  · split
    · rfl
    · rw [checkedSucc_eq_none.2 (by omega)]

theorem active_of_last (h : state.generation = u64Max) (event : PodWatchEvent) :
    (state.apply event).2.active = state.active := by
  cases event with
  | init => rfl
  | initApply pod =>
    rw [apply]
    split
    · rfl
    · split
      · rfl
      · split <;> rfl
  | initDone =>
    rw [apply]
    split
    · rfl
    · rw [commit_of_last { state with initializing := none, initialized := true } h]
  | apply pod | delete pod =>
    rw [apply]
    split
    · rfl
    · rw [commit_of_last state h]

end PodMembershipState

/-- The change after the last generation is refused, and the pod that went stays active. -/
theorem flicker_unseen :
    PodMembershipState.new ⟨"dcp-9", "u9"⟩ 4 = .ok idleWatcher ∧
      WellFormed (flicker (u64Max + 1)) ∧
      view (flicker (u64Max + 1)) "dcp-0" = none ∧
      (activeAfter idleWatcher (flicker (u64Max + 1)))["dcp-0"]? = some flickering := by
  have hnew : PodMembershipState.new ⟨"dcp-9", "u9"⟩ 4 = .ok idleWatcher := by decide +kernel
  obtain ⟨phase, hfollows⟩ := follows_of_wellFormed hnew (flicker_wellFormed u64Max)
    (viewChanges_flicker u64Max).le
  have hlast := hfollows.generation.trans (viewChanges_flicker u64Max)
  refine ⟨hnew, flicker_wellFormed _, ?_, ?_⟩
  · rw [view_flicker]
    rfl
  · rw [activeAfter, flicker, Watch.run_snoc, PodMembershipState.active_of_last hlast,
      hfollows.active, view_flicker]
    rfl

end RustDcp.Kubernetes
