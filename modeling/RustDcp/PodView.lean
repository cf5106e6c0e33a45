import RustDcp.Kubernetes
import RustDcp.OrderedMap

namespace RustDcp.Kubernetes
set_option autoImplicit true

/-- The state in which the relist lists the pod, up to its `Init`. Histories are read backwards,
from the newest event. -/
def relisted (name : String) : List PodWatchEvent → Option PodState
  | .initApply pod :: older => if pod.podName = name then some pod else relisted name older
  | _ => none

theorem relisted_snoc (name : String) (history : List PodWatchEvent) (pod : PodState) :
    relisted name (history ++ [PodWatchEvent.initApply pod]).reverse =
      if pod.podName = name then some pod else relisted name history.reverse := by
  rw [List.reverse_append, List.reverse_singleton, List.singleton_append, relisted]

/-- The latest listed or applied state of the pod, unless it was deleted under that UID. -/
def latest (name : String) : List PodWatchEvent → Option PodState
  | [] => none
  | .apply pod :: older => if pod.podName = name then some pod else latest name older
  | .delete pod :: older =>
    if pod.podName = name then (latest name older).filter (·.uid ≠ pod.uid) else latest name older
  | .initDone :: older => relisted name older
  | .init :: older | .initApply _ :: older => latest name older

def view (history : List PodWatchEvent) (name : String) : Option PodState :=
  if .initDone ∈ history then (latest name history.reverse).filter (·.isEffective) else none

/-- The watcher is idle, or inside a relist that has listed the names. -/
inductive WatchPhase where
  | idle
  | listing (names : List String)

/-- The order of events of a watch: a relist lists distinct names and holds no incremental event,
and may be started again. -/
inductive Watched : List PodWatchEvent → WatchPhase → Prop where
  | nil : Watched [] .idle
  | init : Watched history phase → Watched (history ++ [.init]) (.listing [])
  | initApply (h : Watched history (.listing names)) (hname : pod.podName ∉ names) :
    Watched (history ++ [.initApply pod]) (.listing (pod.podName :: names))
  | initDone : Watched history (.listing names) → Watched (history ++ [.initDone]) .idle
  | apply : Watched history .idle → Watched (history ++ [.apply pod]) .idle
  | delete : Watched history .idle → Watched (history ++ [.delete pod]) .idle

def DistinctUids (pods : String → Option PodState) : Prop :=
  ∀ name name' pod pod', pods name = some pod → pods name' = some pod' → pod.uid = pod'.uid →
    name = name'

structure WellFormed (history : List PodWatchEvent) : Prop where
  watched : ∃ phase, Watched history phase
  distinct : ∀ before, before <+: history → DistinctUids (view before)

open Classical in
noncomputable def viewChanges (history : List PodWatchEvent) : Nat :=
  (List.range history.length).countP fun i => view (history.take (i + 1)) ≠ view (history.take i)

open Classical in
theorem viewChanges_snoc (history : List PodWatchEvent) (event : PodWatchEvent) :
    viewChanges (history ++ [event]) =
      viewChanges history + if view (history ++ [event]) = view history then 0 else 1 := by
  simp only [viewChanges, List.length_append, List.length_singleton, List.range_succ,
    List.countP_append]
  congr 1
  · apply List.countP_congr
    intro i hi
    rw [List.mem_range] at hi
    rw [List.take_append_of_le_length (by omega), List.take_append_of_le_length (by omega)]
  · rw [List.countP_singleton, List.take_append_of_le_length (Nat.le_refl _), List.take_length,
      List.take_of_length_le (by simp)]
    simp only [ne_eq, decide_not, Bool.not_eq_true', decide_eq_false_iff_not, ite_not]

theorem view_init (history : List PodWatchEvent) : view (history ++ [.init]) = view history := by
  funext name
  simp [view, latest]

theorem view_initApply (history : List PodWatchEvent) (pod : PodState) :
    view (history ++ [.initApply pod]) = view history := by
  funext name
  simp [view, latest]

theorem view_initDone (history : List PodWatchEvent) (name : String) :
    view (history ++ [.initDone]) name =
      (relisted name history.reverse).filter (·.isEffective) := by
  simp [view, latest]

theorem view_apply (h : .initDone ∈ history) (pod : PodState) (name : String) :
    view (history ++ [.apply pod]) name =
      if pod.podName = name then (if pod.isEffective then some pod else none)
      else view history name := by
  have hmem : .initDone ∈ history ++ [PodWatchEvent.apply pod] := List.mem_append_left _ h
  rw [view, view, if_pos hmem, if_pos h, List.reverse_append, List.reverse_singleton,
    List.singleton_append, latest]
  split
  · rw [Option.filter_some]
  · rfl

theorem view_delete (h : .initDone ∈ history) (pod : PodIdentity) (name : String) :
    view (history ++ [.delete pod]) name =
      if pod.podName = name then (view history name).filter (·.uid ≠ pod.uid)
      else view history name := by
  have hmem : .initDone ∈ history ++ [PodWatchEvent.delete pod] := List.mem_append_left _ h
  rw [view, view, if_pos hmem, if_pos h, List.reverse_append, List.reverse_singleton,
    List.singleton_append, latest]
  split
  · rw [Option.filter_filter, Option.filter_filter]
    simp only [Bool.and_comm]
  · rfl

theorem view_of_not_mem (h : .initDone ∉ history) (name : String) : view history name = none := by
  rw [view, if_neg h]

theorem uniqueUids_eq_ok (hpods : pods.Pairwise fun a b => a.uid ≠ b.uid)
    (hseen : ∀ pod ∈ pods, pod.uid ∉ seen) : uniqueUids seen pods = .ok () := by
  induction pods generalizing seen with
  | nil => rfl
  | cons pod pods ih =>
    obtain ⟨hpod, hpods⟩ := List.pairwise_cons.1 hpods
    obtain ⟨hfirst, hseen⟩ := List.forall_mem_cons.1 hseen
    rw [uniqueUids, if_neg hfirst]
    refine ih hpods ?_
    intro other hother hmem
    rcases List.mem_cons.1 hmem with heq | hmem
    · exact hpod other hother heq.symm
    · exact hseen other hother hmem

theorem validateUniqueUids_eq_ok {pods : Pods} {reference : String → Option PodState}
    (hpods : ∀ name : String, pods[name]? = reference name) (h : DistinctUids reference) :
    validateUniqueUids pods = .ok () := by
  refine uniqueUids_eq_ok (List.pairwise_map.2 ?_) (fun _ _ => List.not_mem_nil)
  refine (OrderedMap.distinct_toList pods).imp_of_mem ?_
  intro a b ha hb hne huid
  rw [Std.ExtTreeMap.mem_toList_iff_getElem?_eq_some, hpods] at ha hb
  exact hne (h _ _ _ _ ha hb huid)

namespace PodMembershipState

theorem snapshot_frame (self : PodMembershipState) :
    ∃ publishedOnce, self.snapshot.2 = { self with publishedOnce } := by
  rw [snapshot]
  split
  · split <;> exact ⟨self.publishedOnce, rfl⟩
  · split
    · exact ⟨self.publishedOnce, rfl⟩
    split
    · exact ⟨self.publishedOnce, rfl⟩
    · exact ⟨true, rfl⟩

theorem commit_frame (self : PodMembershipState) (hunique : validateUniqueUids next = .ok ())
    (hroom : next ≠ self.active → self.generation < u64Max) :
    ∃ publishedOnce, (self.commit next).2 =
      { self with
        active := next
        generation := self.generation + if next = self.active then 0 else 1
        publishedOnce } := by
  rw [commit, hunique]
  dsimp only
  by_cases hsame : next = self.active
  · rw [if_pos hsame, if_pos hsame, hsame]
    exact ⟨self.publishedOnce, rfl⟩
  · rw [if_neg hsame, if_neg hsame, checkedSucc_eq_some.2 ⟨hroom hsame, rfl⟩]
    exact snapshot_frame _

def Buffers (history : List PodWatchEvent) (state : PodMembershipState) : WatchPhase → Prop
  | .idle => state.initializing = none
  | .listing names => ∃ buffer, state.initializing = some buffer ∧
      ∀ name : String, buffer[name]? = (relisted name history.reverse).filter (·.isEffective) ∧
        ((relisted name history.reverse).isSome = true → name ∈ names)

structure Follows (history : List PodWatchEvent) (phase : WatchPhase)
    (state : PodMembershipState) : Prop where
  active : ∀ name : String, state.active[name]? = view history name
  generation : state.generation = viewChanges history
  initialized : state.initialized = true ↔ .initDone ∈ history
  buffers : state.Buffers history phase

theorem new_follows {identity : PodIdentity} {vbucketCount : Nat}
    (h : new identity vbucketCount = .ok state) : state.Follows [] .idle := by
  obtain ⟨-, -, h⟩ := bind_eq_ok.1 h
  cases h
  refine ⟨fun name => ?_, by simp [viewChanges], by simp, rfl⟩
  rw [view_of_not_mem (by simp)]
  simp

theorem commit_view (state : PodMembershipState)
    (hactive : ∀ name : String, state.active[name]? = view history name)
    (hgeneration : state.generation = viewChanges history)
    (hnext : ∀ name : String, next[name]? = view (history ++ [event]) name)
    (hdistinct : DistinctUids (view (history ++ [event])))
    (hroom : viewChanges (history ++ [event]) ≤ u64Max) :
    ∃ publishedOnce, (state.commit next).2 =
      { state with
        active := next
        generation := viewChanges (history ++ [event])
        publishedOnce } := by
  have hsame : view (history ++ [event]) = view history ↔ next = state.active := by
    constructor
    · intro h
      apply Std.ExtTreeMap.ext_getElem?
      intro name
      rw [hnext, hactive, h]
    · intro h
      funext name
      rw [← hnext, ← hactive, h]
  have hchanges := viewChanges_snoc history event
  simp only [hsame] at hchanges
  obtain ⟨publishedOnce, hcommit⟩ := state.commit_frame
    (validateUniqueUids_eq_ok hnext hdistinct) (by
      intro hne
      rw [if_neg hne] at hchanges
      omega)
  rw [hgeneration] at hcommit
  refine ⟨publishedOnce, hcommit.trans ?_⟩
  rw [hchanges]

section

variable {state : PodMembershipState}

theorem Follows.init (h : state.Follows history phase) :
    (state.apply .init).2.Follows (history ++ [.init]) (.listing []) := by
  refine ⟨?_, ?_, ?_, ⟨∅, rfl, ?_⟩⟩
  · rw [view_init]
    exact h.active
  · rw [viewChanges_snoc, view_init, if_pos rfl]
    exact h.generation
  · exact h.initialized.trans (by simp)
  · intro name
    simp [relisted]

theorem Follows.initApply (h : state.Follows history (.listing names))
    (hname : pod.podName ∉ names) :
    (state.apply (.initApply pod)).2.Follows (history ++ [.initApply pod])
      (.listing (pod.podName :: names)) := by
  obtain ⟨buffer, hbuffer, hlisted⟩ := h.buffers
  have hfresh : buffer.contains pod.podName = false := by
    by_contra hcontains
    rw [Bool.not_eq_false, Std.ExtTreeMap.contains_eq_isSome_getElem?, (hlisted _).1] at hcontains
    exact hname ((hlisted _).2 (Option.isSome_of_isSome_filter _ _ hcontains))
  have hnames : ∀ name, (relisted name (history ++ [PodWatchEvent.initApply pod]).reverse).isSome →
      name ∈ pod.podName :: names := by
    intro name hsome
    rw [relisted_snoc] at hsome
    split at hsome
    · rename_i heq
      exact heq ▸ List.mem_cons_self
    · exact List.mem_cons_of_mem _ ((hlisted name).2 hsome)
  have hkept : ∀ next : Pods, (∀ name : String, next[name]? =
        (relisted name (history ++ [PodWatchEvent.initApply pod]).reverse).filter
          (·.isEffective)) →
      Follows (history ++ [.initApply pod]) (.listing (pod.podName :: names))
        { state with initializing := some next } := by
    intro next hnext
    refine ⟨?_, ?_, ?_, ⟨next, rfl, fun name => ⟨hnext name, hnames name⟩⟩⟩
    · rw [view_initApply]
      exact h.active
    · rw [viewChanges_snoc, view_initApply, if_pos rfl]
      exact h.generation
    · simpa using h.initialized
  rw [apply, hbuffer]
  dsimp only
  rw [if_neg (by simp [hfresh])]
  split
  · rename_i heffective
    apply hkept
    intro name
    rw [relisted_snoc, Std.ExtTreeMap.getElem?_insert, (hlisted name).1]
    simp only [Std.compare_eq_iff_eq]
    split
    · rw [Option.filter_some, if_pos heffective]
    · rfl
  · rename_i heffective
    have hself : state = { state with initializing := some buffer } := by rw [← hbuffer]
    rw [hself]
    apply hkept
    intro name
    rw [relisted_snoc, (hlisted name).1]
    split
    · rename_i heq
      have hnone : buffer[pod.podName]? = none := by
        rw [← Option.not_isSome_iff_eq_none, ← Std.ExtTreeMap.contains_eq_isSome_getElem?, hfresh]
        exact Bool.false_ne_true
      rw [Option.filter_some, if_neg heffective, ← (hlisted name).1, ← heq, hnone]
    · rfl

theorem Follows.initDone (h : state.Follows history (.listing names))
    (hdistinct : DistinctUids (view (history ++ [.initDone])))
    (hroom : viewChanges (history ++ [.initDone]) ≤ u64Max) :
    (state.apply .initDone).2.Follows (history ++ [.initDone]) .idle := by
  obtain ⟨buffer, hbuffer, hlisted⟩ := h.buffers
  have hview : ∀ name : String, buffer[name]? = view (history ++ [.initDone]) name := by
    intro name
    rw [view_initDone, (hlisted name).1]
  rw [apply, hbuffer]
  dsimp only
  obtain ⟨publishedOnce, hcommit⟩ := commit_view
    { state with initializing := none, initialized := true } h.active h.generation hview
      hdistinct hroom
  rw [hcommit]
  exact ⟨hview, rfl, by simp, rfl⟩

theorem Follows.incremental (h : state.Follows history .idle) {next : Pods} {kind : String}
    (hevent : event ≠ .initDone)
    (happly : state.apply event =
      match state.ensureIncrementalAllowed kind with
      | .error error => (.error error, state)
      | .ok () => state.commit next)
    (hnext : .initDone ∈ history → ∀ name : String, next[name]? = view (history ++ [event]) name)
    (hdistinct : DistinctUids (view (history ++ [event])))
    (hroom : viewChanges (history ++ [event]) ≤ u64Max) :
    (state.apply event).2.Follows (history ++ [event]) .idle := by
  have hinitializing : state.initializing = none := h.buffers
  have hmem : .initDone ∈ history ++ [event] ↔ .initDone ∈ history := by
    simp [hevent.symm]
  rw [happly, ensureIncrementalAllowed, hinitializing]
  by_cases hdone : .initDone ∈ history
  · rw [h.initialized.2 hdone]
    obtain ⟨publishedOnce, hcommit⟩ :=
      commit_view state h.active h.generation (hnext hdone) hdistinct hroom
    change (state.commit next).2.Follows _ _
    rw [hcommit]
    exact ⟨hnext hdone, rfl, h.initialized.trans hmem.symm, hinitializing⟩
  · have hview : view (history ++ [event]) = view history := by
      funext name
      rw [view_of_not_mem hdone, view_of_not_mem (mt hmem.1 hdone)]
    rw [Bool.eq_false_iff.2 (mt h.initialized.1 hdone)]
    refine ⟨?_, ?_, h.initialized.trans hmem.symm, hinitializing⟩
    · rw [hview]
      exact h.active
    · rw [viewChanges_snoc, hview, if_pos rfl]
      exact h.generation

theorem Follows.apply (h : state.Follows history .idle)
    (hdistinct : DistinctUids (view (history ++ [.apply pod])))
    (hroom : viewChanges (history ++ [.apply pod]) ≤ u64Max) :
    (state.apply (.apply pod)).2.Follows (history ++ [.apply pod]) .idle := by
  refine h.incremental (by simp) rfl ?_ hdistinct hroom
  intro hdone name
  rw [view_apply hdone, ← h.active]
  by_cases heffective : pod.isEffective
  · rw [if_pos heffective, if_pos heffective, Std.ExtTreeMap.getElem?_insert]
    simp only [Std.compare_eq_iff_eq]
  · rw [if_neg heffective, if_neg heffective, Std.ExtTreeMap.getElem?_erase]
    simp only [Std.compare_eq_iff_eq]

theorem Follows.delete (h : state.Follows history .idle)
    (hdistinct : DistinctUids (view (history ++ [.delete pod])))
    (hroom : viewChanges (history ++ [.delete pod]) ≤ u64Max) :
    (state.apply (.delete pod)).2.Follows (history ++ [.delete pod]) .idle := by
  refine h.incremental (by simp) rfl ?_ hdistinct hroom
  intro hdone name
  rw [view_delete hdone, ← h.active]
  by_cases hname : pod.podName = name
  · rw [if_pos hname, ← hname]
    cases hpod : state.active[pod.podName]? with
    | none => simp [hpod]
    | some current =>
      by_cases huid : current.uid = pod.uid
      · simp [huid, Option.filter_some]
      · simp [huid, hpod, Option.filter_some]
  · rw [if_neg hname]
    split
    · rw [Std.ExtTreeMap.getElem?_erase]
      simp only [Std.compare_eq_iff_eq]
      rw [if_neg hname]
    · rfl

end

end PodMembershipState

theorem Watched.of_prefix (h : Watched history phase) (hbefore : before <+: history) :
    ∃ phase, Watched before phase := by
  induction h with
  | nil =>
    rw [List.prefix_nil.1 hbefore]
    exact ⟨_, .nil⟩
  | init h ih =>
    rcases List.prefix_concat_iff.1 hbefore with rfl | hbefore
    · exact ⟨_, h.init⟩
    · exact ih hbefore
  | initApply h hname ih =>
    rcases List.prefix_concat_iff.1 hbefore with rfl | hbefore
    · exact ⟨_, h.initApply hname⟩
    · exact ih hbefore
  | initDone h ih =>
    rcases List.prefix_concat_iff.1 hbefore with rfl | hbefore
    · exact ⟨_, h.initDone⟩
    · exact ih hbefore
  | apply h ih =>
    rcases List.prefix_concat_iff.1 hbefore with rfl | hbefore
    · exact ⟨_, h.apply⟩
    · exact ih hbefore
  | delete h ih =>
    rcases List.prefix_concat_iff.1 hbefore with rfl | hbefore
    · exact ⟨_, h.delete⟩
    · exact ih hbefore

theorem WellFormed.of_prefix (h : WellFormed history) (hbefore : before <+: history) :
    WellFormed before := by
  obtain ⟨phase, hwatched⟩ := h.watched
  exact ⟨hwatched.of_prefix hbefore, fun first hfirst => h.distinct first (hfirst.trans hbefore)⟩

theorem viewChanges_mono (h : before <+: history) :
    viewChanges before ≤ viewChanges history := by
  obtain ⟨after, rfl⟩ := h
  induction after using List.reverseRecOn with
  | nil => simp
  | append_singleton after event ih =>
    rw [← List.append_assoc, viewChanges_snoc]
    omega

theorem Watch.run_snoc (watch : Watch) (events : List PodWatchEvent) (event : PodWatchEvent) :
    (watch.run (events ++ [event])).state = ((watch.run events).state.apply event).2 := by
  have hrecord : ∀ watch result, (record watch result).state = result.2 := by
    rintro watch ⟨(_ | _ | _), state⟩ <;> rfl
  rw [run, List.foldl_append]
  exact hrecord _ _

theorem follows_run {state : PodMembershipState} (hnew : state.Follows [] .idle)
    (h : Watched history phase)
    (hgood : ∀ before, before <+: history →
      DistinctUids (view before) ∧ viewChanges before ≤ u64Max) :
    ((Watch.start state).run history).state.Follows history phase := by
  -- induction on the grammar, one step lemma per event
  induction h with
  | nil => exact hnew
  | init h ih =>
    have hbefore := ih fun before hb => hgood before (hb.trans (List.prefix_append _ _))
    rw [Watch.run_snoc]
    exact hbefore.init
  | initApply h hname ih =>
    have hbefore := ih fun before hb => hgood before (hb.trans (List.prefix_append _ _))
    rw [Watch.run_snoc]
    exact hbefore.initApply hname
  | initDone h ih =>
    have hbefore := ih fun before hb => hgood before (hb.trans (List.prefix_append _ _))
    obtain ⟨hdistinct, hroom⟩ := hgood _ List.prefix_rfl
    rw [Watch.run_snoc]
    exact hbefore.initDone hdistinct hroom
  | apply h ih =>
    have hbefore := ih fun before hb => hgood before (hb.trans (List.prefix_append _ _))
    obtain ⟨hdistinct, hroom⟩ := hgood _ List.prefix_rfl
    rw [Watch.run_snoc]
    exact hbefore.apply hdistinct hroom
  | delete h ih =>
    have hbefore := ih fun before hb => hgood before (hb.trans (List.prefix_append _ _))
    obtain ⟨hdistinct, hroom⟩ := hgood _ List.prefix_rfl
    rw [Watch.run_snoc]
    exact hbefore.delete hdistinct hroom

end RustDcp.Kubernetes
