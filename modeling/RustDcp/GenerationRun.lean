import RustDcp.FrozenBoundary

namespace RustDcp
set_option autoImplicit true

def consumedFrom (node : Nat) (consumed : List (Nat × Result DcpStreamItem)) :
    List (Result DcpStreamItem) :=
  consumed.filterMap fun entry => if entry.1 = node then some entry.2 else none

theorem consumedFrom_append (node : Nat) (consumed more : List (Nat × Result DcpStreamItem)) :
    consumedFrom node (consumed ++ more) = consumedFrom node consumed ++ consumedFrom node more :=
  List.filterMap_append

theorem consumedFrom_self (node : Nat) (item : Result DcpStreamItem) :
    consumedFrom node [(node, item)] = [item] := by
  simp [consumedFrom]

theorem consumedFrom_other (h : other ≠ node) (item : Result DcpStreamItem) :
    consumedFrom node [(other, item)] = [] := by
  simp [consumedFrom, h]

theorem mem_consumedFrom {consumed : List (Nat × Result DcpStreamItem)} :
    item ∈ consumedFrom node consumed ↔ (node, item) ∈ consumed := by
  rw [consumedFrom, List.mem_filterMap]
  constructor
  · rintro ⟨⟨other, item'⟩, hmem, heq⟩
    split at heq
    · rename_i hnode
      cases heq
      cases hnode
      exact hmem
    · cases heq
  · intro hmem
    exact ⟨_, hmem, by simp⟩

theorem mem_eventsOf {output : List (Result DcpStreamItem)} {event : DcpEvent} :
    event ∈ eventsOf v output ↔ .ok (.event event) ∈ output ∧ event.vbucket = v := by
  rw [eventsOf, List.mem_filterMap]
  constructor
  · rintro ⟨item, hmem, heq⟩
    split at heq
    · split at heq
      · rename_i hv
        cases heq
        exact ⟨hmem, hv⟩
      · cases heq
    · cases heq
  · rintro ⟨hmem, hv⟩
    exact ⟨_, hmem, by simp [hv]⟩

theorem InStreamOrder.end_unique (h : InStreamOrder opened events) (hx : x ∈ events)
    (hy : y ∈ events) (hxends : x.endsStream = true) (hyends : y.endsStream = true) : x = y := by
  obtain ⟨before, after, hevents⟩ := List.append_of_mem hx
  have hafter := h.ended before x after hevents hxends
  subst hafter
  rw [hevents] at hy
  rcases List.mem_append.1 hy with hy | hy
  · obtain ⟨start, rest, rfl⟩ := List.append_of_mem hy
    have hrest := h.ended start y (rest ++ [x]) (by simpa using hevents) hyends
    simp at hrest
  · exact (List.mem_singleton.1 hy).symm

/-- The phases of `drive_generation`, and its return with `Complete`. -/
def DriverPhase.isEngaged : DriverPhase → Bool
  | .left .complete => true
  | phase => phase.isDriving

theorem DriverPhase.isEngaged_left (h : action ≠ .complete) :
    (DriverPhase.left action).isEngaged = false := by
  cases action with
  | complete => exact absurd rfl h
  | stop | reopen _ | reconnect | fatal _ => rfl

theorem DriverPhase.isEngaged_cases {phase : DriverPhase} (h : phase.isEngaged = true) :
    phase.isDriving = true ∨ phase = .left .complete := by
  cases phase with
  | left action =>
    by_cases hcomplete : action = .complete
    · exact .inr (by rw [hcomplete])
    · rw [isEngaged_left hcomplete] at h
      cases h
  | checking | selecting | mitigating _ _ | applying _ | skipping _ | sending _ => exact .inl rfl
  | retrying _ | opening _ _ | ended _ => cases h

theorem DriverPhase.isEngaged_of_driving {phase : DriverPhase} (h : phase.isDriving = true) :
    phase.isEngaged = true := by
  cases phase with
  | left action => cases h
  | checking | selecting | mitigating _ _ | applying _ | skipping _ | sending _ => rfl
  | retrying _ | opening _ _ | ended _ => cases h

namespace Worker

theorem step_receiverOpen {w : Worker} (h : w.step timeout action = some t)
    (haction : action.isInternal = true ∨ action = .command .shutdown) :
    t.receiverOpen = w.receiverOpen := by
  have hstatus := step_running h
  rw [step.eq_def, if_neg (not_not.2 hstatus)] at h
  cases action with
  | arrive received | fault after error =>
    cases h
    rfl
  | hangUp | commandsClosed => simp [WorkerAction.isInternal] at haction
  | command command =>
    have hcommand : command = .shutdown := by simpa [WorkerAction.isInternal] using haction
    subst hcommand
    simp only at h
    split at h
    · cases h
    · cases h
      rfl
  | receive =>
    simp only at h
    split at h
    · cases h
    · rw [receive] at h
      split at h
      · cases h
      · cases h
        rfl
      · rename_i frame connection hreceive
        have hkept := (handleFrame_kept { w with connection } frame).receiverOpen
        split at h
        · rename_i after hhandle
          rw [hhandle] at hkept
          cases h
          exact hkept
        · rename_i after hhandle
          rw [hhandle] at hkept
          cases h
          exact hkept
  | silence =>
    simp only at h
    split at h
    · cases h
    · split at h
      · cases h
      · cases h
        rfl
  | finish =>
    simp only at h
    split at h
    · cases h
      have hflush : w.flushCredit.2.receiverOpen = w.receiverOpen := rfl
      rw [finish]
      split
      · rename_i heq
        rw [heq] at hflush
        exact hflush
      · rename_i heq
        rw [heq] at hflush
        exact hflush
    · cases h

/-- Every stream that was opened has ended or is active, or the worker has reported an error. -/
def Accounts (opened : BTreeMap UInt16 PartitionOpenState) (w : Worker) : Prop :=
  ∀ (v : UInt16) state, opened[v]? = some state →
    (∃ event ∈ eventsOf v w.output, event.endsStream = true) ∨
    (w.status = .running ∧ ∃ p, w.partitions[v]? = some p) ∨ ∃ error, .error error ∈ w.output

theorem spawn_accounts (connection : KvConnection) (opened : BTreeMap UInt16 PartitionOpenState)
    (credit : Result FlowCredit) (streamEndOnClose : Bool) :
    Accounts opened (spawn connection opened credit streamEndOnClose) := by
  intro v state hstate
  cases credit with
  | error error => exact .inr (.inr ⟨error, List.mem_singleton.2 rfl⟩)
  | ok credit =>
    refine .inr (.inl ⟨rfl, state.progress, ?_⟩)
    simp only [spawn, Std.ExtTreeMap.getElem?_map, hstate, Option.map_some]

theorem Accounts.extend {w t : Worker} (h : Accounts opened w) (hout : t.output = w.output ++ more)
    (hkeep : ∀ v : UInt16, w.status = .running → w.partitions[v]?.isSome = true →
      (∃ event ∈ eventsOf v more, event.endsStream = true) ∨
      t.status = .running ∧ t.partitions[v]?.isSome = true) : Accounts opened t := by
  intro v state hstate
  rw [hout]
  rcases h v state hstate with ⟨event, hevent, hends⟩ | ⟨hrunning, p, hp⟩ | ⟨error, herror⟩
  · refine .inl ⟨event, ?_, hends⟩
    rw [eventsOf_append]
    exact List.mem_append_left _ hevent
  · rcases hkeep v hrunning (by rw [hp]; rfl) with ⟨event, hevent, hends⟩ | ⟨ht, hsome⟩
    · refine .inl ⟨event, ?_, hends⟩
      rw [eventsOf_append]
      exact List.mem_append_right _ hevent
    · exact .inr (.inl ⟨ht, Option.isSome_iff_exists.1 hsome⟩)
  · exact .inr (.inr ⟨error, List.mem_append_left _ herror⟩)

theorem step_accounts {w : Worker} (h : Accounts opened w) (hreceiver : w.receiverOpen = true)
    (hinternal : action.isInternal = true) (hstep : w.step timeout action = some t) :
    Accounts opened t := by
  cases step_effect hstep with
  | quiet items hitems hout hparts hstatus =>
    exact h.extend hout fun v _ hsome => .inr ⟨hstatus, by rw [hparts]; exact hsome⟩
  | @event frame rest message u progress progress' event hreceive haccepted hout hparts hstatus =>
    refine h.extend hout fun v _ hsome => ?_
    obtain ⟨converted, hconverted, hvbucket, -⟩ :=
      Protocol.convertEvent_of_vbucket haccepted.vbucket
    cases haccepted.converted.symm.trans hconverted
    have hends := convertEvent_endsStream haccepted.converted
    by_cases huv : u = v
    · subst huv
      cases hend : isStreamEnd message with
      | true => exact .inl ⟨event, by simp [eventsOf, hvbucket], hends.trans hend⟩
      | false =>
        refine .inr ⟨hstatus, ?_⟩
        rw [hparts, hend, if_neg Bool.false_ne_true, Std.ExtTreeMap.getElem?_insert_self]
        rfl
    · refine .inr ⟨hstatus, ?_⟩
      rw [hparts]
      split
      · simp [Std.ExtTreeMap.getElem?_erase, Std.ExtTreeMap.getElem?_insert, huv, hsome]
      · simp [Std.ExtTreeMap.getElem?_insert, huv, hsome]
  | closed => cases hinternal
  | @cut frame rest error hreceive sent hsent hout hstatus =>
    intro v state hstate
    refine .inr (.inr ⟨error, ?_⟩)
    rw [hout, hreceiver]
    simp
  | @failed action error haction hout hstatus =>
    intro v state hstate
    refine .inr (.inr ⟨error, ?_⟩)
    rw [hout, hreceiver]
    simp
  | finished hempty hout hstatus =>
    refine h.extend (by rw [hout, List.append_nil]) fun v _ hsome => ?_
    rw [hempty] at hsome
    simp at hsome
  | stopped haction hout hstatus =>
    rcases haction with rfl | ⟨command, rfl⟩
    · cases hinternal
    · cases hinternal

theorem step_output {w : Worker} (h : w.step timeout action = some t) : w.output <+: t.output := by
  cases step_effect h with
  | quiet items _ hout => exact ⟨_, hout.symm⟩
  | event _ _ hout => exact ⟨_, hout.symm⟩
  | closed _ hout => exact ⟨_, hout.symm⟩
  | cut _ sent _ hout =>
    rw [hout, List.append_assoc]
    exact List.prefix_append _ _
  | failed _ hout => exact ⟨_, hout.symm⟩
  | finished _ hout => exact ⟨[], by rw [hout, List.append_nil]⟩
  | stopped _ hout => exact ⟨[], by rw [hout, List.append_nil]⟩

end Worker

namespace Subscription

theorem Delivers.current {s : Subscription} (h : Delivers config s event t) :
    t.current.streams = s.current.streams ∧ t.current.consumed = s.current.consumed ∧
      t.past = s.past := by
  cases h with
  | failed hframe _ => exact ⟨by rw [hframe.current], by rw [hframe.current], hframe.past⟩
  | tracked _ _ _ _ hcurrent hpast => exact ⟨by rw [hcurrent], by rw [hcurrent], hpast⟩

theorem Handles.current {s : Subscription} (h : Handles config s item t) :
    t.current.streams = s.current.streams ∧ t.current.consumed = s.current.consumed ∧
      t.past = s.past := by
  cases h with
  | ignored _ hframe _ | left hframe _ _ _ | held _ hframe _ =>
    exact ⟨by rw [hframe.current], by rw [hframe.current], hframe.past⟩
  | delivered hdelivers => exact hdelivers.current

theorem Handles.clean {s : Subscription} (h : Handles config s (.error error) t) :
    t.phase.isEngaged = false := by
  cases h with
  | left _ haction hphase _ =>
    rw [hphase]
    exact DriverPhase.isEngaged_left haction

theorem Delivers.phase {s : Subscription} (h : Delivers config s event t) :
    t.phase ≠ .left .complete := by
  cases h with
  | failed _ hphase => simp [hphase]
  | tracked _ _ _ _ _ _ _ _ _ hphase =>
    rcases hphase with ⟨-, hphase⟩ | ⟨output, hphase⟩
    · simp [hphase]
    · simp [hphase]

theorem Handles.phase {s : Subscription} (h : Handles config s item t) :
    t.phase ≠ .left .complete := by
  cases h with
  | ignored _ _ hphase =>
    rcases hphase with hphase | ⟨call, hphase⟩
    · simp [hphase]
    · simp [hphase]
  | left _ haction hphase _ => simp [hphase, haction]
  | held _ _ hphase => simp [hphase]
  | delivered hdelivers => exact hdelivers.phase

/-- The streams of a generation as `drive_generation` finds them. -/
structure Driven (s : Subscription) : Prop where
  tracks : ∀ stream ∈ s.current.streams, ∀ v : UInt16,
    stream.worker.Tracks stream.report.partitions v
  receiver : ∀ stream ∈ s.current.streams, stream.worker.receiverOpen = true
  cursor : ∀ (node : Nat) stream, s.current.streams[node]? = some stream →
    stream.taken ≤ stream.worker.output.length ∧
    consumedFrom node s.current.consumed = stream.worker.output.take stream.taken
  inside : ∀ entry ∈ s.current.consumed, entry.1 < s.current.streams.length
  accounts : s.phase.isEngaged = true → ∀ stream ∈ s.current.streams,
    stream.worker.Accounts stream.report.partitions
  clean : s.phase.isEngaged = true → ∀ entry ∈ s.current.consumed, ∀ error, entry.2 ≠ .error error
  dry : s.phase = .left .complete → ∀ stream ∈ s.current.streams, stream.isDry = true

theorem Driven.keep {s t : Subscription} (h : s.Driven)
    (hstreams : t.current.streams = s.current.streams)
    (hconsumed : t.current.consumed = s.current.consumed)
    (hengaged : t.phase.isEngaged = true → s.phase.isEngaged = true)
    (hdry : t.phase = .left .complete → ∀ stream ∈ s.current.streams, stream.isDry = true) :
    t.Driven := by
  refine ⟨?_, ?_, ?_, ?_, ?_, ?_, ?_⟩
  · rw [hstreams]
    exact h.tracks
  · rw [hstreams]
    exact h.receiver
  · rw [hstreams, hconsumed]
    exact h.cursor
  · rw [hstreams, hconsumed]
    exact h.inside
  · intro ht
    rw [hstreams]
    exact h.accounts (hengaged ht)
  · intro ht
    rw [hconsumed]
    exact h.clean (hengaged ht)
  · intro ht
    rw [hstreams]
    exact hdry ht

theorem Driven.same {s t : Subscription} (h : s.Driven)
    (hstreams : t.current.streams = s.current.streams)
    (hconsumed : t.current.consumed = s.current.consumed) (hphase : t.phase = s.phase) :
    t.Driven := by
  refine h.keep hstreams hconsumed ?_ ?_
  · rw [hphase]
    exact id
  · rw [hphase]
    exact h.dry

theorem Turn.engaged {s : Subscription} {phase : DriverPhase} (h : Turn config s phase)
    (hphase : phase.isEngaged = true) : s.phase.isEngaged = true := by
  cases h with
  | selecting h _ | exhausted h _ _ | sent h _ =>
    rw [h]
    rfl
  | again h =>
    rcases h with h | ⟨call, h⟩ | h
    all_goals
      rw [h]
      rfl
  | left h haction => exact DriverPhase.isEngaged_of_driving h
  | retrying | opening | ended => cases hphase

theorem Driven.turn {s t : Subscription} (h : s.Driven) (hframe : Frame s t)
    (hturn : Turn config s t.phase) : t.Driven := by
  refine h.keep (by rw [hframe.current]) (by rw [hframe.current]) hturn.engaged ?_
  intro hcomplete
  rw [hcomplete] at hturn
  cases hturn with
  | left _ haction => exact absurd rfl haction
  | exhausted _ hdry _ => exact hdry

/-- While `drive_generation` runs only the workers' own loops move them; when it has returned with
`Complete` they have all returned. -/
theorem Driven.works {s : Subscription} {act : WorkerAction} {stream : NodeStream} (h : s.Driven)
    (hengaged : s.phase.isEngaged = true)
    (haction : act.isInternal = true ∨ act = .command .shutdown ∧ s.phase.isLeft = true)
    (hstream : stream ∈ s.current.streams)
    (hstep : stream.worker.step timeout act = some worker) :
    act.isInternal = true ∧ s.phase ≠ .left .complete := by
  have hcomplete : s.phase ≠ .left .complete := by
    intro hcomplete
    have hdry := h.dry hcomplete stream hstream
    simp only [NodeStream.isDry, ne_eq, decide_eq_true_eq] at hdry
    exact hdry.1 (Worker.step_running hstep)
  refine ⟨?_, hcomplete⟩
  rcases haction with hinternal | ⟨-, hleft⟩
  · exact hinternal
  · rcases DriverPhase.isEngaged_cases hengaged with hdriving | hphase
    · cases hphase : s.phase with
      | left action =>
        rw [hphase] at hdriving
        cases hdriving
      | checking | selecting | mitigating _ _ | applying _ | skipping _ | sending _ | retrying _
      | opening _ _ | ended _ =>
        rw [hphase] at hleft
        cases hleft
    · exact absurd hphase hcomplete

theorem Driven.work {s : Subscription} (h : s.Driven)
    (haction : act.isInternal = true ∨ act = .command .shutdown ∧ s.phase.isLeft = true)
    (hstream : s.current.streams[node]? = some stream)
    (hstep : stream.worker.step timeout act = some worker) :
    Driven { s with current := { s.current with
      streams := s.current.streams.set node { stream with worker } } } := by
  have hmem := List.mem_of_getElem? hstream
  have hgrows := Worker.step_output hstep
  refine ⟨?_, ?_, ?_, ?_, ?_, h.clean, ?_⟩
  · intro other hother v
    rcases List.mem_or_eq_of_mem_set hother with hother | rfl
    · exact h.tracks other hother v
    · exact Worker.step_tracks (h.tracks stream hmem v) hstep
  · intro other hother
    rcases List.mem_or_eq_of_mem_set hother with hother | rfl
    · exact h.receiver other hother
    · rw [Worker.step_receiverOpen hstep (haction.imp_right And.left)]
      exact h.receiver stream hmem
  · intro node' other hother
    rw [List.getElem?_set] at hother
    split at hother
    · rename_i hnode
      subst hnode
      split at hother
      · cases hother
        obtain ⟨hle, htake⟩ := h.cursor node stream hstream
        refine ⟨hle.trans hgrows.length_le, ?_⟩
        obtain ⟨more, hmore⟩ := hgrows
        rw [← hmore, List.take_append_of_le_length hle]
        exact htake
      · cases hother
    · exact h.cursor node' other hother
  · intro entry hentry
    rw [List.length_set]
    exact h.inside entry hentry
  · intro hengaged other hother
    rcases List.mem_or_eq_of_mem_set hother with hother | rfl
    · exact h.accounts hengaged other hother
    · exact Worker.step_accounts (h.accounts hengaged stream hmem) (h.receiver stream hmem)
        (h.works hengaged haction hmem hstep).1 hstep
  · intro hcomplete
    have hengaged : s.phase.isEngaged = true := by
      rw [show s.phase = .left .complete from hcomplete]
      rfl
    exact absurd hcomplete (h.works hengaged haction hmem hstep).2

theorem Driven.took {s : Subscription} (h : s.Driven) (hphase : s.phase = .selecting)
    (hstream : s.current.streams[node]? = some stream)
    (hitem : stream.worker.output[stream.taken]? = some item)
    (hhandles : Handles config (s.taking node stream item) item t) : t.Driven := by
  obtain ⟨hstreams, hconsumed, -⟩ := hhandles.current
  have hengaged : s.phase.isEngaged = true := by
    rw [hphase]
    rfl
  have hmem : ∀ other ∈ (s.taking node stream item).current.streams,
      other ∈ s.current.streams ∨ other = { stream with taken := stream.taken + 1 } :=
    fun other hother => List.mem_or_eq_of_mem_set hother
  have hstreamMem := List.mem_of_getElem? hstream
  refine ⟨?_, ?_, ?_, ?_, ?_, ?_, fun hcomplete => absurd hcomplete hhandles.phase⟩
  · rw [hstreams]
    intro other hother v
    rcases hmem other hother with hother | rfl
    · exact h.tracks other hother v
    · exact h.tracks stream hstreamMem v
  · rw [hstreams]
    intro other hother
    rcases hmem other hother with hother | rfl
    · exact h.receiver other hother
    · exact h.receiver stream hstreamMem
  · intro node' other hother
    rw [hstreams, taking, List.getElem?_set] at hother
    rw [hconsumed, taking, consumedFrom_append]
    split at hother
    · rename_i hnode
      subst hnode
      split at hother
      · cases hother
        refine ⟨(List.getElem?_eq_some_iff.1 hitem).1, ?_⟩
        rw [consumedFrom_self, (h.cursor node stream hstream).2, List.take_add_one, hitem]
        rfl
      · cases hother
    · rename_i hnode
      rw [consumedFrom_other hnode, List.append_nil]
      exact h.cursor node' other hother
  · intro entry hentry
    rw [hstreams, taking, List.length_set]
    rw [hconsumed, taking] at hentry
    rcases List.mem_append.1 hentry with hentry | hentry
    · exact h.inside entry hentry
    · rw [List.mem_singleton.1 hentry]
      exact (List.getElem?_eq_some_iff.1 hstream).1
  · rw [hstreams]
    intro _ other hother
    rcases hmem other hother with hother | rfl
    · exact h.accounts hengaged other hother
    · exact h.accounts hengaged stream hstreamMem
  · intro ht entry hentry error herror
    rw [hconsumed, taking] at hentry
    rcases List.mem_append.1 hentry with hentry | hentry
    · exact h.clean hengaged entry hentry error herror
    · rw [List.mem_singleton.1 hentry] at herror
      cases herror
      rw [hhandles.clean] at ht
      cases ht

/-- A generation that has just been opened. -/
structure Fresh (config : DcpConfig) (request : OpenGenerationRequest) (s : Subscription) :
    Prop where
  opened : ∃ answers opened, openTokioGeneration config request answers = .ok opened ∧
    s.current.streams = opened.streams
  consumed : s.current.consumed = []
  phase : s.phase = .checking

theorem Fresh.covers {s : Subscription} (h : s.Fresh config request) :
    ∃ opening : Opening, opening.Covers request request.starts.keys ∧
      s.current.streams = opening.streams := by
  obtain ⟨answers, opened, hopened, hstreams⟩ := h.opened
  obtain ⟨opening, hcovers, heq, -⟩ := openTokioGeneration_covers hopened
  exact ⟨opening, hcovers, hstreams.trans heq⟩

theorem Fresh.driven {s : Subscription} (h : s.Fresh config request) : s.Driven := by
  obtain ⟨opening, hcovers, hstreams⟩ := h.covers
  have hspawned : ∀ stream ∈ s.current.streams, stream.taken = 0 ∧
      ∃ connection credit streamEndOnClose, stream.worker =
        Worker.spawn connection stream.report.partitions credit streamEndOnClose := by
    intro stream hstream
    rw [hstreams] at hstream
    obtain ⟨⟨connection, credit, streamEndOnClose, hworker⟩, htaken⟩ :=
      hcovers.spawned stream hstream
    exact ⟨htaken, connection, credit, streamEndOnClose, hworker⟩
  refine ⟨?_, ?_, ?_, ?_, ?_, ?_, ?_⟩
  · intro stream hstream v
    obtain ⟨-, connection, credit, streamEndOnClose, hworker⟩ := hspawned stream hstream
    rw [hworker]
    exact Worker.spawn_tracks connection stream.report.partitions credit streamEndOnClose v
  · intro stream hstream
    obtain ⟨-, connection, credit, streamEndOnClose, hworker⟩ := hspawned stream hstream
    rw [hworker]
    cases credit <;> rfl
  · intro node stream hstream
    obtain ⟨htaken, -⟩ := hspawned stream (List.mem_of_getElem? hstream)
    rw [h.consumed, htaken]
    exact ⟨Nat.zero_le _, rfl⟩
  · rw [h.consumed]
    simp
  · intro _ stream hstream
    obtain ⟨-, connection, credit, streamEndOnClose, hworker⟩ := hspawned stream hstream
    rw [hworker]
    exact Worker.spawn_accounts connection stream.report.partitions credit streamEndOnClose
  · rw [h.consumed]
    simp
  · rw [h.phase]
    simp

theorem prepareSubscription_fresh
    (h : prepareSubscription config assignment topics answer answers = .ok s) :
    ∃ request, s.Fresh config request := by
  obtain ⟨request, opened, loaded, system, -, hopened, -, rfl⟩ := prepareSubscription_eq_ok h
  exact ⟨request, ⟨answers, opened, hopened, rfl⟩, rfl, rfl⟩

theorem step_driven {s : Subscription} (h : s.Driven) (hstep : s.step config action = some t) :
    t.Driven := by
  cases step_effect hstep with
  | outside hframe hphase => exact h.same (by rw [hframe.current]) (by rw [hframe.current]) hphase
  | turned hframe hturn => exact h.turn hframe hturn
  | system _ _ hphase hframe =>
    rcases hphase with hphase | ⟨⟨token, hskipping⟩, hphase⟩
    · exact h.same (by rw [hframe.current]) (by rw [hframe.current]) hphase
    · refine h.keep (by rw [hframe.current]) (by rw [hframe.current]) ?_ ?_
      · rw [hskipping]
        exact fun _ => rfl
      · rcases hphase with hphase | ⟨error, hphase⟩
        · simp [hphase]
        · simp [hphase]
  | worked _ haction hstream hworker => exact h.work haction hstream hworker
  | took hphase hstream hitem hhandles => exact h.took hphase hstream hitem hhandles
  | released hphase hdelivers =>
    obtain ⟨hstreams, hconsumed, -⟩ := hdelivers.current
    refine h.keep hstreams hconsumed ?_ fun hcomplete => absurd hcomplete hdelivers.phase
    rw [hphase]
    exact fun _ => rfl
  | reopened _ hopened _ hcurrent _ _ _ hafter =>
    have hfresh : t.Fresh config _ := ⟨⟨_, _, hopened, by rw [hcurrent]⟩, by rw [hcurrent], hafter⟩
    exact hfresh.driven

structure Continues (config : DcpConfig) (action : SubscriptionAction) (s t : Subscription) :
    Prop where
  past : t.past.length = s.past.length
  length : t.current.streams.length = s.current.streams.length
  streams : ∀ (node : Nat) stream', t.current.streams[node]? = some stream' →
    ∃ stream, s.current.streams[node]? = some stream ∧ stream'.report = stream.report ∧
      (stream'.worker = stream.worker ∨ ∃ act, action = .work node act ∧
        (act.isInternal = true ∨ act = .command .shutdown) ∧
        stream.worker.step config.flowControl.deadConnectionTimeout act = some stream'.worker)

theorem Continues.of_eq {s t : Subscription} (hpast : t.past = s.past)
    (h : t.current.streams = s.current.streams) : Continues config action s t := by
  refine ⟨by rw [hpast], by rw [h], ?_⟩
  intro node stream' ht
  rw [h] at ht
  exact ⟨stream', ht, rfl, .inl rfl⟩

theorem Continues.set {s t : Subscription} (hpast : t.past = s.past)
    (hstream : s.current.streams[node]? = some stream)
    (h : t.current.streams = s.current.streams.set node stream')
    (hreport : stream'.report = stream.report)
    (hworker : stream'.worker = stream.worker ∨ ∃ act, action = .work node act ∧
      (act.isInternal = true ∨ act = .command .shutdown) ∧
      stream.worker.step config.flowControl.deadConnectionTimeout act = some stream'.worker) :
    Continues config action s t := by
  refine ⟨by rw [hpast], by rw [h, List.length_set], ?_⟩
  intro other new hnew
  rw [h, List.getElem?_set] at hnew
  split at hnew
  · rename_i hnode
    subst hnode
    split at hnew
    · cases hnew
      exact ⟨stream, hstream, hreport, hworker⟩
    · cases hnew
  · exact ⟨new, hnew, rfl, .inl rfl⟩

theorem step_continues {s : Subscription} (h : s.step config action = some t) :
    t.past.length = s.past.length + 1 ∨ Continues config action s t := by
  cases step_effect h with
  | outside hframe _ | turned hframe _ | system _ _ _ hframe =>
    exact .inr (.of_eq hframe.past (by rw [hframe.current]))
  | worked _ haction hstream hworker =>
    exact .inr (.set rfl hstream rfl rfl (.inr ⟨_, rfl, haction.imp_right And.left, hworker⟩))
  | took _ hstream _ hhandles =>
    obtain ⟨hstreams, -, hpast⟩ := hhandles.current
    exact .inr (.set hpast hstream hstreams rfl (.inl rfl))
  | released _ hdelivers =>
    obtain ⟨hstreams, -, hpast⟩ := hdelivers.current
    exact .inr (.of_eq hpast hstreams)
  | reopened _ _ _ _ hpast =>
    exact .inl (by rw [hpast, List.length_append, List.length_singleton])

/-- Within a generation the streams are the same ones, and what a worker has sent stays sent. -/
structure Grows (s t : Subscription) : Prop where
  length : t.current.streams.length = s.current.streams.length
  streams : ∀ (node : Nat) stream', t.current.streams[node]? = some stream' →
    ∃ stream, s.current.streams[node]? = some stream ∧ stream'.report = stream.report ∧
      stream.worker.output <+: stream'.worker.output

theorem Grows.refl (s : Subscription) : Grows s s :=
  ⟨rfl, fun _ stream h => ⟨stream, h, rfl, List.prefix_refl _⟩⟩

theorem Grows.trans {s t u : Subscription} (h : Grows s t) (h' : Grows t u) : Grows s u := by
  refine ⟨h'.length.trans h.length, ?_⟩
  intro node stream' hu
  obtain ⟨middle, ht, hreport', houtput'⟩ := h'.streams node stream' hu
  obtain ⟨stream, hs, hreport, houtput⟩ := h.streams node middle ht
  exact ⟨stream, hs, hreport'.trans hreport, houtput.trans houtput'⟩

theorem Continues.grows {s t : Subscription} (h : Continues config action s t) : Grows s t := by
  refine ⟨h.length, ?_⟩
  intro node stream' ht
  obtain ⟨stream, hs, hreport, hworker⟩ := h.streams node stream' ht
  refine ⟨stream, hs, hreport, ?_⟩
  rcases hworker with hworker | ⟨act, -, -, hstep⟩
  · rw [hworker]
  · exact Worker.step_output hstep

theorem Grows.forth {s t : Subscription} (h : Grows s t)
    (hs : s.current.streams[(node : Nat)]? = some stream) :
    ∃ stream', t.current.streams[node]? = some stream' ∧ stream'.report = stream.report ∧
      stream.worker.output <+: stream'.worker.output := by
  have hlt : node < t.current.streams.length := by
    rw [h.length]
    exact (List.getElem?_eq_some_iff.1 hs).1
  have ht := List.getElem?_eq_getElem hlt
  obtain ⟨old, hold, hrest⟩ := h.streams node _ ht
  cases hs.symm.trans hold
  exact ⟨_, ht, hrest⟩

theorem run_past {s : Subscription} (h : Machine.run (step config) s acts = some t) :
    s.past.length ≤ t.past.length := by
  refine Machine.run_invariant (P := fun u : Subscription => s.past.length ≤ u.past.length)
    ?_ le_rfl h
  intro u action v hle hstep
  rcases step_continues hstep with hpast | hcontinues
  · omega
  · rw [hcontinues.past]
    exact hle

theorem run_grows {s : Subscription} (h : Machine.run (step config) s acts = some t)
    (hpast : t.past.length = s.past.length) : Grows s t := by
  have hgrows : s.past.length ≤ t.past.length ∧ (t.past.length = s.past.length → Grows s t) := by
    refine Machine.run_invariant (P := fun u : Subscription =>
      s.past.length ≤ u.past.length ∧ (u.past.length = s.past.length → Grows s u)) ?_
      ⟨le_rfl, fun _ => .refl s⟩ h
    intro u action v hu hstep
    rcases step_continues hstep with hnext | hcontinues
    · exact ⟨by omega, by omega⟩
    · rw [hcontinues.past]
      exact ⟨hu.1, fun heq => (hu.2 heq).trans hcontinues.grows⟩
  exact hgrows.2 hpast

structure Assigned (s : Subscription) (vbuckets : List UInt16) : Prop where
  opened : ∀ v ∈ vbuckets, ∃ (node : Nat) (stream : NodeStream) (state : PartitionOpenState),
    s.current.streams[node]? = some stream ∧ stream.report.partitions[v]? = some state
  owned : ∀ (node : Nat) stream, s.current.streams[node]? = some stream →
    ∀ (v : UInt16) state, stream.report.partitions[v]? = some state → v ∈ vbuckets
  apart : ∀ (i j : Nat) a b, s.current.streams[i]? = some a → s.current.streams[j]? = some b →
    ∀ (v : UInt16) x y, a.report.partitions[v]? = some x → b.report.partitions[v]? = some y → i = j

theorem Fresh.assigned {s : Subscription} (h : s.Fresh config request) :
    s.Assigned request.starts.keys := by
  obtain ⟨opening, hcovers, hstreams⟩ := h.covers
  refine ⟨?_, ?_, ?_⟩
  · intro v hv
    obtain ⟨stream, hstream, state, hstate⟩ := hcovers.opened v hv
    rw [← hstreams] at hstream
    obtain ⟨node, hnode⟩ := List.getElem?_of_mem hstream
    exact ⟨node, stream, state, hnode, hstate⟩
  · intro node stream hstream v state hstate
    rw [hstreams] at hstream
    by_contra hv
    have heffective := (hcovers.fits stream (List.mem_of_getElem? hstream) v state hstate).2.1
    rw [(hcovers.absent v hv).1] at heffective
    cases heffective
  · intro i j a b hi hj v x y hx hy
    rw [hstreams] at hi hj
    obtain ⟨hilt, rfl⟩ := List.getElem?_eq_some_iff.1 hi
    obtain ⟨hjlt, rfl⟩ := List.getElem?_eq_some_iff.1 hj
    have hapart := List.pairwise_iff_getElem.1 hcovers.apart
    rcases Nat.lt_trichotomy i j with hlt | heq | hlt
    · rcases hapart i j hilt hjlt hlt v with hnone | hnone
      · rw [hnone] at hx
        cases hx
      · rw [hnone] at hy
        cases hy
    · exact heq
    · rcases hapart j i hjlt hilt hlt v with hnone | hnone
      · rw [hnone] at hy
        cases hy
      · rw [hnone] at hx
        cases hx

theorem Assigned.grows {s t : Subscription} (h : s.Assigned vbuckets) (hgrows : Grows s t) :
    t.Assigned vbuckets := by
  refine ⟨?_, ?_, ?_⟩
  · intro v hv
    obtain ⟨node, stream, state, hstream, hstate⟩ := h.opened v hv
    obtain ⟨stream', ht, hreport, -⟩ := hgrows.forth hstream
    exact ⟨node, stream', state, ht, by rw [hreport]; exact hstate⟩
  · intro node stream' ht v state hstate
    obtain ⟨stream, hs, hreport, -⟩ := hgrows.streams node stream' ht
    exact h.owned node stream hs v state (hreport ▸ hstate)
  · intro i j a b ha hb v x y hx hy
    obtain ⟨a', ha', hareport, -⟩ := hgrows.streams i a ha
    obtain ⟨b', hb', hbreport, -⟩ := hgrows.streams j b hb
    exact h.apart i j a' b' ha' hb' v x y (hareport ▸ hx) (hbreport ▸ hy)

end Subscription

end RustDcp
