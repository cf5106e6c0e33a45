import RustDcp.WorkerSteps

namespace RustDcp
set_option autoImplicit true

theorem FlowCredit.flushLoop_agree {c c' : KvConnection} (hc : c.fault = none)
    (hc' : c'.fault = none) (fuel : Nat) (credit : FlowCredit) :
    (flushLoop fuel credit c).1 = .ok () ∧ (flushLoop fuel credit c').1 = .ok () ∧
    (flushLoop fuel credit c).2.1 = (flushLoop fuel credit c').2.1 ∧
    (flushLoop fuel credit c).2.2.fault = none ∧ (flushLoop fuel credit c').2.2.fault = none := by
  induction fuel generalizing credit c c' with
  | zero => exact ⟨rfl, rfl, rfl, hc, hc'⟩
  | succ fuel ih =>
    simp only [flushLoop]
    split
    · exact ⟨rfl, rfl, rfl, hc, hc'⟩
    · simp only [KvConnection.sendFrame_of_fault_none hc, KvConnection.sendFrame_of_fault_none hc']
      exact ih (by exact hc) (by exact hc') _

theorem FlowCredit.record_agree {c c' : KvConnection} (hc : c.fault = none)
    (hc' : c'.fault = none) (credit : FlowCredit) (bytes : Nat) :
    (credit.record c bytes).1 = (credit.record c' bytes).1 ∧
    (credit.record c bytes).2.1 = (credit.record c' bytes).2.1 ∧
    (credit.record c bytes).2.2.fault = none ∧ (credit.record c' bytes).2.2.fault = none := by
  simp only [record]
  split
  · exact ⟨rfl, rfl, hc, hc'⟩
  · split
    · exact ⟨rfl, rfl, hc, hc'⟩
    · split
      · obtain ⟨h, h', hcredit, hfault⟩ := flushLoop_agree hc hc'
          ((credit.pending + bytes) / u32Max + 1) { credit with pending := credit.pending + bytes }
        exact ⟨h.trans h'.symm, hcredit, hfault⟩
      · exact ⟨rfl, rfl, hc, hc'⟩

namespace Worker

/-- `act` is `ref` without the stream of `v`; both can write and are listened to. -/
structure Mirrors (v : UInt16) (ref act : Worker) : Prop where
  peer : act.connection.peer = ref.connection.peer
  writes : ref.connection.fault = none ∧ act.connection.fault = none
  listened : ref.receiverOpen = true ∧ act.receiverOpen = true
  credit : act.credit = ref.credit
  partitions : act.partitions = ref.partitions.erase v
  events : ∀ u, u ≠ v → eventsOf u act.output = eventsOf u ref.output

def Agree (v : UInt16) (r a : Outcome Worker) : Prop := r.1 = a.1 ∧ Mirrors v r.2 a.2

theorem Agree.andThen {r a : Outcome Worker} (h : Agree v r a)
    (hnext : ∀ ref act, Mirrors v ref act → Agree v (next ref) (next' act)) :
    Agree v (r.andThen next) (a.andThen next') := by
  obtain ⟨result, ref⟩ := r
  obtain ⟨result', act⟩ := a
  obtain ⟨rfl, hm⟩ : result = result' ∧ Mirrors v ref act := h
  cases result with
  | error error => exact ⟨rfl, hm⟩
  | ok u => exact hnext ref act hm

theorem Mirrors.sendFrame (h : Mirrors v ref act) (frame : Frame) :
    Agree v (ref.sendFrame frame) (act.sendFrame frame) := by
  simp only [Worker.sendFrame, KvConnection.sendFrame_of_fault_none h.writes.1,
    KvConnection.sendFrame_of_fault_none h.writes.2]
  exact ⟨rfl, h.peer, h.writes, h.listened, h.credit, h.partitions, h.events⟩

theorem Mirrors.emit (h : Mirrors v ref act) (item : DcpStreamItem) :
    Agree v (ref.emit item) (act.emit item) := by
  rw [Worker.emit, Worker.emit, if_pos h.listened.1, if_pos h.listened.2]
  refine ⟨rfl, h.peer, h.writes, h.listened, h.credit, h.partitions, fun u hu => ?_⟩
  rw [eventsOf_append, eventsOf_append, h.events u hu]

theorem Mirrors.recordCredit (h : Mirrors v ref act) (bytes : Nat) :
    Agree v (ref.recordCredit bytes) (act.recordCredit bytes) := by
  obtain ⟨hresult, hcredit, hfault⟩ :=
    FlowCredit.record_agree h.writes.1 h.writes.2 ref.credit bytes
  have hpeer := ref.credit.record_queue ref.connection bytes
  have hpeer' := ref.credit.record_queue act.connection bytes
  simp only [Worker.recordCredit, h.credit]
  refine ⟨hresult, ?_, hfault, h.listened, hcredit.symm, h.partitions, h.events⟩
  exact hpeer'.2.trans (h.peer.trans hpeer.2.symm)

theorem erase_insert_comm {m : BTreeMap UInt16 PartitionProgress} (hne : u ≠ v) :
    (m.erase v).insert u progress = (m.insert u progress).erase v := by
  ext1 k
  simp only [Std.ExtTreeMap.getElem?_insert, Std.ExtTreeMap.getElem?_erase,
    Std.compare_eq_iff_eq]
  by_cases huk : u = k
  · have hvk : v ≠ k := by
      intro hvk
      exact hne (huk.trans hvk.symm)
    simp only [huk, hvk, ↓reduceIte]
  · simp only [huk, ↓reduceIte]

theorem erase_comm {m : BTreeMap UInt16 PartitionProgress} :
    (m.erase v).erase u = (m.erase u).erase v := by
  ext1 k
  simp only [Std.ExtTreeMap.getElem?_erase]
  split <;> simp

theorem Mirrors.deliver (h : Mirrors v ref act) (u : UInt16) (frame : Frame)
    (message : Protocol.DcpMessage) :
    Agree v (ref.deliver frame u message) (act.deliver frame u message) := by
  rw [Worker.deliver, Worker.deliver]
  refine Agree.andThen ?_ fun ref act h => ?_
  · split
    · exact h.sendFrame _
    · exact ⟨rfl, h⟩
  · split
    · exact ⟨rfl, h⟩
    · refine (h.emit _).andThen fun ref act h => (h.recordCredit _).andThen fun ref act h => ?_
      split
      · refine ⟨rfl, h.peer, h.writes, h.listened, h.credit, ?_, h.events⟩
        rw [h.partitions, erase_comm]
      · exact ⟨rfl, h⟩

theorem Mirrors.getElem? (h : Mirrors v ref act) (hne : u ≠ v) :
    act.partitions[u]? = ref.partitions[u]? := by
  simp only [h.partitions, Std.ExtTreeMap.getElem?_erase, Std.compare_eq_iff_eq, hne.symm,
    ↓reduceIte]

theorem Mirrors.handleEvent (h : Mirrors v ref act) (frame : Frame)
    (hne : Protocol.messageVbucket message ≠ some v) :
    Agree v (ref.handleEvent frame message) (act.handleEvent frame message) := by
  rw [Worker.handleEvent, Worker.handleEvent]
  cases hv : Protocol.messageVbucket message with
  | none => exact ⟨rfl, h⟩
  | some u =>
    have huv : u ≠ v := by
      intro heq
      exact hne (heq ▸ hv)
    simp only [h.getElem? huv]
    split
    case h_1 => exact ⟨rfl, h⟩
    case h_2 progress hp =>
      split
      · exact ⟨rfl, h⟩
      split
      · exact ⟨rfl, h⟩
      split
      case h_1 => exact ⟨rfl, h⟩
      case h_2 progress' hobserved =>
        refine Mirrors.deliver ?_ u frame message
        refine ⟨h.peer, h.writes, h.listened, h.credit, ?_, h.events⟩
        rw [h.partitions, erase_insert_comm huv]

theorem Mirrors.handleFrame (h : Mirrors v ref act) (frame : Frame)
    (hne : Protocol.eventVbucket frame ≠ some v) :
    Agree v (ref.handleFrame frame) (act.handleFrame frame) := by
  rw [Worker.handleFrame, Worker.handleFrame]
  split
  case isTrue => exact ⟨rfl, h⟩
  case isFalse hmagic =>
    split
    case isTrue =>
      rw [h.peer]
      exact h.emit _
    case isFalse hopcode =>
      split
      case h_1 => exact ⟨rfl, h⟩
      case h_2 => exact h.sendFrame _
      case h_3 =>
        refine (h.emit _).andThen fun ref act h => ?_
        split
        · exact h.recordCredit _
        · exact ⟨rfl, h⟩
      case h_4 message hnoop hunknown hparse =>
        refine h.handleEvent frame ?_
        rwa [Protocol.eventVbucket, eventOf_eq_some hmagic hopcode hparse hnoop hunknown,
          Option.bind_some] at hne

theorem handleFrame_inactive {w : Worker} (hv : Protocol.eventVbucket frame = some v)
    (hinactive : w.partitions[v]? = none) :
    w.handleFrame frame =
      (.error (.stream v "received an event for a stream that is not active"), w) := by
  obtain ⟨message, hevent, hmessage⟩ := Option.bind_eq_some_iff.1 hv
  rw [handleFrame_of_event w hevent, handleEvent, hmessage]
  simp only [hinactive]

end Worker

def Protocol.endsVbucket (frame : Frame) : Option UInt16 :=
  (Protocol.eventOf frame).bind fun message =>
    if Worker.isStreamEnd message then Protocol.messageVbucket message else none

namespace Worker

def accepts : Worker → List Frame → Option Worker
  | w, [] => some w
  | w, frame :: frames =>
    match w.handleFrame frame with
    | (.error _, _) => none
    | (.ok (), t) => accepts t frames

theorem accepts_cons (h : accepts w (frame :: frames) = some t) :
    ∃ u, w.handleFrame frame = (.ok (), u) ∧ accepts u frames = some t := by
  rw [accepts] at h
  split at h
  case h_1 => cases h
  case h_2 u hu => exact ⟨u, hu, h⟩

theorem accepts_not_response (h : accepts w frames = some t) :
    ∀ frame ∈ frames, frame.magic.isResponse = false := by
  induction frames generalizing w with
  | nil => exact nofun
  | cons frame frames ih =>
    obtain ⟨u, hu, h⟩ := accepts_cons h
    refine List.forall_mem_cons.2 ⟨?_, ih h⟩
    rw [handleFrame] at hu
    split at hu
    case isTrue => cases hu
    case isFalse hmagic => exact Bool.eq_false_iff.2 hmagic

theorem handleFrame_active {w : Worker} (h : w.handleFrame frame = (.ok (), t)) (u : UInt16) :
    u ∈ t.partitions ↔ u ∈ w.partitions ∧ Protocol.endsVbucket frame ≠ some u := by
  have heffect := w.handleFrame_effect frame
  rw [h] at heffect
  cases heffect with
  | control items hnone hparts hout hitems =>
    simp [hparts, Protocol.endsVbucket, hnone]
  | @event message v progress progress' event _ haccepted hout hparts =>
    have hv : v ∈ w.partitions := Std.ExtTreeMap.mem_iff_isSome_getElem?.2 (by
      rw [haccepted.active]
      rfl)
    have hends : Protocol.endsVbucket frame = if isStreamEnd message then some v else none := by
      rw [Protocol.endsVbucket, haccepted.carried, Option.bind_some, haccepted.vbucket]
    rw [hparts, hends]
    by_cases hend : isStreamEnd message = true
    · by_cases huv : v = u
      · simp [hend, huv]
      · simp [hend, huv]
    · by_cases huv : v = u
      · subst huv
        simp [hend, hv]
      · simp [hend, huv]

theorem handleFrame_events {w : Worker} (h : w.handleFrame frame = (.ok (), t))
    (hu : u ∉ w.partitions) :
    eventsOf u t.output = eventsOf u w.output := by
  have heffect := w.handleFrame_effect frame
  rw [h] at heffect
  cases heffect with
  | control items hnone hparts hout hitems =>
    rw [hout, eventsOf_append, eventsOf_control u hitems, List.append_nil]
  | @event message v progress progress' event _ haccepted hout hparts =>
    obtain ⟨event', hconv, hvbucket, -⟩ := Protocol.convertEvent_of_vbucket haccepted.vbucket
    cases haccepted.converted.symm.trans hconv
    have hne : event.vbucket ≠ u := by
      intro heq
      apply hu
      rw [← heq, hvbucket, Std.ExtTreeMap.mem_iff_isSome_getElem?, haccepted.active]
      rfl
    rw [hout, eventsOf_append, eventsOf_other hne, List.append_nil]

theorem accepts_active (h : accepts w frames = some t) (u : UInt16) :
    u ∈ t.partitions ↔
      u ∈ w.partitions ∧ ∀ frame ∈ frames, Protocol.endsVbucket frame ≠ some u := by
  induction frames generalizing w with
  | nil =>
    cases h
    simp
  | cons frame frames ih =>
    obtain ⟨s, hs, h⟩ := accepts_cons h
    rw [ih h, handleFrame_active hs, List.forall_mem_cons, and_assoc]

theorem accepts_events (h : accepts w frames = some t) (hu : u ∉ w.partitions) :
    eventsOf u t.output = eventsOf u w.output := by
  induction frames generalizing w with
  | nil =>
    cases h
    rfl
  | cons frame frames ih =>
    obtain ⟨s, hs, h⟩ := accepts_cons h
    rw [ih h fun hmem => hu ((handleFrame_active hs u).1 hmem).1, handleFrame_events hs hu]

/-- One round of the loop while no command arrives; `none` means that it waits or has ended. -/
def turn (deadConnectionTimeout : Nat) (self : Worker) : Option Worker :=
  self.step deadConnectionTimeout (if self.partitions.isEmpty then .finish else .receive)

def loop (deadConnectionTimeout : Nat) : Nat → Worker → Worker
  | 0, self => self
  | rounds + 1, self =>
    match self.turn deadConnectionTimeout with
    | none => self
    | some next => loop deadConnectionTimeout rounds next

theorem loop_of_turn_none (h : turn timeout w = none) (rounds : Nat) :
    loop timeout rounds w = w := by
  cases rounds with
  | zero => rfl
  | succ rounds => rw [loop, h]

theorem turn_stopped {w : Worker} (h : w.status ≠ .running) : turn timeout w = none := by
  rw [turn, step.eq_def, if_pos h]

theorem turn_finish {w : Worker} (hrun : w.status = .running)
    (hempty : w.partitions.isEmpty = true) :
    turn timeout w = some w.finish := by
  simp [turn, step, hrun, hempty]

theorem turn_waits {w : Worker} (hrun : w.status = .running)
    (hactive : w.partitions.isEmpty = false)
    (hqueue : w.connection.queue = []) : turn timeout w = none := by
  simp [turn, step, hrun, hactive, receive, KvConnection.receiveFrame_eq_none.2 hqueue]

theorem turn_frame {w : Worker} (hrun : w.status = .running)
    (hactive : w.partitions.isEmpty = false)
    (hqueue : w.connection.queue = .ok frame :: rest) :
    ∃ s : Worker, s.connection.queue = rest ∧ s.connection.fault = w.connection.fault ∧
      s.connection.peer = w.connection.peer ∧ s = { w with connection := s.connection } ∧
      turn timeout w = match s.handleFrame frame with
        | (.error error, t) => some (t.fail error)
        | (.ok (), t) => some t := by
  obtain ⟨connection, hreceive, hrest, hfault, hpeer⟩ := KvConnection.receiveFrame_cons hqueue
  refine ⟨{ w with connection }, hrest, hfault, hpeer, rfl, ?_⟩
  have hturn : turn timeout w = receive w := by simp [turn, hactive, step, hrun]
  rw [hturn]
  cases hframe : handleFrame { w with connection } frame with
  | mk result t =>
    cases result with
    | error error => simp only [receive, hreceive, hframe]
    | ok result => simp only [receive, hreceive, hframe]

/-- No frame of `v` is reached while another stream is active. -/
def Clear (w : Worker) (v : UInt16) (frames : List Frame) : Prop :=
  ∀ passed frame rest, frames = passed ++ frame :: rest →
    Protocol.eventVbucket frame = some v →
    ∀ u ∈ w.partitions, u ≠ v → ∃ ending ∈ passed, Protocol.endsVbucket ending = some u

theorem finish_of_writes {w : Worker} (h : w.connection.fault = none) :
    w.finish.status = .returned ∧ w.finish.partitions = w.partitions ∧
      w.finish.output = w.output := by
  obtain ⟨hok, -⟩ := FlowCredit.flushLoop_agree h h (w.credit.pending / u32Max + 1) w.credit
  rw [finish, flushCredit, FlowCredit.flush]
  generalize FlowCredit.flushLoop _ _ _ = flushed at hok
  obtain ⟨result, credit, connection⟩ := flushed
  cases (show result = .ok () from hok)
  exact ⟨rfl, rfl, rfl⟩

theorem Mirrors.mem (h : Mirrors v ref act) : u ∈ act.partitions ↔ u ∈ ref.partitions ∧ u ≠ v := by
  rw [h.partitions, Std.ExtTreeMap.mem_erase, ne_eq, Std.compare_eq_iff_eq, and_comm, ne_eq,
    eq_comm]

theorem Mirrors.of_connection (h : Mirrors v ref act) {s : Worker}
    (hfault : s.connection.fault = act.connection.fault)
    (hpeer : s.connection.peer = act.connection.peer)
    (hs : s = { act with connection := s.connection }) : Mirrors v ref s := by
  rw [hs]
  exact ⟨hpeer.trans h.peer, ⟨h.writes.1, hfault.trans h.writes.2⟩, h.listened, h.credit,
    h.partitions, h.events⟩

theorem isEmpty_eq_false {m : BTreeMap UInt16 PartitionProgress} :
    m.isEmpty = false ↔ ∃ u, u ∈ m := by
  rw [Std.ExtTreeMap.isEmpty_eq_false_iff, Std.ExtTreeMap.eq_empty_iff_forall_not_mem, not_forall]
  simp only [not_not]

theorem Mirrors.turn (hm : Mirrors v ref act) (hrun : act.status = .running)
    (hactive : act.partitions.isEmpty = false)
    (hqueue : act.connection.queue = .ok frame :: rest)
    (hne : Protocol.eventVbucket frame ≠ some v) (href : ref.handleFrame frame = (.ok (), ref')) :
    ∃ act', turn timeout act = some act' ∧ Mirrors v ref' act' ∧ act'.status = .running ∧
      act'.connection.queue = rest := by
  obtain ⟨s, hrest, hfault, hpeer, hs, hturn⟩ := turn_frame hrun hactive hqueue
  obtain ⟨hresult, hmirrors⟩ := (hm.of_connection hfault hpeer hs).handleFrame frame hne
  have hkept := s.handleFrame_kept frame
  rw [href] at hresult hmirrors
  generalize s.handleFrame frame = outcome at *
  obtain ⟨result, act'⟩ := outcome
  cases hresult
  refine ⟨act', hturn, hmirrors, hkept.status.trans ?_, hkept.queue.trans hrest⟩
  rw [hs]
  exact hrun

theorem Clear.head (h : Clear w v (frame :: frames)) (hu : u ∈ w.partitions) (hne : u ≠ v) :
    Protocol.eventVbucket frame ≠ some v := by
  intro hv
  obtain ⟨ending, hmem, -⟩ := h [] frame frames rfl hv u hu hne
  cases hmem

theorem Clear.tail {w : Worker} (h : Clear w v (frame :: frames))
    (ht : w.handleFrame frame = (.ok (), t)) : Clear t v frames := by
  intro passed later rest hsplit hv u hu hne
  obtain ⟨hmem, hends⟩ := (handleFrame_active ht u).1 hu
  obtain ⟨ending, hending, hend⟩ :=
    h (frame :: passed) later rest (by rw [hsplit, List.cons_append]) hv u hmem hne
  cases List.mem_cons.1 hending with
  | inl heq => exact absurd (heq ▸ hend) hends
  | inr hpassed => exact ⟨ending, hpassed, hend⟩

theorem loop_of_turn (h : turn timeout w = some t) (rounds : Nat) :
    loop timeout (rounds + 1) w = loop timeout rounds t := by
  rw [loop, h]

theorem loop_empty (hm : Mirrors v ref act) (hrun : act.status = .running)
    (hempty : act.partitions.isEmpty = true) (haccepts : accepts ref frames = some t)
    (rounds : Nat) :
    (loop timeout (rounds + 1) act).status = .returned ∧
      (loop timeout (rounds + 1) act).partitions.isEmpty = true ∧ ∀ u, u ≠ v →
        eventsOf u (loop timeout (rounds + 1) act).output = eventsOf u t.output ∧
        u ∉ t.partitions := by
  obtain ⟨hstatus, hparts, hout⟩ := finish_of_writes hm.writes.2
  have hstop : act.finish.status ≠ .running := by
    rw [hstatus]
    exact nofun
  rw [loop_of_turn (turn_finish hrun hempty), loop_of_turn_none (turn_stopped hstop), hparts, hout]
  refine ⟨hstatus, hempty, fun u hne => ?_⟩
  have hu : u ∉ ref.partitions := by
    intro hmem
    have hact := hm.mem.2 ⟨hmem, hne⟩
    rw [Std.ExtTreeMap.isEmpty_iff.1 hempty] at hact
    exact Std.ExtTreeMap.not_mem_empty hact
  rw [accepts_events haccepts hu, hm.events u hne]
  exact ⟨rfl, fun hmem => hu ((accepts_active haccepts u).1 hmem).1⟩

theorem loop_clear (hm : Mirrors v ref act) (hrun : act.status = .running)
    (hqueue : act.connection.queue = frames.map .ok) (haccepts : accepts ref frames = some t)
    (hclear : Clear ref v frames) (hrounds : frames.length < rounds) :
    ((loop timeout rounds act).status = .running ∧
      (loop timeout rounds act).partitions.isEmpty = false ∧
      Mirrors v t (loop timeout rounds act)) ∨
    ((loop timeout rounds act).status = .returned ∧
      (loop timeout rounds act).partitions.isEmpty = true ∧ ∀ u, u ≠ v →
        eventsOf u (loop timeout rounds act).output = eventsOf u t.output ∧ u ∉ t.partitions) := by
  -- Both workers take one frame a round, until no stream but that of `v` is left.
  induction frames generalizing ref act rounds with
  | nil =>
    obtain ⟨rounds, rfl⟩ := Nat.exists_eq_add_one.2 hrounds
    cases hempty : act.partitions.isEmpty with
    | true => exact .inr (loop_empty hm hrun hempty haccepts rounds)
    | false =>
      cases haccepts
      rw [loop_of_turn_none (turn_waits hrun hempty hqueue)]
      exact .inl ⟨hrun, hempty, hm⟩
  | cons frame frames ih =>
    rw [List.length_cons] at hrounds
    obtain ⟨rounds, rfl⟩ := Nat.exists_eq_add_one.2 (Nat.zero_lt_of_lt hrounds)
    cases hempty : act.partitions.isEmpty with
    | true => exact .inr (loop_empty hm hrun hempty haccepts rounds)
    | false =>
      obtain ⟨ref', href, haccepts⟩ := accepts_cons haccepts
      obtain ⟨u, hu⟩ := isEmpty_eq_false.1 hempty
      obtain ⟨hu, hne⟩ := hm.mem.1 hu
      obtain ⟨act', hturn, hm', hrun', hqueue'⟩ :=
        hm.turn hrun hempty hqueue (hclear.head hu hne) href
      rw [loop_of_turn hturn]
      exact ih hm' hrun' hqueue' haccepts (hclear.tail href) (by omega)

theorem loop_fails (hm : Mirrors v ref act) (hrun : act.status = .running)
    (hqueue : act.connection.queue = frames.map .ok) (haccepts : accepts ref frames = some t)
    (hsplit : frames = passed ++ frame :: rest) (hv : Protocol.eventVbucket frame = some v)
    (hu : u ∈ ref.partitions) (hne : u ≠ v)
    (hends : ∀ ending ∈ passed, Protocol.endsVbucket ending ≠ some u)
    (hrounds : frames.length < rounds) :
    ∃ error, (loop timeout rounds act).status = .failed error := by
  induction frames generalizing ref act rounds passed with
  | nil => simp at hsplit
  | cons first frames ih =>
    rw [List.length_cons] at hrounds
    obtain ⟨rounds, rfl⟩ := Nat.exists_eq_add_one.2 (Nat.zero_lt_of_lt hrounds)
    have hactive : act.partitions.isEmpty = false :=
      isEmpty_eq_false.2 ⟨u, hm.mem.2 ⟨hu, hne⟩⟩
    by_cases hfirst : Protocol.eventVbucket first = some v
    · obtain ⟨s, -, -, -, hs, hturn⟩ := turn_frame hrun hactive hqueue
      have hgone : s.partitions[v]? = none := by
        rw [hs]
        simp [hm.partitions]
      rw [handleFrame_inactive hfirst hgone] at hturn
      rw [loop_of_turn hturn, loop_of_turn_none (turn_stopped WorkerStatus.noConfusion)]
      exact ⟨_, rfl⟩
    · obtain ⟨ref', href, haccepts⟩ := accepts_cons haccepts
      obtain ⟨act', hturn, hm', hrun', hqueue'⟩ := hm.turn hrun hactive hqueue hfirst href
      rw [loop_of_turn hturn]
      cases passed with
      | nil =>
        rw [List.nil_append, List.cons.injEq] at hsplit
        exact absurd (hsplit.1 ▸ hv) hfirst
      | cons ending passed =>
        rw [List.cons_append, List.cons.injEq] at hsplit
        obtain ⟨hending, hends⟩ := List.forall_mem_cons.1 hends
        refine ih hm' hrun' hqueue' haccepts hsplit.2 ?_ hends (by omega)
        exact (handleFrame_active href u).2 ⟨hu, hsplit.1 ▸ hending⟩

/-- A running worker is asked to close `v`, and its peer answers after `before`. -/
structure CloseExchange (w : Worker) (v : UInt16) (before after : List Frame) : Prop where
  running : w.status = .running
  endsOnClose : w.streamEndOnClose = false
  writes : w.connection.fault = none
  listened : w.receiverOpen = true
  active : v ∈ w.partitions
  answered : ∃ response : Frame,
    w.connection.inbound = before.map .ok ++ .ok response :: after.map .ok ∧
    response.magic.isResponse = true ∧ response.opcode = Opcode.dcpCloseStream ∧
    response.status = Status.success ∧ response.opaqueId = w.connection.nextOpaque
  silent : ∀ frame ∈ after, Protocol.eventVbucket frame ≠ some v

theorem requestClose_answered (h : CloseExchange w v before after)
    (hbefore : ∀ frame ∈ before, frame.magic.isResponse = false) (streamId : Option UInt16) :
    ∃ connection : KvConnection, w.requestClose v streamId = (.ok (), { w with connection }) ∧
      connection.peer = w.connection.peer ∧ connection.fault = none ∧
      connection.queue = (w.connection.pending ++ before ++ after).map .ok := by
  obtain ⟨response, hinbound, hmagic, hopcode, hstatus, hopaqueId⟩ := h.answered
  have hfound : KvConnection.awaitResponse w.connection.nextOpaque w.connection.requestTimeout
      w.connection.pending (before.map .ok ++ .ok response :: after.map .ok) =
        (.ok response, w.connection.pending ++ before, after.map .ok) := by
    refine KvConnection.awaitResponse_found hmagic hopaqueId before _
      fun frame hframe hresponse => ?_
    rw [hbefore frame hframe] at hresponse
    exact Bool.false_ne_true hresponse.1
  have hzero : (closeStream v streamId 0).opaqueId = 0 := rfl
  have hsuccess : ensureSuccessResponse response Opcode.dcpCloseStream "close DCP stream" =
      .ok () := by
    simp [ensureSuccessResponse, hmagic, hopcode, hstatus]
  simp only [requestClose, KvConnection.request, hzero, ↓reduceIte, KvConnection.allocateOpaque,
    KvConnection.sendFrame, h.writes, hinbound, hfound, hsuccess]
  exact ⟨_, rfl, rfl, rfl, by simp [KvConnection.queue]⟩

theorem handleCommand_close (h : CloseExchange w v before after)
    (hbefore : ∀ frame ∈ before, frame.magic.isResponse = false) :
    Mirrors v w (w.handleCommand (.close v)) ∧
      (w.handleCommand (.close v)).status = .running ∧
      (w.handleCommand (.close v)).connection.queue =
        (w.connection.pending ++ before ++ after).map .ok := by
  obtain ⟨progress, hprogress⟩ :=
    Option.isSome_iff_exists.1 (Std.ExtTreeMap.mem_iff_isSome_getElem?.1 h.active)
  obtain ⟨connection, hrequest, hpeer, hfault, hqueue⟩ :=
    requestClose_answered h hbefore progress.streamId
  simp only [handleCommand, hprogress, hrequest, reply, h.endsOnClose, Bool.false_eq_true,
    ↓reduceIte, emit, h.listened]
  refine ⟨⟨hpeer, ⟨h.writes, hfault⟩, ⟨h.listened, rfl⟩, rfl, rfl, fun u hu => ?_⟩,
    h.running, hqueue⟩
  have hother : eventsOf u [.ok (.event (.streamEnd { vbucket := v, reason := .closed }))] = [] :=
    eventsOf_other hu.symm
  rw [eventsOf_append, hother, List.append_nil]

/-- The worker has not failed, it stopped only for want of streams, and every other stream has
sent what it sends without the close. -/
structure Harmless (v : UInt16) (t final : Worker) : Prop where
  unfailed : final.status = .running ∨
    (final.status = .returned ∧ final.partitions.isEmpty = true)
  events : ∀ u, u ≠ v → eventsOf u final.output = eventsOf u t.output

theorem loop_harmless_iff (hm : Mirrors v ref act) (hrun : act.status = .running)
    (hqueue : act.connection.queue = frames.map .ok) (haccepts : accepts ref frames = some t)
    (hrounds : frames.length < rounds) :
    Harmless v t (loop timeout rounds act) ↔ Clear ref v frames := by
  constructor
  · intro hharmless passed frame rest hsplit hv u hu hne
    by_contra hnone
    have hends : ∀ ending ∈ passed, Protocol.endsVbucket ending ≠ some u := by
      intro ending hmem hend
      exact hnone ⟨ending, hmem, hend⟩
    obtain ⟨error, hfailed⟩ : ∃ error, (loop timeout rounds act).status = .failed error :=
      loop_fails hm hrun hqueue haccepts hsplit hv hu hne hends hrounds
    obtain hrunning | ⟨hreturned, -⟩ := hharmless.unfailed
    · rw [hfailed] at hrunning
      cases hrunning
    · rw [hfailed] at hreturned
      cases hreturned
  · intro hclear
    obtain ⟨hrunning, -, hmirrors⟩ | ⟨hreturned, hempty, hevents⟩ :=
      loop_clear hm hrun hqueue haccepts hclear hrounds
    · exact ⟨.inl hrunning, hmirrors.events⟩
    · exact ⟨.inr ⟨hreturned, hempty⟩, fun u hne => (hevents u hne).1⟩

theorem loop_running_iff (hm : Mirrors v ref act) (hrun : act.status = .running)
    (hqueue : act.connection.queue = frames.map .ok) (haccepts : accepts ref frames = some t)
    (hrounds : frames.length < rounds) :
    Harmless v t (loop timeout rounds act) ∧ (loop timeout rounds act).status = .running ↔
      (∀ frame ∈ frames, Protocol.eventVbucket frame ≠ some v) ∧
        ∃ u ∈ ref.partitions, u ≠ v ∧ ∀ frame ∈ frames, Protocol.endsVbucket frame ≠ some u := by
  constructor
  · rintro ⟨hharmless, hrunning⟩
    have hclear := (loop_harmless_iff hm hrun hqueue haccepts hrounds).1 hharmless
    obtain ⟨-, hactive, hmirrors⟩ | ⟨hreturned, -⟩ :=
      loop_clear hm hrun hqueue haccepts hclear hrounds
    · obtain ⟨u, hu⟩ := isEmpty_eq_false.1 hactive
      obtain ⟨hu, hne⟩ := hmirrors.mem.1 hu
      obtain ⟨hactive, hends⟩ := (accepts_active haccepts u).1 hu
      refine ⟨fun frame hframe hv => ?_, u, hactive, hne, hends⟩
      obtain ⟨passed, rest, hsplit⟩ := List.append_of_mem hframe
      obtain ⟨ending, hending, hend⟩ := hclear passed frame rest hsplit hv u hactive hne
      exact hends ending (by simp [hsplit, hending]) hend
    · rw [hrunning] at hreturned
      cases hreturned
  · rintro ⟨hsilent, u, hactive, hne, hends⟩
    have hclear : Clear ref v frames := by
      intro passed frame rest hsplit hv
      exact absurd hv (hsilent frame (by simp [hsplit]))
    refine ⟨(loop_harmless_iff hm hrun hqueue haccepts hrounds).2 hclear, ?_⟩
    obtain ⟨hrunning, -⟩ | ⟨-, -, hgone⟩ := loop_clear hm hrun hqueue haccepts hclear hrounds
    · exact hrunning
    · exact absurd ((accepts_active haccepts u).2 ⟨hactive, hends⟩) (hgone u hne).2

/-- Closing `v` is harmless exactly when no frame of `v` is handled after it while another stream
is active, and the worker then keeps running exactly when another stream is left. -/
theorem close_harmless_iff (timeout : Nat) (w t : Worker) (v : UInt16) (before after : List Frame)
    (rounds : Nat) (h : CloseExchange w v before after)
    (haccepts : accepts w (w.connection.pending ++ before ++ after) = some t)
    (hrounds : (w.connection.pending ++ before ++ after).length < rounds) :
    (Harmless v t (loop timeout rounds (w.handleCommand (.close v))) ↔
      Clear w v (w.connection.pending ++ before ++ after)) ∧
    (Harmless v t (loop timeout rounds (w.handleCommand (.close v))) ∧
        (loop timeout rounds (w.handleCommand (.close v))).status = .running ↔
      (∀ frame ∈ w.connection.pending ++ before, Protocol.eventVbucket frame ≠ some v) ∧
        ∃ u ∈ w.partitions, u ≠ v ∧ ∀ frame ∈ w.connection.pending ++ before ++ after,
          Protocol.endsVbucket frame ≠ some u) := by
  have hresponses := accepts_not_response haccepts
  obtain ⟨hm, hrun, hqueue⟩ := handleCommand_close h fun frame hframe =>
    hresponses frame (by simp [hframe])
  refine ⟨loop_harmless_iff hm hrun hqueue haccepts hrounds, ?_⟩
  rw [loop_running_iff hm hrun hqueue haccepts hrounds, List.forall_mem_append,
    and_iff_left h.silent]

def sampleMarker (vbucket : UInt16) : Frame :=
  { Frame.request Opcode.dcpSnapshotMarker with
    vbucket
    opaqueId := 5
    extras := [0, 0, 0, 0, 0, 0, 0, 0, 0, 0, 0, 0, 0, 0, 0, 9, 0, 0, 0, 1] }

def sampleAnswer : Frame :=
  { Frame.response Opcode.dcpCloseStream Status.success with opaqueId := 8 }

def sampleWorker (before after : List Frame) : Worker where
  connection :=
    { peer := "10.0.0.1:11210"
      requestTimeout := 1000
      nextOpaque := 8
      pending := []
      inbound := before.map .ok ++ .ok sampleAnswer :: after.map .ok
      sent := []
      fault := none }
  partitions := ((∅ : BTreeMap UInt16 PartitionProgress).insert 1 (.new 0 9 none 5)).insert 2
    (.new 0 9 none 5)
  credit := { threshold := 100, pending := 0 }
  streamEndOnClose := false
  output := []
  receiverOpen := true
  replies := []
  status := .running

theorem sampleWorker_exchange (before after : List Frame)
    (h : ∀ frame ∈ after, Protocol.eventVbucket frame ≠ some 1) :
    CloseExchange (sampleWorker before after) 1 before after where
  running := rfl
  endsOnClose := rfl
  writes := rfl
  listened := rfl
  active := by simp [sampleWorker]
  answered := ⟨sampleAnswer, rfl, rfl, rfl, rfl, rfl⟩
  silent := h

theorem close_harmless_iff_sample :
    ∃ t, accepts (sampleWorker [sampleMarker 2] []) [sampleMarker 2] = some t ∧
      Harmless 1 t (loop 30 2 ((sampleWorker [sampleMarker 2] []).handleCommand (.close 1))) := by
  have hsome : (accepts (sampleWorker [sampleMarker 2] []) [sampleMarker 2]).isSome = true := by
    decide
  obtain ⟨t, ht⟩ := Option.isSome_iff_exists.1 hsome
  have h := close_harmless_iff 30 (sampleWorker [sampleMarker 2] []) t 1 [sampleMarker 2] [] 2
    (sampleWorker_exchange _ _ (by decide)) ht (by decide)
  exact ⟨t, ht, (h.2.2 ⟨by decide, 2, by decide, by decide, by decide⟩).1⟩

/-- A marker of the closed stream that waits behind the answer fails the worker of both streams. -/
theorem close_fails :
    CloseExchange (sampleWorker [sampleMarker 1] [sampleMarker 2]) 1 [sampleMarker 1]
      [sampleMarker 2] ∧
    (accepts (sampleWorker [sampleMarker 1] [sampleMarker 2])
      [sampleMarker 1, sampleMarker 2]).isSome = true ∧
    (loop 30 3 ((sampleWorker [sampleMarker 1] [sampleMarker 2]).handleCommand (.close 1))).status =
      .failed (.stream 1 "received an event for a stream that is not active") ∧
    eventsOf 2 (loop 30 3
      ((sampleWorker [sampleMarker 1] [sampleMarker 2]).handleCommand (.close 1))).output = [] :=
  ⟨sampleWorker_exchange _ _ (by decide), by decide, by decide, by decide⟩

end Worker

end RustDcp
