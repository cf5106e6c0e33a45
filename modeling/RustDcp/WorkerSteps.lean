import RustDcp.Worker

namespace RustDcp
set_option autoImplicit true

def eventsOf (u : UInt16) (output : List (Result DcpStreamItem)) : List DcpEvent :=
  output.filterMap fun
    | .ok (.event event) => if event.vbucket = u then some event else none
    | _ => none

@[simp] theorem eventsOf_append (u : UInt16) (output more : List (Result DcpStreamItem)) :
    eventsOf u (output ++ more) = eventsOf u output ++ eventsOf u more :=
  List.filterMap_append

theorem eventsOf_control (u : UInt16) {items : List DcpStreamItem}
    (h : ∀ item ∈ items, ∀ event : DcpEvent, item ≠ .event event) :
    eventsOf u (items.map .ok) = [] := by
  rw [eventsOf, List.filterMap_eq_nil_iff]
  intro item hitem
  obtain ⟨inner, hinner, rfl⟩ := List.mem_map.1 hitem
  cases inner with
  | event event => exact absurd rfl (h _ hinner event)
  | topologyConfig source payload => rfl
  | unknown frame => rfl

theorem eventsOf_other {event : DcpEvent} (h : event.vbucket ≠ u) :
    eventsOf u [.ok (.event event)] = [] := by
  simp [eventsOf, h]

theorem Outcome.andThen_frame {R : σ → Prop} {before : Outcome σ} (hbefore : R before.2)
    (hnext : ∀ s, R s → R (next s).2) : R (before.andThen next).2 := by
  obtain ⟨result, s⟩ := before
  cases result with
  | error error => exact hbefore
  | ok u => exact hnext s hbefore

/-- The frames that the connection hands out next: the parked ones, then what the peer sent. -/
def KvConnection.queue (self : KvConnection) : List (Result Frame) :=
  self.pending.map .ok ++ self.inbound

theorem KvConnection.receiveFrame_eq_none {self : KvConnection} :
    self.receiveFrame = none ↔ self.queue = [] := by
  rw [receiveFrame, queue]
  cases self.pending with
  | cons frame pending => simp
  | nil => cases self.inbound <;> simp

theorem KvConnection.receiveFrame_cons {self : KvConnection}
    (h : self.queue = received :: rest) :
    ∃ connection, self.receiveFrame = some (received, connection) ∧ connection.queue = rest ∧
      connection.fault = self.fault ∧ connection.peer = self.peer := by
  rw [queue] at h
  cases hp : self.pending with
  | cons frame pending =>
    rw [hp, List.map_cons, List.cons_append, List.cons.injEq] at h
    refine ⟨{ self with pending }, ?_, h.2, rfl, rfl⟩
    simp only [receiveFrame, hp, ← h.1]
  | nil =>
    rw [hp, List.map_nil, List.nil_append] at h
    refine ⟨{ self with pending := [], inbound := rest }, ?_, rfl, rfl, rfl⟩
    simp only [receiveFrame, hp, h]

theorem KvConnection.sendFrame_queue (self : KvConnection) (frame : Frame) :
    (self.sendFrame frame).2.queue = self.queue ∧ (self.sendFrame frame).2.peer = self.peer := by
  rw [sendFrame]
  split <;> exact ⟨rfl, rfl⟩

theorem FlowCredit.flushLoop_queue (fuel : Nat) (credit : FlowCredit) (connection : KvConnection) :
    (flushLoop fuel credit connection).2.2.queue = connection.queue ∧
      (flushLoop fuel credit connection).2.2.peer = connection.peer := by
  induction fuel generalizing credit connection with
  | zero => exact ⟨rfl, rfl⟩
  | succ fuel ih =>
    simp only [flushLoop]
    split
    · exact ⟨rfl, rfl⟩
    · have hsend := connection.sendFrame_queue
        (bufferAck (UInt32.ofNat (min credit.pending u32Max)) 0)
      generalize connection.sendFrame _ = outcome at hsend
      obtain ⟨result, connection'⟩ := outcome
      cases result with
      | error error => exact hsend
      | ok u =>
        have hrest := ih
          { credit with pending := credit.pending - min credit.pending u32Max } connection'
        exact ⟨hrest.1.trans hsend.1, hrest.2.trans hsend.2⟩

theorem FlowCredit.record_queue (credit : FlowCredit) (connection : KvConnection) (bytes : Nat) :
    (credit.record connection bytes).2.2.queue = connection.queue ∧
      (credit.record connection bytes).2.2.peer = connection.peer := by
  simp only [record]
  split
  · exact ⟨rfl, rfl⟩
  · split
    · exact ⟨rfl, rfl⟩
    · split
      · exact flushLoop_queue _ _ _
      · exact ⟨rfl, rfl⟩

namespace Worker

structure Kept (w t : Worker) : Prop where
  queue : t.connection.queue = w.connection.queue
  peer : t.connection.peer = w.connection.peer
  streamEndOnClose : t.streamEndOnClose = w.streamEndOnClose
  receiverOpen : t.receiverOpen = w.receiverOpen
  replies : t.replies = w.replies
  status : t.status = w.status

theorem Kept.refl (w : Worker) : Kept w w := ⟨rfl, rfl, rfl, rfl, rfl, rfl⟩

theorem Kept.trans (h : Kept w t) (h' : Kept t u) : Kept w u :=
  ⟨h'.queue.trans h.queue, h'.peer.trans h.peer, h'.streamEndOnClose.trans h.streamEndOnClose,
    h'.receiverOpen.trans h.receiverOpen, h'.replies.trans h.replies, h'.status.trans h.status⟩

theorem Kept.of_partitions (h : Kept { w with partitions := map } t) : Kept w t :=
  ⟨h.queue, h.peer, h.streamEndOnClose, h.receiverOpen, h.replies, h.status⟩

theorem sendFrame_kept (w : Worker) (frame : Frame) : Kept w (w.sendFrame frame).2 :=
  have h := w.connection.sendFrame_queue frame
  ⟨h.1, h.2, rfl, rfl, rfl, rfl⟩

theorem emit_kept (w : Worker) (item : DcpStreamItem) : Kept w (w.emit item).2 := by
  rw [emit]
  split <;> exact ⟨rfl, rfl, rfl, rfl, rfl, rfl⟩

theorem recordCredit_kept (w : Worker) (bytes : Nat) : Kept w (w.recordCredit bytes).2 :=
  have h := w.credit.record_queue w.connection bytes
  ⟨h.1, h.2, rfl, rfl, rfl, rfl⟩

theorem andThen_kept {before : Outcome Worker} (hbefore : Kept w before.2)
    (hnext : ∀ s, Kept s (next s).2) : Kept w (before.andThen next).2 :=
  Outcome.andThen_frame hbefore fun s hs => hs.trans (hnext s)

theorem deliver_kept (w : Worker) (frame : Frame) (vbucket : UInt16)
    (message : Protocol.DcpMessage) : Kept w (w.deliver frame vbucket message).2 := by
  rw [deliver]
  refine andThen_kept ?_ fun s => ?_
  · split
    · exact sendFrame_kept _ _
    · exact .refl _
  · split
    · exact .refl _
    · refine andThen_kept (emit_kept _ _) fun s => andThen_kept (recordCredit_kept _ _) fun s => ?_
      dsimp only
      split <;> exact ⟨rfl, rfl, rfl, rfl, rfl, rfl⟩

theorem handleEvent_kept (w : Worker) (frame : Frame) (message : Protocol.DcpMessage) :
    Kept w (w.handleEvent frame message).2 := by
  rw [handleEvent]
  split
  case h_1 => exact .refl _
  case h_2 vbucket hv =>
    split
    case h_1 => exact .refl _
    case h_2 progress hp =>
      split
      · exact .refl _
      split
      · exact .refl _
      split
      case h_1 => exact .refl _
      case h_2 progress' ho => exact (deliver_kept _ frame vbucket message).of_partitions

theorem handleFrame_kept (w : Worker) (frame : Frame) : Kept w (w.handleFrame frame).2 := by
  rw [handleFrame]
  split
  · exact .refl _
  split
  · exact emit_kept _ _
  split
  · exact .refl _
  · exact sendFrame_kept _ _
  · refine andThen_kept (emit_kept _ _) fun s => ?_
    split
    · exact recordCredit_kept _ _
    · exact .refl _
  · exact handleEvent_kept _ _ _

end Worker

namespace Protocol

def eventOf (frame : Frame) : Option DcpMessage :=
  if frame.magic.isResponse ∨ frame.opcode = Opcode.getClusterConfig then none
  else match parsed frame with
    | .error _ | .ok (.noop _) | .ok (.unknown _) => none
    | .ok message => some message

def eventVbucket (frame : Frame) : Option UInt16 := (eventOf frame).bind messageVbucket

theorem parsed_of_eventOf (h : eventOf frame = some message) :
    (¬frame.magic.isResponse = true ∧ frame.opcode ≠ Opcode.getClusterConfig) ∧
      parsed frame = .ok message ∧ (∀ opaqueId, message ≠ .noop opaqueId) ∧
      ∀ unknown, message ≠ .unknown unknown := by
  rw [eventOf] at h
  split at h
  case isTrue => cases h
  case isFalse hkind =>
    split at h
    case h_1 => cases h
    case h_2 => cases h
    case h_3 => cases h
    case h_4 hnoop hunknown hparse =>
      cases h
      exact ⟨not_or.1 hkind, hparse, hnoop, hunknown⟩

end Protocol

namespace Worker

theorem handleFrame_of_event (w : Worker) (h : Protocol.eventOf frame = some message) :
    w.handleFrame frame = w.handleEvent frame message := by
  obtain ⟨hkind, hparse, hnoop, hunknown⟩ := Protocol.parsed_of_eventOf h
  rw [handleFrame, if_neg hkind.1, if_neg hkind.2, hparse]
  split
  case h_1 heq => cases heq
  case h_2 opaqueId heq => exact absurd (Except.ok.inj heq) (hnoop opaqueId)
  case h_3 unknown heq => exact absurd (Except.ok.inj heq) (hunknown unknown)
  case h_4 heq =>
    cases heq
    rfl

theorem emit_cases (w : Worker) (item : DcpStreamItem) :
    w.emit item = (.error .cancelled, w) ∨
      w.emit item = (.ok (), { w with output := w.output ++ [.ok item] }) := by
  rw [emit]
  split
  · exact .inr rfl
  · exact .inl rfl

/-- A worker that delivers an observed message emits its event unless the acknowledgement of a
marker or the output fails first. -/
theorem deliver_cases (w : Worker) (frame : Frame) (vbucket : UInt16)
    (hconv : Protocol.convertEvent message = .ok event) :
    (∃ error t, w.deliver frame vbucket message = (.error error, t) ∧ t.output = w.output) ∨
    (∃ error t, w.deliver frame vbucket message = (.error error, t) ∧
      t.output = w.output ++ [.ok (.event event)]) ∨
    ∃ t, w.deliver frame vbucket message = (.ok (), t) ∧
      t.output = w.output ++ [.ok (.event event)] ∧
      t.partitions = if isStreamEnd message then w.partitions.erase vbucket else w.partitions := by
  simp only [deliver]
  have hack : ∃ result s, (if requestsAck message then
      w.sendFrame (snapshotMarkerResponse frame.opaqueId) else (.ok (), w)) = (result, s) ∧
      s.output = w.output ∧ s.partitions = w.partitions := by
    split
    · exact ⟨_, _, rfl, rfl, rfl⟩
    · exact ⟨_, _, rfl, rfl, rfl⟩
  obtain ⟨result, s, hack, hout, hparts⟩ := hack
  rw [hack]
  cases result with
  | error error => exact .inl ⟨error, s, rfl, hout⟩
  | ok u =>
    simp only [Outcome.andThen, hconv]
    cases s.emit_cases (.event event) with
    | inl hemit =>
      rw [hemit]
      exact .inl ⟨_, s, rfl, hout⟩
    | inr hemit =>
      rw [hemit]
      have hcredit : ∃ result t, ({ s with output := s.output ++ [.ok (.event event)] } :
          Worker).recordCredit frame.wireSize = (result, t) ∧
          t.output = s.output ++ [.ok (.event event)] ∧ t.partitions = s.partitions :=
        ⟨_, _, rfl, rfl, rfl⟩
      obtain ⟨result, t, hcredit, hout', hparts'⟩ := hcredit
      rw [hout] at hout'
      rw [hparts] at hparts'
      simp only [hcredit]
      cases result with
      | error error => exact .inr (.inl ⟨error, t, rfl, hout'⟩)
      | ok u =>
        refine .inr (.inr ⟨_, rfl, ?_, ?_⟩)
        · split <;> exact hout'
        · split
          · rw [hparts']
          · exact hparts'

/-- An event of an active partition, in the order and on the stream that the partition expects. -/
structure Accepted (w : Worker) (frame : Frame) (message : Protocol.DcpMessage) (v : UInt16)
    (progress progress' : PartitionProgress) (event : DcpEvent) : Prop where
  carried : Protocol.eventOf frame = some message
  vbucket : Protocol.messageVbucket message = some v
  active : w.partitions[v]? = some progress
  opaqueId : frame.opaqueId = progress.opaqueId
  streamId : Protocol.messageStreamId message = progress.streamId
  observed : Protocol.observe progress message = .ok progress'
  converted : Protocol.convertEvent message = .ok event

inductive FrameEffect (w : Worker) (frame : Frame) : Outcome Worker → Prop where
  | refused (hout : t.output = w.output) : FrameEffect w frame (.error error, t)
  | control (items : List DcpStreamItem) (hnone : Protocol.eventOf frame = none)
      (hparts : t.partitions = w.partitions)
      (hout : t.output = w.output ++ items.map .ok)
      (hitems : ∀ item ∈ items, ∀ event : DcpEvent, item ≠ .event event) :
      FrameEffect w frame (result, t)
  | cut (h : Accepted w frame message v progress progress' event)
      (hout : t.output = w.output ++ [.ok (.event event)]) : FrameEffect w frame (.error error, t)
  | event (h : Accepted w frame message v progress progress' event)
      (hout : t.output = w.output ++ [.ok (.event event)])
      (hparts : t.partitions = if isStreamEnd message then
        (w.partitions.insert v progress').erase v else w.partitions.insert v progress') :
      FrameEffect w frame (.ok (), t)

theorem handleEvent_effect (w : Worker) (hcarried : Protocol.eventOf frame = some message) :
    FrameEffect w frame (w.handleEvent frame message) := by
  rw [handleEvent]
  split
  case h_1 => exact .refused rfl
  case h_2 v hv =>
    split
    case h_1 => exact .refused rfl
    case h_2 progress hp =>
      split
      case isTrue => exact .refused rfl
      case isFalse hopaqueId =>
        split
        case isTrue => exact .refused rfl
        case isFalse hstream =>
          split
          case h_1 => exact .refused rfl
          case h_2 progress' hobserved =>
            obtain ⟨event, hconv, -, -⟩ := Protocol.convertEvent_of_vbucket hv
            have haccepted : Accepted w frame message v progress progress' event :=
              ⟨hcarried, hv, hp, not_not.1 hopaqueId, not_not.1 hstream, hobserved, hconv⟩
            obtain ⟨error, t, h, hout⟩ | ⟨error, t, h, hout⟩ | ⟨t, h, hout, hparts⟩ :=
              deliver_cases { w with partitions := w.partitions.insert v progress' } frame v hconv
            · rw [h]
              exact .refused hout
            · rw [h]
              exact .cut haccepted hout
            · rw [h]
              exact .event haccepted hout hparts

theorem eventOf_eq_none (frame : Frame)
    (hcontrol : (∃ opaqueId, Protocol.parsed frame = .ok (.noop opaqueId)) ∨
      ∃ unknown, Protocol.parsed frame = .ok (.unknown unknown)) :
    Protocol.eventOf frame = none := by
  rw [Protocol.eventOf]
  split
  · rfl
  · obtain ⟨opaqueId, h⟩ | ⟨unknown, h⟩ := hcontrol <;> rw [h]

theorem eventOf_eq_some (hmagic : ¬frame.magic.isResponse = true)
    (hopcode : frame.opcode ≠ Opcode.getClusterConfig)
    (hparse : Protocol.parsed frame = .ok message) (hnoop : ∀ opaqueId, message ≠ .noop opaqueId)
    (hunknown : ∀ unknown, message ≠ .unknown unknown) :
    Protocol.eventOf frame = some message := by
  rw [Protocol.eventOf, if_neg (not_or.2 ⟨hmagic, hopcode⟩), hparse]
  split
  case h_1 heq => cases heq
  case h_2 opaqueId heq => exact absurd (Except.ok.inj heq) (hnoop opaqueId)
  case h_3 unknown heq => exact absurd (Except.ok.inj heq) (hunknown unknown)
  case h_4 heq =>
    cases heq
    rfl

theorem handleFrame_effect (w : Worker) (frame : Frame) :
    FrameEffect w frame (w.handleFrame frame) := by
  rw [handleFrame]
  split
  case isTrue => exact .refused rfl
  case isFalse hmagic =>
    split
    case isTrue hopcode =>
      have hnone : Protocol.eventOf frame = none := by
        rw [Protocol.eventOf, if_pos (.inr hopcode)]
      cases w.emit_cases (.topologyConfig w.connection.peer frame.value) with
      | inl h =>
        rw [h]
        exact .refused rfl
      | inr h =>
        rw [h]
        exact .control [_] hnone rfl rfl (by simp)
    case isFalse hopcode =>
      split
      case h_1 => exact .refused rfl
      case h_2 opaqueId hparse =>
        exact .control [] (eventOf_eq_none frame (.inl ⟨opaqueId, hparse⟩)) rfl
          (List.append_nil _).symm (by simp)
      case h_3 unknown hparse =>
        have hnone := eventOf_eq_none frame (.inr ⟨unknown, hparse⟩)
        cases w.emit_cases (.unknown unknown) with
        | inl h =>
          rw [h]
          exact .refused rfl
        | inr h =>
          rw [h]
          simp only [Outcome.andThen]
          split
          · exact .control [_] hnone rfl rfl (by simp)
          · exact .control [_] hnone rfl rfl (by simp)
      case h_4 message hnoop hunknown hparse =>
        exact handleEvent_effect w (eventOf_eq_some hmagic hopcode hparse hnoop hunknown)

inductive Partial (w : Worker) (frame : Frame) : List (Result DcpStreamItem) → Prop where
  | control (items : List DcpStreamItem)
      (hitems : ∀ item ∈ items, ∀ event : DcpEvent, item ≠ .event event) :
      Partial w frame (items.map .ok)
  | event (h : Accepted w frame message v progress progress' event) :
      Partial w frame [.ok (.event event)]

inductive StepEffect (w t : Worker) : WorkerAction → Prop where
  | quiet (items : List DcpStreamItem)
      (hitems : ∀ item ∈ items, ∀ event : DcpEvent, item ≠ .event event)
      (hout : t.output = w.output ++ items.map .ok) (hparts : t.partitions = w.partitions)
      (hstatus : t.status = .running) : StepEffect w t action
  | event (hreceive : w.connection.receiveFrame = some (.ok frame, rest))
      (h : Accepted w frame message v progress progress' event)
      (hout : t.output = w.output ++ [.ok (.event event)])
      (hparts : t.partitions = if isStreamEnd message then
        (w.partitions.insert v progress').erase v else w.partitions.insert v progress')
      (hstatus : t.status = .running) : StepEffect w t .receive
  | closed (hv : w.partitions[v]? = some progress)
      (hout : t.output = w.output ++
        [.ok (.event (.streamEnd { vbucket := v, reason := .closed }))])
      (hparts : t.partitions = w.partitions.erase v) (hstatus : t.status = .running) :
      StepEffect w t (.command (.close v))
  | cut (hreceive : w.connection.receiveFrame = some (.ok frame, rest))
      (sent : List (Result DcpStreamItem)) (hsent : Partial w frame sent)
      (hout : t.output = w.output ++ sent ++ if w.receiverOpen then [.error error] else [])
      (hstatus : t.status = .failed error) : StepEffect w t .receive
  | failed (haction : ∀ command, action ≠ .command command)
      (hout : t.output = w.output ++ if w.receiverOpen then [.error error] else [])
      (hstatus : t.status = .failed error) : StepEffect w t action
  | finished (hempty : w.partitions = ∅) (hout : t.output = w.output)
      (hstatus : t.status = .returned) : StepEffect w t .finish
  | stopped (haction : action = .commandsClosed ∨ ∃ command, action = .command command)
      (hout : t.output = w.output) (hstatus : t.status = .returned) : StepEffect w t action

theorem fail_output (w : Worker) (error : DcpError) :
    (w.fail error).output = w.output ++ if w.receiverOpen then [.error error] else [] := by
  rw [fail]
  split <;> simp

theorem receive_effect {w : Worker} (hstatus : w.status = .running) (h : w.receive = some t) :
    StepEffect w t .receive := by
  rw [receive] at h
  cases hreceive : w.connection.receiveFrame with
  | none =>
    rw [hreceive] at h
    cases h
  | some received =>
    obtain ⟨result, connection⟩ := received
    cases result with
    | error error =>
      rw [hreceive] at h
      cases h
      exact .failed (by simp) (fail_output _ error) rfl
    | ok frame =>
      rw [hreceive] at h
      have hkept := handleFrame_kept { w with connection } frame
      have heffect := handleFrame_effect { w with connection } frame
      simp only at h
      revert hkept heffect h
      cases handleFrame { w with connection } frame with
      | mk result after =>
        intro h hkept heffect
        cases heffect with
        | refused hout =>
          cases h
          exact .cut hreceive [] (.control [] (by simp))
            (by rw [fail_output, hout, hkept.receiverOpen, List.append_nil]) rfl
        | control items hnone hparts hout hitems =>
          cases result with
          | error error =>
            cases h
            exact .cut hreceive _ (.control items hitems)
              (by rw [fail_output, hout, hkept.receiverOpen]) rfl
          | ok u =>
            cases h
            exact .quiet items hitems hout hparts (hkept.status.trans hstatus)
        | cut haccepted hout =>
          cases h
          exact .cut hreceive _ (.event ⟨haccepted.1, haccepted.2, haccepted.3, haccepted.4,
            haccepted.5, haccepted.6, haccepted.7⟩)
            (by rw [fail_output, hout, hkept.receiverOpen]) rfl
        | event haccepted hout hparts =>
          cases h
          exact .event hreceive ⟨haccepted.1, haccepted.2, haccepted.3, haccepted.4, haccepted.5,
            haccepted.6, haccepted.7⟩ hout hparts (hkept.status.trans hstatus)

theorem handleCommand_effect {w : Worker} (hstatus : w.status = .running)
    (command : RuntimeCommand) : StepEffect w (w.handleCommand command) (.command command) := by
  cases command with
  | shutdown => exact .stopped (.inr ⟨_, rfl⟩) rfl rfl
  | close v =>
    simp only [handleCommand]
    cases hv : w.partitions[v]? with
    | none => exact .quiet [] (by simp) (by simp [reply]) rfl hstatus
    | some progress =>
      simp only
      cases hclose : w.requestClose v progress.streamId with
      | mk result after =>
        have hafter : after.output = w.output ∧ after.partitions = w.partitions ∧
            after.status = w.status := by
          rw [requestClose] at hclose
          split at hclose
          · cases hclose
            exact ⟨rfl, rfl, rfl⟩
          · cases hclose
            exact ⟨rfl, rfl, rfl⟩
        obtain ⟨hout, hparts, hkept⟩ := hafter
        cases result with
        | error error =>
          exact .quiet [] (by simp) (by simp [reply, hout]) hparts (hkept.trans hstatus)
        | ok u =>
          simp only
          split
          · exact .quiet [] (by simp) (by simp [reply, hout]) hparts (hkept.trans hstatus)
          · split
            case h_1 heq =>
              rw [emit] at heq
              split at heq
              · cases heq
              · cases heq
                exact .stopped (.inr ⟨_, rfl⟩) hout rfl
            case h_2 heq =>
              rw [emit] at heq
              split at heq
              · cases heq
                exact .closed hv (by rw [← hout]; rfl) (by rw [← hparts]; rfl) (hkept.trans hstatus)
              · cases heq

theorem step_running {w : Worker} (h : w.step timeout action = some t) : w.status = .running := by
  rw [step.eq_def] at h
  split at h
  · cases h
  · rename_i hstatus
    exact not_not.1 hstatus

theorem step_effect {w : Worker} (h : w.step timeout action = some t) : StepEffect w t action := by
  have hstatus := step_running h
  rw [step.eq_def, if_neg (not_not.2 hstatus)] at h
  cases action with
  | arrive received =>
    cases h
    exact .quiet [] (by simp) (List.append_nil _).symm rfl hstatus
  | fault after error =>
    cases h
    exact .quiet [] (by simp) (List.append_nil _).symm rfl hstatus
  | hangUp =>
    cases h
    exact .quiet [] (by simp) (List.append_nil _).symm rfl hstatus
  | command command =>
    simp only at h
    split at h
    · cases h
    · cases h
      exact handleCommand_effect hstatus command
  | commandsClosed =>
    simp only at h
    split at h
    · cases h
    · cases h
      exact .stopped (.inl rfl) rfl rfl
  | receive =>
    simp only at h
    split at h
    · cases h
    · exact receive_effect hstatus h
  | silence =>
    simp only at h
    split at h
    · cases h
    · split at h
      · cases h
      · cases h
        exact .failed (by simp) (fail_output _ _) rfl
  | finish =>
    simp only at h
    split at h
    · rename_i hempty
      cases h
      rw [finish]
      split
      case h_1 error after hflush =>
        have hafter : after = w.flushCredit.2 := by rw [hflush]
        rw [hafter]
        exact .failed (by simp) (fail_output _ _) rfl
      case h_2 after hflush =>
        have hafter : after = w.flushCredit.2 := by rw [hflush]
        rw [hafter]
        exact .finished (Std.ExtTreeMap.isEmpty_iff.1 hempty) rfl rfl
    · cases h

end Worker

end RustDcp
