import RustDcp.CodecReencode
import RustDcp.StreamOrder

namespace RustDcp
set_option autoImplicit true

/-- With fuel for every halving of the range the search ends at its least number that is not below
the target. -/
theorem FlowCredit.search_spec (belowTarget : Nat → Bool) (fuel low high : Nat)
    (hmono : ∀ m n, m ≤ n → belowTarget n = true → belowTarget m = true) (hle : low ≤ high)
    (hhigh : belowTarget high = false) (hlow : ∀ n, 1 ≤ n → n < low → belowTarget n = true)
    (hfuel : high - low < 2 ^ fuel) :
    low ≤ search belowTarget fuel low high ∧ search belowTarget fuel low high ≤ high ∧
      belowTarget (search belowTarget fuel low high) = false ∧
      ∀ n, 1 ≤ n → n < search belowTarget fuel low high → belowTarget n = true := by
  induction fuel generalizing low high with
  | zero =>
    obtain rfl : low = high := by omega
    exact ⟨Nat.le_refl _, Nat.le_refl _, hhigh, hlow⟩
  | succ fuel ih =>
    rw [search]
    split
    · rename_i hlt
      have hpow : 2 ^ (fuel + 1) = 2 * 2 ^ fuel := Nat.pow_succ'
      dsimp only
      split
      · rename_i hmiddle
        have hbelow : ∀ n, 1 ≤ n → n < low + (high - low) / 2 + 1 → belowTarget n = true :=
          fun n _ hn => hmono n _ (Nat.le_of_lt_succ hn) hmiddle
        obtain ⟨hfrom, hto, hfound, hleast⟩ := ih _ _ (by omega) hhigh hbelow (by omega)
        exact ⟨by omega, hto, hfound, hleast⟩
      · rename_i hmiddle
        obtain ⟨hfrom, hto, hfound, hleast⟩ :=
          ih _ _ (by omega) (Bool.eq_false_iff.2 hmiddle) hlow (by omega)
        exact ⟨hfrom, by omega, hfound, hleast⟩
    · obtain rfl : low = high := by omega
      exact ⟨Nat.le_refl _, Nat.le_refl _, hhigh, hlow⟩

/-- The bytes that the frame acknowledges, if it is a `BufferAck`. -/
def Frame.acknowledged (frame : Frame) : Option Nat :=
  if frame.opcode = Opcode.dcpBufferAck then some (Protocol.bigEndian frame.extras) else none

def KvConnection.acks (self : KvConnection) : List Nat := self.sent.filterMap Frame.acknowledged

theorem acknowledged_bufferAck (hn : n ≤ u32Max) :
    (bufferAck (UInt32.ofNat n) 0).acknowledged = some n := by
  have hbytes : Protocol.bigEndian (putU32 (UInt32.ofNat n)) = n := by
    have hfits : (UInt32.ofNat n).toNat = n := Nat.mod_eq_of_lt (Nat.lt_succ_of_le hn)
    rw [putU32, hfits]
    exact bigEndian_putUint 4 (Nat.lt_succ_of_le hn)
  exact (if_pos rfl).trans (congrArg some hbytes)

/-- The effect of an operation on the credit and the connection: the acknowledged and the pending
bytes grow together by the charge. -/
structure Charged (credit : FlowCredit) (connection : KvConnection) (bytes : Nat)
    (credit' : FlowCredit) (connection' : KvConnection) : Prop where
  threshold : credit'.threshold = credit.threshold
  balance : ∃ amounts, connection'.acks = connection.acks ++ amounts ∧
    amounts.sum + credit'.pending = credit.pending + bytes ∧
    ∀ amount ∈ amounts, 1 ≤ amount ∧ amount ≤ u32Max
  below : 0 < credit.threshold → credit.pending < credit.threshold →
    credit'.pending < credit.threshold

theorem Charged.trans (h : Charged credit connection bytes credit' connection')
    (h' : Charged credit' connection' bytes' credit'' connection'') :
    Charged credit connection (bytes + bytes') credit'' connection'' := by
  obtain ⟨amounts, hacks, hsum, hrange⟩ := h.balance
  obtain ⟨amounts', hacks', hsum', hrange'⟩ := h'.balance
  refine ⟨h'.threshold.trans h.threshold, ⟨amounts ++ amounts', ?_, ?_, ?_⟩, ?_⟩
  · rw [hacks', hacks, List.append_assoc]
  · rw [List.sum_append]
    omega
  · intro amount hmem
    rcases List.mem_append.1 hmem with hmem | hmem
    · exact hrange amount hmem
    · exact hrange' amount hmem
  · intro hpos hbelow
    have hmiddle := h.below hpos hbelow
    rw [← h.threshold] at hpos hmiddle ⊢
    exact h'.below hpos hmiddle

theorem Charged.of_sent (hcredit : credit' = credit)
    (hsent : connection'.acks = connection.acks) :
    Charged credit connection 0 credit' connection' := by
  subst hcredit
  exact ⟨rfl, ⟨[], by rw [hsent, List.append_nil], by simp, by simp⟩, fun _ hbelow => hbelow⟩

theorem FlowCredit.flushLoop_eq_ok
    (h : flushLoop fuel credit connection = (.ok (), credit', connection'))
    (hfuel : credit.pending ≤ fuel * u32Max) :
    credit'.pending = 0 ∧ credit'.threshold = credit.threshold ∧
      ∃ amounts, connection'.acks = connection.acks ++ amounts ∧ amounts.sum = credit.pending ∧
        ∀ amount ∈ amounts, 1 ≤ amount ∧ amount ≤ u32Max := by
  induction fuel generalizing credit connection with
  | zero =>
    have hzero : credit.pending = 0 := by omega
    cases h
    exact ⟨hzero, rfl, [], by rw [List.append_nil], hzero.symm, by simp⟩
  | succ fuel ih =>
    rw [flushLoop] at h
    split at h
    · rename_i hzero
      cases h
      exact ⟨hzero, rfl, [], by rw [List.append_nil], hzero.symm, by simp⟩
    rename_i hpending
    dsimp only at h
    split at h
    · cases h
    rename_i next hsend
    have hamount : 1 ≤ min credit.pending u32Max ∧ min credit.pending u32Max ≤ u32Max := by
      simp only [u32Max]
      omega
    have hrest : credit.pending - min credit.pending u32Max ≤ fuel * u32Max := by
      rw [Nat.succ_mul] at hfuel
      by_cases hsmall : credit.pending ≤ u32Max
      · rw [Nat.min_eq_left hsmall, Nat.sub_self]
        exact Nat.zero_le _
      · rw [Nat.min_eq_right (Nat.le_of_not_le hsmall)]
        omega
    obtain ⟨hdone, hthreshold, amounts, hacks, hsum, hrange⟩ := ih h hrest
    refine ⟨hdone, hthreshold, min credit.pending u32Max :: amounts, ?_, ?_, ?_⟩
    · have hnext : next.acks = connection.acks ++ [min credit.pending u32Max] := by
        rw [KvConnection.acks, KvConnection.sendFrame_eq_ok hsend, List.filterMap_append,
          List.filterMap_cons, acknowledged_bufferAck hamount.2]
        rfl
      rw [hacks, hnext, List.append_assoc, List.singleton_append]
    · rw [List.sum_cons, hsum]
      dsimp only
      omega
    · rw [List.forall_mem_cons]
      exact ⟨hamount, hrange⟩

theorem FlowCredit.record_eq_ok
    (h : record credit connection bytes = (.ok (), credit', connection')) :
    Charged credit connection bytes credit' connection' := by
  rw [record] at h
  split at h
  · cases h
  split at h
  · cases h
  dsimp only at h
  split at h
  · have hfuel : credit.pending + bytes < ((credit.pending + bytes) / u32Max + 1) * u32Max :=
      Nat.lt_mul_of_div_lt (Nat.lt_succ_self _) (by decide)
    obtain ⟨hdone, hthreshold, amounts, hacks, hsum, hrange⟩ :=
      flushLoop_eq_ok h (Nat.le_of_lt hfuel)
    refine ⟨hthreshold, ⟨amounts, hacks, by rw [hsum, hdone, Nat.add_zero], hrange⟩, ?_⟩
    intro hpos _
    rw [hdone]
    exact hpos
  · rename_i hbelow
    cases h
    exact ⟨rfl, ⟨[], by rw [List.append_nil], by simp, by simp⟩, fun _ _ => Nat.lt_of_not_le hbelow⟩

theorem FlowCredit.record_ok (hfault : connection.fault = none)
    (hroom : credit.pending + bytes ≤ u64Max) :
    ∃ credit' connection', record credit connection bytes = (.ok (), credit', connection') := by
  have hflush : ∀ fuel (credit : FlowCredit) (connection : KvConnection), connection.fault = none →
      ∃ credit' connection', flushLoop fuel credit connection = (.ok (), credit', connection') := by
    intro fuel
    induction fuel with
    | zero => exact fun credit connection _ => ⟨credit, connection, rfl⟩
    | succ fuel ih =>
      intro credit connection hfault
      rw [flushLoop]
      split
      · exact ⟨credit, connection, rfl⟩
      · dsimp only
        rw [KvConnection.sendFrame_of_fault_none hfault]
        exact ih _ _ hfault
  rw [record, if_neg (by omega), if_neg (by omega)]
  dsimp only
  split
  · exact hflush _ _ _ hfault
  · exact ⟨_, connection, rfl⟩

namespace Protocol

def DcpMessage.IsEvent : DcpMessage → Prop
  | .noop _ | .unknown _ => False
  | _ => True

def eventOpcodes : List Opcode :=
  [Opcode.dcpMutation, Opcode.dcpDeletion, Opcode.dcpExpiration, Opcode.dcpSnapshotMarker,
    Opcode.dcpStreamEnd, Opcode.dcpSeqnoAdvanced, Opcode.dcpSystemEvent, Opcode.dcpOsoSnapshot]

theorem messageLayout_event (h : frame.opcode ∈ eventOpcodes) :
    (messageLayout frame).IsEvent := by
  simp only [eventOpcodes, List.mem_cons, List.not_mem_nil, or_false] at h
  rcases h with h | h | h | h | h | h | h | h <;>
    simp +decide only [messageLayout, h, DcpMessage.IsEvent, ↓reduceIte]

theorem parsed_kind (h : parsed frame = .ok message) :
    frame.opcode ∈ eventOpcodes ∧ message.IsEvent ∨
      frame.opcode = Opcode.dcpNoop ∧ message = .noop frame.opaqueId ∨
      frame.opcode ∉ eventOpcodes ∧ frame.opcode ≠ Opcode.dcpNoop ∧ message = .unknown frame := by
  obtain ⟨-, rfl⟩ := parsed_eq_ok h
  by_cases hevent : frame.opcode ∈ eventOpcodes
  · exact .inl ⟨hevent, messageLayout_event hevent⟩
  by_cases hnoop : frame.opcode = Opcode.dcpNoop
  · exact .inr (.inl ⟨hnoop, by simp +decide only [messageLayout, hnoop, ↓reduceIte]⟩)
  · refine .inr (.inr ⟨hevent, hnoop, ?_⟩)
    simp only [eventOpcodes, List.mem_cons, List.not_mem_nil, or_false, not_or] at hevent
    simp only [messageLayout, hevent, hnoop, ↓reduceIte]

end Protocol

/-- Known events and unknown opcodes of the DCP range are charged, NOOPs and all else are not. -/
def Opcode.isFlowControlled (opcode : Opcode) : Bool :=
  opcode ∈ Protocol.eventOpcodes ||
    (opcode ≠ Opcode.dcpNoop && 0x50 ≤ opcode && opcode ≤ 0x65)

def Frame.charge (frame : Frame) : Nat :=
  if frame.opcode.isFlowControlled then frame.wireSize else 0

namespace Worker

def ChargedTo (w : Worker) (bytes : Nat) (t : Worker) : Prop :=
  Charged w.credit w.connection bytes t.credit t.connection

theorem andThen_eq_ok {before : Outcome σ} {next : σ → Outcome σ} :
    before.andThen next = (.ok (), u) ↔ ∃ t, before = (.ok (), t) ∧ next t = (.ok (), u) := by
  rcases before with ⟨(error | ⟨⟩), t⟩
  · constructor
    · rintro ⟨⟩
    · rintro ⟨_, ⟨⟩, _⟩
  · constructor
    · intro h
      exact ⟨t, rfl, h⟩
    · rintro ⟨_, ⟨⟩, h⟩
      exact h

theorem sendFrame_charged {w : Worker} (h : w.sendFrame frame = (.ok (), t))
    (hframe : frame.acknowledged = none) : w.ChargedTo 0 t := by
  rw [sendFrame] at h
  cases hsend : w.connection.sendFrame frame with
  | mk result connection =>
    rw [hsend] at h
    cases h
    refine .of_sent rfl ?_
    rw [KvConnection.acks, KvConnection.sendFrame_eq_ok hsend, List.filterMap_append,
      List.filterMap_cons, hframe, List.filterMap_nil, List.append_nil]
    rfl

theorem emit_charged {w : Worker} (h : w.emit item = (.ok (), t)) : w.ChargedTo 0 t := by
  rcases w.emit_cases item with hemit | hemit
  · rw [hemit] at h
    cases h
  · rw [hemit] at h
    cases h
    exact .of_sent rfl rfl

theorem recordCredit_charged {w : Worker} (h : w.recordCredit bytes = (.ok (), t)) :
    w.ChargedTo bytes t := by
  rw [recordCredit] at h
  cases hrecord : w.credit.record w.connection bytes with
  | mk result rest =>
    rw [hrecord] at h
    cases h
    exact FlowCredit.record_eq_ok hrecord

theorem deliver_charged {w : Worker} (h : w.deliver frame vbucket message = (.ok (), t)) :
    w.ChargedTo frame.wireSize t := by
  rw [deliver] at h
  obtain ⟨marked, hmarked, h⟩ := andThen_eq_ok.1 h
  have hfirst : w.ChargedTo 0 marked := by
    split at hmarked
    · exact sendFrame_charged hmarked rfl
    · cases hmarked
      exact .of_sent rfl rfl
  split at h
  · cases h
  obtain ⟨emitted, hemitted, h⟩ := andThen_eq_ok.1 h
  obtain ⟨charged, hcharged, h⟩ := andThen_eq_ok.1 h
  have hall := (hfirst.trans (emit_charged hemitted)).trans (recordCredit_charged hcharged)
  rw [Nat.zero_add] at hall
  cases h
  split <;> exact hall

theorem handleEvent_charged {w : Worker} (h : w.handleEvent frame message = (.ok (), t)) :
    w.ChargedTo frame.wireSize t := by
  rw [handleEvent] at h
  split at h
  · cases h
  split at h
  · cases h
  split at h
  · cases h
  split at h
  · cases h
  split at h
  · cases h
  · have hcharged := deliver_charged h
    exact hcharged

theorem handleFrame_charged {w : Worker} (h : w.handleFrame frame = (.ok (), t)) :
    w.ChargedTo frame.charge t := by
  rw [handleFrame] at h
  split at h
  · cases h
  split at h
  · rename_i hopcode
    have hcharge : frame.charge = 0 := by
      rw [Frame.charge, hopcode]
      rfl
    rw [hcharge]
    exact emit_charged h
  split at h
  · cases h
  · rename_i opaqueId hparsed
    rcases Protocol.parsed_kind hparsed with ⟨-, hevent⟩ | ⟨hopcode, -⟩ | ⟨-, -, hkind⟩
    · exact hevent.elim
    · have hcharge : frame.charge = 0 := by
        rw [Frame.charge, hopcode]
        rfl
      rw [hcharge]
      exact sendFrame_charged h rfl
    · cases hkind
  · rename_i unknown hparsed
    rcases Protocol.parsed_kind hparsed with ⟨-, hevent⟩ | ⟨-, hkind⟩ | ⟨hevent, hnoop, hkind⟩
    · exact hevent.elim
    · cases hkind
    · cases hkind
      have hcharge : frame.charge =
          if 0x50 ≤ frame.opcode && frame.opcode ≤ 0x65 then frame.wireSize else 0 := by
        simp [Frame.charge, Opcode.isFlowControlled, hevent, hnoop]
      obtain ⟨emitted, hemitted, h⟩ := andThen_eq_ok.1 h
      rw [hcharge]
      split at h
      · rename_i hrange
        have hall := (emit_charged hemitted).trans (recordCredit_charged h)
        rw [Nat.zero_add] at hall
        rw [if_pos hrange]
        exact hall
      · rename_i hrange
        cases h
        rw [if_neg hrange]
        exact emit_charged hemitted
  · rename_i message hnoop hunknown hparsed
    rcases Protocol.parsed_kind hparsed with ⟨hopcode, -⟩ | ⟨-, hkind⟩ | ⟨-, -, hkind⟩
    · have hcharge : frame.charge = frame.wireSize := by
        rw [Frame.charge, if_pos]
        simp [Opcode.isFlowControlled, hopcode]
      rw [hcharge]
      exact handleEvent_charged h
    · exact absurd hkind (hnoop _)
    · exact absurd hkind (hunknown _)

theorem sendFrame_acks (connection : KvConnection) (hframe : frame.acknowledged = none) :
    (connection.sendFrame frame).2.acks = connection.acks := by
  rw [KvConnection.sendFrame]
  split
  · simp [KvConnection.acks, hframe]
  · rfl
  · simp [KvConnection.acks, hframe]

theorem request_acks (connection : KvConnection) (frame : Frame)
    (hframe : frame.opcode ≠ Opcode.dcpBufferAck) :
    (connection.request frame).2.acks = connection.acks := by
  have hassigned : ∀ (start : KvConnection) (opaqueId : UInt32),
      start.acks = connection.acks →
      (start.sendFrame { frame with opaqueId }).2.acks = connection.acks := by
    intro start opaqueId hstart
    have hnone : ({ frame with opaqueId } : Frame).acknowledged = none := if_neg hframe
    exact (sendFrame_acks start hnone).trans hstart
  rw [KvConnection.request]
  split
  rename_i opaqueId start hstart
  have hacks : start.acks = connection.acks := by
    split at hstart
    · cases hstart
      rfl
    · cases hstart
      rfl
  have hsent := hassigned start opaqueId hacks
  split
  · rename_i hsend
    rw [hsend] at hsent
    exact hsent
  · rename_i hsend
    rw [hsend] at hsent
    exact hsent

theorem requestClose_charged {w : Worker} (h : w.requestClose vbucket streamId = (result, t)) :
    w.ChargedTo 0 t ∧ t.status = w.status := by
  have hopcode : (closeStream vbucket streamId 0).opcode ≠ Opcode.dcpBufferAck :=
    show Opcode.dcpCloseStream ≠ Opcode.dcpBufferAck by decide
  have hacks := request_acks w.connection _ hopcode
  rw [requestClose] at h
  split at h
  · rename_i hrequest
    rw [hrequest] at hacks
    cases h
    exact ⟨.of_sent rfl hacks, rfl⟩
  · rename_i hrequest
    rw [hrequest] at hacks
    cases h
    exact ⟨.of_sent rfl hacks, rfl⟩

theorem handleCommand_charged {w : Worker} (h : (w.handleCommand command).status = .running) :
    w.ChargedTo 0 (w.handleCommand command) := by
  cases command with
  | shutdown => cases h
  | close vbucket =>
    rw [handleCommand] at h ⊢
    cases hprogress : w.partitions[vbucket]? with
    | none => exact .of_sent rfl rfl
    | some progress =>
      rw [hprogress] at h
      dsimp only at h ⊢
      cases hclose : w.requestClose vbucket progress.streamId with
      | mk result after =>
        rw [hclose] at h
        obtain ⟨hcharged, -⟩ := requestClose_charged hclose
        cases result with
        | error error => exact hcharged
        | ok u =>
          dsimp only at h ⊢
          split
          · exact hcharged
          · rename_i hend
            rw [if_neg hend] at h
            split
            · rename_i hemit
              rw [hemit] at h
              cases h
            · rename_i hemit
              have hemitted := emit_charged hemit
              exact hcharged.trans hemitted

def frameOf (w : Worker) : WorkerAction → List Frame
  | .receive =>
    match w.connection.receiveFrame with
    | some (.ok frame, _) => [frame]
    | _ => []
  | _ => []

theorem receiveFrame_acks {connection next : KvConnection}
    (h : connection.receiveFrame = some (result, next)) : next.acks = connection.acks := by
  rw [KvConnection.receiveFrame] at h
  split at h
  · cases h
    rfl
  · split at h
    · cases h
      rfl
    · cases h

theorem step_charged {w : Worker} (h : w.step timeout action = some t)
    (hrunning : t.status = .running) :
    w.ChargedTo ((w.frameOf action).map Frame.charge).sum t := by
  have hstatus := step_running h
  rw [step.eq_def, if_neg (not_not.2 hstatus)] at h
  cases action with
  | arrive received =>
    cases h
    exact .of_sent rfl rfl
  | fault after error =>
    cases h
    exact .of_sent rfl rfl
  | hangUp =>
    cases h
    exact .of_sent rfl rfl
  | finish =>
    dsimp only at h
    split at h
    · cases h
      rw [finish] at hrunning
      split at hrunning <;> cases hrunning
    · cases h
  | command command =>
    dsimp only at h
    split at h
    · cases h
    · cases h
      exact handleCommand_charged hrunning
  | commandsClosed =>
    dsimp only at h
    split at h
    · cases h
    · cases h
      cases hrunning
  | silence =>
    dsimp only at h
    split at h
    · cases h
    split at h
    · cases h
    · cases h
      cases hrunning
  | receive =>
    dsimp only at h
    split at h
    · cases h
    rw [receive] at h
    split at h
    · cases h
    · cases h
      cases hrunning
    · rename_i frame connection hreceive
      split at h
      · cases h
        cases hrunning
      · rename_i hframe
        cases h
        have hcharged := handleFrame_charged hframe
        have hframes : w.frameOf .receive = [frame] := by rw [frameOf, hreceive]
        rw [hframes, List.map_singleton, List.sum_singleton]
        have hacks := receiveFrame_acks hreceive
        refine ⟨hcharged.threshold, ?_, hcharged.below⟩
        rw [← hacks]
        exact hcharged.balance

def handled (timeout : Nat) (w : Worker) : List WorkerAction → List Frame
  | [] => []
  | action :: actions =>
    match w.step timeout action with
    | none => []
    | some t => w.frameOf action ++ handled timeout t actions

theorem run_charged {w : Worker} (h : Machine.run (step timeout) w actions = some t)
    (hrunning : t.status = .running) :
    w.ChargedTo ((handled timeout w actions).map Frame.charge).sum t := by
  induction actions generalizing w with
  | nil =>
    cases h
    exact .of_sent rfl rfl
  | cons action actions ih =>
    obtain ⟨next, hstep, hrest⟩ := Machine.run_cons_iff.1 h
    have hnext : next.status = .running := by
      cases actions with
      | nil =>
        cases hrest
        exact hrunning
      | cons later actions =>
        obtain ⟨_, hlater, -⟩ := Machine.run_cons_iff.1 hrest
        exact step_running hlater
    rw [handled, hstep, List.map_append, List.sum_append]
    exact (step_charged hstep hnext).trans (ih hrest)

end Worker

/-- The frame is what the codec and the decompression make of the bytes. -/
def Received (codec : FrameCodec) (snappy : Snappy) (snappyEnabled : Bool) (wire : Bytes)
    (frame : Frame) : Prop :=
  ∃ raw later, codec.decode (wire ++ later) = (.ok (some raw), later) ∧
    decodeInboundFrame snappy snappyEnabled raw = .ok frame

theorem decodeInboundFrame_size (h : decodeInboundFrame snappy snappyEnabled raw = .ok frame) :
    frame.receivedWireSize = raw.receivedWireSize := by
  rw [decodeInboundFrame] at h
  split at h
  · cases h
    rfl
  split at h
  · cases h
  split at h
  · cases h
  split at h
  · cases h
  split at h
  · cases h
  · cases h
    rfl

theorem Received.wireSize (h : Received codec snappy snappyEnabled wire frame) :
    frame.wireSize = wire.length ∧ wire.length < 2 ^ 33 := by
  obtain ⟨raw, later, hdecode, hinbound⟩ := h
  obtain ⟨packet, hsource, hdecodes⟩ := FrameCodec.decode_eq_ok hdecode
  obtain rfl := List.append_cancel_right hsource
  constructor
  · rw [Frame.wireSize, decodeInboundFrame_size hinbound, hdecodes.received]
    rfl
  · have hlength := hdecodes.length
    have hbody := bigEndian_lt (FrameCodec.slice wire 8 12)
    have hfour : (FrameCodec.slice wire 8 12).length ≤ 4 := List.length_take_le _ _
    have hpow := Nat.pow_le_pow_right (by decide : 0 < 256) hfour
    simp only [headerLen] at hlength
    omega

/-- The threshold is the least number that is not below the target, and the credit of the frames
handled is acknowledged or pending. -/
theorem credit_conserved {bufferSize : Nat} {target : ℚ}
    (hsize : 1 ≤ bufferSize ∧ bufferSize ≤ u32Max) (htarget : 0 < target ∧ target ≤ bufferSize) :
    ∃ credit, FlowCredit.new bufferSize (fun n => decide ((n : ℚ) < target)) = .ok credit ∧
      (1 ≤ credit.threshold ∧ credit.threshold ≤ bufferSize ∧ target ≤ credit.threshold ∧
        ∀ n : Nat, 1 ≤ n → target ≤ n → credit.threshold ≤ n) ∧
      (∀ timeout (w : Worker) actions t, w.credit = credit → w.connection.acks = [] →
        Machine.run (Worker.step timeout) w actions = some t → t.status = .running →
        t.connection.acks.sum + t.credit.pending =
            ((w.handled timeout actions).map Frame.charge).sum ∧
          t.credit.pending < credit.threshold ∧
          (∀ amount ∈ t.connection.acks, 1 ≤ amount ∧ amount ≤ u32Max) ∧
          ∀ codec snappy snappyEnabled wire frame,
            Received codec snappy snappyEnabled wire frame → t.connection.fault = none →
            ∃ next, t.recordCredit frame.wireSize = (.ok (), next)) ∧
      (∀ codec snappy snappyEnabled wire frame,
        Received codec snappy snappyEnabled wire frame → frame.wireSize = wire.length) := by
  have hmono : ∀ m n : Nat, m ≤ n → decide ((n : ℚ) < target) = true →
      decide ((m : ℚ) < target) = true := by
    intro m n hmn hn
    rw [decide_eq_true_iff] at hn ⊢
    exact lt_of_le_of_lt (Nat.cast_le.2 hmn) hn
  have hfuel : bufferSize - 1 < 2 ^ 32 := by
    have hmax := hsize.2
    simp only [u32Max] at hmax
    omega
  obtain ⟨hfrom, hto, hfound, hleast⟩ := FlowCredit.search_spec _ 32 1 bufferSize hmono hsize.1
    (decide_eq_false (not_lt.2 htarget.2)) (fun n _ hn => by omega) hfuel
  refine ⟨_, if_neg (Nat.not_lt.2 hsize.2), ⟨hfrom, hto, ?_, ?_⟩, ?_, ?_⟩
  · exact not_lt.1 (of_decide_eq_false hfound)
  · intro n hn htarget
    by_contra hlt
    exact absurd (of_decide_eq_true (hleast n hn (Nat.lt_of_not_le hlt))) (not_lt.2 htarget)
  · intro timeout w actions t hcredit hacks hrun hrunning
    have hcharged := Worker.run_charged hrun hrunning
    obtain ⟨amounts, hsent, hsum, hrange⟩ := hcharged.balance
    have hpending : w.credit.pending = 0 := by rw [hcredit]
    have hthreshold : w.credit.threshold =
        FlowCredit.search (fun n => decide ((n : ℚ) < target)) 32 1 bufferSize := by rw [hcredit]
    rw [hacks, List.nil_append] at hsent
    rw [hpending, Nat.zero_add] at hsum
    have hbelow : t.credit.pending < w.credit.threshold :=
      hcharged.below (hthreshold ▸ hfrom) (by rw [hpending, hthreshold]; exact hfrom)
    rw [hthreshold] at hbelow
    refine ⟨?_, hbelow, ?_, ?_⟩
    · rw [hsent]
      exact hsum
    · rw [hsent]
      exact hrange
    · intro codec snappy snappyEnabled wire frame hreceived hfault
      obtain ⟨hwire, hshort⟩ := hreceived.wireSize
      have hmax := hsize.2
      obtain ⟨credit, connection, hrecord⟩ := FlowCredit.record_ok hfault
        (by simp only [u32Max, u64Max] at *; omega : t.credit.pending + frame.wireSize ≤ u64Max)
      exact ⟨{ t with credit, connection }, by rw [Worker.recordCredit, hrecord]⟩
  · intro codec snappy snappyEnabled wire frame hreceived
    exact hreceived.wireSize.1

/-- A marker, an event that takes the credit past 50, an exchange that does not count, and one more
event. -/
def Worker.sampleFrames : List WorkerAction :=
  [.arrive (.ok (sampleMarker 7)), .receive, .arrive (.ok (sampleAdvance 7)), .receive,
    .arrive (.ok (Frame.request Opcode.dcpNoop)), .receive,
    .arrive (.ok { sampleAdvance 7 with extras := [0, 0, 0, 0, 0, 0, 0, 2] }), .receive]

theorem credit_conserved_sample : ∃ t,
    FlowCredit.new 100 (fun n => decide ((n : ℚ) < 99 / 2)) =
        .ok { threshold := 50, pending := 0 } ∧
    Machine.run (Worker.step 30) Worker.sampleSpawned Worker.sampleFrames = some t ∧
    t.connection.acks = [76] ∧ t.credit.pending = 32 ∧
    ((Worker.sampleSpawned.handled 30 Worker.sampleFrames).map Frame.charge).sum = 108 := by
  obtain ⟨credit, hnew, ⟨-, -, htarget, hleast⟩, hconserved, -⟩ :=
    credit_conserved (by decide : 1 ≤ 100 ∧ 100 ≤ u32Max) (by norm_num : (0 : ℚ) < 99 / 2 ∧ _)
  have hle : credit.threshold ≤ 50 := hleast 50 (by decide) (by norm_num)
  have hge : (49 : ℚ) < credit.threshold := lt_of_lt_of_le (by norm_num) htarget
  have hge : 49 < credit.threshold := by exact_mod_cast hge
  have hcredit : credit = { threshold := 50, pending := 0 } := by
    rw [FlowCredit.new, if_neg (by decide)] at hnew
    cases hnew
    have hthreshold : FlowCredit.search (fun n => decide ((n : ℚ) < 99 / 2)) 32 1 100 = 50 :=
      Nat.le_antisymm hle hge
    rw [hthreshold]
  subst hcredit
  have hsample : (Machine.run (Worker.step 30) Worker.sampleSpawned Worker.sampleFrames).map
      (fun t => (t.connection.acks, t.credit.pending, t.status)) =
      some ([76], 32, .running) := by
    decide
  obtain ⟨t, ht, hsample⟩ := Option.map_eq_some_iff.1 hsample
  simp only [Prod.mk.injEq] at hsample
  obtain ⟨hacks, hpending, hrunning⟩ := hsample
  obtain ⟨hsum, -⟩ := hconserved 30 Worker.sampleSpawned Worker.sampleFrames t rfl rfl ht hrunning
  refine ⟨t, hnew, ht, hacks, hpending, ?_⟩
  rw [← hsum, hacks, hpending]
  rfl

end RustDcp
