import RustDcp.DcpMessage

namespace RustDcp.Protocol
set_option autoImplicit true

/-- The big-endian value of `width` bytes at an offset. -/
def field (width : Nat) (bytes : Bytes) (offset : Nat) : Nat :=
  ∑ i ∈ Finset.range width, (bytes.getD (offset + i) 0).toNat * 256 ^ (width - 1 - i)

def fieldIf (condition : Prop) [Decidable condition] (width : Nat) (bytes : Bytes)
    (offset : Nat) : Option Nat :=
  if condition then some (field width bytes offset) else none

theorem field_succ (width : Nat) (bytes : Bytes) (offset : Nat) :
    field (width + 1) bytes offset =
      field width bytes offset * 256 + (bytes.getD (offset + width) 0).toNat := by
  have hshift : ∀ i ∈ Finset.range width,
      (bytes.getD (offset + i) 0).toNat * 256 ^ (width + 1 - 1 - i) =
        (bytes.getD (offset + i) 0).toNat * 256 ^ (width - 1 - i) * 256 := by
    intro i hi
    have hexponent : width + 1 - 1 - i = width - 1 - i + 1 := by
      have := Finset.mem_range.1 hi
      omega
    rw [hexponent, Nat.pow_succ, Nat.mul_assoc]
  rw [field, Finset.sum_range_succ, Finset.sum_congr rfl hshift, ← Finset.sum_mul, ← field]
  simp

theorem bigEndian_slice (h : offset + width ≤ bytes.length) :
    bigEndian ((bytes.drop offset).take width) = field width bytes offset := by
  induction width with
  | zero => simp [field, bigEndian]
  | succ width ih =>
    have hbyte : offset + width < bytes.length := by omega
    have hslice : (bytes.drop offset).take (width + 1) =
        (bytes.drop offset).take width ++ [bytes.getD (offset + width) 0] := by
      rw [List.take_add_one, List.getElem?_drop, List.getD_eq_getElem?_getD,
        List.getElem?_eq_getElem hbyte]
      rfl
    rw [hslice, bigEndian, List.foldl_append, ← bigEndian, ih (by omega), field_succ]
    rfl

theorem readUint_eq (h : offset + width ≤ bytes.length) :
    readUint width bytes offset = pure (field width bytes offset) := by
  rw [readUint, if_pos h, bigEndian_slice h]

/-- The parser answers with an error when the input is rejected and with `a` otherwise. -/
structure Parse.Exact (rejected : Prop) (a : α) (parse : Parse α) : Prop where
  rejects : rejected → ∃ error, parse.run = some (.error error)
  accepts : ¬ rejected → parse.run = some (.ok a)

namespace Parse.Exact

theorem pure (h : ¬ rejected) : Exact rejected a (Pure.pure a) :=
  ⟨fun hrejected => absurd hrejected h, fun _ => rfl⟩

theorem throw {a : α} (h : rejected) (error : ProtocolError) :
    Exact rejected a (MonadExcept.throw error) :=
  ⟨fun _ => ⟨error, rfl⟩, fun haccepted => absurd h haccepted⟩

theorem map {parse : Parse α} (h : Exact rejected a parse) (f : α → β) :
    Exact rejected (f a) (f <$> parse) := by
  constructor
  · intro hrejected
    obtain ⟨error, herror⟩ := h.rejects hrejected
    exact ⟨error, by rw [ExceptT.run_map, herror]; rfl⟩
  · intro haccepted
    rw [ExceptT.run_map, h.accepts haccepted]
    rfl

theorem bind {parse : Parse α} {next : α → Parse β} (h : Exact early a parse)
    (hrejected : early → rejected) (hnext : ¬ early → Exact rejected b (next a)) :
    Exact rejected b (parse >>= next) := by
  by_cases hearly : early
  · obtain ⟨error, herror⟩ := h.rejects hearly
    refine ⟨fun _ => ⟨error, ?_⟩, fun haccepted => absurd (hrejected hearly) haccepted⟩
    rw [ExceptT.run_bind, herror]
    rfl
  · have hrun : (parse >>= next).run = (next a).run := by
      rw [ExceptT.run_bind, h.accepts hearly]
      rfl
    exact ⟨hrun ▸ (hnext hearly).rejects, hrun ▸ (hnext hearly).accepts⟩

theorem requireLen {next : Unit → Parse α} (hshort : bytes.length < minimum → rejected)
    (hnext : minimum ≤ bytes.length → Exact rejected a (next ())) :
    Exact rejected a (Protocol.requireLen label bytes minimum >>= next) := by
  rw [Protocol.requireLen]
  split
  · rename_i hlength
    exact bind (a := ()) (throw hlength _) hshort fun hlong => absurd hlength hlong
  · rename_i hlength
    exact bind (pure hlength) hshort fun _ => hnext (Nat.not_lt.1 hlength)

theorem requireLenIf [Decidable condition] {next : Unit → Parse α}
    (hshort : condition → bytes.length < minimum → rejected)
    (hnext : (condition → minimum ≤ bytes.length) → Exact rejected a (next ())) :
    Exact rejected a (Protocol.requireLenIf (decide condition) label bytes minimum >>= next) := by
  rw [Protocol.requireLenIf]
  by_cases hcondition : condition
  · rw [if_pos (decide_eq_true hcondition)]
    exact requireLen (hshort hcondition) fun hlength => hnext fun _ => hlength
  · rw [if_neg (by simpa using hcondition)]
    exact bind (pure not_false) False.elim fun _ => hnext fun htrue => absurd htrue hcondition

theorem readUint {next : Nat → Parse α} (h : offset + width ≤ bytes.length)
    (hnext : Exact rejected a (next (field width bytes offset))) :
    Exact rejected a (Protocol.readUint width bytes offset >>= next) := by
  rw [readUint_eq h]
  exact bind (pure not_false) False.elim fun _ => hnext

theorem readIf [Decidable condition] {next : Option Nat → Parse α}
    (h : condition → offset + width ≤ bytes.length)
    (hnext : Exact rejected a (next (fieldIf condition width bytes offset))) :
    Exact rejected a
      (Protocol.readIf (decide condition) (Protocol.readUint width bytes offset) >>= next) := by
  have hread : Protocol.readIf (decide condition) (Protocol.readUint width bytes offset) =
      Pure.pure (fieldIf condition width bytes offset) := by
    rw [Protocol.readIf, fieldIf]
    by_cases hcondition : condition
    · rw [if_pos (decide_eq_true hcondition), if_pos hcondition, readUint_eq (h hcondition)]
      rfl
    · rw [if_neg (by simpa using hcondition), if_neg hcondition]
  rw [hread]
  exact bind (pure not_false) False.elim fun _ => hnext

end Parse.Exact

/-- The least extras of an opcode. Those of a snapshot marker have a fixed length instead. -/
def requiredExtras (opcode : Opcode) : Nat :=
  if opcode = Opcode.dcpMutation then 28
  else if opcode = Opcode.dcpDeletion ∨ opcode = Opcode.dcpExpiration then 16
  else if opcode = Opcode.dcpSystemEvent then 13
  else if opcode = Opcode.dcpSeqnoAdvanced then 8
  else if opcode = Opcode.dcpStreamEnd ∨ opcode = Opcode.dcpOsoSnapshot then 4
  else 0

def requiredMarkerValue : (version : Nat) → Nat
  | 0 => 36
  | 1 => 44
  | _ => 52

theorem lt_requiredMarkerValue :
    n < requiredMarkerValue version ↔ n < 36 ∨ 1 ≤ version ∧ n < 44 ∨ 2 ≤ version ∧ n < 52 := by
  match version with
  | 0 | 1 | version + 2 =>
    simp only [requiredMarkerValue]
    omega

def requiredSystemEventValue (eventCode version : Nat) : Nat :=
  match eventCode with
  | 0 => if version = 0 then 16 else 20
  | 1 | 5 => 16
  | 2 | 3 | 4 => 12
  | _ => 8

theorem le_requiredSystemEventValue (eventCode version : Nat) :
    8 ≤ requiredSystemEventValue eventCode version := by
  unfold requiredSystemEventValue
  repeat' split
  all_goals decide

/-- The least value of a frame, by the version and the event code in its extras. -/
def requiredValue (frame : Frame) : Nat :=
  if frame.opcode = Opcode.dcpSystemEvent then
    requiredSystemEventValue (field 4 frame.extras 8) (field 1 frame.extras 12)
  else if frame.opcode = Opcode.dcpSnapshotMarker ∧ frame.extras.length = 1 then
    requiredMarkerValue (field 1 frame.extras 0)
  else 0

/-- Where a snapshot marker keeps its fields: version 1 in the extras, version 2 in the value. -/
def markerBody (frame : Frame) : Bytes :=
  if frame.extras.length = 20 then frame.extras else frame.value

def Rejected (frame : Frame) : Prop :=
  frame.magic.isResponse = true ∨ frame.extras.length < requiredExtras frame.opcode ∨
    frame.value.length < requiredValue frame ∨
    frame.opcode = Opcode.dcpSnapshotMarker ∧
      (frame.extras.length ≠ 1 ∧ frame.extras.length ≠ 20 ∨
        field 8 (markerBody frame) 8 < field 8 (markerBody frame) 0)

def mutationLayout (frame : Frame) : DcpMutation :=
  { vbucket := frame.vbucket
    streamId := frame.streamId
    seqno := field 8 frame.extras 0
    revSeqno := field 8 frame.extras 8
    flags := field 4 frame.extras 16
    expiry := field 4 frame.extras 20
    lockTime := field 4 frame.extras 24
    cas := frame.cas
    datatype := frame.datatype
    collectionId := frame.collectionId
    key := frame.key
    value := frame.value }

def tombstoneLayout (frame : Frame) : DcpDeletion :=
  { vbucket := frame.vbucket
    streamId := frame.streamId
    seqno := field 8 frame.extras 0
    revSeqno := field 8 frame.extras 8
    deleteTime := fieldIf (20 ≤ frame.extras.length) 4 frame.extras 16
    cas := frame.cas
    datatype := frame.datatype
    collectionId := frame.collectionId
    key := frame.key
    value := frame.value }

def markerLayout (frame : Frame) : SnapshotMarker :=
  let version := field 1 frame.extras 0
  let second := frame.extras.length = 1
  { vbucket := frame.vbucket
    streamId := frame.streamId
    startSeqno := field 8 (markerBody frame) 0
    endSeqno := field 8 (markerBody frame) 8
    flags := field 4 (markerBody frame) 16
    maxVisibleSeqno := fieldIf second 8 frame.value 20
    highCompletedSeqno := fieldIf second 8 frame.value 28
    timestamp := fieldIf (second ∧ 1 ≤ version) 8 frame.value 36
    purgeSeqno := fieldIf (second ∧ 2 ≤ version) 8 frame.value 44 }

def systemEventKindLayout (frame : Frame) (eventCode version : Nat) : SystemEventKind :=
  match eventCode with
  | 0 => .collectionCreated (.ofNat (field 4 frame.value 8)) (.ofNat (field 4 frame.value 12))
      (fieldIf (1 ≤ version) 4 frame.value 16)
  | 1 => .collectionDropped (.ofNat (field 4 frame.value 8)) (.ofNat (field 4 frame.value 12))
  | 2 => .collectionFlushed (.ofNat (field 4 frame.value 8))
  | 3 => .scopeCreated (.ofNat (field 4 frame.value 8))
  | 4 => .scopeDropped (.ofNat (field 4 frame.value 8))
  | 5 => .collectionChanged (.ofNat (field 4 frame.value 8)) (field 4 frame.value 12)
  | code => .unknown code frame.value

def systemEventLayout (frame : Frame) : SystemEvent :=
  { vbucket := frame.vbucket
    streamId := frame.streamId
    seqno := field 8 frame.extras 0
    version := .ofNat (field 1 frame.extras 12)
    manifestUid := field 8 frame.value 0
    key := frame.key
    kind := systemEventKindLayout frame (field 4 frame.extras 8) (field 1 frame.extras 12) }

def messageLayout (frame : Frame) : DcpMessage :=
  if frame.opcode = Opcode.dcpMutation then .mutation (mutationLayout frame)
  else if frame.opcode = Opcode.dcpDeletion then .deletion (tombstoneLayout frame)
  else if frame.opcode = Opcode.dcpExpiration then .expiration (tombstoneLayout frame)
  else if frame.opcode = Opcode.dcpSnapshotMarker then .snapshotMarker (markerLayout frame)
  else if frame.opcode = Opcode.dcpStreamEnd then
    .streamEnd { vbucket := frame.vbucket
                 streamId := frame.streamId
                 reason := .ofRaw (field 4 frame.extras 0) }
  else if frame.opcode = Opcode.dcpSeqnoAdvanced then
    .seqNoAdvanced { vbucket := frame.vbucket
                     streamId := frame.streamId
                     seqno := field 8 frame.extras 0 }
  else if frame.opcode = Opcode.dcpSystemEvent then .systemEvent (systemEventLayout frame)
  else if frame.opcode = Opcode.dcpOsoSnapshot then
    .osoSnapshot { vbucket := frame.vbucket
                   streamId := frame.streamId
                   state := .ofRaw (field 4 frame.extras 0) }
  else if frame.opcode = Opcode.dcpNoop then .noop frame.opaqueId
  else .unknown frame

theorem parseMutation_exact (frame : Frame) :
    (parseMutation frame frame.streamId).Exact (frame.extras.length < 28)
      (.mutation (mutationLayout frame)) := by
  unfold parseMutation
  apply Parse.Exact.requireLen id
  intro h
  iterate 5 refine .readUint (by omega) ?_
  exact .pure (Nat.not_lt.2 h)

theorem parseTombstone_exact (label : String) (frame : Frame) :
    (parseTombstone label frame frame.streamId).Exact (frame.extras.length < 16)
      (tombstoneLayout frame) := by
  unfold parseTombstone
  apply Parse.Exact.requireLen id
  intro h
  iterate 2 refine .readUint (by omega) ?_
  refine .readIf id ?_
  exact .pure (Nat.not_lt.2 h)

theorem parseSnapshotMarkerV1_exact (hextras : frame.extras.length = 20) :
    (parseSnapshotMarkerV1 frame frame.streamId).Exact False (markerLayout frame) := by
  have hlayout : markerLayout frame =
      { vbucket := frame.vbucket
        streamId := frame.streamId
        startSeqno := field 8 frame.extras 0
        endSeqno := field 8 frame.extras 8
        flags := field 4 frame.extras 16
        maxVisibleSeqno := none
        highCompletedSeqno := none
        timestamp := none
        purgeSeqno := none } := by
    simp [markerLayout, markerBody, fieldIf, hextras]
  rw [hlayout]
  unfold parseSnapshotMarkerV1
  iterate 3 refine .readUint (by omega) ?_
  exact .pure not_false

theorem parseSnapshotMarkerV2_exact (hextras : frame.extras.length = 1) :
    (parseSnapshotMarkerV2 frame frame.streamId).Exact
      (frame.value.length < requiredMarkerValue (field 1 frame.extras 0))
      (markerLayout frame) := by
  have hlayout : markerLayout frame =
      { vbucket := frame.vbucket
        streamId := frame.streamId
        startSeqno := field 8 frame.value 0
        endSeqno := field 8 frame.value 8
        flags := field 4 frame.value 16
        maxVisibleSeqno := some (field 8 frame.value 20)
        highCompletedSeqno := some (field 8 frame.value 28)
        timestamp := fieldIf (field 1 frame.extras 0 ≥ 1) 8 frame.value 36
        purgeSeqno := fieldIf (field 1 frame.extras 0 ≥ 2) 8 frame.value 44 } := by
    simp [markerLayout, markerBody, fieldIf, hextras]
  rw [hlayout, lt_requiredMarkerValue]
  unfold parseSnapshotMarkerV2
  refine .requireLen .inl fun h => .readUint (by omega) ?_
  refine .requireLenIf (fun hversion h₁ => .inr (.inl ⟨hversion, h₁⟩)) fun h₁ => ?_
  refine .requireLenIf (fun hversion h₂ => .inr (.inr ⟨hversion, h₂⟩)) fun h₂ => ?_
  iterate 5 refine .readUint (by omega) ?_
  refine .readIf h₁ (.readIf h₂ ?_)
  exact .pure (by omega)

theorem parseSnapshotMarker_exact (frame : Frame) :
    (parseSnapshotMarker frame frame.streamId).Exact
      (frame.extras.length = 1 ∧
          frame.value.length < requiredMarkerValue (field 1 frame.extras 0) ∨
        frame.extras.length ≠ 1 ∧ frame.extras.length ≠ 20 ∨
        field 8 (markerBody frame) 8 < field 8 (markerBody frame) 0)
      (.snapshotMarker (markerLayout frame)) := by
  have hbody : (parseSnapshotMarkerBody frame frame.streamId).Exact
      (frame.extras.length = 1 ∧
          frame.value.length < requiredMarkerValue (field 1 frame.extras 0) ∨
        frame.extras.length ≠ 1 ∧ frame.extras.length ≠ 20) (markerLayout frame) := by
    unfold parseSnapshotMarkerBody
    split
    · rename_i hextras
      simpa [hextras] using parseSnapshotMarkerV1_exact hextras
    · split
      · rename_i hextras
        simpa [hextras] using parseSnapshotMarkerV2_exact hextras
      · exact .throw (by tauto) _
  refine hbody.bind (by tauto) fun hwellFormed => ?_
  split
  · rename_i hbackwards
    exact .throw (.inr (.inr hbackwards)) _
  · rename_i hforwards
    exact .pure (by tauto)

theorem parseSystemEventKind_exact (hvalue : 8 ≤ frame.value.length) (eventCode version : Nat) :
    (parseSystemEventKind frame eventCode version).Exact
      (frame.value.length < requiredSystemEventValue eventCode version)
      (systemEventKindLayout frame eventCode version) := by
  unfold parseSystemEventKind
  split
  · rw [requiredSystemEventValue]
    refine .requireLen (by grind) fun h => ?_
    refine .requireLenIf (by grind) fun h₁ => ?_
    iterate 2 refine .readUint (by omega) ?_
    refine .readIf h₁ ?_
    exact .pure (by grind)
  · refine .requireLen id fun h => ?_
    iterate 2 refine .readUint (by omega) ?_
    exact .pure (Nat.not_lt.2 h)
  · refine .requireLen id fun h => .readUint (by omega) ?_
    exact .pure (Nat.not_lt.2 h)
  · refine .requireLen id fun h => .readUint (by omega) ?_
    exact .pure (Nat.not_lt.2 h)
  · refine .requireLen id fun h => .readUint (by omega) ?_
    exact .pure (Nat.not_lt.2 h)
  · refine .requireLen id fun h => ?_
    iterate 2 refine .readUint (by omega) ?_
    exact .pure (Nat.not_lt.2 h)
  · have hlayout : systemEventKindLayout frame eventCode version =
        .unknown eventCode frame.value := by
      rw [systemEventKindLayout] <;> assumption
    have hrequired : requiredSystemEventValue eventCode version = 8 := by
      rw [requiredSystemEventValue] <;> assumption
    rw [hlayout, hrequired]
    exact .pure (Nat.not_lt.2 hvalue)

theorem parseSystemEvent_exact (frame : Frame) :
    (parseSystemEvent frame frame.streamId).Exact
      (frame.extras.length < 13 ∨ frame.value.length < requiredSystemEventValue
        (field 4 frame.extras 8) (field 1 frame.extras 12))
      (.systemEvent (systemEventLayout frame)) := by
  unfold parseSystemEvent
  refine .requireLen .inl fun h => ?_
  iterate 3 refine .readUint (by omega) ?_
  refine .requireLen (fun hshort => .inr ?_) fun hvalue => .readUint (by omega) ?_
  · exact hshort.trans_le (le_requiredSystemEventValue _ _)
  refine (parseSystemEventKind_exact hvalue _ _).bind .inr fun hlong => ?_
  exact .pure (by omega)

theorem parseStreamEnd_exact (frame : Frame) :
    (parseStreamEnd frame frame.streamId).Exact (frame.extras.length < 4)
      (.streamEnd { vbucket := frame.vbucket
                    streamId := frame.streamId
                    reason := .ofRaw (field 4 frame.extras 0) }) := by
  unfold parseStreamEnd
  exact .requireLen id fun h => .readUint (by omega) (.pure (Nat.not_lt.2 h))

theorem parseSeqNoAdvanced_exact (frame : Frame) :
    (parseSeqNoAdvanced frame frame.streamId).Exact (frame.extras.length < 8)
      (.seqNoAdvanced { vbucket := frame.vbucket
                        streamId := frame.streamId
                        seqno := field 8 frame.extras 0 }) := by
  unfold parseSeqNoAdvanced
  exact .requireLen id fun h => .readUint (by omega) (.pure (Nat.not_lt.2 h))

theorem parseOsoSnapshot_exact (frame : Frame) :
    (parseOsoSnapshot frame frame.streamId).Exact (frame.extras.length < 4)
      (.osoSnapshot { vbucket := frame.vbucket
                      streamId := frame.streamId
                      state := .ofRaw (field 4 frame.extras 0) }) := by
  unfold parseOsoSnapshot
  exact .requireLen id fun h => .readUint (by omega) (.pure (Nat.not_lt.2 h))

theorem Parse.Exact.congr {parse : Parse α} (h : Exact rejected a parse)
    (hiff : rejected' ↔ rejected) : Exact rejected' a parse :=
  propext hiff ▸ h

theorem Parse.Exact.ite [Decidable c] {parse other : Parse α} (hpos : c → Exact rejected a parse)
    (hneg : ¬c → Exact rejected b other) :
    Exact rejected (if c then a else b) (if c then parse else other) := by
  by_cases hc : c
  · rw [if_pos hc, if_pos hc]
    exact hpos hc
  · rw [if_neg hc, if_neg hc]
    exact hneg hc

theorem parseDcpMessage_exact (frame : Frame) :
    (parseDcpMessage frame).Exact (Rejected frame) (messageLayout frame) := by
  rw [parseDcpMessage, Magic.isRequest_eq_not, Bool.not_not]
  by_cases hmagic : frame.magic.isResponse = true
  · rw [if_pos hmagic]
    exact .throw (.inl hmagic) _
  rw [if_neg hmagic]
  dsimp only
  rw [messageLayout]
  refine .ite (fun hmutation => ?_) fun hmutation => ?_
  · refine (parseMutation_exact frame).congr ?_
    simp +decide [Rejected, requiredExtras, requiredValue, hmagic, hmutation]
  refine .ite (fun hdeletion => ?_) fun hdeletion => ?_
  · refine ((parseTombstone_exact _ frame).map _).congr ?_
    simp +decide [Rejected, requiredExtras, requiredValue, hmagic, hdeletion]
  refine .ite (fun hexpiration => ?_) fun hexpiration => ?_
  · refine ((parseTombstone_exact _ frame).map _).congr ?_
    simp +decide [Rejected, requiredExtras, requiredValue, hmagic, hexpiration]
  refine .ite (fun hmarker => ?_) fun hmarker => ?_
  · refine (parseSnapshotMarker_exact frame).congr ?_
    by_cases hextras : frame.extras.length = 1 <;>
      simp +decide [Rejected, requiredExtras, requiredValue, hmagic, hmarker, hextras]
  refine .ite (fun hend => ?_) fun hend => ?_
  · refine (parseStreamEnd_exact frame).congr ?_
    simp +decide [Rejected, requiredExtras, requiredValue, hmagic, hend]
  refine .ite (fun hadvanced => ?_) fun hadvanced => ?_
  · refine (parseSeqNoAdvanced_exact frame).congr ?_
    simp +decide [Rejected, requiredExtras, requiredValue, hmagic, hadvanced]
  refine .ite (fun hsystem => ?_) fun hsystem => ?_
  · refine (parseSystemEvent_exact frame).congr ?_
    simp +decide [Rejected, requiredExtras, requiredValue, hmagic, hsystem]
  refine .ite (fun hoso => ?_) fun hoso => ?_
  · refine (parseOsoSnapshot_exact frame).congr ?_
    simp +decide [Rejected, requiredExtras, requiredValue, hmagic, hoso]
  refine .ite (fun hnoop => ?_) fun hnoop => ?_
  · refine .pure ?_
    simp +decide [Rejected, requiredExtras, requiredValue, hmagic, hnoop]
  · refine .pure ?_
    simp [Rejected, requiredExtras, requiredValue, *]

/-- The parser reads inside its slices only: it answers, with a message or an error. -/
def Parse.Total (parse : Parse α) : Prop := parse.run ≠ none

theorem Parse.Exact.total {parse : Parse α} (h : Exact rejected a parse) : parse.Total := by
  rw [Total]
  by_cases hrejected : rejected
  · obtain ⟨error, herror⟩ := h.rejects hrejected
    simp [herror]
  · simp [h.accepts hrejected]

theorem Parse.Exact.yields {parse : Parse α} (h : Exact rejected a parse)
    (ha : ¬rejected → P a) : parse.Yields P := by
  intro b hb
  by_cases hrejected : rejected
  · obtain ⟨error, herror⟩ := h.rejects hrejected
    rw [herror] at hb
    cases hb
  · rw [h.accepts hrejected] at hb
    cases hb
    exact ha hrejected

theorem parseDcpMessage_total (frame : Frame) : (parseDcpMessage frame).Total :=
  (parseDcpMessage_exact frame).total

end RustDcp.Protocol
