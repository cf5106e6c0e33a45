import RustDcp.Codec

namespace RustDcp
set_option autoImplicit true

open Protocol (bigEndian)

theorem Magic.tryFrom_asU8 (magic : Magic) : Magic.tryFrom magic.asU8 = .ok magic := by
  cases magic <;> rfl

theorem foldl_putUint (width n start : Nat) :
    (putUint width n).foldl (fun n byte => n * 256 + byte.toNat) start =
      start * 256 ^ width + n % 256 ^ width := by
  induction width generalizing start with
  | zero => simp [putUint, Nat.mod_one]
  | succ width ih =>
    have hbyte : (n >>> (8 * width)).toUInt8.toNat = n / 256 ^ width % 256 := by
      rw [Nat.toUInt8, UInt8.toNat_ofNat', Nat.shiftRight_eq_div_pow, Nat.pow_mul]
    rw [putUint, List.foldl_cons, ih, hbyte, Nat.mod_pow_succ]
    ring

theorem bigEndian_putUint (width : Nat) (h : n < 256 ^ width) :
    bigEndian (putUint width n) = n := by
  rw [bigEndian, foldl_putUint, Nat.zero_mul, Nat.zero_add, Nat.mod_eq_of_lt h]

theorem uleb128_byte (h : n < 128) :
    (n.toUInt8 &&& 0x7f).toNat = n ∧ n.toUInt8 &&& 0x80 = 0 ∧
      ((n.toUInt8 ||| 0x80) &&& 0x7f).toNat = n ∧ (n.toUInt8 ||| 0x80) &&& 0x80 ≠ 0 := by
  revert n
  decide +kernel

theorem uleb128_accumulate (hlow : low < 2 ^ (index * 7)) (bits : Nat) :
    low ||| bits <<< (index * 7) = low + bits * 2 ^ (index * 7) := by
  rw [Nat.or_comm, ← Nat.shiftLeft_add_eq_or_of_lt hlow, Nat.shiftLeft_eq, Nat.add_comm]

theorem uleb128_pow_succ (index : Nat) : 2 ^ ((index + 1) * 7) = 128 * 2 ^ (index * 7) := by
  rw [Nat.add_mul, Nat.pow_add, Nat.mul_comm]

theorem uleb128_low_lt (hlow : low < 2 ^ (index * 7)) (hbits : bits < 128) :
    low + bits * 2 ^ (index * 7) < 2 ^ ((index + 1) * 7) := by
  have hmul := Nat.mul_le_mul_right (2 ^ (index * 7)) (Nat.le_of_lt_succ hbits)
  rw [uleb128_pow_succ]
  omega

theorem uleb128_index_lt (hpos : index = 0 ∨ 0 < value)
    (hle : low + value * 2 ^ (index * 7) ≤ u32Max) : index < 5 := by
  by_contra hindex
  have hpow : 2 ^ 35 ≤ 2 ^ (index * 7) := Nat.pow_le_pow_right (by decide) (by omega)
  have hmul : 1 * 2 ^ (index * 7) ≤ value * 2 ^ (index * 7) :=
    Nat.mul_le_mul_right _ (by omega)
  simp only [u32Max] at hle
  omega

theorem encodeUleb128_small (h : value < 128) : encodeUleb128 value = [value.toUInt8] := by
  have hbits : value &&& 0x7f = value % 128 := Nat.and_two_pow_sub_one_eq_mod value 7
  have hzero : value >>> 7 = 0 := by
    rw [Nat.shiftRight_eq_div_pow]
    omega
  rw [encodeUleb128, if_pos hzero, hbits, Nat.mod_eq_of_lt h]

theorem encodeUleb128_large (h : 128 ≤ value) :
    encodeUleb128 value = ((value % 128).toUInt8 ||| 0x80) :: encodeUleb128 (value / 128) := by
  have hbits : value &&& 0x7f = value % 128 := Nat.and_two_pow_sub_one_eq_mod value 7
  have hshift : value >>> 7 = value / 128 := Nat.shiftRight_eq_div_pow value 7
  rw [encodeUleb128, hbits, hshift, if_neg (by omega)]

theorem decodeUleb128_encode (value index low : Nat) (key : Bytes)
    (hlow : low < 2 ^ (index * 7)) (hpos : index = 0 ∨ 0 < value)
    (hle : low + value * 2 ^ (index * 7) ≤ u32Max) :
    decodeUleb128 (encodeUleb128 value ++ key) index low =
      .ok (UInt32.ofNat (low + value * 2 ^ (index * 7)), index + (encodeUleb128 value).length) := by
  have hindex := uleb128_index_lt hpos hle
  by_cases hvalue : value < 128
  · obtain ⟨hbyte, hlast, -⟩ := uleb128_byte hvalue
    rw [encodeUleb128_small hvalue, List.singleton_append, decodeUleb128,
      if_neg (Nat.not_le.2 hindex), hbyte, uleb128_accumulate hlow]
    rw [if_pos hlast, if_neg (Nat.not_lt.2 hle)]
    rfl
  · obtain ⟨-, -, hbyte, hmore⟩ := uleb128_byte (Nat.mod_lt value (by decide : 0 < 128))
    have hlow' := uleb128_low_lt hlow (Nat.mod_lt value (by decide : 0 < 128))
    have hsum : low + value % 128 * 2 ^ (index * 7) + value / 128 * 2 ^ ((index + 1) * 7) =
        low + value * 2 ^ (index * 7) := by
      rw [uleb128_pow_succ, ← Nat.mul_assoc, Nat.add_assoc, ← Nat.add_mul, Nat.mul_comm _ 128,
        Nat.mod_add_div]
    have hrest := decodeUleb128_encode (value / 128) (index + 1) _ key hlow' (.inr (by omega))
      (hsum ▸ hle)
    rw [encodeUleb128_large (by omega), List.cons_append, decodeUleb128,
      if_neg (Nat.not_le.2 hindex), hbyte, uleb128_accumulate hlow]
    rw [if_neg hmore, hrest, hsum, List.length_cons]
    congr 2
    omega
termination_by value

theorem decodeUleb128U32_encode (value : UInt32) (key : Bytes) :
    decodeUleb128U32 (encodeUleb128U32 value ++ key) =
      .ok (value, (encodeUleb128U32 value).length) := by
  have hle : 0 + value.toNat * 2 ^ (0 * 7) ≤ u32Max := by
    have := value.toNat_lt
    simp only [u32Max]
    omega
  have hsome : (encodeUleb128U32 value ++ key).isEmpty = false := by
    rw [encodeUleb128U32, encodeUleb128]
    split <;> rfl
  rw [decodeUleb128U32, hsome, encodeUleb128U32,
    decodeUleb128_encode value.toNat 0 0 key (by decide) (.inl rfl) hle]
  simp

theorem nibbles : ∀ i : Nat, i < 16 → ∀ l : Nat, l < 16 →
    ((i.toUInt8 <<< 4 ||| l.toUInt8) >>> 4).toNat = i ∧
      ((i.toUInt8 <<< 4 ||| l.toUInt8) &&& 0x0f).toNat = l := by
  decide +kernel

theorem decodeExtension_encode (h : encodeExtension n message = .ok extension) (hn : n ≤ 270)
    (rest : Bytes) (message' : String) :
    decodeExtension (min n 15) (extension ++ rest) message' = .ok (n, rest) := by
  simp only [encodeExtension, tryU8, tryUint] at h
  by_cases hn' : n ≥ 15
  · rw [if_pos hn', if_pos (by omega)] at h
    cases h
    have hlt : n - 15 < 2 ^ 8 := by omega
    simp only [decodeExtension, if_pos (by omega : min n 15 = 15), List.singleton_append,
      Nat.toUInt8, UInt8.toNat_ofNat', Nat.mod_eq_of_lt hlt]
    congr 2
    omega
  · rw [if_neg hn'] at h
    cases h
    simp only [decodeExtension, if_neg (by omega : ¬ min n 15 = 15), List.nil_append]
    rw [Nat.min_eq_left (by omega)]

theorem decodeFramingExtra_encode (h : encodeFramingExtra extra = .ok bytes) (rest : Bytes) :
    ∃ header tail, bytes = header :: tail ∧
      decodeFramingExtra header (tail ++ rest) = .ok (extra, rest) := by
  simp only [encodeFramingExtra, tryU8, tryUint] at h
  split at h
  · cases h
  rename_i hle
  rw [not_or, Nat.not_lt, UInt16.not_lt, UInt16.le_iff_toNat_le] at hle
  obtain ⟨hid, hlen⟩ := hle
  rw [if_pos (by omega), if_pos (by omega)] at h
  obtain ⟨-, ⟨⟩, h⟩ := bind_eq_ok.1 h
  obtain ⟨-, ⟨⟩, h⟩ := bind_eq_ok.1 h
  obtain ⟨idExtension, hidExtension, h⟩ := bind_eq_ok.1 h
  obtain ⟨lenExtension, hlenExtension, h⟩ := bind_eq_ok.1 h
  cases h
  obtain ⟨hhigh, hlow⟩ := nibbles (min extra.id.toNat 15) (by omega) (min extra.data.length 15)
    (by omega)
  refine ⟨_, _, rfl, ?_⟩
  rw [decodeFramingExtra, hhigh, hlow, List.append_assoc, List.append_assoc,
    decodeExtension_encode hidExtension hid]
  simp only [bind, Except.bind, decodeExtension_encode hlenExtension hlen]
  rw [if_neg (by rw [List.length_append]; omega), List.take_left, List.drop_left]
  simp [pure, Except.pure]

theorem decodeFramingExtras_encode (h : encodeFramingExtras extras = .ok bytes) :
    decodeFramingExtras bytes = .ok extras := by
  induction extras generalizing bytes with
  | nil =>
    cases h
    rw [decodeFramingExtras]
  | cons extra extras ih =>
    obtain ⟨head, hhead, h⟩ := bind_eq_ok.1 h
    obtain ⟨rest, hrest, h⟩ := bind_eq_ok.1 h
    cases h
    obtain ⟨header, tail, rfl, hextra⟩ := decodeFramingExtra_encode hhead rest
    rw [List.cons_append, decodeFramingExtras]
    split
    · rename_i herror
      cases hextra.symm.trans herror
    · rename_i hok
      cases hextra.symm.trans hok
      rw [ih hrest]
      rfl

theorem encodeFramingExtras_isEmpty (h : encodeFramingExtras extras = .ok bytes) :
    bytes.isEmpty = extras.isEmpty := by
  cases extras with
  | nil =>
    cases h
    rfl
  | cons extra extras =>
    obtain ⟨head, hhead, h⟩ := bind_eq_ok.1 h
    obtain ⟨rest, -, h⟩ := bind_eq_ok.1 h
    cases h
    obtain ⟨header, tail, rfl, -⟩ := decodeFramingExtra_encode hhead rest
    rfl

def Magic.alt : Magic → Magic
  | .request | .altRequest => .altRequest
  | .response | .altResponse => .altResponse
  | .serverRequest => .serverRequest

theorem encodedMagic_eq_ok (h : encodedMagic magic hasFraming = .ok magic') :
    magic' = (if hasFraming then magic.alt else magic) ∧ magic'.isRequest = magic.isRequest ∧
      magic'.isResponse = magic.isResponse ∧ (hasFraming = true → magic'.isAlt = true) := by
  cases hasFraming with
  | false =>
    cases h
    exact ⟨rfl, rfl, rfl, by simp⟩
  | true => cases magic <;> cases h <;> exact ⟨rfl, rfl, rfl, fun _ => rfl⟩

theorem tryUint_eq_ok : tryUint convert bits n message = .ok m ↔ n < 2 ^ bits ∧ m = convert n := by
  simp only [tryUint]
  split <;> simp_all [eq_comm]

theorem checkedAdd_of_lt (h : a + b < 2 ^ 33) : checkedAdd a b = some (a + b) := by
  have hle : a + b ≤ usizeMax := by
    simp only [usizeMax]
    omega
  rw [checkedAdd, if_pos hle]

namespace FrameCodec

/-- What `prepare` has checked. -/
structure Prepares (codec : FrameCodec) (frame : Frame) (prepared : Prepared) : Prop where
  framing : encodeFramingExtras frame.framingExtras = .ok prepared.framing
  magic : encodedMagic frame.magic (!prepared.framing.isEmpty) = .ok prepared.magic
  key : codec.joinKey frame = .ok prepared.key
  keyLength : checkKeyLength prepared.magic prepared.key prepared.framing = .ok ()
  status : frame.magic.isRequest = true → frame.status = Status.success
  vbucket : frame.magic.isResponse = true → frame.vbucket = 0
  maximum : headerLen + (prepared.framing.length + frame.extras.length + prepared.key.length +
    frame.value.length) ≤ codec.maxFrameSize
  bodyLen : prepared.bodyLen.toNat = prepared.framing.length + frame.extras.length +
    prepared.key.length + frame.value.length
  extrasLen : prepared.extrasLen.toNat = frame.extras.length
  framingLen : prepared.framingLen.toNat = prepared.framing.length

theorem prepare_eq_ok (h : prepare self frame = .ok prepared) : self.Prepares frame prepared := by
  simp only [prepare] at h
  obtain ⟨framing, hframing, h⟩ := bind_eq_ok.1 h
  obtain ⟨magic, hmagic, h⟩ := bind_eq_ok.1 h
  split at h
  · cases h
  obtain ⟨key, hkey, h⟩ := bind_eq_ok.1 h
  obtain ⟨⟨⟩, hkeyLength, h⟩ := bind_eq_ok.1 h
  split at h
  · cases h
  rename_i hstatus
  split at h
  · cases h
  rename_i hvbucket
  split at h
  rotate_left
  · cases h
  rename_i bodyLen hbodyLen
  split at h
  rotate_left
  · cases h
  rename_i totalLen htotalLen
  split at h
  · cases h
  rename_i hmaximum
  obtain ⟨bodyLen32, hbodyLen32, h⟩ := bind_eq_ok.1 h
  obtain ⟨extrasLen, hextrasLen, h⟩ := bind_eq_ok.1 h
  obtain ⟨framingLen, hframingLen, h⟩ := bind_eq_ok.1 h
  cases h
  obtain ⟨hlt, rfl⟩ := tryUint_eq_ok.1 hbodyLen32
  obtain ⟨hextras, rfl⟩ := tryUint_eq_ok.1 hextrasLen
  obtain ⟨hframingLt, rfl⟩ := tryUint_eq_ok.1 hframingLen
  have hbody : bodyLen = framing.length + frame.extras.length + key.length +
      frame.value.length := by
    simp only [checkedAdd, Option.bind_eq_some_iff, Option.ite_none_right_eq_some,
      Option.some_inj] at hbodyLen
    obtain ⟨_, ⟨_, ⟨-, rfl⟩, -, rfl⟩, -, rfl⟩ := hbodyLen
    rfl
  simp only [checkedAdd, Option.ite_none_right_eq_some, Option.some_inj] at htotalLen
  refine ⟨hframing, hmagic, hkey, hkeyLength, ?_, ?_, by dsimp only; omega, ?_, ?_, ?_⟩
  · intro hrequest
    simpa [hrequest, Status.isSuccess, Status.success] using hstatus
  · intro hresponse
    simpa [hresponse] using hvbucket
  · rw [Nat.toUInt32, UInt32.toNat_ofNat', Nat.mod_eq_of_lt hlt, hbody]
  · rw [Nat.toUInt8, UInt8.toNat_ofNat', Nat.mod_eq_of_lt hextras]
  · rw [Nat.toUInt8, UInt8.toNat_ofNat', Nat.mod_eq_of_lt hframingLt]

def lengthBytes (prepared : Prepared) : UInt8 × UInt8 :=
  if prepared.magic.isAlt then (prepared.framingLen, prepared.key.length.toUInt8)
  else ((prepared.key.length.toUInt16 >>> 8).toUInt8, prepared.key.length.toUInt16.toUInt8)

def statusOrVbucket (frame : Frame) : UInt16 :=
  if frame.magic.isResponse then frame.status else frame.vbucket

def headerBytes (frame : Frame) (prepared : Prepared) : Bytes :=
  [prepared.magic.asU8, frame.opcode, (lengthBytes prepared).1, (lengthBytes prepared).2,
    prepared.extrasLen, frame.datatype] ++ putU16 (statusOrVbucket frame) ++
    putU32 prepared.bodyLen ++ putU32 frame.opaqueId ++ putU64 frame.cas

def bodyBytes (frame : Frame) (prepared : Prepared) : Bytes :=
  prepared.framing ++ frame.extras ++ prepared.key ++ frame.value

theorem headerBytes_length (frame : Frame) (prepared : Prepared) :
    (headerBytes frame prepared).length = headerLen := rfl

theorem bodyBytes_length (h : Prepares self frame prepared) :
    (bodyBytes frame prepared).length = prepared.bodyLen.toNat := by
  simp only [bodyBytes, List.length_append, h.bodyLen]

theorem checkKeyLength_eq_ok (h : checkKeyLength magic key framing = .ok ()) :
    if magic.isAlt then key.length < 2 ^ 8 else key.length < 2 ^ 16 := by
  simp only [checkKeyLength] at h
  split at h
  · rename_i halt
    rw [if_pos halt]
    split at h
    · cases h
    · omega
  · rename_i halt
    rw [if_neg halt]
    split at h
    · cases h
    · omega

theorem run_put (bytes destination : Bytes) :
    (put bytes).run.run destination = (.ok (), destination ++ bytes) := rfl

theorem run_put_bind (bytes destination : Bytes) (next : Unit → Writer Unit) :
    (put bytes >>= next).run.run destination = (next ()).run.run (destination ++ bytes) := rfl

theorem run_check_bind (a : α) (destination : Bytes) (next : α → Writer Unit) :
    (check (.ok a) >>= next).run.run destination = (next a).run.run destination := rfl

theorem write_run (h : Prepares self frame prepared) (destination : Bytes) :
    (write frame prepared).run.run destination =
      (.ok (), destination ++ (headerBytes frame prepared ++ bodyBytes frame prepared)) := by
  have hlength := checkKeyLength_eq_ok h.keyLength
  by_cases halt : prepared.magic.isAlt <;> by_cases hresponse : frame.magic.isResponse <;>
    simp only [halt, if_true, Bool.false_eq_true, if_false] at hlength <;>
    simp only [write, halt, hresponse, if_true, Bool.false_eq_true, if_false, tryU8, tryU16,
      tryUint, if_pos hlength, run_put_bind, run_check_bind, run_put, headerBytes, lengthBytes,
      statusOrVbucket, bodyBytes,
      List.append_assoc, List.cons_append, List.nil_append] <;> rfl

def asDecoded (self : FrameCodec) (frame : Frame) (wireSize : Nat) : Frame :=
  { frame with
    magic := if frame.framingExtras.isEmpty then frame.magic else frame.magic.alt
    collectionId :=
      if self.collectionsEnabled && frame.opcode.isCollectionEncoded then
        some (frame.collectionId.getD 0)
      else none
    receivedWireSize := some wireSize }

theorem splitKey_joinKey (h : joinKey self frame = .ok key) :
    self.splitKey frame.opcode key =
      .ok (if self.collectionsEnabled && frame.opcode.isCollectionEncoded then
        some (frame.collectionId.getD 0) else none, frame.key) := by
  simp only [joinKey] at h
  by_cases hencoded : self.collectionsEnabled && frame.opcode.isCollectionEncoded
  · rw [if_pos hencoded] at h
    cases h
    have hdecode := decodeUleb128U32_encode (frame.collectionId.getD 0) frame.key
    have hsome : (encodeUleb128U32 (frame.collectionId.getD 0) ++ frame.key).isEmpty = false := by
      cases hempty : (encodeUleb128U32 (frame.collectionId.getD 0) ++ frame.key).isEmpty with
      | false => rfl
      | true =>
        rw [decodeUleb128U32, if_pos hempty] at hdecode
        cases hdecode
    rw [splitKey, hencoded, hsome, hdecode]
    simp [bind, Except.bind, pure, Except.pure]
  · rw [if_neg hencoded] at h
    split at h
    · cases h
    cases h
    rw [Bool.not_eq_true] at hencoded
    rw [splitKey, hencoded]
    rfl

theorem lengthBytes_decode (h : Prepares self frame prepared) :
    (if prepared.magic.isAlt then
      ((lengthBytes prepared).1.toNat, (lengthBytes prepared).2.toNat)
    else (0, bigEndian [(lengthBytes prepared).1, (lengthBytes prepared).2])) =
      (prepared.framing.length, prepared.key.length) := by
  have hlength := checkKeyLength_eq_ok h.keyLength
  by_cases halt : prepared.magic.isAlt
  · rw [if_pos halt] at hlength ⊢
    simp only [lengthBytes, halt, if_true, h.framingLen, Nat.toUInt8, UInt8.toNat_ofNat',
      Nat.mod_eq_of_lt hlength]
  · rw [if_neg halt] at hlength ⊢
    have hframing : prepared.framing = [] := by
      cases hempty : prepared.framing.isEmpty with
      | true => exact List.isEmpty_iff.1 hempty
      | false =>
        refine absurd ((encodedMagic_eq_ok h.magic).2.2.2 ?_) halt
        rw [hempty]
        rfl
    have hkey : bigEndian [(prepared.key.length.toUInt16 >>> 8).toUInt8,
        prepared.key.length.toUInt16.toUInt8] = prepared.key.length.toUInt16.toNat :=
      bigEndian_putUint 2 (UInt16.toNat_lt _)
    simp only [lengthBytes, halt, Bool.false_eq_true, if_false]
    rw [hkey, hframing, Nat.toUInt16, UInt16.toNat_ofNat', Nat.mod_eq_of_lt hlength]
    rfl

theorem slice_mid (before mid after : Bytes) :
    slice (before ++ (mid ++ after)) before.length (before.length + mid.length) = mid := by
  rw [slice, List.drop_left, Nat.add_sub_cancel_left, List.take_left]

theorem bodyBytes_fields (frame : Frame) (prepared : Prepared) :
    (bodyBytes frame prepared).take prepared.framing.length = prepared.framing ∧
    slice (bodyBytes frame prepared) prepared.framing.length
      (prepared.framing.length + frame.extras.length) = frame.extras ∧
    slice (bodyBytes frame prepared) (prepared.framing.length + frame.extras.length)
      (prepared.framing.length + frame.extras.length + prepared.key.length) = prepared.key ∧
    (bodyBytes frame prepared).drop
      (prepared.framing.length + frame.extras.length + prepared.key.length) = frame.value := by
  refine ⟨?_, ?_, ?_, ?_⟩
  · rw [bodyBytes, List.append_assoc, List.append_assoc, List.take_left]
  · rw [bodyBytes, List.append_assoc, List.append_assoc]
    exact slice_mid _ _ _
  · rw [bodyBytes, List.append_assoc, ← List.length_append]
    exact slice_mid _ _ _
  · rw [bodyBytes, ← List.length_append, ← List.length_append, List.drop_left]

theorem statusOrVbucket_decode (h : Prepares self frame prepared) :
    (if prepared.magic.isRequest then statusOrVbucket frame else 0) = frame.vbucket ∧
    (if prepared.magic.isResponse then statusOrVbucket frame else Status.success) =
      frame.status := by
  obtain ⟨-, hrequest, hresponse, -⟩ := encodedMagic_eq_ok h.magic
  rw [hrequest, hresponse, statusOrVbucket]
  have hnot := frame.magic.isRequest_eq_not
  cases hmagic : frame.magic.isResponse with
  | true =>
    rw [hmagic] at hnot
    rw [hnot]
    exact ⟨(h.vbucket hmagic).symm, rfl⟩
  | false =>
    rw [hmagic] at hnot
    rw [hnot]
    exact ⟨rfl, (h.status hnot).symm⟩

theorem asDecoded_magic (h : Prepares self frame prepared) (wireSize : Nat) :
    (self.asDecoded frame wireSize).magic = prepared.magic := by
  rw [(encodedMagic_eq_ok h.magic).1, encodeFramingExtras_isEmpty h.framing, asDecoded]
  cases frame.framingExtras.isEmpty <;> rfl

theorem decodePacket_packet (h : Prepares self frame prepared) :
    self.decodePacket prepared.magic prepared.bodyLen.toNat
      (headerBytes frame prepared ++ bodyBytes frame prepared) =
      .ok (self.asDecoded frame (headerLen + prepared.bodyLen.toNat)) := by
  obtain ⟨hframing, hextras, hkey, hvalue⟩ := bodyBytes_fields frame prepared
  obtain ⟨hvbucket, hstatus⟩ := statusOrVbucket_decode h
  have hlt := prepared.bodyLen.toNat_lt
  have hbodyLen := h.bodyLen
  have hfields : (checkedAdd prepared.framing.length frame.extras.length).bind
      (checkedAdd · prepared.key.length) =
      some (prepared.framing.length + frame.extras.length + prepared.key.length) := by
    rw [checkedAdd_of_lt (by omega), Option.bind_some, checkedAdd_of_lt (by omega)]
  have hlengths : (if prepared.magic.isAlt then
      ((byteAt (headerBytes frame prepared ++ bodyBytes frame prepared) 2).toNat,
        (byteAt (headerBytes frame prepared ++ bodyBytes frame prepared) 3).toNat)
      else (0, bigEndian (slice (headerBytes frame prepared ++ bodyBytes frame prepared) 2 4))) =
      (prepared.framing.length, prepared.key.length) := lengthBytes_decode h
  have hextrasLen : (byteAt (headerBytes frame prepared ++ bodyBytes frame prepared) 4).toNat =
      frame.extras.length := h.extrasLen
  have hbody : (headerBytes frame prepared ++ bodyBytes frame prepared).drop headerLen =
      bodyBytes frame prepared := rfl
  have hopcode : byteAt (headerBytes frame prepared ++ bodyBytes frame prepared) 1 =
      frame.opcode := rfl
  have hstatusOrVbucket :
      bigEndian (slice (headerBytes frame prepared ++ bodyBytes frame prepared) 6 8) =
        (statusOrVbucket frame).toNat := bigEndian_putUint 2 (UInt16.toNat_lt _)
  have hopaqueId :
      bigEndian (slice (headerBytes frame prepared ++ bodyBytes frame prepared) 12 16) =
      frame.opaqueId.toNat := bigEndian_putUint 4 frame.opaqueId.toNat_lt
  have hcas : bigEndian (slice (headerBytes frame prepared ++ bodyBytes frame prepared) 16 24) =
      frame.cas.toNat := bigEndian_putUint 8 frame.cas.toNat_lt
  rw [decodePacket, hlengths]
  simp only [hextrasLen, hfields, hbody, hframing, decodeFramingExtras_encode h.framing, hopcode,
    hkey, splitKey_joinKey h.key, hstatusOrVbucket, hopaqueId, hcas, hextras, hvalue,
    UInt16.ofNat_toNat,
    UInt32.ofNat_toNat, UInt64.ofNat_toNat, hvbucket, hstatus]
  rw [if_neg (by omega)]
  have hmagic := asDecoded_magic h (headerLen + prepared.bodyLen.toNat)
  simp only [bind, Except.bind, pure, Except.pure, ← hmagic]
  rfl

theorem decode_packet (h : Prepares self frame prepared) :
    self.decode (headerBytes frame prepared ++ bodyBytes frame prepared) =
      (.ok (some (self.asDecoded frame (headerLen + prepared.bodyLen.toNat))), []) := by
  have hlength : (headerBytes frame prepared ++ bodyBytes frame prepared).length =
      headerLen + prepared.bodyLen.toNat := by
    rw [List.length_append, headerBytes_length, bodyBytes_length h]
  have hmagic : Magic.tryFrom (byteAt (headerBytes frame prepared ++ bodyBytes frame prepared) 0) =
      .ok prepared.magic := prepared.magic.tryFrom_asU8
  have hbodyLen : bigEndian (slice (headerBytes frame prepared ++ bodyBytes frame prepared) 8 12) =
      prepared.bodyLen.toNat := bigEndian_putUint 4 prepared.bodyLen.toNat_lt
  have hlt := prepared.bodyLen.toNat_lt
  have hmaximum := h.maximum
  rw [← h.bodyLen] at hmaximum
  have htotal : checkedAdd headerLen prepared.bodyLen.toNat =
      some (headerLen + prepared.bodyLen.toNat) := by
    refine checkedAdd_of_lt ?_
    simp only [headerLen]
    omega
  simp only [decode, hlength, hmagic, hbodyLen, htotal]
  rw [if_neg (by omega), if_neg (by omega), if_neg (by omega), List.take_of_length_le (by omega),
    List.drop_of_length_le (by omega), decodePacket_packet h]
  rfl

/-- An encoded frame is decoded to the same frame, whatever follows it. A frame that cannot be
encoded leaves the destination as it was. -/
theorem encode_decode (self : FrameCodec) (frame : Frame) (destination later : Bytes) :
    (∀ result, self.encode frame destination = (.ok (), result) →
      ∃ bytes, result = destination ++ bytes ∧
        self.decode (bytes ++ later) =
          (.ok (some (self.asDecoded frame bytes.length)), later)) ∧
    ∀ error result, self.encode frame destination = (.error error, result) →
      result = destination := by
  simp only [encode]
  cases hprepare : self.prepare frame with
  | error error =>
    refine ⟨fun result h => ?_, fun error result h => ?_⟩
    · cases h
    · exact (Prod.mk.inj h).2.symm
  | ok prepared =>
    have hprepares := prepare_eq_ok hprepare
    simp only [write_run hprepares]
    refine ⟨fun result h => ⟨_, (Prod.mk.inj h).2.symm, ?_⟩, fun error result h => ?_⟩
    · rw [List.length_append, headerBytes_length, bodyBytes_length hprepares]
      exact decode_settles (decode_packet hprepares) (by simp) later
    · cases h

def sampleCodec : FrameCodec := { maxFrameSize := 1024, collectionsEnabled := true }

theorem encode_decode_sample :
    (∃ bytes, sampleCodec.encode (closeStream 7 (some 3) 5) [] = (.ok (), bytes) ∧
      sampleCodec.decode (bytes ++ [1, 2]) =
        (.ok (some { closeStream 7 (some 3) 5 with
          magic := .altRequest, receivedWireSize := some 27 }), [1, 2])) ∧
    (sampleCodec.encode { closeStream 7 (some 3) 5 with magic := .serverRequest } [9]).2 = [9] := by
  constructor
  · obtain ⟨bytes, hbytes, hdecode⟩ :=
      (encode_decode sampleCodec (closeStream 7 (some 3) 5) [] [1, 2]).1 _ rfl
    exact ⟨_, rfl, by rw [hbytes]; cases hbytes; exact hdecode⟩
  · exact (encode_decode sampleCodec { closeStream 7 (some 3) 5 with magic := .serverRequest } [9]
      []).2 _ _ rfl

end FrameCodec

end RustDcp
