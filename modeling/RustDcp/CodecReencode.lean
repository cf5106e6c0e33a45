import RustDcp.Uleb128

namespace RustDcp
set_option autoImplicit true

open Protocol (bigEndian)

theorem bigEndian_lt (bytes : Bytes) : bigEndian bytes < 256 ^ bytes.length := by
  induction bytes using List.reverseRecOn with
  | nil => simp [bigEndian]
  | append_singleton bytes byte ih =>
    have hbyte := byte.toNat_lt
    rw [bigEndian, List.foldl_append, ← bigEndian, List.length_append, List.length_singleton,
      Nat.pow_succ]
    simp only [List.foldl_cons, List.foldl_nil]
    omega

theorem bigEndian_injective {a b : Bytes} (hlength : a.length = b.length)
    (h : bigEndian a = bigEndian b) : a = b := by
  induction a using List.reverseRecOn generalizing b with
  | nil => exact (List.length_eq_zero_iff.1 hlength.symm).symm
  | append_singleton a x ih =>
    induction b using List.reverseRecOn with
    | nil => simp at hlength
    | append_singleton b y _ =>
      have hx := x.toNat_lt
      have hy := y.toNat_lt
      simp only [bigEndian, List.foldl_append, List.foldl_cons, List.foldl_nil] at h
      have hlow : x = y := by
        rw [← UInt8.toNat_inj]
        omega
      subst hlow
      rw [ih (by simpa using hlength) (by simp only [bigEndian]; omega)]

theorem length_putUint (width n : Nat) : (putUint width n).length = width := by
  induction width with
  | zero => rfl
  | succ width ih => rw [putUint, List.length_cons, ih]

theorem putUint_bigEndian (h : bytes.length = width) :
    putUint width (bigEndian bytes % 256 ^ width) = bytes := by
  have hlt := bigEndian_lt bytes
  rw [h] at hlt
  rw [Nat.mod_eq_of_lt hlt]
  exact bigEndian_injective ((length_putUint _ _).trans h.symm) (bigEndian_putUint width hlt)

theorem Magic.asU8_of_tryFrom (h : Magic.tryFrom byte = .ok magic) : magic.asU8 = byte := by
  rw [Magic.tryFrom.eq_def] at h
  split at h <;> cases h <;> rfl

theorem encodedMagic_of_isAlt (h : magic.isAlt = true) (hasFraming : Bool) :
    encodedMagic magic hasFraming = .ok magic := by
  cases magic with
  | altRequest | altResponse => cases hasFraming <;> rfl
  | request | response | serverRequest => cases h

theorem header_nibbles (header : UInt8) :
    (header >>> 4).toNat < 16 ∧ (header &&& 0x0f).toNat < 16 ∧
      (header >>> 4).toNat.toUInt8 <<< 4 ||| (header &&& 0x0f).toNat.toUInt8 = header := by
  revert header
  decide +kernel

theorem encodeExtension_decode (hnibble : nibble < 16)
    (h : decodeExtension nibble source message = .ok (n, rest)) (message' : String) :
    n ≤ 270 ∧ min n 15 = nibble ∧
      ∃ extension, source = extension ++ rest ∧ encodeExtension n message' = .ok extension := by
  simp only [decodeExtension] at h
  split at h
  · rename_i hfull
    cases source with
    | nil => cases h
    | cons extension source =>
      cases h
      have hlt := extension.toNat_lt
      have hsub : nibble + extension.toNat - 15 = extension.toNat := by omega
      refine ⟨by omega, by omega, [extension], rfl, ?_⟩
      rw [encodeExtension, if_pos (by omega), tryU8, tryUint, hsub, if_pos hlt]
      simp
  · cases h
    exact ⟨by omega, by omega, [], rfl, by rw [encodeExtension, if_neg (by omega)]⟩

theorem encodeFramingExtra_decode (h : decodeFramingExtra header source = .ok (extra, rest)) :
    ∃ tail, source = tail ++ rest ∧ encodeFramingExtra extra = .ok (header :: tail) := by
  obtain ⟨hhigh, hlow, hheader⟩ := header_nibbles header
  rw [decodeFramingExtra] at h
  obtain ⟨⟨id, source₁⟩, hid, h⟩ := bind_eq_ok.1 h
  obtain ⟨⟨length, source₂⟩, hlength, h⟩ := bind_eq_ok.1 h
  dsimp only at h
  split at h
  · cases h
  rename_i hshort
  cases h
  obtain ⟨hidLe, hidMin, idExtension, rfl, hidExtension⟩ := encodeExtension_decode hhigh hid
    "framing-extra id extension exceeds u8"
  obtain ⟨hlengthLe, hlengthMin, lenExtension, rfl, hlenExtension⟩ :=
    encodeExtension_decode hlow hlength "framing-extra length extension exceeds u8"
  have hidNat : (UInt16.ofNat id).toNat = id := Nat.mod_eq_of_lt (by omega)
  have hdata : (source₂.take length).length = length := by
    rw [List.length_take]
    omega
  refine ⟨idExtension ++ lenExtension ++ source₂.take length, ?_, ?_⟩
  · rw [List.append_assoc, List.append_assoc, List.take_append_drop]
  · have hsmall : ¬ ((UInt16.ofNat id) > 270 ∨ (source₂.take length).length > 270) := by
      rw [not_or, UInt16.not_lt, UInt16.le_iff_toNat_le, hidNat, hdata]
      exact ⟨hidLe, Nat.not_lt.2 hlengthLe⟩
    have hidNibble : tryU8 (min (UInt16.ofNat id).toNat 15) "framing-extra id nibble exceeds u8" =
        .ok (header >>> 4).toNat.toUInt8 := by
      rw [hidNat, hidMin, tryU8, tryUint, if_pos (by omega)]
    have hlenNibble : tryU8 (min (source₂.take length).length 15)
        "framing-extra length nibble exceeds u8" = .ok (header &&& 0x0f).toNat.toUInt8 := by
      rw [hdata, hlengthMin, tryU8, tryUint, if_pos (by omega)]
    rw [← hidNat] at hidExtension
    rw [← hdata] at hlenExtension
    simp only [encodeFramingExtra, if_neg hsmall]
    refine bind_eq_ok.2 ⟨_, hidNibble, bind_eq_ok.2 ⟨_, hlenNibble, ?_⟩⟩
    refine bind_eq_ok.2 ⟨_, hidExtension, bind_eq_ok.2 ⟨_, hlenExtension, ?_⟩⟩
    rw [hheader]
    rfl

theorem encodeFramingExtras_decode (h : decodeFramingExtras bytes = .ok extras) :
    encodeFramingExtras extras = .ok bytes := by
  -- on the length of the bytes: each turn of the loop takes at least a header
  induction hlength : bytes.length using Nat.strong_induction_on generalizing bytes extras with
  | h length ih =>
    cases bytes with
    | nil =>
      rw [decodeFramingExtras] at h
      cases h
      rfl
    | cons header source =>
      rw [decodeFramingExtras] at h
      split at h
      · cases h
      rename_i extra rest hextra
      obtain ⟨extras, hextras, rfl⟩ := Result.map_eq_ok h
      have hshorter : rest.length < length := by
        rw [← hlength]
        exact Nat.lt_succ_of_le (decodeFramingExtra_length hextra)
      have hrest := ih rest.length hshorter hextras rfl
      obtain ⟨tail, rfl, hhead⟩ := encodeFramingExtra_decode hextra
      exact bind_eq_ok.2 ⟨_, hhead, bind_eq_ok.2 ⟨_, hrest, rfl⟩⟩

namespace FrameCodec

def fieldLengths (magic : Magic) (packet : Bytes) : Nat × Nat :=
  if magic.isAlt then ((byteAt packet 2).toNat, (byteAt packet 3).toNat)
  else (0, bigEndian (slice packet 2 4))

def extrasLength (packet : Bytes) : Nat := (byteAt packet 4).toNat

def keyField (magic : Magic) (packet : Bytes) : Bytes :=
  slice (packet.drop headerLen) ((fieldLengths magic packet).1 + extrasLength packet)
    ((fieldLengths magic packet).1 + extrasLength packet + (fieldLengths magic packet).2)

/-- What `decode` has read from a packet. -/
structure Decodes (codec : FrameCodec) (packet : Bytes) (frame : Frame) : Prop where
  magic : Magic.tryFrom (byteAt packet 0) = .ok frame.magic
  length : packet.length = headerLen + bigEndian (slice packet 8 12)
  maximum : packet.length ≤ codec.maxFrameSize
  fields : headerLen + ((fieldLengths frame.magic packet).1 + extrasLength packet +
    (fieldLengths frame.magic packet).2) ≤ packet.length
  framing : decodeFramingExtras
    ((packet.drop headerLen).take (fieldLengths frame.magic packet).1) = .ok frame.framingExtras
  key : codec.splitKey frame.opcode (keyField frame.magic packet) =
    .ok (frame.collectionId, frame.key)
  header : frame.opcode = byteAt packet 1 ∧ frame.datatype = byteAt packet 5 ∧
    frame.vbucket = (if frame.magic.isRequest then
      UInt16.ofNat (bigEndian (slice packet 6 8)) else 0) ∧
    frame.status = (if frame.magic.isResponse then
      UInt16.ofNat (bigEndian (slice packet 6 8)) else Status.success) ∧
    frame.opaqueId = UInt32.ofNat (bigEndian (slice packet 12 16)) ∧
    frame.cas = UInt64.ofNat (bigEndian (slice packet 16 24))
  extras : frame.extras = slice (packet.drop headerLen) (fieldLengths frame.magic packet).1
    ((fieldLengths frame.magic packet).1 + extrasLength packet)
  value : frame.value = (packet.drop headerLen).drop ((fieldLengths frame.magic packet).1 +
    extrasLength packet + (fieldLengths frame.magic packet).2)
  received : frame.receivedWireSize = some packet.length

theorem decodePacket_eq_ok {self : FrameCodec}
    (hmagic : Magic.tryFrom (byteAt packet 0) = .ok magic)
    (hlength : packet.length = headerLen + bigEndian (slice packet 8 12))
    (hmaximum : packet.length ≤ self.maxFrameSize)
    (h : self.decodePacket magic (bigEndian (slice packet 8 12)) packet = .ok frame) :
    self.Decodes packet frame := by
  simp only [decodePacket] at h
  split at h
  rotate_left
  · cases h
  rename_i fieldsLen hfieldsLen
  split at h
  · cases h
  rename_i hfits
  obtain ⟨framingExtras, hframing, h⟩ := bind_eq_ok.1 h
  obtain ⟨⟨collectionId, key⟩, hkey, h⟩ := bind_eq_ok.1 h
  cases h
  have hfields : fieldsLen =
      (fieldLengths magic packet).1 + extrasLength packet + (fieldLengths magic packet).2 := by
    simp only [checkedAdd, Option.bind_eq_some_iff, Option.ite_none_right_eq_some,
      Option.some_inj] at hfieldsLen
    obtain ⟨_, ⟨-, rfl⟩, -, rfl⟩ := hfieldsLen
    rfl
  exact ⟨hmagic, hlength, hmaximum, by dsimp only; omega, hframing, hkey,
    ⟨rfl, rfl, rfl, rfl, rfl, rfl⟩, rfl, rfl, congrArg some hlength.symm⟩

theorem decode_eq_ok {self : FrameCodec} (h : self.decode source = (.ok (some frame), rest)) :
    ∃ packet, source = packet ++ rest ∧ self.Decodes packet frame := by
  simp only [decode] at h
  split at h
  · cases h
  rename_i hheader
  split at h
  · cases h
  rename_i magic hmagic
  split at h
  · cases h
  rename_i totalLen htotal
  split at h
  · cases h
  rename_i hmaximum
  split at h
  · cases h
  rename_i hshort
  obtain ⟨hpacket, rfl⟩ := Prod.mk.inj h
  obtain ⟨found, hfound, heq⟩ := Result.map_eq_ok hpacket
  cases heq
  simp only [checkedAdd, Option.ite_none_right_eq_some, Option.some_inj] at htotal
  have hlen : (source.take totalLen).length = totalLen := by
    rw [List.length_take]
    omega
  have hsource : source = source.take totalLen ++ source.drop totalLen :=
    (List.take_append_drop _ _).symm
  have hfirst : byteAt source 0 = byteAt (source.take totalLen) 0 := by
    conv_lhs => rw [hsource]
    exact byteAt_append (by simp only [headerLen] at htotal; omega) _
  have hbody : slice source 8 12 = slice (source.take totalLen) 8 12 := by
    conv_lhs => rw [hsource]
    exact slice_append (by simp only [headerLen] at htotal; omega) _
  rw [hfirst] at hmagic
  rw [hbody] at hfound htotal
  refine ⟨source.take totalLen, hsource, decodePacket_eq_ok hmagic ?_ ?_ hfound⟩
  · omega
  · omega

theorem prepare_of_prepares (h : Prepares self frame prepared) :
    self.prepare frame = .ok prepared := by
  obtain ⟨magic, framing, key, bodyLen, extrasLen, framingLen⟩ := prepared
  have hextras := h.extrasLen
  have hframing := h.framingLen
  have hbody := h.bodyLen
  have hmaximum := h.maximum
  have hextrasLt := extrasLen.toNat_lt
  have hframingLt := framingLen.toNat_lt
  have hbodyLt := bodyLen.toNat_lt
  dsimp only at hextras hframing hbody hmaximum
  have hstatus : (frame.magic.isRequest && !frame.status.isSuccess) = false := by
    cases hrequest : frame.magic.isRequest with
    | false => rfl
    | true =>
      rw [h.status hrequest]
      rfl
  have hvbucket : (frame.magic.isResponse && frame.vbucket != 0) = false := by
    cases hresponse : frame.magic.isResponse with
    | false => rfl
    | true =>
      rw [h.vbucket hresponse]
      rfl
  have hsum : ((checkedAdd framing.length frame.extras.length).bind (checkedAdd · key.length)).bind
      (checkedAdd · frame.value.length) = some bodyLen.toNat := by
    rw [checkedAdd_of_lt (by omega), Option.bind_some, checkedAdd_of_lt (by omega),
      Option.bind_some, checkedAdd_of_lt (by omega), hbody]
  have htotal : checkedAdd headerLen bodyLen.toNat = some (headerLen + bodyLen.toNat) := by
    refine checkedAdd_of_lt ?_
    simp only [headerLen]
    omega
  refine bind_eq_ok.2 ⟨_, h.framing, bind_eq_ok.2 ⟨_, h.magic, ?_⟩⟩
  rw [if_neg (by omega)]
  refine bind_eq_ok.2 ⟨_, h.key, bind_eq_ok.2 ⟨_, h.keyLength, ?_⟩⟩
  dsimp only
  rw [hstatus, hvbucket, hsum]
  dsimp only
  rw [htotal]
  dsimp only
  rw [if_neg Bool.false_ne_true, if_neg Bool.false_ne_true, if_neg (by omega)]
  have hbodyLen : tryU32 bodyLen.toNat "body length exceeds u32::MAX" = .ok bodyLen :=
    tryUint_eq_ok.2 ⟨hbodyLt, UInt32.ofNat_toNat.symm⟩
  have hextrasLen : tryU8 frame.extras.length "extras length exceeds u8::MAX" = .ok extrasLen := by
    rw [← hextras]
    exact tryUint_eq_ok.2 ⟨hextrasLt, UInt8.ofNat_toNat.symm⟩
  have hframingLen : tryU8 framing.length "framing extras length exceeds u8::MAX" =
      .ok framingLen := by
    rw [← hframing]
    exact tryUint_eq_ok.2 ⟨hframingLt, UInt8.ofNat_toNat.symm⟩
  exact bind_eq_ok.2 ⟨_, hbodyLen, bind_eq_ok.2 ⟨_, hextrasLen,
    bind_eq_ok.2 ⟨_, hframingLen, rfl⟩⟩⟩

/-- The prefix of the key can be written again. -/
def Reencodable (self : FrameCodec) (opcode : Opcode) (key : Bytes) : Prop :=
  self.collectionsEnabled = false ∨ opcode.isCollectionEncoded = false ∨ MinimalUleb128 key

theorem joinKey_splitKey {self : FrameCodec}
    (h : self.splitKey frame.opcode key = .ok (frame.collectionId, frame.key))
    (hkey : self.Reencodable frame.opcode key) : self.joinKey frame = .ok key := by
  rw [splitKey] at h
  rw [joinKey]
  by_cases hencoded : self.collectionsEnabled && frame.opcode.isCollectionEncoded
  · have hminimal : MinimalUleb128 key := by
      rw [Bool.and_eq_true] at hencoded
      rcases hkey with hdisabled | hplain | hminimal
      · rw [hdisabled] at hencoded
        cases hencoded.1
      · rw [hplain] at hencoded
        cases hencoded.2
      · exact hminimal
    have hnonempty : key.isEmpty = false := by
      obtain ⟨more, last, rest, rfl, -⟩ := hminimal
      cases more <;> rfl
    rw [hencoded, hnonempty] at h
    obtain ⟨⟨decoded, consumed⟩, hdecode, h⟩ := bind_eq_ok.1 h
    obtain ⟨hid, hrest⟩ := Prod.mk.inj (Except.ok.inj h)
    rw [if_pos hencoded, ← hid, ← hrest]
    exact congrArg Except.ok (encodeUleb128U32_decode hminimal hdecode)
  · rw [Bool.not_eq_true] at hencoded
    rw [hencoded] at h ⊢
    obtain ⟨hid, hrest⟩ := Prod.mk.inj (Except.ok.inj h)
    rw [← hid, ← hrest]
    rfl

theorem slice_append_slice (bytes : Bytes) (hab : a ≤ b) (hbc : b ≤ c) :
    slice bytes a b ++ slice bytes b c = slice bytes a c := by
  have hsplit : c - a = (b - a) + (c - b) := by omega
  rw [slice, slice, slice, hsplit, List.take_add, List.drop_drop, Nat.add_sub_of_le hab]

theorem length_slice (h : stop ≤ bytes.length) :
    (slice bytes start stop).length = stop - start := by
  rw [slice, List.length_take, List.length_drop]
  omega

theorem slice_one (h : i < bytes.length) : slice bytes i (i + 1) = [byteAt bytes i] := by
  rw [slice, Nat.add_sub_cancel_left, List.take_one, List.head?_drop, byteAt,
    List.getD_eq_getElem?_getD,
    List.getElem?_eq_getElem h]
  rfl

def prepared (frame : Frame) (packet : Bytes) : Prepared where
  magic := frame.magic
  framing := (packet.drop headerLen).take (fieldLengths frame.magic packet).1
  key := keyField frame.magic packet
  bodyLen := UInt32.ofNat (bigEndian (slice packet 8 12))
  extrasLen := byteAt packet 4
  framingLen := if frame.magic.isAlt then byteAt packet 2 else 0

section

variable {self : FrameCodec} (h : self.Decodes packet frame)
include h

theorem Decodes.lengths :
    (prepared frame packet).framing.length = (fieldLengths frame.magic packet).1 ∧
      frame.extras.length = extrasLength packet ∧
      (prepared frame packet).key.length = (fieldLengths frame.magic packet).2 ∧
      frame.value.length = bigEndian (slice packet 8 12) -
        ((fieldLengths frame.magic packet).1 + extrasLength packet +
          (fieldLengths frame.magic packet).2) := by
  have hlength := h.length
  have hfields := h.fields
  have hbody : (packet.drop headerLen).length = bigEndian (slice packet 8 12) := by
    rw [List.length_drop, hlength, Nat.add_sub_cancel_left]
  refine ⟨?_, ?_, ?_, ?_⟩
  · rw [prepared, List.length_take, hbody]
    omega
  · rw [h.extras, length_slice (by omega), Nat.add_sub_cancel_left]
  · rw [prepared, keyField, length_slice (by omega), Nat.add_sub_cancel_left]
  · rw [h.value, List.length_drop, hbody]

theorem Decodes.bodyBytes_eq : bodyBytes frame (prepared frame packet) = packet.drop headerLen := by
  have htake : (prepared frame packet).framing =
      slice (packet.drop headerLen) 0 (fieldLengths frame.magic packet).1 := rfl
  rw [bodyBytes, htake, h.extras, h.value, slice_append_slice _ (Nat.zero_le _)
    (Nat.le_add_right _ _)]
  change slice _ _ _ ++ slice _ _ _ ++ _ = _
  rw [slice_append_slice _ (Nat.zero_le _) (Nat.le_add_right _ _), slice, List.drop_zero,
    Nat.sub_zero, List.take_append_drop]

theorem Decodes.lengthBytes_eq :
    [(lengthBytes (prepared frame packet)).1, (lengthBytes (prepared frame packet)).2] =
      slice packet 2 4 := by
  have hlong : 24 ≤ packet.length := by
    have hlength := h.length
    simp only [headerLen] at hlength
    omega
  have hkey := h.lengths.2.2.1
  cases halt : frame.magic.isAlt with
  | true =>
    have hbyte : (prepared frame packet).key.length = (byteAt packet 3).toNat := by
      rw [hkey, fieldLengths, halt]
      rfl
    have hbytes : lengthBytes (prepared frame packet) = (byteAt packet 2, byteAt packet 3) := by
      rw [lengthBytes, hbyte]
      simp only [prepared, halt, if_true]
      rw [Nat.toUInt8, UInt8.ofNat_toNat]
    rw [hbytes, ← slice_append_slice packet (by omega : 2 ≤ 3) (by omega), slice_one (by omega),
      slice_one (by omega)]
    rfl
  | false =>
    have hbyte : (prepared frame packet).key.length = bigEndian (slice packet 2 4) := by
      rw [hkey, fieldLengths, halt]
      rfl
    have htwo : (slice packet 2 4).length = 2 := length_slice (by omega)
    rw [← putUint_bigEndian htwo, lengthBytes, hbyte]
    simp only [prepared, halt, Bool.false_eq_true, if_false]
    rfl

theorem Decodes.headerBytes_eq :
    headerBytes frame (prepared frame packet) = packet.take headerLen := by
  have hlong : 24 ≤ packet.length := by
    have hlength := h.length
    simp only [headerLen] at hlength
    omega
  obtain ⟨hopcode, hdatatype, hvbucket, hstatus, hopaqueId, hcas⟩ := h.header
  have hmagic : (prepared frame packet).magic.asU8 = byteAt packet 0 :=
    Magic.asU8_of_tryFrom h.magic
  have hword : putU16 (statusOrVbucket frame) = slice packet 6 8 := by
    have hboth : statusOrVbucket frame = UInt16.ofNat (bigEndian (slice packet 6 8)) := by
      rw [statusOrVbucket, hstatus, hvbucket, frame.magic.isRequest_eq_not]
      cases frame.magic.isResponse <;> rfl
    rw [hboth]
    exact putUint_bigEndian (length_slice (by omega))
  have hbody : putU32 (prepared frame packet).bodyLen = slice packet 8 12 :=
    putUint_bigEndian (length_slice (by omega))
  have hopaque : putU32 frame.opaqueId = slice packet 12 16 := by
    rw [hopaqueId]
    exact putUint_bigEndian (length_slice (by omega))
  have hcasBytes : putU64 frame.cas = slice packet 16 24 := by
    rw [hcas]
    exact putUint_bigEndian (length_slice (by omega))
  have hfirst : slice packet 0 6 = [byteAt packet 0] ++ [byteAt packet 1] ++ slice packet 2 4 ++
      [byteAt packet 4] ++ [byteAt packet 5] := by
    rw [← slice_one (by omega), ← slice_one (by omega), ← slice_one (by omega),
      ← slice_one (by omega), slice_append_slice _ (by omega) (by omega),
      slice_append_slice _ (by omega) (by omega), slice_append_slice _ (by omega) (by omega),
      slice_append_slice _ (by omega) (by omega)]
  have hhead : [(prepared frame packet).magic.asU8, frame.opcode,
      (lengthBytes (prepared frame packet)).1, (lengthBytes (prepared frame packet)).2,
      (prepared frame packet).extrasLen, frame.datatype] = slice packet 0 6 := by
    rw [hfirst, ← h.lengthBytes_eq, hmagic, hopcode, hdatatype]
    rfl
  rw [headerBytes, hhead, hword, hbody, hopaque, hcasBytes,
    slice_append_slice _ (by omega) (by omega), slice_append_slice _ (by omega) (by omega),
    slice_append_slice _ (by omega) (by omega), slice_append_slice _ (by omega) (by omega)]
  rfl

theorem Decodes.keyLength_ok : checkKeyLength (prepared frame packet).magic
    (prepared frame packet).key (prepared frame packet).framing = .ok () := by
  obtain ⟨hframing, -, hkey, -⟩ := h.lengths
  have hlength := h.length
  change checkKeyLength frame.magic _ _ = _
  cases halt : frame.magic.isAlt with
  | true =>
    have hframingLt := (byteAt packet 2).toNat_lt
    have hkeyLt := (byteAt packet 3).toNat_lt
    rw [fieldLengths, halt, if_pos rfl] at hframing hkey
    rw [checkKeyLength, halt, if_pos rfl, if_neg (by omega), if_neg (by omega)]
  | false =>
    have hkeyLt := bigEndian_lt (slice packet 2 4)
    rw [length_slice (by simp only [headerLen] at hlength; omega)] at hkeyLt
    rw [fieldLengths, halt, if_neg Bool.false_ne_true] at hkey
    rw [checkKeyLength, halt, if_neg Bool.false_ne_true, if_neg (by omega)]

theorem Decodes.prepares (hkey : self.Reencodable frame.opcode (keyField frame.magic packet)) :
    self.Prepares frame (prepared frame packet) := by
  obtain ⟨hframingLength, hextrasLength, hkeyLength, hvalueLength⟩ := h.lengths
  obtain ⟨-, -, hvbucket, hstatus, -⟩ := h.header
  have hlength := h.length
  have hfields := h.fields
  have hmaximum := h.maximum
  have hlong : 12 ≤ packet.length := by
    simp only [headerLen] at hlength
    omega
  have hbodyLt : bigEndian (slice packet 8 12) < 2 ^ 32 := by
    have hlt := bigEndian_lt (slice packet 8 12)
    rw [length_slice hlong] at hlt
    exact hlt
  have hbody : (prepared frame packet).bodyLen.toNat = bigEndian (slice packet 8 12) :=
    Nat.mod_eq_of_lt hbodyLt
  have hsum : bigEndian (slice packet 8 12) = (prepared frame packet).framing.length +
      frame.extras.length + (prepared frame packet).key.length + frame.value.length := by
    omega
  refine ⟨encodeFramingExtras_decode h.framing, ?_, joinKey_splitKey h.key hkey, ?_, ?_, ?_, ?_,
    hbody.trans hsum, hextrasLength.symm, ?_⟩
  · cases halt : frame.magic.isAlt with
    | true => exact encodedMagic_of_isAlt halt _
    | false =>
      have hempty : (prepared frame packet).framing = [] := by
        rw [← List.length_eq_zero_iff, hframingLength, fieldLengths, halt]
        rfl
      rw [hempty]
      rfl
  · exact h.keyLength_ok
  · intro hrequest
    rw [hstatus, if_neg]
    rw [frame.magic.isRequest_eq_not] at hrequest
    simpa using hrequest
  · intro hresponse
    rw [hvbucket, if_neg]
    rw [frame.magic.isRequest_eq_not, hresponse]
    exact Bool.false_ne_true
  · omega
  · rw [hframingLength, fieldLengths, prepared]
    cases frame.magic.isAlt <;> rfl

end

/-- A decoded frame is encoded to the bytes that it was read from. -/
theorem encode_of_decode {self : FrameCodec} (h : self.decode source = (.ok (some frame), rest))
    (destination : Bytes) :
    ∃ consumed, source = consumed ++ rest ∧
      (self.Reencodable frame.opcode (keyField frame.magic consumed) →
        self.encode frame destination = (.ok (), destination ++ consumed)) := by
  obtain ⟨packet, hsource, hdecodes⟩ := decode_eq_ok h
  refine ⟨packet, hsource, fun hkey => ?_⟩
  have hprepares := hdecodes.prepares hkey
  rw [encode, prepare_of_prepares hprepares]
  change (write frame (prepared frame packet)).run.run destination = _
  rw [write_run hprepares, hdecodes.headerBytes_eq, hdecodes.bodyBytes_eq,
    List.take_append_drop]

/-- A deletion with a stream ID, in collection 9, and the beginning of another packet. -/
def sampleWire : Bytes :=
  [0x08, 0x58, 3, 2, 0, 0, 0, 7, 0, 0, 0, 5, 0, 0, 0, 1, 0, 0, 0, 0, 0, 0, 0, 0, 0x22, 0, 3, 9, 97]

def sampleDeletion : Frame :=
  { Frame.request Opcode.dcpDeletion with
    magic := .altRequest
    vbucket := 7
    opaqueId := 1
    framingExtras := [FramingExtra.streamId 3]
    key := [97]
    collectionId := some 9
    receivedWireSize := some 29 }

theorem encode_of_decode_sample : sampleCodec.encode sampleDeletion [] = (.ok (), sampleWire) := by
  have hdecode : sampleCodec.decode (sampleWire ++ [0x80]) =
      (.ok (some sampleDeletion), [0x80]) := by decide +kernel
  obtain ⟨consumed, hconsumed, hencode⟩ := encode_of_decode hdecode []
  obtain rfl := List.append_cancel_right hconsumed
  exact hencode (.inr (.inr ⟨[], 9, [97], by decide, by simp, by decide, .inl rfl⟩))

end FrameCodec

end RustDcp
