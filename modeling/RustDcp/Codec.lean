import RustDcp.DcpMessage
import RustDcp.Incremental

namespace RustDcp
set_option autoImplicit true

open Protocol (bigEndian)

def Magic.isAlt : Magic → Bool
  | .altRequest | .altResponse => true
  | .request | .response | .serverRequest => false

def Magic.tryFrom : UInt8 → Except ProtocolError Magic
  | 0x80 => .ok .request
  | 0x81 => .ok .response
  | 0x82 => .ok .serverRequest
  | 0x08 => .ok .altRequest
  | 0x18 => .ok .altResponse
  | other => .error (.invalidMagic other)

def Opcode.isCollectionEncoded (opcode : Opcode) : Bool :=
  opcode ≤ 0x06 || (0x0e ≤ opcode && opcode ≤ 0x0f) || (0x1c ≤ opcode && opcode ≤ 0x1d) ||
    (0x57 ≤ opcode && opcode ≤ 0x59) || opcode == 0x83 || (0x94 ≤ opcode && opcode ≤ 0x95) ||
    opcode == 0xa0 || opcode == 0xa2 || opcode == 0xa8 || (0xc5 ≤ opcode && opcode ≤ 0xd2)

def Status.isSuccess (status : Status) : Bool := status == 0

def headerLen : Nat := 24

/-- The loop of `encode_uleb128_u32`: seven bits a byte, the lowest first. -/
def encodeUleb128 (value : Nat) : Bytes :=
  let byte := (value &&& 0x7f).toUInt8
  if value >>> 7 = 0 then [byte] else (byte ||| 0x80) :: encodeUleb128 (value >>> 7)
termination_by value
decreasing_by
  rw [Nat.shiftRight_eq_div_pow] at *
  omega

def encodeUleb128U32 (value : UInt32) : Bytes := encodeUleb128 value.toNat

def decodeUleb128 : Bytes → (index value : Nat) → Except ProtocolError (UInt32 × Nat)
  | [], _, _ => .error (.invalidCollectionId "encoded value is truncated")
  | byte :: rest, index, value =>
    if index ≥ 5 then .error (.invalidCollectionId "encoded value exceeds five bytes")
    else
      let value := value ||| (byte &&& 0x7f).toNat <<< (index * 7)
      if byte &&& 0x80 = 0 then
        if value > u32Max then .error (.invalidCollectionId "encoded value exceeds u32")
        else .ok (UInt32.ofNat value, index + 1)
      else decodeUleb128 rest (index + 1) value

def decodeUleb128U32 (source : Bytes) : Except ProtocolError (UInt32 × Nat) :=
  if source.isEmpty then .error (.invalidCollectionId "no bytes supplied")
  else decodeUleb128 source 0 0

/-- `try_from` of an integer type with so many bits. -/
def tryUint (convert : Nat → α) (bits n : Nat) (message : String) : Except ProtocolError α :=
  if n < 2 ^ bits then .ok (convert n) else .error (.invalidLength message)

def tryU8 (n : Nat) (message : String) : Except ProtocolError UInt8 :=
  tryUint Nat.toUInt8 8 n message

def tryU16 (n : Nat) (message : String) : Except ProtocolError UInt16 :=
  tryUint Nat.toUInt16 16 n message

def tryU32 (n : Nat) (message : String) : Except ProtocolError UInt32 :=
  tryUint Nat.toUInt32 32 n message

/-- The extension byte of an identifier or a length that does not fit its nibble. -/
def encodeExtension (n : Nat) (message : String) : Except ProtocolError Bytes :=
  if n ≥ 15 then (fun extension => [extension]) <$> tryU8 (n - 15) message else .ok []

def encodeFramingExtra (extra : FramingExtra) : Except ProtocolError Bytes := do
  if extra.id > 270 ∨ extra.data.length > 270 then
    throw (.invalidLength "framing-extra identifier and length must not exceed 270")
  let idNibble ← tryU8 (min extra.id.toNat 15) "framing-extra id nibble exceeds u8"
  let lenNibble ← tryU8 (min extra.data.length 15) "framing-extra length nibble exceeds u8"
  let idExtension ← encodeExtension extra.id.toNat "framing-extra id extension exceeds u8"
  let lenExtension ← encodeExtension extra.data.length "framing-extra length extension exceeds u8"
  return (idNibble <<< 4 ||| lenNibble) :: (idExtension ++ lenExtension ++ extra.data)

def encodeFramingExtras : List FramingExtra → Except ProtocolError Bytes
  | [] => .ok []
  | extra :: extras => do
    let bytes ← encodeFramingExtra extra
    let rest ← encodeFramingExtras extras
    return bytes ++ rest

def decodeExtension (nibble : Nat) (source : Bytes) (message : String) :
    Except ProtocolError (Nat × Bytes) :=
  if nibble = 15 then
    match source with
    | [] => .error (.malformedFrame message)
    | extension :: source => .ok (nibble + extension.toNat, source)
  else .ok (nibble, source)

/-- One turn of the loop of `decode_framing_extras`, after the header byte. -/
def decodeFramingExtra (header : UInt8) (source : Bytes) :
    Except ProtocolError (FramingExtra × Bytes) := do
  let (id, source) ← decodeExtension (header >>> 4).toNat source
    "truncated framing-extra id extension"
  let (length, source) ← decodeExtension (header &&& 0x0f).toNat source
    "truncated framing-extra length extension"
  if source.length < length then
    throw (.malformedFrame
      s!"framing-extra declares {length} data bytes but only {source.length} remain")
  return ({ id := UInt16.ofNat id, data := source.take length }, source.drop length)

theorem decodeExtension_length (h : decodeExtension nibble source message = .ok (n, rest)) :
    rest.length ≤ source.length := by
  simp only [decodeExtension] at h
  split at h
  · cases source with
    | nil => cases h
    | cons extension source =>
      cases h
      exact Nat.le_succ _
  · cases h
    exact Nat.le_refl _

theorem decodeFramingExtra_length (h : decodeFramingExtra header source = .ok (extra, rest)) :
    rest.length ≤ source.length := by
  simp only [decodeFramingExtra] at h
  obtain ⟨⟨id, source₁⟩, hid, h⟩ := bind_eq_ok.1 h
  obtain ⟨⟨length, source₂⟩, hlength, h⟩ := bind_eq_ok.1 h
  have hle₁ := decodeExtension_length hid
  have hle₂ := decodeExtension_length hlength
  dsimp only at h hle₂
  split at h
  · cases h
  · cases h
    rw [List.length_drop]
    omega

def decodeFramingExtras (source : Bytes) : Except ProtocolError (List FramingExtra) :=
  match source with
  | [] => .ok []
  | header :: rest =>
    match _h : decodeFramingExtra header rest with
    | .error error => .error error
    | .ok (extra, rest) =>
      (extra :: ·) <$> decodeFramingExtras rest
termination_by source.length
decreasing_by exact Nat.lt_succ_of_le (decodeFramingExtra_length _h)

structure FrameCodec where
  maxFrameSize : Nat
  collectionsEnabled : Bool
  deriving DecidableEq

namespace FrameCodec

def byteAt (bytes : Bytes) (i : Nat) : UInt8 := bytes.getD i 0

def slice (bytes : Bytes) (start stop : Nat) : Bytes := (bytes.drop start).take (stop - start)

def splitKey (self : FrameCodec) (opcode : Opcode) (key : Bytes) :
    Except ProtocolError (Option UInt32 × Bytes) :=
  if self.collectionsEnabled && opcode.isCollectionEncoded && !key.isEmpty then do
    let (decoded, consumed) ← decodeUleb128U32 key
    return (some decoded, key.drop consumed)
  else return (none, key)

/-- The part of `decode` after `split_to`, on the packet it has split off. -/
def decodePacket (self : FrameCodec) (magic : Magic) (bodyLen : Nat) (packet : Bytes) :
    Except ProtocolError Frame := do
  let (framingLen, keyLen) :=
    if magic.isAlt then ((byteAt packet 2).toNat, (byteAt packet 3).toNat)
    else (0, bigEndian (slice packet 2 4))
  let extrasLen := (byteAt packet 4).toNat
  let some fieldsLen := (checkedAdd framingLen extrasLen).bind (checkedAdd · keyLen)
    | throw (.invalidLength "body fields overflow usize")
  if fieldsLen > bodyLen then
    throw (.malformedFrame
      s!"framing ({framingLen}) + extras ({extrasLen}) + key ({keyLen}) exceeds body ({bodyLen})")
  let body := packet.drop headerLen
  let framingExtras ← decodeFramingExtras (body.take framingLen)
  let keyStart := framingLen + extrasLen
  let valueStart := keyStart + keyLen
  let opcode : Opcode := byteAt packet 1
  let (collectionId, key) ← self.splitKey opcode (slice body keyStart valueStart)
  let statusOrVbucket := UInt16.ofNat (bigEndian (slice packet 6 8))
  return {
    magic
    opcode
    datatype := byteAt packet 5
    vbucket := if magic.isRequest then statusOrVbucket else 0
    status := if magic.isResponse then statusOrVbucket else Status.success
    opaqueId := UInt32.ofNat (bigEndian (slice packet 12 16))
    cas := UInt64.ofNat (bigEndian (slice packet 16 24))
    framingExtras
    extras := slice body framingLen keyStart
    key
    value := body.drop valueStart
    collectionId
    receivedWireSize := some (headerLen + bodyLen) }

def decode (self : FrameCodec) (source : Bytes) : Except ProtocolError (Option Frame) × Bytes :=
  if source.length < headerLen then (.ok none, source)
  else match Magic.tryFrom (byteAt source 0) with
    | .error error => (.error error, source)
    | .ok magic =>
      let bodyLen := bigEndian (slice source 8 12)
      match checkedAdd headerLen bodyLen with
      | none => (.error (.invalidLength "frame length overflows usize"), source)
      | some totalLen =>
        if totalLen > self.maxFrameSize then
          (.error (.invalidLength
            s!"frame size {totalLen} exceeds configured maximum {self.maxFrameSize}"), source)
        else if source.length < totalLen then (.ok none, source)
        else (some <$> self.decodePacket magic bodyLen (source.take totalLen), source.drop totalLen)

theorem byteAt_append (h : i < bytes.length) (later : Bytes) :
    byteAt (bytes ++ later) i = byteAt bytes i := by
  rw [byteAt, byteAt, List.getD_append _ _ _ _ h]

theorem slice_append (h : stop ≤ bytes.length) (later : Bytes) :
    slice (bytes ++ later) start stop = slice bytes start stop := by
  by_cases hle : start ≤ stop
  · rw [slice, slice, List.drop_append_of_le_length (by omega),
      List.take_append_of_le_length (by rw [List.length_drop]; omega)]
  · rw [slice, slice, Nat.sub_eq_zero_of_le (by omega), List.take_zero, List.take_zero]

theorem decode_waits (h : decode self source = (.ok none, rest)) : rest = source := by
  simp only [decode] at h
  split at h
  · exact (Prod.mk.inj h).2.symm
  split at h
  · exact (Prod.mk.inj h).2.symm
  split at h
  · exact (Prod.mk.inj h).2.symm
  split at h
  · exact (Prod.mk.inj h).2.symm
  split at h
  · exact (Prod.mk.inj h).2.symm
  · cases hpacket : self.decodePacket _ _ (source.take _) with
    | error error =>
      rw [hpacket] at h
      cases h
    | ok frame =>
      rw [hpacket] at h
      cases h

theorem decode_consumes (h : decode self source = (.ok (some frame), rest)) :
    rest.length < source.length := by
  simp only [decode] at h
  split at h
  · cases h
  rename_i hlen
  split at h
  · cases h
  split at h
  · cases h
  rename_i totalLen htotal
  simp only [checkedAdd, Option.ite_none_right_eq_some, Option.some_inj] at htotal
  split at h
  · cases h
  split at h
  · cases h
  · rw [← (Prod.mk.inj h).2, List.length_drop]
    simp only [headerLen] at *
    omega

/-- The header decides how much of the buffer a packet needs, and a whole packet is decoded alike
whatever follows it. -/
theorem decode_settles (h : decode self source = (answer, rest)) (hanswer : answer ≠ .ok none)
    (later : Bytes) : decode self (source ++ later) = (answer, rest ++ later) := by
  simp only [decode] at h ⊢
  split at h
  · exact absurd (Prod.mk.inj h).1.symm hanswer
  rename_i hlen
  have hlen' : ¬ (source ++ later).length < headerLen := by
    rw [List.length_append]
    omega
  simp only [headerLen] at hlen
  rw [if_neg hlen', byteAt_append (by omega), slice_append (by omega)]
  cases hmagic : Magic.tryFrom (byteAt source 0) with
  | error error =>
    rw [hmagic] at h
    cases h
    rfl
  | ok magic =>
    rw [hmagic] at h
    dsimp only at h ⊢
    split at h
    · cases h
      rfl
    rename_i totalLen htotal
    split at h
    · rename_i hmax
      cases h
      exact if_pos hmax
    rename_i hmax
    split at h
    · exact absurd (Prod.mk.inj h).1.symm hanswer
    rename_i hshort
    have hshort' : ¬ (source ++ later).length < totalLen := by
      rw [List.length_append]
      omega
    cases h
    rw [if_neg hmax, if_neg hshort', List.take_append_of_le_length (by omega),
      List.drop_append_of_le_length (by omega)]

def incremental (self : FrameCodec) : Incremental UInt8 ProtocolError Frame where
  decode := self.decode
  waits := decode_waits
  consumes := decode_consumes
  settles := decode_settles

/-- The frames, the first error and the bytes left do not depend on where the input is cut. -/
theorem feed_chunks_eq_drain (self : FrameCodec) (chunks : List Bytes) :
    self.incremental.feed [] chunks = self.incremental.drain chunks.flatten :=
  self.incremental.feed_eq_drain chunks rfl

end FrameCodec

def encodedMagic (magic : Magic) (hasFraming : Bool) : Except ProtocolError Magic :=
  if !hasFraming then .ok magic
  else match magic with
    | .request | .altRequest => .ok .altRequest
    | .response | .altResponse => .ok .altResponse
    | .serverRequest =>
      .error (.invalidRequest "server-request frames cannot carry flexible framing extras")

def putU16 (n : UInt16) : Bytes := putUint 2 n.toNat

def putU64 (n : UInt64) : Bytes := putUint 8 n.toNat

namespace FrameCodec

/-- What `encode` has computed before it writes to the destination. -/
structure Prepared where
  magic : Magic
  framing : Bytes
  key : Bytes
  bodyLen : UInt32
  extrasLen : UInt8
  framingLen : UInt8

def joinKey (self : FrameCodec) (frame : Frame) : Except ProtocolError Bytes :=
  if self.collectionsEnabled && frame.opcode.isCollectionEncoded then
    .ok (encodeUleb128U32 (frame.collectionId.getD 0) ++ frame.key)
  else if frame.collectionId.any (· ≠ 0) then
    .error (.invalidRequest "collection ID supplied for a frame that cannot encode it")
  else .ok frame.key

def checkKeyLength (magic : Magic) (key framing : Bytes) : Except ProtocolError Unit :=
  if magic.isAlt then
    if key.length > 255 then
      .error (.invalidLength s!"flexible-frame key length {key.length} exceeds 255")
    else if framing.length > 255 then
      .error (.invalidLength s!"framing extras length {framing.length} exceeds 255")
    else .ok ()
  else if key.length > 65535 then
    .error (.invalidLength s!"key length {key.length} exceeds 65535")
  else .ok ()

/-- The part of `encode` before `destination.reserve`. -/
def prepare (self : FrameCodec) (frame : Frame) : Except ProtocolError Prepared := do
  let framing ← encodeFramingExtras frame.framingExtras
  let magic ← encodedMagic frame.magic (!framing.isEmpty)
  if frame.extras.length > 255 then
    throw (.invalidLength s!"extras length {frame.extras.length} exceeds 255")
  let key ← self.joinKey frame
  checkKeyLength magic key framing
  if frame.magic.isRequest && !frame.status.isSuccess then
    throw (.invalidRequest "request frame cannot carry a response status")
  if frame.magic.isResponse && frame.vbucket != 0 then
    throw (.invalidRequest "response frame cannot carry a vBucket")
  let some bodyLen := ((checkedAdd framing.length frame.extras.length).bind
      (checkedAdd · key.length)).bind (checkedAdd · frame.value.length)
    | throw (.invalidLength "body length overflows usize")
  let some totalLen := checkedAdd headerLen bodyLen
    | throw (.invalidLength "frame length overflows usize")
  if totalLen > self.maxFrameSize then
    throw (.invalidLength
      s!"frame size {totalLen} exceeds configured maximum {self.maxFrameSize}")
  return {
    magic
    framing
    key
    bodyLen := ← tryU32 bodyLen "body length exceeds u32::MAX"
    extrasLen := ← tryU8 frame.extras.length "extras length exceeds u8::MAX"
    framingLen := ← tryU8 framing.length "framing extras length exceeds u8::MAX" }

abbrev Writer := ExceptT ProtocolError (StateM Bytes)

def put (bytes : Bytes) : Writer Unit := modify (· ++ bytes)

def check (result : Except ProtocolError α) : Writer α := ExceptT.mk (pure result)

def write (frame : Frame) (prepared : Prepared) : Writer Unit := do
  put [prepared.magic.asU8]
  put [frame.opcode]
  if prepared.magic.isAlt then
    put [prepared.framingLen]
    put [← check (tryU8 prepared.key.length "flexible-frame key length exceeds u8::MAX")]
  else
    put (putU16 (← check
      (tryU16 prepared.key.length "classic-frame key length exceeds u16::MAX")))
  put [prepared.extrasLen]
  put [frame.datatype]
  if frame.magic.isResponse then
    put (putU16 frame.status)
  else
    put (putU16 frame.vbucket)
  put (putU32 prepared.bodyLen)
  put (putU32 frame.opaqueId)
  put (putU64 frame.cas)
  put prepared.framing
  put frame.extras
  put prepared.key
  put frame.value

/-- The result and the destination buffer, also when `encode` fails. -/
def encode (self : FrameCodec) (frame : Frame) (destination : Bytes) :
    Except ProtocolError Unit × Bytes :=
  match self.prepare frame with
  | .error error => (.error error, destination)
  | .ok prepared => (write frame prepared).run.run destination

end FrameCodec

end RustDcp
