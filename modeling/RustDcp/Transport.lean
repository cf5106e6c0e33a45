import RustDcp.Frame

namespace RustDcp
set_option autoImplicit true

/-- A framed connection. `inbound` holds what the peer has delivered, after decoding, and is not
read yet; `fault` says after how many more frames sending fails. -/
structure KvConnection where
  peer : String
  requestTimeout : Nat
  nextOpaque : UInt32
  pending : List Frame
  inbound : List (Result Frame)
  sent : List Frame
  fault : Option (Nat × DcpError)
  deriving DecidableEq

def snappyDatatypeFlag : UInt8 := 0x02

def maxDecompressedValueSize : Nat := 32 * 1024 * 1024

structure Snappy where
  decompressLen : Bytes → Except String Nat
  decompressVec : Bytes → Except String Bytes

/-- `KvConnection::decode_inbound_frame`, on every frame that the codec has decoded. -/
def decodeInboundFrame (snappy : Snappy) (snappyEnabled : Bool) (frame : Frame) : Result Frame :=
  if frame.datatype &&& snappyDatatypeFlag = 0 then .ok frame
  else if !snappyEnabled then
    .error (.protocol (.malformedFrame
      "received a Snappy-compressed value without HELLO negotiation"))
  else match snappy.decompressLen frame.value with
    | .error error => .error (.protocol (.malformedFrame s!"invalid Snappy value header: {error}"))
    | .ok decompressedLen =>
      if decompressedLen > maxDecompressedValueSize then
        .error (.protocol (.invalidLength
          (s!"Snappy value expands to {decompressedLen} bytes, exceeding maximum " ++
           s!"{maxDecompressedValueSize}")))
      else match snappy.decompressVec frame.value with
        | .error error => .error (.protocol (.malformedFrame s!"invalid Snappy value: {error}"))
        | .ok value =>
          .ok { frame with value, datatype := frame.datatype &&& ~~~snappyDatatypeFlag }

namespace KvConnection

def sendFrame (self : KvConnection) (frame : Frame) : Outcome KvConnection :=
  match self.fault with
  | none => (.ok (), { self with sent := self.sent ++ [frame] })
  | some (0, error) => (.error error, self)
  | some (left + 1, error) =>
    (.ok (), { self with sent := self.sent ++ [frame], fault := some (left, error) })

/-- Parked frames come first; `none` means that the call waits for the peer. -/
def receiveFrame (self : KvConnection) : Option (Result Frame × KvConnection) :=
  match self.pending with
  | frame :: pending => some (.ok frame, { self with pending })
  | [] =>
    match self.inbound with
    | received :: inbound => some (received, { self with inbound })
    | [] => none

def allocateOpaque (self : KvConnection) : UInt32 × KvConnection :=
  (self.nextOpaque, { self with nextOpaque := max (self.nextOpaque + 1) 1 })

/-- The read loop of `request`: parks every frame up to the response with the opaque. -/
def awaitResponse (opaqueId : UInt32) (timeout : Nat) (pending : List Frame) :
    List (Result Frame) → Result Frame × List Frame × List (Result Frame)
  | [] => (.error (.timeout timeout), pending, [])
  | .error error :: inbound => (.error error, pending, inbound)
  | .ok frame :: inbound =>
    if frame.magic.isResponse && frame.opaqueId == opaqueId then (.ok frame, pending, inbound)
    else awaitResponse opaqueId timeout (pending ++ [frame]) inbound

/-- A request that the peer has not answered by the end of `inbound` times out. -/
def request (self : KvConnection) (frame : Frame) : Result Frame × KvConnection :=
  let (opaqueId, self) :=
    if frame.opaqueId = 0 then self.allocateOpaque else (frame.opaqueId, self)
  match self.sendFrame { frame with opaqueId } with
  | (.error error, self) => (.error error, self)
  | (.ok (), self) =>
    let (result, pending, inbound) :=
      awaitResponse opaqueId self.requestTimeout self.pending self.inbound
    (result, { self with pending, inbound })

theorem sendFrame_eq {self : KvConnection} (h : self.sendFrame frame = (result, after)) :
    ∃ fault, (self.fault = none → fault = none) ∧
      (result = .ok () ∧ after = { self with sent := self.sent ++ [frame], fault } ∨
        self.fault ≠ none ∧ (∃ error, result = .error error) ∧ after = { self with fault }) := by
  rw [sendFrame] at h
  split at h
  next hfault =>
    cases h
    exact ⟨_, id, .inl ⟨rfl, rfl⟩⟩
  next error hfault =>
    cases h
    exact ⟨_, id, .inr ⟨by simp [hfault], ⟨error, rfl⟩, rfl⟩⟩
  next left error hfault =>
    cases h
    exact ⟨_, by simp [hfault], .inl ⟨rfl, rfl⟩⟩

theorem sendFrame_eq_ok {self : KvConnection} (h : self.sendFrame frame = (.ok (), after)) :
    after.sent = self.sent ++ [frame] := by
  obtain ⟨fault, -, ⟨-, rfl⟩ | ⟨-, ⟨error, herror⟩, -⟩⟩ := sendFrame_eq h
  · rfl
  · cases herror

theorem sendFrame_of_fault_none {self : KvConnection} (h : self.fault = none) (frame : Frame) :
    self.sendFrame frame = (.ok (), { self with sent := self.sent ++ [frame] }) := by
  rw [sendFrame, h]

theorem awaitResponse_found (hresponse : response.magic.isResponse = true)
    (hopaqueId : response.opaqueId = opaqueId) (before : List Frame) (pending : List Frame)
    (hbefore : ∀ frame ∈ before, ¬(frame.magic.isResponse = true ∧ frame.opaqueId = opaqueId)) :
    awaitResponse opaqueId timeout pending (before.map .ok ++ .ok response :: rest) =
      (.ok response, pending ++ before, rest) := by
  induction before generalizing pending with
  | nil => simp [awaitResponse, hresponse, hopaqueId]
  | cons frame before ih =>
    obtain ⟨hframe, hbefore⟩ := List.forall_mem_cons.1 hbefore
    have hskip : (frame.magic.isResponse && frame.opaqueId == opaqueId) = false := by
      simpa using hframe
    rw [List.map_cons, List.cons_append, awaitResponse, hskip]
    simp only [Bool.false_eq_true, ↓reduceIte]
    rw [ih (pending ++ [frame]) hbefore, List.append_assoc, List.singleton_append]

end KvConnection

end RustDcp
