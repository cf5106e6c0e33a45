import RustDcp.BootstrapOrder
import RustDcp.CodecReencode

namespace RustDcp
set_option autoImplicit true

open Dialogue KvLog

theorem HelloFeature.fromU16_eq_some {n : UInt16} {feature : HelloFeature} :
    fromU16 n = some feature ↔ n = feature.asU16 := by
  constructor
  · intro h
    rw [fromU16.eq_def] at h
    split at h <;> cases h <;> rfl
  · rintro rfl
    cases feature <;> rfl

namespace Command

theorem mem_chunks : chunk ∈ chunks width count bytes ↔
    ∃ i < count, chunk = FrameCodec.slice bytes (i * width) (i * width + width) := by
  induction count generalizing bytes with
  | zero => simp [chunks]
  | succ count ih =>
    rw [chunks, List.mem_cons, ih]
    constructor
    · rintro (rfl | ⟨i, hi, rfl⟩)
      · exact ⟨0, by omega, by simp [FrameCodec.slice]⟩
      · refine ⟨i + 1, by omega, ?_⟩
        simp [FrameCodec.slice, Nat.add_mul, Nat.add_comm]
    · rintro ⟨i, hi, rfl⟩
      cases i with
      | zero => exact .inl (by simp [FrameCodec.slice])
      | succ i =>
        refine .inr ⟨i, by omega, ?_⟩
        simp [FrameCodec.slice, Nat.add_mul, Nat.add_comm]

theorem readField_lt (width : Nat) (bytes : Bytes) (offset : Nat) :
    readField width bytes offset < 256 ^ width := by
  have hlength : (FrameCodec.slice bytes offset (offset + width)).length ≤ width := by
    simp [FrameCodec.slice]
  exact (bigEndian_lt _).trans_le (Nat.pow_le_pow_right (by omega) hlength)

theorem dcpControl_inj : dcpControl key value opaqueId = dcpControl key' value' opaqueId' ↔
    key = key' ∧ value = value' ∧ opaqueId = opaqueId' := by
  constructor
  · intro h
    have hkey : asBytes key = asBytes key' := congrArg Frame.key h
    have hvalue : asBytes value = asBytes value' := congrArg Frame.value h
    exact ⟨asBytes_injective hkey, asBytes_injective hvalue, congrArg Frame.opaqueId h⟩
  · rintro ⟨rfl, rfl, rfl⟩
    rfl

end Command

theorem parseHelloFeatures_eq_ok (h : parseHelloFeatures response = .ok features)
    (feature : HelloFeature) : feature ∈ features ↔
      ∃ i, 2 * i + 2 ≤ response.value.length ∧
        Command.readField 2 response.value (2 * i) = feature.asU16.toNat := by
  rw [parseHelloFeatures] at h
  split at h
  · cases h
  cases h
  rw [List.mem_toFinset, List.mem_filterMap]
  constructor
  · rintro ⟨chunk, hchunk, hfeature⟩
    obtain ⟨i, hi, rfl⟩ := Command.mem_chunks.1 hchunk
    rw [HelloFeature.fromU16_eq_some] at hfeature
    refine ⟨i, by omega, ?_⟩
    rw [← hfeature, Nat.mul_comm 2 i]
    exact (Nat.mod_eq_of_lt (Command.readField_lt 2 _ _)).symm
  · rintro ⟨i, hi, hfeature⟩
    refine ⟨_, Command.mem_chunks.2 ⟨i, by omega, rfl⟩, ?_⟩
    rw [HelloFeature.fromU16_eq_some, ← UInt16.toNat_inj, ← hfeature, Nat.mul_comm 2 i]
    exact Nat.mod_eq_of_lt (Command.readField_lt 2 _ _)

theorem negotiateControls_path
    (h : (negotiateControls connection config helloFeatures).Path log (.ok controls)) :
    (∀ control, control ∈ controls ↔ ∃ response, response.status = Status.success ∧
      (Command.dcpControl control.key "true" 0, .ok response) ∈ requests log) ∧
    (.streamId ∈ controls → .collections ∈ helloFeatures) ∧
    (.changeStreams ∈ controls → config.disableChangeStreams = false) := by
  obtain ⟨_, _, _, rfl, noopRun, h₁⟩ := path_bind_ok.1 h
  obtain ⟨_, _, _, rfl, intervalRun, h₂⟩ := path_bind_ok.1 h₁
  obtain ⟨_, _, _, rfl, priorityRun, h₃⟩ := path_bind_ok.1 h₂
  obtain ⟨changeStreams, _, _, rfl, changeRun, h₄⟩ := path_bind_ok.1 h₃
  obtain ⟨expiryOpcode, _, _, rfl, expiryRun, h₅⟩ := path_bind_ok.1 h₄
  obtain ⟨streamId, _, _, rfl, streamRun, h₆⟩ := path_bind_ok.1 h₅
  obtain ⟨_, _, _, rfl, bufferRun, h₇⟩ := path_bind_ok.1 h₆
  obtain ⟨streamEnd, _, _, rfl, endRun, h₈⟩ := path_bind_ok.1 h₇
  obtain ⟨rfl, hcontrols⟩ := path_pure.1 h₈
  cases hcontrols
  obtain ⟨noop, rfl⟩ := controlRequired_path noopRun
  obtain ⟨interval, rfl⟩ := controlRequired_path intervalRun
  obtain ⟨priority, rfl⟩ := controlRequired_path priorityRun
  obtain ⟨expiry, rfl, hexpiry⟩ := controlOptional_path expiryRun
  obtain ⟨buffer, rfl⟩ := controlRequired_path bufferRun
  obtain ⟨closing, rfl, hclosing⟩ := controlOptional_path endRun
  have hlisted : ∀ control, control ∈ ([(streamEnd, DcpControlFeature.streamEndOnClose),
      (changeStreams, .changeStreams), (expiryOpcode, .expiryOpcode),
      (streamId, .streamId)].filterMap
        fun entry => if entry.1 then some entry.2 else none).toFinset ↔
      streamEnd = true ∧ control = .streamEndOnClose ∨
      changeStreams = true ∧ control = .changeStreams ∨
      expiryOpcode = true ∧ control = .expiryOpcode ∨ streamId = true ∧ control = .streamId := by
    intro control
    cases control <;> simp
  refine ⟨?_, ?_, ?_⟩
  · intro control
    refine (hlisted control).trans ?_
    rcases controlIf_path changeRun with ⟨-, rfl, rfl⟩ | ⟨-, change, rfl, hchange⟩
    · rcases controlIf_path streamRun with ⟨-, rfl, rfl⟩ | ⟨-, stream, rfl, hstream⟩
      · cases control <;>
          simp [DcpControlFeature.key, Command.dcpControl_inj, hexpiry, hclosing]
      · cases control <;>
          simp [DcpControlFeature.key, Command.dcpControl_inj, hexpiry, hclosing, hstream]
    · rcases controlIf_path streamRun with ⟨-, rfl, rfl⟩ | ⟨-, stream, rfl, hstream⟩
      · cases control <;>
          simp [DcpControlFeature.key, Command.dcpControl_inj, hexpiry, hclosing, hchange]
      · cases control <;>
          simp [DcpControlFeature.key, Command.dcpControl_inj, hexpiry, hclosing, hchange, hstream]
  · intro hmem
    have hon : streamId = true := by simpa using (hlisted _).1 hmem
    rcases controlIf_path streamRun with ⟨-, -, rfl⟩ | ⟨hcollections, -⟩
    · cases hon
    · exact of_decide_eq_true hcollections
  · intro hmem
    have hon : changeStreams = true := by simpa using (hlisted _).1 hmem
    rcases controlIf_path changeRun with ⟨-, -, rfl⟩ | ⟨henabled, -⟩
    · cases hon
    · simpa using henabled

theorem negotiate_path
    (h : (negotiate crypto connection config clientName).Path log (.ok negotiated)) :
    ∃ response rest, log =
        ⟨.request connection.id (Command.hello clientName requestedHelloFeatures 0),
          .ok response⟩ ::
        ⟨.setCollectionsEnabled connection.id (decide (.collections ∈ negotiated.1)), ()⟩ ::
        ⟨.setSnappyEnabled connection.id
          (decide (.snappy ∈ negotiated.1 ∨ .snappyEverywhere ∈ negotiated.1)), ()⟩ :: rest ∧
      parseHelloFeatures response = .ok negotiated.1 := by
  obtain ⟨_, -, h₁⟩ := path_lift_bind_ok.1 h
  obtain ⟨_, -, h₂⟩ := path_lift_bind_ok.1 h₁
  obtain ⟨response, _, rest, rfl, -, h₃⟩ := Connection.path_checked_ok.1 h₂
  obtain ⟨helloFeatures, hfeatures, h₄⟩ := path_lift_bind_ok.1 h₃
  obtain ⟨_, rest, rfl, h₅⟩ := Connection.path_setCollectionsEnabled_bind.1 h₄
  obtain ⟨_, rest, rfl, h₆⟩ := Connection.path_setSnappyEnabled_bind.1 h₅
  obtain ⟨mechanism, first, second, rfl, -, hsecond⟩ := path_bind_ok.1 h₆
  obtain ⟨rfl, hsame⟩ := path_pure.1 hsecond
  cases hsame
  exact ⟨response, _, rfl, hfeatures⟩

/-- The capabilities of a bootstrapped connection are what the server granted in the exchange: the
known features of its HELLO response, by which the codec is set before anything else is read, and
the optional controls that it answered with success. -/
theorem bootstrapOnConnection_capabilities
    (h : (bootstrapOnConnection crypto connection config clientName connectionName).Path
      log (.ok session)) :
    session.connection = connection ∧
    (∃ response rest, log =
        ⟨.request connection.id (Command.hello clientName requestedHelloFeatures 0),
          .ok response⟩ ::
        ⟨.setCollectionsEnabled connection.id
          (decide (.collections ∈ session.capabilities.helloFeatures)), ()⟩ ::
        ⟨.setSnappyEnabled connection.id
          (decide (.snappy ∈ session.capabilities.helloFeatures ∨
            .snappyEverywhere ∈ session.capabilities.helloFeatures)), ()⟩ :: rest ∧
      ∀ feature, feature ∈ session.capabilities.helloFeatures ↔
        ∃ i, 2 * i + 2 ≤ response.value.length ∧
          Command.readField 2 response.value (2 * i) = feature.asU16.toNat) ∧
    (∃ response, (Command.dcpOpen connectionName
      (openFlags session.capabilities.helloFeatures) 0, .ok response) ∈ requests log) ∧
    (∀ control, control ∈ session.capabilities.dcpControls ↔ ∃ response,
      response.status = Status.success ∧
        (Command.dcpControl control.key "true" 0, .ok response) ∈ requests log) ∧
    (.streamId ∈ session.capabilities.dcpControls →
      .collections ∈ session.capabilities.helloFeatures) ∧
    (.changeStreams ∈ session.capabilities.dcpControls → config.disableChangeStreams = false) := by
  obtain ⟨_, -, h₁⟩ := path_lift_bind_ok.1 h
  obtain ⟨kv, kvLog, _, rfl, kvRun, h₂⟩ := path_bind_ok.1 h₁
  obtain ⟨response, _, controlLog, rfl, -, h₃⟩ := Connection.path_checked_ok.1 h₂
  obtain ⟨controls, controlLog, _, rfl, controlRun, hpure⟩ := path_bind_ok.1 h₃
  obtain ⟨rfl, hsession⟩ := path_pure.1 hpure
  obtain rfl := Except.ok.inj hsession
  obtain ⟨hcontrols, hstreamId, hchangeStreams⟩ := negotiateControls_path controlRun
  have hnone : ∀ {key value reply}, (Command.dcpControl key value 0, reply) ∉ requests kvLog :=
    fun hmem => absurd ((bootstrapKvOnConnection_staged crypto connection config
      clientName).ranked kvRun _ hmem).2 (Nat.not_lt.2 (by decide : 5 ≤ 6))
  have hopened : (Command.dcpOpen connectionName (openFlags kv.capabilities.helloFeatures) 0,
      .ok response) ∈ requests (kvLog ++ ⟨.request connection.id (Command.dcpOpen connectionName
        (openFlags kv.capabilities.helloFeatures) 0), .ok response⟩ :: (controlLog ++ [])) := by
    simp
  have hasked : ∀ {key reply}, (Command.dcpControl key "true" 0, reply) ∈
      requests (kvLog ++ ⟨.request connection.id (Command.dcpOpen connectionName
        (openFlags kv.capabilities.helloFeatures) 0), .ok response⟩ :: (controlLog ++ [])) ↔
      (Command.dcpControl key "true" 0, reply) ∈ requests controlLog := by
    intro key reply
    have hopcode : Command.dcpControl key "true" 0 ≠
        Command.dcpOpen connectionName (openFlags kv.capabilities.helloFeatures) 0 :=
      fun h => absurd (congrArg Frame.opcode h) (by decide : Opcode.dcpControl ≠ Opcode.dcpOpen)
    simp [hnone, hopcode]
  obtain ⟨negotiated, first, _, rfl, negotiation, h₄⟩ := path_bind_ok.1 kvRun
  obtain ⟨_, _, _, rfl, -, hpure⟩ := Connection.path_checked_ok.1 h₄
  obtain ⟨rfl, hkv⟩ := path_pure.1 hpure
  obtain rfl := Except.ok.inj hkv
  obtain ⟨hello, rest, rfl, hfeatures⟩ := negotiate_path negotiation
  refine ⟨rfl, ⟨hello, _, rfl, parseHelloFeatures_eq_ok hfeatures⟩, ⟨response, hopened⟩, ?_,
    hstreamId, hchangeStreams⟩
  intro control
  exact (hcontrols control).trans (exists_congr fun _ => and_congr_right fun _ => hasked.symm)

theorem bootstrapOnConnection_capabilities_granted :
    ∃ session, grantedRun.1 = .ok session ∧
      session.capabilities.helloFeatures = requestedHelloFeatures.toFinset ∧
      .streamId ∈ session.capabilities.dcpControls ∧
      .collections ∈ session.capabilities.helloFeatures := by
  have hgranted : grantedRun.1.toOption.map (·.capabilities) = some {
      helloFeatures := requestedHelloFeatures.toFinset
      saslMechanism := .plain
      dcpControls := {.streamEndOnClose, .changeStreams, .expiryOpcode, .streamId} } := by
    decide +kernel
  obtain ⟨session, hsession, hcapabilities⟩ := Option.map_eq_some_iff.1 hgranted
  have hok := toOption_eq_some.1 hsession
  have hpath := grantedRun_path
  rw [hok] at hpath
  have hstreamId : .streamId ∈ session.capabilities.dcpControls := by simp [hcapabilities]
  exact ⟨session, hok, by rw [hcapabilities], hstreamId,
    (bootstrapOnConnection_capabilities hpath).2.2.2.2.1 hstreamId⟩

end RustDcp
