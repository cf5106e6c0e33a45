import RustDcp.CodecRoundTrip

namespace RustDcp
set_option autoImplicit true

/-- The shortest ULEB128 encoding of a number, and what follows it: continuation bytes and a last
byte, which is zero only when it stands alone. -/
def MinimalUleb128 (key : Bytes) : Prop :=
  ∃ more last rest, key = more ++ last :: rest ∧ (∀ byte ∈ more, 0x80 ≤ byte) ∧ last < 0x80 ∧
    (more = [] ∨ last ≠ 0)

def uleb128Value (more : Bytes) (last : UInt8) : Nat :=
  match more with
  | [] => last.toNat
  | byte :: more => byte.toNat % 128 + 128 * uleb128Value more last

theorem uleb128Value_pos (h : last ≠ 0) (more : Bytes) : 0 < uleb128Value more last := by
  induction more with
  | nil =>
    rw [uleb128Value, Nat.pos_iff_ne_zero]
    intro hzero
    exact h (UInt8.toNat_inj.1 hzero)
  | cons byte more ih =>
    rw [uleb128Value]
    omega

theorem uleb128Value_zero_lt (more : Bytes) : uleb128Value more 0 < 128 ^ more.length := by
  induction more with
  | nil => exact Nat.one_pos
  | cons byte more ih =>
    rw [uleb128Value, List.length_cons, Nat.pow_succ]
    omega

theorem uleb128_more {byte : UInt8} (h : 0x80 ≤ byte) :
    (byte.toNat % 128).toUInt8 ||| 0x80 = byte ∧ byte &&& 0x80 ≠ 0 ∧
      (byte &&& 0x7f).toNat = byte.toNat % 128 := by
  revert byte
  decide +kernel

theorem uleb128_last {byte : UInt8} (h : byte < 0x80) :
    byte.toNat < 128 ∧ byte &&& 0x80 = 0 ∧ (byte &&& 0x7f).toNat = byte.toNat := by
  revert byte
  decide +kernel

theorem encodeUleb128_value (hmore : ∀ byte ∈ more, 0x80 ≤ byte) (hlast : last < 0x80)
    (hminimal : more = [] ∨ last ≠ 0) :
    encodeUleb128 (uleb128Value more last) = more ++ [last] := by
  induction more with
  | nil =>
    rw [uleb128Value, encodeUleb128_small (uleb128_last hlast).1]
    simp
  | cons byte more ih =>
    obtain ⟨hbyte, hmore⟩ := List.forall_mem_cons.1 hmore
    have hnonzero : last ≠ 0 := hminimal.resolve_left (by simp)
    have hpos := uleb128Value_pos hnonzero more
    have hmod : uleb128Value (byte :: more) last % 128 = byte.toNat % 128 := by
      rw [uleb128Value]
      omega
    have hdiv : uleb128Value (byte :: more) last / 128 = uleb128Value more last := by
      rw [uleb128Value]
      omega
    have hlarge : 128 ≤ uleb128Value (byte :: more) last := by
      rw [uleb128Value]
      omega
    rw [encodeUleb128_large hlarge, hmod, hdiv, (uleb128_more hbyte).1, ih hmore (.inr hnonzero)]
    rfl

theorem encodeUleb128_ne_nil (value : Nat) : encodeUleb128 value ≠ [] := by
  rw [encodeUleb128]
  split <;> simp

theorem encodeUleb128_last_ne_zero (hpos : 0 < value) (h : encodeUleb128 value = more ++ [last]) :
    last ≠ 0 := by
  induction value using Nat.strong_induction_on generalizing more with
  | h value ih =>
    by_cases hsmall : value < 128
    · rw [encodeUleb128_small hsmall] at h
      have hlast : value.toUInt8 = last := by
        simpa using congrArg List.getLast? h
      rw [← hlast, ← UInt8.toNat_inj.ne]
      simp
      omega
    · rw [encodeUleb128_large (by omega)] at h
      cases more with
      | nil => exact absurd (List.cons.inj h).2 (encodeUleb128_ne_nil _)
      | cons byte more => exact ih (value / 128) (by omega) (by omega) (List.cons.inj h).2

theorem decodeUleb128_last (hindex : index < 5) (hlow : low < 2 ^ (index * 7))
    (hbyte : byte < 0x80) :
    decodeUleb128 (byte :: source) index low = .ok (value, consumed) ↔
      value.toNat = low + byte.toNat * 2 ^ (index * 7) ∧ consumed = index + 1 := by
  obtain ⟨-, hend, hbits⟩ := uleb128_last hbyte
  rw [decodeUleb128, if_neg (Nat.not_le.2 hindex), hbits, uleb128_accumulate hlow]
  dsimp only
  rw [if_pos hend]
  constructor
  · intro h
    split at h
    · cases h
    rename_i hsmall
    cases h
    exact ⟨Nat.mod_eq_of_lt (Nat.lt_succ_of_le (Nat.not_lt.1 hsmall)), rfl⟩
  · rintro ⟨hvalue, rfl⟩
    have hfits := value.toNat_lt
    rw [← hvalue, if_neg (by simp only [u32Max]; omega), UInt32.ofNat_toNat]

theorem decodeUleb128_more (hindex : index < 5) (hlow : low < 2 ^ (index * 7))
    (hbyte : 0x80 ≤ byte) :
    decodeUleb128 (byte :: source) index low =
      decodeUleb128 source (index + 1) (low + byte.toNat % 128 * 2 ^ (index * 7)) := by
  obtain ⟨-, hcontinue, hbits⟩ := uleb128_more hbyte
  rw [decodeUleb128, if_neg (Nat.not_le.2 hindex), hbits, uleb128_accumulate hlow]
  dsimp only
  rw [if_neg hcontinue]

theorem uleb128Value_above (low index : Nat) (byte : UInt8) (more : Bytes) (last : UInt8) :
    low + uleb128Value (byte :: more) last * 2 ^ (index * 7) =
      low + byte.toNat % 128 * 2 ^ (index * 7) +
        uleb128Value more last * 2 ^ ((index + 1) * 7) := by
  rw [uleb128_pow_succ, uleb128Value]
  ring

theorem decodeUleb128_eq_ok (hlow : low < 2 ^ (index * 7)) :
    decodeUleb128 source index low = .ok (value, consumed) ↔
      ∃ more last rest, source = more ++ last :: rest ∧ (∀ byte ∈ more, 0x80 ≤ byte) ∧
        last < 0x80 ∧ index + more.length < 5 ∧ consumed = index + more.length + 1 ∧
        value.toNat = low + uleb128Value more last * 2 ^ (index * 7) := by
  induction source generalizing index low with
  | nil => simp [decodeUleb128]
  | cons byte source ih =>
    rcases Nat.lt_or_ge index 5 with hindex | hindex
    case inr =>
      rw [decodeUleb128, if_pos hindex]
      constructor
      · intro h
        cases h
      · rintro ⟨more, last, rest, -, -, -, hshort, -⟩
        omega
    by_cases hbyte : byte < 0x80
    · rw [decodeUleb128_last hindex hlow hbyte]
      constructor
      · rintro ⟨hvalue, rfl⟩
        exact ⟨[], byte, source, rfl, by simp, hbyte, by simpa using hindex, rfl, hvalue⟩
      · rintro ⟨more, last, rest, hsource, hmore, -, -, rfl, hvalue⟩
        cases more with
        | nil =>
          cases hsource
          exact ⟨hvalue, rfl⟩
        | cons first more =>
          cases hsource
          exact absurd hbyte (UInt8.not_lt.2 (hmore byte List.mem_cons_self))
    · rw [UInt8.not_lt] at hbyte
      have hnext := uleb128_low_lt hlow (Nat.mod_lt byte.toNat (by decide : 0 < 128))
      rw [decodeUleb128_more hindex hlow hbyte, ih hnext]
      constructor
      · rintro ⟨more, last, rest, rfl, hmore, hlast, hshort, rfl, hvalue⟩
        refine ⟨byte :: more, last, rest, rfl, List.forall_mem_cons.2 ⟨hbyte, hmore⟩, hlast, ?_,
          ?_, hvalue.trans (uleb128Value_above low index byte more last).symm⟩
        · rw [List.length_cons]
          omega
        · rw [List.length_cons]
          omega
      · rintro ⟨more, last, rest, hsource, hmore, hlast, hshort, rfl, hvalue⟩
        cases more with
        | nil =>
          cases hsource
          exact absurd hlast (UInt8.not_lt.2 hbyte)
        | cons first more =>
          cases hsource
          rw [List.length_cons] at hshort
          refine ⟨more, last, rest, rfl, (List.forall_mem_cons.1 hmore).2, hlast, by omega, ?_,
            hvalue.trans (uleb128Value_above low index byte more last)⟩
          rw [List.length_cons]
          omega

theorem decodeUleb128U32_eq_ok : decodeUleb128U32 source = .ok (value, consumed) ↔
    ∃ more last rest, source = more ++ last :: rest ∧ (∀ byte ∈ more, 0x80 ≤ byte) ∧
      last < 0x80 ∧ more.length < 5 ∧ consumed = more.length + 1 ∧
      value.toNat = uleb128Value more last := by
  have hloop : decodeUleb128 source 0 0 = .ok (value, consumed) ↔ _ :=
    decodeUleb128_eq_ok (by decide)
  simp only [Nat.zero_mul, Nat.pow_zero, Nat.mul_one, Nat.zero_add] at hloop
  rw [← hloop, decodeUleb128U32]
  cases source with
  | nil => simp [decodeUleb128]
  | cons byte source => simp

theorem takeWhile_digits (hmore : ∀ byte ∈ more, 0x80 ≤ byte) (hlast : last < 0x80)
    (rest : Bytes) : (more ++ last :: rest).takeWhile (0x80 ≤ ·) = more := by
  rw [List.takeWhile_append_of_pos (by simpa using hmore), List.takeWhile_cons_of_neg,
    List.append_nil]
  simpa using hlast

theorem encodeUleb128U32_of_digits (hmore : ∀ byte ∈ more, 0x80 ≤ byte) (hlast : last < 0x80)
    (hminimal : more = [] ∨ last ≠ 0) (hvalue : value.toNat = uleb128Value more last) :
    encodeUleb128U32 value = more ++ [last] := by
  rw [encodeUleb128U32, hvalue, encodeUleb128_value hmore hlast hminimal]

theorem encodeUleb128U32_decode (hminimal : MinimalUleb128 key)
    (h : decodeUleb128U32 key = .ok (value, consumed)) :
    encodeUleb128U32 value ++ key.drop consumed = key := by
  obtain ⟨more, last, rest, rfl, hmore, hlast, hshort⟩ := hminimal
  obtain ⟨more', last', rest', hsame, hmore', hlast', -, rfl, hvalue⟩ := decodeUleb128U32_eq_ok.1 h
  obtain rfl : more = more' := by
    rw [← takeWhile_digits hmore hlast rest, hsame, takeWhile_digits hmore' hlast']
  obtain ⟨rfl, rfl⟩ := List.cons.inj (List.append_cancel_left hsame)
  rw [encodeUleb128U32_of_digits hmore hlast hshort hvalue, List.append_assoc]
  congr 1
  rw [List.drop_append]
  simp

/-- At least two digits, of which the last is zero, in what the decoder reads. -/
def PaddedUleb128 (source : Bytes) : Prop :=
  let more := source.takeWhile (0x80 ≤ ·)
  more ≠ [] ∧ more.length < 5 ∧ source[more.length]? = some 0

instance : DecidablePred PaddedUleb128 := fun _ =>
  inferInstanceAs (Decidable (_ ∧ _ ∧ _))

theorem PaddedUleb128.of_digits (hmore : ∀ byte ∈ more, 0x80 ≤ byte) (hsome : more ≠ [])
    (hshort : more.length < 5) (rest : Bytes) : PaddedUleb128 (more ++ 0 :: rest) := by
  rw [PaddedUleb128, takeWhile_digits hmore (by decide)]
  exact ⟨hsome, hshort, by simp⟩

theorem PaddedUleb128.digits (h : PaddedUleb128 source) :
    ∃ more rest, source = more ++ 0 :: rest ∧ (∀ byte ∈ more, 0x80 ≤ byte) ∧ more ≠ [] ∧
      more.length < 5 := by
  obtain ⟨hsome, hshort, hzero⟩ := h
  obtain ⟨rest, hrest⟩ := source.takeWhile_prefix (0x80 ≤ ·)
  have hmore : ∀ byte ∈ source.takeWhile (0x80 ≤ ·), 0x80 ≤ byte := by
    intro byte hbyte
    simpa using List.mem_takeWhile_imp hbyte
  generalize source.takeWhile (0x80 ≤ ·) = more at *
  subst hrest
  rw [List.getElem?_append_right le_rfl, Nat.sub_self] at hzero
  cases rest with
  | nil => cases hzero
  | cons last rest =>
    cases hzero
    exact ⟨more, rest, rfl, hmore, hsome, hshort⟩

theorem take_eq_encodeUleb128U32 (hpadded : ¬ PaddedUleb128 source)
    (h : decodeUleb128U32 source = .ok (value, consumed)) :
    consumed ≤ source.length ∧ source.take consumed = encodeUleb128U32 value := by
  obtain ⟨more, last, rest, rfl, hmore, hlast, hshort, rfl, hvalue⟩ := decodeUleb128U32_eq_ok.1 h
  have hminimal : more = [] ∨ last ≠ 0 := by
    by_contra hpadding
    rw [not_or, not_not] at hpadding
    obtain ⟨hsome, rfl⟩ := hpadding
    exact hpadded (.of_digits hmore hsome hshort rest)
  rw [encodeUleb128U32_of_digits hmore hlast hminimal hvalue]
  exact ⟨by simp, by simp [List.take_append]⟩

theorem PaddedUleb128.accepted (h : PaddedUleb128 source) :
    ∃ value consumed, decodeUleb128U32 source = .ok (value, consumed) ∧
      source.take consumed ≠ encodeUleb128U32 value := by
  obtain ⟨more, rest, rfl, hmore, hsome, hshort⟩ := h.digits
  have hfits : uleb128Value more 0 < 2 ^ 32 := by
    have hpow : 128 ^ more.length ≤ 128 ^ 4 := Nat.pow_le_pow_right (by decide) (by omega)
    have := uleb128Value_zero_lt more
    omega
  refine ⟨UInt32.ofNat (uleb128Value more 0), more.length + 1, ?_, ?_⟩
  · exact decodeUleb128U32_eq_ok.2 ⟨more, 0, rest, rfl, hmore, by decide, hshort, rfl,
      Nat.mod_eq_of_lt hfits⟩
  · have htake : (more ++ 0 :: rest).take (more.length + 1) = more ++ [0] := by
      simp [List.take_append]
    rw [htake, encodeUleb128U32, UInt32.toNat_ofNat_of_lt' hfits]
    intro hencoded
    rcases Nat.eq_zero_or_pos (uleb128Value more 0) with hzero | hpos
    · rw [hzero, encodeUleb128_small (by decide)] at hencoded
      exact hsome (by simpa using congrArg List.length hencoded)
    · exact encodeUleb128_last_ne_zero hpos hencoded.symm rfl

/-- The decoder is the inverse of the encoder exactly on the inputs without padding. -/
theorem decodeUleb128U32_canonical_iff (source : Bytes) :
    ((∀ value consumed, decodeUleb128U32 source = .ok (value, consumed) ↔
        consumed ≤ source.length ∧ source.take consumed = encodeUleb128U32 value) ↔
      ¬ PaddedUleb128 source) ∧
    ∀ other value consumed consumed', ¬ PaddedUleb128 source → ¬ PaddedUleb128 other →
      decodeUleb128U32 source = .ok (value, consumed) →
      decodeUleb128U32 other = .ok (value, consumed') →
      source.take consumed = other.take consumed' := by
  refine ⟨⟨?_, ?_⟩, ?_⟩
  · intro hcanonical hpadded
    obtain ⟨value, consumed, hdecode, hne⟩ := hpadded.accepted
    exact hne ((hcanonical value consumed).1 hdecode).2
  · intro hpadded value consumed
    refine ⟨take_eq_encodeUleb128U32 hpadded, ?_⟩
    rintro ⟨hle, htake⟩
    have hlength := congrArg List.length htake
    rw [List.length_take, Nat.min_eq_left hle] at hlength
    rw [← List.take_append_drop consumed source, htake, decodeUleb128U32_encode, ← hlength]
  · intro other value consumed consumed' hpadded hother hdecode hdecode'
    rw [(take_eq_encodeUleb128U32 hpadded hdecode).2, (take_eq_encodeUleb128U32 hother hdecode').2]

theorem decodeUleb128U32_canonical_iff_minimal :
    ¬ PaddedUleb128 [0x80, 0x01] ∧
      ∀ value consumed, decodeUleb128U32 [0x80, 0x01] = .ok (value, consumed) ↔
        consumed ≤ [0x80, (0x01 : UInt8)].length ∧
          [0x80, 0x01].take consumed = encodeUleb128U32 value :=
  ⟨by decide, (decodeUleb128U32_canonical_iff [0x80, 0x01]).1.2 (by decide)⟩

/-- Collection 0 has the encodings `00` and `80 00`. -/
theorem decodeUleb128U32_padded :
    decodeUleb128U32 [0x80, 0x00] = .ok (0, 2) ∧ decodeUleb128U32 [0x00] = .ok (0, 1) ∧
      encodeUleb128U32 0 = [0x00] := by
  decide +kernel

end RustDcp
