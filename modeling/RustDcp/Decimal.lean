namespace RustDcp.Decimal
set_option autoImplicit true

inductive ParseIntError where
  | empty
  | invalidDigit
  | posOverflow
  deriving DecidableEq

def ParseIntError.toString : ParseIntError → String
  | .empty => "cannot parse integer from empty string"
  | .invalidDigit => "invalid digit found in string"
  | .posOverflow => "number too large to fit in target type"

/-- The digits that follow those of `n`, in a type with the largest value `bound`. -/
def parseDigits (bound : Nat) : Nat → List Char → Except ParseIntError Nat
  | n, [] => .ok n
  | n, c :: rest =>
    if ¬c.isDigit then .error .invalidDigit
    else if 10 * n + (c.toNat - '0'.toNat) > bound then .error .posOverflow
    else parseDigits bound (10 * n + (c.toNat - '0'.toNat)) rest

def parse (bound : Nat) : List Char → Except ParseIntError Nat
  | [] => .error .empty
  | ['+'] => .error .invalidDigit
  | '+' :: digits => parseDigits bound 0 digits
  | digits => parseDigits bound 0 digits

theorem parseDigits_eq_ok (hdigits : ∀ c ∈ text, c.isDigit = true)
    (hle : Nat.ofDigitChars 10 text n ≤ bound) :
    parseDigits bound n text = .ok (Nat.ofDigitChars 10 text n) := by
  induction text generalizing n with
  | nil => rw [parseDigits, Nat.ofDigitChars_nil]
  | cons c text ih =>
    obtain ⟨hc, hdigits⟩ := List.forall_mem_cons.1 hdigits
    rw [Nat.ofDigitChars_cons] at hle ⊢
    -- The value only grows with further digits.
    have hgrows : 10 * n + (c.toNat - '0'.toNat) ≤
        10 ^ text.length * (10 * n + (c.toNat - '0'.toNat)) :=
      Nat.le_mul_of_pos_left _ (Nat.pow_pos (by decide))
    have hvalue := hle
    rw [Nat.ofDigitChars_eq_ofDigitChars_zero] at hvalue
    rw [parseDigits, if_neg (by simp [hc]), if_neg (by omega)]
    exact ih hdigits hle

theorem parse_toDigits (h : n ≤ bound) : parse bound (Nat.toDigits 10 n) = .ok n := by
  have hdigits : ∀ c ∈ Nat.toDigits 10 n, c.isDigit = true := by
    intro c hc
    exact Nat.isDigit_of_mem_toDigits (by decide) (by decide) hc
  have hvalue : Nat.ofDigitChars 10 (Nat.toDigits 10 n) 0 = n := Nat.ofDigitChars_ten_toDigits
  have hparse : parse bound (Nat.toDigits 10 n) = parseDigits bound 0 (Nat.toDigits 10 n) := by
    rw [parse.eq_def]
    split
    · rename_i hnil
      exact absurd hnil Nat.toDigits_ne_nil
    · rename_i hplus
      exact absurd (hdigits '+' (by rw [hplus]; exact List.mem_cons_self)) (by decide)
    · rename_i hplus
      exact absurd (hdigits '+' (by rw [hplus]; exact List.mem_cons_self)) (by decide)
    · rfl
  rw [hparse, parseDigits_eq_ok hdigits (by rwa [hvalue]), hvalue]

theorem toString_toList (n : Nat) : (toString n).toList = Nat.toDigits 10 n := by
  rw [Nat.toString_eq_repr, Nat.toList_repr]

theorem parse_toString (h : n ≤ bound) : parse bound (toString n).toList = .ok n := by
  rw [toString_toList, parse_toDigits h]

theorem parseDigits_le (h : parseDigits bound n text = .ok m) (hn : n ≤ bound) : m ≤ bound := by
  induction text generalizing n with
  | nil =>
    cases h
    exact hn
  | cons c text ih =>
    rw [parseDigits] at h
    split at h
    · cases h
    split at h
    · cases h
    · exact ih h (by omega)

theorem parse_le (h : parse bound text = .ok n) : n ≤ bound := by
  rw [parse.eq_def] at h
  split at h
  · cases h
  · cases h
  · exact parseDigits_le h (Nat.zero_le _)
  · exact parseDigits_le h (Nat.zero_le _)

end RustDcp.Decimal
