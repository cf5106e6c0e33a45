import Mathlib.Data.List.Basic

namespace RustDcp
set_option autoImplicit true

/-- A decoder of a growing buffer. It returns a value, waits for more input or fails, and leaves the
rest of the buffer. -/
structure Incremental (α ε β : Type) where
  decode : List α → Except ε (Option β) × List α
  /-- Waiting for more input takes none. -/
  waits : decode buffer = (.ok none, rest) → rest = buffer
  /-- A value takes some input. -/
  consumes : decode buffer = (.ok (some b), rest) → rest.length < buffer.length
  /-- An answer does not change when more input comes. -/
  settles : decode buffer = (answer, rest) → answer ≠ .ok none →
    ∀ later, decode (buffer ++ later) = (answer, rest ++ later)

namespace Incremental

/-- The values decoded up to the end of the input or to the first error, and the input left. -/
structure Output (α ε β : Type) where
  values : List β
  error : Option ε
  rest : List α

def Output.push (b : β) (output : Output α ε β) : Output α ε β :=
  { output with values := b :: output.values }

def drain (self : Incremental α ε β) (buffer : List α) : Output α ε β :=
  match _h : self.decode buffer with
  | (.ok none, rest) => { values := [], error := none, rest }
  | (.error error, rest) => { values := [], error := some error, rest }
  | (.ok (some b), rest) => (self.drain rest).push b
termination_by buffer.length
decreasing_by exact self.consumes _h

/-- Appends the chunks one at a time and drains the buffer after each, up to the first error. -/
def feed (self : Incremental α ε β) (buffer : List α) : List (List α) → Output α ε β
  | [] => { values := [], error := none, rest := buffer }
  | chunk :: chunks =>
    let output := self.drain (buffer ++ chunk)
    match output.error with
    | some _ => { output with rest := output.rest ++ chunks.flatten }
    | none =>
      let later := self.feed output.rest chunks
      { later with values := output.values ++ later.values }

variable {self : Incremental α ε β}

theorem drain_of_waits (h : self.decode buffer = (.ok none, rest)) :
    self.drain buffer = { values := [], error := none, rest } := by
  rw [drain]
  split
  · rename_i heq
    cases h.symm.trans heq
    rfl
  · rename_i heq
    cases h.symm.trans heq
  · rename_i heq
    cases h.symm.trans heq

theorem drain_of_error (h : self.decode buffer = (.error error, rest)) :
    self.drain buffer = { values := [], error := some error, rest } := by
  rw [drain]
  split
  · rename_i heq
    cases h.symm.trans heq
  · rename_i heq
    cases h.symm.trans heq
    rfl
  · rename_i heq
    cases h.symm.trans heq

theorem drain_of_value (h : self.decode buffer = (.ok (some b), rest)) :
    self.drain buffer = (self.drain rest).push b := by
  rw [drain]
  split
  · rename_i heq
    cases h.symm.trans heq
  · rename_i heq
    cases h.symm.trans heq
  · rename_i heq
    cases h.symm.trans heq
    rfl

theorem drain_waits (self : Incremental α ε β) (buffer : List α)
    (h : (self.drain buffer).error = none) :
    self.decode (self.drain buffer).rest = (.ok none, (self.drain buffer).rest) := by
  fun_induction drain self buffer with
  | case1 buffer rest heq =>
    cases self.waits heq
    exact heq
  | case2 buffer error rest heq => cases h
  | case3 buffer b rest heq ih => exact ih h

theorem drain_append_of_error (self : Incremental α ε β) (buffer later : List α)
    (h : (self.drain buffer).error = some error) :
    self.drain (buffer ++ later) =
      { self.drain buffer with rest := (self.drain buffer).rest ++ later } := by
  fun_induction drain self buffer with
  | case1 buffer rest heq => cases h
  | case2 buffer error rest heq =>
    exact drain_of_error (self.settles heq (by simp) later)
  | case3 buffer b rest heq ih =>
    rw [drain_of_value (self.settles heq (by simp) later), ih h]
    rfl

/-- Input that comes after a drain is decoded together with what the drain left. -/
theorem drain_append_of_waits (self : Incremental α ε β) (buffer later : List α)
    (h : (self.drain buffer).error = none) :
    self.drain (buffer ++ later) =
      { self.drain ((self.drain buffer).rest ++ later) with
        values := (self.drain buffer).values ++
          (self.drain ((self.drain buffer).rest ++ later)).values } := by
  fun_induction drain self buffer with
  | case1 buffer rest heq =>
    cases self.waits heq
    rfl
  | case2 buffer error rest heq => cases h
  | case3 buffer b rest heq ih =>
    rw [drain_of_value (self.settles heq (by simp) later), ih h]
    rfl

theorem feed_eq_drain (self : Incremental α ε β) (chunks : List (List α))
    (h : self.decode buffer = (.ok none, buffer)) :
    self.feed buffer chunks = self.drain (buffer ++ chunks.flatten) := by
  induction chunks generalizing buffer with
  | nil => rw [List.flatten_nil, List.append_nil, drain_of_waits h, feed]
  | cons chunk chunks ih =>
    rw [feed, List.flatten_cons, ← List.append_assoc]
    cases herror : (self.drain (buffer ++ chunk)).error with
    | some error => simp only [drain_append_of_error self _ _ herror, herror]
    | none =>
      rw [drain_append_of_waits self _ _ herror]
      simp only [ih (drain_waits self _ herror)]

end Incremental

end RustDcp
