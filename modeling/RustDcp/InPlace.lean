import RustDcp.Machine

namespace RustDcp.InPlace
set_option autoImplicit true

/-- A call that changes a state in place: what was written stays when it fails. -/
abbrev Call (ε σ : Type) := ExceptT ε (StateM σ)

def outcome (call : Call ε σ α) (s : σ) : Except ε α × σ := call.run.run s

def check (read : σ → Except ε α) : Call ε σ α := ExceptT.mk fun s => (read s, s)

/-- A call that fails in `s` has changed nothing. -/
def AllOrNothing (call : Call ε σ α) (s : σ) : Prop :=
  ∀ error after, outcome call s = (.error error, after) → after = s

theorem outcome_bind (call : Call ε σ α) (next : α → Call ε σ β) (s : σ) :
    outcome (call >>= next) s =
      match outcome call s with
      | (.ok value, after) => outcome (next value) after
      | (.error error, after) => (.error error, after) := by
  simp only [outcome, ExceptT.run_bind, StateT.run_bind]
  rcases call.run.run s with ⟨(error | value), after⟩
  · rfl
  · rfl

theorem outcome_check (read : σ → Except ε α) (s : σ) :
    outcome (check read) s = (read s, s) := rfl

theorem outcome_check_bind (read : σ → Except ε α) (next : α → Call ε σ β) (s : σ) :
    outcome (check read >>= next) s =
      match read s with
      | .ok value => outcome (next value) s
      | .error error => (.error error, s) := by
  rw [outcome_bind, outcome_check]
  cases read s with
  | ok value => rfl
  | error error => rfl

theorem outcome_modify_bind (write : σ → σ) (next : PUnit → Call ε σ β) (s : σ) :
    outcome (modify write >>= next) s = outcome (next ⟨⟩) (write s) := rfl

theorem outcome_pure (value : α) (s : σ) :
    outcome (pure value : Call ε σ α) s = (.ok value, s) := rfl

end RustDcp.InPlace
