/-
# Calls

A call works on a state, and it answers or fails. A failed call keeps what it
did to the state before it failed; undoing it is always somebody's explicit
step.
-/

import Transact.Error

namespace Transact

/-- A call on a state `σ`. -/
abbrev Call (σ α : Type) := ExceptT Error (StateM σ) α

namespace Call

variable {σ α : Type}

/-- A call from its effect on the state. -/
def of (effect : σ → Except Error α × σ) : Call σ α := effect

/-- Perform a call. -/
def run (call : Call σ α) (state : σ) : Except Error α × σ := call state

/-- An answer that is already known. -/
def ofExcept (result : Except Error α) : Call σ α := fun state => (result, state)

end Call

/-! Answers in a row -/

/-- Two answers in a row are given when the first is and the second is for it. -/
theorem Except.bind_eq_ok_iff {ε α β : Type} {first : Except ε α} {next : α → Except ε β}
    {value : β} :
    (first >>= next) = .ok value ↔ ∃ found, first = .ok found ∧ next found = .ok value := by
  cases first <;> simp [bind, Except.bind]

theorem Except.map_eq_ok_iff {ε α β : Type} {answer : Except ε α} {f : α → β} {value : β} :
    answer.map f = .ok value ↔ ∃ found, answer = .ok found ∧ f found = value := by
  cases answer <;> simp [Except.map]

theorem Except.isOk_iff {ε α : Type} {answer : Except ε α} :
    answer.isOk = true ↔ ∃ value, answer = .ok value := by
  cases answer <;> simp [Except.isOk, Except.toBool]

/-- Damaged bytes are an internal error. -/
def Error.ofInternal {α : Type} : Except InternalFault α → Except Error α
  | .ok value => .ok value
  | .error fault => .error (.internal fault)

end Transact
