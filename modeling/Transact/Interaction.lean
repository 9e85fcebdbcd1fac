/-
# Interactions

An interaction is a finite program that makes calls: it is done, or it makes a
call and goes on as the answer says. What a call does is not part of it. The
handlers of statements and the clients of a session are interactions, so a
fact about every handler or every client is a fact about every value of this
type, and it is proved by induction on it.
-/

import Transact.Bytes

namespace Transact

/-- A program that makes calls, each answered in the type that belongs to it. -/
inductive Interaction (Call : Type) (Answer : Call → Type) (α : Type) where
  | done (result : α)
  | call (request : Call) (next : Answer request → Interaction Call Answer α)

namespace Interaction

variable {Call : Type} {Answer : Call → Type} {α β σ : Type}

/-- Go on with another interaction once the first is done. -/
def bind (first : Interaction Call Answer α) (next : α → Interaction Call Answer β) :
    Interaction Call Answer β :=
  match first with
  | .done result => next result
  | .call request rest => .call request fun answer => (rest answer).bind next

instance : Monad (Interaction Call Answer) where
  pure := .done
  bind := bind

/-- Make one call and be done with its answer. -/
def ask (request : Call) : Interaction Call Answer (Answer request) :=
  .call request .done

/-- Perform an interaction on a state, given what each call does to it. -/
def run (perform : (request : Call) → σ → Answer request × σ) :
    Interaction Call Answer α → σ → α × σ
  | .done result, state => (result, state)
  | .call request next, state =>
    (next (perform request state).1).run perform (perform request state).2

/-- Whether every call that the interaction can make, whatever it is answered, is of a kind. -/
def All (kind : Call → Prop) : Interaction Call Answer α → Prop
  | .done _ => True
  | .call request next => kind request ∧ ∀ answer, (next answer).All kind

/-- Performing two interactions in a row threads the state through both. -/
theorem run_bind (perform : (request : Call) → σ → Answer request × σ)
    (first : Interaction Call Answer α) (next : α → Interaction Call Answer β) (state : σ) :
    (first.bind next).run perform state =
      (next (first.run perform state).1).run perform (first.run perform state).2 := by
  induction first generalizing state with
  | done result => rfl
  | call request rest ih => exact ih _ _

end Interaction

end Transact
