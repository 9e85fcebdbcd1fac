/-
# Contexts and cancellation

A context listens to its own signal and to those of all contexts that it was
derived from. Copies of a context are the same context; a child can be
cancelled without its parent. A signal that has been given is never taken back.
Contexts may be registered under names, so that handlers can reach them.
-/

import Transact.Error
import Transact.OrderedMap

namespace Transact

/-- What a call listens to while it runs: its own signal and its ancestors'. -/
structure Context where
  own : Nat
  ancestors : List Nat
  deriving DecidableEq, Repr

/-- The signals that have been given, the number of the next new one, and the contexts that
are registered under a name. -/
structure Signals where
  given : OrderedSet Nat
  next : Nat
  named : OrderedMap String Context

namespace Signals

/-- No context exists yet. -/
def initial : Signals := ⟨.empty, 0, .empty⟩

/-- A new context that listens to no other. -/
def newContext (signals : Signals) : Context × Signals :=
  (⟨signals.next, []⟩, { signals with next := signals.next + 1 })

/-- A new context that is cancelled along with another. -/
def childContext (signals : Signals) (parent : Context) : Context × Signals :=
  (⟨signals.next, parent.own :: parent.ancestors⟩, { signals with next := signals.next + 1 })

/-- Give a context's own signal. -/
def cancel (signals : Signals) (context : Context) : Signals :=
  { signals with given := signals.given.insert context.own () }

/-- Whether a context has been cancelled. -/
def isCancelled (signals : Signals) (context : Context) : Bool :=
  (context.own :: context.ancestors).any signals.given.contains

/-- Fail if a context has been cancelled. -/
def check (signals : Signals) (context : Context) : Except Error Unit :=
  if signals.isCancelled context then .error .cancelled else .ok ()

/-- Register a context under a name, in place of any other. -/
def register (signals : Signals) (name : String) (context : Context) : Signals :=
  { signals with named := signals.named.insert name context }

/-- Cancel the context of a name; without one, nothing happens. -/
def cancelNamed (signals : Signals) (name : String) : Signals :=
  match signals.named.get? name with
  | some context => signals.cancel context
  | none => signals

end Signals

end Transact
