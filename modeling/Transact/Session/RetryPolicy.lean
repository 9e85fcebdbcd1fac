/-
# Retry policies

How often a transaction that loses a conflict is run, and how long to wait
before it is run again: the first delay grows by a factor after every attempt,
up to a limit. Delays are reckoned in double precision and cut to whole
milliseconds.
-/

import Transact.Numeric.Binary

namespace Transact

/-- When to run a transaction again. -/
structure RetryPolicy where
  maxAttempts : UInt32 := 5
  initialBackoff : UInt64 := 20
  maxBackoff : UInt64 := 1000
  multiplier : Binary64 := .ofNat 2
  deriving DecidableEq

namespace RetryPolicy

/-- The policy used where none is given. -/
def default : RetryPolicy := {}

/-- Run the transaction once. -/
def noRetry : RetryPolicy := { maxAttempts := 1 }

/-- How often the transaction is run at most; it is always run once. -/
def attempts (policy : RetryPolicy) : Nat := Nat.max policy.maxAttempts.toNat 1

/-- A span of time in whole milliseconds, as a 64-bit word. -/
def milliseconds (seconds nanos : Nat) : UInt64 :=
  UInt64.ofNat (seconds * 1000 + nanos / 1000000)

/-- The milliseconds to wait after an attempt, counted from 1. -/
def backoff (policy : RetryPolicy) (attempt : Nat) : UInt64 :=
  let exponent := Nat.min (attempt - 1) 0x7FFFFFFF
  let growth := (policy.multiplier.max .one).pow exponent
  let delay := (Binary64.ofNat policy.initialBackoff.toNat).mul growth
  (delay.min (.ofNat policy.maxBackoff.toNat)).toUInt64

end RetryPolicy

end Transact
