/-
# Executors

What sessions need of a database: transactions that can be begun, read from,
written to in batches, and finished. A shared side `β` belongs to the database,
a scope `σ` to one transaction. Finishing takes the scope away whatever comes
of it.
-/

import Transact.Call
import Transact.Query.ResultSet
import Transact.Session.Context
import Transact.Statement.Basic

namespace Transact

/-- What all transactions share: the signals of contexts, and the database. -/
structure Environment (β : Type) where
  signals : Signals
  backend : β

/-- A database with transactions whose scope is `σ`. -/
class Executor (β : Type) (σ : outParam Type) where
  /-- Begin a transaction. -/
  begin : Context → Call (Environment β) σ
  /-- Run a query. -/
  read : Context → Statement → Call (σ × Environment β) ResultSet
  /-- Run statements in order, all or nothing, with one count for each. -/
  executeBatch : Context → List Statement → Call (σ × Environment β) (List Int)
  /-- Finish the transaction with its writes, if they are still valid. -/
  commit : Context → σ → Call (Environment β) Unit
  /-- Finish the transaction without its writes. -/
  abort : σ → Call (Environment β) Unit

end Transact
