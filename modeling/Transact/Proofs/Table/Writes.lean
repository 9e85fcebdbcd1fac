/-
# Row writes

A row write is a row key with what is written under it. The row writes of a
handler are read off its calls and their answers: putting a row writes it,
inserting writes it unless that fails, and deleting writes only where there was
a row. Running a handler adds exactly these writes to the buffer of its
transaction, in their order, and does not move the transaction's snapshot.
-/

import Transact.Proofs.Interaction
import Transact.Table.Handler

namespace Transact

namespace Table

/-- A row key with what is written under it: a stored row, or nothing for a removal. -/
abbrev RowWrite := Bytes × Option Bytes

end Table

/-- A buffer after more row writes; of two writes under one key the later one stands. -/
def Mvcc.Writes.addAll (buffer : Writes) (writes : List Table.RowWrite) : Writes :=
  writes.foldl (fun buffer write => buffer.insert write.1 write.2) buffer

@[simp] theorem Mvcc.Writes.addAll_nil (buffer : Writes) : buffer.addAll [] = buffer := rfl

@[simp] theorem Mvcc.Writes.addAll_append (buffer : Writes) (writes more : List Table.RowWrite) :
    buffer.addAll (writes ++ more) = (buffer.addAll writes).addAll more :=
  List.foldl_append

namespace Table

/-- What a call on the tables writes, as its answer shows. -/
def Request.writes : (request : Request) → request.Answer → List RowWrite
  | .put table key row, .ok () => [(rowKey table key, some (Record.rowField row))]
  | .insert table key row, .ok () => [(rowKey table key, some (Record.rowField row))]
  | .delete table key, .ok true => [(rowKey table key, none)]
  | _, _ => []

/-- What a call writes that finds a site. -/
def writesAt (store : Store) (call : Site × Request) : List RowWrite :=
  call.2.writes (perform store call.2 call.1).1

/-- The row writes of a handler, in the order of its calls. -/
def Handler.rowWrites {α : Type} (store : Store) (handler : Handler α) (site : Site) :
    List RowWrite :=
  (Interaction.trace (Table.perform store) handler site).flatMap (writesAt store)

/-- Reading a row changes neither the buffer nor the snapshot. -/
theorem get_keeps (store : Store) (table : String) (key : List Value) (txn : Mvcc.Transaction) :
    (get store table key txn).2.writes = txn.writes ∧
      (get store table key txn).2.snapshot = txn.snapshot := by
  show (txn.noteRead (rowKey table key)).writes = _ ∧
    (txn.noteRead (rowKey table key)).snapshot = _
  unfold Mvcc.Transaction.noteRead
  split <;> exact ⟨rfl, rfl⟩

/-- A call on the tables adds what it writes to the buffer, and keeps the snapshot. -/
theorem perform_adds (store : Store) (request : Request) (site : Site) :
    (perform store request site).2.1.writes =
        Mvcc.Writes.addAll site.1.writes (writesAt store (site, request)) ∧
      (perform store request site).2.1.snapshot = site.1.snapshot := by
  obtain ⟨txn, signals⟩ := site
  cases request with
  | get table key => exact get_keeps store table key txn
  | put table key row => exact ⟨rfl, rfl⟩
  | scan table => exact ⟨rfl, rfl⟩
  | findContext name => exact ⟨rfl, rfl⟩
  | cancel context => exact ⟨rfl, rfl⟩
  | insert table key row =>
      obtain ⟨hwrites, hsnapshot⟩ := get_keeps store table key txn
      simp only [writesAt, perform, onTables, insert, Call.run, Call.of]
      rcases hget : get store table key txn with ⟨⟨⟩ | ⟨⟨⟩ | row⟩, after⟩ <;>
        rw [hget] at hwrites hsnapshot
      · exact ⟨hwrites, hsnapshot⟩
      · exact ⟨congrArg (OrderedMap.insert · _ (some _)) hwrites, hsnapshot⟩
      · exact ⟨hwrites, hsnapshot⟩
  | delete table key =>
      obtain ⟨hwrites, hsnapshot⟩ := get_keeps store table key txn
      simp only [writesAt, perform, onTables, delete, Call.run, Call.of]
      rcases hget : get store table key txn with ⟨⟨⟩ | ⟨⟨⟩ | row⟩, after⟩ <;>
        rw [hget] at hwrites hsnapshot
      · exact ⟨hwrites, hsnapshot⟩
      · exact ⟨hwrites, hsnapshot⟩
      · exact ⟨congrArg (OrderedMap.insert · _ none) hwrites, hsnapshot⟩

/-- Running a handler adds its row writes to the buffer, and keeps the snapshot. -/
theorem Handler.perform_adds {α : Type} (store : Store) (handler : Handler α) (site : Site) :
    ((handler.perform store).run site).2.1.writes =
        Mvcc.Writes.addAll site.1.writes (handler.rowWrites store site) ∧
      ((handler.perform store).run site).2.1.snapshot = site.1.snapshot := by
  have hstep (past : List (Site × Request)) (found : Site) (request : Request) (_ : True)
      (h : found.1.writes = Mvcc.Writes.addAll site.1.writes (past.flatMap (writesAt store)) ∧
        found.1.snapshot = site.1.snapshot) :
      (Table.perform store request found).2.1.writes =
          Mvcc.Writes.addAll site.1.writes ((past ++ [(found, request)]).flatMap (writesAt store)) ∧
        (Table.perform store request found).2.1.snapshot = site.1.snapshot := by
    obtain ⟨hwrites, hsnapshot⟩ := Table.perform_adds store request found
    refine ⟨?_, hsnapshot.trans h.2⟩
    rw [hwrites, h.1, List.flatMap_append, List.flatMap_singleton, Mvcc.Writes.addAll_append]
  exact Interaction.run_induction (.of_forall (fun _ => trivial) handler) ⟨rfl, rfl⟩ hstep

end Table

end Transact
