/-
# Transactions one after the other

A serial replay needs no versions and no snapshots. A table maps keys to
values; a transaction works on it alone, with a buffer and the checkpoints that
it has taken, and its commit applies the buffer. What a transaction of a run did
is read off the history, and so is what its reads answered, so that the two can
be compared.
-/

import Transact.Proofs.Mvcc.Chain
import Transact.Proofs.Mvcc.History

namespace Transact.Mvcc

/-- What a transaction does before it finishes; a label stands for a checkpoint. -/
inductive Operation where
  | get (key : Bytes)
  | scanPrefix (start : Bytes)
  | set (key value : Bytes)
  | delete (key : Bytes)
  | checkpoint (label : Nat)
  | restore (label : Nat)
  deriving DecidableEq, Repr

/-- A plain table of values. -/
abbrev Table := OrderedMap Bytes Bytes

/-- A table with buffered writes applied to it. -/
def overlay (table : Table) (writes : Writes) : Table :=
  writes.entries.foldl (fun table write => Transaction.applyWrite table write.1 write.2) table

/-- The table that commits leave behind, one after the other. -/
def tableOf (commits : List (Nat × Writes)) : Table :=
  commits.foldl (fun table commit => overlay table commit.2) .empty

/-- The state of a transaction that works alone: its buffer and its checkpoints. -/
structure Replay where
  writes : Writes
  saved : OrderedMap Nat Writes

namespace Replay

def initial : Replay := ⟨.empty, .empty⟩

/-- What an operation does to the state. -/
def next (replay : Replay) : Operation → Replay
  | .get _ | .scanPrefix _ => replay
  | .set key value => { replay with writes := replay.writes.insert key (some value) }
  | .delete key => { replay with writes := replay.writes.insert key none }
  | .checkpoint label => { replay with saved := replay.saved.insert label replay.writes }
  | .restore label => { replay with writes := (replay.saved.get? label).getD replay.writes }

/-- What a read answers on a table; nothing else does. -/
def answer (replay : Replay) (table : Table) : Operation → Option Run.Answer
  | .get key => some (.value ((overlay table replay.writes).get? key))
  | .scanPrefix start =>
    some (.entries ((overlay table replay.writes).entries.filter fun entry =>
      start.isPrefixOf entry.1))
  | _ => none

/-- The state after some operations. -/
def after (replay : Replay) (program : List Operation) : Replay := program.foldl next replay

/-- What the reads among some operations answer on a table. -/
def answers (replay : Replay) (table : Table) : List Operation → List Run.Answer
  | [] => []
  | operation :: rest =>
    (replay.answer table operation).toList ++ (replay.next operation).answers table rest

end Replay

/-- Replay whole transactions on a table, one after the other: what the reads of each answer, and
the table at the end. -/
def serial (table : Table) : List (List Operation) → List (List Run.Answer) × Table
  | [] => ([], table)
  | program :: rest =>
    let (answers, final) := serial (overlay table (Replay.initial.after program).writes) rest
    (Replay.initial.answers table program :: answers, final)

/-! ## Transactions of a history -/

namespace Event

/-- What a transaction did, if its step did not finish it. -/
def operation? (event : Event) : Option Operation :=
  match event.step, event.answer with
  | .get _ key, _ => some (.get key)
  | .scanPrefix _ start, _ => some (.scanPrefix start)
  | .set _ key value, _ => some (.set key value)
  | .delete _ key, _ => some (.delete key)
  | .checkpoint _, .ok (.checkpoint label) => some (.checkpoint label)
  | .restore _ label, _ => some (.restore label)
  | _, _ => none

/-- What a read answered. -/
def readAnswer? (event : Event) : Option (Except Error Run.Answer) :=
  match event.step with
  | .get _ _ | .scanPrefix _ _ => some event.answer
  | _ => none

/-- The transaction that took a checkpoint, with its label. -/
def taken? (event : Event) : Option (Nat × Nat) :=
  match event.step, event.answer with
  | .checkpoint number, .ok (.checkpoint label) => some (number, label)
  | _, _ => none

/-- The transaction that went back to a checkpoint, with its label. -/
def restored? (event : Event) : Option (Nat × Nat) :=
  match event.step with
  | .restore number label => some (number, label)
  | _ => none

end Event

namespace History

/-- What a transaction did, in its order. -/
def program (past : History) (number : Nat) : List Operation :=
  past.filterMap fun event =>
    if event.step.actor? = some number then event.operation? else none

/-- What the reads of a transaction answered, in its order. -/
def answers (past : History) (number : Nat) : List (Except Error Run.Answer) :=
  past.filterMap fun event =>
    if event.step.actor? = some number then event.readAnswer? else none

/-- The state that a transaction of a history has when it works alone. -/
def replayed (past : History) (number : Nat) : Replay :=
  Replay.initial.after (past.program number)

/-- Who took which checkpoint. -/
def taken (past : History) : List (Nat × Nat) := past.filterMap Event.taken?

/-- Who went back to which checkpoint. -/
def restored (past : History) : List (Nat × Nat) := past.filterMap Event.restored?

/-- Nobody goes back to a checkpoint that somebody else took. -/
def OwnCheckpoints (past : History) : Prop :=
  ∀ restored ∈ past.restored, ∀ taken ∈ past.taken, taken.2 = restored.2 → taken.1 = restored.1

instance (past : History) : Decidable past.OwnCheckpoints :=
  inferInstanceAs (Decidable (∀ restored ∈ past.restored, ∀ taken ∈ past.taken,
    taken.2 = restored.2 → taken.1 = restored.1))

end History

/-! ## Tables -/

/-- Under each key lies what the buffer holds for it, or else what was there. -/
@[simp] theorem get?_overlay (table : Table) (writes : Writes) (key : Bytes) :
    (overlay table writes).get? key = (writes.get? key).getD (table.get? key) :=
  get?_foldl_applyWrite writes.sorted table key

theorem get?_foldl_overlay (commits : List (Nat × Writes)) (table : Table) (key : Bytes) :
    (commits.foldl (fun table commit => overlay table commit.2) table).get? key =
      ((commits.filterMap fun commit => commit.2.get? key).getLast?).getD (table.get? key) := by
  induction commits generalizing table with
  | nil => rfl
  | cons commit commits ih =>
      rw [List.foldl_cons, ih, get?_overlay]
      cases hwrite : commit.2.get? key with
      | none => simp [hwrite]
      | some write =>
          simp only [List.filterMap_cons, hwrite, List.getLast?_cons, Option.getD_some]

/-- Commits leave under each key what the last write to it left there. -/
theorem get?_tableOf (commits : List (Nat × Writes)) (key : Bytes) :
    (tableOf commits).get? key =
      (commits.filterMap fun commit => commit.2.get? key).getLast?.join := by
  rw [tableOf, get?_foldl_overlay, OrderedMap.get?_empty]
  cases (commits.filterMap fun commit => commit.2.get? key).getLast? <;> rfl

theorem tableOf_concat (commits : List (Nat × Writes)) (commit : Nat × Writes) :
    tableOf (commits ++ [commit]) = overlay (tableOf commits) commit.2 := by
  rw [tableOf, List.foldl_append, tableOf]
  rfl

/-! ## Longer programs and histories -/

namespace Replay

theorem after_append (replay : Replay) (program more : List Operation) :
    replay.after (program ++ more) = (replay.after program).after more :=
  List.foldl_append

theorem answers_append (replay : Replay) (table : Table) (program more : List Operation) :
    replay.answers table (program ++ more) =
      replay.answers table program ++ (replay.after program).answers table more := by
  induction program generalizing replay with
  | nil => rfl
  | cons operation program ih =>
      rw [List.cons_append, answers, ih, answers, List.append_assoc]
      rfl

end Replay

namespace History

variable {past : History} {event : Event} {number : Nat}

@[simp] theorem taken_concat (past : History) (event : Event) :
    taken (past ++ [event]) = past.taken ++ event.taken?.toList := by
  rw [taken, List.filterMap_append, taken]
  cases h : event.taken? <;> simp [h]

@[simp] theorem restored_concat (past : History) (event : Event) :
    restored (past ++ [event]) = past.restored ++ event.restored?.toList := by
  rw [restored, List.filterMap_append, restored]
  cases h : event.restored? <;> simp [h]

theorem OwnCheckpoints.of_concat (h : OwnCheckpoints (past ++ [event])) : past.OwnCheckpoints := by
  intro restored hrestored taken htaken
  rw [OwnCheckpoints, taken_concat, restored_concat] at h
  exact h restored (List.mem_append_left _ hrestored) taken (List.mem_append_left _ htaken)

theorem program_concat (past : History) {event : Event} {number : Nat}
    (h : event.step.actor? = some number) :
    program (past ++ [event]) number = past.program number ++ event.operation?.toList := by
  rw [program, List.filterMap_append, program]
  cases hoperation : event.operation? <;> simp [h, hoperation]

theorem program_concat_of_ne (h : event.step.actor? ≠ some number) :
    program (past ++ [event]) number = past.program number := by
  simp [program, h]

theorem answers_concat (past : History) {event : Event} {number : Nat}
    (h : event.step.actor? = some number) :
    answers (past ++ [event]) number = past.answers number ++ event.readAnswer?.toList := by
  rw [answers, List.filterMap_append, answers]
  cases hanswer : event.readAnswer? <;> simp [h, hanswer]

theorem answers_concat_of_ne (h : event.step.actor? ≠ some number) :
    answers (past ++ [event]) number = past.answers number := by
  simp [answers, h]

theorem replayed_concat (past : History) {event : Event} {number : Nat}
    (h : event.step.actor? = some number) :
    replayed (past ++ [event]) number =
      (past.replayed number).after event.operation?.toList := by
  rw [replayed, program_concat past h, Replay.after_append, replayed]

theorem replayed_concat_of_ne (h : event.step.actor? ≠ some number) :
    replayed (past ++ [event]) number = past.replayed number := by
  rw [replayed, program_concat_of_ne h, replayed]

end History

end Transact.Mvcc
