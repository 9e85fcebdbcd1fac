/-
# Batches are all or nothing

A batch runs its statements in order, each where the one before it has left off.
Either all of them run; then there is one count for each, and the transaction is
where the last one has left it. Or a statement fails, be it that the context has
been cancelled by then; then no later statement is run, and the buffer goes back to
what it was before the batch.

What has been read stays noted, so the transaction is not the same as before. But
notes show only in the check of a commit. Two states of a transaction that differ in
their notes alone answer every request alike, are left alike by it, and write the
same if they are committed. This is an induction over what is done with them later,
and it is why nothing of a failed batch can come back.
-/

import Transact.Proofs.Executor.Memory

namespace Transact

/-! ## Transactions that differ in their notes -/

namespace Mvcc.Transaction

/-- Two states of a transaction that may differ in what is noted as read, and in nothing else. -/
structure Alike (first second : Transaction) : Prop where
  snapshot : first.snapshot = second.snapshot
  writes : first.writes = second.writes

/-- Whatever was noted as read still is. -/
structure KeepsNotes (before after : Transaction) : Prop where
  reads : ∀ key, before.reads.contains key = true → after.reads.contains key = true
  prefixes : ∀ start, before.prefixes.contains start = true → after.prefixes.contains start = true

variable {first second third before after : Transaction}

theorem Alike.trans (h : Alike first second) (hnext : Alike second third) : Alike first third where
  snapshot := h.snapshot.trans hnext.snapshot
  writes := h.writes.trans hnext.writes

theorem Alike.symm (h : Alike first second) : Alike second first where
  snapshot := h.snapshot.symm
  writes := h.writes.symm

theorem alike_noteRead (txn : Transaction) (key : Bytes) : Alike (txn.noteRead key) txn := by
  unfold noteRead
  split <;> exact ⟨rfl, rfl⟩

theorem Alike.noteRead (h : Alike first second) (key : Bytes) :
    Alike (first.noteRead key) (second.noteRead key) :=
  ((alike_noteRead first key).trans h).trans (alike_noteRead second key).symm

theorem Alike.set (h : Alike first second) (key value : Bytes) :
    Alike (first.set key value) (second.set key value) where
  snapshot := h.snapshot
  writes := congrArg (OrderedMap.insert · key (some value)) h.writes

theorem Alike.delete (h : Alike first second) (key : Bytes) :
    Alike (first.delete key) (second.delete key) where
  snapshot := h.snapshot
  writes := congrArg (OrderedMap.insert · key none) h.writes

theorem Alike.lookup (h : Alike first second) (store : Store) (key : Bytes) :
    first.lookup store key = second.lookup store key := by
  simp only [Transaction.lookup, version, h.snapshot, h.writes]

theorem Alike.get (h : Alike first second) (store : Store) (key : Bytes) :
    (first.get store key).1 = (second.get store key).1 :=
  congrArg Error.ofInternal (h.lookup store key)

theorem Alike.scanPrefix (h : Alike first second) (store : Store) (start : Bytes) :
    (first.scanPrefix store start).1 = (second.scanPrefix store start).1 := by
  simp only [Transaction.scanPrefix, lookupPrefix, writesUnder, h.snapshot, h.writes]

/-- A commit writes what is buffered and removes the marker, whatever is noted. -/
theorem Alike.commit (h : Alike first second) {store left : Store}
    (hcommit : first.commit.run store = (.ok (), left)) :
    left = second.release (second.apply store) := by
  simp only [Transaction.commit, Call.run, Call.of] at hcommit
  cases hvalid : first.validate store with
  | error error =>
      rw [hvalid] at hcommit
      cases hcommit
  | ok =>
      rw [hvalid] at hcommit
      cases hcommit
      simp only [release, apply, version, h.snapshot, h.writes]

theorem KeepsNotes.refl (txn : Transaction) : KeepsNotes txn txn where
  reads _ := id
  prefixes _ := id

theorem KeepsNotes.trans (h : KeepsNotes first second) (hnext : KeepsNotes second third) :
    KeepsNotes first third where
  reads key hkey := hnext.reads key (h.reads key hkey)
  prefixes start hstart := hnext.prefixes start (h.prefixes start hstart)

theorem keepsNotes_noteRead (txn : Transaction) (key : Bytes) :
    KeepsNotes txn (txn.noteRead key) := by
  unfold noteRead
  split
  case isTrue => exact .refl txn
  case isFalse =>
    refine ⟨fun other hother => ?_, fun _ => id⟩
    simp [hother]

theorem keepsNotes_notePrefix (txn : Transaction) (start : Bytes) :
    KeepsNotes txn (txn.notePrefix start) := by
  refine ⟨fun _ => id, fun other hother => ?_⟩
  simp [notePrefix, hother]

end Mvcc.Transaction

namespace Table

open Mvcc.Transaction (Alike KeepsNotes)

/-! ## Handlers cannot tell them apart -/

variable {first second : Mvcc.Transaction}

/-- Reading a row gives one answer, and what it leaves is alike. -/
theorem exists_get_alike (h : Alike first second) (store : Store) (table : String)
    (key : List Value) :
    ∃ answer left left', get store table key first = (answer, left) ∧
      get store table key second = (answer, left') ∧ Alike left left' := by
  have hfound := h.get store (rowKey table key)
  refine ⟨(first.get store (rowKey table key)).1 >>= rowOf, _, _, rfl, ?_,
    h.noteRead (rowKey table key)⟩
  rw [hfound]
  rfl

/-- A request is answered alike, and leaves behind what is alike. -/
theorem perform_alike (h : Alike first second) (store : Store) (request : Request)
    (signals : Signals) :
    (perform store request (first, signals)).1 = (perform store request (second, signals)).1 ∧
      Alike (perform store request (first, signals)).2.1
        (perform store request (second, signals)).2.1 ∧
      (perform store request (first, signals)).2.2 =
        (perform store request (second, signals)).2.2 := by
  cases request with
  | put table key row => exact ⟨rfl, h.set _ _, rfl⟩
  | findContext name => exact ⟨rfl, h, rfl⟩
  | cancel context => exact ⟨rfl, h, rfl⟩
  | scan table =>
      have hscan := h.scanPrefix store (tablePrefix table)
      exact ⟨congrArg (· >>= rowsOf) hscan, ⟨h.snapshot, h.writes⟩, rfl⟩
  | get table key =>
      obtain ⟨answer, left, left', hfirst, hsecond, hleft⟩ := exists_get_alike h store table key
      simp only [perform, onTables, Call.run, hfirst, hsecond]
      exact ⟨trivial, hleft, trivial⟩
  | insert table key row =>
      obtain ⟨answer, left, left', hfirst, hsecond, hleft⟩ := exists_get_alike h store table key
      simp only [perform, onTables, insert, Call.run, Call.of, hfirst, hsecond]
      cases answer with
      | error error => exact ⟨rfl, hleft, trivial⟩
      | ok found =>
          cases found with
          | some taken => exact ⟨rfl, hleft, trivial⟩
          | none => exact ⟨rfl, hleft.set _ _, trivial⟩
  | delete table key =>
      obtain ⟨answer, left, left', hfirst, hsecond, hleft⟩ := exists_get_alike h store table key
      simp only [perform, onTables, delete, Call.run, Call.of, hfirst, hsecond]
      cases answer with
      | error error => exact ⟨rfl, hleft, trivial⟩
      | ok found =>
          cases found with
          | none => exact ⟨rfl, hleft, trivial⟩
          | some old => exact ⟨rfl, hleft.delete _, trivial⟩

/-- A handler ends alike, and leaves behind what is alike. -/
theorem Handler.perform_alike {α : Type} (h : Alike first second) (store : Store)
    (handler : Handler α) (signals : Signals) :
    ((handler.perform store).run (first, signals)).1 =
        ((handler.perform store).run (second, signals)).1 ∧
      Alike ((handler.perform store).run (first, signals)).2.1
        ((handler.perform store).run (second, signals)).2.1 := by
  induction handler generalizing first second signals with
  | done result => exact ⟨rfl, h⟩
  | call request next ih =>
      have hcall := Table.perform_alike h store request signals
      simp only [perform, Call.run, Call.of, Interaction.run]
      generalize Table.perform store request (first, signals) = left at hcall ⊢
      generalize Table.perform store request (second, signals) = right at hcall ⊢
      obtain ⟨answer, left, changed⟩ := left
      obtain ⟨answer', right, changed'⟩ := right
      obtain ⟨rfl, hleft, rfl⟩ := hcall
      exact ih answer hleft changed

/-! ## Notes are kept -/

/-- A request takes back no note. -/
theorem perform_keepsNotes (store : Store) (request : Request) (site : Site) :
    KeepsNotes site.1 (perform store request site).2.1 := by
  obtain ⟨txn, signals⟩ := site
  have hget (table : String) (key : List Value) :
      KeepsNotes txn (get store table key txn).2 :=
    Mvcc.Transaction.keepsNotes_noteRead txn (rowKey table key)
  cases request with
  | get table key => exact hget table key
  | put table key row => exact ⟨fun _ => id, fun _ => id⟩
  | scan table => exact Mvcc.Transaction.keepsNotes_notePrefix txn (tablePrefix table)
  | findContext name => exact .refl txn
  | cancel context => exact .refl txn
  | insert table key row =>
      have hkept := hget table key
      simp only [perform, onTables, insert, Call.run, Call.of]
      rcases hfound : get store table key txn with ⟨⟨⟩ | ⟨⟨⟩ | taken⟩, left⟩ <;>
        rw [hfound] at hkept
      · exact hkept
      · exact ⟨hkept.reads, hkept.prefixes⟩
      · exact hkept
  | delete table key =>
      have hkept := hget table key
      simp only [perform, onTables, delete, Call.run, Call.of]
      rcases hfound : get store table key txn with ⟨⟨⟩ | ⟨⟨⟩ | old⟩, left⟩ <;>
        rw [hfound] at hkept
      · exact hkept
      · exact hkept
      · exact ⟨hkept.reads, hkept.prefixes⟩

theorem Handler.perform_keepsNotes {α : Type} (store : Store) (handler : Handler α) (site : Site) :
    KeepsNotes site.1 ((handler.perform store).run site).2.1 := by
  have hstep (_ : List (Site × Request)) (found : Site) (request : Request) (_ : True)
      (h : KeepsNotes site.1 found.1) :
      KeepsNotes site.1 (Table.perform store request found).2.1 :=
    h.trans (Table.perform_keepsNotes store request found)
  exact Interaction.run_induction (motive := fun _ (found : Site) => KeepsNotes site.1 found.1)
    (.of_forall (fun _ => trivial) handler) (.refl site.1) hstep

end Table

namespace Memory

open Table (Handler)
open Mvcc.Transaction (Alike KeepsNotes)

/-! ## Statements one by one -/

/-- A statement of a batch runs: its context is not cancelled, and the handler of its text gives a
count. -/
inductive Runs (context : Context) (statement : Statement) (site : Site) : Int → Site → Prop where
  | handled {handler : Statement → Handler Int} {count : Int} {after : Site}
      (hcontext : site.2.signals.isCancelled context = false)
      (hfound : site.2.backend.updates.get? (Blank.collapse statement.sql) = some handler)
      (hrun : (runHandler (handler statement)).run site = (.ok count, after)) :
      Runs context statement site count after

/-- A statement of a batch fails: its context is cancelled, its text is that of a query or of
nothing, or its handler fails. Where there is no handler, nothing happens. -/
inductive Fails (context : Context) (statement : Statement) (site : Site) :
    Error → Site → Prop where
  | cancelled (hcontext : site.2.signals.isCancelled context = true) :
      Fails context statement site .cancelled site
  | query (hcontext : site.2.signals.isCancelled context = false)
      (hupdate : site.2.backend.updates.get? (Blank.collapse statement.sql) = none)
      (hquery : site.2.backend.queries.contains (Blank.collapse statement.sql) = true) :
      Fails context statement site (.execution (.isQuery (Blank.collapse statement.sql))) site
  | unknown (hcontext : site.2.signals.isCancelled context = false)
      (hupdate : site.2.backend.updates.get? (Blank.collapse statement.sql) = none)
      (hquery : site.2.backend.queries.contains (Blank.collapse statement.sql) = false) :
      Fails context statement site (.execution (.unknownStatement (Blank.collapse statement.sql)))
        site
  | handled {handler : Statement → Handler Int} {error : Error} {after : Site}
      (hcontext : site.2.signals.isCancelled context = false)
      (hfound : site.2.backend.updates.get? (Blank.collapse statement.sql) = some handler)
      (hrun : (runHandler (handler statement)).run site = (.error error, after)) :
      Fails context statement site error after

/-- Statements run one by one, each where the one before it has left off, with a count for each. -/
inductive RunsAll (context : Context) : List Statement → Site → List Int → Site → Prop where
  | nil (site : Site) : RunsAll context [] site [] site
  | cons {statement : Statement} {rest : List Statement} {site middle after : Site} {count : Int}
      {counts : List Int} (hfirst : Runs context statement site count middle)
      (hrest : RunsAll context rest middle counts after) :
      RunsAll context (statement :: rest) site (count :: counts) after

variable {context : Context} {statement : Statement} {statements : List Statement}
  {site after : Site} {count : Int} {counts : List Int} {error : Error}

/-- A statement runs or fails, and is answered accordingly. -/
theorem execute_runs_or_fails (context : Context) (statement : Statement) (site : Site) :
    (∃ count after, Runs context statement site count after ∧
        (execute context statement).run site = (.ok count, after)) ∨
      ∃ error after, Fails context statement site error after ∧
        (execute context statement).run site = (.error error, after) := by
  simp only [execute, Signals.check, update?, Call.run, Call.of]
  cases hcontext : site.2.signals.isCancelled context with
  | true => exact .inr ⟨.cancelled, site, .cancelled hcontext, rfl⟩
  | false =>
      cases hfound : site.2.backend.updates.get? (Blank.collapse statement.sql) with
      | none =>
          cases hquery : site.2.backend.queries.contains (Blank.collapse statement.sql) with
          | true => exact .inr ⟨_, site, .query hcontext hfound hquery, by simp⟩
          | false => exact .inr ⟨_, site, .unknown hcontext hfound hquery, by simp⟩
      | some handler =>
          cases hrun : (runHandler (handler statement)).run site with
          | mk answer after =>
              cases answer with
              | ok count => exact .inl ⟨count, after, .handled hcontext hfound hrun, hrun⟩
              | error error => exact .inr ⟨error, after, .handled hcontext hfound hrun, hrun⟩

theorem RunsAll.length_eq (h : RunsAll context statements site counts after) :
    counts.length = statements.length := by
  induction h with
  | nil => rfl
  | cons _ _ ih => rw [List.length_cons, List.length_cons, ih]

/-- Statements in order: all of them run, or those before the first that fails. Its place is
counted from that of the first statement. -/
theorem executeFrom_runs_or_fails (context : Context) (index : Nat) (statements : List Statement)
    (site : Site) :
    (∃ counts after, RunsAll context statements site counts after ∧
        executeFrom context index statements site = (.ok counts, after)) ∨
      ∃ front statement back counts stopped error failed,
        statements = front ++ statement :: back ∧ RunsAll context front site counts stopped ∧
          Fails context statement stopped error failed ∧
          executeFrom context index statements site =
            (.error (index + front.length, error), failed) := by
  induction statements generalizing index site with
  | nil => exact .inl ⟨[], site, .nil site, rfl⟩
  | cons statement rest ih =>
      rcases execute_runs_or_fails context statement site with
        ⟨count, middle, hruns, hrun⟩ | ⟨error, failed, hfails, hrun⟩
      case inr =>
        refine .inr ⟨[], statement, rest, [], site, error, failed, rfl, .nil site, hfails, ?_⟩
        simp only [executeFrom, hrun, List.length_nil, Nat.add_zero]
      case inl =>
        rcases ih (index + 1) middle with
          ⟨counts, after, hall, hrest⟩ |
            ⟨front, last, back, counts, stopped, error, failed, rfl, hall, hfails, hrest⟩
        · refine .inl ⟨count :: counts, after, .cons hruns hall, ?_⟩
          simp only [executeFrom, hrun, hrest]
        · refine .inr ⟨statement :: front, last, back, count :: counts, stopped, error, failed, rfl,
            .cons hruns hall, hfails, ?_⟩
          simp only [executeFrom, hrun, hrest, List.length_cons, Nat.add_assoc, Nat.add_comm 1]

/-- A batch that is answered has run all of its statements, and its counts are theirs. -/
theorem runsAll_of_executeBatch
    (h : (executeBatch context statements).run site = (.ok counts, after)) :
    RunsAll context statements site counts after := by
  rcases executeBatch_cases context statements site with
    ⟨found, left, hfrom, hbatch⟩ | ⟨_, _, _, -, hbatch⟩ <;> rw [hbatch] at h <;> cases h
  rcases executeFrom_runs_or_fails context 0 statements site with
    ⟨_, _, hall, hrun⟩ | ⟨_, _, _, _, _, _, _, -, -, -, hrun⟩ <;> rw [hrun] at hfrom <;> cases hfrom
  exact hall

/-! ## What is left of them -/

theorem runHandler_keepsNotes {α : Type} {handler : Handler α} {answer : Except Error α}
    (hrun : (runHandler handler).run site = (answer, after)) : KeepsNotes site.1 after.1 := by
  have hkept := Handler.perform_keepsNotes site.2.backend.store handler (site.1, site.2.signals)
  obtain rfl := (Prod.mk.inj hrun).2
  exact hkept

theorem Runs.keepsNotes (h : Runs context statement site count after) :
    KeepsNotes site.1 after.1 := by
  cases h with
  | handled _ _ hrun => exact runHandler_keepsNotes hrun

theorem Fails.keepsNotes (h : Fails context statement site error after) :
    KeepsNotes site.1 after.1 := by
  cases h with
  | handled _ _ hrun => exact runHandler_keepsNotes hrun
  | _ => exact .refl site.1

theorem RunsAll.keepsNotes (h : RunsAll context statements site counts after) :
    KeepsNotes site.1 after.1 := by
  induction h with
  | nil site => exact .refl site.1
  | cons hfirst _ ih => exact hfirst.keepsNotes.trans ih

/-- Nothing shows of what was done to a transaction, but that it has read. The buffer is what it
was, so is every answer, and so is whatever a commit may write, now or after other handlers. -/
structure Undone (before after : Scope) : Prop where
  writes : after.writes = before.writes
  notes : KeepsNotes before after
  get : ∀ store key, (after.get store key).1 = (before.get store key).1
  scan : ∀ store start, (after.scanPrefix store start).1 = (before.scanPrefix store start).1
  later : ∀ {α : Type} (store : Store) (handler : Handler α) (signals : Signals),
    ((handler.perform store).run (after, signals)).1 =
        ((handler.perform store).run (before, signals)).1 ∧
      ∀ present left,
        ((handler.perform store).run (after, signals)).2.1.commit.run present = (.ok (), left) →
          left = ((handler.perform store).run (before, signals)).2.1.release
            (((handler.perform store).run (before, signals)).2.1.apply present)

theorem undone_of_alike {before after : Scope} (h : Alike after before)
    (hnotes : KeepsNotes before after) : Undone before after where
  writes := h.writes
  notes := hnotes
  get := h.get
  scan := h.scanPrefix
  later store handler signals := by
    obtain ⟨hanswer, hleft⟩ := Handler.perform_alike h store handler signals
    exact ⟨hanswer, fun _ _ hcommit => hleft.commit hcommit⟩

/-- What a batch says of a statement's error: all of it, but for the place that a failed execution
may have named. -/
def reason : Error → String
  | .executionFailed _ fault => fault.message
  | error => error.message

/-- A cancelled batch is cancelled, and any other names the place of the statement and its
reason. -/
theorem batchError_eq (index : Nat) (error : Error) :
    (error = .cancelled ∧ batchError index error = .cancelled) ∨
      error ≠ .cancelled ∧ ∃ fault, batchError index error = .executionFailed (some index) fault ∧
        fault.message = reason error := by
  cases error with
  | cancelled => exact .inl ⟨rfl, rfl⟩
  | executionFailed place fault => exact .inr ⟨by simp, fault, rfl, rfl⟩
  | _ => exact .inr ⟨by simp, _, rfl, rfl⟩

/-- A batch is all or nothing. Either its statements run one by one, and it gives a count for each
and leaves the transaction where the last one does. Or it stops at the first statement that fails,
which it names unless it was cancelled, runs no other, and nothing shows of those that ran. -/
theorem executeBatch_all_or_nothing (context : Context) (statements : List Statement)
    (site : Site) :
    (∃ counts after, RunsAll context statements site counts after ∧
        counts.length = statements.length ∧
        (executeBatch context statements).run site = (.ok counts, after)) ∨
      ∃ front statement back counts stopped error failed answer,
        statements = front ++ statement :: back ∧ RunsAll context front site counts stopped ∧
          Fails context statement stopped error failed ∧
          (executeBatch context statements).run site =
            (.error answer, failed.1.restore site.1.writes, failed.2) ∧
          ((error = .cancelled ∧ answer = .cancelled) ∨
            error ≠ .cancelled ∧ ∃ fault, answer = .executionFailed (some front.length) fault ∧
              fault.message = reason error) ∧
          failed.2.backend = site.2.backend ∧ Undone site.1 (failed.1.restore site.1.writes) := by
  obtain ⟨hsnapshot, hbackend, -⟩ := executeFrom_buffers context 0 statements site
  rcases executeFrom_runs_or_fails context 0 statements site with
    ⟨counts, after, hall, hrun⟩ |
      ⟨front, statement, back, counts, stopped, error, failed, hsplit, hall, hfails, hrun⟩
  case inl =>
    refine .inl ⟨counts, after, hall, hall.length_eq, ?_⟩
    simp only [executeBatch, Call.run, Call.of, hrun]
  case inr =>
    rw [hrun] at hsnapshot hbackend
    have halike : Alike (failed.1.restore site.1.writes) site.1 := ⟨hsnapshot, rfl⟩
    have hkept := hall.keepsNotes.trans hfails.keepsNotes
    have hnotes : KeepsNotes site.1 (failed.1.restore site.1.writes) :=
      ⟨hkept.reads, hkept.prefixes⟩
    refine .inr ⟨front, statement, back, counts, stopped, error, failed,
      batchError front.length error, hsplit, hall, hfails, ?_, batchError_eq front.length error,
      hbackend, undone_of_alike halike hnotes⟩
    simp only [executeBatch, Call.run, Call.of, hrun, Nat.zero_add]

end Memory

end Transact
