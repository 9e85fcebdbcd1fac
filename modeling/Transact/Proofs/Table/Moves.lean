/-
# Transactions on tables

A run on tables consists of moves: a transaction asks for something on tables,
or it does something else than reading and writing keys by itself, as beginning,
committing or restoring a checkpoint. What a request does to a run is what a
few steps do that read and write row keys. So a run on tables is a run like
any other, in which nothing but rows is ever written.

All of a run's invariants are therefore at hand, and every write that a run on
tables holds, buffered or committed, is that of a row that can be stored.
-/

import Transact.Proofs.Mvcc.Snapshot
import Transact.Proofs.Table.Contents
import Transact.Proofs.Table.Writes

namespace Transact

namespace Mvcc.Run

/-! ## Steps that read or write a key -/

variable {run : Run} {number : Nat} {txn : Transaction}

theorem update_self (h : run.transactions.get? number = some txn) :
    run.update number txn = run := by
  have hsame : run.transactions.insert number txn = run.transactions := by
    ext other
    rw [OrderedMap.get?_insert]
    split
    case isTrue hother => rw [hother, h]
    case isFalse => rfl
  rw [update, hsame]

theorem update_update (run : Run) (number : Nat) (txn later : Transaction) :
    (run.update number txn).update number later = run.update number later := by
  have hsame : (run.transactions.insert number txn).insert number later =
      run.transactions.insert number later := by
    ext other
    simp only [OrderedMap.get?_insert]
    split <;> rfl
  rw [update, update, hsame, update]

theorem step_get (h : run.transactions.get? number = some txn) (key : Bytes) :
    (run.step (.get number key)).2 = run.update number (txn.noteRead key) := by
  simp only [step, withOpen, h, Transaction.get]

theorem step_scanPrefix (h : run.transactions.get? number = some txn) (start : Bytes) :
    (run.step (.scanPrefix number start)).2 = run.update number (txn.notePrefix start) := by
  simp only [step, withOpen, h, Transaction.scanPrefix]

theorem step_set (h : run.transactions.get? number = some txn) (key value : Bytes) :
    (run.step (.set number key value)).2 = run.update number (txn.set key value) := by
  simp only [step, withOpen, h]

theorem step_delete (h : run.transactions.get? number = some txn) (key : Bytes) :
    (run.step (.delete number key)).2 = run.update number (txn.delete key) := by
  simp only [step, withOpen, h]

end Mvcc.Run

namespace Table

open Mvcc (Run)

/-! ## Moves -/

/-- A run of transactions, with the signals that their handlers see. -/
abbrev RunSite := Run × Signals

/-- A move in a run: a transaction asks for something on tables, or there is another step. -/
inductive Move where
  | ask (number : Nat) (request : Request)
  | other (step : Run.Step)

/-- An open transaction of a run does what it is asked for. -/
def RunSite.ask (site : RunSite) (number : Nat) (request : Request) :
    Option (request.Answer × RunSite) :=
  (site.1.transactions.get? number).map fun txn =>
    let (answer, txn, signals) := perform site.1.store request (txn, site.2)
    (answer, site.1.update number txn, signals)

/-- Make a move. A transaction that is not open does nothing. -/
def Move.make (site : RunSite) : Move → RunSite
  | .ask number request => ((site.ask number request).map Prod.snd).getD site
  | .other step => ((site.1.step step).2, site.2)

/-- Make moves one after the other. -/
def RunSite.after (site : RunSite) (moves : List Move) : RunSite :=
  moves.foldl Move.make site

/-- The request of a transaction that a move is, with its answer. -/
def Move.answered? (site : RunSite) (number : Nat) :
    Move → Option ((request : Request) × request.Answer)
  | .ask own request =>
    if own = number then (site.ask own request).map fun answered => ⟨request, answered.1⟩ else none
  | .other _ => none

/-- The request of a transaction that a move is. -/
def Move.request? (number : Nat) : Move → Option Request
  | .ask own request => if own = number then some request else none
  | .other _ => none

/-- The requests of a transaction among moves, with their answers. -/
def RunSite.asked (number : Nat) : RunSite → List Move → List ((request : Request) × request.Answer)
  | _, [] => []
  | site, move :: rest => (move.answered? site number).toList ++ asked number (move.make site) rest

/-- What moves may be: places, tables and rows can be stored, and keys are written by requests
only. -/
def Move.Fits : Move → Prop
  | .ask _ request => request.Storable
  | .other step => step.write? = none

/-! ## The steps of a move -/

/-- The keys that a request reads, as steps of its transaction. -/
def Request.readSteps (number : Nat) : Request → List Run.Step
  | .get table key | .insert table key _ | .delete table key => [.get number (rowKey table key)]
  | .scan table => [.scanPrefix number (tablePrefix table)]
  | .put .. | .findContext _ | .cancel _ => []

/-- A row write as a step of a transaction. -/
def writeStep (number : Nat) : RowWrite → Run.Step
  | (key, some value) => .set number key value
  | (key, none) => .delete number key

/-- What a request does to a run, as steps of its transaction. -/
def Request.steps (number : Nat) (request : Request) (answer : request.Answer) : List Run.Step :=
  request.readSteps number ++ (request.writes answer).map (writeStep number)

/-- What a move does to a run, as steps. -/
def Move.steps (site : RunSite) : Move → List Run.Step
  | .ask number request =>
    ((site.ask number request).map fun answered => request.steps number answered.1).getD []
  | .other step => [step]

/-- What moves do to a run, as a script of steps. -/
def RunSite.script : RunSite → List Move → List Run.Step
  | _, [] => []
  | site, move :: rest => move.steps site ++ script (move.make site) rest

variable {run : Run} {number : Nat} {txn : Mvcc.Transaction}

/-- A transaction has done what a request asks for when it has made the steps of the request. -/
theorem perform_eq_steps (h : run.transactions.get? number = some txn) (request : Request)
    (signals : Signals) :
    run.update number (perform run.store request (txn, signals)).2.1 =
      run.after (request.steps number (perform run.store request (txn, signals)).1) := by
  have hread (table : String) (key : List Value) :
      (get run.store table key txn).2 = txn.noteRead (rowKey table key) := rfl
  have hopen (noted : Mvcc.Transaction) :
      (run.update number noted).transactions.get? number = some noted := by
    rw [Run.get?_update, if_pos rfl]
  cases request with
  | findContext name => exact Run.update_self h
  | cancel context => exact Run.update_self h
  | get table key => exact (Run.step_get h _).symm
  | scan table => exact (Run.step_scanPrefix h _).symm
  | put table key row => exact (Run.step_set h _ _).symm
  | insert table key row =>
      have hfound := hread table key
      simp only [perform, onTables, insert, Call.run, Call.of]
      rcases hget : get run.store table key txn with ⟨⟨error⟩ | ⟨_ | taken⟩, noted⟩
      all_goals
        rw [hget] at hfound
        subst hfound
      case error => exact (Run.step_get h _).symm
      case ok.some => exact (Run.step_get h _).symm
      case ok.none =>
        show run.update number (Mvcc.Transaction.set _ _ _) =
          ((run.step (.get number _)).2.step (.set number _ _)).2
        rw [Run.step_get h, Run.step_set (hopen _), Run.update_update]
  | delete table key =>
      have hfound := hread table key
      simp only [perform, onTables, delete, Call.run, Call.of]
      rcases hget : get run.store table key txn with ⟨⟨error⟩ | ⟨_ | row⟩, noted⟩
      all_goals
        rw [hget] at hfound
        subst hfound
      case error => exact (Run.step_get h _).symm
      case ok.none => exact (Run.step_get h _).symm
      case ok.some =>
        show run.update number (Mvcc.Transaction.delete _ _) =
          ((run.step (.get number _)).2.step (.delete number _)).2
        rw [Run.step_get h, Run.step_delete (hopen _), Run.update_update]

/-! ## The script of moves -/

/-- The transaction that a move belongs to; a beginning belongs to none. -/
def Move.actor? : Move → Option Nat
  | .ask number _ => some number
  | .other step => step.actor?

theorem write?_writeStep (number : Nat) (write : RowWrite) :
    (writeStep number write).write? = some write := by
  obtain ⟨key, value⟩ := write
  cases value <;> rfl

theorem actor?_writeStep (number : Nat) (write : RowWrite) :
    (writeStep number write).actor? = some number := by
  obtain ⟨key, value⟩ := write
  cases value <;> rfl

/-- What a request writes are rows, or nothing where rows were. -/
theorem isRowWrite_of_mem_writes {request : Request} (h : request.Storable)
    {answer : request.Answer} {write : RowWrite} (hwrite : write ∈ request.writes answer) :
    IsRowWrite write.1 write.2 := by
  unfold Request.writes at hwrite
  split at hwrite
  case h_1 table key row =>
    obtain rfl := List.mem_singleton.mp hwrite
    refine ⟨table, key, h.1, rfl, fun stored hstored => ⟨row, h.2, ?_⟩⟩
    exact (Option.some.inj hstored).symm
  case h_2 table key row =>
    obtain rfl := List.mem_singleton.mp hwrite
    refine ⟨table, key, h.1, rfl, fun stored hstored => ⟨row, h.2, ?_⟩⟩
    exact (Option.some.inj hstored).symm
  case h_3 table key =>
    obtain rfl := List.mem_singleton.mp hwrite
    exact ⟨table, key, h, rfl, fun stored hstored => absurd hstored (by simp)⟩
  case h_4 => exact absurd hwrite List.not_mem_nil

/-- The reads of a request belong to its transaction and write nothing. -/
theorem readSteps_fit {request : Request} {step : Run.Step}
    (h : step ∈ request.readSteps number) : step.actor? = some number ∧ step.write? = none := by
  cases request with
  | put table key row => cases h
  | findContext name => cases h
  | cancel context => cases h
  | get table key | insert table key row | delete table key | scan table =>
      obtain rfl := List.mem_singleton.mp h
      exact ⟨rfl, rfl⟩

/-- A step of a move belongs to the transaction of the move; if it writes, the move is a request
that does. -/
theorem steps_cases {move : Move} {site : RunSite} {step : Run.Step}
    (hstep : step ∈ move.steps site) : step.actor? = move.actor? ∧
      (move = .other step ∨ step.write? = none ∨
        ∃ number request answer, ∃ write ∈ request.writes answer,
          move = .ask number request ∧ step.write? = some write) := by
  cases move with
  | other own =>
      obtain rfl := List.mem_singleton.mp hstep
      exact ⟨rfl, .inl rfl⟩
  | ask number request =>
      rw [Move.steps] at hstep
      cases hask : site.ask number request with
      | none =>
          rw [hask] at hstep
          cases hstep
      | some answered =>
          rw [hask] at hstep
          rcases List.mem_append.mp hstep with hread | hwritten
          · obtain ⟨hactor, hnone⟩ := readSteps_fit hread
            exact ⟨hactor, .inr (.inl hnone)⟩
          · obtain ⟨write, hmem, rfl⟩ := List.mem_map.mp hwritten
            exact ⟨actor?_writeStep number write, .inr (.inr
              ⟨number, request, answered.1, write, hmem, rfl, write?_writeStep number write⟩)⟩

/-- The steps of a move write rows only. -/
theorem steps_fit {move : Move} (h : move.Fits) {site : RunSite} {step : Run.Step}
    (hstep : step ∈ move.steps site) {key : Bytes} {write : Option Bytes}
    (hwrite : step.write? = some (key, write)) : IsRowWrite key write := by
  obtain ⟨-, rfl | hnone | ⟨number, request, answer, own, hmem, rfl, hown⟩⟩ := steps_cases hstep
  · rw [show step.write? = none from h] at hwrite
    cases hwrite
  · rw [hnone] at hwrite
    cases hwrite
  · rw [hown] at hwrite
    obtain rfl := Option.some.inj hwrite
    exact isRowWrite_of_mem_writes h hmem

/-- Whether a move begins a transaction. -/
def Move.begins : Move → Bool
  | .other step => step == .begin
  | .ask _ _ => false

theorem count_steps (site : RunSite) (move : Move) :
    (move.steps site).count .begin = [move].countP Move.begins := by
  cases move with
  | other step => rfl
  | ask number request =>
      refine List.count_eq_zero.mpr fun hstep => ?_
      have hactor := (steps_cases hstep).1
      cases hactor

theorem RunSite.ask_eq {site : RunSite} (h : site.1.transactions.get? number = some txn)
    (request : Request) : site.ask number request =
      some ((perform site.1.store request (txn, site.2)).1,
        site.1.update number (perform site.1.store request (txn, site.2)).2.1,
        (perform site.1.store request (txn, site.2)).2.2) := by
  rw [RunSite.ask, h]
  rfl

theorem make_fst (site : RunSite) (move : Move) :
    (move.make site).1 = site.1.after (move.steps site) := by
  cases move with
  | other step => rfl
  | ask number request =>
      rw [Move.make, Move.steps, RunSite.ask]
      cases hopen : site.1.transactions.get? number with
      | none => rfl
      | some txn => exact perform_eq_steps hopen request site.2

namespace RunSite

theorem after_append (site : RunSite) (moves more : List Move) :
    site.after (moves ++ more) = (site.after moves).after more :=
  List.foldl_append

theorem script_append (site : RunSite) (moves more : List Move) :
    site.script (moves ++ more) = site.script moves ++ (site.after moves).script more := by
  induction moves generalizing site with
  | nil => rfl
  | cons move moves ih => rw [List.cons_append, script, script, ih, List.append_assoc]; rfl

/-- The transactions that begin are those that moves begin. -/
theorem count_script (site : RunSite) (moves : List Move) :
    (site.script moves).count .begin = moves.countP Move.begins := by
  induction moves generalizing site with
  | nil => rfl
  | cons move moves ih =>
      rw [script, List.count_append, count_steps, ih, ← List.countP_append]
      rfl

theorem after_fst (site : RunSite) (moves : List Move) :
    (site.after moves).1 = site.1.after (site.script moves) := by
  induction moves generalizing site with
  | nil => rfl
  | cons move moves ih =>
      rw [script, Run.after_append, ← make_fst]
      exact ih (move.make site)

/-- Where moves lead from an empty store. -/
def reached (signals : Signals) (moves : List Move) : RunSite := after (.initial, signals) moves

/-- What happens while moves are made from an empty store. -/
def past (signals : Signals) (moves : List Move) : Mvcc.History :=
  Run.past (script (.initial, signals) moves)

end RunSite

/-- All moves are what they may be, and the counter of versions does not overflow. -/
structure MovesFit (moves : List Move) : Prop where
  fits : ∀ move ∈ moves, move.Fits
  counter : moves.countP Move.begins + 1 < UInt64.size

variable {moves earlier later : List Move}

theorem script_writes (h : ∀ move ∈ moves, move.Fits) (site : RunSite) :
    ∀ step ∈ site.script moves, ∀ key write, step.write? = some (key, write) →
      IsRowWrite key write := by
  induction moves generalizing site with
  | nil => exact fun _ hstep => absurd hstep List.not_mem_nil
  | cons move moves ih =>
      intro step hstep
      rcases List.mem_append.mp hstep with hstep | hstep
      · exact fun _ _ => steps_fit (h move List.mem_cons_self) hstep
      · exact ih (fun other hother => h other (List.mem_cons_of_mem _ hother)) _ step hstep

namespace MovesFit

theorem of_append (h : MovesFit (earlier ++ later)) : MovesFit earlier := by
  refine ⟨fun move hmove => h.fits move (List.mem_append_left _ hmove), ?_⟩
  have hcounter := h.counter
  rw [List.countP_append] at hcounter
  omega

theorem counterFits (h : MovesFit moves) (signals : Signals) :
    Run.CounterFits (RunSite.script (.initial, signals) moves) := by
  rw [Run.CounterFits, RunSite.count_script]
  exact h.counter

/-- Every row has a length of 64 bits. -/
theorem valuesFit (h : MovesFit moves) (signals : Signals) :
    Run.ValuesFit (RunSite.script (.initial, signals) moves) := by
  intro value hvalue
  obtain ⟨step, hstep, hset⟩ := List.mem_filterMap.mp hvalue
  have hwrite : ∃ key, step.write? = some (key, some value) := by
    cases step <;> simp_all [Run.Step.value?, Run.Step.write?]
  obtain ⟨key, hwrite⟩ := hwrite
  obtain ⟨-, -, -, -, hstored⟩ := script_writes h.fits _ step hstep key _ hwrite
  obtain ⟨row, hrow, rfl⟩ := hstored value rfl
  exact hrow.fits

theorem consistent (h : MovesFit moves) (signals : Signals) :
    Mvcc.Consistent (RunSite.reached signals moves).1 (RunSite.past signals moves) := by
  rw [RunSite.reached, RunSite.after_fst]
  exact (Mvcc.consistent_reached (h.counterFits signals)).1

theorem begun_eq (h : MovesFit moves) (signals : Signals) :
    (RunSite.reached signals moves).1.begun = moves.countP Move.begins := by
  rw [RunSite.reached, RunSite.after_fst, ← RunSite.count_script]
  exact (Mvcc.consistent_reached (h.counterFits signals)).2

theorem holdsReadable (h : MovesFit moves) (signals : Signals) :
    Mvcc.HoldsReadable (RunSite.reached signals moves).1 (RunSite.past signals moves) := by
  rw [RunSite.reached, RunSite.after_fst]
  exact Mvcc.holdsReadable_reached (h.counterFits signals) (h.valuesFit signals)

theorem holdsRows (h : MovesFit moves) (signals : Signals) :
    Mvcc.HoldsWrites IsRowWrite (RunSite.reached signals moves).1 (RunSite.past signals moves) := by
  rw [RunSite.reached, RunSite.after_fst]
  exact Mvcc.holdsWrites_reached (h.counterFits signals) (script_writes h.fits _)

/-- A transaction finds something under keys only that moves have written. -/
theorem exists_keys (h : MovesFit moves) {signals : Signals}
    (hopen : (RunSite.reached signals moves).1.transactions.get? number = some txn) :
    ∃ keys : List Bytes, ∀ key value,
      (RunSite.past signals moves).found number txn.writes key = some value → key ∈ keys := by
  have hwrites : Mvcc.HoldsWrites
      (fun key _ => key ∈ ((RunSite.script (.initial, signals) moves).filterMap
        Run.Step.write?).map Prod.fst)
      (RunSite.reached signals moves).1 (RunSite.past signals moves) := by
    rw [RunSite.reached, RunSite.after_fst]
    refine Mvcc.holdsWrites_reached (h.counterFits signals) fun step hstep key write hwrite => ?_
    exact List.mem_map.mpr ⟨(key, write), List.mem_filterMap.mpr ⟨step, hstep, hwrite⟩, rfl⟩
  exact ⟨_, fun _ _ => hwrites.found hopen⟩

end MovesFit

end Table

end Transact
