/-
# The life of a batch

A batch and the active transaction that it was begun on are two machines that move
together. While the batch is being made its transaction is active, and the executor
hears nothing of the statements. The first submission hands them over, all at once
and in their order, or not at all. Everything after it is misuse. And whatever
fails, for whatever reason, aborts the transaction, once and for good.

The executor is any one. To see what it is handed, the calls are made on one that
notes what it is handed and leaves everything else to another. Between two calls on
the batch anything may happen, except to the batch and its transaction.
-/

import Transact.Proofs.Executor.Batch
import Transact.Proofs.Interaction
import Transact.Proofs.Session.Active
import Transact.Proofs.Session.Transaction

namespace Transact

/-! ## What the executor is handed -/

/-- An executor, and the batches that it was handed, in order. -/
structure Watched (β : Type) where
  backend : β
  handed : List (List Statement)

namespace Environment

variable {β : Type}

/-- The same surroundings, with a note of batches that were handed over. -/
def watched (environment : Environment β) (handed : List (List Statement)) :
    Environment (Watched β) :=
  ⟨environment.signals, ⟨environment.backend, handed⟩⟩

/-- The same surroundings without the note. -/
def unwatched (environment : Environment (Watched β)) : Environment β :=
  ⟨environment.signals, environment.backend.backend⟩

@[simp] theorem handed_watched (environment : Environment β) (handed : List (List Statement)) :
    (environment.watched handed).backend.handed = handed := rfl

end Environment

namespace Watched

variable {β σ α : Type}

/-- A call on the database that hands over no batch. -/
def onDatabase (call : Call (Environment β) α) : Call (Environment (Watched β)) α :=
  Call.of fun environment =>
    let (answer, after) := call.run environment.unwatched
    (answer, after.watched environment.backend.handed)

/-- A call for a transaction that hands over batches. -/
def onScope (batches : List (List Statement)) (call : Call (σ × Environment β) α) :
    Call (σ × Environment (Watched β)) α :=
  Call.of fun (scope, environment) =>
    let (answer, left, after) := call.run (scope, environment.unwatched)
    (answer, left, after.watched (environment.backend.handed ++ batches))

instance [Executor β σ] : Executor (Watched β) σ where
  begin context := onDatabase (Executor.begin context)
  read context statement := onScope [] (Executor.read context statement)
  executeBatch context statements :=
    onScope [statements] (Executor.executeBatch context statements)
  commit context scope := onDatabase (Executor.commit context scope)
  abort scope := onDatabase (Executor.abort scope)

variable [Executor β σ]

/-- To release a transaction hands over nothing. -/
theorem handed_release (site : Transaction.Site (Watched β) σ) :
    (Transaction.release site).2.backend.handed = site.2.backend.handed := by
  rw [Transaction.release]
  split <;> rfl

/-- The statements of a batch are handed over, if there are any. -/
theorem handed_work (context : Context) (statements : List Statement) (scope : σ)
    (environment : Environment (Watched β)) :
    ((Batch.work context statements).run (scope, environment)).2.2.backend.handed =
      environment.backend.handed ++ if statements = [] then [] else [statements] := by
  rw [Batch.work]
  cases statements with
  | nil => exact (List.append_nil _).symm
  | cons statement rest => rfl

end Watched

namespace Batch

open Transaction (ofScope release)

variable {β σ α : Type}

/-! ## What happens to a batch -/

/-- A call on a batch, or a change of everything but the batch and its transaction. -/
inductive Move (β : Type) where
  | append (statement : Statement)
  | submit (context : Context)
  | submitExpecting (context : Context) (expected : Int)
  | meanwhile (change : Environment β → Environment β)

namespace Move

@[reducible] def Answer : Move β → Type
  | append _ => Except Error Unit
  | submit _ | submitExpecting .. => Except Error (List Int)
  | meanwhile _ => Unit

/-- The statement that a move adds. -/
def statement? : Move β → Option Statement
  | append statement => some statement
  | _ => none

/-- The context of a submission. -/
def context? : Move β → Option Context
  | submit context | submitExpecting context _ => some context
  | _ => none

/-- The total that a submission expects. -/
def expected? : Move β → Option Int
  | submitExpecting _ expected => some expected
  | _ => none

/-- Whether a move submits the batch. -/
def submits (move : Move β) : Bool := move.context?.isSome

/-- Whether a move is a call on the batch. -/
def isCall (move : Move β) : Bool := move.statement?.isSome || move.submits

variable [Executor β σ]

/-- Make a move. -/
def perform : (move : Move β) → Site β σ → move.Answer × Site β σ
  | append statement, site => (Batch.append statement).run site
  | submit context, site => (Batch.submit context).run site
  | submitExpecting context expected, site => (Batch.submitExpecting context expected).run site
  | meanwhile change, (batch, txn, environment) => ((), batch, txn, change environment)

/-- The counts that a move is answered if it is a submission, or the error. -/
def outcome : Move β → Site β σ → Except Error (Option (List Int))
  | append statement, site => ((Batch.append statement).run site).1.map fun () => none
  | submit context, site => ((Batch.submit context).run site).1.map some
  | submitExpecting context expected, site =>
    ((Batch.submitExpecting context expected).run site).1.map some
  | meanwhile _, _ => .ok none

/-- Whether a move fails. -/
def fails (move : Move β) (site : Site β σ) : Bool := !(move.outcome site).isOk

/-- The batches that the executor is handed by a move. -/
def handed : Move β → Site β σ → List (List Statement)
  | append statement, (batch, txn, environment) =>
    ((Batch.append statement).run (batch, txn, environment.watched [])).2.2.2.backend.handed
  | submit context, (batch, txn, environment) =>
    ((Batch.submit context).run (batch, txn, environment.watched [])).2.2.2.backend.handed
  | submitExpecting context expected, (batch, txn, environment) =>
    ((Batch.submitExpecting context expected).run
      (batch, txn, environment.watched [])).2.2.2.backend.handed
  | meanwhile _, _ => []

variable {batch : Batch} {site : Site β σ}

/-- A submitted batch refuses every call and aborts its transaction. -/
theorem perform_of_submitted (hsubmitted : site.1.submitted = true) {move : Move β}
    (hcall : move.isCall = true) :
    (∃ fault, move.outcome site = .error (.construction fault)) ∧
      (move.perform site).2 = (site.1, release site.2) ∧ move.handed site = [] := by
  obtain ⟨batch, txn, environment⟩ := site
  have hsubmitted : batch.submitted = true := hsubmitted
  have hhanded := Watched.handed_release (txn, environment.watched [])
  cases move with
  | append statement =>
      simp only [outcome, perform, handed, Batch.append, abortWith, Call.run, Call.of, hsubmitted,
        if_true]
      exact ⟨⟨_, rfl⟩, trivial, hhanded⟩
  | submit context =>
      simp only [outcome, perform, handed, Batch.submit, abortWith, Call.run, Call.of, hsubmitted,
        if_true]
      exact ⟨⟨_, rfl⟩, trivial, hhanded⟩
  | submitExpecting context expected =>
      simp only [outcome, perform, handed, Batch.submitExpecting, Batch.submit, abortWith, Call.run,
        Call.of, hsubmitted, if_true]
      exact ⟨⟨_, rfl⟩, trivial, hhanded⟩
  | meanwhile change => cases hcall

/-- A batch that is being made takes every statement. -/
theorem perform_append (hbuilding : site.1.submitted = false) (statement : Statement) :
    (append statement).outcome site = .ok none ∧
      ((append statement).perform site).2 =
        ({ site.1 with statements := site.1.statements ++ [statement] }, site.2) ∧
      (append statement).handed site = [] := by
  obtain ⟨batch, txn, environment⟩ := site
  have hbuilding : batch.submitted = false := hbuilding
  simp only [outcome, perform, handed, Batch.append, Call.run, Call.of, hbuilding]
  exact ⟨rfl, rfl, rfl⟩

/-- The first submission of a batch hands its statements over, unless there are none or the context
has been cancelled. -/
theorem handed_submitted {context : Context} {statements : List Statement} {scope : σ}
    {config : SessionConfig} {environment : Environment β} {answer : Except Error (List Int)}
    {after : Transaction.Site (Watched β) σ}
    (h : Submitted context statements scope config (environment.watched []) answer after) :
    after.2.backend.handed =
      if environment.signals.isCancelled context = true ∨ statements = [] then []
      else [statements] := by
  have hnote := Watched.handed_work context statements scope (environment.watched [])
  obtain ⟨hworked, -⟩ := h
  cases hworked with
  | stopped hcancelled =>
      rw [Watched.handed_release, if_pos (.inl hcancelled)]
      rfl
  | failed _ hbefore hwork =>
      have hbefore : environment.signals.isCancelled context = false := hbefore
      rw [hwork] at hnote
      rw [Watched.handed_release, hbefore]
      simpa using hnote
  | answered hbefore hwork =>
      have hbefore : environment.signals.isCancelled context = false := hbefore
      rw [hwork] at hnote
      rw [hbefore]
      simpa using hnote

/-- The first submission of a batch. -/
theorem perform_submission {move : Move β} {context : Context}
    (hcontext : move.context? = some context) (hbuilding : batch.submitted = false) (scope : σ)
    (config : SessionConfig) (environment : Environment β) :
    ∃ answer after, move.outcome (batch, ofScope scope config, environment) = answer.map some ∧
      (move.perform (batch, ofScope scope config, environment)).2 =
        ({ batch with submitted := true }, after) ∧
      Submitted context batch.statements scope config environment answer after ∧
      (∀ expected counts, move.expected? = some expected → answer = .ok counts →
        total counts = expected) ∧
      move.handed (batch, ofScope scope config, environment) =
        if environment.signals.isCancelled context = true ∨ batch.statements = [] then []
        else [batch.statements] := by
  cases move with
  | submit own =>
      obtain rfl : own = context := Option.some.inj hcontext
      obtain ⟨answer, after, hrun, hsubmitted⟩ :=
        submit_submitted hbuilding own scope config environment
      obtain ⟨_, _, hwatched, hnoted⟩ :=
        submit_submitted hbuilding own scope config (environment.watched [])
      refine ⟨answer, after, ?_, ?_, hsubmitted, nofun, ?_⟩
      · rw [outcome, hrun]
      · rw [perform, hrun]
      · rw [handed, hwatched]
        exact handed_submitted hnoted
  | submitExpecting own expected =>
      obtain rfl : own = context := Option.some.inj hcontext
      obtain ⟨answer, after, hrun, hsubmitted, htotal⟩ :=
        submitExpecting_submitted hbuilding own expected scope config environment
      obtain ⟨_, _, hwatched, hnoted, -⟩ :=
        submitExpecting_submitted hbuilding own expected scope config (environment.watched [])
      refine ⟨answer, after, ?_, ?_, hsubmitted, fun other counts hother hcounts => ?_, ?_⟩
      · rw [outcome, hrun]
      · rw [perform, hrun]
      · rw [htotal counts hcounts, Option.some.inj hother]
      · rw [handed, hwatched]
        exact handed_submitted hnoted
  | append statement => cases hcontext
  | meanwhile change => cases hcontext

end Move

/-! ## What has happened to it -/

/-- Moves on a batch, each with what it found. -/
abbrev Past (β σ : Type) := List (Site β σ × Move β)

namespace Past

/-- The statements that were added before the first submission. -/
def appended : Past β σ → List Statement
  | [] => []
  | (_, move) :: rest => if move.submits then [] else move.statement?.toList ++ appended rest

/-- Whether the batch has been submitted. -/
def submitted (past : Past β σ) : Bool := past.any fun call => call.2.submits

variable [Executor β σ]

/-- The batches that the executor was handed. -/
def handed (past : Past β σ) : List (List Statement) :=
  past.flatMap fun call => call.2.handed call.1

/-- Whether a call has failed. -/
def failed (past : Past β σ) : Bool := past.any fun call => call.2.fails call.1

variable {past : Past β σ} {found : Site β σ} {move : Move β}

omit [Executor β σ] in
/-- A statement counts as added if nothing was submitted before. -/
theorem appended_concat (past : Past β σ) (found : Site β σ) (move : Move β) :
    appended (past ++ [(found, move)]) =
      past.appended ++ if past.submitted then [] else move.statement?.toList := by
  induction past with
  | nil => cases move <;> rfl
  | cons call past ih =>
      obtain ⟨before, first⟩ := call
      rw [List.cons_append, appended, appended, submitted, List.any_cons]
      cases first.submits with
      | true => rfl
      | false =>
          simp only [Bool.false_eq_true, if_false, Bool.false_or]
          rw [ih, List.append_assoc]
          rfl

omit [Executor β σ] in
theorem submitted_concat (past : Past β σ) (found : Site β σ) (move : Move β) :
    submitted (past ++ [(found, move)]) = (past.submitted || move.submits) := by
  simp [submitted]

theorem handed_concat (past : Past β σ) (found : Site β σ) (move : Move β) :
    handed (past ++ [(found, move)]) = past.handed ++ move.handed found := by
  simp [handed]

theorem failed_concat (past : Past β σ) (found : Site β σ) (move : Move β) :
    failed (past ++ [(found, move)]) = (past.failed || move.fails found) := by
  simp [failed]

end Past

/-- Where a batch and its transaction are after moves. -/
structure Progress [Executor β σ] (config : SessionConfig) (past : Past β σ) (site : Site β σ) :
    Prop where
  statements : site.1.statements = past.appended
  submitted : site.1.submitted = past.submitted
  building : site.1.submitted = false → past.handed = [] ∧ past.failed = false
  handed : past.handed = [] ∨ past.appended ≠ [] ∧ past.handed = [past.appended]
  working : past.failed = false → ∃ scope, site.2.1 = ofScope scope config
  ended : past.failed = true → site.2.1 = ⟨none, .aborted, config⟩

variable [Executor β σ] {config : SessionConfig} {past : Past β σ} {found : Site β σ}

theorem progress_start (scope : σ) (config : SessionConfig) (environment : Environment β) :
    Progress config [] (.empty, ofScope scope config, environment) where
  statements := rfl
  submitted := rfl
  building _ := ⟨rfl, rfl⟩
  handed := .inl rfl
  working _ := ⟨scope, rfl⟩
  ended := nofun

/-- A transaction that is working or over is over when it has been released. -/
theorem Progress.release_eq (h : Progress config past found) :
    (release found.2).1 = ⟨none, .aborted, config⟩ := by
  obtain ⟨batch, txn, environment⟩ := found
  cases hfailed : past.failed with
  | true =>
      have hover : txn = ⟨none, .aborted, config⟩ := h.ended hfailed
      rw [hover]
      rfl
  | false =>
      obtain ⟨scope, hscope⟩ := h.working hfailed
      have hscope : txn = ofScope scope config := hscope
      rw [hscope]
      rfl

/-- A change of the surroundings is no progress. -/
theorem Progress.meanwhile (h : Progress config past found)
    (change : Environment β → Environment β) :
    Progress config (past ++ [(found, .meanwhile change)])
      ((Move.meanwhile change).perform found).2 := by
  have happended : Past.appended (past ++ [(found, .meanwhile change)]) = past.appended := by
    rw [Past.appended_concat]
    simp [Move.statement?]
  have hsubmitted : Past.submitted (past ++ [(found, .meanwhile change)]) = past.submitted :=
    (Past.submitted_concat ..).trans (Bool.or_false _)
  have hhanded : Past.handed (past ++ [(found, .meanwhile change)]) = past.handed :=
    (Past.handed_concat ..).trans (List.append_nil _)
  have hfailed : Past.failed (past ++ [(found, .meanwhile change)]) = past.failed :=
    (Past.failed_concat ..).trans (Bool.or_false _)
  constructor <;> simp only [happended, hsubmitted, hhanded, hfailed]
  case statements => exact h.statements
  case submitted => exact h.submitted
  case building => exact h.building
  case handed => exact h.handed
  case working => exact h.working
  case ended => exact h.ended

/-- A call on a submitted batch aborts the transaction, if this is not over yet. -/
theorem Progress.misused (h : Progress config past found) (hsubmitted : found.1.submitted = true)
    {move : Move β} (hcall : move.isCall = true) :
    Progress config (past ++ [(found, move)]) (move.perform found).2 := by
  obtain ⟨⟨fault, houtcome⟩, hperform, hhanded⟩ := Move.perform_of_submitted hsubmitted hcall
  have hpast : past.submitted = true := h.submitted ▸ hsubmitted
  have hfails : move.fails found = true := by
    rw [Move.fails, houtcome]
    rfl
  constructor <;> simp only [Past.appended_concat, Past.submitted_concat, Past.handed_concat,
    Past.failed_concat, hpast, hfails, hhanded, hperform, if_true, List.append_nil, Bool.true_or,
    Bool.or_true]
  case statements => exact h.statements
  case submitted => exact hsubmitted
  case building =>
    intro hbuilding
    rw [hsubmitted] at hbuilding
    cases hbuilding
  case handed => exact h.handed
  case working => exact nofun
  case ended => exact fun _ => h.release_eq

/-- A statement is added while the batch is being made. -/
theorem Progress.append (h : Progress config past found) (hbuilding : found.1.submitted = false)
    (statement : Statement) :
    Progress config (past ++ [(found, .append statement)])
      ((Move.append statement).perform found).2 := by
  obtain ⟨houtcome, hperform, hhanded⟩ := Move.perform_append hbuilding statement
  obtain ⟨hnone, hworking⟩ := h.building hbuilding
  have hpast : past.submitted = false := h.submitted ▸ hbuilding
  have hfails : (Move.append statement).fails found = false := by
    rw [Move.fails, houtcome]
    rfl
  have hsubmits : (Move.append statement : Move β).submits = false := rfl
  constructor <;> simp only [Past.appended_concat, Past.submitted_concat, Past.handed_concat,
    Past.failed_concat, hpast, hfails, hsubmits, hhanded, hperform, hnone, hworking,
    List.append_nil, Bool.or_false]
  case statements =>
    rw [h.statements]
    rfl
  case submitted => exact hbuilding
  case building => exact fun _ => ⟨trivial, trivial⟩
  case handed => exact .inl trivial
  case working => exact fun _ => h.working hworking
  case ended => exact nofun

/-- The first submission hands the statements over or not, and its transaction goes on or not. -/
theorem Progress.submission (h : Progress config past found)
    (hbuilding : found.1.submitted = false) {move : Move β} (hsubmits : move.submits = true) :
    Progress config (past ++ [(found, move)]) (move.perform found).2 := by
  obtain ⟨batch, txn, environment⟩ := found
  obtain ⟨context, hcontext⟩ := Option.isSome_iff_exists.mp hsubmits
  -- The batch is still being made, so nothing was handed over, and its transaction has a scope.
  obtain ⟨hnone, hworking⟩ := h.building hbuilding
  obtain ⟨scope, hscope⟩ := h.working hworking
  obtain rfl : txn = ofScope scope config := hscope
  have hpast : past.submitted = false := h.submitted ▸ hbuilding
  have hstatements : batch.statements = past.appended := h.statements
  have hstatement : move.statement? = none := by
    cases move with
    | append => cases hcontext
    | _ => rfl
  obtain ⟨answer, after, houtcome, hperform, hsubmitted, -, hhanded⟩ :=
    Move.perform_submission hcontext hbuilding scope config environment
  have hfails : move.fails (batch, ofScope scope config, environment) = !answer.isOk := by
    rw [Move.fails, houtcome]
    cases answer <;> rfl
  constructor <;> simp only [Past.appended_concat, Past.submitted_concat, Past.handed_concat,
    Past.failed_concat, hpast, hfails, hsubmits, hhanded, hperform, hnone, hworking, hstatement,
    hstatements, List.nil_append, Bool.or_true, Bool.false_or]
  case statements => simp
  case building => exact nofun
  case handed =>
    split
    case isTrue => exact .inl rfl
    case isFalse hsome => exact .inr ⟨by simpa using fun hnil => hsome (.inr hnil), by simp⟩
  case working =>
    intro hok
    cases hsubmitted.worked with
    | stopped => cases hok
    | failed => cases hok
    | answered => exact ⟨_, rfl⟩
  case ended =>
    intro hfailed
    cases hsubmitted.worked with
    | stopped => rfl
    | failed => rfl
    | answered => cases hfailed

/-- Every move keeps account. -/
theorem Progress.concat (h : Progress config past found) (move : Move β) :
    Progress config (past ++ [(found, move)]) (move.perform found).2 := by
  cases hsubmitted : found.1.submitted with
  | true =>
      cases move with
      | meanwhile change => exact h.meanwhile change
      | _ => exact h.misused hsubmitted rfl
  | false =>
      cases move with
      | meanwhile change => exact h.meanwhile change
      | append statement => exact h.append hsubmitted statement
      | submit context => exact h.submission hsubmitted rfl
      | submitExpecting context expected => exact h.submission hsubmitted rfl

/-! ## What a move does, given those before it -/

/-- What a move on a batch comes to, whatever the executor is. -/
structure Lawful [Executor β σ] (config : SessionConfig) (past : Past β σ) (found : Site β σ)
    (move : Move β) : Prop where
  /-- Up to now the statements have been handed over once and together, if at all. -/
  handed : Past.handed (past ++ [(found, move)]) = [] ∨
    Past.appended (past ++ [(found, move)]) ≠ [] ∧
      Past.handed (past ++ [(found, move)]) = [Past.appended (past ++ [(found, move)])]
  /-- Counts are those that the executor gives for the statements, one for each. -/
  counted : ∀ context counts, move.context? = some context →
    move.outcome found = .ok (some counts) →
      counts.length = past.appended.length ∧
        (past.appended ≠ [] → move.handed found = [past.appended] ∧
          ∃ scope after, found.2.1.scope = some scope ∧
            (Executor.executeBatch context past.appended).run (scope, found.2.2) =
              (.ok counts, after))
  total : ∀ expected counts, move.expected? = some expected →
    move.outcome found = .ok (some counts) → total counts = expected
  /-- Whatever is called after a submission is misuse. -/
  misused : past.submitted = true → move.isCall = true →
    ∃ fault, move.outcome found = .error (.construction fault)
  aborted : Past.failed (past ++ [(found, move)]) = true →
    (move.perform found).2.2.1 = ⟨none, .aborted, config⟩
  /-- What fails for an active transaction gives its scope back to the executor. -/
  discarded : ∀ error, move.outcome found = .error error → found.2.1.scope.isSome = true →
    ∃ left changed, (move.perform found).2.2.2 = ((Executor.abort left).run changed).2

/-- Only submissions are answered by counts. -/
theorem Move.exists_context {move : Move β} {site : Site β σ} {counts : List Int}
    (h : move.outcome site = .ok (some counts)) : ∃ context, move.context? = some context := by
  cases move with
  | submit context => exact ⟨context, rfl⟩
  | submitExpecting context expected => exact ⟨context, rfl⟩
  | append statement =>
      obtain ⟨_, -, hnone⟩ := Except.map_eq_ok_iff.mp h
      cases hnone
  | meanwhile change => cases h

/-- Only calls on the batch fail. -/
theorem Move.isCall_of_error {move : Move β} {site : Site β σ} {error : Error}
    (h : move.outcome site = .error error) : move.isCall = true := by
  cases move with
  | meanwhile change => cases h
  | _ => rfl

/-- Only a batch that has not been submitted gives counts. -/
theorem Move.building_of_counts {move : Move β} {counts : List Int}
    (houtcome : move.outcome found = .ok (some counts)) : found.1.submitted = false := by
  obtain ⟨context, hcontext⟩ := exists_context houtcome
  cases hsubmitted : found.1.submitted with
  | false => rfl
  | true =>
      have hcall : move.isCall = true := by simp [isCall, submits, hcontext]
      obtain ⟨⟨fault, hfault⟩, -⟩ := perform_of_submitted hsubmitted hcall
      rw [hfault] at houtcome
      cases houtcome

/-- Counts are those of work on the statements that were added. -/
theorem Progress.answered (h : Progress config past found) {move : Move β} {context : Context}
    {counts : List Int} (hcontext : move.context? = some context)
    (houtcome : move.outcome found = .ok (some counts)) :
    ∃ scope after, found.2.1.scope = some scope ∧
      (work context past.appended).run (scope, found.2.2) = (.ok counts, after) ∧
      counts.length = past.appended.length ∧
      (∀ expected, move.expected? = some expected → total counts = expected) ∧
      move.handed found = if past.appended = [] then [] else [past.appended] := by
  have hbuilding := Move.building_of_counts houtcome
  obtain ⟨batch, txn, environment⟩ := found
  obtain ⟨scope, hscope⟩ := h.working (h.building hbuilding).2
  obtain rfl : txn = ofScope scope config := hscope
  have hstatements : batch.statements = past.appended := h.statements
  obtain ⟨answer, after, hanswer, -, hsubmitted, htotal, hhanded⟩ :=
    Move.perform_submission hcontext hbuilding scope config environment
  rw [hanswer] at houtcome
  obtain ⟨found, rfl, hcounts⟩ := Except.map_eq_ok_iff.mp houtcome
  cases hcounts
  obtain ⟨hworked, hlength⟩ := hsubmitted
  cases hworked with
  | answered hbefore hwork =>
      refine ⟨scope, _, rfl, hstatements ▸ hwork, hstatements ▸ hlength _ rfl,
        fun expected hexpected => htotal expected _ hexpected rfl, ?_⟩
      simpa [hbefore, hstatements] using hhanded

/-- A first submission that fails gives the scope back as its work has left it. -/
theorem Progress.discarded_of_submission (h : Progress config past found) {move : Move β}
    {error : Error} (hbuilding : found.1.submitted = false)
    (houtcome : move.outcome found = .error error) :
    ∃ left changed, (move.perform found).2.2.2 = ((Executor.abort left).run changed).2 := by
  cases hcontext : move.context? with
  | none =>
      cases move with
      | append statement =>
          rw [(Move.perform_append hbuilding statement).1] at houtcome
          cases houtcome
      | meanwhile change => cases houtcome
      | _ => cases hcontext
  | some context =>
      obtain ⟨batch, txn, environment⟩ := found
      obtain ⟨scope, hscope⟩ := h.working (h.building hbuilding).2
      obtain rfl : txn = ofScope scope config := hscope
      obtain ⟨answer, after, hanswer, hperform, ⟨hworked, -⟩, -⟩ :=
        Move.perform_submission hcontext hbuilding scope config environment
      rw [hanswer] at houtcome
      rw [hperform]
      cases hworked with
      | stopped => exact ⟨scope, environment, rfl⟩
      | @failed _ left changed => exact ⟨left, changed, rfl⟩
      | answered => cases houtcome

/-- Every move is lawful, wherever moves have led to. -/
theorem Progress.lawful (h : Progress config past found) (move : Move β) :
    Lawful config past found move := by
  have hnext := h.concat move
  refine ⟨hnext.handed, ?counted, ?total, ?misused, hnext.ended, ?discarded⟩
  case counted =>
    intro context counts hcontext houtcome
    obtain ⟨scope, after, hscope, hwork, hlength, -, hhanded⟩ := h.answered hcontext houtcome
    refine ⟨hlength, fun hne => ⟨by rw [hhanded, if_neg hne], scope, after, hscope, ?_⟩⟩
    rwa [work, if_neg (by simpa using hne)] at hwork
  case total =>
    intro expected counts hexpected houtcome
    obtain ⟨context, hcontext⟩ := Move.exists_context houtcome
    obtain ⟨_, _, -, -, -, htotal, -⟩ := h.answered hcontext houtcome
    exact htotal expected hexpected
  case misused =>
    intro hpast hcall
    exact (Move.perform_of_submitted (h.submitted.trans hpast) hcall).1
  case discarded =>
    intro error houtcome hactive
    cases hsubmitted : found.1.submitted with
    | true =>
        obtain ⟨scope, hscope⟩ := Option.isSome_iff_exists.mp hactive
        obtain ⟨-, hperform, -⟩ :=
          Move.perform_of_submitted hsubmitted (Move.isCall_of_error houtcome)
        exact ⟨scope, found.2.2, by rw [hperform, release, hscope]⟩
    | false => exact h.discarded_of_submission hsubmitted houtcome

/-! ## Over the database in memory -/

/-- What a move on a batch comes to over the database in memory. -/
structure LawfulInMemory (past : Past Memory Memory.Scope) (found : Site Memory Memory.Scope)
    (move : Move Memory) : Prop where
  /-- Counts are those of the statements, each run where the one before it has left off. -/
  counted : ∀ context counts, move.context? = some context →
    move.outcome found = .ok (some counts) → ∃ scope left, found.2.1.scope = some scope ∧
      Memory.RunsAll context past.appended (scope, found.2.2) counts left
  /-- No call stores a version. -/
  versions : move.isCall = true →
    Mvcc.SameVersions found.2.2.backend.store (move.perform found).2.2.2.backend.store
  /-- What fails for an active transaction takes its marker away, and nothing else. -/
  discarded : ∀ error scope, move.outcome found = .error error → found.2.1.scope = some scope →
    (move.perform found).2.2.2.backend = found.2.2.backend.released scope

section Memory

variable {past : Past Memory Memory.Scope} {found : Site Memory Memory.Scope}

theorem Progress.coherent (h : Progress config past found) : found.2.1.Coherent := by
  cases hfailed : past.failed with
  | true =>
      rw [h.ended hfailed]
      simp [Transaction.Coherent]
  | false =>
      obtain ⟨scope, hscope⟩ := h.working hfailed
      rw [hscope]
      simp [Transaction.Coherent, ofScope]

/-- A call on a batch ends as the calls for its transaction do. -/
theorem Move.served {move : Move Memory} (hcall : move.isCall = true)
    (hcoherent : found.2.1.Coherent) :
    ∃ writes, Transaction.Served writes found.2 (move.outcome found) (move.perform found).2.2 := by
  obtain ⟨batch, site⟩ := found
  cases move with
  | append statement => exact ⟨_, (append_served statement).map _⟩
  | submit context => exact ⟨_, (submit_served context hcoherent).map _⟩
  | submitExpecting context expected =>
      exact ⟨_, (submitExpecting_served context expected hcoherent).map _⟩
  | meanwhile change => cases hcall

theorem Progress.lawfulInMemory (h : Progress config past found) (move : Move Memory) :
    LawfulInMemory past found move := by
  constructor
  case counted =>
    intro context counts hcontext houtcome
    obtain ⟨scope, after, hscope, hwork, -⟩ := h.answered hcontext houtcome
    refine ⟨scope, after, hscope, ?_⟩
    by_cases hnil : past.appended = []
    · rw [hnil] at hwork ⊢
      cases hwork
      exact .nil _
    · rw [work, if_neg (by simpa using hnil)] at hwork
      exact Memory.runsAll_of_executeBatch hwork
  case versions =>
    intro hcall
    obtain ⟨writes, hserved⟩ := Move.served hcall h.coherent
    rcases hserved.store_cases with hsame | ⟨scope, -, hreleased⟩
    · rw [hsame]
      exact .refl _
    · rw [hreleased]
      exact Mvcc.Transaction.sameVersions_release scope _
  case discarded =>
    intro error scope houtcome hscope
    obtain ⟨writes, hserved⟩ := Move.served (Move.isCall_of_error houtcome) h.coherent
    exact hserved.backend_of_failed hscope (by rw [houtcome]; rfl)

end Memory

/-! ## Whole lives -/

/-- Moves of any client lead to where the account of them says. -/
theorem progress_states {client : Interaction (Move β) Move.Answer α} {scope : σ}
    {environment : Environment β} {site : Site β σ}
    (hsite : site ∈ client.states Move.perform (.empty, ofScope scope config, environment)) :
    ∃ past, Progress config past site := by
  obtain ⟨past, rest, -, hpast⟩ := Interaction.states_induction hsite
    (.of_forall (fun _ => trivial) client) (progress_start scope config environment)
    fun _ _ move (_ : True) h => h.concat move
  exact ⟨past, hpast⟩

theorem progress_trace {client : Interaction (Move β) Move.Answer α} {scope : σ}
    {environment : Environment β} {past rest : Past β σ} {found : Site β σ} {move : Move β}
    (htrace : client.trace Move.perform (.empty, ofScope scope config, environment) =
      past ++ (found, move) :: rest) : Progress config past found :=
  (Interaction.trace_induction htrace (.of_forall (fun _ => trivial) client)
    (progress_start scope config environment) fun _ _ move (_ : True) h => h.concat move).1

/-- The life of a batch that was begun on an active transaction, through any calls on it and
whatever happens in between, over any executor. While it is being made, its transaction is active.
Its statements are handed over at most once, together and in their order, if there are any; counts
are the executor's, one for each statement, and add up to what is expected. Every call after a
submission is misuse. After a call that fails the transaction is aborted, and its scope has been
given back. Over the database in memory the counts are those of the statements in their order, no
call stores a version, and what fails takes away the marker alone. -/
theorem moves_lawful :
    (∀ {β σ α : Type} [Executor β σ] (client : Interaction (Move β) Move.Answer α) (scope : σ)
      (config : SessionConfig) (environment : Environment β),
      (∀ site ∈ client.states Move.perform (.empty, ofScope scope config, environment),
        site.1.submitted = false → site.2.1.state = .active) ∧
      ∀ past found move rest,
        client.trace Move.perform (.empty, ofScope scope config, environment) =
          past ++ (found, move) :: rest → Lawful config past found move) ∧
    ∀ {α : Type} (client : Interaction (Move Memory) Move.Answer α) (scope : Memory.Scope)
      (config : SessionConfig) (environment : Environment Memory) past found move rest,
      client.trace Move.perform (.empty, ofScope scope config, environment) =
        past ++ (found, move) :: rest → LawfulInMemory past found move := by
  refine ⟨fun client scope config environment => ⟨?active, ?lawful⟩, ?memory⟩
  case active =>
    intro site hsite hbuilding
    obtain ⟨past, hpast⟩ := progress_states hsite
    obtain ⟨left, hleft⟩ := hpast.working (hpast.building hbuilding).2
    rw [hleft]
    rfl
  case lawful =>
    intro past found move rest htrace
    exact (progress_trace htrace).lawful move
  case memory =>
    intro α client scope config environment past found move rest htrace
    exact (progress_trace htrace).lawfulInMemory move

/-- A batch of two statements is submitted twice. The first time both are counted, the second time
the transaction is aborted. -/
theorem moves_lawful_submitted_twice :
    let context : Context := ⟨0, []⟩
    let one : Statement := ⟨"one", .empty⟩
    let memory := Memory.empty.withUpdate "one" fun _ => do
      Table.Handler.put "t" [] []
      pure 1
    let start : Site Memory Memory.Scope :=
      (.empty, ofScope ⟨⟨1, .empty⟩, .empty, .empty, .empty⟩ .default, ⟨.initial, memory⟩)
    let submit : Move Memory := .submit context
    let made : Site Memory Memory.Scope :=
      (Interaction.run Move.perform (Interaction.ofList [.append one, .append one]) start).2
    submit.outcome made = .ok (some [1, 1]) ∧
      (∃ scope left, made.2.1.scope = some scope ∧
        Memory.RunsAll context [one, one] (scope, made.2.2) [1, 1] left) ∧
      (∃ fault, submit.outcome (submit.perform made).2 = .error (.construction fault)) ∧
      (submit.perform (submit.perform made).2).2.2.1 = ⟨none, .aborted, .default⟩ := by
  intro context one memory start submit made
  let front : List (Move Memory) := [.append one, .append one]
  let past : Past Memory Memory.Scope := (Interaction.ofList front).trace Move.perform start
  have hfirst : (Interaction.ofList (front ++ [submit, submit])).trace Move.perform start =
      past ++ [(made, submit), ((submit.perform made).2, submit)] :=
    Interaction.trace_ofList_append front submit [submit] start
  have hsecond : (Interaction.ofList (front ++ [submit, submit])).trace Move.perform start =
      (past ++ [(made, submit)]) ++ [((submit.perform made).2, submit)] := by
    rw [hfirst, List.append_assoc]
    rfl
  have hcounts : (submit.outcome made).toOption = some (some [1, 1]) := by decide +kernel
  have houtcome : submit.outcome made = .ok (some [1, 1]) := by
    cases hanswer : submit.outcome made with
    | error error =>
        rw [hanswer] at hcounts
        cases hcounts
    | ok answer =>
        rw [hanswer] at hcounts
        exact congrArg Except.ok (Option.some.inj hcounts)
  have hmemory := moves_lawful.2 _ _ _ _ _ _ _ _ hfirst
  have hlawful := (moves_lawful.1 _ _ _ _).2 _ _ _ _ hsecond
  obtain ⟨fault, hfault⟩ := hlawful.misused rfl rfl
  refine ⟨houtcome, hmemory.counted context [1, 1] rfl houtcome, ⟨fault, hfault⟩,
    hlawful.aborted ?_⟩
  rw [Past.failed_concat, Move.fails, hfault]
  exact Bool.or_true _

end Batch

end Transact
