/-
# Histories of worlds

A history lists the requests that led to a world, each with the world that it
found. The row writes of a transaction are read off it: they are those of the
handlers that its queries and its submitted batches ran. Along every run of
clients that leave the database to its transactions, the buffer of an active
transaction holds exactly these writes, and none of the requests that ran them
has failed.
-/

import Transact.Proofs.Interaction
import Transact.Proofs.Session.Effect
import Transact.Session.Retry

namespace Transact

open Table (RowWrite)

namespace World

variable {world after : MemoryWorld} {request : Request Memory} {txn : TxnId}

/-! ## What follows from an effect -/

/-- The transaction that a request works for is there. -/
theorem exists_of_worker (hworker : world.worker? request = some txn) :
    ∃ transaction, world.transaction? txn = some transaction := by
  have hbatch (own : TxnId) (h : ((world.batch? own).map fun _ => own) = some txn) :
      ∃ transaction, world.transaction? txn = some transaction := by
    obtain ⟨batch, hmade, rfl⟩ := Option.map_eq_some_iff.mp h
    obtain ⟨transaction, hslot⟩ := batch?_eq_some_iff.mp hmade
    exact ⟨transaction, transaction?_eq_some_iff.mpr ⟨_, hslot, rfl⟩⟩
  cases request with
  | read own context statement preferDense =>
      obtain ⟨transaction, hfound, rfl⟩ := Option.map_eq_some_iff.mp hworker
      exact ⟨transaction, hfound⟩
  | append own statement => exact hbatch own hworker
  | submit own context => exact hbatch own hworker
  | submitExpecting own context expected => exact hbatch own hworker
  | _ => cases hworker

/-- Opening a transaction works for none. -/
theorem worker_of_opens (hopens : request.opens = true) : world.worker? request = none := by
  cases request <;> first | rfl | cases hopens

/-- A transaction that is there has been opened. -/
theorem WellFormed.lt_opened (hworld : world.WellFormed) {transaction : Transaction Memory.Scope}
    (hfound : world.transaction? txn = some transaction) : txn < world.opened := by
  apply Nat.lt_of_not_le
  intro hle
  rw [hworld.unopened txn hle] at hfound
  cases hfound

theorem Effect.opened_le (h : Effect world request after) : world.opened ≤ after.opened := by
  cases h with
  | opened _ _ hopened _ => exact hopened ▸ Nat.le_succ _
  | quiet _ _ _ hopened _ => exact Nat.le_of_eq hopened.symm
  | unopened _ _ hopened _ => exact Nat.le_of_eq hopened.symm
  | served _ _ _ _ _ hopened _ => exact Nat.le_of_eq hopened.symm
  | committed _ _ _ _ _ hopened _ => exact Nat.le_of_eq hopened.symm

/-- A world stays well formed when its transactions stay as they are. -/
theorem WellFormed.of_same (hworld : world.WellFormed) (hopened : after.opened = world.opened)
    (htransactions : ∀ txn, after.transaction? txn = world.transaction? txn) :
    after.WellFormed where
  unopened txn hle := (htransactions txn).trans (hworld.unopened txn (hopened ▸ hle))
  coherent txn transaction hfound :=
    hworld.coherent txn transaction ((htransactions txn).symm.trans hfound)

/-- A world stays well formed when one of its transactions goes on as a coherent one, or goes. -/
theorem WellFormed.of_update (hworld : world.WellFormed) (hopened : after.opened = world.opened)
    {transaction : Transaction Memory.Scope} {left : Option (Transaction Memory.Scope)}
    (hfound : world.transaction? txn = some transaction)
    (hleft : ∀ outcome, left = some outcome → outcome.Coherent)
    (htransactions : ∀ other, after.transaction? other =
      if other = txn then left else world.transaction? other) : after.WellFormed where
  unopened other hle := by
    rw [hopened] at hle
    have hne : other ≠ txn := by
      rintro rfl
      exact Nat.not_le_of_lt (hworld.lt_opened hfound) hle
    rw [htransactions, if_neg hne, hworld.unopened other hle]
  coherent other outcome houtcome := by
    rw [htransactions] at houtcome
    split at houtcome
    · exact hleft outcome houtcome
    · exact hworld.coherent other outcome houtcome

/-- A request keeps a world well formed. -/
theorem Effect.wellFormed (h : Effect world request after) (hworld : world.WellFormed) :
    after.WellFormed := by
  cases h with
  | quiet _ _ _ hopened htransactions => exact hworld.of_same hopened htransactions
  | unopened _ _ hopened htransactions => exact hworld.of_same hopened htransactions
  | opened _ _ hopened htransactions =>
      constructor
      · intro txn hle
        rw [hopened] at hle
        rw [htransactions, if_neg (Nat.ne_of_gt hle), hworld.unopened txn (Nat.le_of_succ_le hle)]
      · intro txn transaction hfound
        rw [htransactions] at hfound
        split at hfound
        · cases hfound
          simp [Transaction.Coherent, Transaction.ofScope]
        · exact hworld.coherent txn transaction hfound
  | served _ hfound hserved _ hleft hopened htransactions =>
      apply hworld.of_update hopened hfound _ htransactions
      intro outcome houtcome
      rcases hleft with hleft | ⟨hleft, -⟩ <;> rw [hleft] at houtcome <;> cases houtcome
      exact hserved.coherent (hworld.coherent _ _ hfound)
  | committed _ _ hfound _ _ hopened htransactions =>
      apply hworld.of_update hopened hfound _ htransactions
      rintro _ ⟨⟩
      simp [Transaction.Coherent]

/-- Nothing but a commit that goes through touches the versions in the store. -/
theorem Effect.sameVersions (h : Effect world request after) (hcommits : ¬ world.Commits request) :
    Mvcc.SameVersions world.store after.store := by
  cases h with
  | quiet _ _ hstore _ _ => exact hstore ▸ .refl _
  | unopened _ hbegin _ _ =>
      have hsame := Mvcc.Transaction.sameVersions_begin world.store
      rwa [hbegin] at hsame
  | opened _ hbegin _ _ =>
      have hsame := Mvcc.Transaction.sameVersions_begin world.store
      rwa [hbegin] at hsame
  | served _ _ hserved _ _ _ _ =>
      rw [store, store]
      rcases hserved.store_cases with hstore | ⟨scope, -, hstore⟩ <;> rw [hstore]
      · exact .refl _
      · exact Mvcc.Transaction.sameVersions_release _ _
  | committed hrequest hsucceeds _ _ _ _ _ =>
      exact absurd ⟨⟨_, _, hrequest⟩, hsucceeds⟩ hcommits

/-- A commit that goes through applies the buffer of its transaction, which is over then. -/
theorem Effect.commit_eq {context : Context} (h : Effect world (.commit txn context) after)
    (hsucceeds : world.Succeeds (.commit txn context)) :
    ∃ scope, world.scope? txn = some scope ∧ after.scope? txn = none ∧
      after.store = scope.release (scope.apply world.store) := by
  have hcommits : world.Commits (.commit txn context) := ⟨⟨txn, context, rfl⟩, hsucceeds⟩
  cases h with
  | quiet _ hnot _ _ _ => exact absurd hcommits hnot
  | unopened hrequest _ _ _ => cases hrequest
  | opened hrequest _ _ _ => cases hrequest
  | served hnot _ _ _ _ _ _ => exact absurd hcommits hnot
  | @committed _ _ _ scope hrequest _ hfound hscope hstore _ htransactions =>
      cases hrequest
      refine ⟨scope, ?_, ?_, hstore⟩
      · rw [scope?, hfound]
        exact hscope
      · rw [scope?, htransactions, if_pos rfl]
        rfl

/-- A transaction that is active after a request has just begun. Or it was active before: then the
request worked for it and succeeded, and the buffer has grown by the row writes of the request;
or it did not work for it, and the buffer is what it was. -/
theorem Effect.scope_cases (h : Effect world request after) {scope : Memory.Scope}
    (hscope : after.scope? txn = some scope) :
    txn = world.opened ∧ after.opened = world.opened + 1 ∧ request.opens = true ∧
        Mvcc.Transaction.begin.run world.store = (.ok scope, after.store) ∨
      ∃ found, world.scope? txn = some found ∧ scope.snapshot = found.snapshot ∧
        (world.worker? request = some txn ∧ world.Succeeds request ∧
            scope.writes = Mvcc.Writes.addAll found.writes (world.rowWrites request) ∨
          world.worker? request ≠ some txn ∧ scope.writes = found.writes) := by
  cases h with
  | quiet hworker _ _ _ htransactions =>
      rw [scope?, htransactions txn] at hscope
      exact .inr ⟨scope, hscope, rfl, .inr ⟨by simp [hworker], rfl⟩⟩
  | unopened hrequest _ _ htransactions =>
      rw [scope?, htransactions txn] at hscope
      exact .inr ⟨scope, hscope, rfl, .inr ⟨by simp [hrequest, worker?], rfl⟩⟩
  | opened hrequest hbegin hopened htransactions =>
      have hworker : world.worker? request = none := by
        rw [hrequest]
        rfl
      rw [scope?, htransactions txn] at hscope
      split at hscope
      case isTrue hown =>
        obtain rfl : _ = scope := Option.some.inj hscope
        exact .inl ⟨hown, hopened, by rw [hrequest]; rfl, hbegin⟩
      case isFalse => exact .inr ⟨scope, hscope, rfl, .inr ⟨by simp [hworker], rfl⟩⟩
  | served _ hfound hserved hworker hleft _ htransactions =>
      rw [scope?, htransactions txn] at hscope
      split at hscope
      case isTrue hown =>
        subst hown
        rcases hleft with hleft | ⟨hleft, -⟩ <;> rw [hleft] at hscope
        · obtain ⟨hok, found, hbefore, hsnapshot, hwrites⟩ := hserved.scope_eq_some hscope
          have hfoundScope : world.scope? txn = some found := by
            rw [scope?, hfound]
            exact hbefore
          refine .inr ⟨found, hfoundScope, hsnapshot, ?_⟩
          rcases hworker with ⟨hworker, hsucceeds⟩ | ⟨hworker, hnone⟩
          · exact .inl ⟨hworker, hsucceeds hok, hwrites⟩
          · exact .inr ⟨by simp [hworker], by rw [hwrites, hnone]; rfl⟩
        · cases hscope
      case isFalse hother =>
        refine .inr ⟨scope, hscope, rfl, .inr ⟨?_, rfl⟩⟩
        rcases hworker with ⟨hworker, -⟩ | ⟨hworker, -⟩ <;> rw [hworker] <;> intro h
        · exact hother (Option.some.inj h).symm
        · cases h
  | committed hrequest _ _ _ _ _ htransactions =>
      rw [scope?, htransactions txn] at hscope
      split at hscope
      · cases hscope
      · exact .inr ⟨scope, hscope, rfl, .inr ⟨by simp [hrequest, worker?], rfl⟩⟩

/-! ## Histories -/

/-- The requests of a run so far, each with the world that it found. -/
abbrev History := List (MemoryWorld × Request Memory)

/-- The row writes of the handlers that a transaction has run, in the order of their calls. -/
def History.rowWrites (past : History) (txn : TxnId) : List RowWrite :=
  past.flatMap fun call =>
    if call.1.worker? call.2 = some txn then call.1.rowWrites call.2 else []

theorem History.rowWrites_concat (past : History) (world : MemoryWorld)
    (request : Request Memory) (txn : TxnId) :
    History.rowWrites (past ++ [(world, request)]) txn =
      History.rowWrites past txn ++
        if world.worker? request = some txn then world.rowWrites request else [] := by
  rw [rowWrites, List.flatMap_append, List.flatMap_singleton]
  rfl

/-- A history accounts for the active transactions of a world. -/
structure Accounts (past : History) (world : MemoryWorld) : Prop where
  wellFormed : world.WellFormed
  worker_lt : ∀ call ∈ past, ∀ txn, call.1.worker? call.2 = some txn → txn < world.opened
  succeeds : ∀ txn scope, world.scope? txn = some scope →
    ∀ call ∈ past, call.1.worker? call.2 = some txn → call.1.Succeeds call.2
  writes_eq : ∀ txn scope, world.scope? txn = some scope →
    scope.writes = Mvcc.Writes.addAll .empty (History.rowWrites past txn)

/-- On a fresh database there is nothing to account for. -/
theorem accounts_ofBackend (signals : Signals) (memory : Memory) :
    Accounts [] (ofBackend signals memory) where
  wellFormed := ⟨fun _ _ => rfl, nofun⟩
  worker_lt := nofun
  succeeds := nofun
  writes_eq := nofun

/-- No request of the history has worked for a transaction that has not been opened. -/
theorem Accounts.worker_ne {past : History} (h : Accounts past world)
    (htxn : world.opened ≤ txn) {call : MemoryWorld × Request Memory} (hcall : call ∈ past) :
    call.1.worker? call.2 ≠ some txn :=
  fun hworker => Nat.not_le_of_lt (h.worker_lt call hcall txn hworker) htxn

theorem Accounts.rowWrites_eq_nil {past : History} (h : Accounts past world)
    (htxn : world.opened ≤ txn) : History.rowWrites past txn = [] := by
  rw [History.rowWrites, List.flatMap_eq_nil_iff]
  intro call hcall
  rw [if_neg (h.worker_ne htxn hcall)]

/-- A history that accounts for a world goes on to do so through every request. -/
theorem Accounts.concat {past : History} (h : Accounts past world)
    (hrequest : request.KeepsBackend) :
    Accounts (past ++ [(world, request)]) (world.perform request).2 := by
  have heffect := perform_effect h.wellFormed request hrequest
  have hcalls {call : MemoryWorld × Request Memory} (hmem : call ∈ past ++ [(world, request)]) :
      call ∈ past ∨ call = (world, request) := by simpa using hmem
  refine ⟨heffect.wellFormed h.wellFormed, ?worker_lt, ?succeeds, ?writes_eq⟩
  case worker_lt =>
    intro call hmem txn hworker
    apply Nat.lt_of_lt_of_le _ heffect.opened_le
    rcases hcalls hmem with hpast | rfl
    · exact h.worker_lt call hpast txn hworker
    · obtain ⟨transaction, hfound⟩ := exists_of_worker hworker
      exact h.wellFormed.lt_opened hfound
  case succeeds =>
    intro txn scope hscope call hmem hworker
    rcases heffect.scope_cases hscope with ⟨hown, -, hopens, -⟩ | ⟨found, hfound, -, hgrown⟩
    · rcases hcalls hmem with hpast | rfl
      · exact absurd hworker (h.worker_ne (Nat.le_of_eq hown.symm) hpast)
      · rw [worker_of_opens hopens] at hworker
        cases hworker
    · rcases hcalls hmem with hpast | rfl
      · exact h.succeeds txn found hfound call hpast hworker
      · rcases hgrown with ⟨-, hsucceeds, -⟩ | ⟨hother, -⟩
        · exact hsucceeds
        · exact absurd hworker hother
  case writes_eq =>
    intro txn scope hscope
    rw [History.rowWrites_concat]
    rcases heffect.scope_cases hscope with ⟨hown, -, hopens, hbegin⟩ | ⟨found, hfound, -, hgrown⟩
    · rw [Mvcc.Transaction.writes_of_begin hbegin, worker_of_opens hopens,
        h.rowWrites_eq_nil (Nat.le_of_eq hown.symm)]
      rfl
    · rcases hgrown with ⟨hworker, -, hwrites⟩ | ⟨hother, hwrites⟩
      · rw [if_pos hworker, Mvcc.Writes.addAll_append, ← h.writes_eq txn found hfound, hwrites]
      · rw [if_neg hother, List.append_nil, hwrites, h.writes_eq txn found hfound]

end World

namespace Client

variable {α : Type}

/-! ## Clients that leave the database to its transactions -/

section Retry

variable {ν : Type} {config : SessionConfig} {policy : RetryPolicy} {context : Context}

theorem all_finish (context : Context) (txn : TxnId) (outcome : Except Error α) :
    Interaction.All Request.KeepsBackend
      (finish context txn outcome : Client Memory (Except Error α)) := by
  refine Interaction.All.bind ⟨trivial, fun _ => trivial⟩ ?_
  intro active
  cases active with
  | false => trivial
  | true =>
      cases outcome with
      | ok value => exact ⟨trivial, fun _ => trivial⟩
      | error error => exact ⟨trivial, fun _ => trivial⟩

theorem all_attempt {body : TxnId → Client Memory (ν × Except Error α)}
    (hbody : ∀ txn, (body txn).All Request.KeepsBackend) :
    (attempt config context body).All Request.KeepsBackend := by
  refine ⟨trivial, fun checked => ?_⟩
  cases checked with
  | error error => trivial
  | ok =>
      refine ⟨trivial, fun opened => ?_⟩
      cases opened with
      | error error => trivial
      | ok txn =>
          exact (hbody txn).bind fun noted => (all_finish context txn noted.2).bind fun _ => trivial

theorem all_attemptsFrom {body : TxnId → List ν → Client Memory (ν × Except Error α)}
    (hbody : ∀ txn notes, (body txn notes).All Request.KeepsBackend) (left : Nat)
    (notes : List ν) :
    (attemptsFrom config policy context body left notes).All Request.KeepsBackend := by
  induction left generalizing notes with
  | zero =>
      rw [attemptsFrom]
      refine (all_attempt fun txn => hbody txn notes).bind fun attempted => ?_
      cases attempted with
      | refused error => trivial
      | finished txn note outcome => exact ⟨trivial, fun _ => trivial⟩
  | succ left ih =>
      rw [attemptsFrom]
      refine (all_attempt fun txn => hbody txn notes).bind fun attempted => ?_
      cases attempted with
      | refused error => trivial
      | finished txn note outcome =>
          simp only
          split
          · refine ⟨trivial, fun slept => ?_⟩
            cases slept with
            | error error => exact ⟨trivial, fun _ => trivial⟩
            | ok => exact ⟨trivial, fun _ => ih _⟩
          · exact ⟨trivial, fun _ => trivial⟩

/-- Running a closure again after conflicts leaves the database to its transactions, if the
closure does. -/
theorem all_runTransactionWith
    {body : TxnId → List ν → Client Memory (ν × Except Error α)}
    (hbody : ∀ txn notes, (body txn notes).All Request.KeepsBackend) :
    (runTransactionWith config policy context body).All Request.KeepsBackend :=
  all_attemptsFrom hbody _ _

end Retry

/-! ## Runs -/

/-- The requests of a client's run on a database without transactions. -/
def history (client : Client Memory α) (signals : Signals) (memory : Memory) :
    World.History :=
  client.trace World.perform (World.ofBackend signals memory)

/-- At every request of a run, the requests before it account for the active transactions. -/
theorem accounts_history {client : Client Memory α} {signals : Signals} {memory : Memory}
    {past rest : World.History} {world : MemoryWorld} {request : Request Memory}
    (hclient : client.All Request.KeepsBackend)
    (hhistory : client.history signals memory = past ++ (world, request) :: rest) :
    World.Accounts past world ∧ request.KeepsBackend :=
  Interaction.trace_induction hhistory hclient (World.accounts_ofBackend signals memory)
    fun _ _ _ hrequest h => h.concat hrequest

end Client

end Transact
