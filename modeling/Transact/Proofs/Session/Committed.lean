/-
# Committed data changes at commits only

A client is any program of requests, so it stands for any number of sessions,
for any interleaving of their requests, and for closures that are run again
after a conflict. The run of a client that leaves the database to its
transactions is looked at request by request. Only a commit that goes through
touches the versions in the store. It writes what its transaction has buffered,
and that is what the handlers of the transaction have written, in the order of
their calls: nothing is lost, nothing is written twice, and nothing comes from a
query or a batch that failed.

That the versions are new entries holds as long as the counter has not
overflowed; everything else holds without any condition on the store.
-/

import Transact.Proofs.Session.Numbering

namespace Transact

open World (History)

namespace Client

variable {α : Type} {client : Client Memory α} {signals : Signals} {memory : Memory}
  {past rest : History} {world : MemoryWorld} {request : Request Memory}

/-- Whatever its clients do, a run changes the stored versions only by commits that go through.
Such a commit finds its transaction with a buffer that is what the row writes of all its queries
and batches come to, none of which has failed; it stores each buffered write as the version of
its key and of the transaction's own number, and leaves all other versions as they are. Nothing
was stored under these numbers before, unless the counter has overflowed. -/
theorem versions_change_at_commit (hclient : client.All Request.KeepsBackend)
    (hhistory : client.history signals memory = past ++ (world, request) :: rest) :
    (¬ world.Commits request →
      Mvcc.SameVersions world.store (world.perform request).2.store) ∧
    ∀ txn context, request = .commit txn context → world.Succeeds request →
      ∃ scope, world.scope? txn = some scope ∧
        (∀ call ∈ past, call.1.worker? call.2 = some txn → call.1.Succeeds call.2) ∧
        scope.writes = Mvcc.Writes.addAll .empty (past.rowWrites txn) ∧
        (∀ key version,
          (world.perform request).2.store.get? (Mvcc.Key.version key version).encode =
            if version = scope.version then
              ((scope.writes.get? key).map Mvcc.encodeVersion).or
                (world.store.get? (Mvcc.Key.version key version).encode)
            else world.store.get? (Mvcc.Key.version key version).encode) ∧
        ∀ start, Mvcc.Numbered memory.store start →
          start.toNat + past.openings < UInt64.size →
            ∀ key, world.store.get? (Mvcc.Key.version key scope.version).encode = none := by
  obtain ⟨haccounts, hrequest⟩ := accounts_history hclient hhistory
  have heffect := World.perform_effect haccounts.wellFormed request hrequest
  refine ⟨heffect.sameVersions, ?_⟩
  rintro txn context rfl hsucceeds
  obtain ⟨scope, hscope, -, hstore⟩ := heffect.commit_eq hsucceeds
  refine ⟨scope, hscope, haccounts.succeeds txn scope hscope,
    haccounts.writes_eq txn scope hscope, ?_, ?_⟩
  · intro key version
    rw [hstore, Mvcc.Transaction.get?_release_apply_version]
  · intro start hstart hfits key
    obtain ⟨next, hcounts, -⟩ := counts_history hclient hstart hhistory hfits
    exact hcounts.unwritten txn scope hscope key

/-- Two transactions write one row. The batch of the second fails after its first statement, and
the first commits: one version is stored, and it is the first transaction's. -/
theorem versions_change_at_commit_of_two :
    let context : Context := ⟨0, []⟩
    let put : Table.Handler Int := do
      Table.Handler.put "t" [] [.null (.scalar .bool)]
      pure 1
    let memory := (Memory.empty.withUpdate "put" fun _ => put).withUpdate "fail" fun _ =>
      throw .conflictAborted
    let front : List (Request Memory) := [.openTransaction .default context,
      .openTransaction .default context, .newBatch 0, .append 0 ⟨"put", .empty⟩,
      .submit 0 context, .newBatch 1, .append 1 ⟨"put", .empty⟩, .append 1 ⟨"fail", .empty⟩,
      .submit 1 context]
    let world : MemoryWorld := (run (Interaction.ofList front) (.ofBackend .initial memory)).2
    let key := Table.rowKey "t" []
    let write := some (Record.rowField [.null (.scalar .bool)])
    world.scope? 1 = none ∧ world.Succeeds (.commit 0 context) ∧
      world.store.get? (Mvcc.Key.version key 1).encode = none ∧
      (world.perform (.commit 0 context)).2.store.get? (Mvcc.Key.version key 1).encode =
        some (Mvcc.encodeVersion write) := by
  intro context put memory front world key write
  have hclient : Interaction.All Request.KeepsBackend
      (Interaction.ofList (front ++ [.commit 0 context]) : Client Memory Unit) := by
    apply Interaction.all_ofList
    simp [front, Request.KeepsBackend]
  have hhistory :
      history (Interaction.ofList (front ++ [.commit 0 context])) .initial memory =
        Interaction.trace World.perform (Interaction.ofList front : Client Memory Unit)
          (.ofBackend .initial memory) ++ [(world, .commit 0 context)] :=
    Interaction.trace_ofList_append front (.commit 0 context) [] _
  have hfailed : world.scope? 1 = none := by decide +kernel
  have hsucceeds : world.Succeeds (.commit 0 context) := by decide +kernel
  have hown : world.scope? 0 = some ⟨⟨1, .empty⟩, .empty, .empty,
      OrderedMap.empty.insert key write⟩ := by decide +kernel
  have hfits : (1 : UInt64).toNat + History.openings (Interaction.trace World.perform
      (Interaction.ofList front : Client Memory Unit) (.ofBackend .initial memory)) <
        UInt64.size := by
    decide +kernel
  obtain ⟨scope, hscope, -, -, hversions, hnew⟩ :=
    (versions_change_at_commit hclient hhistory).2 0 context rfl hsucceeds
  have heq := Option.some.inj (hscope.symm.trans hown)
  have hversion : scope.version = 1 := congrArg Mvcc.Transaction.version heq
  have hwrite : scope.writes.get? key = some write := by
    rw [heq, OrderedMap.get?_insert, if_pos rfl]
  have hnone := hnew 1 Mvcc.numbered_empty hfits key
  have hstored := hversions key 1
  rw [if_pos hversion.symm, hwrite] at hstored
  rw [hversion] at hnone
  exact ⟨hfailed, hsucceeds, hnone, hstored⟩

end Client

end Transact
