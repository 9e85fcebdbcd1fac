/-
# The numbers of transactions that are over

When a transaction is over, its number is spent: it stays below the counter, no
transaction gets it again, and what is stored under it does not change any more.
What a transaction leaves under its number is what it has committed, or nothing.
-/

import Transact.Proofs.Session.Markers

namespace Transact

theorem Mvcc.Numbered.eq {store : Store} {next raised : UInt64} (h : Numbered store next)
    (hraised : Numbered store raised) : raised = next :=
  Except.ok.inj (hraised.counter.symm.trans h.counter)

namespace World

variable {world after : MemoryWorld} {request : Request Memory} {txn : TxnId}
  {version next : UInt64} {left : Bytes → Option Bytes} {past : History} {scope : Memory.Scope}

/-- A number that no transaction has any more, with what is stored under it. -/
structure Spent (world : MemoryWorld) (version : UInt64) (left : Bytes → Option Bytes) : Prop where
  lt : ∀ next, Mvcc.Numbered world.store next → version < next
  unused : ∀ txn scope, world.scope? txn = some scope → scope.version ≠ version
  stored : ∀ key, world.store.get? (Mvcc.Key.version key version).encode = left key

/-- A number below the counter that no active transaction has stays one, unless its own
transaction is active again, and this never happens. -/
theorem Effect.unused (h : Effect world request after) (hcounts : Counts world next)
    (hfits : request.opens = true → next.toNat + 1 < UInt64.size) (hlt : version < next)
    (hunused : ∀ txn scope found, after.scope? txn = some scope → world.scope? txn = some found →
      scope.version = found.version → found.version ≠ version) :
    (∀ raised, Mvcc.Numbered after.store raised → version < raised) ∧
      ∀ txn scope, after.scope? txn = some scope → scope.version ≠ version := by
  obtain ⟨raised, hnumbered, hle, -, hown⟩ := h.numbered hcounts hfits
  constructor
  · intro other hother
    rw [hnumbered.eq hother]
    exact UInt64.lt_of_lt_of_le hlt hle
  · intro txn scope hscope
    rcases h.scope_cases hscope with ⟨-, hopened, -, hbegin⟩ | ⟨found, hfound, hsnapshot, -⟩
    · rw [(hown hopened scope hbegin).1]
      rintro rfl
      exact UInt64.lt_irrefl _ hlt
    · have hversion : scope.version = found.version := congrArg Mvcc.Snapshot.version hsnapshot
      rw [hversion]
      exact hunused txn scope found hscope hfound hversion

/-- A spent number stays spent, and what is stored under it stays the same. -/
theorem Spent.perform (h : Spent world version left) (heffect : Effect world request after)
    (hcounts : Counts world next) (hfits : request.opens = true → next.toNat + 1 < UInt64.size) :
    Spent after version left := by
  obtain ⟨hlt, hunused⟩ := heffect.unused hcounts hfits (h.lt next hcounts.numbered)
    fun txn _ found _ hfound _ => h.unused txn found hfound
  refine ⟨hlt, hunused, fun key => ?_⟩
  rw [← h.stored key]
  by_cases hcommits : world.Commits request
  · obtain ⟨⟨own, context, rfl⟩, hsucceeds⟩ := hcommits
    obtain ⟨committed, hcommitted, -, hstore⟩ := heffect.commit_eq hsucceeds
    rw [hstore, Mvcc.Transaction.get?_release_apply_version, if_neg]
    exact (h.unused own committed hcommitted).symm
  · exact heffect.sameVersions hcommits key version

/-- A spent number has no marker. -/
theorem Spent.unmarked (h : Spent world version left) (hmarks : Marks world) :
    world.store.contains (Mvcc.Key.active version).encode = false := by
  rw [Bool.eq_false_iff]
  intro hmarked
  obtain ⟨txn, scope, hscope, hversion⟩ := (hmarks.marker version).mp hmarked
  exact h.unused txn scope hscope hversion

/-- When a transaction stops being active, its number is spent. -/
theorem Effect.spent (h : Effect world request after) (hcounts : Counts world next)
    (hfits : request.opens = true → next.toNat + 1 < UInt64.size)
    (hscope : world.scope? txn = some scope) (hover : after.scope? txn = none) :
    Spent after scope.version fun key =>
      after.store.get? (Mvcc.Key.version key scope.version).encode := by
  have hother (other : TxnId) (later found : Memory.Scope)
      (hlater : after.scope? other = some later) (hfound : world.scope? other = some found) :
      found.version ≠ scope.version := by
    intro heq
    obtain rfl := hcounts.version_inj other txn found scope hfound hscope heq
    rw [hover] at hlater
    cases hlater
  obtain ⟨hlt, hunused⟩ := h.unused hcounts hfits (hcounts.version_lt txn scope hscope)
    fun other later found hlater hfound _ => hother other later found hlater hfound
  exact ⟨hlt, hunused, fun _ => rfl⟩

/-- Nothing is stored under the number of an active transaction before it commits. -/
theorem Effect.unwritten (h : Effect world request after) (hcounts : Counts world next)
    (hscope : world.scope? txn = some scope)
    (hother : ∀ context, request = .commit txn context → ¬ world.Succeeds request) (key : Bytes) :
    after.store.get? (Mvcc.Key.version key scope.version).encode = none := by
  rw [← hcounts.unwritten txn scope hscope key]
  by_cases hcommits : world.Commits request
  · obtain ⟨⟨own, context, rfl⟩, hsucceeds⟩ := hcommits
    obtain ⟨committed, hcommitted, -, hstore⟩ := h.commit_eq hsucceeds
    rw [hstore, Mvcc.Transaction.get?_release_apply_version, if_neg]
    intro heq
    obtain rfl := hcounts.version_inj txn own scope committed hscope hcommitted heq
    exact hother context rfl hsucceeds
  · exact h.sameVersions hcommits key scope.version

/-- A commit that goes through stores the buffered writes under the transaction's number. -/
theorem Effect.committed_get? {context : Context}
    (h : Effect world (.commit txn context) after) (hcounts : Counts world next)
    (hscope : world.scope? txn = some scope) (hsucceeds : world.Succeeds (.commit txn context))
    (key : Bytes) :
    after.store.get? (Mvcc.Key.version key scope.version).encode =
      (scope.writes.get? key).map Mvcc.encodeVersion := by
  obtain ⟨committed, hcommitted, -, hstore⟩ := h.commit_eq hsucceeds
  obtain rfl : committed = scope := Option.some.inj (hcommitted.symm.trans hscope)
  rw [hstore, Mvcc.Transaction.get?_release_apply_version, if_pos rfl,
    hcounts.unwritten txn committed hscope key, Option.or_none]

/-- A transaction that was opened before a request and is active after it was active before it,
with the same number. -/
theorem Effect.active_before (h : Effect world request after) (htxn : txn < world.opened)
    (hscope : after.scope? txn = some scope) :
    ∃ before, world.scope? txn = some before ∧ scope.version = before.version := by
  rcases h.scope_cases hscope with ⟨hown, -⟩ | ⟨before, hbefore, hsnapshot, -⟩
  · exact absurd hown (Nat.ne_of_lt htxn)
  · exact ⟨before, hbefore, congrArg Mvcc.Snapshot.version hsnapshot⟩

/-! ## Along tracked runs -/

/-- Whether the counter does not overflow on the way to a world. -/
def History.Fits (past : History) : Prop := past.openings + 1 < UInt64.size

theorem History.Fits.of_append {later : History} (h : History.Fits (past ++ later)) :
    past.Fits := by
  rw [Fits, History.openings_append] at h
  exact Nat.lt_of_le_of_lt (Nat.succ_le_succ (Nat.le_add_right _ _)) h

theorem History.Fits.concat (h : past.Fits) (hopens : request.opens = false) :
    History.Fits (past ++ [(world, request)]) := by
  rw [Fits, History.openings_concat, hopens]
  exact h

/-- What the numbers of a tracked world are like, with room for a request. -/
theorem Tracked.counts (h : Tracked past world)
    (hfits : History.Fits (past ++ [(world, request)])) :
    Marks world ∧ ∃ next, Counts world next ∧
      (request.opens = true → next.toNat + 1 < UInt64.size) := by
  obtain ⟨hmarks, next, hcounts, hle⟩ := h.numbers hfits.of_append
  refine ⟨hmarks, next, hcounts, fun hopens => ?_⟩
  rw [History.Fits, History.openings_concat, if_pos hopens] at hfits
  exact Nat.lt_of_le_of_lt (Nat.succ_le_succ hle) hfits

end World

namespace Client

open World (Tracked Spent History Counts Effect)

variable {α : Type} {client : Client Memory α} {past : History} {world : MemoryWorld}
  {version : UInt64} {left : Bytes → Option Bytes}

/-- What every request of a run keeps, given the numbers of the world that it finds, holds at the
end of the run. -/
theorem counted_induction {motive : MemoryWorld → Prop} (htracked : Tracked past world)
    (hclient : client.All Request.KeepsBackend)
    (hfits : History.Fits (past ++ client.trace World.perform world)) (hinitial : motive world)
    (hstep : ∀ found request next, (found, request) ∈ client.trace World.perform world →
      Effect found request (found.perform request).2 → Counts found next →
        (request.opens = true → next.toNat + 1 < UInt64.size) →
          motive found → motive (found.perform request).2) :
    motive (client.run world).2 := by
  refine (Interaction.trace_run_induction (motive := fun later found =>
    Tracked (past ++ later) found ∧ motive found) ⟨by rwa [List.append_nil], hinitial⟩ ?step).2
  rintro later found request rest htrace ⟨hfound, hmotive⟩
  have hcall : (found, request) ∈ client.trace World.perform world := by
    rw [htrace]
    simp
  have hrequest : request.KeepsBackend := hclient.of_mem_trace hcall
  have hwhole : History.Fits (past ++ later ++ [(found, request)] ++ rest) := by
    rw [htrace] at hfits
    simpa using hfits
  have hnext := hwhole.of_append
  obtain ⟨-, next, hcounts, hopens⟩ := hfound.counts hnext
  have heffect := World.perform_effect hfound.accounts.wellFormed request hrequest
  rw [← List.append_assoc]
  exact ⟨hfound.concat request hrequest,
    hstep found request next hcall heffect hcounts hopens hmotive⟩

/-- A run of any client keeps what is spent. -/
theorem spent_run (htracked : Tracked past world) (hclient : client.All Request.KeepsBackend)
    (hfits : History.Fits (past ++ client.trace World.perform world))
    (hspent : Spent world version left) : Spent (client.run world).2 version left :=
  counted_induction (motive := fun found => Spent found version left) htracked hclient hfits hspent
    fun _ _ _ _ heffect hcounts hopens hfound => hfound.perform heffect hcounts hopens

/-- A run that does not commit an active transaction leaves it active with its number, or else it
leaves the number spent, with nothing stored under it. -/
theorem uncommitted_run {txn : TxnId} {scope : Memory.Scope} (htracked : Tracked past world)
    (hclient : client.All Request.KeepsBackend)
    (hfits : History.Fits (past ++ client.trace World.perform world))
    (hscope : world.scope? txn = some scope)
    (hown : ∀ call ∈ client.trace World.perform world, ∀ context,
      call.2 ≠ .commit txn context) :
    (∃ later, (client.run world).2.scope? txn = some later ∧ later.version = scope.version) ∨
      (client.run world).2.scope? txn = none ∧
        Spent (client.run world).2 scope.version fun _ => none := by
  obtain ⟨transaction, hfound, -⟩ := Option.bind_eq_some_iff.mp hscope
  refine (counted_induction (motive := fun found => txn < found.opened ∧
    ((∃ later, found.scope? txn = some later ∧ later.version = scope.version) ∨
      found.scope? txn = none ∧ Spent found scope.version fun _ => none)) htracked hclient hfits
    ⟨htracked.accounts.wellFormed.lt_opened hfound, .inl ⟨scope, hscope, rfl⟩⟩ ?step).2
  rintro found request next hcall heffect hcounts hopens ⟨hopened, hmotive⟩
  refine ⟨Nat.lt_of_lt_of_le hopened heffect.opened_le, ?_⟩
  rcases hmotive with ⟨current, hcurrent, hversion⟩ | ⟨hover, hspent⟩
  · cases hafter : (found.perform request).2.scope? txn with
    | some later =>
        obtain ⟨before, hbefore, hkept⟩ := heffect.active_before hopened hafter
        obtain rfl : before = current := Option.some.inj (hbefore.symm.trans hcurrent)
        exact .inl ⟨later, rfl, hkept.trans hversion⟩
    | none =>
        have hspent := heffect.spent hcounts hopens hcurrent hafter
        have hunwritten := heffect.unwritten hcounts hcurrent fun context hcommit =>
          absurd hcommit (hown _ hcall context)
        rw [hversion] at hspent
        refine .inr ⟨rfl, hspent.lt, hspent.unused, fun key => ?_⟩
        rw [← hversion]
        exact hunwritten key
  · refine .inr ⟨?_, hspent.perform heffect hcounts hopens⟩
    cases hafter : (found.perform request).2.scope? txn with
    | none => rfl
    | some later =>
        obtain ⟨before, hbefore, -⟩ := heffect.active_before hopened hafter
        rw [hover] at hbefore
        cases hbefore

end Client

end Transact
