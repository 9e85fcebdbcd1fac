/-
# Version numbers are not used twice

While the counter does not overflow, it names a number above those of all stored
versions and of all active transactions. So each active transaction has a number
of its own, and nothing is stored under it yet: the versions that it will commit
are new entries. The store that a run starts from only has to have its counter
ahead of its versions, as the empty one has.
-/

import Transact.Proofs.Session.History

namespace Transact

namespace Mvcc

/-- The counter of a store names a number above those of its versions. -/
structure Numbered (store : Store) (next : UInt64) : Prop where
  counter : nextVersion store = .ok next
  version_lt : ∀ key version, store.contains (Key.version key version).encode = true →
    version < next

theorem numbered_empty : Numbered .empty 1 := ⟨rfl, nofun⟩

theorem SameVersions.contains_eq {before after : Store} (h : SameVersions before after)
    (key : Bytes) (version : UInt64) :
    after.contains (Key.version key version).encode =
      before.contains (Key.version key version).encode := by
  rw [OrderedMap.contains, OrderedMap.contains, h key version]

theorem nextVersion_congr {before after : Store}
    (h : after.get? Key.nextVersion.encode = before.get? Key.nextVersion.encode) :
    nextVersion after = nextVersion before := by
  rw [nextVersion, nextVersion, h]

namespace Numbered

variable {store after : Store} {next : UInt64} {txn : Transaction}

/-- Setting the counter to a higher number, among other things, keeps it ahead of the versions. -/
theorem of_sameVersions (h : Numbered store next) (hsame : SameVersions store after)
    {raised : UInt64} (hraised : next ≤ raised) (hcounter : nextVersion after = .ok raised) :
    Numbered after raised where
  counter := hcounter
  version_lt key version hstored := by
    rw [hsame.contains_eq] at hstored
    exact UInt64.lt_of_lt_of_le (h.version_lt key version hstored) hraised

/-- There are no versions from the counter on. -/
theorem get?_eq_none (h : Numbered store next) (key : Bytes) {version : UInt64}
    (hversion : next ≤ version) : store.get? (Key.version key version).encode = none := by
  apply Option.eq_none_iff_forall_ne_some.mpr
  intro stored hstored
  have hlt := h.version_lt key version (OrderedMap.contains_iff.mpr ⟨stored, hstored⟩)
  exact absurd (UInt64.lt_of_lt_of_le hlt hversion) (UInt64.lt_irrefl _)

theorem release (h : Numbered store next) (txn : Transaction) :
    Numbered (txn.release store) next := by
  apply h.of_sameVersions (Transaction.sameVersions_release txn store) UInt64.le_rfl
  rw [← h.counter]
  apply nextVersion_congr
  rw [Transaction.get?_release, if_neg]
  simp

/-- A commit writes under the number of its transaction, which is below the counter. -/
theorem commit (h : Numbered store next) (htxn : txn.version < next) :
    Numbered (txn.release (txn.apply store)) next where
  counter := by
    rw [← h.counter]
    apply nextVersion_congr
    rw [Transaction.get?_release, if_neg (by simp), Transaction.get?_apply_of_ne]
    simp
  version_lt key version hstored := by
    rw [OrderedMap.contains, Transaction.get?_release_apply_version] at hstored
    split at hstored
    case isTrue hown => exact hown ▸ htxn
    case isFalse => exact h.version_lt key version hstored

/-- A beginning raises the counter by one at most. One that goes through raises it, and takes the
number that it named. -/
theorem begin (h : Numbered store next) (hfits : next.toNat + 1 < UInt64.size) :
    ∃ raised, Numbered (Transaction.begin.run store).2 raised ∧ next ≤ raised ∧
      raised.toNat ≤ next.toNat + 1 ∧
      ∀ txn, (Transaction.begin.run store).1 = .ok txn → txn.version = next ∧ next < raised := by
  have hnext : (next + 1).toNat = next.toNat + 1 := by
    rw [UInt64.toNat_add]
    exact Nat.mod_eq_of_lt hfits
  have hlt : next < next + 1 := by
    rw [UInt64.lt_iff_toNat_lt, hnext]
    exact Nat.lt_succ_self _
  have hsame := Transaction.sameVersions_begin store
  rcases Transaction.begin_cases store with
    ⟨fault, hbegin⟩ | ⟨version, hversion, ⟨fault, hbegin⟩ | ⟨active, hbegin⟩⟩ <;>
    rw [hbegin] at hsame ⊢
  · exact ⟨next, h, UInt64.le_rfl, Nat.le_succ _, nofun⟩
  · obtain rfl : version = next := Except.ok.inj (hversion.symm.trans h.counter)
    refine ⟨version + 1, h.of_sameVersions hsame (UInt64.le_of_lt hlt) ?_, UInt64.le_of_lt hlt,
      Nat.le_of_eq hnext, nofun⟩
    simp [nextVersion]
  · obtain rfl : version = next := Except.ok.inj (hversion.symm.trans h.counter)
    refine ⟨version + 1, h.of_sameVersions hsame (UInt64.le_of_lt hlt) ?_, UInt64.le_of_lt hlt,
      Nat.le_of_eq hnext, ?_⟩
    · simp [nextVersion]
    · rintro txn ⟨⟩
      exact ⟨rfl, hlt⟩

end Numbered

end Mvcc

namespace World

variable {world after : MemoryWorld} {request : Request Memory} {txn : TxnId}

/-- The counter names a number above all that are in use, and each active transaction has a
number of its own without any versions. -/
structure Counts (world : MemoryWorld) (next : UInt64) : Prop where
  numbered : Mvcc.Numbered world.store next
  version_lt : ∀ txn scope, world.scope? txn = some scope → scope.version < next
  version_inj : ∀ txn other scope found, world.scope? txn = some scope →
    world.scope? other = some found → scope.version = found.version → txn = other
  unwritten : ∀ txn scope, world.scope? txn = some scope →
    ∀ key, world.store.get? (Mvcc.Key.version key scope.version).encode = none

/-- A request raises the counter by one at most, and only to open a transaction, which then has
the number that the counter named. -/
theorem Effect.numbered (h : Effect world request after) {next : UInt64}
    (hcounts : Counts world next) (hfits : request.opens = true → next.toNat + 1 < UInt64.size) :
    ∃ raised, Mvcc.Numbered after.store raised ∧ next ≤ raised ∧
      raised.toNat ≤ next.toNat + (if request.opens then 1 else 0) ∧
      (after.opened = world.opened + 1 → ∀ scope,
        Mvcc.Transaction.begin.run world.store = (.ok scope, after.store) →
          scope.version = next ∧ next < raised) := by
  have hkept (hnumbered : Mvcc.Numbered after.store next) (hopened : after.opened = world.opened) :
      ∃ raised, Mvcc.Numbered after.store raised ∧ next ≤ raised ∧
        raised.toNat ≤ next.toNat + (if request.opens then 1 else 0) ∧
        (after.opened = world.opened + 1 → ∀ scope,
          Mvcc.Transaction.begin.run world.store = (.ok scope, after.store) →
            scope.version = next ∧ next < raised) :=
    ⟨next, hnumbered, UInt64.le_rfl, Nat.le_add_right _ _,
      fun h => absurd (h.symm.trans hopened) (Nat.succ_ne_self _)⟩
  cases h with
  | quiet _ _ hstore hopened _ => exact hkept (hstore ▸ hcounts.numbered) hopened
  | unopened hrequest hbegin hopened _ =>
      have hopens : request.opens = true := by rw [hrequest]; rfl
      obtain ⟨raised, hnumbered, hle, htoNat, hown⟩ := hcounts.numbered.begin (hfits hopens)
      rw [hbegin] at hnumbered hown
      refine ⟨raised, hnumbered, hle, by rwa [if_pos hopens], fun _ scope hscope => ?_⟩
      rw [hbegin] at hscope
      cases hscope
  | opened hrequest hbegin hopened _ =>
      have hopens : request.opens = true := by rw [hrequest]; rfl
      obtain ⟨raised, hnumbered, hle, htoNat, hown⟩ := hcounts.numbered.begin (hfits hopens)
      rw [hbegin] at hnumbered
      refine ⟨raised, hnumbered, hle, by rwa [if_pos hopens], fun _ scope hscope => ?_⟩
      exact hown scope (congrArg Prod.fst hscope)
  | served _ _ hserved _ _ hopened _ =>
      apply hkept _ hopened
      rw [store]
      rcases hserved.store_cases with hstore | ⟨scope, -, hstore⟩ <;> rw [hstore]
      · exact hcounts.numbered
      · exact hcounts.numbered.release scope
  | @committed own _ _ scope _ _ hfound hscope hstore hopened _ =>
      have hown : world.scope? own = some scope := by
        rw [scope?, hfound]
        exact hscope
      apply hkept _ hopened
      rw [hstore]
      exact hcounts.numbered.commit (hcounts.version_lt _ _ hown)

/-- A request keeps the numbers apart. -/
theorem Effect.counts (h : Effect world request after) {next : UInt64}
    (hcounts : Counts world next) (hfits : request.opens = true → next.toNat + 1 < UInt64.size) :
    ∃ raised, Counts after raised ∧ next ≤ raised ∧
      raised.toNat ≤ next.toNat + (if request.opens then 1 else 0) := by
  obtain ⟨raised, hnumbered, hle, htoNat, hown⟩ := h.numbered hcounts hfits
  -- An active transaction is new and has the number `next`, or it was active before.
  have hcases (txn : TxnId) (scope : Memory.Scope) (hscope : after.scope? txn = some scope) :
      txn = world.opened ∧ request.opens = true ∧ scope.version = next ∧ next < raised ∨
        ∃ found, world.scope? txn = some found ∧ scope.version = found.version := by
    rcases h.scope_cases hscope with ⟨htxn, hopened, hopens, hbegin⟩ | ⟨found, hfound, hsnapshot, -⟩
    · exact .inl ⟨htxn, hopens, hown hopened scope hbegin⟩
    · exact .inr ⟨found, hfound, congrArg Mvcc.Snapshot.version hsnapshot⟩
  refine ⟨raised, ⟨hnumbered, ?version_lt, ?version_inj, ?unwritten⟩, hle, htoNat⟩
  case version_lt =>
    intro txn scope hscope
    rcases hcases txn scope hscope with ⟨-, -, hversion, hlt⟩ | ⟨found, hfound, hversion⟩
    · exact hversion ▸ hlt
    · rw [hversion]
      exact UInt64.lt_of_lt_of_le (hcounts.version_lt txn found hfound) hle
  case version_inj =>
    intro txn other scope found hscope hfound heq
    rcases hcases txn scope hscope with ⟨htxn, -, hversion, -⟩ | ⟨before, hbefore, hversion⟩ <;>
      rcases hcases other found hfound with
        ⟨hother, -, hversion', -⟩ | ⟨before', hbefore', hversion'⟩
    · rw [htxn, hother]
    · have hlt := hcounts.version_lt other before' hbefore'
      rw [← hversion', ← heq, hversion] at hlt
      exact absurd hlt (UInt64.lt_irrefl _)
    · have hlt := hcounts.version_lt txn before hbefore
      rw [← hversion, heq, hversion'] at hlt
      exact absurd hlt (UInt64.lt_irrefl _)
    · exact hcounts.version_inj txn other before before' hbefore hbefore'
        (hversion.symm.trans (heq.trans hversion'))
  case unwritten =>
    intro txn scope hscope key
    have hbefore : world.store.get? (Mvcc.Key.version key scope.version).encode = none := by
      rcases hcases txn scope hscope with ⟨-, -, hversion, -⟩ | ⟨found, hfound, hversion⟩
      · rw [hversion]
        exact hcounts.numbered.get?_eq_none key UInt64.le_rfl
      · rw [hversion]
        exact hcounts.unwritten txn found hfound key
    by_cases hcommits : world.Commits request
    · obtain ⟨⟨own, context, rfl⟩, hsucceeds⟩ := hcommits
      obtain ⟨committed, hcommitted, hover, hstore⟩ := h.commit_eq hsucceeds
      have hne : scope.version ≠ committed.version := by
        intro heq
        rcases hcases txn scope hscope with ⟨-, hopens, -, -⟩ | ⟨found, hfound, hversion⟩
        · cases hopens
        · obtain rfl := hcounts.version_inj txn own found committed hfound hcommitted
            (hversion.symm.trans heq)
          rw [hover] at hscope
          cases hscope
      rw [hstore, Mvcc.Transaction.get?_release_apply_version, if_neg hne, hbefore]
    · rw [h.sameVersions hcommits key, hbefore]

/-- How often a transaction was to be opened. -/
def History.openings (past : History) : Nat := past.countP fun call => call.2.opens

theorem History.openings_concat (past : History) (world : MemoryWorld)
    (request : Request Memory) :
    openings (past ++ [(world, request)]) = past.openings + if request.opens then 1 else 0 := by
  simp [openings, List.countP_cons]

theorem History.openings_append (past later : History) :
    openings (past ++ later) = past.openings + later.openings :=
  List.countP_append

end World

namespace Client

open World (History Accounts Counts)

/-- At every request of a run, the counter has been raised by the openings before it at most, and
is ahead of all numbers in use, unless it has overflowed. -/
theorem counts_history {α : Type} {client : Client Memory α} {signals : Signals} {memory : Memory}
    {past rest : History} {world : MemoryWorld} {request : Request Memory}
    (hclient : client.All Request.KeepsBackend) {start : UInt64}
    (hstart : Mvcc.Numbered memory.store start)
    (hhistory : client.history signals memory = past ++ (world, request) :: rest)
    (hfits : start.toNat + past.openings < UInt64.size) :
    ∃ next, Counts world next ∧ next.toNat ≤ start.toNat + past.openings := by
  have hinitial : Accounts [] (World.ofBackend signals memory) ∧
      (start.toNat + History.openings [] < UInt64.size →
        ∃ next, Counts (World.ofBackend signals memory) next ∧
          next.toNat ≤ start.toNat + History.openings []) := by
    refine ⟨World.accounts_ofBackend signals memory, fun _ => ⟨start, ?_, Nat.le_add_right _ _⟩⟩
    exact ⟨hstart, nofun, nofun, nofun⟩
  have hrun := Interaction.trace_induction (motive := fun past world => Accounts past world ∧
      (start.toNat + History.openings past < UInt64.size →
        ∃ next, Counts world next ∧ next.toNat ≤ start.toNat + History.openings past))
    hhistory hclient hinitial ?step
  case step =>
    rintro past world request hrequest ⟨haccounts, hcounts⟩
    refine ⟨haccounts.concat hrequest, fun hfits => ?_⟩
    rw [History.openings_concat] at hfits ⊢
    obtain ⟨next, hnext, hle⟩ := hcounts (by omega)
    obtain ⟨raised, hraised, -, hstep⟩ :=
      (World.perform_effect haccounts.wellFormed request hrequest).counts hnext fun hopens => by
        rw [if_pos hopens] at hfits
        omega
    exact ⟨raised, hraised, by omega⟩
  exact hrun.1.2 hfits

end Client

end Transact
