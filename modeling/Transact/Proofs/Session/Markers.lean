/-
# Markers and active transactions

The database marks a transaction as active from its beginning until its scope is
given back. So, as long as the counter of versions has not overflowed, the
markers in the store are those of the active transactions of the world, one for
each, and nothing else in the store begins like a marker. With that every
beginning succeeds.
-/

import Transact.Proofs.Mvcc.Invariant
import Transact.Proofs.Session.Numbering

namespace Transact

namespace Mvcc

/-- Every entry of a store belongs to a key. -/
def Keyed (store : Store) : Prop := ∀ entry ∈ store.entries, ∃ key : Key, entry.1 = key.encode

namespace Keyed

variable {store : Store}

theorem empty : Keyed .empty := nofun

theorem insert (h : Keyed store) (key : Key) (value : Bytes) :
    Keyed (store.insert key.encode value) :=
  Holds.keyed_insert h key value

theorem apply (h : Keyed store) (txn : Transaction) : Keyed (txn.apply store) :=
  Holds.keyed_apply h txn

theorem release (h : Keyed store) (txn : Transaction) : Keyed (txn.release store) := by
  rintro ⟨encoded, stored⟩ hentry
  rw [← OrderedMap.get?_eq_some_iff, Transaction.get?_release] at hentry
  split at hentry
  · cases hentry
  · exact h _ (OrderedMap.get?_eq_some_iff.mp hentry)

theorem markersKeyed (h : Keyed store) : Transaction.MarkersKeyed store :=
  Holds.keyed_markers h

end Keyed

namespace Transaction

/-- Applying writes touches no marker. -/
theorem contains_apply_active (txn : Transaction) (store : Store) (version : UInt64) :
    (txn.apply store).contains (Key.active version).encode =
      store.contains (Key.active version).encode := by
  rw [OrderedMap.contains, OrderedMap.contains, get?_apply_of_ne (by simp)]

/-- Releasing a transaction takes its own marker away, and no other. -/
theorem contains_release_active (txn : Transaction) (store : Store) (version : UInt64) :
    (txn.release store).contains (Key.active version).encode =
      (decide (version ≠ txn.version) && store.contains (Key.active version).encode) := by
  rw [OrderedMap.contains, OrderedMap.contains, get?_release]
  by_cases hown : version = txn.version
  · rw [if_pos (by rw [hown])]
    simp [hown]
  · rw [if_neg (by simpa using hown)]
    simp [hown]

end Transaction

end Mvcc

namespace World

open Mvcc (Keyed)

variable {world after : MemoryWorld} {request : Request Memory} {txn : TxnId} {next : UInt64}

/-- Every entry of the store belongs to a key, and the markers are those of the active
transactions. -/
structure Marks (world : MemoryWorld) : Prop where
  keyed : Keyed world.store
  marker : ∀ version, world.store.contains (Mvcc.Key.active version).encode = true ↔
    ∃ txn scope, world.scope? txn = some scope ∧ scope.version = version

theorem store_ofBackend (signals : Signals) (memory : Memory) :
    (ofBackend signals memory : MemoryWorld).store = memory.store :=
  rfl

theorem marks_ofBackend (signals : Signals) {memory : Memory} (hempty : memory.store = .empty) :
    Marks (ofBackend signals memory) where
  keyed := by
    rw [store_ofBackend, hempty]
    exact .empty
  marker version := by
    rw [store_ofBackend, hempty]
    simp [scope?, transaction?, ofBackend]

namespace Marks

/-- A transaction begins whenever it is asked to, with the number that the counter names. -/
theorem begin_eq (h : Marks world) (hcounts : Counts world next) :
    ∃ active, Mvcc.Transaction.begin.run world.store =
      (.ok ⟨⟨next, active⟩, .empty, .empty, .empty⟩,
        (world.store.insert Mvcc.Key.nextVersion.encode (Mvcc.encodeCounter (next + 1))).insert
          (Mvcc.Key.active next).encode []) := by
  obtain ⟨active, -, hbegin⟩ :=
    Mvcc.Transaction.begin_eq h.keyed.markersKeyed hcounts.numbered.counter
  exact ⟨active, hbegin⟩

/-- Markers stay right while the store and the numbers of the active transactions stay. -/
theorem of_same (h : Marks world) (hstore : after.store = world.store)
    (hversions : ∀ txn version, (∃ scope, after.scope? txn = some scope ∧ scope.version = version) ↔
      ∃ scope, world.scope? txn = some scope ∧ scope.version = version) : Marks after where
  keyed := hstore ▸ h.keyed
  marker version := by
    rw [hstore, h.marker]
    exact exists_congr fun txn => (hversions txn version).symm

/-- Markers stay right when one transaction gives its scope back. -/
theorem of_release (h : Marks world) (hcounts : Counts world next) {scope : Memory.Scope}
    (hscope : world.scope? txn = some scope) {applied : Store} (hkeyed : Keyed applied)
    (happlied : ∀ version, applied.contains (Mvcc.Key.active version).encode =
      world.store.contains (Mvcc.Key.active version).encode)
    (hstore : after.store = scope.release applied)
    (hafter : ∀ other, after.scope? other = if other = txn then none else world.scope? other) :
    Marks after where
  keyed := hstore ▸ hkeyed.release scope
  marker version := by
    rw [hstore, Mvcc.Transaction.contains_release_active, happlied, Bool.and_eq_true,
      decide_eq_true_eq, h.marker]
    constructor
    · rintro ⟨hne, other, found, hfound, rfl⟩
      refine ⟨other, found, ?_, rfl⟩
      rw [hafter, if_neg, hfound]
      rintro rfl
      rw [hscope] at hfound
      exact hne (Option.some.inj hfound ▸ rfl)
    · rintro ⟨other, found, hfound, rfl⟩
      rw [hafter] at hfound
      split at hfound
      · cases hfound
      case isFalse hother =>
        refine ⟨fun heq => hother ?_, other, found, hfound, rfl⟩
        exact hcounts.version_inj other txn found scope hfound hscope heq

end Marks

/-- The scopes that a world's transactions hold after one of them has been updated. -/
theorem scope?_update {left : Option (Transaction Memory.Scope)}
    (htransactions : ∀ other, after.transaction? other =
      if other = txn then left else world.transaction? other) (other : TxnId) :
    after.scope? other =
      if other = txn then left.bind Transaction.scope else world.scope? other := by
  rw [scope?, htransactions]
  split <;> rfl

/-- A request keeps the markers right. -/
theorem Effect.marks (h : Effect world request after) (hworld : world.WellFormed)
    (hmarks : Marks world) (hcounts : Counts world next) : Marks after := by
  cases h with
  | quiet _ _ hstore _ htransactions =>
      apply hmarks.of_same hstore
      intro txn version
      rw [scope?, htransactions, ← scope?]
  | unopened _ hbegin _ _ =>
      obtain ⟨active, hok⟩ := hmarks.begin_eq hcounts
      rw [hbegin] at hok
      cases hok
  | @opened _ _ scope _ hbegin _ htransactions =>
      obtain ⟨active, hok⟩ := hmarks.begin_eq hcounts
      rw [hbegin] at hok
      obtain ⟨hscope, hstore⟩ := Prod.mk.inj hok
      have hversion : scope.version = next :=
        congrArg Mvcc.Transaction.version (Except.ok.inj hscope)
      have hnone : world.scope? world.opened = none := by
        rw [scope?, hworld.unopened _ (Nat.le_refl _)]
        rfl
      constructor
      · rw [hstore]
        exact (hmarks.keyed.insert _ _).insert _ _
      · intro version
        have hcontains : after.store.contains (Mvcc.Key.active version).encode =
            (decide (version = next) ||
              world.store.contains (Mvcc.Key.active version).encode) := by
          rw [hstore]
          simp
        rw [hcontains, Bool.or_eq_true, decide_eq_true_eq, hmarks.marker]
        simp only [scope?_update htransactions]
        constructor
        · rintro (rfl | ⟨other, found, hfound, hother⟩)
          · exact ⟨world.opened, scope, by rw [if_pos rfl]; rfl, hversion⟩
          · refine ⟨other, found, ?_, hother⟩
            rw [if_neg, hfound]
            rintro rfl
            rw [hnone] at hfound
            cases hfound
        · rintro ⟨other, found, hfound, rfl⟩
          split at hfound
          · obtain rfl : scope = found := Option.some.inj hfound
            exact .inl hversion
          · exact .inr ⟨other, found, hfound, rfl⟩
  | @served _ own transaction outcome left _ _ hfound hserved _ hleft _ htransactions =>
      have hafter := scope?_update htransactions
      have hbefore : world.scope? own = transaction.scope := by
        rw [scope?, hfound]
        rfl
      have houtcome : left.bind Transaction.scope = outcome.scope := by
        rcases hleft with rfl | ⟨rfl, hscope⟩
        · rfl
        · exact hscope.symm
      rw [houtcome] at hafter
      rcases hserved.cases with ⟨hscope, hsite⟩ | ⟨scope, working, hscope, hworking, hsnapshot, -,
          hbackend⟩ | ⟨scope, hscope, hreleased, hbackend⟩
      · obtain ⟨rfl, henvironment⟩ := Prod.mk.inj hsite
        apply hmarks.of_same (by rw [store, henvironment, store])
        intro txn version
        rw [hafter]
        split
        case isTrue hown => rw [hown, hbefore]
        case isFalse => rfl
      · apply hmarks.of_same (congrArg Memory.store hbackend)
        intro txn version
        have hversion : working.version = scope.version :=
          congrArg Mvcc.Snapshot.version hsnapshot
        rw [hafter]
        split
        case isTrue hown =>
          obtain rfl : outcome = _ := hworking
          rw [hown, hbefore, hscope]
          simp [hversion]
        case isFalse => rfl
      · obtain rfl : outcome = _ := hreleased
        exact hmarks.of_release hcounts (hbefore.trans hscope) hmarks.keyed (fun _ => rfl)
          (congrArg Memory.store hbackend) hafter
  | @committed own _ transaction scope _ _ hfound hscope hstore _ htransactions =>
      have hbefore : world.scope? own = some scope := by
        rw [scope?, hfound]
        exact hscope
      exact hmarks.of_release hcounts hbefore (hmarks.keyed.apply scope)
        (scope.contains_apply_active world.store) hstore (scope?_update htransactions)

/-! ## Tracked worlds -/

/-- A history on an empty database leads to a world: it accounts for the active transactions, and
unless the counter has overflowed, the numbers are apart and the markers are right. -/
structure Tracked (past : History) (world : MemoryWorld) : Prop where
  accounts : Accounts past world
  numbers : past.openings + 1 < UInt64.size →
    Marks world ∧ ∃ next, Counts world next ∧ next.toNat ≤ past.openings + 1

theorem tracked_ofBackend (signals : Signals) {memory : Memory} (hempty : memory.store = .empty) :
    Tracked [] (ofBackend signals memory) where
  accounts := accounts_ofBackend signals memory
  numbers _ := by
    refine ⟨marks_ofBackend signals hempty, 1, ⟨?_, nofun, nofun, nofun⟩, Nat.le_refl _⟩
    rw [store_ofBackend, hempty]
    exact Mvcc.numbered_empty

/-- Every request leads from a tracked world to a tracked world. -/
theorem Tracked.concat {past : History} (h : Tracked past world) (request : Request Memory)
    (hrequest : request.KeepsBackend) :
    Tracked (past ++ [(world, request)]) (world.perform request).2 where
  accounts := h.accounts.concat hrequest
  numbers hfits := by
    rw [History.openings_concat] at hfits ⊢
    obtain ⟨hmarks, next, hcounts, hle⟩ := h.numbers (by omega)
    have heffect := perform_effect h.accounts.wellFormed request hrequest
    refine ⟨heffect.marks h.accounts.wellFormed hmarks hcounts, ?_⟩
    obtain ⟨raised, hraised, -, hstep⟩ := heffect.counts hcounts fun hopens => by
      rw [if_pos hopens] at hfits
      omega
    exact ⟨raised, hraised, by omega⟩

end World

namespace Client

open World (Tracked)

variable {α : Type} {client : Client Memory α}

/-- A run leads from a tracked world to a tracked world. -/
theorem tracked_run {past : World.History} {world : MemoryWorld} (h : Tracked past world)
    (hclient : client.All Request.KeepsBackend) :
    Tracked (past ++ client.trace World.perform world) (client.run world).2 := by
  apply Interaction.run_induction (motive := fun later found => Tracked (past ++ later) found)
    hclient (by rwa [List.append_nil])
  intro later found request hrequest htracked
  rw [← List.append_assoc]
  exact htracked.concat request hrequest

/-- The worlds of a client's run on a database without transactions. -/
def worlds (client : Client Memory α) (signals : Signals) (memory : Memory) : List MemoryWorld :=
  client.states World.perform (World.ofBackend signals memory)

/-- Every world of a run on an empty database is tracked by the requests before it. -/
theorem tracked_worlds {signals : Signals} {memory : Memory} {world : MemoryWorld}
    (hclient : client.All Request.KeepsBackend) (hempty : memory.store = .empty)
    (hworld : world ∈ client.worlds signals memory) :
    ∃ past rest, client.history signals memory = past ++ rest ∧ Tracked past world :=
  Interaction.states_induction hworld hclient (World.tracked_ofBackend signals hempty)
    fun _ _ request hrequest h => h.concat request hrequest

end Client

end Transact
