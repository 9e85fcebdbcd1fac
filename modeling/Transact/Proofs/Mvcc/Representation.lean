/-
# What the store holds

Whatever transactions did, every entry of the store is the counter, the marker
of an active transaction, or a version that a commit wrote; and all of these are
there. Versions are given from 1 in the order of the beginnings, and what is
once stored as a version stays.
-/

import Transact.Proofs.Mvcc.Reachable

namespace Transact.Mvcc

/-- The entries of a store, by the families of their keys. -/
theorem Holds.mem_entries_iff {store : Store} {past : History} (h : Holds store past)
    (bytes stored : Bytes) :
    (bytes, stored) ∈ store.entries ↔
      (bytes = Key.nextVersion.encode ∧ past.beginnings ≠ [] ∧
        stored = encodeCounter (versionOf past.beginnings.length)) ∨
      (∃ number, past.Active number ∧ bytes = (Key.active (versionOf number)).encode ∧
        stored = []) ∨
      ∃ commit ∈ past.commits, ∃ key write, commit.2.get? key = some write ∧
        bytes = (Key.version key (versionOf commit.1)).encode ∧ stored = encodeVersion write := by
  constructor
  · intro hentry
    obtain ⟨key, hkey⟩ := h.keyed _ hentry
    simp only at hkey
    subst hkey
    rw [← OrderedMap.get?_eq_some_iff] at hentry
    cases key with
    | nextVersion =>
        rw [h.counter] at hentry
        split at hentry
        · cases hentry
        · rename_i hbeginnings
          exact .inl ⟨rfl, hbeginnings, (Option.some.inj hentry).symm⟩
    | active version =>
        obtain ⟨hstored, number, hactive, rfl⟩ := (h.marker version stored).mp hentry
        exact .inr (.inl ⟨number, hactive, rfl, hstored⟩)
    | version key version =>
        obtain ⟨commit, hcommit, write, rfl, hwrite, hstored⟩ :=
          (h.version key version stored).mp hentry
        exact .inr (.inr ⟨commit, hcommit, key, write, hwrite, rfl, hstored⟩)
  · rw [← OrderedMap.get?_eq_some_iff]
    rintro (⟨rfl, hbeginnings, rfl⟩ | ⟨number, hactive, rfl, rfl⟩ |
      ⟨commit, hcommit, key, write, hwrite, rfl, rfl⟩)
    · rw [h.counter, if_neg hbeginnings]
    · exact (h.marker _ _).mpr ⟨rfl, number, hactive, rfl⟩
    · exact (h.version _ _ _).mpr ⟨commit, hcommit, write, rfl, hwrite, rfl⟩

/-- The commits of a longer history include those of a shorter one, and so do the versions. -/
theorem Holds.version_kept {store later : Store} {past more : History} (h : Holds store past)
    (hlater : Holds later (past ++ more)) {key : Bytes} {version : UInt64} {stored : Bytes}
    (hstored : store.get? (Key.version key version).encode = some stored) :
    later.get? (Key.version key version).encode = some stored := by
  obtain ⟨commit, hcommit, write, hwrite⟩ := (h.version key version stored).mp hstored
  refine (hlater.version key version stored).mpr ⟨commit, ?_, write, hwrite⟩
  rw [History.commits_append]
  exact List.mem_append_left _ hcommit

namespace Run

theorem CounterFits.of_append {script more : List Step} (h : CounterFits (script ++ more)) :
    CounterFits script := by
  rw [CounterFits, List.count_append] at h
  rw [CounterFits]
  omega

/-- The store holds the counter, the markers of the active transactions and the versions of the
commits, and nothing else; versions are given from 1, and stored versions stay. -/
theorem mem_entries_reached_iff {script more : List Step} (h : CounterFits (script ++ more)) :
    (past script).beginnings =
        (List.range (script.count .begin)).map (fun number => (number, versionOf number)) ∧
      (∀ bytes stored, (bytes, stored) ∈ (reached script).store.entries ↔
        (bytes = Key.nextVersion.encode ∧ 0 < script.count .begin ∧
          stored = encodeCounter (versionOf (script.count .begin))) ∨
        (∃ number, (past script).Active number ∧
          bytes = (Key.active (versionOf number)).encode ∧ stored = []) ∨
        ∃ commit ∈ (past script).commits, ∃ key write, commit.2.get? key = some write ∧
          bytes = (Key.version key (versionOf commit.1)).encode ∧ stored = encodeVersion write) ∧
      ∀ key version stored,
        (reached script).store.get? (Key.version key version).encode = some stored →
          (reached (script ++ more)).store.get? (Key.version key version).encode = some stored := by
  obtain ⟨hconsistent, hbegun⟩ := consistent_reached h.of_append
  obtain ⟨hlater, _⟩ := consistent_reached h
  have hnumbered := hconsistent.numbered
  rw [hbegun] at hnumbered
  refine ⟨hnumbered, fun bytes stored => ?_, fun key version stored hstored => ?_⟩
  · have hcount : (past script).beginnings.length = script.count .begin := by
      simp [hnumbered]
    rw [hconsistent.holds.mem_entries_iff, hcount, ← List.length_pos_iff, hcount]
  · have hholds := hlater.holds
    rw [past_append] at hholds
    exact hconsistent.holds.version_kept hholds hstored

/-- Of two transactions one has committed a write and the other was dropped; a third follows. -/
theorem mem_entries_reached_dropped :
    let script : List Step := [.begin, .set 0 [97] [1], .begin, .commit 0, .drop 1]
    let more : List Step := [.begin, .delete 2 [97], .commit 2]
    CounterFits (script ++ more) ∧
      (Key.nextVersion.encode, encodeCounter 3) ∈ (reached script).store.entries ∧
      ((Key.active 2).encode, []) ∈ (reached script).store.entries ∧
      ((Key.version [97] 1).encode, encodeVersion (some [1])) ∈ (reached script).store.entries ∧
      ((Key.active 1).encode, []) ∉ (reached script).store.entries ∧
      (reached (script ++ more)).store.get? (Key.version [97] 1).encode =
        some (encodeVersion (some [1])) := by
  intro script more
  have hfits : CounterFits (script ++ more) := by decide
  obtain ⟨_, hentries, hkept⟩ := mem_entries_reached_iff hfits
  have hversion : ((Key.version [97] 1).encode, encodeVersion (some [1])) ∈
      (reached script).store.entries := by
    refine (hentries _ _).mpr (.inr (.inr ⟨(0, ⟨[([97], some [1])], by decide⟩), ?_⟩))
    exact ⟨by decide +kernel, [97], some [1], by decide, rfl, rfl⟩
  refine ⟨hfits, (hentries _ _).mpr (.inl ⟨rfl, by decide, rfl⟩), ?_, hversion, ?_, ?_⟩
  · refine (hentries _ _).mpr (.inr (.inl ⟨1, ⟨?_, ?_⟩, rfl, rfl⟩))
    · decide +kernel
    · decide +kernel
  · intro hmarker
    rcases (hentries _ _).mp hmarker with
      ⟨hkey, _⟩ | ⟨number, ⟨hbegun, hrunning⟩, hkey, _⟩ | ⟨_, _, _, _, _, hkey, _⟩
    · exact absurd hkey (by decide)
    · have hnumber : number = 0 ∨ number = 1 := by
        have hall : (past script).beginnings.map Prod.fst = [0, 1] := by decide +kernel
        simpa [hall] using hbegun
      rcases hnumber with rfl | rfl
      · exact hrunning (by decide +kernel)
      · exact absurd hkey (by decide)
    · simp [Key.encode] at hkey
  · exact hkept _ _ _ (OrderedMap.get?_eq_some_iff.mpr hversion)

end Run

end Transact.Mvcc
