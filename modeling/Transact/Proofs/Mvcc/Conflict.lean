/-
# Conflicts

A commit looks at the last link of some chains and at all links of others, and
at numbers only. What it finds out is whether a commit since the beginning of
its transaction wrote a key that it depends on or is about to write. The last
link is enough because the commits of one key ascend: a commit that is not seen
stays hidden behind no older number.
-/

import Transact.Proofs.Mvcc.Invariant

namespace Transact.Mvcc

theorem Holds.mem_chain_iff {store : Store} {past : History} (h : Holds store past) {key : Bytes}
    {link : UInt64 × Bytes} :
    link ∈ chain store key ↔
      ∃ commit ∈ past.commits, ∃ write, link.1 = versionOf commit.1 ∧
        commit.2.get? key = some write ∧ link.2 = encodeVersion write :=
  Mvcc.mem_chain_iff.trans (h.version key link.1 link.2)

/-- The last link of a chain has the highest number. -/
theorem le_of_getLast?_chain {store : Store} {key : Bytes} {link last : UInt64 × Bytes}
    (hlink : link ∈ chain store key) (hlast : (chain store key).getLast? = some last) :
    link.1 ≤ last.1 := by
  obtain ⟨front, hfront⟩ := List.getLast?_eq_some_iff.mp hlast
  have hsorted := chain_sorted store key
  rw [hfront] at hlink hsorted
  rcases List.mem_append.mp hlink with hmem | hmem
  · exact UInt64.le_of_lt ((List.pairwise_append.mp hsorted).2.2 link hmem last (by simp))
  · rw [List.mem_singleton.mp hmem]
    exact UInt64.le_refl _

namespace Consistent

variable {run : Run} {past : History} {number : Nat} {txn : Transaction}

theorem versionOf_commit_le_iff (h : Consistent run past) {first second : Nat × Writes}
    (hfirst : first ∈ past.commits) (hsecond : second ∈ past.commits) :
    versionOf first.1 ≤ versionOf second.1 ↔ first.1 ≤ second.1 := by
  have hfits := h.fits
  have hfirst := h.commit_lt hfirst
  have hsecond := h.commit_lt hsecond
  exact versionOf_le_iff (by omega) (by omega)

/-- All links of a chain are seen when no commit since the beginning wrote the key. -/
theorem links_seen_iff (h : Consistent run past) (hopen : run.transactions.get? number = some txn)
    (key : Bytes) :
    (∀ link ∈ chain run.store key, txn.snapshot.sees link.1 = true) ↔
      ∀ commit ∈ (past.since number).commits, commit.2.contains key = false := by
  have hfollows := h.follows number txn hopen
  constructor
  · intro hall commit hcommit
    rw [Bool.eq_false_iff]
    intro hkey
    obtain ⟨write, hwrite⟩ := OrderedMap.contains_iff.mp hkey
    have hpast := History.mem_commits_of_mem_since hcommit
    have hlink : (versionOf commit.1, encodeVersion write) ∈ chain run.store key :=
      h.holds.mem_chain_iff.mpr ⟨commit, hpast, write, rfl, hwrite, rfl⟩
    exact (hfollows.sees_iff hpast).mp (hall _ hlink) hcommit
  · intro hnone link hlink
    obtain ⟨commit, hcommit, write, hversion, hwrite, _⟩ := h.holds.mem_chain_iff.mp hlink
    rw [hversion, hfollows.sees_iff hcommit]
    intro hlater
    have hkey := hnone commit hlater
    rw [OrderedMap.contains, hwrite] at hkey
    cases hkey

/-- It is enough to look at the last link, since the commits of one key ascend. -/
theorem last_link_seen_iff (h : Consistent run past)
    (hopen : run.transactions.get? number = some txn) (key : Bytes) :
    (∀ link, (chain run.store key).getLast? = some link → txn.snapshot.sees link.1 = true) ↔
      ∀ commit ∈ (past.since number).commits, commit.2.contains key = false := by
  have hfollows := h.follows number txn hopen
  constructor
  · intro hlast commit hcommit
    rw [Bool.eq_false_iff]
    intro hkey
    obtain ⟨write, hwrite⟩ := OrderedMap.contains_iff.mp hkey
    have hsplit := History.commits_eq_before_append_since past number
    have hpast := History.mem_commits_of_mem_since hcommit
    have hlink : (versionOf commit.1, encodeVersion write) ∈ chain run.store key :=
      h.holds.mem_chain_iff.mpr ⟨commit, hpast, write, rfl, hwrite, rfl⟩
    obtain ⟨last, hlastlink⟩ := Option.ne_none_iff_exists'.mp
      (mt List.getLast?_eq_none_iff.mp (List.ne_nil_of_mem hlink))
    obtain ⟨newest, hnewest, other, hversion, hother, _⟩ :=
      h.holds.mem_chain_iff.mp (List.mem_of_getLast? hlastlink)
    have hle : versionOf commit.1 ≤ versionOf newest.1 := by
      rw [← hversion]
      exact le_of_getLast?_chain hlink hlastlink
    rw [h.versionOf_commit_le_iff hpast hnewest] at hle
    -- What is seen came before the beginning, and yet its number is not the lower one.
    have hbefore : newest ∈ (past.before number).commits := by
      have hseen := hlast last hlastlink
      rw [hversion, hfollows.sees_iff hnewest] at hseen
      rw [hsplit, List.mem_append] at hnewest
      exact hnewest.resolve_right hseen
    have hascending := h.ascending
    rw [hsplit, List.pairwise_append] at hascending
    have hlt := hascending.2.2 newest hbefore commit hcommit key
      (OrderedMap.contains_iff.mpr ⟨other, hother⟩) hkey
    omega
  · intro hnone link hlink
    exact (h.links_seen_iff hopen key).mpr hnone link (List.mem_of_getLast? hlink)

/-- A commit goes through exactly when there is no conflict. -/
theorem validate_eq_ok_iff (h : Consistent run past)
    (hopen : run.transactions.get? number = some txn) :
    txn.validate run.store = .ok () ↔ ¬ past.Conflict number txn.writes := by
  have hfollows := h.follows number txn hopen
  have hother : ∀ commit ∈ (past.since number).commits, commit.1 ≠ number :=
    fun commit hcommit => h.ne_of_mem_commits hopen (History.mem_commits_of_mem_since hcommit)
  rw [(Transaction.validate_eq h.holds.versionsKeyed txn).2]
  simp only [h.last_link_seen_iff hopen, h.links_seen_iff hopen, hfollows.reads, hfollows.scans]
  constructor
  · rintro ⟨hlast, hunder⟩
      ⟨commit, hcommit, _, key, hkey, (hread | ⟨start, hscan, hstart⟩) | hwrite⟩
    · simp [hlast key (.inl hread) commit hcommit] at hkey
    · simp [hunder start hscan key hstart commit hcommit] at hkey
    · simp [hlast key (.inr hwrite) commit hcommit] at hkey
  · intro hnone
    refine ⟨fun key hdepends commit hcommit => ?_, fun start hscan key hstart commit hcommit => ?_⟩
    · rw [Bool.eq_false_iff]
      intro hkey
      exact hnone ⟨commit, hcommit, hother commit hcommit, key, hkey, hdepends.imp_left .inl⟩
    · rw [Bool.eq_false_iff]
      intro hkey
      exact hnone ⟨commit, hcommit, hother commit hcommit, key, hkey,
        .inl (.inr ⟨start, hscan, hstart⟩)⟩

/-- A commit goes through or is aborted, as there is a conflict or not. -/
theorem step_commit_eq (h : Consistent run past)
    (hopen : run.transactions.get? number = some txn) :
    (¬ past.Conflict number txn.writes ∧ run.step (.commit number) =
        (.ok .done, { run.close number with store := txn.release (txn.apply run.store) })) ∨
      (past.Conflict number txn.writes ∧ run.step (.commit number) =
        (.error .conflictAborted, { run.close number with store := txn.release run.store })) := by
  have hiff := h.validate_eq_ok_iff hopen
  rcases (Transaction.validate_eq h.holds.versionsKeyed txn).1 with hvalid | hconflict
  · refine .inl ⟨hiff.mp hvalid, ?_⟩
    simp [Run.step, Run.withOpen, hopen, Run.finish, Transaction.commit, Call.run, Call.of, hvalid,
      Except.map]
  · refine .inr ⟨?_, ?_⟩
    · rw [hconflict] at hiff
      exact Classical.not_not.mp (mt hiff.mpr (by simp))
    · simp [Run.step, Run.withOpen, hopen, Run.finish, Transaction.commit, Call.run, Call.of,
        hconflict, Except.map]

end Consistent

end Transact.Mvcc
