/-
# Snapshot reads

What an open transaction reads is settled when it begins, but for its own
buffer: under each key it finds what the last commit before its beginning left
there. Versions are numbered by beginnings and not by commits, so the last
version that it sees is the last of these commits only because the commits of
one key ascend.

A version can be read back if its value has a length that can be written. This
holds of all that is ever stored when it holds of all values that are set.
-/

import Transact.Proofs.Mvcc.Written

namespace Transact.Mvcc

/-! ## Readable versions -/

/-- Each of the writes can be read back once it is stored. -/
def Readable (writes : Writes) : Prop :=
  ∀ key write, writes.get? key = some write → decodeVersion (encodeVersion write) = .ok write

/-- Buffers, checkpoints and commits hold what can be read back. -/
structure HoldsReadable (run : Run) (past : History) : Prop where
  buffers : ∀ number txn, run.transactions.get? number = some txn → Readable txn.writes
  checkpoints : ∀ writes ∈ run.checkpoints, Readable writes
  commits : ∀ commit ∈ past.commits, Readable commit.2

/-- What can be read back is a kind of write. -/
theorem holdsReadable_iff {run : Run} {past : History} : HoldsReadable run past ↔
    HoldsWrites (fun _ write => decodeVersion (encodeVersion write) = .ok write) run past :=
  ⟨fun h => ⟨h.buffers, h.checkpoints, h.commits⟩, fun h => ⟨h.buffers, h.checkpoints, h.commits⟩⟩

/-- A step writes what can be read back if it sets a value of 64-bit length. -/
theorem decodeVersion_of_write? {step : Run.Step}
    (hstep : ∀ value, step.value? = some value → value.length < UInt64.size) (key : Bytes)
    (write : Option Bytes) (hwrite : step.write? = some (key, write)) :
    decodeVersion (encodeVersion write) = .ok write := by
  apply decodeVersion_encodeVersion
  rintro value rfl
  cases step <;> simp_all [Run.Step.write?, Run.Step.value?]

namespace HoldsReadable

variable {run : Run} {past : History}

theorem initial : HoldsReadable .initial [] := holdsReadable_iff.mpr .initial

theorem step_begin (hreadable : HoldsReadable run past) (h : Consistent run past) :
    HoldsReadable (run.step .begin).2 (past ++ [⟨.begin, (run.step .begin).1, .empty⟩]) :=
  holdsReadable_iff.mpr ((holdsReadable_iff.mp hreadable).step_begin h)

theorem step_open (hreadable : HoldsReadable run past) {step : Run.Step}
    (hstep : ∀ value, step.value? = some value → value.length < UInt64.size)
    {number : Nat} {txn : Transaction} (hactor : step.actor? = some number)
    (hopen : run.transactions.get? number = some txn) :
    HoldsReadable (run.step step).2 (past ++ [⟨step, (run.step step).1, txn.writes⟩]) :=
  holdsReadable_iff.mpr ((holdsReadable_iff.mp hreadable).step_open
    (decodeVersion_of_write? hstep) hactor hopen)

theorem versionsReadable (h : HoldsReadable run past) (hholds : Holds run.store past) :
    VersionsReadable run.store := by
  rintro ⟨encoded, stored⟩ hentry hfamily
  obtain ⟨key, version, hkey⟩ := hholds.versionsKeyed _ hentry hfamily
  simp only at hkey
  subst hkey
  rw [← OrderedMap.get?_eq_some_iff] at hentry
  obtain ⟨commit, hcommit, write, _, hwrite, rfl⟩ := (hholds.version key version stored).mp hentry
  exact ⟨write, h.commits commit hcommit key write hwrite⟩

end HoldsReadable

theorem Run.ValuesFit.of_mem {script : List Run.Step} (h : Run.ValuesFit script)
    {step : Run.Step} (hmem : step ∈ script) (value : Bytes) (hvalue : step.value? = some value) :
    value.length < UInt64.size :=
  h value (List.mem_filterMap.mpr ⟨step, hmem, hvalue⟩)

theorem holdsReadable_reached {script : List Run.Step} (hfits : Run.CounterFits script)
    (hvalues : Run.ValuesFit script) :
    HoldsReadable (Run.reached script) (Run.past script) :=
  holdsReadable_iff.mpr (holdsWrites_reached hfits fun _ hmem =>
    decodeVersion_of_write? (hvalues.of_mem hmem))

/-! ## What a snapshot holds -/

/-- The writes of commits to a key, with the numbers of the transactions. -/
def writesTo (commits : List (Nat × Writes)) (key : Bytes) : List (Nat × Option Bytes) :=
  commits.filterMap fun commit => (commit.2.get? key).map (Prod.mk commit.1)

theorem mem_writesTo_iff {commits : List (Nat × Writes)} {key : Bytes}
    {entry : Nat × Option Bytes} :
    entry ∈ writesTo commits key ↔
      ∃ commit ∈ commits, commit.1 = entry.1 ∧ commit.2.get? key = some entry.2 := by
  obtain ⟨number, write⟩ := entry
  simp only [writesTo, List.mem_filterMap, Option.map_eq_some_iff, Prod.mk.injEq]
  grind

theorem writesTo_append (commits more : List (Nat × Writes)) (key : Bytes) :
    writesTo (commits ++ more) key = writesTo commits key ++ writesTo more key :=
  List.filterMap_append

theorem value_eq_writesTo (past : History) (key : Bytes) :
    past.value key = ((writesTo past.commits key).getLast?.map Prod.snd).join := by
  rw [← List.getLast?_map, writesTo, List.map_filterMap, History.value]
  congr 3
  funext commit
  cases commit.2.get? key <;> rfl

namespace Consistent

variable {run : Run} {past : History} {number : Nat} {txn : Transaction}

/-- The versions of a key are the writes of the commits, in their order. -/
theorem chain_eq (h : Consistent run past) (key : Bytes) :
    chain run.store key = (writesTo past.commits key).map fun entry =>
      (versionOf entry.1, encodeVersion entry.2) := by
  have hfits := h.fits
  refine chain_eq_of_mem_iff ?_ fun link => ?_
  · refine List.pairwise_map.mpr (List.pairwise_filterMap.mpr ?_)
    apply h.ascending.imp_of_mem
    intro first second hfirst hsecond hlt entry hentry other hother
    obtain ⟨write, hwrite, rfl⟩ := Option.map_eq_some_iff.mp hentry
    obtain ⟨newer, hnewer, rfl⟩ := Option.map_eq_some_iff.mp hother
    have hlt := hlt key (OrderedMap.contains_iff.mpr ⟨write, hwrite⟩)
      (OrderedMap.contains_iff.mpr ⟨newer, hnewer⟩)
    have hfirst := h.commit_lt hfirst
    have hsecond := h.commit_lt hsecond
    rw [UInt64.lt_iff_toNat_lt, toNat_versionOf (by omega), toNat_versionOf (by omega)]
    omega
  · rw [h.holds.version, List.mem_map]
    constructor
    · rintro ⟨entry, hentry, rfl⟩
      obtain ⟨commit, hcommit, hnumber, hwrite⟩ := mem_writesTo_iff.mp hentry
      exact ⟨commit, hcommit, entry.2, by rw [hnumber], hwrite, rfl⟩
    · rintro ⟨commit, hcommit, write, hversion, hwrite, hstored⟩
      refine ⟨(commit.1, write), mem_writesTo_iff.mpr ⟨commit, hcommit, rfl, hwrite⟩, ?_⟩
      rw [← hversion, ← hstored]

/-- Of the versions of a key, a snapshot sees the writes of the commits before the beginning. -/
theorem seen_chain_eq (h : Consistent run past) (hopen : run.transactions.get? number = some txn)
    (key : Bytes) :
    (chain run.store key).filter (fun link => txn.snapshot.sees link.1) =
      (writesTo (past.before number).commits key).map fun entry =>
        (versionOf entry.1, encodeVersion entry.2) := by
  have hfollows := h.follows number txn hopen
  have hearlier : ∀ entry ∈ writesTo (past.before number).commits key,
      txn.snapshot.sees (versionOf entry.1) = true := by
    intro entry hentry
    obtain ⟨commit, hcommit, hnumber, _⟩ := mem_writesTo_iff.mp hentry
    rw [← hnumber]
    exact (hfollows.earlier commit hcommit).2
  have hlater : ∀ entry ∈ writesTo (past.since number).commits key,
      ¬ txn.snapshot.sees (versionOf entry.1) = true := by
    intro entry hentry
    obtain ⟨commit, hcommit, hnumber, _⟩ := mem_writesTo_iff.mp hentry
    rw [← hnumber, hfollows.later commit hcommit]
    exact Bool.false_ne_true
  rw [h.chain_eq, List.filter_map, History.commits_eq_before_append_since past number,
    writesTo_append, List.filter_append]
  simp only [Function.comp_def, List.filter_eq_self.mpr hearlier,
    List.filter_eq_nil_iff.mpr hlater, List.append_nil]

/-- A snapshot holds what the last commit before the beginning left under a key. -/
theorem snapshot_value (h : Consistent run past) (hreadable : HoldsReadable run past)
    (hopen : run.transactions.get? number = some txn) (key : Bytes) :
    txn.snapshot.value run.store key = (past.before number).value key := by
  rw [Snapshot.value, h.seen_chain_eq hopen, value_eq_writesTo, List.getLast?_map]
  cases hlast : (writesTo (past.before number).commits key).getLast? with
  | none => rfl
  | some entry =>
      obtain ⟨commit, hcommit, _, hwrite⟩ := mem_writesTo_iff.mp (List.mem_of_getLast? hlast)
      have hpast : commit ∈ past.commits := by
        rw [History.commits_eq_before_append_since past number]
        exact List.mem_append_left _ hcommit
      simp [writtenValue, hreadable.commits commit hpast key entry.2 hwrite, Except.toOption]

/-! ## What reads answer -/

theorem step_get_eq (h : Consistent run past) (hreadable : HoldsReadable run past)
    (hopen : run.transactions.get? number = some txn) (key : Bytes) :
    (run.step (.get number key)).1 = .ok (.value (past.found number txn.writes key)) := by
  have hversions := hreadable.versionsReadable h.holds
  have hlookup := lookup_eq h.holds.versionsKeyed hversions txn key
  rw [h.snapshot_value hreadable hopen] at hlookup
  simp only [Run.step, Run.withOpen, hopen, Transaction.get, hlookup, Error.ofInternal, Except.map,
    History.found]

theorem step_scanPrefix_eq (h : Consistent run past) (hreadable : HoldsReadable run past)
    (hopen : run.transactions.get? number = some txn) (start : Bytes) :
    ∃ entries, (run.step (.scanPrefix number start)).1 = .ok (.entries entries) ∧
      entries.Pairwise (fun first second => first.1 < second.1) ∧
      ∀ key value, (key, value) ∈ entries ↔
        start <+: key ∧ past.found number txn.writes key = some value := by
  have hversions := hreadable.versionsReadable h.holds
  obtain ⟨found, hfound, hget⟩ := lookupPrefix_eq h.holds.versionsKeyed hversions txn start
  refine ⟨found.entries, ?_, found.sorted, fun key value => ?_⟩
  · simp only [Run.step, Run.withOpen, hopen, Transaction.scanPrefix, hfound, Error.ofInternal,
      Except.map]
  · rw [← OrderedMap.get?_eq_some_iff, hget, h.snapshot_value hreadable hopen, ← History.found]
    by_cases hstart : start <+: key
    · simp [hstart]
    · simp [hstart]

/-- Nothing that others do closes an open transaction or touches it. -/
theorem open_after_others (h : Consistent run past)
    (hopen : run.transactions.get? number = some txn) {more : List Run.Step}
    (hfits : run.begun + more.count .begin + 1 < UInt64.size)
    (hothers : ∀ step ∈ more, step.actor? ≠ some number) :
    (run.after more).transactions.get? number = some txn := by
  refine (h.after (motive := fun run _ => run.transactions.get? number = some txn) hfits hopen
    ?_ ?_).2.2
  · intro run past h _ hopen
    obtain ⟨active, _, hstep⟩ := h.step_begin_eq
    have hlt := h.begun_iff.mp (h.follows number txn hopen).begun
    rw [hstep, OrderedMap.get?_insert, if_neg (Nat.ne_of_lt hlt)]
    exact hopen
  · intro run past h hopen step hmem other otherTxn hactor _
    have hne : number ≠ other := by
      rintro rfl
      exact hothers step hmem hactor
    rw [(run.step_of_actor? hactor).2 number hne]
    exact hopen

end Consistent

namespace Run

/-- Every read of an open transaction succeeds and finds its own write, or else what the last commit
before its beginning left; what others do in the meantime changes no answer. -/
theorem answers_eq_found {script : List Step} (hfits : CounterFits script)
    (hvalues : ValuesFit script) {number : Nat} {txn : Transaction}
    (hopen : (reached script).transactions.get? number = some txn) :
    (∀ key, ((reached script).step (.get number key)).1 =
        .ok (.value ((past script).found number txn.writes key))) ∧
      (∀ start, ∃ entries,
        ((reached script).step (.scanPrefix number start)).1 = .ok (.entries entries) ∧
          entries.Pairwise (fun first second => first.1 < second.1) ∧
          ∀ key value, (key, value) ∈ entries ↔
            start <+: key ∧ (past script).found number txn.writes key = some value) ∧
      ∀ more, CounterFits (script ++ more) → ValuesFit (script ++ more) →
        (∀ step ∈ more, step.actor? ≠ some number) →
          (∀ key, ((reached (script ++ more)).step (.get number key)).1 =
            ((reached script).step (.get number key)).1) ∧
          ∀ start, ((reached (script ++ more)).step (.scanPrefix number start)).1 =
            ((reached script).step (.scanPrefix number start)).1 := by
  obtain ⟨h, hbegun⟩ := consistent_reached hfits
  have hreadable := holdsReadable_reached hfits hvalues
  refine ⟨h.step_get_eq hreadable hopen, h.step_scanPrefix_eq hreadable hopen, ?_⟩
  intro more hmore hmorevalues hothers
  obtain ⟨hlater, _⟩ := consistent_reached hmore
  have hlaterreadable := holdsReadable_reached hmore hmorevalues
  have hcount : (reached script).begun + more.count .begin + 1 < UInt64.size := by
    rw [hbegun, ← List.count_append]
    exact hmore
  have hstill : (reached (script ++ more)).transactions.get? number = some txn := by
    rw [reached_append]
    exact h.open_after_others hopen hcount hothers
  have hfound : (past (script ++ more)).found number txn.writes =
      (past script).found number txn.writes := by
    funext key
    rw [History.found, past_append, History.before_append (h.follows number txn hopen).begun,
      ← History.found]
  refine ⟨fun key => ?_, fun start => ?_⟩
  · rw [hlater.step_get_eq hlaterreadable hstill, h.step_get_eq hreadable hopen, hfound]
  · obtain ⟨entries, hentries, hsorted, hmem⟩ := h.step_scanPrefix_eq hreadable hopen start
    obtain ⟨later, hlater, hlatersorted, hlatermem⟩ :=
      hlater.step_scanPrefix_eq hlaterreadable hstill start
    have hsame : later = entries := by
      apply OrderedMap.eq_of_mem_iff hlatersorted hsorted
      intro entry
      rw [hlatermem, hmem, hfound]
    rw [hlater, hentries, hsame]

/-- The first transaction commits after the last one has begun, the second one before. -/
theorem answers_eq_found_overtaken :
    let script : List Step :=
      [.begin, .set 0 [97] [1], .begin, .set 1 [98] [2], .commit 1, .begin, .set 2 [99] [3]]
    let txn := ((reached script).transactions.get? 2).getD ⟨⟨0, .empty⟩, .empty, .empty, .empty⟩
    CounterFits script ∧ ValuesFit script ∧ (reached script).transactions.get? 2 = some txn ∧
      ((reached script).step (.get 2 [97])).1 = .ok (.value none) ∧
      ((reached script).step (.get 2 [98])).1 = .ok (.value (some [2])) ∧
      (∃ entries, ((reached script).step (.scanPrefix 2 [])).1 = .ok (.entries entries) ∧
        ([98], [2]) ∈ entries ∧ ([99], [3]) ∈ entries) ∧
      ((reached (script ++ [.commit 0])).step (.get 2 [97])).1 = .ok (.value none) := by
  intro script txn
  have hfits : CounterFits script := by decide
  have hvalues : ValuesFit (script ++ [.commit 0]) := by decide
  have hown : ValuesFit script := by decide
  have hopen : (reached script).transactions.get? 2 = some txn := by decide +kernel
  obtain ⟨hget, hscan, hothers⟩ := answers_eq_found hfits hown hopen
  have hnone : (past script).found 2 txn.writes [97] = none := by decide +kernel
  have hsome : (past script).found 2 txn.writes [98] = some [2] := by decide +kernel
  have hbuffered : (past script).found 2 txn.writes [99] = some [3] := by decide +kernel
  obtain ⟨entries, hentries, _, hmem⟩ := hscan []
  have hkept := (hothers [.commit 0] (by decide) hvalues (by decide)).1 [97]
  refine ⟨hfits, hown, hopen, ?_, ?_, ⟨entries, hentries, ?_, ?_⟩, ?_⟩
  · rw [hget, hnone]
  · rw [hget, hsome]
  · exact (hmem [98] [2]).mpr ⟨List.nil_prefix, hsome⟩
  · exact (hmem [99] [3]).mpr ⟨List.nil_prefix, hbuffered⟩
  · rw [hkept, hget, hnone]

end Run

end Transact.Mvcc
