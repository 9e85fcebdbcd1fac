/-
# Rows under equal keys

Two primary keys can be equal, value by value, without being identical. Rows are
kept under the stored form of the key, and no key is brought into another form
before: keys whose marks agree are keys of one row, and keys whose marks differ,
by the scale of a decimal or the sign of a zero, are keys of two rows.

In the one case the row that is written under one key is read, refused as taken,
replaced and removed under the other. In the other case nothing that is done
under one key shows under the other, and a scan gives both rows.

A row that is read is the row that was written, in which decimal zeros have lost
their signs. Equality does not see that.

Nothing is asked of the store or of what the transaction has done before.
-/

import Transact.Proofs.Mvcc.Chain
import Transact.Proofs.Record.Equality
import Transact.Proofs.Table.Writes

namespace Transact

/-- What is buffered under a key that begins with a prefix is applied to what a scan of the prefix
finds. -/
theorem Mvcc.Transaction.lookupPrefix_write (txn left : Transaction) {key start : Bytes}
    {write : Option Bytes} (hsnapshot : left.snapshot = txn.snapshot)
    (hwrites : left.writes = txn.writes.insert key write) (hstart : start <+: key)
    (store : Store) :
    left.lookupPrefix store start =
      (txn.lookupPrefix store start).map fun found => applyWrite found key write := by
  have hfind (own : Transaction) (other : Bytes) :
      OrderedMap.find? other (own.writesUnder start) =
        if start <+: other then own.writes.get? other else none := by
    rw [writesUnder, OrderedMap.find?_filter_key]
    simp [OrderedMap.get?]
  have hsorted (own : Transaction) :
      (own.writesUnder start).Pairwise fun first second => first.1 < second.1 :=
    own.writes.sorted.filter _
  unfold lookupPrefix
  rw [hsnapshot]
  cases visible txn.snapshot (store.scanPrefix (versionPrefix start)) .empty with
  | error fault => rfl
  | ok found =>
      refine congrArg Except.ok (OrderedMap.ext fun other => ?_)
      rw [get?_applyWrite, get?_foldl_applyWrite (hsorted left),
        get?_foldl_applyWrite (hsorted txn), hfind, hfind, hwrites, OrderedMap.get?_insert]
      by_cases hother : other = key
      · simp [hother, hstart]
      · simp [hother]

namespace Table

variable {store : Store} {table : String} {key other : List Value} {row : Row}
  {txn left : Mvcc.Transaction}

/-! ## Keys -/

/-- Equal keys have one row key only if they are identical. -/
theorem rowKey_eq_iff_of_equal (h : List.Forall₂ (fun x y => Value.equal x y = true) key other) :
    rowKey table key = rowKey table other ↔ key = other := by
  constructor
  · intro heq
    have hlist := Record.ToldApart.list (h.imp fun _ _ => Record.toldApart_value)
    have hkeys := List.append_cancel_left heq
    rw [← List.append_nil (Record.listField _ key), ← List.append_nil (Record.listField _ other)]
      at hkeys
    exact (hlist [] [] hkeys).1
  · intro heq
    rw [heq]

/-! ## A row that the transaction has written -/

/-- The transaction has written a row under a key. -/
def Holds (txn : Mvcc.Transaction) (table : String) (key : List Value) (row : Row) : Prop :=
  txn.writes.get? (rowKey table key) = some (some (Record.rowField row))

/-- A transaction reads the row that it has written, and notes nothing. -/
theorem Holds.get_eq (h : Holds txn table key row) (hrow : Record.Fits row) (store : Store) :
    (get store table key).run txn = (.ok (some (Record.rowReadBack row)), txn) := by
  have hcontains : txn.writes.contains (rowKey table key) = true :=
    OrderedMap.contains_iff.mpr ⟨_, h⟩
  have hlookup : txn.lookup store (rowKey table key) = .ok (some (Record.rowField row)) := by
    rw [Mvcc.Transaction.lookup, h]
  simp only [get, Call.run, Call.of, Mvcc.Transaction.get, Mvcc.Transaction.noteRead, hcontains,
    if_true, hlookup, Error.ofInternal, bind, Except.bind, rowOf,
    Record.decodeRow_rowField_of_fits hrow, Except.map]

theorem Holds.insert_eq (h : Holds txn table key row) (hrow : Record.Fits row) (store : Store)
    (own : Row) : (insert store table key own).run txn =
      (.error (.execution (.rowExists key table)), txn) := by
  have hget := h.get_eq hrow store
  simp only [insert, Call.run, Call.of] at hget ⊢
  rw [hget]

theorem Holds.delete_eq (h : Holds txn table key row) (hrow : Record.Fits row)
    (store : Store) : (delete store table key).run txn =
      (.ok true, txn.delete (rowKey table key)) := by
  have hget := h.get_eq hrow store
  simp only [delete, Call.run, Call.of] at hget ⊢
  rw [hget]

/-- A transaction finds nothing where it has removed a row. -/
theorem get_of_removed (h : txn.writes.get? (rowKey table key) = some none) (store : Store) :
    (get store table key).run txn = (.ok none, txn) := by
  have hcontains : txn.writes.contains (rowKey table key) = true :=
    OrderedMap.contains_iff.mpr ⟨_, h⟩
  have hlookup : txn.lookup store (rowKey table key) = .ok none := by
    rw [Mvcc.Transaction.lookup, h]
  simp only [get, Call.run, Call.of, Mvcc.Transaction.get, Mvcc.Transaction.noteRead, hcontains,
    if_true, hlookup, Error.ofInternal, bind, Except.bind, rowOf]

/-- One more entry is one more row. -/
theorem rowsOf_insertEntry {bytes stored : Bytes} {entries : List (Bytes × Bytes)}
    {rest : List Row} (hrow : Record.decodeRow stored = .ok row)
    (hfree : OrderedMap.find? bytes entries = none) (hrest : rowsOf entries = .ok rest) :
    ∃ rows, rowsOf (OrderedMap.insertEntry bytes stored entries) = .ok rows ∧
      rows.Perm (row :: rest) := by
  have hfront : ∀ entries rest, rowsOf entries = .ok rest →
      rowsOf ((bytes, stored) :: entries) = .ok (row :: rest) := by
    intro entries rest hrest
    rw [rowsOf, hrow, hrest]
    rfl
  induction entries generalizing rest with
  | nil => exact ⟨row :: rest, hfront [] rest hrest, .refl _⟩
  | cons entry entries ih =>
      obtain ⟨own, old⟩ := entry
      rw [OrderedMap.find?] at hfree
      split at hfree
      case isTrue => cases hfree
      case isFalse hown =>
        rw [OrderedMap.insertEntry, if_neg hown]
        split
        case isTrue => exact ⟨row :: rest, hfront _ rest hrest, .refl _⟩
        case isFalse =>
          obtain ⟨first, hfirst, hothers⟩ := Except.bind_eq_ok_iff.mp hrest
          obtain ⟨others, hentries, hcons⟩ := Except.bind_eq_ok_iff.mp hothers
          cases hcons
          obtain ⟨rows, hrows, hperm⟩ := ih hfree hentries
          refine ⟨first :: rows, ?_, (hperm.cons first).trans (.swap row first others)⟩
          rw [rowsOf, hfirst, hrows]
          rfl

theorem scan_eq_ok_iff {rows : List Row} : ((scan store table).run txn).1 = .ok rows ↔
    ∃ found, txn.lookupPrefix store (tablePrefix table) = .ok found ∧
      rowsOf found.entries = .ok rows := by
  simp only [scan, Call.run, Call.of, Mvcc.Transaction.scanPrefix, Except.bind_eq_ok_iff]
  cases txn.lookupPrefix store (tablePrefix table) <;> simp [Except.map, Error.ofInternal]

/-- A scan gives a row that the transaction has written once, next to those that there are without
it. -/
theorem Holds.scan_perm (h : Holds txn table key row) (hrow : Record.Fits row) {rest : List Row}
    (hrest : ((scan store table).run (txn.delete (rowKey table key))).1 = .ok rest) :
    ∃ rows, ((scan store table).run txn).1 = .ok rows ∧
      rows.Perm (Record.rowReadBack row :: rest) := by
  have hstart : tablePrefix table <+: rowKey table key := List.prefix_append _ _
  have hremove :=
    Mvcc.Transaction.lookupPrefix_write txn (txn.delete (rowKey table key)) rfl rfl hstart store
  have hwrites : txn.writes =
      (txn.delete (rowKey table key)).writes.insert (rowKey table key)
        (some (Record.rowField row)) := by
    ext bytes
    simp only [Mvcc.Transaction.delete, OrderedMap.get?_insert]
    split
    case isTrue hbytes => rw [hbytes, h]
    case isFalse => rfl
  have hwrite :=
    Mvcc.Transaction.lookupPrefix_write (txn.delete (rowKey table key)) txn rfl hwrites hstart store
  obtain ⟨found, hfound, hread⟩ := scan_eq_ok_iff.mp hrest
  -- The entry is not among those that are left.
  have hfree : found.get? (rowKey table key) = none := by
    rw [hfound] at hremove
    obtain ⟨before, -, rfl⟩ := Except.map_eq_ok_iff.mp hremove.symm
    simp
  obtain ⟨rows, hrows, hperm⟩ :=
    rowsOf_insertEntry (Record.decodeRow_rowField_of_fits hrow) hfree hread
  rw [hfound] at hwrite
  exact ⟨rows, scan_eq_ok_iff.mpr ⟨_, hwrite, hrows⟩, hperm⟩

/-! ## What is done under another key -/

/-- What is found under a key does not change where it is not written. -/
theorem get_answer_of_ne {bytes : Bytes} {write : Option Bytes}
    (hsnapshot : left.snapshot = txn.snapshot)
    (hwrites : left.writes = txn.writes.insert bytes write) (hne : rowKey table other ≠ bytes)
    (store : Store) :
    ((get store table other).run left).1 = ((get store table other).run txn).1 := by
  have hget : left.writes.get? (rowKey table other) = txn.writes.get? (rowKey table other) := by
    rw [hwrites, OrderedMap.get?_insert, if_neg hne]
  have hlookup :
      left.lookup store (rowKey table other) = txn.lookup store (rowKey table other) := by
    rw [Mvcc.Transaction.lookup, Mvcc.Transaction.lookup, hget, Mvcc.Transaction.version,
      Mvcc.Transaction.version, hsnapshot]
  simp only [get, Call.run, Call.of, Mvcc.Transaction.get, hlookup]

/-- The answers to an insertion and to a removal depend on what is read first. -/
theorem insert_answer_of_get {own : Row}
    (h : ((get store table other).run left).1 = ((get store table other).run txn).1) :
    ((insert store table other own).run left).1 = ((insert store table other own).run txn).1 := by
  simp only [insert, Call.run, Call.of, put] at h ⊢
  rcases hleft : get store table other left with ⟨answer, afterwards⟩
  rcases htxn : get store table other txn with ⟨answer', afterwards'⟩
  rw [hleft, htxn] at h
  cases h
  rcases answer with error | row | row <;> rfl

theorem delete_answer_of_get
    (h : ((get store table other).run left).1 = ((get store table other).run txn).1) :
    ((delete store table other).run left).1 = ((delete store table other).run txn).1 := by
  simp only [delete, Call.run, Call.of] at h ⊢
  rcases hleft : get store table other left with ⟨answer, afterwards⟩
  rcases htxn : get store table other txn with ⟨answer', afterwards'⟩
  rw [hleft, htxn] at h
  cases h
  rcases answer with error | row | row <;> rfl

/-- A row is still there when another one is removed. -/
theorem Holds.of_delete (h : Holds left table key row)
    (hne : rowKey table key ≠ rowKey table other) (store : Store) :
    Holds ((delete store table other).run left).2 table key row := by
  have hkeeps := (get_keeps store table other left).1
  unfold Holds
  simp only [delete, Call.run, Call.of]
  rcases hget : get store table other left with ⟨answer, afterwards⟩
  rw [hget] at hkeeps
  rcases answer with error | _ | own
  · exact (congrArg (OrderedMap.get? · _) hkeeps).trans h
  · exact (congrArg (OrderedMap.get? · _) hkeeps).trans h
  · show ((afterwards.writes.insert _ none).get? _) = _
    rw [OrderedMap.get?_insert, if_neg hne, hkeeps]
    exact h

/-! ## One row or two -/

/-- The row was put under the key, or it was inserted there. -/
def Written (store : Store) (table : String) (key : List Value) (row : Row)
    (txn left : Mvcc.Transaction) : Prop :=
  (put table key row).run txn = (.ok (), left) ∨
    (insert store table key row).run txn = (.ok (), left)

theorem Written.buffered (h : Written store table key row txn left) :
    left.snapshot = txn.snapshot ∧
      left.writes = txn.writes.insert (rowKey table key) (some (Record.rowField row)) := by
  cases h with
  | inl hput =>
      cases hput
      exact ⟨rfl, rfl⟩
  | inr hinsert =>
      obtain ⟨hwrites, hsnapshot⟩ := get_keeps store table key txn
      simp only [insert, Call.run, Call.of] at hinsert
      rcases hget : get store table key txn with ⟨answer, afterwards⟩
      rw [hget] at hinsert hwrites hsnapshot
      rcases answer with error | _ | own
      · cases hinsert
      · cases hinsert
        exact ⟨hsnapshot, congrArg (OrderedMap.insert · _ _) hwrites⟩
      · cases hinsert

theorem Written.holds (h : Written store table key row txn left) : Holds left table key row := by
  rw [Holds, h.buffered.2, OrderedMap.get?_insert, if_pos rfl]

/-- The other key is one of the row that was written: it is read under the other key, an insertion
there is refused and changes nothing, and removing it there removes it. A row that is put there is
in its place, so a scan gives one row for the two keys. -/
structure OneRow (store : Store) (table : String) (key other : List Value) (row : Row)
    (left : Mvcc.Transaction) : Prop where
  get : ((get store table other).run left).1 = .ok (some (Record.rowReadBack row))
  insert : ∀ own, (insert store table other own).run left =
    (.error (.execution (.rowExists other table)), left)
  delete : ∃ removed, (delete store table other).run left = (.ok true, removed) ∧
    ((Table.get store table key).run removed).1 = .ok none ∧
      ∀ rest, ((scan store table).run removed).1 = .ok rest →
        ∃ rows, ((scan store table).run left).1 = .ok rows ∧
          rows.Perm (Record.rowReadBack row :: rest)
  put : ∀ own, Record.Fits own → ∃ both removed,
    (put table other own).run left = (.ok (), both) ∧
      ((Table.get store table key).run both).1 = .ok (some (Record.rowReadBack own)) ∧
      (Table.delete store table key).run both = (.ok true, removed) ∧
      ((Table.get store table other).run removed).1 = .ok none ∧
        ∀ rest, ((scan store table).run removed).1 = .ok rest →
          ∃ rows, ((scan store table).run both).1 = .ok rows ∧
            rows.Perm (Record.rowReadBack own :: rest)

/-- The other key is one of another row: all answers there are as before the row was written, and
removing there leaves the row. A row that is put there is next to it, so a scan gives two rows for
the two keys. -/
structure TwoRows (store : Store) (table : String) (key other : List Value) (row : Row)
    (txn left : Mvcc.Transaction) : Prop where
  get : ((get store table other).run left).1 = ((get store table other).run txn).1
  insert : ∀ own,
    ((insert store table other own).run left).1 = ((insert store table other own).run txn).1
  delete : ((delete store table other).run left).1 = ((delete store table other).run txn).1 ∧
    ((Table.get store table key).run ((delete store table other).run left).2).1 =
      .ok (some (Record.rowReadBack row))
  put : ∀ own, Record.Fits own → ∃ both fewer removed,
    (put table other own).run left = (.ok (), both) ∧
      ((Table.get store table key).run both).1 = .ok (some (Record.rowReadBack row)) ∧
      (Table.delete store table key).run both = (.ok true, fewer) ∧
      (Table.delete store table other).run fewer = (.ok true, removed) ∧
        ∀ rest, ((scan store table).run removed).1 = .ok rest →
          ∃ rows, ((scan store table).run both).1 = .ok rows ∧
            rows.Perm (Record.rowReadBack row :: Record.rowReadBack own :: rest)

theorem Holds.oneRow (h : Holds left table key row) (hrow : Record.Fits row) (store : Store) :
    OneRow store table key key row left where
  get := congrArg Prod.fst (h.get_eq hrow store)
  insert := h.insert_eq hrow store
  delete := by
    refine ⟨_, h.delete_eq hrow store, ?_, fun rest hrest => h.scan_perm hrow hrest⟩
    refine congrArg Prod.fst (get_of_removed ?_ store)
    simp [Mvcc.Transaction.delete]
  put := by
    intro own hown
    have hput : Holds ((put table key own).run left).2 table key own := by
      simp [Holds, put, Call.run, Call.of, Mvcc.Transaction.set]
    refine ⟨_, _, rfl, congrArg Prod.fst (hput.get_eq hown store), hput.delete_eq hown store, ?_,
      fun rest hrest => hput.scan_perm hown hrest⟩
    refine congrArg Prod.fst (get_of_removed ?_ store)
    simp [Mvcc.Transaction.delete]

theorem Written.twoRows (h : Written store table key row txn left) (hrow : Record.Fits row)
    (hne : rowKey table key ≠ rowKey table other) :
    TwoRows store table key other row txn left where
  get := get_answer_of_ne h.buffered.1 h.buffered.2 hne.symm store
  insert own := insert_answer_of_get (get_answer_of_ne h.buffered.1 h.buffered.2 hne.symm store)
  delete := by
    refine ⟨delete_answer_of_get (get_answer_of_ne h.buffered.1 h.buffered.2 hne.symm store), ?_⟩
    exact congrArg Prod.fst ((h.holds.of_delete hne store).get_eq hrow store)
  put := by
    intro own hown
    have hboth : Holds ((put table other own).run left).2 table key row := by
      show ((left.writes.insert _ _).get? _) = _
      rw [OrderedMap.get?_insert, if_neg hne]
      exact h.holds
    have hother : Holds (((put table other own).run left).2.delete (rowKey table key))
        table other own := by
      simp [Holds, put, Call.run, Call.of, Mvcc.Transaction.set, Mvcc.Transaction.delete, hne.symm]
    refine ⟨_, _, _, rfl, congrArg Prod.fst (hboth.get_eq hrow store), hboth.delete_eq hrow store,
      hother.delete_eq hown store, ?_⟩
    intro rest hrest
    obtain ⟨fewer, hfewer, hown⟩ := hother.scan_perm hown hrest
    obtain ⟨rows, hrows, hperm⟩ := hboth.scan_perm hrow hfewer
    exact ⟨rows, hrows, hperm.trans (hown.cons (Record.rowReadBack row))⟩

/-- Keys that are equal, value by value, are keys of one row if their marks agree, and keys of two
rows if a decimal in them differs in its scale or a zero in its sign. Of the row, nothing is asked
but that its length can be written, and what is read is equal to whatever the row is equal to. -/
theorem equal_keys_rows (hequal : List.Forall₂ (fun x y => Value.equal x y = true) key other)
    (hrow : Record.Fits row) (hwritten : Written store table key row txn left) :
    (key.map Value.marks = other.map Value.marks → OneRow store table key other row left) ∧
      (key.map Value.marks ≠ other.map Value.marks →
        TwoRows store table key other row txn left) ∧
      ∀ same, Value.equalItems Value.equal (Record.rowReadBack row) same =
        Value.equalItems Value.equal row same := by
  refine ⟨?_, ?_, Record.equal_rowReadBack row⟩
  · intro hmarks
    obtain rfl := (Value.list_eq_iff_marks_eq hequal).mpr hmarks
    exact hwritten.holds.oneRow hrow store
  · intro hmarks
    apply hwritten.twoRows hrow
    intro heq
    rw [rowKey_eq_iff_of_equal hequal, Value.list_eq_iff_marks_eq hequal] at heq
    exact hmarks heq

/-- Under `1.5` and `1.50`, in the first transaction on an empty store: `1.50` is the key of one row
with itself, and of another one than `1.5`. -/
theorem equal_keys_rows_scales :
    let key : List Value := [.scalar ⟨.numeric, ⟨false, 15, 1, by decide, by decide⟩⟩]
    let other : List Value := [.scalar ⟨.numeric, ⟨false, 150, 2, by decide, by decide⟩⟩]
    let row : Row := [.scalar ⟨.bool, true⟩]
    let txn : Mvcc.Transaction := ⟨⟨1, .empty⟩, .empty, .empty, .empty⟩
    OneRow .empty "t" other other row ((put "t" other row).run txn).2 ∧
      TwoRows .empty "t" key other row txn ((put "t" key row).run txn).2 := by
  intro key other row txn
  have hrow : Record.Fits row := by decide +kernel
  constructor
  · refine (equal_keys_rows ?_ hrow (.inl rfl)).1 rfl
    exact .cons (by decide +kernel) .nil
  · refine (equal_keys_rows ?_ hrow (.inl rfl)).2.1 (by decide +kernel)
    exact .cons (by decide +kernel) .nil

/-- Equal keys are not always keys of one row: a row under `1.5` is not found under `1.50`, where
another one can be inserted and none be removed, and a scan gives both. -/
theorem equal_keys_two_rows :
    let key : List Value := [.scalar ⟨.numeric, ⟨false, 15, 1, by decide, by decide⟩⟩]
    let other : List Value := [.scalar ⟨.numeric, ⟨false, 150, 2, by decide, by decide⟩⟩]
    let row : Row := [.scalar ⟨.bool, true⟩]
    let left := ((put "t" key row).run ⟨⟨1, .empty⟩, .empty, .empty, .empty⟩).2
    Value.equalItems Value.equal key other = true ∧
      ((get .empty "t" other).run left).1 = .ok none ∧
      ((insert .empty "t" other row).run left).1 = .ok () ∧
      ((delete .empty "t" other).run left).1 = .ok false ∧
      ((scan .empty "t").run ((put "t" other row).run left).2).1 = .ok [row, row] := by
  decide +kernel

/-- Neither are the keys of the two zeros. -/
example :
    ((get .empty "t" [.scalar ⟨.float64, ⟨0x8000000000000000⟩⟩]).run
      ((put "t" [.scalar ⟨.float64, ⟨0⟩⟩] []).run ⟨⟨1, .empty⟩, .empty, .empty, .empty⟩).2).1 =
        .ok none := by
  decide +kernel

end Table

end Transact
