/-
# Row keys tell rows apart

All tables share one key space, and nothing is mixed up in it: row keys of two
rows differ, and a row key begins with the prefix of its own table only, even
where the name of one table begins that of another, because a name's length
comes before it.
-/

import Transact.Proofs.Record.Row
import Transact.Table.Key

namespace Transact.Table

/-- A place where a row can be stored: what is spelled in the key is read from its text, and the row
key has a length that can be written. -/
structure Addressable (table : String) (key : List Value) : Prop where
  spelled : ∀ value ∈ key, Record.Spelled value
  fits : (rowKey table key).length < UInt64.size

variable {table other : String} {key otherKey : List Value}

theorem length_rowKey (table : String) (key : List Value) :
    (rowKey table key).length =
      4 + (Record.textField table).length + (Record.listField Record.valueField key).length := by
  simp only [rowKey, tablePrefix, List.length_append, Record.length_variantField]

/-- A table's prefix begins the row keys of this table, and of no other. -/
theorem tablePrefix_prefix_rowKey_iff (htable : (Record.textField table).length < UInt64.size)
    (h : Addressable other otherKey) :
    tablePrefix table <+: rowKey other otherKey ↔ table = other := by
  constructor
  · rintro ⟨rest, hrest⟩
    have hother := h.fits
    rw [length_rowKey] at hother
    simp only [rowKey, tablePrefix, List.append_assoc, List.append_cancel_left_eq] at hrest
    exact ((Record.readsBack_text table).append_inj (Record.readsBack_text other) htable
      (by omega) hrest).1
  · rintro rfl
    exact List.prefix_append _ _

/-- Rows have the same key only if they are in one table, under the same values. -/
theorem rowKey_inj (h : Addressable table key) (hother : Addressable other otherKey) :
    rowKey table key = rowKey other otherKey ↔ table = other ∧ key = otherKey := by
  constructor
  · intro heq
    have hfits := h.fits
    have hotherfits := hother.fits
    rw [length_rowKey] at hfits hotherfits
    simp only [rowKey, tablePrefix, List.append_assoc, List.append_cancel_left_eq] at heq
    obtain ⟨rfl, hkeys⟩ := (Record.readsBack_text table).append_inj (Record.readsBack_text other)
      (by omega) (by omega) heq
    rw [← List.append_nil (Record.listField _ key), ← List.append_nil (Record.listField _ otherKey)]
      at hkeys
    exact ⟨rfl, ((Record.readsBack_row h.spelled).append_inj (Record.readsBack_row hother.spelled)
      (by rw [Record.rowField]; omega) (by rw [Record.rowField]; omega) hkeys).1⟩
  · rintro ⟨rfl, rfl⟩
    rfl

/-- Finitely many bytes are the row keys of finitely many places. -/
theorem exists_places (keys : List Bytes) : ∃ places : List (String × List Value),
    ∀ table key, Addressable table key → rowKey table key ∈ keys → (table, key) ∈ places := by
  induction keys with
  | nil => exact ⟨[], fun _ _ _ hmem => absurd hmem List.not_mem_nil⟩
  | cons bytes keys ih =>
      obtain ⟨places, hplaces⟩ := ih
      by_cases hplace : ∃ table key, Addressable table key ∧ rowKey table key = bytes
      case neg =>
        refine ⟨places, fun table key h hmem => ?_⟩
        rcases List.mem_cons.mp hmem with hbytes | hmem
        · exact absurd ⟨table, key, h, hbytes⟩ hplace
        · exact hplaces table key h hmem
      case pos =>
        obtain ⟨other, otherKey, hother, rfl⟩ := hplace
        refine ⟨(other, otherKey) :: places, fun table key h hmem => ?_⟩
        rcases List.mem_cons.mp hmem with hbytes | hmem
        · obtain ⟨rfl, rfl⟩ := (rowKey_inj h hother).mp hbytes
          exact List.mem_cons_self
        · exact List.mem_cons_of_mem _ (hplaces table key h hmem)

end Transact.Table
