/-
# Prefix scans

The range of keys that a prefix scan walks, from the prefix up to the first
byte string after all its extensions, is exactly the set of its extensions. So
a prefix scan yields the entries whose key begins with the prefix, for every
prefix, one that ends in `ff` bytes or has no others included. It ascends from
the front and descends from the back.

A scan looks at the entries between its bounds and at nothing else, so stores
that agree there scan alike.
-/

import Transact.Storage.Step

namespace Transact.Store

@[simp] theorem prefixEnd_nil : prefixEnd [] = .unbounded := rfl

/-- The end of the range grows with the prefix from the front, unless what is behind the first
byte has no end of its own: then the first byte is raised, or there is no end at all. -/
theorem prefixEnd_cons (byte : UInt8) (start : Bytes) :
    prefixEnd (byte :: start) =
      match prefixEnd start with
      | .excluded after => .excluded (byte :: after)
      | _ => if byte = 0xff then .unbounded else .excluded [byte + 1] := by
  simp only [prefixEnd, List.reverse_cons, List.dropWhile_append]
  cases h : start.reverse.dropWhile (· == 0xff) with
  | nil => by_cases hbyte : byte = 0xff <;> simp [hbyte]
  | cons last others => simp

theorem prefixEnd_eq (start : Bytes) :
    prefixEnd start = .unbounded ∨ ∃ after, prefixEnd start = .excluded after := by
  unfold prefixEnd
  split
  · exact .inl rfl
  · exact .inr ⟨_, rfl⟩

/-- The keys from a prefix to the end of its range are its extensions. -/
theorem admits_prefix_iff (start key : Bytes) :
    ¬ key < start ∧ (prefixEnd start).admitsBelow key = true ↔ start <+: key := by
  induction start generalizing key with
  | nil => simp [Bound.admitsBelow]
  | cons byte start ih =>
      cases key with
      | nil => simp
      | cons first key =>
          have hrest := ih key
          rw [prefixEnd_cons, List.cons_lt_cons_iff, List.cons_prefix_cons, ← hrest]
          rcases prefixEnd_eq start with hend | ⟨after, hend⟩
          · by_cases hbyte : byte = 0xff
            · have hle : first ≤ 0xff := by
                have := first.toNat_lt
                rw [UInt8.le_iff_toNat_le]
                simp only [UInt8.toNat_ofNat]
                omega
              simp only [hend, hbyte, if_true, Bound.admitsBelow, and_true]
              grind
            · have hraise : first < byte + 1 ↔ first ≤ byte := by
                have hlt : byte.toNat ≠ 255 := fun h => hbyte (UInt8.toNat_inj.mp h)
                have := byte.toNat_lt
                rw [UInt8.lt_iff_toNat_lt, UInt8.le_iff_toNat_le, UInt8.toNat_add]
                simp only [UInt8.toNat_one]
                omega
              simp only [hend, hbyte, if_false, Bound.admitsBelow, decide_eq_true_eq,
                List.cons_lt_cons_iff, List.not_lt_nil, and_false, or_false, hraise, and_true]
              grind
          · simp only [hend, Bound.admitsBelow, decide_eq_true_eq, List.cons_lt_cons_iff]
            grind

/-- The range of a prefix is never turned round: where it has an end, this lies above the prefix. -/
theorem lt_of_prefixEnd_eq_excluded {start after : Bytes} (h : prefixEnd start = .excluded after) :
    start < after := by
  have hown := ((admits_prefix_iff start start).mpr List.prefix_rfl).2
  simpa [h, Bound.admitsBelow] using hown

/-- A prefix scan yields exactly the entries whose key begins with the prefix, in key order. -/
theorem scanPrefix_eq_filter (store : Store) (start : Bytes) :
    store.scanPrefix start = store.entries.filter fun entry => start.isPrefixOf entry.1 := by
  unfold scanPrefix scan
  apply List.filter_congr
  intro entry _
  apply Bool.eq_iff_iff.mpr
  rw [List.isPrefixOf_iff_prefix, ← admits_prefix_iff]
  simp [Bound.admitsAbove]

theorem mem_scanPrefix_iff {store : Store} {start : Bytes} {entry : Bytes × Bytes} :
    entry ∈ store.scanPrefix start ↔ entry ∈ store.entries ∧ start <+: entry.1 := by
  rw [scanPrefix_eq_filter, List.mem_filter, List.isPrefixOf_iff_prefix]

/-- An entry of the store is listed once if its key begins with the prefix, and else not at all. -/
theorem count_scanPrefix (store : Store) (start : Bytes) (entry : Bytes × Bytes) :
    (store.scanPrefix start).count entry =
      if store.get? entry.1 = some entry.2 ∧ start <+: entry.1 then 1 else 0 := by
  have hmem : entry ∈ store.scanPrefix start ↔
      store.get? entry.1 = some entry.2 ∧ start <+: entry.1 := by
    rw [mem_scanPrefix_iff, OrderedMap.get?_eq_some_iff]
  have hsorted := store.sorted.filter fun entry => start.isPrefixOf entry.1
  rw [← scanPrefix_eq_filter] at hsorted
  have hnodup : (store.scanPrefix start).Nodup := by
    refine hsorted.imp ?_
    rintro first _ hlt rfl
    exact Std.lt_irrefl hlt
  rw [hnodup.count]
  simp only [hmem]

/-- A prefix scan has a range that is not turned round, and lists each entry whose key begins with
the prefix, once and with no others among them, in ascending order of the keys from the front and
in the opposite order from the back. The store stays as it is. -/
theorem perform_scanPrefix (store : Store) (start : Bytes) :
    (∀ after, prefixEnd start = .excluded after → start < after) ∧
    ∃ entries : List (Bytes × Bytes),
      (∀ entry, entries.count entry =
        if store.get? entry.1 = some entry.2 ∧ start <+: entry.1 then 1 else 0) ∧
      entries.Pairwise (fun first second => first.1 < second.1) ∧
      store.perform (.scanPrefix start false) = (.entries entries, store) ∧
      store.perform (.scanPrefix start true) = (.entries entries.reverse, store) := by
  refine ⟨fun _ => lt_of_prefixEnd_eq_excluded, store.scanPrefix start,
    store.count_scanPrefix start, ?_, rfl, rfl⟩
  exact store.sorted.filter _

/-- A scan of a prefix that ends in `ff` stops before the next greater byte in front of it; one of
`ff` bytes alone goes on to the last key. -/
example :
    let store : Store := ((OrderedMap.empty.insert [97, 255, 0] [1]).insert [98] [2]).insert
      [255, 255, 1] [3]
    store.perform (.scanPrefix [97, 255] true) = (.entries [([97, 255, 0], [1])], store) ∧
      store.perform (.scanPrefix [255] false) = (.entries [([255, 255, 1], [3])], store) := by
  decide +kernel

/-! ## Stores that agree on a range -/

/-- Stores that hold the same between two bounds scan alike. -/
theorem scan_congr {left right : Store} {lower upper : Bound}
    (h : ∀ key, lower.admitsAbove key = true → upper.admitsBelow key = true →
      left.get? key = right.get? key) : left.scan lower upper = right.scan lower upper := by
  refine OrderedMap.eq_of_mem_iff (left.sorted.filter _) (right.sorted.filter _) ?_
  rintro ⟨key, value⟩
  simp only [scan, List.mem_filter, Bool.and_eq_true]
  apply and_congr_left
  rintro ⟨hlower, hupper⟩
  rw [← OrderedMap.get?_eq_some_iff, ← OrderedMap.get?_eq_some_iff, h key hlower hupper]

/-- Stores that hold the same under a prefix scan it alike. -/
theorem scanPrefix_congr {left right : Store} {start : Bytes}
    (h : ∀ key, start <+: key → left.get? key = right.get? key) :
    left.scanPrefix start = right.scanPrefix start := by
  apply scan_congr
  intro key hlower hupper
  apply h
  rw [← admits_prefix_iff]
  exact ⟨by simpa [Bound.admitsAbove] using hlower, hupper⟩

end Transact.Store
