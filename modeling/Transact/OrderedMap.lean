/-
# Finite maps in key order

An `OrderedMap` is the list of its entries, strictly ascending by key. The
engine's content, a transaction's write buffer, its read sets and the
parameters of a statement are all such maps, so everything that walks one sees
its keys in order and no key twice.

The main facts are one lookup equation per operation and `ext`: two maps that
answer every lookup alike are equal, so equal content means equal maps.
-/

import Transact.Bytes

namespace Transact

/-- A finite map, held as its entries in strictly ascending key order. -/
structure OrderedMap (κ ν : Type) [LT κ] where
  entries : List (κ × ν)
  sorted : entries.Pairwise (fun first second => first.1 < second.1)

namespace OrderedMap

variable {κ ν : Type}

section Entries

variable [DecidableEq κ]

/-- The value that a list of entries holds for a key. -/
def find? (key : κ) : List (κ × ν) → Option ν
  | [] => none
  | (own, value) :: rest => if own = key then some value else find? key rest

theorem find?_filter_key (keep : κ → Bool) (key : κ) (entries : List (κ × ν)) :
    find? key (entries.filter fun entry => keep entry.1)
      = if keep key then find? key entries else none := by
  induction entries with
  | nil => simp [find?]
  | cons head rest ih =>
    obtain ⟨own, old⟩ := head
    by_cases h : own = key
    · subst h; by_cases hkeep : keep own <;> simp_all [find?]
    · by_cases hkeep : keep own <;> simp [find?, h, hkeep, ih]

theorem mem_of_find? {key : κ} {value : ν} {entries : List (κ × ν)}
    (h : find? key entries = some value) : (key, value) ∈ entries := by
  induction entries with
  | nil => cases h
  | cons head rest ih =>
    obtain ⟨own, old⟩ := head
    simp only [find?] at h
    split at h
    case isTrue heq => cases h; exact heq ▸ List.mem_cons_self
    case isFalse => exact List.mem_cons_of_mem _ (ih h)

variable [LT κ] [DecidableLT κ]

/-- Put an entry in its place, in place of an entry of the same key. -/
def insertEntry (key : κ) (value : ν) : List (κ × ν) → List (κ × ν)
  | [] => [(key, value)]
  | (own, old) :: rest =>
    if key < own then (key, value) :: (own, old) :: rest
    else if own = key then (key, value) :: rest
    else (own, old) :: insertEntry key value rest

theorem mem_insertEntry {key : κ} {value : ν} {entry : κ × ν} {entries : List (κ × ν)}
    (h : entry ∈ insertEntry key value entries) : entry = (key, value) ∨ entry ∈ entries := by
  induction entries with
  | nil => simpa [insertEntry] using h
  | cons head rest ih =>
    obtain ⟨own, old⟩ := head
    simp only [insertEntry] at h
    split at h
    · simpa using h
    · split at h
      · rcases List.mem_cons.mp h with h | h
        · exact .inl h
        · exact .inr (List.mem_cons_of_mem _ h)
      · rcases List.mem_cons.mp h with h | h
        · exact .inr (h ▸ List.mem_cons_self)
        · exact (ih h).imp id (List.mem_cons_of_mem _)

theorem find?_insertEntry (key other : κ) (value : ν) (entries : List (κ × ν)) :
    find? other (insertEntry key value entries)
      = if other = key then some value else find? other entries := by
  induction entries with
  | nil => simp [insertEntry, find?, eq_comm]
  | cons head rest ih =>
    obtain ⟨own, old⟩ := head
    simp only [insertEntry]
    split
    · simp [find?, eq_comm]
    · split
      · simp_all [find?, eq_comm]
      · by_cases h : own = other
        · subst h; simp_all [find?]
        · simp [find?, h, ih]

end Entries

section Lookup

variable [LT κ] [LE κ] [Std.LawfulOrderLT κ] [DecidableEq κ]

/-- In ascending order no key occurs twice, so every entry is the one that is found. -/
theorem find?_eq_some_iff {key : κ} {value : ν} {entries : List (κ × ν)}
    (h : entries.Pairwise (fun first second => first.1 < second.1)) :
    find? key entries = some value ↔ (key, value) ∈ entries := by
  refine ⟨mem_of_find?, fun hmem => ?_⟩
  induction entries with
  | nil => cases hmem
  | cons head rest ih =>
    obtain ⟨own, old⟩ := head
    have hrest := List.pairwise_cons.mp h
    rcases List.mem_cons.mp hmem with heq | hmem
    · cases heq; simp [find?]
    · have hne : own ≠ key := fun heq => Std.lt_irrefl (heq ▸ hrest.1 _ hmem)
      simp only [find?, if_neg hne]
      exact ih hrest.2 hmem

/-- A key below all keys of a list is not among them. -/
theorem find?_eq_none_of_lt {key : κ} {entries : List (κ × ν)}
    (h : ∀ entry ∈ entries, key < entry.1) : find? key entries = none := by
  refine Option.eq_none_iff_forall_not_mem.mpr fun value hvalue => ?_
  exact Std.lt_irrefl (h _ (mem_of_find? hvalue))

end Lookup

section Order

variable [LT κ] [LE κ] [Std.IsLinearOrder κ] [Std.LawfulOrderLT κ]

theorem lt_of_not_lt_of_ne {a b : κ} (hlt : ¬ a < b) (hne : b ≠ a) : b < a := by
  rcases Std.le_total (a := a) (b := b) with h | h
  · exact absurd (Std.lt_iff_le_and_not_ge.mpr
      ⟨h, fun h' => hne (Std.le_antisymm h' h)⟩) hlt
  · exact Std.lt_iff_le_and_not_ge.mpr ⟨h, fun h' => hne (Std.le_antisymm h h')⟩

/-- Two ascending lists of the same entries are one list. -/
theorem eq_of_mem_iff {left right : List (κ × ν)}
    (hleft : left.Pairwise (fun first second => first.1 < second.1))
    (hright : right.Pairwise (fun first second => first.1 < second.1))
    (h : ∀ entry, entry ∈ left ↔ entry ∈ right) : left = right := by
  induction left generalizing right with
  | nil =>
    cases right with
    | nil => rfl
    | cons head rest => exact absurd ((h head).mpr List.mem_cons_self) List.not_mem_nil
  | cons first rest ih =>
    cases right with
    | nil => exact absurd ((h first).mp List.mem_cons_self) List.not_mem_nil
    | cons second others =>
      have hrest := List.pairwise_cons.mp hleft
      have hothers := List.pairwise_cons.mp hright
      have heq : first = second := by
        rcases List.mem_cons.mp ((h first).mp List.mem_cons_self) with heq | hmem
        · exact heq
        · rcases List.mem_cons.mp ((h second).mpr List.mem_cons_self) with heq | hmem'
          · exact heq.symm
          · exact absurd (Std.lt_trans (hrest.1 _ hmem') (hothers.1 _ hmem)) Std.lt_irrefl
      subst heq
      refine congrArg (first :: ·) (ih hrest.2 hothers.2 fun entry =>
        ⟨fun hmem => ?_, fun hmem => ?_⟩)
      · rcases List.mem_cons.mp ((h entry).mp (List.mem_cons_of_mem _ hmem)) with heq | hmem'
        · exact absurd (heq ▸ hrest.1 _ hmem) Std.lt_irrefl
        · exact hmem'
      · rcases List.mem_cons.mp ((h entry).mpr (List.mem_cons_of_mem _ hmem)) with heq | hmem'
        · exact absurd (heq ▸ hothers.1 _ hmem) Std.lt_irrefl
        · exact hmem'

variable [DecidableLT κ] [DecidableEq κ]

theorem sorted_insertEntry (key : κ) (value : ν) {entries : List (κ × ν)}
    (h : entries.Pairwise (fun first second => first.1 < second.1)) :
    (insertEntry key value entries).Pairwise (fun first second => first.1 < second.1) := by
  induction entries with
  | nil => simp [insertEntry]
  | cons head rest ih =>
    obtain ⟨own, old⟩ := head
    have hrest := List.pairwise_cons.mp h
    simp only [insertEntry]
    split
    case isTrue hlt =>
      refine List.pairwise_cons.mpr ⟨fun entry hentry => ?_, h⟩
      rcases List.mem_cons.mp hentry with rfl | hentry
      · exact hlt
      · exact Std.lt_trans hlt (hrest.1 entry hentry)
    case isFalse hlt =>
      split
      case isTrue heq =>
        subst heq
        exact List.pairwise_cons.mpr ⟨hrest.1, hrest.2⟩
      case isFalse hne =>
        refine List.pairwise_cons.mpr ⟨fun entry hentry => ?_, ih hrest.2⟩
        rcases mem_insertEntry hentry with rfl | hentry
        · exact lt_of_not_lt_of_ne hlt hne
        · exact hrest.1 entry hentry

end Order

section Map

variable [LT κ]

/-- The map with no entry. -/
def empty : OrderedMap κ ν := ⟨[], .nil⟩

/-- The keys in ascending order. -/
def keys (map : OrderedMap κ ν) : List κ := map.entries.map Prod.fst

/-- The entries that a test keeps. -/
def filter (keep : κ → ν → Bool) (map : OrderedMap κ ν) : OrderedMap κ ν where
  entries := map.entries.filter fun entry => keep entry.1 entry.2
  sorted := map.sorted.filter _

instance [DecidableEq κ] [DecidableEq ν] : DecidableEq (OrderedMap κ ν) := fun left right =>
  if h : left.entries = right.entries then
    .isTrue (by cases left; cases right; cases h; rfl)
  else .isFalse fun heq => h (heq ▸ rfl)

variable [DecidableEq κ]

/-- The value of a key, if the map holds one. -/
def get? (map : OrderedMap κ ν) (key : κ) : Option ν := find? key map.entries

/-- Whether the map holds a key. -/
def contains (map : OrderedMap κ ν) (key : κ) : Bool := (map.get? key).isSome

/-- The map without a key. -/
def erase (map : OrderedMap κ ν) (key : κ) : OrderedMap κ ν :=
  map.filter fun own _ => own ≠ key

@[simp] theorem get?_empty (key : κ) : (empty : OrderedMap κ ν).get? key = none := rfl

@[simp] theorem get?_erase (map : OrderedMap κ ν) (key other : κ) :
    (map.erase key).get? other = if other = key then none else map.get? other := by
  refine (find?_filter_key (fun own => decide (own ≠ key)) other map.entries).trans ?_
  by_cases h : other = key <;> simp [h, get?]

theorem contains_iff {map : OrderedMap κ ν} {key : κ} :
    map.contains key = true ↔ ∃ value, map.get? key = some value :=
  Option.isSome_iff_exists

@[simp] theorem contains_empty (key : κ) : (empty : OrderedMap κ ν).contains key = false := rfl

variable [LE κ] [Std.LawfulOrderLT κ]

theorem get?_eq_some_iff {map : OrderedMap κ ν} {key : κ} {value : ν} :
    map.get? key = some value ↔ (key, value) ∈ map.entries :=
  find?_eq_some_iff map.sorted

theorem mem_keys_iff {map : OrderedMap κ ν} {key : κ} :
    key ∈ map.keys ↔ map.contains key = true := by
  simp [keys, contains_iff, get?_eq_some_iff]

variable [Std.IsLinearOrder κ]

/-- Maps that answer every lookup alike are equal. -/
@[ext] theorem ext {left right : OrderedMap κ ν} (h : ∀ key, left.get? key = right.get? key) :
    left = right := by
  have hentries : left.entries = right.entries :=
    eq_of_mem_iff left.sorted right.sorted fun entry => by
      rw [← get?_eq_some_iff, ← get?_eq_some_iff, h]
  cases left
  cases right
  cases hentries
  rfl

variable [DecidableLT κ]

/-- The map with a key set to a value. -/
def insert (map : OrderedMap κ ν) (key : κ) (value : ν) : OrderedMap κ ν where
  entries := insertEntry key value map.entries
  sorted := sorted_insertEntry key value map.sorted

@[simp] theorem get?_insert (map : OrderedMap κ ν) (key other : κ) (value : ν) :
    (map.insert key value).get? other = if other = key then some value else map.get? other :=
  find?_insertEntry key other value map.entries

@[simp] theorem contains_insert (map : OrderedMap κ ν) (key other : κ) (value : ν) :
    (map.insert key value).contains other = (decide (other = key) || map.contains other) := by
  by_cases h : other = key <;> simp [contains, h]

end Map

end OrderedMap

/-- A finite set, held as an ordered map without values. -/
abbrev OrderedSet (κ : Type) [LT κ] := OrderedMap κ Unit

end Transact
