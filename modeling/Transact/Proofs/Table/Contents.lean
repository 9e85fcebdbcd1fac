/-
# Tables are a map

Seen through one transaction, the tables are a map from table names and keys to
rows. The map answers what it holds, a request changes it in one place at most,
and nothing else of the encoding shows: two places are the same only if the
names are equal and the values of the keys are, floats bit for bit and decimals
with their scale, since values are compared that way here.

A map shows what is found under row keys if what is found are its rows in their
stored form, and nothing else. Every request that writes keeps this between the
map and what the transaction finds; and whatever transaction finds what a map
shows, answers as the map does.
-/

import Transact.Proofs.Interaction
import Transact.Proofs.Mvcc.Chain
import Transact.Proofs.Table.Key
import Transact.Table.Handler

namespace Transact

/-- What a transaction finds under a key: its own write, or else the value of its snapshot. -/
def Mvcc.Transaction.found (txn : Transaction) (store : Store) (key : Bytes) : Option Bytes :=
  (txn.writes.get? key).getD (txn.snapshot.value store key)

namespace Table

/-- The rows of all tables, by table name and key. -/
abbrev Contents := String → List Value → Option Row

namespace Contents

/-- The same rows but for one place. -/
def set (contents : Contents) (table : String) (key : List Value) (row : Option Row) : Contents :=
  fun other otherKey => if other = table ∧ otherKey = key then row else contents other otherKey

/-- Removing a row where there is none changes nothing. -/
theorem set_none {contents : Contents} {table : String} {key : List Value}
    (h : contents table key = none) : contents.set table key none = contents := by
  funext other otherKey
  unfold set
  split
  case isTrue hplace => rw [hplace.1, hplace.2, h]
  case isFalse => rfl

/-- The rows that a request leaves. -/
def after (contents : Contents) : Request → Contents
  | .put table key row => contents.set table key (some row)
  | .insert table key row =>
    if (contents table key).isSome then contents else contents.set table key (some row)
  | .delete table key => contents.set table key none
  | .get .. | .scan _ | .findContext _ | .cancel _ => contents

/-- What the rows answer to a request: all that there is to say about a row, and of a scan that it
gives the rows of the table, each once, in the order of their row keys. -/
def Answers (contents : Contents) : (request : Request) → request.Answer → Prop
  | .get table key, answer => answer = .ok (contents table key)
  | .insert table key _, answer =>
    answer = if (contents table key).isSome then .error (.execution (.rowExists key table))
      else .ok ()
  | .put .., answer => answer = .ok ()
  | .delete table key, answer => answer = .ok (contents table key).isSome
  | .scan table, answer =>
    ∃ entries : List (List Value × Row), answer = .ok (entries.map Prod.snd) ∧
      entries.Pairwise (fun first second => rowKey table first.1 < rowKey table second.1) ∧
      ∀ key row, (key, row) ∈ entries ↔ contents table key = some row
  | .findContext _, _ | .cancel _, _ => True

/-- Answers to requests in a row are those of the rows, as each request leaves them. -/
def Explains : Contents → List ((request : Request) × request.Answer) → Prop
  | _, [] => True
  | contents, ⟨request, answer⟩ :: rest =>
    contents.Answers request answer ∧ (contents.after request).Explains rest

/-- There are rows in finitely many places only. -/
def Finite (contents : Contents) : Prop :=
  ∃ places : List (String × List Value),
    ∀ table key row, contents table key = some row → (table, key) ∈ places

/-- What is found under keys are the rows in their stored form and nothing else, and all of them can
be stored where they are. -/
structure Shows (contents : Contents) (found : Bytes → Option Bytes) : Prop where
  storable : ∀ table key row, contents table key = some row →
    Addressable table key ∧ Record.Storable row
  found_iff : ∀ bytes stored, found bytes = some stored ↔
    ∃ table key row, bytes = rowKey table key ∧ stored = Record.rowField row ∧
      contents table key = some row

end Contents

/-- A write of the tables: there is a row under its key, or nothing. -/
def IsRowWrite (bytes : Bytes) (write : Option Bytes) : Prop :=
  ∃ table key, Addressable table key ∧ bytes = rowKey table key ∧
    ∀ stored, write = some stored → ∃ row, Record.Storable row ∧ stored = Record.rowField row

/-- A request names places, tables and rows that can be stored. -/
def Request.Storable : Request → Prop
  | .get table key | .delete table key => Addressable table key
  | .insert table key row | .put table key row => Addressable table key ∧ Record.Storable row
  | .scan table => (Record.textField table).length < UInt64.size
  | .findContext _ | .cancel _ => True

variable {contents : Contents} {found : Bytes → Option Bytes} {table : String} {key : List Value}

/-! ## What is found shows rows -/

/-- If nothing but rows is found, there are rows that it shows. -/
theorem exists_shows (h : ∀ bytes stored, found bytes = some stored →
    IsRowWrite bytes (some stored)) : ∃ contents : Contents, contents.Shows found := by
  classical
  let contents : Contents := fun table key =>
    if Addressable table key then
      (found (rowKey table key)).bind fun stored => (Record.decodeRow stored).toOption
    else none
  -- A row in a place is found there in its stored form.
  have hrow : ∀ table key row, contents table key = some row ↔
      Addressable table key ∧ Record.Storable row ∧
        found (rowKey table key) = some (Record.rowField row) := by
    intro table key row
    by_cases hplace : Addressable table key
    case neg => simp [contents, hplace]
    case pos =>
      simp only [contents, if_pos hplace, Option.bind_eq_some_iff]
      constructor
      · rintro ⟨stored, hfound, hread⟩
        obtain ⟨-, -, -, -, hstored⟩ := h _ _ hfound
        obtain ⟨own, hown, rfl⟩ := hstored stored rfl
        rw [Record.decodeRow_rowField hown] at hread
        obtain rfl := Option.some.inj hread
        exact ⟨hplace, hown, hfound⟩
      · rintro ⟨-, hown, hfound⟩
        exact ⟨_, hfound, by rw [Record.decodeRow_rowField hown]; rfl⟩
  refine ⟨contents, fun table key row hcontents => ?_, fun bytes stored => ⟨fun hfound => ?_, ?_⟩⟩
  · obtain ⟨hplace, hown, -⟩ := (hrow _ _ _).mp hcontents
    exact ⟨hplace, hown⟩
  · obtain ⟨table, key, hplace, rfl, hstored⟩ := h _ _ hfound
    obtain ⟨row, hown, rfl⟩ := hstored stored rfl
    exact ⟨table, key, row, rfl, rfl, (hrow _ _ _).mpr ⟨hplace, hown, hfound⟩⟩
  · rintro ⟨table, key, row, rfl, rfl, hcontents⟩
    exact ((hrow _ _ _).mp hcontents).2.2

namespace Contents.Shows

/-- Under the key of a place is found what the rows hold there. -/
theorem found_rowKey (h : contents.Shows found) (hplace : Addressable table key) :
    found (rowKey table key) = (contents table key).map Record.rowField := by
  refine Option.ext fun stored => ?_
  rw [h.found_iff, Option.map_eq_some_iff]
  constructor
  · rintro ⟨other, otherKey, row, hkey, rfl, hrow⟩
    obtain ⟨rfl, rfl⟩ := (rowKey_inj hplace (h.storable _ _ _ hrow).1).mp hkey
    exact ⟨row, hrow, rfl⟩
  · rintro ⟨row, hrow, rfl⟩
    exact ⟨table, key, row, rfl, rfl, hrow⟩

/-- The row of a place is known from what is found under its key. -/
theorem eq_some_iff (h : contents.Shows found) (hplace : Addressable table key) {row : Row}
    (hrow : Record.Storable row) : contents table key = some row ↔
      found (rowKey table key) = some (Record.rowField row) := by
  rw [h.found_rowKey hplace, Option.map_eq_some_iff]
  constructor
  · intro hcontents
    exact ⟨row, hcontents, rfl⟩
  · rintro ⟨own, hcontents, hstored⟩
    rw [hcontents, (Record.rowField_inj (h.storable _ _ _ hcontents).2 hrow).mp hstored]

/-- There are finitely many rows if something is found under finitely many keys. -/
theorem finite (h : contents.Shows found) {keys : List Bytes}
    (hkeys : ∀ bytes stored, found bytes = some stored → bytes ∈ keys) : contents.Finite := by
  obtain ⟨places, hplaces⟩ := exists_places keys
  refine ⟨places, fun table key row hrow => ?_⟩
  have hplace := (h.storable _ _ _ hrow).1
  refine hplaces table key hplace (hkeys _ (Record.rowField row) ?_)
  rw [h.found_rowKey hplace, hrow]
  rfl

/-- Writing in one place changes what is found under its key. -/
theorem set (h : contents.Shows found) (hplace : Addressable table key) {write : Option Row}
    (hwrite : ∀ row, write = some row → Record.Storable row) :
    (contents.set table key write).Shows fun bytes =>
      if bytes = rowKey table key then write.map Record.rowField else found bytes := by
  have hstorable : ∀ other otherKey row, contents.set table key write other otherKey = some row →
      Addressable other otherKey ∧ Record.Storable row := by
    intro other otherKey row hrow
    unfold Contents.set at hrow
    split at hrow
    case isTrue hsame => exact ⟨hsame.1 ▸ hsame.2 ▸ hplace, hwrite row hrow⟩
    case isFalse => exact h.storable _ _ _ hrow
  refine ⟨hstorable, fun bytes stored => ?_⟩
  by_cases hbytes : bytes = rowKey table key
  · rw [if_pos hbytes, Option.map_eq_some_iff]
    constructor
    · rintro ⟨row, hrow, rfl⟩
      exact ⟨table, key, row, hbytes, rfl, (if_pos ⟨rfl, rfl⟩).trans hrow⟩
    · rintro ⟨other, otherKey, row, hkey, rfl, hrow⟩
      obtain ⟨rfl, rfl⟩ :=
        (rowKey_inj hplace (hstorable _ _ _ hrow).1).mp (hbytes.symm.trans hkey)
      exact ⟨row, (if_pos ⟨rfl, rfl⟩).symm.trans hrow, rfl⟩
  · -- Elsewhere the rows are as they were.
    have hsame : ∀ other otherKey, bytes = rowKey other otherKey →
        contents.set table key write other otherKey = contents other otherKey := by
      rintro other otherKey hkey
      refine if_neg ?_
      rintro ⟨rfl, rfl⟩
      exact hbytes hkey
    rw [if_neg hbytes, h.found_iff]
    constructor
    · rintro ⟨other, otherKey, row, hkey, hstored, hrow⟩
      exact ⟨other, otherKey, row, hkey, hstored, (hsame _ _ hkey).trans hrow⟩
    · rintro ⟨other, otherKey, row, hkey, hstored, hrow⟩
      exact ⟨other, otherKey, row, hkey, hstored, (hsame _ _ hkey).symm.trans hrow⟩

/-- Entries of rows of one table, read back. -/
theorem exists_items (h : contents.Shows found) {entries : List (Bytes × Bytes)}
    (hentries : ∀ entry ∈ entries, ∃ key row, entry = (rowKey table key, Record.rowField row) ∧
      contents table key = some row) :
    ∃ items : List (List Value × Row), rowsOf entries = .ok (items.map Prod.snd) ∧
      entries = items.map (fun item => (rowKey table item.1, Record.rowField item.2)) ∧
      ∀ item ∈ items, contents table item.1 = some item.2 := by
  induction entries with
  | nil => exact ⟨[], rfl, rfl, fun _ hitem => absurd hitem List.not_mem_nil⟩
  | cons entry entries ih =>
      obtain ⟨key, row, rfl, hrow⟩ := hentries _ List.mem_cons_self
      obtain ⟨items, hrows, hitems, hcontents⟩ :=
        ih fun entry hentry => hentries entry (List.mem_cons_of_mem _ hentry)
      have hdecode := Record.decodeRow_rowField (h.storable _ _ _ hrow).2
      refine ⟨(key, row) :: items, ?_, ?_, ?_⟩
      · rw [rowsOf, hdecode, hrows]
        rfl
      · rw [hitems, List.map_cons]
      · intro item hitem
        rcases List.mem_cons.mp hitem with rfl | hitem
        · exact hrow
        · exact hcontents item hitem

/-- Ascending entries that are all there is under a table's prefix are read as its rows. -/
theorem answers_scan (h : contents.Shows found)
    (htable : (Record.textField table).length < UInt64.size) {entries : List (Bytes × Bytes)}
    (hsorted : entries.Pairwise fun first second => first.1 < second.1)
    (hentries : ∀ bytes stored, (bytes, stored) ∈ entries ↔
      tablePrefix table <+: bytes ∧ found bytes = some stored) :
    contents.Answers (.scan table) (rowsOf entries) := by
  have hrows : ∀ entry ∈ entries, ∃ key row,
      entry = (rowKey table key, Record.rowField row) ∧ contents table key = some row := by
    rintro ⟨bytes, stored⟩ hentry
    obtain ⟨hstart, hfound⟩ := (hentries _ _).mp hentry
    obtain ⟨other, key, row, rfl, rfl, hrow⟩ := (h.found_iff _ _).mp hfound
    obtain rfl := (tablePrefix_prefix_rowKey_iff htable (h.storable _ _ _ hrow).1).mp hstart
    exact ⟨key, row, rfl, hrow⟩
  obtain ⟨items, hread, rfl, hitems⟩ := h.exists_items hrows
  rw [List.pairwise_map] at hsorted
  refine ⟨items, hread, hsorted, fun key row => ⟨hitems _, fun hrow => ?_⟩⟩
  have hplace := (h.storable _ _ _ hrow).1
  have hmem := (hentries (rowKey table key) (Record.rowField row)).mpr
    ⟨(tablePrefix_prefix_rowKey_iff htable hplace).mpr rfl,
      (h.found_iff _ _).mpr ⟨table, key, row, rfl, rfl, hrow⟩⟩
  obtain ⟨item, hitem, heq⟩ := List.mem_map.mp hmem
  -- The item has the same key, and there is one row under it.
  have hown := hitems item hitem
  obtain ⟨-, hkey⟩ := (rowKey_inj (h.storable _ _ _ hown).1 hplace).mp (congrArg Prod.fst heq)
  rw [hkey, hrow] at hown
  obtain rfl := Option.some.inj hown
  rwa [← hkey]

end Contents.Shows

/-! ## What a transaction answers -/

section Perform

variable {store : Store} {txn : Mvcc.Transaction} {request : Request}

theorem found_noteRead (txn : Mvcc.Transaction) (store : Store) (key : Bytes) :
    (txn.noteRead key).found store = txn.found store := by
  unfold Mvcc.Transaction.noteRead
  split <;> rfl

theorem found_set (txn : Mvcc.Transaction) (store : Store) (key value : Bytes) :
    (txn.set key value).found store =
      fun bytes => if bytes = key then some value else txn.found store bytes := by
  funext bytes
  simp only [Mvcc.Transaction.found, Mvcc.Transaction.set, OrderedMap.get?_insert]
  split <;> rfl

theorem found_delete (txn : Mvcc.Transaction) (store : Store) (key : Bytes) :
    (txn.delete key).found store =
      fun bytes => if bytes = key then none else txn.found store bytes := by
  funext bytes
  simp only [Mvcc.Transaction.found, Mvcc.Transaction.delete, OrderedMap.get?_insert]
  split <;> rfl

/-- A transaction that finds what the rows show reads the row of a place, whatever it has read. -/
theorem get_eq (hkeyed : Mvcc.VersionsKeyed store) (hreadable : Mvcc.VersionsReadable store)
    (h : contents.Shows (txn.found store)) (hplace : Addressable table key) :
    get store table key txn = (.ok (contents table key), txn.noteRead (rowKey table key)) := by
  have hfound : txn.lookup store (rowKey table key) =
      .ok ((contents table key).map Record.rowField) := by
    rw [Mvcc.lookup_eq hkeyed hreadable, ← h.found_rowKey hplace]
    rfl
  simp only [get, Call.of, Mvcc.Transaction.get, hfound, Error.ofInternal]
  cases hrow : contents table key with
  | none => rfl
  | some row =>
      have hdecode := Record.decodeRow_rowField (h.storable _ _ _ hrow).2
      simp only [Option.map_some, bind, Except.bind, rowOf, hdecode, Error.ofInternal, Except.map]

/-- A transaction that finds what the rows show answers a request as they do, and finds then what
the rows show that the request leaves. -/
theorem perform_answers (hkeyed : Mvcc.VersionsKeyed store)
    (hreadable : Mvcc.VersionsReadable store) (h : contents.Shows (txn.found store))
    (hrequest : request.Storable) (signals : Signals) :
    contents.Answers request (perform store request (txn, signals)).1 ∧
      (contents.after request).Shows ((perform store request (txn, signals)).2.1.found store) := by
  have hput : ∀ table key row, Addressable table key → Record.Storable row →
      (contents.set table key (some row)).Shows fun bytes =>
        if bytes = rowKey table key then some (Record.rowField row) else txn.found store bytes := by
    intro table key row hplace hrow
    refine h.set hplace fun other hother => ?_
    obtain rfl := Option.some.inj hother
    exact hrow
  cases request with
  | findContext name => exact ⟨trivial, h⟩
  | cancel context => exact ⟨trivial, h⟩
  | get table key =>
      simp only [perform, onTables, Call.run, get_eq hkeyed hreadable h hrequest, Contents.Answers,
        Contents.after, found_noteRead]
      exact ⟨trivial, h⟩
  | put table key row =>
      refine ⟨rfl, ?_⟩
      simp only [perform, onTables, Call.run, put, Call.of, Contents.after, found_set]
      exact hput table key row hrequest.1 hrequest.2
  | insert table key row =>
      simp only [perform, onTables, Call.run, insert, Call.of,
        get_eq hkeyed hreadable h hrequest.1, Contents.Answers, Contents.after]
      cases contents table key with
      | some taken =>
          refine ⟨rfl, ?_⟩
          rw [found_noteRead]
          exact h
      | none =>
          refine ⟨rfl, ?_⟩
          simp only [put, Call.of, found_set, found_noteRead]
          exact hput table key row hrequest.1 hrequest.2
  | delete table key =>
      have hgone : (contents.set table key none).Shows fun bytes =>
          if bytes = rowKey table key then none else txn.found store bytes :=
        h.set hrequest fun _ hnone => absurd hnone (by simp)
      simp only [perform, onTables, Call.run, delete, Call.of, get_eq hkeyed hreadable h hrequest,
        Contents.Answers, Contents.after]
      cases hrow : contents table key with
      | some row =>
          refine ⟨rfl, ?_⟩
          simp only [found_delete, found_noteRead]
          exact hgone
      | none =>
          refine ⟨rfl, ?_⟩
          rw [found_noteRead, Contents.set_none hrow]
          exact h
  | scan table =>
      obtain ⟨entries, hentries, hget⟩ :=
        Mvcc.lookupPrefix_eq hkeyed hreadable txn (tablePrefix table)
      have hscan : (perform store (.scan table) (txn, signals)).1 = rowsOf entries.entries := by
        simp only [perform, onTables, Call.run, scan, Call.of, Mvcc.Transaction.scanPrefix,
          hentries, Except.map, Error.ofInternal]
        rfl
      refine ⟨?_, h⟩
      rw [hscan]
      refine h.answers_scan hrequest entries.sorted fun bytes stored => ?_
      rw [← OrderedMap.get?_eq_some_iff, hget]
      by_cases hstart : tablePrefix table <+: bytes
      · simp [hstart, Mvcc.Transaction.found]
      · simp [hstart]

/-- A handler that finds what the rows show is answered as they answer, whatever it makes of the
answers. -/
theorem Handler.explains {α : Type} (hkeyed : Mvcc.VersionsKeyed store)
    (hreadable : Mvcc.VersionsReadable store) {handler : Interaction Request Request.Answer α}
    (hhandler : handler.All Request.Storable) {site : Site}
    (h : contents.Shows (site.1.found store)) :
    contents.Explains ((handler.trace (Table.perform store) site).map fun call =>
      ⟨call.2, (Table.perform store call.2 call.1).1⟩) := by
  induction handler generalizing contents site with
  | done result => trivial
  | call request next ih =>
      obtain ⟨hanswer, hleft⟩ := perform_answers hkeyed hreadable h hhandler.1 site.2
      exact ⟨hanswer, ih _ (hhandler.2 _) hleft⟩

end Perform

end Table

end Transact
