/-
# The byte store

Everything is kept in one ordered map from byte strings to byte strings. Scans
yield its entries in key order between two bounds. A prefix scan is the scan
from the prefix to the first byte string that is greater than all its
extensions; a prefix of nothing but `ff` bytes has no such end.
-/

import Transact.OrderedMap

namespace Transact

/-- The content of a store. -/
abbrev Store := OrderedMap Bytes Bytes

/-- One end of a range of keys. -/
inductive Bound where
  | unbounded
  | included (key : Bytes)
  | excluded (key : Bytes)
  deriving DecidableEq, Repr

namespace Bound

/-- Whether a key lies above a lower end. -/
def admitsAbove : Bound → Bytes → Bool
  | .unbounded, _ => true
  | .included least, key => !decide (key < least)
  | .excluded below, key => decide (below < key)

/-- Whether a key lies below an upper end. -/
def admitsBelow : Bound → Bytes → Bool
  | .unbounded, _ => true
  | .included greatest, key => !decide (greatest < key)
  | .excluded above, key => decide (key < above)

end Bound

namespace Store

/-- The entries between two bounds, ascending. -/
def scan (store : Store) (lower upper : Bound) : List (Bytes × Bytes) :=
  store.entries.filter fun entry => lower.admitsAbove entry.1 && upper.admitsBelow entry.1

/-- The first byte string after all extensions of a prefix, if there is one: trailing `ff`
bytes are dropped, and the last byte that is left is raised by one. -/
def prefixEnd (start : Bytes) : Bound :=
  match start.reverse.dropWhile (· == 0xff) with
  | [] => .unbounded
  | last :: others => .excluded ((last + 1) :: others).reverse

/-- The entries whose key begins with a prefix, ascending. -/
def scanPrefix (store : Store) (start : Bytes) : List (Bytes × Bytes) :=
  store.scan (.included start) (prefixEnd start)

end Store

end Transact
