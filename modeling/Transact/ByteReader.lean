/-
# Reading bytes from the front

A reader takes what it needs from the front of a byte string and leaves the
rest, or fails with what is wrong with the bytes. Keys and stored records are
both read this way; they differ in how they name a shortage.
-/

import Transact.Error

namespace Transact

/-- A reader of the front of a byte string. -/
abbrev ByteReader (α : Type) := StateT Bytes (Except InternalFault) α

namespace ByteReader

/-- The next `width` bytes; `short` names the shortage, given how many there are. -/
def take (width : Nat) (short : Nat → InternalFault) : ByteReader Bytes := fun bytes =>
  if bytes.length < width then .error (short bytes.length)
  else .ok (bytes.take width, bytes.drop width)

/-- Refuse the bytes. -/
def fail {α : Type} (fault : InternalFault) : ByteReader α := fun _ => .error fault

/-- A byte string in front of others is taken whole, and the others are left. -/
theorem take_append {width : Nat} {front : Bytes} (h : front.length = width) (rest : Bytes)
    (short : Nat → InternalFault) : take width short (front ++ rest) = .ok (front, rest) := by
  subst h
  simp [take]

/-- Two readers in a row succeed when the first does and the second does on what it left. -/
theorem bind_eq_ok_iff {α β : Type} {reader : ByteReader α} {next : α → ByteReader β}
    {bytes rest : Bytes} {value : β} :
    (reader >>= next) bytes = .ok (value, rest) ↔
      ∃ found behind, reader bytes = .ok (found, behind) ∧
        next found behind = .ok (value, rest) := by
  cases h : reader bytes with
  | error => simp [bind, StateT.bind, Except.bind, h]
  | ok found =>
    obtain ⟨found, behind⟩ := found
    simp only [bind, StateT.bind, Except.bind, h, Except.ok.injEq, Prod.mk.injEq]
    constructor
    · intro hnext
      exact ⟨found, behind, ⟨rfl, rfl⟩, hnext⟩
    · rintro ⟨_, _, ⟨rfl, rfl⟩, hnext⟩
      exact hnext

@[simp] theorem pure_eq_ok_iff {α : Type} {bytes rest : Bytes} {found value : α} :
    (pure found : ByteReader α) bytes = .ok (value, rest) ↔ found = value ∧ bytes = rest := by
  show (Except.ok (found, bytes) : Except InternalFault (α × Bytes)) = .ok (value, rest) ↔ _
  rw [Except.ok.injEq, Prod.mk.injEq]

/-- What is taken is the front of the right length. -/
theorem take_eq_ok_iff {width : Nat} {short : Nat → InternalFault} {bytes front rest : Bytes} :
    take width short bytes = .ok (front, rest) ↔ front.length = width ∧ bytes = front ++ rest := by
  refine ⟨fun h => ?_, fun ⟨hlength, hbytes⟩ => hbytes ▸ take_append hlength rest short⟩
  by_cases hshort : bytes.length < width
  · simp [take, hshort] at h
  · simp only [take, hshort, if_false, Except.ok.injEq, Prod.mk.injEq] at h
    obtain ⟨rfl, rfl⟩ := h
    refine ⟨?_, (List.take_append_drop width bytes).symm⟩
    rw [List.length_take]
    omega

end ByteReader

end Transact
