import Mathlib.Data.Nat.Digits.Defs

/-!
# Byte formats

Numbers as little-endian bytes, and buffers that are written and read one field behind
the other.

- `leBytes` and `ofDigits_leBytes`: the bytes of a number, and the number of the bytes.
- `overwrite`: what a copy of bytes into a buffer leaves of it.
- `ByteCursor`: a buffer that is being written. `write_write` makes of all the fields
  one field, so that what a sequence of writes leaves is one `overwrite`.
- `drop_field` and `take_field`: reading, with what follows the offset as the state.
-/

/-! ## Numbers -/

/-- The low `width` bytes of a number, the least first. -/
def leBytes : Nat → Nat → List UInt8
  | 0, _ => []
  | width + 1, n => .ofNat n :: leBytes width (n / 256)

@[simp] theorem length_leBytes (width n : Nat) : (leBytes width n).length = width := by
  induction width generalizing n with
  | zero => rfl
  | succ width ih => rw [leBytes, List.length_cons, ih]

theorem ofDigits_leBytes {width n : Nat} (h : n < 256 ^ width) :
    Nat.ofDigits 256 ((leBytes width n).map UInt8.toNat) = n := by
  induction width generalizing n with
  | zero =>
    have hn : n = 0 := by
      rw [pow_zero] at h
      omega
    rw [hn]
    rfl
  | succ width ih =>
    have hdiv : n / 256 < 256 ^ width := by
      rw [pow_succ] at h
      exact Nat.div_lt_of_lt_mul (by rwa [Nat.mul_comm])
    have hbyte : (UInt8.ofNat n).toNat = n % 256 := UInt8.toNat_ofNat'
    rw [leBytes, List.map_cons, Nat.ofDigits_cons, ih hdiv, hbyte]
    omega

/-! ## Writing -/

variable {α : Type}

/-- The elements at an offset are replaced. -/
def overwrite (buf : List α) (offset : Nat) (new : List α) : List α :=
  buf.take offset ++ new ++ buf.drop (offset + new.length)

theorem take_overwrite (buf : List α) {offset : Nat} (new : List α) (h : offset ≤ buf.length) :
    (overwrite buf offset new).take offset = buf.take offset := by
  rw [overwrite, List.append_assoc, List.take_left' (List.length_take_of_le h)]

theorem drop_overwrite (buf : List α) {offset : Nat} (new : List α) (h : offset ≤ buf.length) :
    (overwrite buf offset new).drop offset = new ++ buf.drop (offset + new.length) := by
  rw [overwrite, List.append_assoc, List.drop_left' (List.length_take_of_le h)]

/-- A second piece, right behind the first. -/
theorem overwrite_overwrite (buf : List α) {offset : Nat} (a b : List α) (h : offset ≤ buf.length) :
    overwrite (overwrite buf offset a) (offset + a.length) b = overwrite buf offset (a ++ b) := by
  have hlen : (buf.take offset ++ a).length = offset + a.length := by
    rw [List.length_append, List.length_take_of_le h]
  rw [overwrite, overwrite, List.take_left' hlen, ← List.drop_drop, List.drop_left' hlen,
    List.drop_drop, overwrite, List.length_append]
  simp only [List.append_assoc, Nat.add_assoc]

/-- A field of a buffer that is given by its fields. -/
theorem overwrite_field {a old new c : List α} (h : new.length = old.length) :
    overwrite (a ++ (old ++ c)) a.length new = a ++ (new ++ c) := by
  rw [overwrite, List.take_left, ← List.drop_drop, List.drop_left, h, List.drop_left,
    List.append_assoc]

/-- A buffer that is being written, and where its next field goes. -/
structure ByteCursor where
  buf : List UInt8
  offset : Nat

def ByteCursor.write (c : ByteCursor) (bytes : List UInt8) : ByteCursor :=
  ⟨overwrite c.buf c.offset bytes, c.offset + bytes.length⟩

/-- Two fields are one. -/
theorem ByteCursor.write_write {c : ByteCursor} (h : c.offset ≤ c.buf.length) (a b : List UInt8) :
    (c.write a).write b = c.write (a ++ b) := by
  simp only [ByteCursor.write, overwrite_overwrite c.buf a b h, List.length_append, Nat.add_assoc]

/-! ## Reading -/

theorem take_field {buf field rest : List α} {offset : Nat} (h : buf.drop offset = field ++ rest) :
    (buf.drop offset).take field.length = field := by
  rw [h, List.take_left]

theorem drop_field {buf field rest : List α} {offset : Nat} (h : buf.drop offset = field ++ rest) :
    buf.drop (offset + field.length) = rest := by
  rw [← List.drop_drop, h, List.drop_left]
