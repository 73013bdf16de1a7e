import Mathlib.Data.Nat.ModEq
import Mathlib.Logic.Function.Basic

/-!
# Ring indices

Index arithmetic for a ring of `n` slots whose indices only move forward,
each one by `(i + 1) % n`:

- `RingIndex.dist n a b`: the number of steps from `a` forward to `b`. It is
  what the code of a ring means by `(b - a) mod n`.
- `dist_advance`: an index that is `k < n` steps ahead is at distance `k`; the
  one fact every occupancy count needs.
- `advance_inj`: positions fewer than `n` steps ahead are distinct, so slots
  inside one revolution never alias.
- `writeAll`: storing a list at successive positions, and what each position
  then reads.
-/

namespace RingIndex

variable {n a b j k : Nat}

/-- The number of steps from `a` forward to `b` on a ring of `n` slots. -/
def dist (n a b : Nat) : Nat := (b + n - a) % n

/-- The index `k` steps after `a`. -/
def advance (n a k : Nat) : Nat := (a + k) % n

theorem advance_lt (hn : 0 < n) : advance n a k < n := Nat.mod_lt _ hn

@[simp] theorem advance_zero (ha : a < n) : advance n a 0 = a := by
  simp [advance, Nat.mod_eq_of_lt ha]

/-- One more step. -/
theorem advance_succ : (advance n a k + 1) % n = advance n a (k + 1) := by
  simp [advance, Nat.add_assoc]

/-- Steps compose. -/
@[simp] theorem advance_advance : advance n (advance n a j) k = advance n a (j + k) := by
  simp [advance, Nat.add_assoc]

/-- A whole revolution ends where it began. -/
theorem advance_self (ha : a < n) : advance n a n = a := by
  simp [advance, Nat.mod_eq_of_lt ha]

@[simp] theorem dist_self (hn : 0 < n) : dist n a a = 0 := by
  simp [dist, show a + n - a = n by omega]

/-- The index `k < n` steps ahead is at distance `k`. -/
@[simp] theorem dist_advance (ha : a < n) (hk : k < n) : dist n a (advance n a k) = k := by
  unfold dist advance
  by_cases h : a + k < n
  · rw [Nat.mod_eq_of_lt h, show a + k + n - a = k + n by omega, Nat.add_mod_right,
      Nat.mod_eq_of_lt hk]
  · have hm : (a + k) % n = a + k - n := by
      rw [Nat.mod_eq_sub_mod (by omega), Nat.mod_eq_of_lt (by omega)]
    rw [hm, show a + k - n + n - a = k by omega, Nat.mod_eq_of_lt hk]

/-- Every index is its distance ahead. -/
theorem advance_dist (ha : a < n) (hb : b < n) : advance n a (dist n a b) = b := by
  unfold dist advance
  by_cases h : a ≤ b
  · rw [show b + n - a = b - a + n by omega, Nat.add_mod_right,
      Nat.mod_eq_of_lt (show b - a < n by omega), Nat.add_sub_cancel' h, Nat.mod_eq_of_lt hb]
  · rw [Nat.mod_eq_of_lt (show b + n - a < n by omega), show a + (b + n - a) = b + n by omega,
      Nat.add_mod_right, Nat.mod_eq_of_lt hb]

/-- Positions fewer than one revolution ahead are distinct. -/
theorem advance_inj (ha : a < n) (hj : j < n) (hk : k < n)
    (h : advance n a j = advance n a k) : j = k := by
  rw [← dist_advance ha hj, h, dist_advance ha hk]

/-- Counts less than one revolution apart have distinct slots. -/
theorem eq_of_mod_eq {m : Nat} (h : j % n = k % n) (hj : m ≤ j) (hj' : j < m + n) (hk : m ≤ k)
    (hk' : k < m + n) : j = k := by
  have hjk : j - k = 0 := by
    rw [← Nat.mod_eq_of_lt (show j - k < n by omega)]
    exact Nat.sub_mod_eq_zero_of_mod_eq h
  have hkj : k - j = 0 := by
    rw [← Nat.mod_eq_of_lt (show k - j < n by omega)]
    exact Nat.sub_mod_eq_zero_of_mod_eq h.symm
  omega

/-- The slot of a count, seen from that of an earlier one. -/
theorem advance_mod {m : Nat} (h : m ≤ k) : advance n (m % n) (k - m) = k % n := by
  rw [advance, Nat.mod_add_mod, Nat.add_sub_cancel' h]

/-! ## Storing at successive positions -/

variable {α : Type*}

/-- Store the elements of a list at the positions `a`, `a + 1`, … of a ring. -/
def writeAll (n : Nat) : (Nat → α) → Nat → List α → Nat → α
  | f, _, [] => f
  | f, a, x :: xs => writeAll n (Function.update f a x) ((a + 1) % n) xs

/-- A position none of the stores reaches keeps its content. -/
theorem writeAll_of_ne (p : Nat) :
    ∀ (xs : List α) (f : Nat → α) (a : Nat), a < n →
      (∀ i < xs.length, advance n a i ≠ p) → writeAll n f a xs p = f p
  | [], _, _, _, _ => rfl
  | x :: xs, f, a, ha, h => by
    have hne : a ≠ p := by simpa [ha] using h 0 (by simp)
    have hrest : ∀ i < xs.length, advance n ((a + 1) % n) i ≠ p := by
      intro i hi
      have hi' := h (i + 1) (by simpa using hi)
      rwa [show (a + 1) % n = advance n a 1 from rfl, advance_advance, Nat.add_comm 1 i]
    show writeAll n (Function.update f a x) ((a + 1) % n) xs p = f p
    rw [writeAll_of_ne p xs _ _ (Nat.mod_lt _ (by omega)) hrest,
      Function.update_of_ne hne.symm]

/-- What the `i`-th store leaves, when no later store of the same list comes
round to its slot again. -/
theorem writeAll_advance :
    ∀ (xs : List α) (f : Nat → α) (a i : Nat) (hi : i < xs.length), a < n →
      xs.length ≤ i + n → writeAll n f a xs (advance n a i) = xs[i]
  | x :: xs, f, a, 0, _, ha, hlen => by
    have hrest : ∀ i < xs.length, advance n ((a + 1) % n) i ≠ a := by
      intro i hi heq
      have hi' : i + 1 < n := by simp only [List.length_cons] at hlen; omega
      have hsum : advance n a (i + 1) = advance n a 0 := by
        rw [advance_zero ha, Nat.add_comm i 1, ← advance_advance]
        exact heq
      have := advance_inj ha hi' (by omega) hsum
      omega
    show writeAll n (Function.update f a x) ((a + 1) % n) xs (advance n a 0) = x
    rw [advance_zero ha, writeAll_of_ne a xs _ _ (Nat.mod_lt _ (by omega)) hrest,
      Function.update_self]
  | x :: xs, f, a, i + 1, hi, ha, hlen => by
    have ih := writeAll_advance xs (Function.update f a x) ((a + 1) % n) i
      (by simpa using hi) (Nat.mod_lt _ (by omega))
      (by simp only [List.length_cons] at hlen; omega)
    rw [show (a + 1) % n = advance n a 1 from rfl, advance_advance, Nat.add_comm 1 i] at ih
    exact ih

end RingIndex
