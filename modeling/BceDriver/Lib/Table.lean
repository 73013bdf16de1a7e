import Mathlib.Data.List.Basic

/-!
# Tables of a fixed size

A C array of `n` entries is a `Vector α n`, and an index into it is any number: an
access is a program of the `Except` monad that faults, with the name of the table,
if the index is not below `n`.

- `get_eq_ok_iff`, `set_eq_ok_iff`, `setAll_ok`: when an access goes through, and
  what it leaves.
- `Returns`: the program does not fault. `returns_bind` and `foldlM_returns_iff`
  take a program apart, the second at a loop whose steps go through or not whatever
  the earlier ones did.
-/

universe u

/-! ## Programs that do not fault -/

/-- The program goes through. -/
def Returns {ε α : Type u} (m : Except ε α) : Prop := ∃ a, m = .ok a

section Returns

variable {ε α β σ : Type u}

theorem Except.bind_eq_ok_iff {m : Except ε α} {f : α → Except ε β} {b : β} :
    m >>= f = .ok b ↔ ∃ a, m = .ok a ∧ f a = .ok b := by
  cases m with
  | error e => exact ⟨nofun, fun ⟨_, h, _⟩ => nomatch h⟩
  | ok a => exact ⟨fun h => ⟨a, rfl, h⟩, fun ⟨_, h, hf⟩ => Except.ok.inj h ▸ hf⟩

@[simp] theorem returns_ok (a : α) : Returns (.ok a : Except ε α) := ⟨a, rfl⟩

@[simp] theorem not_returns_error (e : ε) : ¬Returns (.error e : Except ε α) := nofun

/-- A sequence goes through if both parts do. -/
theorem returns_bind {m : Except ε α} {f : α → Except ε β} :
    Returns (m >>= f) ↔ ∃ a, m = .ok a ∧ Returns (f a) := by
  constructor
  · rintro ⟨b, hb⟩
    obtain ⟨a, ha, hf⟩ := Except.bind_eq_ok_iff.mp hb
    exact ⟨a, ha, b, hf⟩
  · rintro ⟨a, ha, b, hb⟩
    exact ⟨b, Except.bind_eq_ok_iff.mpr ⟨a, ha, hb⟩⟩

/-- What every step of a loop keeps, the loop keeps. -/
theorem foldlM_keeps {P : σ → Prop} {f : σ → α → Except ε σ}
    (hkeep : ∀ s a s', P s → f s a = .ok s' → P s') {l : List α} {s s' : σ} (hs : P s)
    (hrun : l.foldlM f s = .ok s') : P s' := by
  induction l generalizing s with
  | nil => exact Except.ok.inj hrun ▸ hs
  | cons a l ih =>
    rw [List.foldlM_cons] at hrun
    obtain ⟨t, hstep, hrest⟩ := Except.bind_eq_ok_iff.mp hrun
    exact ih (hkeep s a t hs hstep) hrest

/-- A loop over the numbers below `n`, with what holds after each of them. -/
theorem foldlM_range {P : Nat → σ → Prop} {f : σ → Nat → Except ε σ} {n : Nat}
    (hstep : ∀ s i s', i < n → P i s → f s i = .ok s' → P (i + 1) s') {s s' : σ} (hs : P 0 s)
    (hrun : (List.range n).foldlM f s = .ok s') : P n s' := by
  induction n generalizing s' with
  | zero => exact Except.ok.inj hrun ▸ hs
  | succ n ih =>
    rw [List.range_succ, List.foldlM_append] at hrun
    obtain ⟨t, hloop, hlast⟩ := Except.bind_eq_ok_iff.mp hrun
    rw [List.foldlM_cons] at hlast
    obtain ⟨t', hlast, heq⟩ := Except.bind_eq_ok_iff.mp hlast
    have ht := ih (fun s i s' hi => hstep s i s' (Nat.lt_succ_of_lt hi)) hloop
    exact Except.ok.inj heq ▸ hstep t n t' n.lt_succ_self ht hlast

/-- A loop goes through exactly if every step does, where that depends on the element
alone as long as `P` holds. -/
theorem foldlM_returns_iff {P : σ → Prop} {Q : α → Prop} {f : σ → α → Except ε σ}
    {l : List α} (hkeep : ∀ s a s', P s → f s a = .ok s' → P s')
    (hstep : ∀ s a, a ∈ l → P s → (Returns (f s a) ↔ Q a)) {s : σ} (hs : P s) :
    Returns (l.foldlM f s) ↔ ∀ a ∈ l, Q a := by
  induction l generalizing s with
  | nil => exact ⟨fun _ => nofun, fun _ => ⟨s, rfl⟩⟩
  | cons a l ih =>
    have hrest : ∀ t, P t → (Returns (l.foldlM f t) ↔ ∀ a ∈ l, Q a) := fun t ht =>
      ih (fun s b hb => hstep s b (List.mem_cons_of_mem _ hb)) ht
    rw [List.foldlM_cons, returns_bind, List.forall_mem_cons]
    constructor
    · rintro ⟨t, ht, hloop⟩
      exact ⟨(hstep s a List.mem_cons_self hs).mp ⟨t, ht⟩, (hrest t (hkeep s a t hs ht)).mp hloop⟩
    · rintro ⟨ha, hl⟩
      obtain ⟨t, ht⟩ := (hstep s a List.mem_cons_self hs).mpr ha
      exact ⟨t, ht, (hrest t (hkeep s a t hs ht)).mpr hl⟩

end Returns

/-! ## Accesses -/

namespace Table

variable {ε α : Type u} {n i : Nat} {e : ε} {t t' : Vector α n} {a : α}

/-- The entry at an index. -/
def get (e : ε) (t : Vector α n) (i : Nat) : Except ε α :=
  if h : i < n then .ok t[i] else .error e

/-- Store to the entry at an index. -/
def set (e : ε) (t : Vector α n) (i : Nat) (a : α) : Except ε (Vector α n) :=
  if h : i < n then .ok (t.set i a) else .error e

/-- Store to the entries from an index on. -/
def setAll (e : ε) : Vector α n → Nat → List α → Except ε (Vector α n)
  | t, _, [] => .ok t
  | t, i, a :: as => do setAll e (← set e t i a) (i + 1) as

theorem get_eq_ok_iff : get e t i = .ok a ↔ t[i]? = some a := by
  unfold get
  split
  · next h => rw [Vector.getElem?_eq_getElem h, Except.ok.injEq, Option.some.injEq]
  · next h => simp [Vector.getElem?_eq_none (Nat.not_lt.mp h)]

theorem returns_get_iff : Returns (get e t i) ↔ i < n := by
  unfold get
  split <;> simp [*]

theorem set_eq_ok_iff : set e t i a = .ok t' ↔ ∃ h : i < n, t' = t.set i a := by
  unfold set
  split
  · next h => exact ⟨fun heq => ⟨h, (Except.ok.inj heq).symm⟩, fun ⟨_, heq⟩ => heq ▸ rfl⟩
  · next h => exact ⟨nofun, fun ⟨hlt, _⟩ => absurd hlt h⟩

theorem returns_set_iff : Returns (set e t i a) ↔ i < n := by
  unfold set
  split <;> simp [*]

/-- A store to entries that are all there. -/
theorem setAll_ok {as : List α} (h : i + as.length ≤ n) :
    ∃ t', setAll e t i as = .ok t' ∧
      t'.toList = t.toList.take i ++ as ++ t.toList.drop (i + as.length) := by
  induction as generalizing t i with
  | nil => exact ⟨t, rfl, by simp⟩
  | cons a as ih =>
    rw [List.length_cons] at h
    have hi : i < n := by omega
    obtain ⟨t', hrest, hlist⟩ := ih (t := t.set i a) (i := i + 1) (by omega)
    have hset : set e t i a = .ok (t.set i a) := set_eq_ok_iff.mpr ⟨hi, rfl⟩
    refine ⟨t', ?_, ?_⟩
    · show (set e t i a >>= fun t => setAll e t (i + 1) as) = .ok t'
      rw [hset]
      exact hrest
    · have hlen : t.toList.length = n := t.length_toList
      have htake : (t.toList.set i a).take (i + 1) = t.toList.take i ++ [a] := by
        have hmin : min i n = i := by omega
        rw [List.take_set, List.take_add_one, List.set_append]
        simp [hi, hmin]
      rw [hlist, Vector.toList_set, htake, List.drop_set_of_lt (by omega)]
      simp [Nat.add_comm, Nat.add_left_comm]

end Table
