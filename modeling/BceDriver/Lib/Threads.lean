import BceDriver.Lib.StepSystem
import Mathlib.Data.Fintype.BigOperators
import Mathlib.Algebra.Order.BigOperators.Group.Finset

/-!
# Threads over shared memory

Any number of threads run one program over what they share, one atomic step at
a time, in any interleaving with an environment (interrupts, devices).

- `ThreadProgram.system`: the step system of a program, for any type of threads.
- `ThreadProgram.invariant`: the interference rule. An assertion on what is
  shared, one on each thread and one on each two threads hold in every reachable
  state if a step establishes them for the thread that takes it and leaves the
  assertions of the others alone.
- `threadCount`: how many threads are at a place, and how a step moves it.
- `owner_taken`, `owner_released`: a lock of one thread, as another sees it.
- `TwoThreads`: the threads of the runs that are computed.
-/

/-- What the threads share, and where each of them is. -/
structure Threads (ι γ τ : Type) where
  shared : γ
  thread : ι → τ

inductive ThreadAction (ι κ ε : Type) where
  /-- thread `i` takes a step; `c` is what it has to choose -/
  | run (i : ι) (c : κ)
  /-- the environment takes a step -/
  | env (e : ε)
deriving Repr

/-- The steps of a thread and of the environment, each on what is shared. -/
structure ThreadProgram (ι γ τ κ ε : Type) where
  init : γ → Prop
  start : τ
  run : ι → κ → τ → γ → Option (τ × γ)
  env : ε → γ → Option γ

namespace ThreadProgram

variable {ι γ τ κ ε : Type} [DecidableEq ι] (p : ThreadProgram ι γ τ κ ε)

def step : ThreadAction ι κ ε → Threads ι γ τ → Option (Threads ι γ τ)
  | .run i c, s =>
    (p.run i c (s.thread i) s.shared).map fun r =>
      { shared := r.2, thread := Function.update s.thread i r.1 }
  | .env e, s => (p.env e s.shared).map fun g => { s with shared := g }

def system : StepSystem (Threads ι γ τ) (ThreadAction ι κ ε) where
  init s := p.init s.shared ∧ ∀ i, s.thread i = p.start
  step := p.step

variable {p} {s s' : Threads ι γ τ}

/-- What a step of the system is. -/
theorem step_cases {a : ThreadAction ι κ ε} (h : p.step a s = some s') :
    (∃ i c l g, a = .run i c ∧ p.run i c (s.thread i) s.shared = some (l, g) ∧
      s' = { shared := g, thread := Function.update s.thread i l }) ∨
    (∃ e g, a = .env e ∧ p.env e s.shared = some g ∧ s' = { s with shared := g }) := by
  cases a with
  | run i c =>
    obtain ⟨⟨l, g⟩, hrun, rfl⟩ := Option.map_eq_some_iff.mp h
    exact .inl ⟨i, c, l, g, rfl, hrun, rfl⟩
  | env e =>
    obtain ⟨g, henv, rfl⟩ := Option.map_eq_some_iff.mp h
    exact .inr ⟨e, g, rfl, henv, rfl⟩

theorem step_run {i : ι} {c : κ} {l : τ} {g : γ}
    (h : p.run i c (s.thread i) s.shared = some (l, g)) :
    p.step (.run i c) s = some { shared := g, thread := Function.update s.thread i l } :=
  Option.map_eq_some_iff.mpr ⟨(l, g), h, rfl⟩

section Interference

variable {P : γ → Prop} {Q : ι → γ → τ → Prop} {R : ι → ι → τ → τ → Prop}

/-- The assertions on what is shared, on each thread and on each two threads. -/
structure Asserted (P : γ → Prop) (Q : ι → γ → τ → Prop) (R : ι → ι → τ → τ → Prop)
    (s : Threads ι γ τ) : Prop where
  shared : P s.shared
  thread : ∀ i, Q i s.shared (s.thread i)
  pair : ∀ i j, i ≠ j → R i j (s.thread i) (s.thread j)

/-- One thread takes a step. -/
theorem Asserted.run {i : ι} {l : τ} {g : γ} (h : Asserted P Q R s) (hP : P g) (hQ : Q i g l)
    (hother : ∀ j, j ≠ i → Q j g (s.thread j) ∧ R i j l (s.thread j) ∧ R j i (s.thread j) l) :
    Asserted P Q R { shared := g, thread := Function.update s.thread i l } where
  shared := hP
  thread j := by
    by_cases hj : j = i
    · subst hj
      simpa using hQ
    · simpa [Function.update_of_ne hj] using (hother j hj).1
  pair j k hjk := by
    by_cases hj : j = i
    · subst hj
      simpa [Function.update_of_ne hjk.symm] using (hother k hjk.symm).2.1
    · by_cases hk : k = i
      · subst hk
        simpa [Function.update_of_ne hj] using (hother j hj).2.2
      · simpa [Function.update_of_ne hj, Function.update_of_ne hk] using h.pair j k hjk

/-- **The interference rule.** -/
theorem invariant {G : ThreadAction ι κ ε → Threads ι γ τ → Prop}
    (hinit : ∀ g, p.init g → P g ∧ (∀ i, Q i g p.start) ∧ ∀ i j, R i j p.start p.start)
    (hrun : ∀ (s : Threads ι γ τ) i c l g, p.system.Reachable G s → Asserted P Q R s →
      G (.run i c) s → p.run i c (s.thread i) s.shared = some (l, g) →
      P g ∧ Q i g l ∧ ∀ j, j ≠ i →
        Q j g (s.thread j) ∧ R i j l (s.thread j) ∧ R j i (s.thread j) l)
    (henv : ∀ (s : Threads ι γ τ) e g, p.system.Reachable G s → Asserted P Q R s →
      G (.env e) s → p.env e s.shared = some g → P g ∧ ∀ i, Q i g (s.thread i))
    (h : p.system.Reachable G s) : Asserted P Q R s := by
  refine StepSystem.Reachable.invariant (I := Asserted P Q R) ?_ ?_ h
  · rintro s ⟨hg, hstart⟩
    obtain ⟨hP, hQ, hR⟩ := hinit s.shared hg
    refine ⟨hP, fun i => ?_, fun i j _ => ?_⟩
    · rw [hstart i]
      exact hQ i
    · rw [hstart i, hstart j]
      exact hR i j
  · intro a s s' hreach hI hG hstep
    obtain ⟨i, c, l, g, rfl, hr, rfl⟩ | ⟨e, g, rfl, he, rfl⟩ := step_cases hstep
    · obtain ⟨hP, hQ, hother⟩ := hrun s i c l g hreach hI hG hr
      exact hI.run hP hQ hother
    · obtain ⟨hP, hQ⟩ := henv s e g hreach hI hG he
      exact ⟨hP, hQ, hI.pair⟩

end Interference

end ThreadProgram

/-! ## Counting -/

section Count

variable {ι τ : Type} [Fintype ι]

/-- How many threads are where `q` says. -/
def threadCount (q : τ → Bool) (f : ι → τ) : Nat :=
  ∑ i, (q (f i)).toNat

theorem threadCount_eq_zero {q : τ → Bool} {f : ι → τ} :
    threadCount q f = 0 ↔ ∀ i, q (f i) = false := by
  unfold threadCount
  rw [Finset.sum_eq_zero_iff]
  constructor
  · intro h i
    have hi := h i (Finset.mem_univ i)
    cases hq : q (f i) with
    | false => rfl
    | true => simp [hq] at hi
  · intro h i _
    rw [h i]
    rfl

theorem le_threadCount (q : τ → Bool) (f : ι → τ) (i : ι) :
    (q (f i)).toNat ≤ threadCount q f :=
  Finset.single_le_sum (f := fun j => (q (f j)).toNat) (fun _ _ => Nat.zero_le _)
    (Finset.mem_univ i)

/-- A step moves one thread. -/
theorem threadCount_update [DecidableEq ι] (q : τ → Bool) (f : ι → τ) (i : ι) (l : τ) :
    threadCount q (Function.update f i l) + (q (f i)).toNat =
      threadCount q f + (q l).toNat := by
  unfold threadCount
  have hrest : ∑ j ∈ Finset.univ.erase i, (q (Function.update f i l j)).toNat =
      ∑ j ∈ Finset.univ.erase i, (q (f j)).toNat :=
    Finset.sum_congr rfl fun j hj => by rw [Function.update_of_ne (Finset.ne_of_mem_erase hj)]
  have hthread := Finset.add_sum_erase Finset.univ (fun j => (q (f j)).toNat) (Finset.mem_univ i)
  rw [← Finset.add_sum_erase _ _ (Finset.mem_univ i), Function.update_self, hrest, ← hthread]
  omega

end Count

/-! ## Locks -/

section Owner

variable {ι : Type} {i j : ι} {o : Option ι}

/-- A thread that takes a free lock changes nothing for another one. -/
theorem owner_taken (hij : j ≠ i) (hfree : o = none) : some i = some j ↔ o = some j := by
  subst hfree
  exact ⟨fun heq => absurd (Option.some.inj heq).symm hij, nofun⟩

/-- Neither does one that releases its lock. -/
theorem owner_released (hij : j ≠ i) (ho : o = some i) : none = some j ↔ o = some j := by
  subst ho
  exact ⟨nofun, fun heq => absurd (Option.some.inj heq).symm hij⟩

end Owner

/-- Two threads, for runs that are computed. -/
inductive TwoThreads where
  | one
  | two
deriving DecidableEq, Repr

instance TwoThreads.fintype : Fintype TwoThreads where
  elems := {.one, .two}
  complete i := by cases i <;> decide
