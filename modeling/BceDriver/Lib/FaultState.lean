/-!
# Programs that may fault

A C function over shared memory is a `StateT σ (Except ε)` program: it threads
the state and stops at a fault (a dereference that must not happen). `wp` is
its weakest precondition, with one postcondition for the normal return and one
predicate for the faults that are allowed.

The rules are one equivalence per construct, so a program is executed
symbolically by rewriting with them, and `wp_mono` uses the specification of a
callee at its call site.
-/

universe u

namespace FaultState

variable {σ ε α β : Type u}

/-- From `s`, the program returns into `Q` or faults into `E`. -/
def wp (m : StateT σ (Except ε) α) (E : ε → Prop) (Q : α → σ → Prop) (s : σ) : Prop :=
  match m.run s with
  | .ok (a, s') => Q a s'
  | .error e => E e

section Rules

variable {E E' : ε → Prop} {Q Q' : α → σ → Prop} {s s' : σ}

theorem wp_pure {a : α} : wp (pure a) E Q s ↔ Q a s := Iff.rfl

theorem wp_bind {m : StateT σ (Except ε) α} {f : α → StateT σ (Except ε) β}
    {Q : β → σ → Prop} :
    wp (m >>= f) E Q s ↔ wp m E (fun a t => wp (f a) E Q t) s := by
  unfold wp
  rw [StateT.run_bind]
  cases m.run s with
  | ok p => rfl
  | error e => rfl

theorem wp_get {Q : σ → σ → Prop} :
    wp (get : StateT σ (Except ε) σ) E Q s ↔ Q s s := Iff.rfl

theorem wp_set {Q : PUnit → σ → Prop} :
    wp (set s' : StateT σ (Except ε) PUnit) E Q s ↔ Q ⟨⟩ s' := Iff.rfl

theorem wp_modify {f : σ → σ} {Q : PUnit → σ → Prop} :
    wp (modify f : StateT σ (Except ε) PUnit) E Q s ↔ Q ⟨⟩ (f s) := Iff.rfl

theorem wp_throw {e : ε} :
    wp (throw e : StateT σ (Except ε) α) E Q s ↔ E e := Iff.rfl

theorem wp_ite {c : Prop} [Decidable c] {m m' : StateT σ (Except ε) α} :
    wp (if c then m else m') E Q s ↔ (c → wp m E Q s) ∧ (¬c → wp m' E Q s) := by
  by_cases h : c <;> simp [h]

/-- Postconditions may be weakened: how a callee's specification is used. -/
theorem wp_mono {m : StateT σ (Except ε) α} (h : wp m E Q s)
    (hE : ∀ e, E e → E' e) (hQ : ∀ a t, Q a t → Q' a t) : wp m E' Q' s := by
  unfold wp at h ⊢
  cases hm : m.run s with
  | ok p => rw [hm] at h; exact hQ _ _ h
  | error e => rw [hm] at h; exact hE _ h

theorem wp_imp {m : StateT σ (Except ε) α} (h : wp m E Q s)
    (hQ : ∀ a t, Q a t → Q' a t) : wp m E Q' s :=
  wp_mono h (fun _ he => he) hQ

/-- Two specifications of one program. -/
theorem wp_and {m : StateT σ (Except ε) α} (h : wp m E Q s) (h' : wp m E Q' s) :
    wp m E (fun a t => Q a t ∧ Q' a t) s := by
  unfold wp at h h' ⊢
  cases hm : m.run s with
  | ok p => rw [hm] at h h'; exact ⟨h, h'⟩
  | error e => rw [hm] at h; exact h

/-- A specification may speak of the run itself. -/
theorem wp_run {m : StateT σ (Except ε) α} (h : wp m E Q s) :
    wp m E (fun a t => Q a t ∧ m.run s = .ok (a, t)) s := by
  unfold wp at h ⊢
  cases hm : m.run s with
  | ok p => rw [hm] at h; exact ⟨h, rfl⟩
  | error e => rw [hm] at h; exact h

/-- What a specification says about a run that returned. -/
theorem wp_ok {m : StateT σ (Except ε) α} {a : α} (h : wp m E Q s)
    (hm : m.run s = .ok (a, s')) : Q a s' := by
  unfold wp at h
  rwa [hm] at h

/-- A program that cannot fault returns. -/
theorem wp_exists (h : wp m (fun _ => False) Q s) : ∃ a s', m.run s = .ok (a, s') ∧ Q a s' := by
  unfold wp at h
  cases hm : m.run s with
  | ok p => exact ⟨p.1, p.2, rfl, by rwa [hm] at h⟩
  | error e => rw [hm] at h; exact h.elim

end Rules

/-! ## What a program leaves alone -/

/-- Wherever it begins, the program ends in a related state if it returns. -/
def Respects (R : σ → σ → Prop) (m : StateT σ (Except ε) α) : Prop :=
  ∀ s, wp m (fun _ => True) (fun _ s' => R s s') s

section Respects

variable {R : σ → σ → Prop} {m m' : StateT σ (Except ε) α}

theorem respects_pure (hrefl : ∀ s, R s s) (a : α) :
    Respects R (pure a : StateT σ (Except ε) α) :=
  fun s => wp_pure.mpr (hrefl s)

theorem respects_bind (htrans : ∀ s s' s'', R s s' → R s' s'' → R s s'')
    {f : α → StateT σ (Except ε) β} (hm : Respects R m) (hf : ∀ a, Respects R (f a)) :
    Respects R (m >>= f) := by
  intro s
  rw [wp_bind]
  refine wp_imp (hm s) fun a s' hs => ?_
  exact wp_imp (hf a s') fun _ s'' hs' => htrans s s' s'' hs hs'

theorem respects_ite {c : Prop} [Decidable c] (hm : Respects R m) (hm' : Respects R m') :
    Respects R (if c then m else m') := by
  intro s
  exact wp_ite.mpr ⟨fun _ => hm s, fun _ => hm' s⟩

theorem respects_get (hrefl : ∀ s, R s s) :
    Respects R (get : StateT σ (Except ε) σ) :=
  fun s => wp_get.mpr (hrefl s)

theorem respects_modify {f : σ → σ} (hf : ∀ s, R s (f s)) :
    Respects R (modify f : StateT σ (Except ε) PUnit) :=
  fun s => wp_modify.mpr (hf s)

end Respects

/-! ## Running a program -/

/-- What the program returns, if it does. -/
def returned (m : StateT σ (Except ε) α) (s : σ) : Option α :=
  match m.run s with
  | .ok (a, _) => some a
  | .error _ => none

/-- The state the program leaves, if it returns. -/
def final (m : StateT σ (Except ε) α) (s : σ) : σ :=
  match m.run s with
  | .ok (_, s') => s'
  | .error _ => s

/-- A computed run. -/
theorem run_eq_final {m : StateT σ (Except ε) α} {s : σ} {a : α} (h : returned m s = some a) :
    m.run s = .ok (a, final m s) := by
  unfold returned at h
  unfold final
  cases hm : m.run s with
  | ok p =>
    rw [hm] at h
    rw [← Option.some.inj h]
  | error e => simp [hm] at h

end FaultState
