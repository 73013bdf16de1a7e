import BceDriver.Lib.StepSystem

/-!
# Histories

Some properties are about what happened before a state, not about the state. A
history is a record beside the states of a system: every step adds to it, and no
step looks at it.
-/

universe u v w

namespace StepSystem

variable {σ : Type u} {ι : Type v} {η : Type w}

/-- The system with a record beside its states. -/
def withHistory (S : StepSystem σ ι) (h₀ : σ → η) (note : ι → σ → σ → η → η) :
    StepSystem (σ × η) ι where
  init p := S.init p.1 ∧ p.2 = h₀ p.1
  step l p := (S.step l p.1).map fun s' => (s', note l p.1 s' p.2)

variable {S : StepSystem σ ι} {h₀ : σ → η} {note : ι → σ → σ → η → η}

theorem withHistory_init {s : σ} {h : η} :
    (S.withHistory h₀ note).init (s, h) ↔ S.init s ∧ h = h₀ s := Iff.rfl

/-- A step of the system, and what it adds to the record. -/
theorem withHistory_step {l : ι} {s s' : σ} {h h' : η}
    (hstep : (S.withHistory h₀ note).step l (s, h) = some (s', h')) :
    S.step l s = some s' ∧ h' = note l s s' h := by
  obtain ⟨t, ht, heq⟩ := Option.map_eq_some_iff.mp hstep
  obtain ⟨rfl, rfl⟩ := Prod.mk.inj heq
  exact ⟨ht, rfl⟩

/-- Without its record, a run is a run. -/
theorem Reachable.forget {G : ι → σ × η → Prop} {G' : ι → σ → Prop}
    (hG : ∀ l p, G l p → G' l p.1) {p : σ × η} (h : (S.withHistory h₀ note).Reachable G p) :
    S.Reachable G' p.1 := by
  refine Reachable.invariant (I := fun p => S.Reachable G' p.1) ?_ ?_ h
  · rintro p ⟨hinit, -⟩
    exact .of_init hinit
  · intro l p p' _ hreach hguard hstep
    exact hreach.step (hG l p hguard) (withHistory_step hstep).1

end StepSystem
