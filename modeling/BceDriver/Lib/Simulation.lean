import BceDriver.Lib.StepSystem

/-!
# Simulations

Two systems, one of them seen through the other.

- `Reachable.view`: a refinement. Each state of the first system is seen as one
  of the second, and what one step does is seen as any number of steps, none
  included; so whatever holds of the second system holds of what is seen.
- `Reachable.part`: a composition. The first system has parts that come to be one
  by one, each in an initial state of the second system, and every step takes a
  part on by steps of its own; so each part is a run of the second system.
-/

universe u v w x y

namespace StepSystem

variable {σ : Type u} {ι : Type v} {τ : Type w} {κ : Type x} {C : StepSystem σ ι}
  {A : StepSystem τ κ} {G : ι → σ → Prop} {H : κ → τ → Prop}

/-- Any number of guarded steps. -/
abbrev Steps (A : StepSystem τ κ) (H : κ → τ → Prop) : τ → τ → Prop :=
  Relation.ReflTransGen (A.Next H)

theorem Steps.one {l : κ} {t t' : τ} (hguard : H l t) (hstep : A.step l t = some t') :
    A.Steps H t t' :=
  .single ⟨l, hguard, hstep⟩

theorem Steps.of_eq {t t' : τ} (h : t' = t) : A.Steps H t t' :=
  h ▸ .refl

/-- A computed run is made of steps. -/
theorem Steps.of_run [∀ l t, Decidable (H l t)] {t t' : τ} :
    ∀ {ls : List κ}, A.run H ls t = some t' → A.Steps H t t'
  | [], hrun => .of_eq (by simpa [run] using hrun.symm)
  | l :: ls, hrun => by
    unfold run at hrun
    split at hrun
    · next hguard =>
      obtain ⟨t₁, hl, hls⟩ := Option.bind_eq_some_iff.mp hrun
      exact (Steps.one hguard hl).trans (Steps.of_run hls)
    · cases hrun

theorem Steps.after [∀ l t, Decidable (H l t)] {ls : List κ} {t : τ}
    (hrun : (A.run H ls t).isSome = true) : A.Steps H t (A.after H ls t) := by
  obtain ⟨t', ht'⟩ := Option.isSome_iff_exists.mp hrun
  unfold StepSystem.after
  rw [ht', Option.getD_some]
  exact .of_run ht'

/-- Steps lead from a reachable state to a reachable one. -/
theorem Reachable.steps {t t' : τ} (h : A.Reachable H t) (hsteps : A.Steps H t t') :
    A.Reachable H t' := by
  obtain ⟨t₀, h₀, hrun⟩ := h
  exact ⟨t₀, h₀, hrun.trans hsteps⟩

/-- **The refinement rule.** -/
theorem Reachable.view (f : σ → τ) (hinit : ∀ s, C.init s → A.init (f s))
    (hstep : ∀ l s s', C.Reachable G s → G l s → C.step l s = some s' → A.Steps H (f s) (f s'))
    {s : σ} (h : C.Reachable G s) : A.Reachable H (f s) :=
  h.invariant (I := fun s => A.Reachable H (f s)) (fun s hs => .of_init (hinit s hs))
    fun l s s' hreach hseen hguard hs => hseen.steps (hstep l s s' hreach hguard hs)

/-- **The composition rule.** -/
theorem Reachable.part {π : Type y} (part : π → σ → Option τ)
    (hinit : ∀ s, C.init s → ∀ p t, part p s = some t → A.init t)
    (hstep : ∀ l s s', C.Reachable G s → G l s → C.step l s = some s' →
      ∀ p t', part p s' = some t' →
        A.init t' ∨ ∃ t, part p s = some t ∧ A.Steps H t t')
    {s : σ} (h : C.Reachable G s) {p : π} {t : τ} (hpart : part p s = some t) :
    A.Reachable H t := by
  have hall : ∀ p t, part p s = some t → A.Reachable H t := by
    refine h.invariant (I := fun s => ∀ p t, part p s = some t → A.Reachable H t)
      (fun s hs p t hp => .of_init (hinit s hs p t hp)) ?_
    intro l s s' hreach hparts hguard hs p t' hp
    rcases hstep l s s' hreach hguard hs p t' hp with hnew | ⟨t, hold, hsteps⟩
    · exact .of_init hnew
    · exact (hparts p t hold).steps hsteps
  exact hall p t hpart

end StepSystem
