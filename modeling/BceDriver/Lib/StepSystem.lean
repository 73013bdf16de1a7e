import Mathlib.Logic.Relation

/-!
# Step systems

A system is a set of initial states and a partial step function on labels: a
label carries every choice the environment makes, so a run is a list of labels
and can be computed.

- `Reachable S G`: the states reached by runs all of whose steps meet the guard
  `G`; `fun _ _ => True` admits every run.
- `Reachable.invariant`: the one induction every "holds in every reachable
  state" result goes through, with the reachability of the state before the
  step at hand so that invariants can be proved one after the other.
- `Reachable.after`: a computed run reaches its last state, for witnesses.
-/

universe u v

/-- A labelled transition system with a partial, deterministic step function. -/
structure StepSystem (σ : Type u) (ι : Type v) where
  init : σ → Prop
  step : ι → σ → Option σ

namespace StepSystem

variable {σ : Type u} {ι : Type v} (S : StepSystem σ ι)

/-- One step whose label and start state meet the guard. -/
def Next (G : ι → σ → Prop) (s s' : σ) : Prop :=
  ∃ l, G l s ∧ S.step l s = some s'

/-- The states reached by runs whose steps all meet the guard. -/
def Reachable (G : ι → σ → Prop) (s : σ) : Prop :=
  ∃ s₀, S.init s₀ ∧ Relation.ReflTransGen (S.Next G) s₀ s

/-- Run a list of labels as long as the guard holds. -/
def run (G : ι → σ → Prop) [∀ l s, Decidable (G l s)] : List ι → σ → Option σ
  | [], s => some s
  | l :: ls, s => if G l s then (S.step l s).bind (run G ls) else none

/-- The state a run ends in, if it goes through. -/
def after (G : ι → σ → Prop) [∀ l s, Decidable (G l s)] (ls : List ι) (s : σ) : σ :=
  (S.run G ls s).getD s

variable {S} {G G' : ι → σ → Prop}

theorem Reachable.of_init {s : σ} (h : S.init s) : S.Reachable G s :=
  ⟨s, h, .refl⟩

theorem Reachable.step {s s' : σ} {l : ι} (h : S.Reachable G s) (hG : G l s)
    (hstep : S.step l s = some s') : S.Reachable G s' := by
  obtain ⟨s₀, h₀, hrun⟩ := h
  exact ⟨s₀, h₀, hrun.tail ⟨l, hG, hstep⟩⟩

/-- **The invariant rule.** A property of the initial states that every guarded
step from a reachable state keeps holds in every reachable state. -/
theorem Reachable.invariant {I : σ → Prop} (hinit : ∀ s, S.init s → I s)
    (hstep : ∀ l s s', S.Reachable G s → I s → G l s → S.step l s = some s' → I s')
    {s : σ} (h : S.Reachable G s) : I s := by
  obtain ⟨s₀, h₀, hrun⟩ := h
  have hboth : S.Reachable G s ∧ I s := by
    induction hrun with
    | refl => exact ⟨.of_init h₀, hinit _ h₀⟩
    | tail _ hnext ih =>
      obtain ⟨l, hG, hs⟩ := hnext
      exact ⟨ih.1.step hG hs, hstep l _ _ ih.1 ih.2 hG hs⟩
  exact hboth.2

/-- A weaker guard reaches at least as much. -/
theorem Reachable.mono (hG : ∀ l s, G l s → G' l s) {s : σ} (h : S.Reachable G s) :
    S.Reachable G' s := by
  obtain ⟨s₀, h₀, hrun⟩ := h
  exact ⟨s₀, h₀, Relation.ReflTransGen.mono (fun _ _ ⟨l, hg, hs⟩ => ⟨l, hG l _ hg, hs⟩) _ _ hrun⟩

/-- A computed run reaches its last state. -/
theorem Reachable.of_run [∀ l s, Decidable (G l s)] {s s' : σ} :
    ∀ {ls : List ι}, S.Reachable G s → S.run G ls s = some s' → S.Reachable G s'
  | [], h, hrun => by
    obtain rfl : s = s' := by simpa [run] using hrun
    exact h
  | l :: ls, h, hrun => by
    unfold run at hrun
    split at hrun
    · next hG =>
      obtain ⟨t, hl, hls⟩ := Option.bind_eq_some_iff.mp hrun
      exact Reachable.of_run (h.step hG hl) hls
    · cases hrun

theorem Reachable.after [∀ l s, Decidable (G l s)] {ls : List ι} {s : σ} (h : S.Reachable G s)
    (hrun : (S.run G ls s).isSome = true) : S.Reachable G (S.after G ls s) := by
  obtain ⟨s', hs'⟩ := Option.isSome_iff_exists.mp hrun
  unfold StepSystem.after
  rw [hs', Option.getD_some]
  exact h.of_run hs'

end StepSystem
