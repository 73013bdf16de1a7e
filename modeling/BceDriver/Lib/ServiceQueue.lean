import BceDriver.Lib.StepSystem
import Mathlib.Data.List.Basic

/-!
# Queues that are served in order

What a queue of jobs is for, whatever it is built of: jobs arrive at the end, the
first one is served, and any of them may be withdrawn.

- `ServiceQueue.served_sublist`: jobs are served in the order they arrived in, and
  none that waits arrived before one that was served.
- `ServiceQueue.conserved`: if none is withdrawn, every job is served or waits.
-/

universe u

/-- The jobs that have arrived, in order, with those that wait and those served. -/
structure ServiceQueue (α : Type u) where
  arrived : List α
  waiting : List α
  served : List α

namespace ServiceQueue

variable {α : Type u}

inductive Action (α : Type u) where
  | arrive (a : α)
  | serve
  /-- the job at a place of the queue leaves it unserved -/
  | withdraw (i : Nat)

/-- No job is ever withdrawn. -/
def Kept : Action α → ServiceQueue α → Prop
  | .withdraw _, _ => False
  | .arrive _, _ | .serve, _ => True

def step : Action α → ServiceQueue α → Option (ServiceQueue α)
  | .arrive a, s => some ⟨s.arrived ++ [a], s.waiting ++ [a], s.served⟩
  | .serve, s =>
    match s.waiting with
    | a :: rest => some ⟨s.arrived, rest, s.served ++ [a]⟩
    | [] => none
  | .withdraw i, s =>
    if i < s.waiting.length then some ⟨s.arrived, s.waiting.eraseIdx i, s.served⟩ else none

/-- The runs of a queue, from an empty one. -/
def system (α : Type u) : StepSystem (ServiceQueue α) (Action α) where
  init s := s = ⟨[], [], []⟩
  step := step

/-- **Jobs are served in order**, and those that wait come after them. -/
theorem served_sublist {G : Action α → ServiceQueue α → Prop} {s : ServiceQueue α}
    (h : (system α).Reachable G s) : List.Sublist (s.served ++ s.waiting) s.arrived := by
  refine h.invariant (I := fun s => List.Sublist (s.served ++ s.waiting) s.arrived) ?_ ?_
  · rintro s rfl
    exact .slnil
  intro l s s' _ hsub _ hstep
  cases l with
  | arrive a =>
    obtain rfl := Option.some.inj hstep
    rw [← List.append_assoc]
    exact hsub.append_right [a]
  | serve =>
    simp only [system, step] at hstep
    split at hstep
    · next a rest hwaiting =>
      obtain rfl := Option.some.inj hstep
      rw [hwaiting] at hsub
      simpa using hsub
    · cases hstep
  | withdraw i =>
    simp only [system, step] at hstep
    split at hstep
    · obtain rfl := Option.some.inj hstep
      exact ((List.eraseIdx_sublist s.waiting i).append_left s.served).trans hsub
    · cases hstep

/-- **No job is lost** unless one is withdrawn. -/
theorem conserved {s : ServiceQueue α} (h : (system α).Reachable Kept s) :
    s.served ++ s.waiting = s.arrived := by
  refine h.invariant (I := fun s => s.served ++ s.waiting = s.arrived) ?_ ?_
  · rintro s rfl
    rfl
  intro l s s' _ hall hkept hstep
  cases l with
  | arrive a =>
    obtain rfl := Option.some.inj hstep
    rw [← List.append_assoc, hall]
  | serve =>
    simp only [system, step] at hstep
    split at hstep
    · next a rest hwaiting =>
      obtain rfl := Option.some.inj hstep
      rw [hwaiting] at hall
      simpa using hall
    · cases hstep
  | withdraw i => exact hkept.elim

end ServiceQueue
