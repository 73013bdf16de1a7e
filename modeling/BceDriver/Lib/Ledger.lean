import Mathlib.Data.Set.Lattice
import Mathlib.Data.List.Forall2
import Mathlib.Data.List.Pairwise
import Mathlib.Order.CompletePartialOrder

/-!
# Resources that are acquired and released

A state holds a set of resources. A call acquires what was not held, or releases what
was; in which order resources are released does not matter.

- `Acquires`, `Releases`: what a call does to the set, and how two calls compose.
- `Creates`: a call for one part of the state, which records what it acquired there.
- `untilFailure_creates`: such calls one after the other, up to the first that fails,
  acquire what the parts record, each what no other does.
- `untilFailure_returns`: they return, if each returns where what it names is unused.
- `releaseAll_releases`: the release of all parts goes through if what they record is
  held, each what no other does; `releaseAll_faults`: not if one of them is stale.
-/

universe u v

section Ledger

variable {σ R : Type u} (held : σ → Set R)

/-- From `s` to `s'` the resources `F` are acquired. -/
structure Acquires (F : Set R) (s s' : σ) : Prop where
  fresh : Disjoint (held s) F
  held_eq : held s' = held s ∪ F

/-- From `s` to `s'` the resources `F` are released. -/
structure Releases (F : Set R) (s s' : σ) : Prop where
  live : F ⊆ held s
  held_eq : held s' = held s \ F

variable {held} {F G : Set R} {s s' s'' : σ}

theorem Acquires.refl : Acquires held ∅ s s :=
  ⟨Set.disjoint_empty _, (Set.union_empty _).symm⟩

theorem Acquires.of_held_eq (h : held s' = held s) : Acquires held ∅ s s' :=
  ⟨Set.disjoint_empty _, h.trans (Set.union_empty _).symm⟩

theorem Acquires.trans (h : Acquires held F s s') (h' : Acquires held G s' s'') :
    Acquires held (F ∪ G) s s'' := by
  have hfresh := h'.fresh
  rw [h.held_eq, Set.disjoint_union_left] at hfresh
  refine ⟨Set.disjoint_union_right.mpr ⟨h.fresh, hfresh.1⟩, ?_⟩
  rw [h'.held_eq, h.held_eq, Set.union_assoc]

/-- What a later call acquires is none of what is held. -/
theorem Acquires.disjoint (h : Acquires held F s s') (h' : Acquires held G s' s'') :
    Disjoint F G := by
  have hfresh := h'.fresh
  rw [h.held_eq, Set.disjoint_union_left] at hfresh
  exact hfresh.2

theorem Acquires.subset (h : Acquires held F s s') : F ⊆ held s' :=
  h.held_eq ▸ Set.subset_union_right

theorem Acquires.mono (h : Acquires held F s s') : held s ⊆ held s' :=
  h.held_eq ▸ Set.subset_union_left

theorem Releases.refl : Releases held ∅ s s :=
  ⟨Set.empty_subset _, Set.sdiff_empty.symm⟩

theorem Releases.trans (h : Releases held F s s') (h' : Releases held G s' s'') :
    Releases held (F ∪ G) s s'' := by
  have hlive := h'.live
  rw [h.held_eq] at hlive
  refine ⟨Set.union_subset h.live (hlive.trans Set.sdiff_subset), ?_⟩
  rw [h'.held_eq, h.held_eq, Set.sdiff_sdiff]

/-- What is disjoint from the resources released is still held. -/
theorem Releases.keeps (h : Releases held F s s') (hG : G ⊆ held s) (hdisj : Disjoint F G) :
    G ⊆ held s' := by
  rw [h.held_eq]
  exact Set.subset_sdiff.mpr ⟨hG, hdisj.symm⟩

/-- Of what was acquired, what is not released remains. -/
theorem Acquires.release (h : Acquires held (F ∪ G) s s') (h' : Releases held G s' s'')
    (hdisj : Disjoint F G) : Acquires held F s s'' := by
  have hfresh := Set.disjoint_union_right.mp h.fresh
  refine ⟨hfresh.1, ?_⟩
  rw [h'.held_eq, h.held_eq, ← Set.union_assoc, Set.union_sdiff_right]
  exact (Set.disjoint_union_left.mpr ⟨hfresh.2, hdisj⟩).sdiff_eq_left

/-- A call that releases what the one before it acquired. -/
theorem Acquires.undo (h : Acquires held F s s') (h' : Releases held F s' s'') :
    held s'' = held s := by
  rw [h'.held_eq, h.held_eq, Set.union_sdiff_right, h.fresh.sdiff_eq_left]

end Ledger

/-! ## Parts of the state that record what they acquired -/

section Parts

variable {σ R ι : Type u}

/-- The calls one after the other, up to the first that fails: `f a || f b || ..` -/
def untilFailure (f : ι → σ → Option (Int × σ)) : List ι → σ → Option (Int × σ)
  | [], s => some (0, s)
  | i :: l, s => (f i s).bind fun (status, s) =>
    if status ≠ 0 then some (status, s) else untilFailure f l s

def releaseAll (f : ι → σ → Option σ) : List ι → σ → Option σ
  | [], s => some s
  | i :: l, s => (f i s).bind (releaseAll f l)

def totalOf (Fs : List (Set R)) : Set R := Fs.foldr (· ∪ ·) ∅

@[simp] theorem totalOf_nil : totalOf ([] : List (Set R)) = ∅ := rfl

@[simp] theorem totalOf_cons (F : Set R) (Fs : List (Set R)) :
    totalOf (F :: Fs) = F ∪ totalOf Fs := rfl

/-- The first ones are not empty, and all others are. -/
def FirstOnes (Fs : List (Set R)) : Prop :=
  ∃ Gs n, Fs = Gs ++ List.replicate n ∅ ∧ ∀ G ∈ Gs, G.Nonempty

/-- If the first is empty, all are. -/
theorem FirstOnes.all_empty {F : Set R} {Fs : List (Set R)} (h : FirstOnes (F :: Fs))
    (hF : F = ∅) : ∀ G ∈ F :: Fs, G = ∅ := by
  obtain ⟨Gs, n, heq, hne⟩ := h
  cases Gs with
  | nil =>
    intro G hG
    rw [heq] at hG
    exact List.eq_of_mem_replicate hG
  | cons G Gs =>
    obtain ⟨rfl, -⟩ := List.cons.inj heq
    exact absurd hF (hne F List.mem_cons_self).ne_empty

theorem disjoint_totalOf {F : Set R} {Fs : List (Set R)} :
    Disjoint F (totalOf Fs) ↔ ∀ G ∈ Fs, Disjoint F G := by
  induction Fs with
  | nil => simp
  | cons G Fs ih => simp [ih]

variable (held : σ → Set R) (records : ι → Set R → σ → Prop)

/-- A call for part `i`: it records there what it acquired; or it fails, records
nothing, and loses what it still holds. -/
structure Creates (lost : Set R → Prop) (i : ι) (s : σ) (status : Int) (s' : σ) : Prop where
  others : ∀ j ≠ i, ∀ F, records j F s → records j F s'
  done : status = 0 → ∃ F, F.Nonempty ∧ records i F s' ∧ Acquires held F s s'
  failed : status ≠ 0 → records i ∅ s' ∧ ∃ L, lost L ∧ Acquires held L s s'

variable {held records} {s s' : σ} {i : ι} {l : List ι} {Fs : List (Set R)}

/-- Parts that record nothing. -/
theorem forall₂_empty (h : ∀ i ∈ l, records i ∅ s) :
    List.Forall₂ (fun i F => records i F s) l (List.replicate l.length ∅) := by
  induction l with
  | nil => exact .nil
  | cons i l ih =>
    obtain ⟨hi, hl⟩ := List.forall_mem_cons.mp h
    exact .cons hi (ih hl)

/-- Every part of the list records something of the list. -/
theorem exists_records (h : List.Forall₂ (fun i F => records i F s) l Fs) (hi : i ∈ l) :
    ∃ F ∈ Fs, records i F s := by
  induction h with
  | nil => cases hi
  | cons hF _ ih =>
    rcases List.mem_cons.mp hi with rfl | hi
    · exact ⟨_, List.mem_cons_self, hF⟩
    · obtain ⟨F, hmem, hF⟩ := ih hi
      exact ⟨F, List.mem_cons_of_mem _ hmem, hF⟩

theorem totalOf_replicate_empty (n : Nat) : totalOf (List.replicate n (∅ : Set R)) = ∅ := by
  induction n with
  | zero => rfl
  | succ n ih => rw [List.replicate_succ, totalOf_cons, ih, Set.union_empty]

/-- **Calls up to the first that fails**: the parts record what is acquired, each what no
other does, and there is nothing else unless a call fails. -/
theorem untilFailure_creates (held : σ → Set R) (records : ι → Set R → σ → Prop)
    {f : ι → σ → Option (Int × σ)} (I : σ → Prop) (lost : Set R → Prop)
    (hf : ∀ i s status s', I s → records i ∅ s → f i s = some (status, s') →
      I s' ∧ Creates held records lost i s status s') {status : Int}
    (hI : I s) (hl : l.Nodup) (hempty : ∀ i ∈ l, records i ∅ s)
    (h : untilFailure f l s = some (status, s')) :
    I s' ∧ (∀ j ∉ l, ∀ F, records j F s → records j F s') ∧
    ∃ Fs, List.Forall₂ (fun i F => records i F s') l Fs ∧ Fs.Pairwise Disjoint ∧ FirstOnes Fs ∧
      (status = 0 → ∀ F ∈ Fs, F.Nonempty) ∧
      ∃ L, (status = 0 → L = ∅) ∧ (status ≠ 0 → lost L) ∧ Disjoint (totalOf Fs) L ∧
        Acquires held (totalOf Fs ∪ L) s s' := by
  induction l generalizing s with
  | nil =>
    obtain ⟨rfl, rfl⟩ := Prod.mk.inj (Option.some.inj h)
    refine ⟨hI, fun _ _ _ => id, [], .nil, .nil, ⟨[], 0, rfl, nofun⟩, fun _ => nofun, ∅,
      fun _ => rfl, fun hne => absurd rfl hne, Set.disjoint_empty _, ?_⟩
    rw [totalOf_nil, Set.union_empty]
    exact .refl
  | cons i l ih =>
    obtain ⟨hil, hl⟩ := List.nodup_cons.mp hl
    obtain ⟨⟨first, t⟩, hfirst, hrest⟩ := Option.bind_eq_some_iff.mp h
    obtain ⟨hIt, hcreate⟩ := hf i s first t hI (hempty i List.mem_cons_self) hfirst
    have hothers : ∀ j ∈ l, records j ∅ t := by
      intro j hj
      have hne : j ≠ i := by
        rintro rfl
        exact hil hj
      exact hcreate.others j hne ∅ (hempty j (List.mem_cons_of_mem _ hj))
    simp only at hrest
    split at hrest
    · next hfail =>
      -- the first call fails: no part records anything
      obtain ⟨rfl, rfl⟩ := Prod.mk.inj (Option.some.inj hrest)
      obtain ⟨hnone, L, hL, hacq⟩ := hcreate.failed hfail
      refine ⟨hIt, fun j hj => hcreate.others j (List.ne_of_not_mem_cons hj),
        List.replicate (i :: l).length ∅, ?_, ?_, ⟨[], (i :: l).length, rfl, nofun⟩,
        fun h0 => absurd h0 hfail, L, fun h0 => absurd h0 hfail, fun _ => hL, ?_, ?_⟩
      · exact forall₂_empty (List.forall_mem_cons.mpr ⟨hnone, hothers⟩)
      · exact List.pairwise_replicate.mpr (.inr (Set.empty_disjoint _))
      · rw [totalOf_replicate_empty]
        exact Set.empty_disjoint L
      · rw [totalOf_replicate_empty, Set.empty_union]
        exact hacq
    · next hgo =>
      obtain ⟨F, hne, hF, hacqF⟩ := hcreate.done (not_not.mp hgo)
      obtain ⟨hIs', hkeep, Fs, hFs, hpair, ⟨Gs, n, rfl, hGs⟩, hall, L, hzero, hL, hapart,
        hacq⟩ := ih hIt hl hothers hrest
      refine ⟨hIs', ?_, F :: (Gs ++ List.replicate n ∅), .cons (hkeep i hil F hF) hFs, ?_,
        ⟨F :: Gs, n, rfl, List.forall_mem_cons.mpr ⟨hne, hGs⟩⟩,
        fun h0 => List.forall_mem_cons.mpr ⟨hne, hall h0⟩, L, hzero, hL, ?_, ?_⟩
      · intro j hj G hG
        exact hkeep j (List.not_mem_of_not_mem_cons hj) G
          (hcreate.others j (List.ne_of_not_mem_cons hj) G hG)
      · -- a later call acquires none of what an earlier one did
        have hdisj := hacqF.disjoint hacq
        exact List.pairwise_cons.mpr
          ⟨disjoint_totalOf.mp (hdisj.mono_right Set.subset_union_left), hpair⟩
      · rw [totalOf_cons, Set.disjoint_union_left]
        exact ⟨(hacqF.disjoint hacq).mono_right Set.subset_union_right, hapart⟩
      · rw [totalOf_cons, Set.union_assoc]
        exact hacqF.trans hacq

/-- A call that fails returns, whatever is expected of one that succeeds. -/
theorem returns_of_failure {m : Option (Int × σ)} {st : Int} {P : σ → Prop} (hst : st ≠ 0)
    (h : ∃ s', m = some (st, s')) : ∃ status s', m = some (status, s') ∧ (status = 0 → P s') := by
  obtain ⟨s', hm⟩ := h
  exact ⟨st, s', hm, fun h0 => absurd h0 hst⟩

/-- Calls that return where what they name is unused, and leave the rest unused unless they
fail, return one after the other, if each names what no other does. -/
theorem untilFailure_returns {ν : Type v} {f : ι → σ → Option (Int × σ)} (I : σ → Prop)
    (unused : List ν → σ → Prop) (names : ι → List ν)
    (hf : ∀ i s rest, I s → unused (names i ++ rest) s →
      ∃ status s', f i s = some (status, s') ∧ (status = 0 → I s' ∧ unused rest s'))
    {rest : List ν} (hI : I s) (h : unused (l.flatMap names ++ rest) s) :
    ∃ status s', untilFailure f l s = some (status, s') ∧ (status = 0 → I s' ∧ unused rest s') := by
  induction l generalizing s with
  | nil => exact ⟨0, s, rfl, fun _ => ⟨hI, h⟩⟩
  | cons i l ih =>
    rw [List.flatMap_cons, List.append_assoc] at h
    obtain ⟨first, t, hfirst, hnext⟩ := hf i s _ hI h
    simp only [untilFailure, hfirst, Option.bind_some]
    split
    · next hfail => exact ⟨first, t, rfl, fun h0 => absurd h0 hfail⟩
    · next hgo =>
      obtain ⟨hIt, hunused⟩ := hnext (not_not.mp hgo)
      exact ih hIt hunused

/-- **The release of all parts** goes through if what they record is held, each what no
other does. -/
theorem releaseAll_releases (held : σ → Set R) (records : ι → Set R → σ → Prop)
    {f : ι → σ → Option σ} (I : σ → Prop)
    (hf : ∀ i s F, I s → records i F s → F ⊆ held s → ∃ s', f i s = some s' ∧ I s' ∧
      Releases held F s s' ∧ ∀ j G, records j G s → records j G s')
    (hI : I s) (hrec : List.Forall₂ (fun i F => records i F s) l Fs)
    (hpair : Fs.Pairwise Disjoint) (hheld : totalOf Fs ⊆ held s) :
    ∃ s', releaseAll f l s = some s' ∧ I s' ∧ Releases held (totalOf Fs) s s' ∧
      ∀ j G, records j G s → records j G s' := by
  induction l generalizing s Fs with
  | nil =>
    cases hrec
    exact ⟨s, rfl, hI, .refl, fun _ _ => id⟩
  | cons i l ih =>
    obtain _ | @⟨_, F, _, Fs, hF, hFs⟩ := hrec
    rw [totalOf_cons, Set.union_subset_iff] at hheld
    obtain ⟨hfirst, hpair⟩ := List.pairwise_cons.mp hpair
    obtain ⟨t, hstep, hIt, hrel, hsame⟩ := hf i s F hI hF hheld.1
    have hkept := hrel.keeps hheld.2 (disjoint_totalOf.mpr hfirst)
    obtain ⟨s', hrest, hIs', hrel', hsame'⟩ :=
      ih hIt (hFs.imp fun j G => hsame j G) hpair hkept
    refine ⟨s', ?_, hIs', hrel.trans hrel', fun j G hG => hsame' j G (hsame j G hG)⟩
    simp only [releaseAll, hstep, Option.bind_some, hrest]

theorem releaseAll_keeps {f : ι → σ → Option σ} {P : σ → Prop}
    (hkeep : ∀ j s s', P s → f j s = some s' → P s') (hP : P s)
    (h : releaseAll f l s = some s') : P s' := by
  induction l generalizing s with
  | nil => exact Option.some.inj h ▸ hP
  | cons j l ih =>
    obtain ⟨t, hstep, hrest⟩ := Option.bind_eq_some_iff.mp h
    exact ih (hkeep j s t hP hstep) hrest

/-- The release of all parts faults if that of one part does, whatever is released
before it. -/
theorem releaseAll_faults {f : ι → σ → Option σ} {P : σ → Prop}
    (hkeep : ∀ j s s', P s → f j s = some s' → P s') (hfault : ∀ s, P s → f i s = none)
    (hi : i ∈ l) (hP : P s) : releaseAll f l s = none := by
  induction l generalizing s with
  | nil => cases hi
  | cons j l ih =>
    cases hstep : f j s with
    | none => simp only [releaseAll, hstep, Option.bind_none]
    | some t =>
      simp only [releaseAll, hstep, Option.bind_some]
      rcases List.mem_cons.mp hi with rfl | hi
      · exact absurd ((hfault s hP).symm.trans hstep) nofun
      · exact ih hi (hkeep j s t hP hstep)

end Parts
