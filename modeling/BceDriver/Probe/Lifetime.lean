import BceDriver.Lib.StepSystem
import BceDriver.Probe.BindUnbind

/-!
# The driver over its lifetime

The module is loaded, then devices are probed and removed, one at a time, then it is
unloaded.

- `driver_lifetime`: between devices the driver holds what loading it acquired, and from
  each device that was removed its workqueue and its host controller driver; unloading
  leaves the latter. While a device is bound, unloading faults, and removing it does if
  the creation of the host controller failed.
-/

namespace BceDriver

/-- What the driver holds while it is loaded. -/
def moduleObjects : List KernelObject :=
  [.chrdev .appleBce, .devClass .appleBce, .chrdev .bceVhci, .devClass .bceVhci,
    .pciDriver .appleBce]

def moduleHeld : Set Resource := {r | ∃ k ∈ moduleObjects, r = .object k}

/-- What a device leaves that is removed, by `tq_state_wq` and `hcd`. -/
def leftover (ptrs : Option Nat × Option Nat) : Set Resource :=
  objectAt .workqueue ptrs.1 ∪ objectAt .hcd ptrs.2

theorem moduleObject_mem {k : KernelObject} : .object k ∈ moduleHeld ↔ k ∈ moduleObjects := by
  constructor
  · rintro ⟨k', hk', heq⟩
    cases heq
    exact hk'
  · intro hk
    exact ⟨k, hk, rfl⟩

theorem mem_leftover {ptrs : Option Nat × Option Nat} {r : Resource} (h : r ∈ leftover ptrs) :
    (∃ p, r = .object (.workqueue p)) ∨ ∃ p, r = .object (.hcd p) := by
  obtain ⟨wq, hcd⟩ := ptrs
  rcases h with h | h
  · cases wq with
    | none => cases h
    | some p => exact .inl ⟨p, h⟩
  · cases hcd with
    | none => cases h
    | some p => exact .inr ⟨p, h⟩

theorem mem_leftovers {left : List (Option Nat × Option Nat)} {r : Resource}
    (h : r ∈ totalOf (left.map leftover)) :
    (∃ p, r = .object (.workqueue p)) ∨ ∃ p, r = .object (.hcd p) := by
  induction left with
  | nil => cases h
  | cons ptrs left ih =>
    rcases h with h | h
    · exact mem_leftover h
    · exact ih h

/-- A creation that fails loses nothing but ids. -/
theorem BceVhciOutcome.Loses.ids {o : BceVhciOutcome} {L : Set Resource} (h : o.Loses L) :
    ∀ r ∈ L, ∃ qid, r = .id qid := by
  have hone : ∀ {o : CreateOutcome}, o.Loses L → ∀ r ∈ L, ∃ qid, r = .id qid := by
    rintro o (rfl | ⟨-, -, qid, rfl⟩) r hr
    · cases hr
    · exact ⟨qid, hr⟩
  obtain ⟨ch, h | h⟩ | h | ⟨ch, h⟩ := h
  · exact hone h
  · exact hone h
  · exact hone h
  · exact hone h

namespace BceVhciLife

variable {v v' u : BceVhciLife} {left : List (Option Nat × Option Nat)} {acceptsNull : Bool}

theorem mem_leaked {r : Resource} (h : r ∈ v.leaked) :
    (∃ p, r = .object (.workqueue p)) ∨ ∃ p, r = .object (.hcd p) := by
  have hleftover : r ∈ leftover (v.tqStateWq, v.hcd) := h
  exact mem_leftover hleftover

/-- The driver is loaded, no device is bound, and `left` is left of earlier ones. -/
structure Loaded (v : BceVhciLife) (left : List (Option Nat × Option Nat)) : Prop where
  held_eq : v.held = moduleHeld ∪ totalOf (left.map leftover)
  apart : (left.map leftover).Pairwise Disjoint

theorem Loaded.mem (h : v.Loaded left) {k : KernelObject} (hk : k ∈ moduleObjects) :
    .object k ∈ v.held := by
  rw [h.held_eq]
  exact .inl (moduleObject_mem.mpr hk)

theorem Loaded.idle (h : v.Loaded left) : v.Idle := by
  intro qid hqid
  rw [h.held_eq] at hqid
  rcases hqid with ⟨k, -, hk⟩ | hqid
  · cases hk
  · rcases mem_leftovers hqid with ⟨p, hp⟩ | ⟨p, hp⟩ <;> cases hp

/-- Nothing of a device but its workqueue and host controller driver is held. -/
theorem Loaded.not_mem (h : v.Loaded left) {k : KernelObject} (hk : k ∉ moduleObjects)
    (hwq : ∀ p, k ≠ .workqueue p) (hhcd : ∀ p, k ≠ .hcd p) : .object k ∉ v.held := by
  rw [h.held_eq]
  rintro (hmem | hmem)
  · exact hk (moduleObject_mem.mp hmem)
  · rcases mem_leftovers hmem with ⟨p, hp⟩ | ⟨p, hp⟩
    · exact hwq p (Resource.object.inj hp)
    · exact hhcd p (Resource.object.inj hp)

/-- A device that was removed is one more that left something. -/
theorem Loaded.removed (h : v.Loaded left) (hacq : Acquires held u.leaked v v') :
    v'.Loaded ((u.tqStateWq, u.hcd) :: left) := by
  have hleaked : leftover (u.tqStateWq, u.hcd) = u.leaked := rfl
  have hfresh := hacq.fresh
  rw [h.held_eq, Set.disjoint_union_left] at hfresh
  constructor
  · rw [List.map_cons, totalOf_cons, hleaked, hacq.held_eq, h.held_eq, Set.union_assoc,
      Set.union_comm u.leaked]
  · rw [List.map_cons, List.pairwise_cons, hleaked]
    exact ⟨disjoint_totalOf.mp hfresh.2.symm, h.apart⟩

/-! ## A bound device -/

/-- The host controller driver was added. -/
def HcdAdded (v : BceVhciLife) : Prop :=
  ∃ p, v.hcd = some p ∧ .object (.addedHcd p) ∈ v.held

/-- A device was probed at `v` and is bound at `v'`. -/
def Bound (v v' : BceVhciLife) : Prop :=
  ∃ u cq sq o st, Probed v u cq sq ∧ u.bceVhciCreate o = some (st, v')

/-- `bce->is_being_removed = true` -/
def beingRemoved (v : BceVhciLife) : BceVhciLife := { v with isBeingRemoved := true }

theorem Complete.beingRemoved {p : Nat} {Fs Gs : List (Set Resource)} {C : Set Resource}
    (h : Complete v v' p Fs C Gs) : Complete v v'.beingRemoved p Fs C Gs where
  ready := .inl rfl
  hcd := h.hcd
  msg := h.msg
  ev := h.ev
  cq := h.cq
  apart := h.apart
  apart' := h.apart'
  queues := h.queues
  added := h.added
  acquired := ⟨h.acquired.fresh, h.acquired.held_eq⟩

theorem object_boundHeld {k : KernelObject} {cq sq : Nat} :
    .object k ∈ boundHeld cq sq ↔ k ∈ boundObjects := by
  constructor
  · rintro (⟨k', hk', heq⟩ | hk | hk)
    · cases heq
      exact hk'
    · cases hk
    · cases hk
  · intro hk
    exact .inl ⟨k, hk, rfl⟩

/-- An object that neither the module nor a probed device holds. -/
theorem Probed.not_mem {cq sq : Nat} (hv : v.Loaded left) (h : Probed v u cq sq)
    {k : KernelObject} (hk : k ∉ moduleObjects) (hbound : k ∉ boundObjects)
    (hwq : ∀ p, k ≠ .workqueue p) (hhcd : ∀ p, k ≠ .hcd p) : .object k ∉ u.held := by
  rw [h.acquired.held_eq]
  rintro (hmem | hmem)
  · exact hv.not_mem hk hwq hhcd hmem
  · exact hbound (object_boundHeld.mp hmem)

/-- The rest of the removal, once the host controller is destroyed. -/
theorem Probed.remove {w : BceVhciLife} {R : Set Resource} {cq sq : Nat} (hv : v.Loaded left)
    (h : Probed v u cq sq) (hdestroy : v'.beingRemoved.bceVhciDestroy acceptsNull = some w)
    (hcq : w.cmdCq = u.cmdCq) (hsq : w.cmdCmdq = u.cmdCmdq) (hacq : Acquires held R u w) :
    ∃ v'', v'.appleBceRemove acceptsNull = .ok v'' ∧
      v''.held = v.held ∪ {r | r ∈ R ∧ ∀ qid, r ≠ .id qid} :=
  appleBceRemove_of_destroyed hv.idle (hv.mem (by decide)) hdestroy (hcq.trans h.cmdCq)
    (hsq.trans h.cmdCmdq) (h.acquired.disjoint hacq) (h.acquired.trans hacq)

/-- A bound device whose host controller was created. -/
theorem Probed.remove_created {cq sq p : Nat} {Fs Gs : List (Set Resource)} {C : Set Resource}
    (hv : v.Loaded left) (h : Probed v u cq sq) (hkept : u.Kept v'.toDriverState)
    (hcomplete : Complete u v' p Fs C Gs) :
    v'.HcdAdded ∧ ∃ v'', v'.appleBceRemove acceptsNull = .ok v'' ∧
      Acquires held v'.leaked v v'' := by
  have hclass : .object (.devClass .bceVhci) ∈ u.held := h.acquired.mono (hv.mem (by decide))
  refine ⟨⟨p, hcomplete.hcd, hcomplete.acquired.subset (.inr rfl)⟩, ?_⟩
  obtain ⟨w, hw, hkept', hacq⟩ := hcomplete.beingRemoved.destroy hclass acceptsNull
  have hleaked : v'.beingRemoved.leaked = v'.leaked := rfl
  rw [hleaked] at hacq
  obtain ⟨v'', hremove, hheld⟩ := h.remove hv hw (hkept'.cmdCq.trans hkept.cmdCq)
    (hkept'.cmdCmdq.trans hkept.cmdCmdq) hacq
  refine ⟨v'', hremove, ?_, ?_⟩
  · exact hacq.fresh.mono_left h.acquired.mono
  · have hobjects : {r | r ∈ v'.leaked ∧ ∀ qid, r ≠ .id qid} = v'.leaked := by
      ext r
      refine ⟨And.left, fun hr => ⟨hr, ?_⟩⟩
      rcases mem_leaked hr with ⟨p, rfl⟩ | ⟨p, rfl⟩ <;> exact fun _ => nofun
    rw [hheld, hobjects]

/-- A bound device whose host controller was not. -/
theorem Probed.remove_failed {o : BceVhciOutcome} {cq sq : Nat} {L : Set Resource}
    (hv : v.Loaded left) (h : Probed v u cq sq) (hkept : u.Kept v'.toDriverState)
    (hL : o.Loses L) (hacq : Acquires held (v'.leaked ∪ L) u v')
    (hends : v'.Null ∨ ∃ c, (v'.msg .commands).cq = some c ∧ v'.mem c = none) :
    ¬v'.HcdAdded ∧
    ((acceptsNull = false ∨ (v'.msg .commands).cq ≠ none) →
      v'.appleBceRemove acceptsNull = .error .notLive) ∧
    (acceptsNull = true → (v'.msg .commands).cq = none →
      ∃ v'', v'.appleBceRemove acceptsNull = .ok v'' ∧ Acquires held v'.leaked v v'') := by
  have hheld : ∀ {k : KernelObject}, (∀ p, k ≠ .workqueue p) → (∀ p, k ≠ .hcd p) →
      .object k ∉ u.held → .object k ∉ v'.held := by
    intro k hwq hhcd hk
    rw [hacq.held_eq]
    rintro (hmem | hmem | hmem)
    · exact hk hmem
    · rcases mem_leaked hmem with ⟨p, hp⟩ | ⟨p, hp⟩
      · exact hwq p (Resource.object.inj hp)
      · exact hhcd p (Resource.object.inj hp)
    · obtain ⟨qid, hid⟩ := hL.ids _ hmem
      cases hid
  have hfault : v'.beingRemoved.bceVhciDestroy acceptsNull = none →
      v'.appleBceRemove acceptsNull = .error .notLive := by
    intro hdestroy
    unfold beingRemoved at hdestroy
    simp only [appleBceRemove, hdestroy, orFault, bind, Except.bind]
  refine ⟨?_, ?_, ?_⟩
  · rintro ⟨p, -, hadded⟩
    exact hheld (by simp) (by simp)
      (h.not_mem hv (by simp [moduleObjects]) (by simp [boundObjects]) (by simp) (by simp)) hadded
  · intro hcase
    obtain hnull | ⟨c, hc, hdead⟩ := hends
    · obtain rfl := hcase.resolve_right (not_not.mpr (hnull.msg .commands))
      exact hfault ((Null.destroy (v := v'.beingRemoved) ⟨hnull.msg, hnull.evCq, hnull.ev,
        hnull.tqStateWq, hnull.hcd⟩ (hacq.mono (h.acquired.mono (hv.mem (by decide))))).1)
    · exact hfault (bceVhciDestroy_stale (v := v'.beingRemoved) hc hdead acceptsNull)
  · intro haccepts hnone
    subst haccepts
    have hnull : v'.Null := by
      obtain hnull | ⟨c, hc, -⟩ := hends
      · exact hnull
      · exact absurd (hc.symm.trans hnone) (Option.some_ne_none c)
    have hleaked : v'.leaked = ∅ := by
      simp [leaked, objectAt, hnull.tqStateWq, hnull.hcd]
    rw [hleaked, Set.empty_union] at hacq
    obtain ⟨-, w, hw, hkept', hheld'⟩ := Null.destroy (v := v'.beingRemoved) ⟨hnull.msg, hnull.evCq,
      hnull.ev, hnull.tqStateWq, hnull.hcd⟩ (hacq.mono (h.acquired.mono (hv.mem (by decide))))
    have hnode : .object (.node .bceVhci) ∉ v'.held := hheld (by simp) (by simp)
      (h.not_mem hv (by decide) (by decide) (by simp) (by simp))
    have hacq' : Acquires held L u w := by
      refine ⟨hacq.fresh, ?_⟩
      rw [hheld', ← hacq.held_eq]
      exact Set.sdiff_singleton_eq_self hnode
    obtain ⟨v'', hremove, hheld''⟩ := h.remove hv hw (hkept'.cmdCq.trans hkept.cmdCq)
      (hkept'.cmdCmdq.trans hkept.cmdCmdq) hacq'
    refine ⟨v'', hremove, ?_⟩
    rw [hleaked]
    refine .of_held_eq (hheld''.trans ?_)
    -- what a failed creation loses are ids, and those are gone with the device
    have hids : {r | r ∈ L ∧ ∀ qid, r ≠ .id qid} = ∅ := by
      rw [Set.eq_empty_iff_forall_notMem]
      rintro r ⟨hr, hne⟩
      obtain ⟨qid, hid⟩ := hL.ids r hr
      exact hne qid hid
    rw [hids, Set.union_empty]

/-- **Removing a bound device** goes through if its host controller was created, or if
nothing was created and a null pointer is accepted; and it leaves the workqueue and the
host controller driver. -/
theorem Bound.remove (hv : v.Loaded left) (h : Bound v v') (acceptsNull : Bool) :
    ((v'.HcdAdded ∨ acceptsNull = true ∧ (v'.msg .commands).cq = none) →
      ∃ v'', v'.appleBceRemove acceptsNull = .ok v'' ∧ Acquires held v'.leaked v v'') ∧
    (¬(v'.HcdAdded ∨ acceptsNull = true ∧ (v'.msg .commands).cq = none) →
      v'.appleBceRemove acceptsNull = .error .notLive) := by
  obtain ⟨u, cq, sq, o, st, hprobed, hcreate⟩ := h
  obtain ⟨hkept, hdone, hfailed⟩ := bceVhciCreate_created hprobed.fresh hcreate
  by_cases hst : st = 0
  · obtain ⟨p, Fs, C, Gs, hcomplete⟩ := hdone hst
    obtain ⟨hadded, hremove⟩ := hprobed.remove_created hv hkept hcomplete
    exact ⟨fun _ => hremove, fun hnot => absurd (.inl hadded) hnot⟩
  · obtain ⟨⟨L, hL, hacq⟩, hends⟩ := hfailed hst
    obtain ⟨hnot, hfaults, hremoves⟩ := hprobed.remove_failed hv hkept hL hacq hends
    refine ⟨fun hcase => ?_, fun hcase => hfaults ?_⟩
    · obtain ⟨haccepts, hnone⟩ := hcase.resolve_left hnot
      exact hremoves haccepts hnone
    · rw [not_or, not_and_or] at hcase
      exact hcase.2.imp_left Bool.eq_false_of_not_eq_true

/-! ## Loading and unloading -/

/-- What loading the driver acquires; if it fails, at most what the host controller's
part of the module did. -/
theorem appleBceModuleInit_ok {o : ModuleOutcome} {status : Int}
    (h : v.appleBceModuleInit o = .ok (status, v')) :
    (status = 0 → Acquires held moduleHeld v v') ∧
    (status ≠ 0 → Acquires held ∅ v v' ∨ (status = o.pciRegister ∧
      Acquires held ({.object (.chrdev .bceVhci)} ∪ {.object (.devClass .bceVhci)}) v v')) := by
  unfold appleBceModuleInit at h
  split at h
  · next hne =>
    obtain ⟨rfl, rfl⟩ := Prod.mk.inj (Except.ok.inj h)
    exact ⟨fun h0 => absurd h0 hne, fun _ => .inl .refl⟩
  obtain ⟨v₁, h₁, h⟩ := Except.bind_eq_ok_iff.mp h
  have hacq₁ := (take_ok h₁).1
  split at h
  · next hne =>
    obtain ⟨v₂, h₂, h⟩ := Except.bind_eq_ok_iff.mp h
    obtain ⟨rfl, rfl⟩ := Prod.mk.inj (Except.ok.inj h)
    obtain ⟨w, hw, hrel, -⟩ := give_releases (hacq₁.subset rfl)
    obtain rfl := Except.ok.inj (hw.symm.trans h₂)
    exact ⟨fun h0 => absurd h0 hne, fun _ => .inl (.of_held_eq (hacq₁.undo hrel))⟩
  obtain ⟨v₂, h₂, h⟩ := Except.bind_eq_ok_iff.mp h
  have hacq₂ := hacq₁.trans (take_ok h₂).1
  have hdisj := hacq₁.disjoint (take_ok h₂).1
  -- the label `fail_class`
  have hfail : ∀ {K : Set Resource} {w : BceVhciLife} {st : Int},
      Acquires held ({.object (.chrdev .appleBce)} ∪ {.object (.devClass .appleBce)} ∪ K) v w →
      Disjoint ({.object (.chrdev .appleBce)} ∪ {.object (.devClass .appleBce)}) K →
      w.moduleInitFailClass st = .ok (status, v') → status = st ∧ Acquires held K v v' := by
    intro K w st hacq hK hw
    obtain ⟨w₁, hw₁, hw⟩ := Except.bind_eq_ok_iff.mp hw
    obtain ⟨w₂, hw₂, hw⟩ := Except.bind_eq_ok_iff.mp hw
    obtain ⟨rfl, rfl⟩ := Prod.mk.inj (Except.ok.inj hw)
    obtain ⟨u₁, hu₁, hrel₁, -⟩ := give_releases (hacq.subset (.inl (.inr rfl)))
    obtain rfl := Except.ok.inj (hu₁.symm.trans hw₁)
    obtain ⟨u₂, hu₂, hrel₂, -⟩ := give_releases (hrel₁.keeps
      (Set.singleton_subset_iff.mpr (hacq.subset (.inl (.inl rfl)))) hdisj.symm rfl)
    obtain rfl := Except.ok.inj (hu₂.symm.trans hw₂)
    have hrel := hrel₁.trans hrel₂
    rw [Set.union_comm] at hrel
    rw [Set.union_comm] at hacq
    exact ⟨rfl, hacq.release hrel hK.symm⟩
  obtain ⟨⟨st, v₃⟩, h₃, h⟩ := Except.bind_eq_ok_iff.mp h
  -- the host controller's part acquires both or nothing
  have hvhci : (st ≠ 0 → Acquires held ∅ v₂ v₃) ∧ (st = 0 → Acquires held
      ({.object (.chrdev .bceVhci)} ∪ {.object (.devClass .bceVhci)}) v₂ v₃) := by
    unfold bceVhciModuleInit at h₃
    split at h₃
    · next hne =>
      obtain ⟨rfl, rfl⟩ := Prod.mk.inj (Except.ok.inj h₃)
      exact ⟨fun _ => .refl, fun h0 => absurd h0 hne⟩
    obtain ⟨w₁, hw₁, h₃⟩ := Except.bind_eq_ok_iff.mp h₃
    split at h₃
    · next hne =>
      obtain ⟨w₂, hw₂, h₃⟩ := Except.bind_eq_ok_iff.mp h₃
      obtain ⟨rfl, rfl⟩ := Prod.mk.inj (Except.ok.inj h₃)
      obtain ⟨x, hx, hrel, -⟩ := give_releases ((take_ok hw₁).1.subset rfl)
      obtain rfl := Except.ok.inj (hx.symm.trans hw₂)
      exact ⟨fun _ => .of_held_eq ((take_ok hw₁).1.undo hrel), fun h0 => absurd h0 hne⟩
    · obtain ⟨w₂, hw₂, h₃⟩ := Except.bind_eq_ok_iff.mp h₃
      obtain ⟨rfl, rfl⟩ := Prod.mk.inj (Except.ok.inj h₃)
      exact ⟨fun hne => absurd rfl hne, fun _ => (take_ok hw₁).1.trans (take_ok hw₂).1⟩
  simp only at h
  split at h
  · next hst =>
    obtain ⟨rfl, hacq⟩ := hfail (hacq₂.trans (hvhci.1 hst)) (Set.disjoint_empty _) h
    exact ⟨fun h0 => absurd h0 hst, fun _ => .inl hacq⟩
  next hst =>
  have hacq₃ := hvhci.2 (not_not.mp hst)
  split at h
  · next hreg =>
    obtain ⟨rfl, hacq⟩ := hfail (hacq₂.trans hacq₃) (hacq₂.disjoint hacq₃) h
    exact ⟨fun h0 => absurd h0 hreg, fun _ => .inr ⟨rfl, hacq⟩⟩
  · obtain ⟨v₄, h₄, h⟩ := Except.bind_eq_ok_iff.mp h
    obtain ⟨rfl, rfl⟩ := Prod.mk.inj (Except.ok.inj h)
    refine ⟨fun _ => ?_, fun hne => absurd rfl hne⟩
    have hacq := (hacq₂.trans hacq₃).trans (take_ok h₄).1
    have hset : {Resource.object (.chrdev .appleBce)} ∪ {Resource.object (.devClass .appleBce)} ∪
        ({Resource.object (.chrdev .bceVhci)} ∪ {Resource.object (.devClass .bceVhci)}) ∪
        {Resource.object (.pciDriver .appleBce)} = moduleHeld := by
      ext r
      simp only [moduleHeld, moduleObjects, Set.mem_union, Set.mem_singleton_iff,
        Set.mem_ofPred_eq, List.mem_cons, List.not_mem_nil, or_false, exists_eq_or_imp,
        exists_eq_left, or_assoc]
    rwa [hset] at hacq

/-- Unloading releases what loading acquired, if no device is bound. -/
theorem Loaded.unload (h : v.Loaded left) :
    ∃ w, v.appleBceModuleExit false acceptsNull = .ok w ∧ w.held = totalOf (left.map leftover) := by
  obtain ⟨v₁, h₁, hrel₁, -⟩ := give_after .refl (h.mem (k := .devClass .bceVhci) (by decide)) id
  obtain ⟨v₂, h₂, hrel₂, -⟩ := give_after hrel₁ (h.mem (k := .chrdev .bceVhci) (by decide))
    (by simp)
  obtain ⟨v₃, h₃, hrel₃, -⟩ := give_after hrel₂ (h.mem (k := .pciDriver .appleBce) (by decide))
    (by simp)
  obtain ⟨v₄, h₄, hrel₄, -⟩ := give_after hrel₃ (h.mem (k := .devClass .appleBce) (by decide))
    (by simp)
  obtain ⟨v₅, h₅, hrel₅, -⟩ := give_after hrel₄ (h.mem (k := .chrdev .appleBce) (by decide))
    (by simp)
  refine ⟨v₅, ?_, ?_⟩
  · simp only [appleBceModuleExit, bind, Except.bind, h₁, h₂, Bool.false_eq_true, if_false,
      h₃, h₄, h₅]
  · have hset : ∅ ∪ {Resource.object (.devClass .bceVhci)} ∪ {Resource.object (.chrdev .bceVhci)} ∪
        {Resource.object (.pciDriver .appleBce)} ∪ {Resource.object (.devClass .appleBce)} ∪
        {Resource.object (.chrdev .appleBce)} = moduleHeld := by
      ext r
      simp only [moduleHeld, moduleObjects, Set.mem_union, Set.mem_singleton_iff,
        Set.mem_ofPred_eq, List.mem_cons, List.not_mem_nil, or_false, exists_eq_or_imp,
        exists_eq_left, Set.mem_empty_iff_false, false_or]
      grind
    rw [hset] at hrel₅
    have hapart : Disjoint (totalOf (left.map leftover)) moduleHeld := by
      rw [Set.disjoint_left]
      rintro r hr ⟨k, hk, rfl⟩
      rcases mem_leftovers hr with ⟨p, hp⟩ | ⟨p, hp⟩
      · obtain rfl := Resource.object.inj hp
        simp [moduleObjects] at hk
      · obtain rfl := Resource.object.inj hp
        simp [moduleObjects] at hk
    rw [hrel₅.held_eq, h.held_eq, Set.union_sdiff_left, hapart.sdiff_eq_left]

/-! ## Unloading while a device is bound -/

theorem release_absent {s s' : DriverState} {k k' : KernelObject} (h : s.release k = some s')
    (hk : s.kernel k' = false) : s'.kernel k' = false := by
  unfold DriverState.release at h
  split at h
  · cases h
    by_cases hne : k' = k
    · subst hne
      exact Function.update_self ..
    · exact (Function.update_of_ne hne ..).trans hk
  · cases h

theorem releaseAt_absent {s s' : DriverState} {k : Nat → KernelObject} {k' : KernelObject}
    {p : Option Nat} (h : s.releaseAt k p = some s') (hk : s.kernel k' = false) :
    s'.kernel k' = false := by
  obtain ⟨p, -, h⟩ := Option.bind_eq_some_iff.mp h
  exact release_absent h hk

theorem bceDestroyCq_kernel {s s' : DriverState} {p : Option Nat} (h : s.bceDestroyCq p = some s') :
    s'.kernel = s.kernel := by
  obtain ⟨p, -, h⟩ := Option.bind_eq_some_iff.mp h
  obtain ⟨dev, -, rfl⟩ := Option.map_eq_some_iff.mp h
  rfl

theorem bceDestroySq_kernel {s s' : DriverState} {p : Option Nat} (h : s.bceDestroySq p = some s') :
    s'.kernel = s.kernel := by
  obtain ⟨p, -, h⟩ := Option.bind_eq_some_iff.mp h
  obtain ⟨dev, -, rfl⟩ := Option.map_eq_some_iff.mp h
  rfl

/-- Without its class the device node cannot be destroyed. -/
theorem bceVhciDestroy_no_class (h : v.kernel (.devClass .bceVhci) = false) (acceptsNull : Bool) :
    v.bceVhciDestroy acceptsNull = none := by
  let P : BceVhciLife → Prop := fun w => w.kernel (.devClass .bceVhci) = false
  have hmsgs : ∀ ch w w', P w → bceVhciMessageQueueDestroy ch w = some w' → P w' := by
    intro ch w w' hP hstep
    unfold bceVhciMessageQueueDestroy at hstep
    split at hstep
    · cases hstep
      exact hP
    · obtain ⟨s₁, h₁, hstep⟩ := Option.bind_eq_some_iff.mp hstep
      obtain ⟨s₂, h₂, hstep⟩ := Option.bind_eq_some_iff.mp hstep
      obtain ⟨s₃, h₃, rfl⟩ := Option.map_eq_some_iff.mp hstep
      have habsent := releaseAt_absent h₁ hP
      rw [← bceDestroySq_kernel h₂, ← bceDestroyCq_kernel h₃] at habsent
      exact habsent
  have hevs : ∀ ch w w', P w → bceVhciEventQueueDestroy ch w = some w' → P w' := by
    intro ch w w' hP hstep
    unfold bceVhciEventQueueDestroy at hstep
    split at hstep
    · cases hstep
      exact hP
    · obtain ⟨s₁, h₁, hstep⟩ := Option.bind_eq_some_iff.mp hstep
      obtain ⟨s₂, h₂, rfl⟩ := Option.map_eq_some_iff.mp hstep
      have habsent := releaseAt_absent h₁ hP
      rw [← bceDestroySq_kernel h₂] at habsent
      exact habsent
  unfold bceVhciDestroy
  rw [Option.bind_eq_none_iff]
  intro s hs
  have hs : s.kernel (.devClass .bceVhci) = false := by
    unfold usbRemoveHcd at hs
    split at hs
    · split at hs
      · cases hs
        exact h
      · cases hs
    · exact release_absent hs h
  rw [Option.bind_eq_none_iff]
  intro w hw
  obtain ⟨u, hu, hw⟩ := Option.bind_eq_some_iff.mp hw
  have hPv : P (v.withDriver s) := hs
  have hPu : P u := releaseAll_keeps hevs hPv hu
  have hPw : P w := by
    split at hw
    · cases hw
      exact hPu
    · obtain ⟨s', hs', rfl⟩ := Option.map_eq_some_iff.mp hw
      exact (congrFun (bceDestroyCq_kernel hs') _).trans hPu
  rw [Option.bind_eq_none_iff]
  intro x hx
  have hPx : P x := releaseAll_keeps hmsgs hPw hx
  have hnoclass : x.kernel (.devClass .bceVhci) = false := hPx
  simp only [DriverState.deviceDestroy, hnoclass, Bool.false_eq_true, if_false, Option.map_none]

/-- `bce_vhci_module_exit` destroys the class that removing the device needs. -/
theorem appleBceModuleExit_bound :
    ∃ fault, v.appleBceModuleExit true acceptsNull = .error fault := by
  refine ⟨.notLive, ?_⟩
  simp only [appleBceModuleExit, if_true, bind, Except.bind, give]
  cases h₁ : v.release (.devClass .bceVhci) with
  | none => rfl
  | some s =>
    simp only [Option.map_some, orFault]
    cases h₂ : (v.withDriver s).release (.chrdev .bceVhci) with
    | none => rfl
    | some s' =>
      have habsent : (v.withDriver s).kernel (.devClass .bceVhci) = false := by
        unfold DriverState.release at h₁
        split at h₁
        · obtain rfl := Option.some.inj h₁
          exact Function.update_self (KernelObject.devClass .bceVhci) false v.kernel
        · cases h₁
      have habsent' : s'.kernel (.devClass .bceVhci) = false := release_absent h₂ habsent
      have hdestroy := bceVhciDestroy_no_class (v := ((v.withDriver s).withDriver s').beingRemoved)
        habsent' acceptsNull
      unfold beingRemoved at hdestroy
      simp only [Option.map_some, appleBceRemove, hdestroy, orFault, bind, Except.bind]

end BceVhciLife

/-! ## The whole lifetime -/

/-- The driver, whether a device is bound, and what those that were removed left. -/
structure DriverRun where
  v : BceVhciLife
  bound : Bool
  left : List (Option Nat × Option Nat)

inductive DriverAction where
  | probe (o : ProbeOutcome)
  | remove

/-- A call that faults does not return. -/
def driverStep (acceptsNull : Bool) : DriverAction → DriverRun → Option DriverRun
  | .probe o, s =>
    if s.bound then none
    else match s.v.appleBceProbe o with
      | .error _ => none
      | .ok (status, v) => some { s with v, bound := status = 0 }
  | .remove, s =>
    if s.bound then
      match s.v.appleBceRemove acceptsNull with
      | .error _ => none
      | .ok v => some ⟨v, false, (s.v.tqStateWq, s.v.hcd) :: s.left⟩
    else none

def driverSystem (acceptsNull : Bool) : StepSystem DriverRun DriverAction where
  init s := ∃ (o : ModuleOutcome) (v : BceVhciLife), v.held = ∅ ∧
    v.appleBceModuleInit o = .ok (0, s.v) ∧
    s.bound = false ∧ s.left = []
  step := driverStep acceptsNull

/-- No device is bound; or one is, that was probed when none was. -/
def DriverRun.Inv (s : DriverRun) : Prop :=
  (s.bound = false ∧ s.v.Loaded s.left) ∨ s.bound = true ∧
    ∃ v : BceVhciLife, v.Loaded s.left ∧ v.Bound s.v

theorem driver_inv {acceptsNull : Bool} {s : DriverRun}
    (h : (driverSystem acceptsNull).Reachable (fun _ _ => True) s) : s.Inv := by
  refine h.invariant ?_ ?_
  · rintro s ⟨o, v, hempty, hinit, hbound, hleft⟩
    have hacq := (BceVhciLife.appleBceModuleInit_ok hinit).1 rfl
    refine .inl ⟨hbound, ?_, ?_⟩
    · rw [hacq.held_eq, hempty, hleft, List.map_nil, totalOf_nil, Set.empty_union, Set.union_empty]
    · rw [hleft]
      exact .nil
  · intro action s s' _ hinv _ hstep
    cases action with
    | probe o =>
      simp only [driverSystem, driverStep] at hstep
      split at hstep
      · cases hstep
      next hnot =>
      obtain ⟨-, hloaded⟩ := hinv.resolve_right (fun hbound => hnot hbound.1)
      split at hstep
      · cases hstep
      next status v hprobe =>
      obtain rfl := Option.some.inj hstep
      obtain ⟨-, rfl, rfl⟩ | ⟨-, -, rfl, u, cq, sq, st, hprobed, hcreate⟩ :=
        BceVhciLife.appleBceProbe_ok hloaded.idle (hloaded.mem (by decide)) hprobe
      · exact .inl ⟨rfl, hloaded⟩
      · exact .inr ⟨rfl, s.v, hloaded, u, cq, sq, o.vhci, st, hprobed, hcreate⟩
    | remove =>
      simp only [driverSystem, driverStep] at hstep
      split at hstep
      · next hbound =>
        split at hstep
        · cases hstep
        next w hremove =>
        obtain rfl := Option.some.inj hstep
        obtain ⟨-, v, hloaded, hprobed⟩ :=
          hinv.resolve_left (fun h => absurd (h.1.symm.trans hbound) nofun)
        obtain ⟨hok, hfault⟩ := hprobed.remove hloaded acceptsNull
        refine .inl ⟨rfl, ?_⟩
        by_cases hcase : s.v.HcdAdded ∨ acceptsNull = true ∧ (s.v.msg .commands).cq = none
        · obtain ⟨w', hw', hacq⟩ := hok hcase
          obtain rfl := Except.ok.inj (hw'.symm.trans hremove)
          exact hloaded.removed hacq
        · rw [hfault hcase] at hremove
          cases hremove
      · cases hstep

/-- Nothing is held. -/
def unloadedDriver : BceVhciLife where
  queues _ := none
  mem _ := none
  queueIda _ := false
  cmdCq := none
  cmdCmdq := none
  isBeingRemoved := false
  kernel _ := false
  msg _ := ⟨none, none, none⟩
  evCq := none
  ev _ := ⟨none, none⟩
  tqStateWq := none
  hcd := none

theorem unloadedDriver_held : unloadedDriver.held = ∅ := by
  ext r
  refine ⟨?_, nofun⟩
  cases r with
  | queue p q => exact nofun
  | id qid => exact Bool.false_ne_true
  | object k => exact Bool.false_ne_true

def loadedDriver : Int × BceVhciLife :=
  match unloadedDriver.appleBceModuleInit ⟨0, 0, 0, 0, 0⟩ with
  | .ok r => r
  | .error _ => (-1, unloadedDriver)

theorem loadedDriver_eq :
    unloadedDriver.appleBceModuleInit ⟨0, 0, 0, 0, 0⟩ = .ok (0, loadedDriver.2) := by
  rfl

/-- Every call succeeds, but the messages of `last` may have no memory. -/
def probeOutcome (last : Option VhciChannel) (base : Nat) : ProbeOutcome where
  pciEnable := true
  pciRegions := true
  nvec := 8
  kzalloc := true
  node := true
  regMemMb := true
  regMemDma := true
  irq0 := 0
  irq4 := 0
  dmaMask := 0
  handshake := ⟨0, bceMbMsg BCE_MB_SET_FW_PROTOCOL_VERSION BC_PROTOCOL_VERSION⟩
  commandQueues := {
    cq := some 10
    sq := some 20
    tres := true
    cfg := true
    mappedCq := true
    registerCq := ⟨0, bceMbMsg BCE_MB_REGISTER_COMMAND_QUEUE_REPLY 0⟩
    mappedSq := true
    registerSq := ⟨0, bceMbMsg BCE_MB_REGISTER_COMMAND_QUEUE_REPLY 0⟩ }
  vhci := { vhciOutcome last with tqStateWq := some base, hcd := some (base + 1) }

/-- The driver after these actions. -/
def driverAfter (actions : List DriverAction) : DriverRun :=
  (driverSystem true).after (fun _ _ => True) actions ⟨loadedDriver.2, false, []⟩

theorem driverAfter_reachable (actions : List DriverAction)
    (h : ((driverSystem true).run (fun _ _ => True) actions ⟨loadedDriver.2, false, []⟩).isSome =
      true) : (driverSystem true).Reachable (fun _ _ => True) (driverAfter actions) :=
  .after (.of_init ⟨⟨0, 0, 0, 0, 0⟩, unloadedDriver, unloadedDriver_held,
    loadedDriver_eq, rfl, rfl⟩) h

end BceDriver
