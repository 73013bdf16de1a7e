import BceDriver.Probe.Basic

/-!
# What probing acquires and removing releases

- `appleBceProbe_ok`: `apple_bce_probe` returns if `pci_enable_device` fails, or if all
  that it checks succeeds; then it holds the objects and queues of a bound device.
- `appleBceRemove_of_destroyed`: once the host controller is destroyed, the rest of
  `apple_bce_remove` releases all of these.
-/

namespace BceDriver

/-- The objects of the kernel that a device holds while it is bound. -/
def boundObjects : List KernelObject :=
  [.pciDevice .appleBce, .pciRegions .appleBce, .irqVectors .appleBce, .device .appleBce,
    .node .appleBce, .mapping .appleBce 4, .mapping .appleBce 2, .irq 0, .irq 4, .timer]

/-- The command queues, which have no ids of their own -/
def commandQueues (cq sq : Nat) : Set Resource :=
  {.queue cq ⟨0, .cq⟩} ∪ {.queue sq ⟨1, .sq⟩}

/-- The objects of a bound device and its command queues -/
def boundHeld (cq sq : Nat) : Set Resource :=
  {r | ∃ k ∈ boundObjects, r = .object k} ∪ commandQueues cq sq

/-- There is memory for the command queues, and they are registered. -/
structure CommandQueueReplies.Succeeds (r : CommandQueueReplies) : Prop where
  cq : r.cq ≠ none
  sq : r.sq ≠ none
  tres : r.tres = true
  cfg : r.cfg = true
  registerCq : bceRegisterCommandQueue r.mappedCq r.registerCq = 0
  registerSq : bceRegisterCommandQueue r.mappedSq r.registerSq = 0

/-- All that `apple_bce_probe` checks after `pci_enable_device` succeeds, the allocations of
`bce_create_command_queues` included. -/
structure ProbeOutcome.Succeeds (o : ProbeOutcome) : Prop where
  pciRegions : o.pciRegions = true
  nvec : 5 ≤ o.nvec
  kzalloc : o.kzalloc = true
  node : o.node = true
  regMem : o.regMemMb = true ∧ o.regMemDma = true
  irq0 : o.irq0 = 0
  irq4 : o.irq4 = 0
  dmaMask : o.dmaMask = 0
  handshake : bceFwVersionHandshake o.handshake = 0
  commandQueues : o.commandQueues.Succeeds

namespace BceVhciLife

variable {v v' v'' u : BceVhciLife} {k : KernelObject} {F G : Set Resource} {o : ProbeOutcome}
variable {status : Int}

theorem orFault_ok {α : Type} {m : Option α} {a : α} (h : orFault m = .ok a) : m = some a := by
  cases m with
  | none => cases h
  | some b => exact congrArg some (Except.ok.inj h)

theorem require_ok {c : Prop} [Decidable c] {fault : BceFault} {x : Unit}
    (h : require c fault = .ok x) : c := by
  unfold require at h
  split at h
  · assumption
  · cases h

theorem take_ok (h : v.take k = .ok v') :
    Acquires held {.object k} v v' ∧ v.SamePointers v' := by
  obtain ⟨s, hs, rfl⟩ := Option.map_eq_some_iff.mp (orFault_ok h)
  obtain ⟨hacq, hkept⟩ := DriverState.acquire_acquires hs
  exact ⟨acquires_of_driver hacq rfl, hkept, rfl, rfl, rfl, rfl, rfl⟩

theorem give_releases (h : .object k ∈ v.held) :
    ∃ v', v.give k = .ok v' ∧ Releases held {.object k} v v' ∧ v.SamePointers v' := by
  obtain ⟨s, hs, hrel, hkept⟩ := DriverState.release_releases h
  refine ⟨v.withDriver s, ?_, releases_of_driver hrel rfl, hkept, rfl, rfl, rfl, rfl, rfl⟩
  simp only [give, hs, Option.map_some, orFault]

/-! ## The command queues -/

theorem commandQueuesErr_status {dev : QueueDevice} {st : Int} {r : Int × QueueDevice}
    (h : dev.commandQueuesErr st = some r) : r.1 = st := by
  obtain ⟨dev₁, -, h⟩ := Option.bind_eq_some_iff.mp h
  obtain ⟨dev₂, -, rfl⟩ := Option.map_eq_some_iff.mp h
  rfl

theorem bceCreateCommandQueues_zero {dev dev' : QueueDevice} {o : CommandQueuesOutcome}
    (h : dev.bceCreateCommandQueues o = some (0, dev')) :
    o.tres = true ∧ o.cfg = true ∧ o.registerCq = 0 ∧ o.registerSq = 0 ∧
      ∃ cq sq, o.cq = some cq ∧ o.sq = some sq ∧ dev.mem cq = none ∧ dev.mem sq = none ∧
      sq ≠ cq ∧ dev' = { dev with
        cmdCq := some cq
        cmdCmdq := some sq
        queues := Function.update (Function.update dev.queues 0 (some cq)) 1 (some sq)
        mem := Function.update (Function.update dev.mem cq (some ⟨0, .cq⟩))
          sq (some ⟨1, .sq⟩) } := by
  obtain ⟨⟨cq, dev₁⟩, hcq, h⟩ := Option.bind_eq_some_iff.mp h
  obtain ⟨⟨sq, dev₂⟩, hsq, h⟩ := Option.bind_eq_some_iff.mp h
  have hfail : ∀ {dev : QueueDevice} {st : Int}, st ≠ 0 →
      dev.commandQueuesErr st ≠ some (0, dev') := by
    intro dev st hne herr
    exact hne (commandQueuesErr_status herr).symm
  cases cq with
  | none => exact absurd h (hfail (by decide))
  | some cq =>
    cases sq with
    | none => exact absurd h (hfail (by decide))
    | some sq =>
      obtain ⟨-, hnone, -⟩ | ⟨p, hdata, hp, hunused, rfl⟩ := bceAllocQueue_some hcq
      · cases hnone
      cases hp
      obtain ⟨-, hnone, -⟩ | ⟨q, hdata', hq, hunused', rfl⟩ := bceAllocCmdq_some hsq
      · cases hnone
      obtain ⟨htres, hq⟩ := Option.ite_none_right_eq_some.mp hq.symm
      obtain rfl : sq = q := (Option.some.inj hq).symm
      have hne : sq ≠ cq := by
        rintro rfl
        simp at hunused'
      simp only [QueueDevice.registerCommandQueues] at h
      split at h
      · exact absurd h (hfail (by decide))
      next hcfg =>
      split at h
      · next hreg => exact absurd h (hfail hreg)
      split at h
      · next hreg => exact absurd h (hfail hreg)
      next hregCq hregSq =>
      obtain ⟨-, rfl⟩ := Prod.mk.inj (Option.some.inj h)
      refine ⟨htres, by simpa using hcfg, not_not.mp hregCq, not_not.mp hregSq, cq, _, hdata,
        hdata', hunused, ?_, hne, rfl⟩
      simpa [Function.update_of_ne hne] using hunused'

theorem createCommandQueues_ok {r : CommandQueueReplies}
    (h : v.createCommandQueues r = .ok (0, v')) :
    r.Succeeds ∧ ∃ cq sq, Acquires held (commandQueues cq sq) v v' ∧ v'.cmdCq = some cq ∧
      v'.cmdCmdq = some sq ∧ ∃ s, v' = v.withDriver s := by
  obtain ⟨⟨st, dev⟩, hcreate, heq⟩ := Option.map_eq_some_iff.mp (orFault_ok h)
  obtain ⟨rfl, rfl⟩ := Prod.mk.inj heq
  obtain ⟨htres, hcfg, hregCq, hregSq, cq, sq, hdata, hdata', hcq, hsq, hne, rfl⟩ :=
    bceCreateCommandQueues_zero hcreate
  have hsucceeds : r.Succeeds := by
    refine ⟨?_, ?_, htres, hcfg, hregCq, hregSq⟩
    · rw [show r.cq = some cq from hdata]
      exact Option.some_ne_none cq
    · rw [show r.sq = some sq from hdata']
      exact Option.some_ne_none sq
  refine ⟨hsucceeds, cq, sq, ?_, rfl, rfl, _, rfl⟩
  -- one queue after the other
  let first : DriverState := v.withQueues { v.toQueueDevice with
    mem := Function.update v.mem cq (some ⟨0, .cq⟩) }
  have hfirst : first.held = v.held ∪ {.queue cq ⟨0, .cq⟩} :=
    DriverState.held_enter rfl rfl hcq
  have hsq' : first.mem sq = none := (Function.update_of_ne hne ..).trans hsq
  let dev : QueueDevice := { v.toQueueDevice with
    cmdCq := some cq
    cmdCmdq := some sq
    queues := Function.update (Function.update v.queues 0 (some cq)) 1 (some sq)
    mem := Function.update (Function.update v.mem cq (some ⟨0, .cq⟩)) sq (some ⟨1, .sq⟩) }
  have hsecond : (first.withQueues dev).held = first.held ∪ {.queue sq ⟨1, .sq⟩} :=
    DriverState.held_enter rfl rfl hsq'
  have hfree : ∀ {p : Nat} {q : BceQueue} {s : DriverState}, s.mem p = none →
      Disjoint s.held {Resource.queue p q} := by
    intro p q s hp
    rw [Set.disjoint_singleton_right, DriverState.mem_held_queue, hp]
    exact nofun
  have hacq : Acquires DriverState.held {Resource.queue cq ⟨0, .cq⟩} v.toDriverState first :=
    ⟨hfree hcq, hfirst⟩
  exact acquires_of_driver (hacq.trans ⟨hfree hsq', hsecond⟩) rfl

theorem freeCommandQueues_releases {cq sq : Nat} (hcq : v.cmdCq = some cq)
    (hsq : v.cmdCmdq = some sq) (hheld : commandQueues cq sq ⊆ v.held) :
    ∃ v', v.freeCommandQueues = .ok v' ∧ Releases held (commandQueues cq sq) v v' := by
  have hlive : v.mem cq = some ⟨0, .cq⟩ := hheld (.inl rfl)
  have hlive' : v.mem sq = some ⟨1, .sq⟩ := hheld (.inr rfl)
  have hne : sq ≠ cq := by
    rintro rfl
    exact absurd (hlive.symm.trans hlive') (by decide)
  let first : DriverState := v.withQueues { v.toQueueDevice with
    mem := Function.update v.mem cq none }
  have hfirst : Releases DriverState.held {Resource.queue cq ⟨0, .cq⟩} v.toDriverState first :=
    ⟨Set.singleton_subset_iff.mpr (hheld (.inl rfl)), DriverState.held_free rfl rfl hlive⟩
  have hsecond : first.mem sq = some ⟨1, .sq⟩ := (Function.update_of_ne hne ..).trans hlive'
  let dev : QueueDevice := { v.toQueueDevice with
    cmdCq := none
    queues := Function.update v.queues 0 none
    mem := Function.update (Function.update v.mem cq none) sq none }
  refine ⟨v.withDriver (v.withQueues dev), ?_, ?_⟩
  · have hfree : v.toQueueDevice.bceFreeCommandQueues = some dev := by
      simp only [QueueDevice.bceFreeCommandQueues, hcq, hsq, QueueDevice.bceFreeQueue, hlive,
        reduceCtorEq, if_false, Option.bind_some, Function.update_of_ne hne, hlive',
        Option.map_some, dev]
    simp only [freeCommandQueues, hfree, Option.map_some, orFault]
  · have hrel : Releases DriverState.held {Resource.queue sq ⟨1, .sq⟩} first
        (first.withQueues dev) :=
      ⟨Set.singleton_subset_iff.mpr hsecond, DriverState.held_free rfl rfl hsecond⟩
    exact releases_of_driver (hfirst.trans hrel) rfl

/-! ## `apple_bce_probe` -/

/-- No device is bound: there is no `bce`, and so there are no ids. -/
def Idle (v : BceVhciLife) : Prop := ∀ qid, Resource.id qid ∉ v.held

theorem Idle.clearBce_held (h : v.Idle) : v.clearBce.held = v.held := by
  ext r
  cases r with
  | queue p q => exact Iff.rfl
  | object k => exact Iff.rfl
  | id qid => exact ⟨nofun, fun hid => absurd hid (h qid)⟩

/-- What is held where `apple_bce_probe` calls `bce_vhci_create`. -/
structure Probed (v u : BceVhciLife) (cq sq : Nat) : Prop where
  fresh : u.Fresh
  cmdCq : u.cmdCq = some cq
  cmdCmdq : u.cmdCmdq = some sq
  acquired : Acquires held (boundHeld cq sq) v u

/-- What `apple_bce_probe` returns, and what it holds then. -/
theorem appleBceProbe_ok (hidle : v.Idle) (hclass : .object (.devClass .bceVhci) ∈ v.held)
    (h : v.appleBceProbe o = .ok (status, v')) :
    (o.pciEnable = false ∧ status = -ENODEV ∧ v' = v) ∨
    (o.pciEnable = true ∧ o.Succeeds ∧ status = 0 ∧ ∃ u cq sq st, Probed v u cq sq ∧
      u.bceVhciCreate o.vhci = some (st, v')) := by
  unfold appleBceProbe at h
  split at h
  · next hdisabled =>
    obtain ⟨rfl, rfl⟩ := Prod.mk.inj (Except.ok.inj h)
    exact .inl ⟨hdisabled, rfl, rfl⟩
  next henabled =>
  obtain ⟨v₁, h₁, h⟩ := Except.bind_eq_ok_iff.mp h
  obtain ⟨_, hregions, h⟩ := Except.bind_eq_ok_iff.mp h
  obtain ⟨v₂, h₂, h⟩ := Except.bind_eq_ok_iff.mp h
  obtain ⟨_, hnvec, h⟩ := Except.bind_eq_ok_iff.mp h
  obtain ⟨v₃, h₃, h⟩ := Except.bind_eq_ok_iff.mp h
  obtain ⟨_, hkzalloc, h⟩ := Except.bind_eq_ok_iff.mp h
  obtain ⟨v₄, h₄, h⟩ := Except.bind_eq_ok_iff.mp h
  obtain ⟨_, hnode, h⟩ := Except.bind_eq_ok_iff.mp h
  obtain ⟨v₅, h₅, h⟩ := Except.bind_eq_ok_iff.mp h
  obtain ⟨_, hregMem, h⟩ := Except.bind_eq_ok_iff.mp h
  obtain ⟨v₆, h₆, h⟩ := Except.bind_eq_ok_iff.mp h
  obtain ⟨v₇, h₇, h⟩ := Except.bind_eq_ok_iff.mp h
  obtain ⟨_, hirq0, h⟩ := Except.bind_eq_ok_iff.mp h
  obtain ⟨v₈, h₈, h⟩ := Except.bind_eq_ok_iff.mp h
  obtain ⟨_, hirq4, h⟩ := Except.bind_eq_ok_iff.mp h
  obtain ⟨v₉, h₉, h⟩ := Except.bind_eq_ok_iff.mp h
  obtain ⟨_, hmask, h⟩ := Except.bind_eq_ok_iff.mp h
  obtain ⟨v₁₀, h₁₀, h⟩ := Except.bind_eq_ok_iff.mp h
  obtain ⟨_, hhandshake, h⟩ := Except.bind_eq_ok_iff.mp h
  obtain ⟨⟨st, v₁₁⟩, h₁₁, h⟩ := Except.bind_eq_ok_iff.mp h
  obtain ⟨_, hst, h⟩ := Except.bind_eq_ok_iff.mp h
  obtain ⟨⟨st', v₁₂⟩, h₁₂, h⟩ := Except.bind_eq_ok_iff.mp h
  obtain ⟨rfl, rfl⟩ := Prod.mk.inj (Except.ok.inj h)
  obtain rfl := require_ok hst
  obtain ⟨hqueues, cq, sq, hacq₁₁, hcmdCq, hcmdCmdq, s, rfl⟩ := createCommandQueues_ok h₁₁
  -- the device is allocated once the first three are acquired
  have hfirst := ((take_ok h₁).1.trans (take_ok h₂).1).trans (take_ok h₃).1
  have hidle₃ : v₃.Idle := by
    intro qid hqid
    rw [hfirst.held_eq] at hqid
    rcases hqid with hqid | hqid
    · exact hidle qid hqid
    · rcases hqid with (hqid | hqid) | hqid <;> cases hqid
  have hclear : Acquires held _ v v₃.clearBce :=
    ⟨hfirst.fresh, hidle₃.clearBce_held.trans hfirst.held_eq⟩
  have htotal := (((((((hclear.trans (take_ok h₄).1).trans (take_ok h₅).1).trans
    (take_ok h₆).1).trans (take_ok h₇).1).trans (take_ok h₈).1).trans (take_ok h₉).1).trans
    (take_ok h₁₀).1).trans hacq₁₁
  have hset : {Resource.object (.pciDevice .appleBce)} ∪ {Resource.object (.pciRegions .appleBce)} ∪
      {Resource.object (.irqVectors .appleBce)} ∪ {Resource.object (.device .appleBce)} ∪
      {Resource.object (.node .appleBce)} ∪ {Resource.object (.mapping .appleBce 4)} ∪
      {Resource.object (.mapping .appleBce 2)} ∪ {Resource.object (.irq 0)} ∪
      {Resource.object (.irq 4)} ∪ {Resource.object .timer} ∪ commandQueues cq sq =
      boundHeld cq sq := by
    congr 1
    ext r
    simp only [Set.mem_union, Set.mem_singleton_iff, Set.mem_ofPred_eq, boundObjects,
      List.mem_cons, List.not_mem_nil, or_false, exists_eq_or_imp, exists_eq_left, or_assoc]
  rw [hset] at htotal
  have hsame := (((((take_ok h₄).2.trans (take_ok h₅).2).trans (take_ok h₆).2).trans
    (take_ok h₇).2).trans (take_ok h₈).2).trans ((take_ok h₉).2.trans (take_ok h₁₀).2)
  refine .inr ⟨Bool.eq_true_of_not_eq_false henabled, ?_, rfl, v₁₀.withDriver s, cq, sq, st', ?_,
    orFault_ok h₁₂⟩
  · exact ⟨require_ok hregions, require_ok hnvec, require_ok hkzalloc, require_ok hnode,
      require_ok hregMem, require_ok hirq0, require_ok hirq4, require_ok hmask,
      require_ok hhandshake, hqueues⟩
  · refine ⟨⟨.inr ⟨sq, hcmdCmdq, ?_⟩, htotal.mono hclass, ?_, hsame.evCq, ?_, hsame.tqStateWq,
      hsame.hcd⟩, hcmdCq, hcmdCmdq, htotal⟩
    · exact htotal.subset (.inr (.inr rfl))
    · intro ch
      show (v₁₀.msg ch).cq = none
      rw [hsame.msg]
      rfl
    · intro ch
      show (v₁₀.ev ch).sq = none
      rw [hsame.ev]
      rfl

/-! ## `apple_bce_remove` -/

/-- `bce` was freed: its ids are gone. -/
theorem clearBce_held (v : BceVhciLife) :
    v.clearBce.held = {r | r ∈ v.held ∧ ∀ qid, r ≠ .id qid} := by
  ext r
  cases r with
  | queue p q => exact ⟨fun h => ⟨h, nofun⟩, And.left⟩
  | object k => exact ⟨fun h => ⟨h, nofun⟩, And.left⟩
  | id qid => exact ⟨nofun, fun h => absurd rfl (h.2 qid)⟩

/-- One more object is released. -/
theorem give_after (hrel : Releases held F v u) (hk : .object k ∈ v.held) (hF : .object k ∉ F) :
    ∃ u', u.give k = .ok u' ∧ Releases held (F ∪ {.object k}) v u' ∧ u.SamePointers u' := by
  have hheld : .object k ∈ u.held := by
    rw [hrel.held_eq]
    exact ⟨hk, hF⟩
  obtain ⟨u', hu', hrel', hsame⟩ := give_releases hheld
  exact ⟨u', hu', hrel.trans hrel', hsame⟩

/-- The rest of `apple_bce_remove`, once the host controller is destroyed. -/
theorem appleBceRemove_of_destroyed {w : BceVhciLife} {R : Set Resource} {cq sq : Nat}
    {acceptsNull : Bool} (hidle : v.Idle) (hclass : .object (.devClass .appleBce) ∈ v.held)
    (hdestroy : ({ v' with isBeingRemoved := true } : BceVhciLife).bceVhciDestroy acceptsNull =
      some w)
    (hcq : w.cmdCq = some cq) (hsq : w.cmdCmdq = some sq) (hdisj : Disjoint (boundHeld cq sq) R)
    (hacq : Acquires held (boundHeld cq sq ∪ R) v w) :
    ∃ v'', v'.appleBceRemove acceptsNull = .ok v'' ∧
      v''.held = v.held ∪ {r | r ∈ R ∧ ∀ qid, r ≠ .id qid} := by
  have hbound : ∀ k ∈ boundObjects, Resource.object k ∈ w.held :=
    fun k hk => hacq.subset (.inl (.inl ⟨k, hk, rfl⟩))
  have hcqs : ∀ k, Resource.object k ∉ commandQueues cq sq := by
    rintro k (hk | hk) <;> cases hk
  obtain ⟨v₁, h₁, hrel₁, hsame₁⟩ := give_after (k := .timer) .refl (hbound _ (by decide)) id
  obtain ⟨v₂, h₂, hrel₂, hsame₂⟩ := give_after (k := .irq 0) hrel₁ (hbound _ (by decide))
    (by simp)
  obtain ⟨v₃, h₃, hrel₃, hsame₃⟩ := give_after (k := .irq 4) hrel₂ (hbound _ (by decide))
    (by simp)
  have hkept := (hsame₁.trans hsame₂).trans hsame₃
  -- the command queues
  have hqueues : commandQueues cq sq ⊆ v₃.held := by
    refine hrel₃.keeps (fun r hr => hacq.subset (.inl (.inr hr))) ?_
    rw [Set.disjoint_left]
    rintro r (((hr | rfl) | rfl) | rfl) hq
    · exact hr
    · exact hcqs _ hq
    · exact hcqs _ hq
    · exact hcqs _ hq
  obtain ⟨v₄, h₄, hrel₄⟩ := freeCommandQueues_releases (hkept.kept.cmdCq.trans hcq)
    (hkept.kept.cmdCmdq.trans hsq) hqueues
  have hrel₄ := hrel₃.trans hrel₄
  obtain ⟨v₅, h₅, hrel₅, -⟩ := give_after (k := .mapping .appleBce 4) hrel₄
    (hbound _ (by decide)) (by simp [hcqs])
  obtain ⟨v₆, h₆, hrel₆, -⟩ := give_after (k := .mapping .appleBce 2) hrel₅
    (hbound _ (by decide)) (by simp [hcqs])
  -- the node, whose class is there
  have hnode : ∀ {k : KernelObject}, k ∉ boundObjects → .object k ∈ v.held →
      .object k ∈ v₆.held := by
    intro k hk hheld
    rw [hrel₆.held_eq]
    refine ⟨hacq.mono hheld, ?_⟩
    rintro ((((((hr | hr) | hr) | hr) | hr) | hr) | hr)
    · exact hr
    · cases hr
      exact hk (by decide)
    · cases hr
      exact hk (by decide)
    · cases hr
      exact hk (by decide)
    · exact hcqs k hr
    · cases hr
      exact hk (by decide)
    · cases hr
      exact hk (by decide)
  have hclass₆ : v₆.kernel (.devClass .appleBce) = true := hnode (by decide) hclass
  obtain ⟨s₇, h₇, hheld₇, -⟩ := DriverState.deviceDestroy_held hclass₆
  have hrel₇ : Releases held _ w (v₆.withDriver s₇) := hrel₆.trans
    ⟨Set.singleton_subset_iff.mpr (by
      rw [hrel₆.held_eq]
      exact ⟨hbound (.node .appleBce) (by decide), by simp [hcqs]⟩), hheld₇⟩
  obtain ⟨v₈, h₈, hrel₈, -⟩ := give_after (k := .irqVectors .appleBce) hrel₇
    (hbound _ (by decide)) (by simp [hcqs])
  obtain ⟨v₉, h₉, hrel₉, -⟩ := give_after (k := .pciRegions .appleBce) hrel₈
    (hbound _ (by decide)) (by simp [hcqs])
  obtain ⟨v₁₀, h₁₀, hrel₁₀, -⟩ := give_after (k := .pciDevice .appleBce) hrel₉
    (hbound _ (by decide)) (by simp [hcqs])
  -- and `bce`
  have hdevice : Resource.object (.device .appleBce) ∈ v₁₀.clearBce.held := by
    rw [clearBce_held, hrel₁₀.held_eq]
    exact ⟨⟨hbound (.device .appleBce) (by decide), by simp [hcqs]⟩, nofun⟩
  obtain ⟨v₁₁, h₁₁, hrel₁₁, -⟩ := give_releases hdevice
  refine ⟨v₁₁, ?_, ?_⟩
  · simp only [appleBceRemove, hdestroy, orFault, Except.bind, bind, h₁, h₂, h₃, h₄, h₅, h₆, h₇,
      Option.map_some, h₈, h₉, h₁₀, h₁₁]
  · have hall : ∀ r, r ∈ boundHeld cq sq ↔ (r = .object .timer ∨ r = .object (.irq 0) ∨
        r = .object (.irq 4) ∨ r ∈ commandQueues cq sq ∨ r = .object (.mapping .appleBce 4) ∨
        r = .object (.mapping .appleBce 2) ∨ r = .object (.node .appleBce) ∨
        r = .object (.irqVectors .appleBce) ∨ r = .object (.pciRegions .appleBce) ∨
        r = .object (.pciDevice .appleBce)) ∨ r = .object (.device .appleBce) := by
      intro r
      simp only [boundHeld, boundObjects, Set.mem_union, Set.mem_ofPred_eq, List.mem_cons,
        List.not_mem_nil, or_false, exists_eq_or_imp, exists_eq_left]
      grind
    have hgone : v₁₁.held = {r | r ∈ w.held ∧ r ∉ boundHeld cq sq ∧ ∀ qid, r ≠ .id qid} := by
      rw [hrel₁₁.held_eq, clearBce_held, hrel₁₀.held_eq]
      ext r
      simp only [Set.mem_sdiff, Set.mem_ofPred_eq, Set.mem_union, Set.mem_singleton_iff, hall,
        Set.mem_empty_iff_false, false_or, not_or]
      tauto
    rw [hgone, hacq.held_eq]
    ext r
    have hfresh : r ∈ v.held → r ∉ boundHeld cq sq :=
      fun hr => Set.disjoint_left.mp (Set.disjoint_union_right.mp hacq.fresh).1 hr
    have hR : r ∈ R → r ∉ boundHeld cq sq := fun hr => Set.disjoint_right.mp hdisj hr
    constructor
    · rintro ⟨hr | hr | hr, hnot, hid⟩
      · exact .inl hr
      · exact absurd hr hnot
      · exact .inr ⟨hr, hid⟩
    · rintro (hr | ⟨hr, hid⟩)
      · refine ⟨.inl hr, hfresh hr, ?_⟩
        rintro qid rfl
        exact hidle qid hr
      · exact ⟨.inr (.inr hr), hR hr, hid⟩

end BceVhciLife

end BceDriver
