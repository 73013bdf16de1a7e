import BceDriver.Lib.Ledger
import BceDriver.Queue.Registry

/-!
# What the driver holds

A driver acquires queues, their ids, and objects of the kernel. `DriverState` is the
device with its queues, and the objects of the kernel; `held` is all that is acquired and
not released, of either kind.

- A creation of a queue acquires the queue and its id, or nothing; without memory for
  the elements it keeps the id.
- A destruction releases them, if the queue is live, and faults if it is not.
- `Unused`: what a creation needs to return; it leaves what comes after unused.
-/

namespace BceDriver

/-- The names the driver registers under: `apple-bce`, `bce-vhci`, `aaudio`. -/
inductive DriverName where
  | appleBce
  | bceVhci
  | aaudio
deriving DecidableEq, Repr

/-- What a driver acquires from the kernel, other than a queue. -/
inductive KernelObject where
  /-- `alloc_chrdev_region` -/
  | chrdev (name : DriverName)
  /-- `class_create` -/
  | devClass (name : DriverName)
  /-- `pci_register_driver` -/
  | pciDriver (name : DriverName)
  /-- `pci_enable_device` -/
  | pciDevice (name : DriverName)
  /-- `pci_request_regions` -/
  | pciRegions (name : DriverName)
  /-- `pci_alloc_irq_vectors` -/
  | irqVectors (name : DriverName)
  /-- the `kzalloc` of the device -/
  | device (name : DriverName)
  /-- `device_create` -/
  | node (name : DriverName)
  /-- `pci_iomap` of a region -/
  | mapping (name : DriverName) (bar : Nat)
  /-- `pci_request_irq` -/
  | irq (vector : Nat)
  /-- the timer of the timestamp, started -/
  | timer
  /-- `dma_alloc_coherent`, other than for a queue -/
  | coherent (p : Nat)
  /-- `alloc_ordered_workqueue` -/
  | workqueue (p : Nat)
  /-- `usb_create_hcd` -/
  | hcd (p : Nat)
  /-- `usb_add_hcd` -/
  | addedHcd (p : Nat)
  /-- `snd_card_new` -/
  | card (p : Nat)
deriving DecidableEq, Repr

structure DriverState extends QueueDevice where
  kernel : KernelObject → Bool

inductive Resource where
  | queue (p : Nat) (q : BceQueue)
  | id (qid : Nat)
  | object (k : KernelObject)
deriving DecidableEq, Repr

/-- What resources are told apart by: a queue by its address. -/
inductive Place where
  | queue (p : Nat)
  | object (k : KernelObject)
deriving DecidableEq, Repr

/-- Where a resource is; an id has no place. -/
def Resource.place? : Resource → Option Place
  | .queue p _ => some (.queue p)
  | .id _ => none
  | .object k => some (.object k)

/-- The place a pointer is to, if it is not null. -/
def placesAt (k : Nat → Place) (p : Option Nat) : List Place := p.toList.map k

def CreateOutcome.places (o : CreateOutcome) : List Place := placesAt .queue o.data

/-- A queue and its id. -/
def queueWithId (p : Nat) (q : BceQueue) : Set Resource := {.queue p q, .id q.qid}

/-- What a creation that fails can keep: its id, if there is no memory for the elements. -/
def CreateOutcome.Loses (o : CreateOutcome) (L : Set Resource) : Prop :=
  L = ∅ ∨ o.ida = true ∧ o.data = none ∧ ∃ qid, L = {.id qid}

/-- The object a pointer is to, if it is not null. -/
def objectAt (k : Nat → KernelObject) : Option Nat → Set Resource
  | none => ∅
  | some p => {.object (k p)}

namespace DriverState

variable (s : DriverState)

def held : Set Resource := fun
  | .queue p q => s.mem p = some q
  | .id qid => s.queueIda qid = true
  | .object k => s.kernel k = true

/-- An object is acquired that is not held. -/
def acquire (k : KernelObject) : Option DriverState :=
  if s.kernel k then none else some { s with kernel := Function.update s.kernel k true }

def release (k : KernelObject) : Option DriverState :=
  if s.kernel k then some { s with kernel := Function.update s.kernel k false } else none

/-- `device_create`, and the other calls that may fail: nothing for a null pointer. -/
def acquireAt (k : Nat → KernelObject) : Option Nat → Option DriverState
  | none => some s
  | some p => s.acquire (k p)

/-- `dma_free_coherent` and its like, for a pointer that is not null. -/
def releaseAt (k : Nat → KernelObject) (p : Option Nat) : Option DriverState :=
  p.bind fun p => s.release (k p)

/-- `device_destroy`, of a class that exists; the node need not. -/
def deviceDestroy (name : DriverName) : Option DriverState :=
  if s.kernel (.devClass name) then
    some { s with kernel := Function.update s.kernel (.node name) false }
  else none

/-- The device after an operation on its queues. -/
def withQueues (dev : QueueDevice) : DriverState := { s with toQueueDevice := dev }

def bceCreateCq (o : CreateOutcome) : Option (Option Nat × DriverState) :=
  (s.toQueueDevice.bceCreateCq o).map fun (cq, dev) => (cq, s.withQueues dev)

def bceCreateSq (cq : Option Nat) (name : Option String) (direction : Nat) (o : CreateOutcome) :
    Option (Option Nat × DriverState) :=
  (s.toQueueDevice.bceCreateSq cq name direction o).map fun (sq, dev) => (sq, s.withQueues dev)

/-- `bce_destroy_cq`; a null pointer faults. -/
def bceDestroyCq (cq : Option Nat) : Option DriverState :=
  cq.bind fun cq => (s.toQueueDevice.bceDestroyCq cq).map s.withQueues

def bceDestroySq (sq : Option Nat) : Option DriverState :=
  sq.bind fun sq => (s.toQueueDevice.bceDestroySq sq).map s.withQueues

/-- The device can be sent commands, or is sent none any more. -/
def Ready : Prop :=
  s.isBeingRemoved = true ∨ ∃ c, s.cmdCmdq = some c ∧ s.mem c = some ⟨1, .sq⟩

/-- What a step leaves: all that does not depend on the queues and objects held. -/
structure Kept (s s' : DriverState) : Prop where
  ready : s.Ready → s'.Ready
  removed : s'.isBeingRemoved = s.isBeingRemoved
  cmdCq : s'.cmdCq = s.cmdCq
  cmdCmdq : s'.cmdCmdq = s.cmdCmdq

variable {s} {s' s'' : DriverState} {k : KernelObject} {p qid : Nat} {type : BceQueueType}
variable {o : CreateOutcome}

theorem Kept.refl : s.Kept s := ⟨id, rfl, rfl, rfl⟩

theorem Kept.trans (h : s.Kept s') (h' : s'.Kept s'') : s.Kept s'' where
  ready hr := h'.ready (h.ready hr)
  removed := h'.removed.trans h.removed
  cmdCq := h'.cmdCq.trans h.cmdCq
  cmdCmdq := h'.cmdCmdq.trans h.cmdCmdq

/-! ## Objects of the kernel -/

theorem mem_held_object : .object k ∈ s.held ↔ s.kernel k = true := Iff.rfl

theorem mem_held_queue {q : BceQueue} : .queue p q ∈ s.held ↔ s.mem p = some q := Iff.rfl

theorem mem_held_id : .id qid ∈ s.held ↔ s.queueIda qid = true := Iff.rfl

theorem held_update_true : { s with kernel := Function.update s.kernel k true }.held =
    s.held ∪ {.object k} := by
  ext r
  cases r with
  | queue p q => simp [mem_held_queue]
  | id qid => simp [mem_held_id]
  | object k' =>
    by_cases hk : k' = k
    · subst hk
      simp [mem_held_object]
    · simp [mem_held_object, hk]

theorem held_update_false : { s with kernel := Function.update s.kernel k false }.held =
    s.held \ {.object k} := by
  ext r
  cases r with
  | queue p q => simp [mem_held_queue]
  | id qid => simp [mem_held_id]
  | object k' =>
    by_cases hk : k' = k
    · subst hk
      simp [mem_held_object]
    · simp [mem_held_object, hk]

theorem acquire_acquires (h : s.acquire k = some s') :
    Acquires held {.object k} s s' ∧ s.Kept s' := by
  unfold acquire at h
  split at h
  · cases h
  · next hnot =>
    cases h
    refine ⟨⟨Set.disjoint_singleton_right.mpr ?_, held_update_true⟩, ⟨id, rfl, rfl, rfl⟩⟩
    rw [mem_held_object]
    exact hnot

theorem acquireAt_acquires {k : Nat → KernelObject} {p : Option Nat}
    (h : s.acquireAt k p = some s') : Acquires held (objectAt k p) s s' ∧ s.Kept s' := by
  cases p with
  | none =>
    obtain rfl := Option.some.inj h
    exact ⟨.refl, .refl⟩
  | some p => exact acquire_acquires h

theorem release_releases (h : .object k ∈ s.held) :
    ∃ s', s.release k = some s' ∧ Releases held {.object k} s s' ∧ s.Kept s' := by
  rw [mem_held_object] at h
  refine ⟨_, if_pos h, ⟨?_, held_update_false⟩, ⟨id, rfl, rfl, rfl⟩⟩
  rw [Set.singleton_subset_iff, mem_held_object]
  exact h

theorem deviceDestroy_held {name : DriverName} (h : s.kernel (.devClass name) = true) :
    ∃ s', s.deviceDestroy name = some s' ∧ s'.held = s.held \ {.object (.node name)} ∧
      s.Kept s' :=
  ⟨_, if_pos h, held_update_false, ⟨id, rfl, rfl, rfl⟩⟩

/-! ## Queues -/

theorem held_create {dev : QueueDevice} {q : BceQueue}
    (hmem : dev.mem = Function.update s.mem p (some q))
    (hida : dev.queueIda = Function.update s.queueIda q.qid true) (hunused : s.mem p = none) :
    (s.withQueues dev).held = s.held ∪ queueWithId p q := by
  ext r
  cases r with
  | queue p' q' =>
    rw [mem_held_queue, withQueues, hmem]
    by_cases hp : p' = p
    · subst hp
      simp [queueWithId, mem_held_queue, hunused, eq_comm]
    · simp [queueWithId, mem_held_queue, hp]
  | id qid =>
    rw [mem_held_id, withQueues, hida]
    by_cases hq : qid = q.qid
    · subst hq
      simp [queueWithId]
    · simp [queueWithId, mem_held_id, hq]
  | object k => simp [queueWithId, mem_held_object, withQueues]

/-- A queue without an id of its own. -/
theorem held_enter {dev : QueueDevice} {q : BceQueue}
    (hmem : dev.mem = Function.update s.mem p (some q)) (hida : dev.queueIda = s.queueIda)
    (hunused : s.mem p = none) : (s.withQueues dev).held = s.held ∪ {.queue p q} := by
  ext r
  cases r with
  | queue p' q' =>
    rw [mem_held_queue, withQueues, hmem]
    by_cases hp : p' = p
    · subst hp
      simp [mem_held_queue, hunused, eq_comm]
    · simp [mem_held_queue, hp]
  | id qid => simp [mem_held_id, withQueues, hida]
  | object k => simp [mem_held_object, withQueues]

theorem held_free {dev : QueueDevice} {q : BceQueue}
    (hmem : dev.mem = Function.update s.mem p none) (hida : dev.queueIda = s.queueIda)
    (hlive : s.mem p = some q) : (s.withQueues dev).held = s.held \ {.queue p q} := by
  ext r
  cases r with
  | queue p' q' =>
    rw [mem_held_queue, withQueues, hmem]
    by_cases hp : p' = p
    · subst hp
      simp [mem_held_queue, hlive, eq_comm]
    · simp [mem_held_queue, hp]
  | id qid => simp [mem_held_id, withQueues, hida]
  | object k => simp [mem_held_object, withQueues]

theorem held_destroy {dev : QueueDevice} {q : BceQueue}
    (hmem : dev.mem = Function.update s.mem p none)
    (hida : dev.queueIda = Function.update s.queueIda q.qid false) (hlive : s.mem p = some q) :
    (s.withQueues dev).held = s.held \ queueWithId p q := by
  ext r
  cases r with
  | queue p' q' =>
    rw [mem_held_queue, withQueues, hmem]
    by_cases hp : p' = p
    · subst hp
      simp [queueWithId, mem_held_queue, hlive, eq_comm]
    · simp [queueWithId, mem_held_queue, hp]
  | id qid =>
    rw [mem_held_id, withQueues, hida]
    by_cases hq : qid = q.qid
    · subst hq
      simp [queueWithId]
    · simp [queueWithId, mem_held_id, hq]
  | object k => simp [queueWithId, mem_held_object, withQueues]

/-- What a creation leaves. -/
structure Created (s : DriverState) (type : BceQueueType) (o : CreateOutcome) (r : Option Nat)
    (s' : DriverState) : Prop where
  kept : s.Kept s'
  done : ∀ p, r = some p → ∃ qid, BCE_QUEUE_USER_MIN ≤ qid ∧
    Acquires held (queueWithId p ⟨qid, type⟩) s s'
  failed : r = none → ∃ L, o.Loses L ∧ Acquires held L s s'

theorem Created.of_none {L : Set Resource} (hkept : s.Kept s') (hL : o.Loses L)
    (hacq : Acquires held L s s') : s.Created type o none s' where
  kept := hkept
  done p h := absurd h.symm (Option.some_ne_none p)
  failed _ := ⟨L, hL, hacq⟩

theorem bceCreateQueue_created {r : Option Nat} {dev : QueueDevice}
    (h : s.toQueueDevice.bceCreateQueue type o = some (r, dev)) :
    s.Created type o r (s.withQueues dev) := by
  unfold QueueDevice.bceCreateQueue at h
  split at h
  · -- no id is left
    obtain ⟨rfl, rfl⟩ := Prod.mk.inj (Option.some.inj h)
    exact .of_none .refl (.inl rfl) .refl
  · next qid hqid =>
    obtain ⟨hida, hmin, -, hfree⟩ : o.ida = true ∧ BCE_QUEUE_USER_MIN ≤ qid ∧
        qid < BCE_QUEUE_USER_MAX ∧ s.queueIda qid = false := by
      split at hqid
      · next hida => exact ⟨hida, idaSimpleGet_spec hqid⟩
      · cases hqid
    cases hdata : o.data with
    | none =>
      -- without memory for the queue the id stays marked
      simp only [hdata, QueueDevice.bceAllocQueue, Option.bind_some] at h
      obtain ⟨rfl, rfl⟩ := Prod.mk.inj (Option.some.inj h)
      refine .of_none ⟨id, rfl, rfl, rfl⟩ (.inr ⟨hida, hdata, qid, rfl⟩) ⟨?_, ?_⟩
      · rw [Set.disjoint_singleton_right, mem_held_id, hfree]
        exact Bool.false_ne_true
      · ext r
        cases r with
        | queue p q => simp [mem_held_queue, withQueues]
        | object k => simp [mem_held_object, withQueues]
        | id qid' =>
          by_cases hq : qid' = qid
          · subst hq
            simp [mem_held_id, withQueues]
          · simp [mem_held_id, withQueues, hq]
    | some p =>
      simp only [hdata, QueueDevice.bceAllocQueue] at h
      split at h
      · next hunused =>
        simp only [Option.bind_some] at h
        split at h
        · cases h
        split at h
        · -- not registered: the queue is freed and the id given back
          obtain ⟨freed, hfreed, hr⟩ := Option.map_eq_some_iff.mp h
          obtain ⟨rfl, rfl⟩ := Prod.mk.inj hr
          obtain ⟨-, rfl⟩ := bceFreeQueue_some hfreed
          have hmem : Function.update (Function.update s.mem p (some ⟨qid, type⟩)) p none =
              s.mem := by
            rw [Function.update_idem, ← hunused, Function.update_eq_self]
          have hids : Function.update (Function.update s.queueIda qid true) qid false =
              s.queueIda := by
            rw [Function.update_idem, ← hfree, Function.update_eq_self]
          have hsame : ∀ s' : DriverState, s'.mem = s.mem → s'.queueIda = s.queueIda →
              s'.kernel = s.kernel → s'.held = s.held := by
            intro s' hm hi hk
            ext r
            cases r with
            | queue p q => rw [mem_held_queue, mem_held_queue, hm]
            | id qid => rw [mem_held_id, mem_held_id, hi]
            | object k => rw [mem_held_object, mem_held_object, hk]
          refine .of_none ⟨?_, rfl, rfl, rfl⟩ (.inl rfl) (.of_held_eq (hsame _ hmem hids rfl))
          rintro (hremoved | ⟨c, hc, hlive⟩)
          · exact .inl hremoved
          · exact .inr ⟨c, hc, (congrFun hmem c).trans hlive⟩
        · obtain ⟨rfl, rfl⟩ := Prod.mk.inj (Option.some.inj h)
          refine ⟨⟨?_, rfl, rfl, rfl⟩, ?_, fun h => absurd h (Option.some_ne_none p)⟩
          · rintro (hremoved | ⟨c, hc, hlive⟩)
            · exact .inl hremoved
            · refine .inr ⟨c, hc, ?_⟩
              have hne : c ≠ p := by
                rintro rfl
                exact absurd (hlive.symm.trans hunused) (Option.some_ne_none _)
              exact (Function.update_of_ne hne ..).trans hlive
          · intro p' hp'
            obtain rfl := Option.some.inj hp'
            refine ⟨qid, hmin, ?_, held_create rfl rfl hunused⟩
            rw [Set.disjoint_right]
            rintro r (rfl | rfl)
            · rw [mem_held_queue, hunused]
              exact (Option.some_ne_none _).symm
            · rw [mem_held_id]
              exact fun hmarked => absurd (hfree.symm.trans hmarked) Bool.false_ne_true
      · cases h

theorem bceCreateCq_created {r : Option Nat} (h : s.bceCreateCq o = some (r, s')) :
    s.Created .cq o r s' := by
  obtain ⟨⟨cq, dev⟩, hcreate, heq⟩ := Option.map_eq_some_iff.mp h
  obtain ⟨rfl, rfl⟩ := Prod.mk.inj heq
  exact bceCreateQueue_created hcreate

theorem bceCreateSq_created {cq r : Option Nat} {name : Option String} {direction : Nat}
    (h : s.bceCreateSq cq name direction o = some (r, s')) : s.Created .sq o r s' := by
  obtain ⟨⟨sq, dev⟩, hcreate, heq⟩ := Option.map_eq_some_iff.mp h
  obtain ⟨rfl, rfl⟩ := Prod.mk.inj heq
  -- arguments that are rejected: nothing happens
  have hrejected : ∀ {r : Option Nat} {dev : QueueDevice},
      some (none, s.toQueueDevice) = some (r, dev) → s.Created .sq o r (s.withQueues dev) := by
    intro r dev hr
    obtain ⟨rfl, rfl⟩ := Prod.mk.inj (Option.some.inj hr)
    exact .of_none .refl (.inl rfl) .refl
  unfold QueueDevice.bceCreateSq at hcreate
  split at hcreate
  · exact hrejected hcreate
  split at hcreate
  · exact hrejected hcreate
  split at hcreate
  · exact hrejected hcreate
  · exact bceCreateQueue_created hcreate

theorem bceDestroyQueue_releases (hready : s.Ready) (hmin : BCE_QUEUE_USER_MIN ≤ qid)
    (hheld : queueWithId p ⟨qid, type⟩ ⊆ s.held) :
    ∃ dev, s.toQueueDevice.bceDestroyQueue type p = some dev ∧
      Releases held (queueWithId p ⟨qid, type⟩) s (s.withQueues dev) ∧
      s.Kept (s.withQueues dev) := by
  have hlive : s.mem p = some ⟨qid, type⟩ := hheld (.inl rfl)
  have hcmdq : ¬(s.isBeingRemoved = false ∧ ¬s.toQueueDevice.CmdqLive) := by
    rintro ⟨hnot, hdead⟩
    obtain hremoved | ⟨c, hc, hcmd⟩ := hready
    · exact absurd (hnot.symm.trans hremoved) nofun
    · refine hdead ⟨c, hc, ?_⟩
      rw [hcmd]
      exact nofun
  let dev : QueueDevice := { s.toQueueDevice with
    queueIda := Function.update s.queueIda qid false
    mem := Function.update s.mem p none }
  refine ⟨dev, ?_, ⟨hheld, held_destroy rfl rfl hlive⟩, ⟨?_, rfl, rfl, rfl⟩⟩
  · unfold QueueDevice.bceDestroyQueue
    rw [hlive]
    simp only [ne_eq, not_true_eq_false, false_or, Nat.not_lt.mpr hmin, if_false, hcmdq]
    exact if_neg (by rw [hlive]; exact nofun)
  · rintro (hremoved | ⟨c, hc, hcmd⟩)
    · exact .inl hremoved
    · refine .inr ⟨c, hc, ?_⟩
      have hne : c ≠ p := by
        rintro rfl
        obtain ⟨rfl, -⟩ := BceQueue.mk.inj (Option.some.inj (hcmd.symm.trans hlive))
        exact absurd hmin (by decide)
      exact (Function.update_of_ne hne ..).trans hcmd

theorem bceDestroyCq_releases (hready : s.Ready) (hmin : BCE_QUEUE_USER_MIN ≤ qid)
    (hheld : queueWithId p ⟨qid, .cq⟩ ⊆ s.held) :
    ∃ s', s.bceDestroyCq (some p) = some s' ∧ Releases held (queueWithId p ⟨qid, .cq⟩) s s' ∧
      s.Kept s' := by
  obtain ⟨dev, hdestroy, hrel, hkept⟩ := bceDestroyQueue_releases hready hmin hheld
  exact ⟨_, Option.map_eq_some_iff.mpr ⟨dev, hdestroy, rfl⟩, hrel, hkept⟩

theorem bceDestroySq_releases (hready : s.Ready) (hmin : BCE_QUEUE_USER_MIN ≤ qid)
    (hheld : queueWithId p ⟨qid, .sq⟩ ⊆ s.held) :
    ∃ s', s.bceDestroySq (some p) = some s' ∧ Releases held (queueWithId p ⟨qid, .sq⟩) s s' ∧
      s.Kept s' := by
  obtain ⟨dev, hdestroy, hrel, hkept⟩ := bceDestroyQueue_releases hready hmin hheld
  exact ⟨_, Option.map_eq_some_iff.mpr ⟨dev, hdestroy, rfl⟩, hrel, hkept⟩

/-- A queue that is not live is not destroyed again. -/
theorem bceDestroyQueue_dead (h : s.mem p = none) :
    s.toQueueDevice.bceDestroyQueue type p = none := by
  unfold QueueDevice.bceDestroyQueue
  rw [h]

/-! ## Addresses that are not in use -/

/-- What is held of queues is no more than before. -/
theorem dead_of_held_subset {F : Set Resource} (h : s'.held ⊆ s.held ∪ F)
    (hF : ∀ q, Resource.queue p q ∉ F) (hdead : s.mem p = none) : s'.mem p = none := by
  by_contra hlive
  obtain ⟨q, hq⟩ := Option.ne_none_iff_exists'.mp hlive
  have hbefore : Resource.queue p q ∈ s.held := (h hq).resolve_right (hF q)
  rw [mem_held_queue, hdead] at hbefore
  cases hbefore

theorem release_dead (h : s.release k = some s') (hdead : s.mem p = none) : s'.mem p = none := by
  unfold release at h
  split at h
  · cases h
    exact hdead
  · cases h

theorem releaseAt_dead {k : Nat → KernelObject} {r : Option Nat} (h : s.releaseAt k r = some s')
    (hdead : s.mem p = none) : s'.mem p = none := by
  obtain ⟨r, -, h⟩ := Option.bind_eq_some_iff.mp h
  exact release_dead h hdead

theorem bceDestroyQueue_keeps_dead {dev : QueueDevice} {r : Nat}
    (h : s.toQueueDevice.bceDestroyQueue type r = some dev) (hdead : s.mem p = none) :
    dev.mem p = none := by
  unfold QueueDevice.bceDestroyQueue at h
  split at h
  · cases h
  split at h
  · cases h
  split at h
  · cases h
  obtain ⟨-, rfl⟩ := bceFreeQueue_some h
  by_cases hp : p = r
  · subst hp
    exact Function.update_self ..
  · exact (Function.update_of_ne hp ..).trans hdead

theorem bceDestroyCq_keeps_dead {cq : Option Nat} (h : s.bceDestroyCq cq = some s')
    (hdead : s.mem p = none) : s'.mem p = none := by
  obtain ⟨cq, -, h⟩ := Option.bind_eq_some_iff.mp h
  obtain ⟨dev, hdev, rfl⟩ := Option.map_eq_some_iff.mp h
  exact bceDestroyQueue_keeps_dead hdev hdead

theorem bceDestroySq_keeps_dead {sq : Option Nat} (h : s.bceDestroySq sq = some s')
    (hdead : s.mem p = none) : s'.mem p = none := by
  obtain ⟨sq, -, h⟩ := Option.bind_eq_some_iff.mp h
  obtain ⟨dev, hdev, rfl⟩ := Option.map_eq_some_iff.mp h
  exact bceDestroyQueue_keeps_dead hdev hdead

theorem bceDestroyCq_dead (h : s.mem p = none) : s.bceDestroyCq (some p) = none := by
  simp only [bceDestroyCq, Option.bind_some, QueueDevice.bceDestroyCq, bceDestroyQueue_dead h,
    Option.map_none]

/-! ## Places that are not in use -/

/-- The command queue is there, and used. -/
structure Serving (s : DriverState) : Prop where
  present : s.isBeingRemoved = false
  ready : s.Ready

theorem Serving.cmdqLive (h : s.Serving) : s.toQueueDevice.CmdqLive := by
  obtain hremoved | ⟨c, hc, hlive⟩ := h.ready
  · exact absurd (h.present.symm.trans hremoved) Bool.false_ne_true
  · refine ⟨c, hc, ?_⟩
    rw [hlive]
    exact Option.some_ne_none _

theorem Kept.serving (h : s.Kept s') (hs : s.Serving) : s'.Serving :=
  ⟨h.removed.trans hs.present, h.ready hs.ready⟩

/-- The places differ, and nothing is there. -/
structure Unused (s : DriverState) (l : List Place) : Prop where
  nodup : l.Nodup
  free : ∀ r ∈ s.held, ∀ x ∈ l, r.place? ≠ some x

section Unused

variable {l rest : List Place} {F : Set Resource} {x : Place}

theorem Unused.tail (h : s.Unused (l ++ rest)) : s.Unused rest :=
  ⟨(List.nodup_append.mp h.nodup).2.1, fun r hr x hx => h.free r hr x (List.mem_append_right l hx)⟩

/-- What comes after the places a call acquires at stays unused. -/
theorem Unused.acquires (h : s.Unused (l ++ rest)) (hacq : Acquires held F s s')
    (hF : ∀ r ∈ F, ∀ x, r.place? = some x → x ∈ l) : s'.Unused rest := by
  refine ⟨h.tail.nodup, fun r hr x hx hplace => ?_⟩
  rw [hacq.held_eq] at hr
  obtain hr | hr := hr
  · exact h.tail.free r hr x hx hplace
  · exact (List.nodup_append.mp h.nodup).2.2 x (hF r hr x hplace) x hx rfl

theorem acquire_returns (h : s.Unused (.object k :: rest)) :
    ∃ s', s.acquire k = some s' ∧ s'.Unused rest := by
  have hfree : ¬s.kernel k = true := fun hheld =>
    h.free (.object k) hheld (.object k) List.mem_cons_self rfl
  have hacquire : s.acquire k = some { s with kernel := Function.update s.kernel k true } :=
    if_neg hfree
  refine ⟨_, hacquire, Unused.acquires (l := [.object k]) h (acquire_acquires hacquire).1 ?_⟩
  rintro r rfl x hx
  exact List.mem_singleton.mpr (Option.some.inj hx).symm

theorem acquireAt_returns {k : Nat → KernelObject} {p : Option Nat}
    (h : s.Unused (placesAt (fun p => .object (k p)) p ++ rest)) :
    ∃ s', s.acquireAt k p = some s' ∧ s'.Unused rest := by
  cases p with
  | none => exact ⟨s, rfl, h⟩
  | some p => exact acquire_returns h

theorem bceCreateQueue_returns (type : BceQueueType) (hs : s.Serving)
    (h : s.Unused (o.places ++ rest)) :
    ∃ r dev, s.toQueueDevice.bceCreateQueue type o = some (r, dev) ∧
      ∀ p, r = some p → o.data = some p := by
  have hcmdq := hs.cmdqLive
  unfold QueueDevice.bceCreateQueue
  split
  · exact ⟨none, _, rfl, nofun⟩
  · next qid _ =>
    cases hdata : o.data with
    | none => exact ⟨none, _, rfl, nofun⟩
    | some p =>
      have hunused : s.mem p = none := by
        by_contra hlive
        obtain ⟨q, hq⟩ := Option.ne_none_iff_exists'.mp hlive
        refine h.free (.queue p q) hq (.queue p) ?_ rfl
        simp [CreateOutcome.places, placesAt, hdata]
      simp only [QueueDevice.bceAllocQueue, hunused, if_true, Option.bind_some, hcmdq,
        not_true_eq_false, if_false]
      split
      · -- the queue that was just allocated is freed
        refine ⟨none, _, Option.map_eq_some_iff.mpr ⟨_, if_neg ?_, rfl⟩, nofun⟩
        show ¬Function.update s.mem p (some ⟨qid, type⟩) p = none
        rw [Function.update_self]
        exact Option.some_ne_none _
      · exact ⟨some p, _, rfl, fun _ hp => hp⟩

/-- A queue that is created is at the address the kernel has answered. -/
theorem Created.unused {r : Option Nat} (hcreated : s.Created type o r s')
    (h : s.Unused (o.places ++ rest)) (hr : ∀ p, r = some p → o.data = some p) :
    s'.Unused rest := by
  cases r with
  | none =>
    obtain ⟨L, hL, hacq⟩ := hcreated.failed rfl
    refine h.acquires hacq fun r hmem x hx => ?_
    obtain rfl | ⟨-, -, qid, rfl⟩ := hL
    · exact hmem.elim
    · obtain rfl : r = .id qid := hmem
      cases hx
  | some p =>
    obtain ⟨qid, -, hacq⟩ := hcreated.done p rfl
    refine h.acquires hacq fun r hmem x hx => ?_
    obtain rfl | rfl := hmem
    · obtain rfl := Option.some.inj hx
      simp [CreateOutcome.places, placesAt, hr p rfl]
    · cases hx

theorem bceCreateCq_returns (hs : s.Serving) (h : s.Unused (o.places ++ rest)) :
    ∃ r s', s.bceCreateCq o = some (r, s') ∧ s'.Unused rest := by
  obtain ⟨r, dev, hcreate, hr⟩ := bceCreateQueue_returns .cq hs h
  have hcq : s.bceCreateCq o = some (r, s.withQueues dev) :=
    Option.map_eq_some_iff.mpr ⟨_, hcreate, rfl⟩
  exact ⟨r, _, hcq, (bceCreateCq_created hcq).unused h hr⟩

theorem bceCreateSq_returns (cq : Option Nat) (name : Option String) (direction : Nat)
    (hs : s.Serving) (h : s.Unused (o.places ++ rest)) :
    ∃ r s', s.bceCreateSq cq name direction o = some (r, s') ∧ s'.Unused rest := by
  obtain ⟨r, dev, hcreate, hr⟩ : ∃ r dev,
      s.toQueueDevice.bceCreateSq cq name direction o = some (r, dev) ∧
        ∀ p, r = some p → o.data = some p := by
    unfold QueueDevice.bceCreateSq
    split
    · exact ⟨none, _, rfl, nofun⟩
    split
    · exact ⟨none, _, rfl, nofun⟩
    split
    · exact ⟨none, _, rfl, nofun⟩
    · exact bceCreateQueue_returns .sq hs h
  have hsq : s.bceCreateSq cq name direction o = some (r, s.withQueues dev) :=
    Option.map_eq_some_iff.mpr ⟨_, hcreate, rfl⟩
  exact ⟨r, _, hsq, (bceCreateSq_created hsq).unused h hr⟩

end Unused

end DriverState

end BceDriver
