import BceDriver.Queue.Completion
import BceDriver.Lib.StepSystem

/-!
# The queues of a device (`dev->queues`)

Queues are created, registered under their `qid` in `dev->queues`, and destroyed. The
interrupt handler follows the pointers of the table.

- `mem` is the memory: the queues that are allocated and not freed, by address. Every
  result of an allocation and of a register command is an outcome of the operation; an
  address given out is not in use. A step is `none` where the code faults, or is called
  in a way its callers never do.
- `QueueDevice.Consistent`: the table has every live queue and nothing else.
- `queue_table`: it is so in every run without the operations that break it, and each
  of these breaks it at once.
-/

namespace BceDriver

def BCE_QUEUE_USER_MIN : Nat := 2
def BCE_QUEUE_USER_MAX : Nat := BCE_MAX_QUEUE_COUNT - 1

def DMA_TO_DEVICE : Nat := 1
def DMA_FROM_DEVICE : Nat := 2

/-- `bce_queue_type` -/
inductive BceQueueType where
  | cq
  | sq
deriving DecidableEq, Repr

structure BceQueue where
  qid : Nat
  type : BceQueueType
deriving DecidableEq, Repr

/-- The part of `apple_bce_device` that knows the queues. -/
structure QueueDevice where
  queues : Nat → Option Nat
  mem : Nat → Option BceQueue
  queueIda : Nat → Bool
  cmdCq : Option Nat
  /-- `cmd_cmdq`, by the address of its `sq` -/
  cmdCmdq : Option Nat
  isBeingRemoved : Bool

/-- The device as `apple_bce_probe` allocates it -/
def queueDeviceInit : QueueDevice where
  queues := fun _ => none
  mem := fun _ => none
  queueIda := fun _ => false
  cmdCq := none
  cmdCmdq := none
  isBeingRemoved := false

/-- `ida_simple_get`, when it has memory: the first free id -/
def idaSimpleGet (ida : Nat → Bool) (start stop : Nat) : Option Nat :=
  (List.range' start (stop - start)).find? fun qid => !ida qid

/-! ## Allocating and freeing -/

namespace QueueDevice

variable (dev : QueueDevice)

/-- `bce_alloc_cq` and `bce_alloc_sq`: the pointer returned, `data` the address if
`dma_alloc_coherent` succeeds. -/
def bceAllocQueue (type : BceQueueType) (qid : Nat) :
    Option Nat → Option (Option Nat × QueueDevice)
  | none => some (none, dev)
  | some p =>
    if dev.mem p = none then
      some (some p, { dev with mem := Function.update dev.mem p (some ⟨qid, type⟩) })
    else none

def bceAllocCq : Nat → Option Nat → Option (Option Nat × QueueDevice) :=
  dev.bceAllocQueue .cq

def bceAllocSq : Nat → Option Nat → Option (Option Nat × QueueDevice) :=
  dev.bceAllocQueue .sq

/-- `bce_alloc_cmdq`; the `sq` stays allocated when there is no memory for `tres`. -/
def bceAllocCmdq (qid : Nat) (data : Option Nat) (tres : Bool) :
    Option (Option Nat × QueueDevice) :=
  match dev.bceAllocSq qid data with
  | none => none
  | some (none, dev) => some (none, dev)
  | some (some p, dev) => some (if tres then some p else none, dev)

/-- `bce_free_cq` and `bce_free_sq` -/
def bceFreeQueue (p : Nat) : Option QueueDevice :=
  if dev.mem p = none then none else some { dev with mem := Function.update dev.mem p none }

/-- A free that is skipped for a null pointer. -/
def bceFreeIf : Option Nat → Option QueueDevice
  | none => some dev
  | some p => dev.bceFreeQueue p

end QueueDevice

/-- `cmd_cmdq` is there for `bce_cmd_register_queue` and its like to use. -/
def QueueDevice.CmdqLive (dev : QueueDevice) : Prop :=
  ∃ p ∈ dev.cmdCmdq, dev.mem p ≠ none

instance (dev : QueueDevice) : Decidable dev.CmdqLive :=
  inferInstanceAs (Decidable (∃ p ∈ dev.cmdCmdq, dev.mem p ≠ none))

/-! ## The operations -/

/-- What the device and the allocator answer `bce_create_command_queues`. -/
structure CommandQueuesOutcome where
  cq : Option Nat
  sq : Option Nat
  tres : Bool
  cfg : Bool
  registerCq : Int
  registerSq : Int
deriving DecidableEq, Repr

/-- The same for `bce_create_cq` and `bce_create_sq`. -/
structure CreateOutcome where
  ida : Bool
  data : Option Nat
  register : Nat
deriving DecidableEq, Repr

namespace QueueDevice

variable (dev : QueueDevice)

/-- The label `err` of `bce_create_command_queues` -/
def commandQueuesErr (status : Int) : Option (Int × QueueDevice) :=
  (dev.bceFreeIf dev.cmdCq).bind fun dev =>
    (dev.bceFreeIf dev.cmdCmdq).map fun dev => (status, dev)

/-- `bce_create_command_queues`, from the assignments to `queues` on -/
def registerCommandQueues (cq sq : Nat) (o : CommandQueuesOutcome) : Option (Int × QueueDevice) :=
  let dev := { dev with
    queues := Function.update (Function.update dev.queues 0 (some cq)) 1 (some sq) }
  if o.cfg = false then dev.commandQueuesErr (-ENOMEM)
  else if o.registerCq ≠ 0 then dev.commandQueuesErr o.registerCq
  else if o.registerSq ≠ 0 then dev.commandQueuesErr o.registerSq
  else some (0, dev)

def bceCreateCommandQueues (o : CommandQueuesOutcome) : Option (Int × QueueDevice) :=
  (dev.bceAllocCq 0 o.cq).bind fun (cmdCq, dev) =>
    (dev.bceAllocCmdq 1 o.sq o.tres).bind fun (cmdCmdq, dev) =>
      let dev := { dev with cmdCq, cmdCmdq }
      match cmdCq, cmdCmdq with
      | some cq, some sq => dev.registerCommandQueues cq sq o
      | _, _ => dev.commandQueuesErr (-ENOMEM)

def bceFreeCommandQueues : Option QueueDevice :=
  match dev.cmdCq, dev.cmdCmdq with
  | some cq, some sq =>
    (dev.bceFreeQueue cq).bind fun dev => (dev.bceFreeQueue sq).map fun dev =>
      { dev with cmdCq := none, queues := Function.update dev.queues 0 none }
  | _, _ => none

/-- `bce_create_cq`, and `bce_create_sq` past the checks of its arguments -/
def bceCreateQueue (type : BceQueueType) (o : CreateOutcome) : Option (Option Nat × QueueDevice) :=
  match if o.ida then idaSimpleGet dev.queueIda BCE_QUEUE_USER_MIN BCE_QUEUE_USER_MAX else none with
  | none => some (none, dev)
  | some qid =>
    let marked := { dev with queueIda := Function.update dev.queueIda qid true }
    (marked.bceAllocQueue type qid o.data).bind fun
      | (none, allocated) => some (none, allocated)
      | (some p, allocated) =>
        if ¬dev.CmdqLive then none
        else if o.register ≠ 0 then
          (allocated.bceFreeQueue p).map fun freed =>
            (none, { freed with queueIda := Function.update freed.queueIda qid false })
        else
          some (some p, { allocated with queues := Function.update allocated.queues qid (some p) })

def bceCreateCq (o : CreateOutcome) : Option (Option Nat × QueueDevice) :=
  dev.bceCreateQueue .cq o

def bceCreateSq (cq : Option Nat) (name : Option String) (direction : Nat) (o : CreateOutcome) :
    Option (Option Nat × QueueDevice) :=
  if cq = none then some (none, dev)
  else if name = none then some (none, dev)
  else if direction ≠ DMA_TO_DEVICE ∧ direction ≠ DMA_FROM_DEVICE then some (none, dev)
  else dev.bceCreateQueue .sq o

/-- `bce_destroy_cq` and `bce_destroy_sq`, of a queue that was created and not destroyed;
what the unregister command returns is only logged. -/
def bceDestroyQueue (type : BceQueueType) (p : Nat) : Option QueueDevice :=
  match dev.mem p with
  | none => none
  | some q =>
    if q.type ≠ type ∨ q.qid < BCE_QUEUE_USER_MIN then none
    else if dev.isBeingRemoved = false ∧ ¬dev.CmdqLive then none
    else
      let dev := { dev with queueIda := Function.update dev.queueIda q.qid false }
      dev.bceFreeQueue p

def bceDestroyCq : Nat → Option QueueDevice :=
  dev.bceDestroyQueue .cq

def bceDestroySq : Nat → Option QueueDevice :=
  dev.bceDestroyQueue .sq

/-- The queues `bce_handle_dma_irq` looks at. -/
def bceHandleDmaIrqScan : List Nat :=
  (List.range BCE_MAX_QUEUE_COUNT).filterMap dev.queues

/-- The queue `bce_handle_cq_completion` looks at, for an entry with `qid`. -/
def completionTarget (qid : Nat) : Option Nat :=
  if qid ≥ BCE_MAX_QUEUE_COUNT then none else dev.queues qid

end QueueDevice

inductive QueueOp where
  | createCommandQueues (o : CommandQueuesOutcome)
  | freeCommandQueues
  | createCq (o : CreateOutcome)
  | createSq (cq : Option Nat) (name : Option String) (direction : Nat) (o : CreateOutcome)
  | destroyCq (p : Nat)
  | destroySq (p : Nat)
  /-- `apple_bce_remove` begins -/
  | remove
deriving DecidableEq, Repr

def queueStep : QueueOp → QueueDevice → Option QueueDevice
  | .createCommandQueues o, dev =>
    -- once for a device
    if dev.cmdCq = none ∧ dev.cmdCmdq = none then (dev.bceCreateCommandQueues o).map Prod.snd
    else none
  | .freeCommandQueues, dev => dev.bceFreeCommandQueues
  | .createCq o, dev => (dev.bceCreateCq o).map Prod.snd
  | .createSq cq name direction o, dev => (dev.bceCreateSq cq name direction o).map Prod.snd
  | .destroyCq p, dev => dev.bceDestroyCq p
  | .destroySq p, dev => dev.bceDestroySq p
  | .remove, dev => some { dev with isBeingRemoved := true }

def queueSystem : StepSystem QueueDevice QueueOp where
  init dev := dev = queueDeviceInit
  step := queueStep

/-! ## What an operation does -/

/-- The operation keeps the table. A destroyed queue stays in it; so do the command
queues if they are freed after they were entered, and the submission queue of the command
queue is lost when there is no memory for `tres`. -/
def QueueOp.Keeps : QueueOp → Prop
  | .createCommandQueues o => o.sq ≠ none → o.tres = true ∧
    (o.cq ≠ none → o.cfg = true ∧ o.registerCq = 0 ∧ o.registerSq = 0)
  | .freeCommandQueues | .destroyCq _ | .destroySq _ => False
  | .createCq _ | .createSq _ _ _ _ | .remove => True

instance : DecidablePred QueueOp.Keeps
  | .createCommandQueues o => inferInstanceAs (Decidable (o.sq ≠ none → _ ∧ (o.cq ≠ none → _)))
  | .freeCommandQueues | .destroyCq _ | .destroySq _ => .isFalse id
  | .createCq _ | .createSq _ _ _ _ | .remove => .isTrue trivial

inductive QueueEffect (op : QueueOp) (dev dev' : QueueDevice) : Prop where
  | kept : op.Keeps → dev'.queues = dev.queues → dev'.mem = dev.mem →
      (∀ qid, dev.queueIda qid = true → dev'.queueIda qid = true) →
      (dev.cmdCmdq ≠ none → dev'.cmdCmdq = dev.cmdCmdq) →
      (dev.cmdCmdq = none → ∀ c, dev'.cmdCmdq = some c → dev.mem c = none) →
      QueueEffect op dev dev'
  | created {qid p c : Nat} {type : BceQueueType} : op.Keeps → BCE_QUEUE_USER_MIN ≤ qid →
      qid < BCE_MAX_QUEUE_COUNT → dev.queueIda qid = false → dev.mem p = none →
      dev.cmdCmdq = some c → dev.mem c ≠ none →
      dev' = { dev with
        queues := Function.update dev.queues qid (some p)
        mem := Function.update dev.mem p (some ⟨qid, type⟩)
        queueIda := Function.update dev.queueIda qid true } → QueueEffect op dev dev'
  | entered {cq sq : Nat} : op.Keeps → dev.cmdCmdq = none → dev.mem cq = none →
      dev.mem sq = none → sq ≠ cq →
      dev' = { dev with
        queues := Function.update (Function.update dev.queues 0 (some cq)) 1 (some sq)
        mem := Function.update (Function.update dev.mem cq (some ⟨0, .cq⟩)) sq (some ⟨1, .sq⟩)
        cmdCq := some cq
        cmdCmdq := some sq } → QueueEffect op dev dev'
  /-- a queue that is live and not in the table -/
  | leaked {p : Nat} : ¬op.Keeps → dev.cmdCmdq = none → dev'.queues = dev.queues →
      dev'.mem p = some ⟨1, .sq⟩ → QueueEffect op dev dev'
  /-- a queue that was entered and is freed -/
  | stale {qid p : Nat} : ¬op.Keeps → qid < BCE_MAX_QUEUE_COUNT → dev'.queues qid = some p →
      dev'.mem p = none → QueueEffect op dev dev'
  | destroyed {p : Nat} {q : BceQueue} : ¬op.Keeps → dev.mem p = some q →
      dev'.queues = dev.queues → dev'.mem p = none → QueueEffect op dev dev'
  | freed {sq : Nat} : ¬op.Keeps → dev.cmdCmdq = some sq → dev.mem sq ≠ none →
      dev'.queues 1 = dev.queues 1 → dev'.mem sq = none → QueueEffect op dev dev'

theorem idaSimpleGet_spec {ida : Nat → Bool} {start stop qid : Nat}
    (h : idaSimpleGet ida start stop = some qid) :
    start ≤ qid ∧ qid < stop ∧ ida qid = false := by
  have hmem := List.mem_of_find?_eq_some h
  have hfree := List.find?_some h
  rw [List.mem_range'_1] at hmem
  exact ⟨hmem.1, by omega, by simpa using hfree⟩

theorem bceFreeQueue_some {dev dev' : QueueDevice} {p : Nat} (h : dev.bceFreeQueue p = some dev') :
    dev.mem p ≠ none ∧ dev' = { dev with mem := Function.update dev.mem p none } := by
  unfold QueueDevice.bceFreeQueue at h
  split at h
  · cases h
  · next hlive =>
    cases h
    exact ⟨hlive, rfl⟩

theorem bceCreateQueue_effect {op : QueueOp} {dev : QueueDevice} {type : BceQueueType}
    {o : CreateOutcome} {r : Option Nat × QueueDevice} (hop : op.Keeps)
    (h : dev.bceCreateQueue type o = some r) : QueueEffect op dev r.2 := by
  unfold QueueDevice.bceCreateQueue at h
  split at h
  · cases h
    exact .kept hop rfl rfl (fun _ => id) (fun _ => rfl) fun hnone c hc => by simp [hnone] at hc
  · next qid hqid =>
    obtain ⟨hmin, hmax, hfree⟩ : BCE_QUEUE_USER_MIN ≤ qid ∧ qid < BCE_QUEUE_USER_MAX ∧
        dev.queueIda qid = false := by
      split at hqid
      · exact idaSimpleGet_spec hqid
      · cases hqid
    have hmarked : ∀ q, dev.queueIda q = true → Function.update dev.queueIda qid true q = true := by
      intro q hq
      by_cases hqq : q = qid
      · subst hqq
        simp
      · rwa [Function.update_of_ne hqq]
    have hsame : dev.cmdCmdq = none → ∀ c, dev.cmdCmdq = some c → dev.mem c = none :=
      fun hnone c hc => absurd (hnone.symm.trans hc) nofun
    -- without memory for the queue the id stays marked
    cases hdata : o.data with
    | none =>
      simp only [hdata, QueueDevice.bceAllocQueue, Option.bind_some] at h
      cases h
      exact .kept hop rfl rfl hmarked (fun _ => rfl) hsame
    | some p =>
      simp only [hdata, QueueDevice.bceAllocQueue] at h
      split at h
      · next hunused =>
        simp only [Option.bind_some] at h
        split at h
        · cases h
        · next hlive =>
          obtain ⟨c, hc, hmem⟩ := not_not.mp hlive
          split at h
          · -- not registered: the queue is freed and the id given back
            obtain ⟨freed, hfreed, rfl⟩ := Option.map_eq_some_iff.mp h
            obtain ⟨-, rfl⟩ := bceFreeQueue_some hfreed
            refine .kept hop rfl ?_ ?_ (fun _ => rfl) hsame
            · show Function.update (Function.update dev.mem p _) p none = dev.mem
              rw [Function.update_idem, ← hunused, Function.update_eq_self]
            · show ∀ q, _ →
                Function.update (Function.update dev.queueIda qid true) qid false q = true
              rw [Function.update_idem, ← hfree, Function.update_eq_self]
              exact fun _ => id
          · cases h
            have hlt : qid < BCE_MAX_QUEUE_COUNT := hmax.trans (by decide)
            exact .created hop hmin hlt hfree hunused hc hmem rfl
      · cases h

/-- The error path frees what was allocated and leaves the table. -/
theorem commandQueuesErr_some {dev : QueueDevice} {status : Int} {r : Int × QueueDevice}
    (h : dev.commandQueuesErr status = some r) : r.2 = { dev with
      mem := fun p => if dev.cmdCq = some p ∨ dev.cmdCmdq = some p then none else dev.mem p } := by
  have hfree : ∀ {dev dev' : QueueDevice} {a : Option Nat}, dev.bceFreeIf a = some dev' →
      dev' = { dev with mem := fun p => if a = some p then none else dev.mem p } := by
    intro dev dev' a ha
    cases a with
    | none =>
      cases ha
      rfl
    | some p =>
      obtain ⟨-, rfl⟩ := bceFreeQueue_some ha
      congr 1
      funext p'
      by_cases hp : p' = p
      · subst hp
        simp
      · simp [Function.update_of_ne hp, Ne.symm hp]
  obtain ⟨dev₁, h₁, h⟩ := Option.bind_eq_some_iff.mp h
  obtain ⟨dev₂, h₂, rfl⟩ := Option.map_eq_some_iff.mp h
  rw [hfree h₂, hfree h₁]
  simp only [QueueDevice.mk.injEq, true_and, and_true]
  funext p
  by_cases hcq : dev.cmdCq = some p
  · simp [hcq]
  · simp [hcq]

theorem registerCommandQueues_effect {dev dev₀ : QueueDevice} {o : CommandQueuesOutcome}
    {cq sq : Nat} {r : Int × QueueDevice} (hcq : o.cq = some cq) (hsq : o.sq = some sq)
    (htres : o.tres = true) (hnone : dev₀.cmdCmdq = none) (hunused : dev₀.mem cq = none)
    (hunused' : dev₀.mem sq = none) (hne : sq ≠ cq)
    (hdev : dev = { dev₀ with
      mem := Function.update (Function.update dev₀.mem cq (some ⟨0, .cq⟩)) sq (some ⟨1, .sq⟩)
      cmdCq := some cq
      cmdCmdq := some sq })
    (h : dev.registerCommandQueues cq sq o = some r) :
    QueueEffect (.createCommandQueues o) dev₀ r.2 := by
  subst hdev
  -- whatever failed, the entry of the completion queue stays
  have herr : ∀ {status : Int}, (o.cfg = true ∧ o.registerCq = 0 → o.registerSq ≠ 0) →
      QueueDevice.commandQueuesErr { dev₀ with
        mem := Function.update (Function.update dev₀.mem cq (some ⟨0, .cq⟩)) sq (some ⟨1, .sq⟩)
        cmdCq := some cq
        cmdCmdq := some sq
        queues := Function.update (Function.update dev₀.queues 0 (some cq)) 1 (some sq) }
          status = some r →
      QueueEffect (.createCommandQueues o) dev₀ r.2 := by
    intro status hfail herr
    have hr := commandQueuesErr_some herr
    refine @QueueEffect.stale _ _ _ 0 cq ?_ (by decide) ?_ ?_
    · intro hkeeps
      obtain ⟨-, hkeeps⟩ := hkeeps (by simp [hsq])
      obtain ⟨hcfg, hregister, hregister'⟩ := hkeeps (by simp [hcq])
      exact hfail ⟨hcfg, hregister⟩ hregister'
    · rw [hr]
      rfl
    · rw [hr]
      exact if_pos (.inl rfl)
  unfold QueueDevice.registerCommandQueues at h
  simp only at h
  split at h
  · next hcfg => exact herr (fun hok => absurd (hcfg.symm.trans hok.1) nofun) h
  · next hcfg =>
    split at h
    · next hregister => exact herr (fun hok => absurd hok.2 hregister) h
    · next hregister =>
      split at h
      · next hregister' => exact herr (fun _ => hregister') h
      · next hregister' =>
        cases h
        refine .entered ?_ hnone hunused hunused' hne rfl
        exact fun _ => ⟨htres, fun _ => ⟨Bool.eq_true_of_not_eq_false hcfg, not_not.mp hregister,
          not_not.mp hregister'⟩⟩

theorem bceAllocQueue_some {dev dev' : QueueDevice} {type : BceQueueType} {qid : Nat}
    {data a : Option Nat} (h : dev.bceAllocQueue type qid data = some (a, dev')) :
    (data = none ∧ a = none ∧ dev' = dev) ∨
      ∃ p, data = some p ∧ a = some p ∧ dev.mem p = none ∧
        dev' = { dev with mem := Function.update dev.mem p (some ⟨qid, type⟩) } := by
  cases data with
  | none =>
    cases h
    exact .inl ⟨rfl, rfl, rfl⟩
  | some p =>
    simp only [QueueDevice.bceAllocQueue] at h
    split at h
    · next hunused =>
      cases h
      exact .inr ⟨p, rfl, rfl, hunused, rfl⟩
    · cases h

theorem bceAllocCmdq_some {dev dev' : QueueDevice} {qid : Nat} {data a : Option Nat} {tres : Bool}
    (h : dev.bceAllocCmdq qid data tres = some (a, dev')) :
    (data = none ∧ a = none ∧ dev' = dev) ∨
      ∃ p, data = some p ∧ a = (if tres then some p else none) ∧ dev.mem p = none ∧
        dev' = { dev with mem := Function.update dev.mem p (some ⟨qid, .sq⟩) } := by
  unfold QueueDevice.bceAllocCmdq at h
  split at h
  · cases h
  · next hsq =>
    cases h
    obtain ⟨hdata, -, hdev⟩ | ⟨p, -, hp, -⟩ := bceAllocQueue_some hsq
    · exact .inl ⟨hdata, rfl, hdev⟩
    · cases hp
  · next hsq =>
    cases h
    obtain ⟨-, hp, -⟩ | ⟨p, hdata, hp, hunused, hdev⟩ := bceAllocQueue_some hsq
    · cases hp
    · cases hp
      exact .inr ⟨_, hdata, rfl, hunused, hdev⟩

theorem bceCreateCommandQueues_effect {dev : QueueDevice} {o : CommandQueuesOutcome}
    {r : Int × QueueDevice} (hnone : dev.cmdCmdq = none)
    (h : dev.bceCreateCommandQueues o = some r) :
    QueueEffect (.createCommandQueues o) dev r.2 := by
  have hcmdq : dev.cmdCmdq ≠ none → r.2.cmdCmdq = dev.cmdCmdq := fun hne => absurd hnone hne
  obtain ⟨⟨cmdCq, dev₁⟩, hcq, hrest⟩ := Option.bind_eq_some_iff.mp h
  obtain ⟨⟨cmdCmdq, dev₂⟩, hsq, hr⟩ := Option.bind_eq_some_iff.mp hrest
  obtain ⟨hdata, rfl, rfl⟩ | ⟨cq, hdata, rfl, hunused, rfl⟩ := bceAllocQueue_some hcq
  · obtain ⟨hdata', rfl, rfl⟩ | ⟨sq, hdata', rfl, hunused', rfl⟩ := bceAllocCmdq_some hsq
    · -- neither was allocated
      have hr := commandQueuesErr_some hr
      refine .kept (fun hsq => absurd hdata' hsq) ?_ ?_ ?_ hcmdq fun _ c hc => ?_
      · rw [hr]
      · simp [hr]
      · rw [hr]
        exact fun _ => id
      · rw [hr] at hc
        cases hc
    · have hr := commandQueuesErr_some hr
      cases htres : o.tres with
      -- the submission queue is live, and nothing points to it
      | false =>
        rw [htres] at hr
        refine .leaked (p := sq) ?_ hnone (by rw [hr]) (by simp [hr])
        exact fun hkeeps => absurd (htres.symm.trans (hkeeps (by simp [hdata'])).1) nofun
      | true =>
        rw [htres] at hr
        refine .kept (fun _ => ⟨htres, fun hcq => absurd hdata hcq⟩) (by rw [hr]) ?_ ?_ hcmdq
          fun _ c hc => ?_
        · rw [hr]
          funext p
          by_cases hp : p = sq
          · simp [hp, hunused']
          · simp [Function.update_of_ne hp, Ne.symm hp]
        · rw [hr]
          exact fun _ => id
        · rw [hr] at hc
          cases hc
          exact hunused'
  · obtain ⟨hdata', rfl, rfl⟩ | ⟨sq, hdata', rfl, hunused', rfl⟩ := bceAllocCmdq_some hsq
    · have hr := commandQueuesErr_some hr
      refine .kept (fun hsq => absurd hdata' hsq) (by rw [hr]) ?_ ?_ hcmdq fun _ c hc => ?_
      · rw [hr]
        funext p
        by_cases hp : p = cq
        · simp [hp, hunused]
        · simp [Function.update_of_ne hp, Ne.symm hp]
      · rw [hr]
        exact fun _ => id
      · rw [hr] at hc
        cases hc
    · have hne : sq ≠ cq := by
        rintro rfl
        simp at hunused'
      cases htres : o.tres with
      | false =>
        rw [htres] at hr
        have hr := commandQueuesErr_some hr
        refine .leaked (p := sq) ?_ hnone (by rw [hr]) (by simp [hr, hne.symm])
        exact fun hkeeps => absurd (htres.symm.trans (hkeeps (by simp [hdata'])).1) nofun
      | true =>
        rw [htres] at hr
        have hfree : dev.mem sq = none := by simpa [Function.update_of_ne hne] using hunused'
        exact registerCommandQueues_effect hdata hdata' htres hnone hunused hfree hne rfl hr

theorem queueStep_effect {op : QueueOp} {dev dev' : QueueDevice}
    (h : queueStep op dev = some dev') : QueueEffect op dev dev' := by
  have hsame : dev.cmdCmdq = none → ∀ c, dev.cmdCmdq = some c → dev.mem c = none :=
    fun hnone c hc => absurd (hnone.symm.trans hc) nofun
  -- `bce_destroy_cq` and `bce_destroy_sq` leave the entry in the table
  have hdestroy : ∀ {type p}, ¬op.Keeps → dev.bceDestroyQueue type p = some dev' →
      QueueEffect op dev dev' := by
    intro type p hop hdestroy
    unfold QueueDevice.bceDestroyQueue at hdestroy
    split at hdestroy
    · cases hdestroy
    · next q hq =>
      split at hdestroy
      · cases hdestroy
      · split at hdestroy
        · cases hdestroy
        · obtain ⟨-, rfl⟩ := bceFreeQueue_some hdestroy
          exact .destroyed hop hq rfl (Function.update_self ..)
  cases op with
  | createCommandQueues o =>
    simp only [queueStep] at h
    split at h
    · next hnone =>
      obtain ⟨r, hr, rfl⟩ := Option.map_eq_some_iff.mp h
      exact bceCreateCommandQueues_effect hnone.2 hr
    · cases h
  | freeCommandQueues =>
    simp only [queueStep, QueueDevice.bceFreeCommandQueues] at h
    split at h
    · next cq sq hcq hsq =>
      obtain ⟨dev₁, h₁, h⟩ := Option.bind_eq_some_iff.mp h
      obtain ⟨dev₂, h₂, rfl⟩ := Option.map_eq_some_iff.mp h
      obtain ⟨-, rfl⟩ := bceFreeQueue_some h₁
      obtain ⟨hlive, rfl⟩ := bceFreeQueue_some h₂
      refine .freed id hsq ?_ ?_ ?_
      · intro hdead
        apply hlive
        by_cases hp : sq = cq
        · simp [hp]
        · simpa [Function.update_of_ne hp] using hdead
      · rfl
      · exact Function.update_self ..
    · cases h
  | createCq o =>
    obtain ⟨r, hr, rfl⟩ := Option.map_eq_some_iff.mp h
    exact bceCreateQueue_effect trivial hr
  | createSq cq name direction o =>
    obtain ⟨r, hr, rfl⟩ := Option.map_eq_some_iff.mp h
    unfold QueueDevice.bceCreateSq at hr
    split at hr
    · cases hr
      exact .kept trivial rfl rfl (fun _ => id) (fun _ => rfl) hsame
    · split at hr
      · cases hr
        exact .kept trivial rfl rfl (fun _ => id) (fun _ => rfl) hsame
      · split at hr
        · cases hr
          exact .kept trivial rfl rfl (fun _ => id) (fun _ => rfl) hsame
        · exact bceCreateQueue_effect trivial hr
  | destroyCq p => exact hdestroy id h
  | destroySq p => exact hdestroy id h
  | remove =>
    cases h
    exact .kept trivial rfl rfl (fun _ => id) (fun _ => rfl) hsame

/-! ## The table -/

/-- The entry of `dev->queues` at a `qid` is the live queue with that `qid`. -/
def QueueDevice.Consistent (dev : QueueDevice) : Prop :=
  ∀ qid < BCE_MAX_QUEUE_COUNT, ∀ p,
    dev.queues qid = some p ↔ ∃ type, dev.mem p = some ⟨qid, type⟩

structure QueueDevice.Ok (dev : QueueDevice) : Prop where
  consistent : dev.Consistent
  bound : ∀ p q, dev.mem p = some q → q.qid < BCE_MAX_QUEUE_COUNT
  ida : ∀ p q, dev.mem p = some q → BCE_QUEUE_USER_MIN ≤ q.qid → dev.queueIda q.qid = true
  command : ∀ p q, dev.mem p = some q → q.qid < BCE_QUEUE_USER_MIN → dev.cmdCmdq ≠ none
  cmdq : ∀ p, dev.cmdCmdq = some p → dev.mem p = none ∨ dev.mem p = some ⟨1, .sq⟩

/-- Entering a new queue under a `qid` no live queue has. -/
theorem QueueDevice.Consistent.enter {dev : QueueDevice} (h : dev.Consistent) {qid p : Nat}
    {type : BceQueueType} (hunused : dev.mem p = none)
    (hfree : ∀ p' type', dev.mem p' ≠ some ⟨qid, type'⟩) {dev' : QueueDevice}
    (hqueues : dev'.queues = Function.update dev.queues qid (some p))
    (hmem : dev'.mem = Function.update dev.mem p (some ⟨qid, type⟩)) : dev'.Consistent := by
  intro qid' hlt p'
  rw [hqueues, hmem]
  -- the entry written, the address written, or neither
  by_cases hq : qid' = qid
  · subst hq
    rw [Function.update_self]
    by_cases hp : p' = p
    · subst hp
      simp
    · rw [Function.update_of_ne hp]
      constructor
      · exact fun heq => absurd (Option.some.inj heq).symm hp
      · rintro ⟨type', hlive⟩
        exact absurd hlive (hfree p' type')
  · rw [Function.update_of_ne hq]
    by_cases hp : p' = p
    · subst hp
      rw [Function.update_self]
      constructor
      · intro hentry
        obtain ⟨type', hlive⟩ := (h qid' hlt p').mp hentry
        exact absurd (hunused.symm.trans hlive) nofun
      · rintro ⟨type', hlive⟩
        exact absurd (BceQueue.mk.inj (Option.some.inj hlive)).1.symm hq
    · rw [Function.update_of_ne hp]
      exact h qid' hlt p'

/-- A queue that is live once `q₀` is written at `p` is `q₀`, or was live before. -/
theorem live_of_update {mem : Nat → Option BceQueue} {p p' : Nat} {q q₀ : BceQueue}
    (h : Function.update mem p (some q₀) p' = some q) :
    (p' = p ∧ q = q₀) ∨ (p' ≠ p ∧ mem p' = some q) := by
  by_cases hp : p' = p
  · subst hp
    rw [Function.update_self] at h
    exact .inl ⟨rfl, (Option.some.inj h).symm⟩
  · rw [Function.update_of_ne hp] at h
    exact .inr ⟨hp, h⟩

/-- A created queue has an id of its own, which is allocated. -/
theorem QueueDevice.Ok.created {dev : QueueDevice} (h : dev.Ok) {qid p c : Nat}
    {type : BceQueueType} (hmin : BCE_QUEUE_USER_MIN ≤ qid) (hmax : qid < BCE_MAX_QUEUE_COUNT)
    (hfree : dev.queueIda qid = false) (hunused : dev.mem p = none)
    (hc : dev.cmdCmdq = some c) (hlive : dev.mem c ≠ none) : { dev with
      queueIda := Function.update dev.queueIda qid true
      queues := Function.update dev.queues qid (some p)
      mem := Function.update dev.mem p (some ⟨qid, type⟩) : QueueDevice }.Ok where
  consistent := by
    refine h.consistent.enter hunused (fun p' type' hp' => ?_) rfl rfl
    exact absurd (hfree.symm.trans (h.ida p' _ hp' hmin)) nofun
  bound p' q hq := by
    obtain ⟨rfl, rfl⟩ | ⟨-, hq⟩ := live_of_update hq
    · exact hmax
    · exact h.bound p' q hq
  ida p' q hq hqmin := by
    show Function.update dev.queueIda qid true q.qid = true
    obtain ⟨rfl, rfl⟩ | ⟨-, hq⟩ := live_of_update hq
    · exact Function.update_self ..
    · by_cases hqid : q.qid = qid
      · rw [hqid, Function.update_self]
      · rw [Function.update_of_ne hqid]
        exact h.ida p' q hq hqmin
  command _ _ _ _ hnone := absurd (hc.symm.trans hnone) nofun
  cmdq p' hp' := by
    show Function.update dev.mem p _ p' = none ∨ Function.update dev.mem p _ p' = _
    obtain rfl : c = p' := Option.some.inj (hc.symm.trans hp')
    have hp : c ≠ p := by
      rintro rfl
      exact hlive hunused
    rw [Function.update_of_ne hp]
    exact h.cmdq c hc

/-- The two command queues are entered under the ids `0` and `1`. -/
theorem QueueDevice.Ok.entered {dev : QueueDevice} (h : dev.Ok) {cq sq : Nat}
    (hnone : dev.cmdCmdq = none) (hunused : dev.mem cq = none) (hunused' : dev.mem sq = none)
    (hne : sq ≠ cq) : { dev with
      cmdCq := some cq
      cmdCmdq := some sq
      queues := Function.update (Function.update dev.queues 0 (some cq)) 1 (some sq)
      mem := Function.update (Function.update dev.mem cq (some ⟨0, .cq⟩)) sq
        (some ⟨1, .sq⟩) : QueueDevice }.Ok := by
  -- there is no cmd_cmdq yet, so no live queue has one of its two ids
  have hfree : ∀ p q, dev.mem p = some q → BCE_QUEUE_USER_MIN ≤ q.qid := by
    intro p q hq
    by_contra hlt
    exact h.command p q hq (Nat.lt_of_not_le hlt) hnone
  let first : QueueDevice := { dev with
    queues := Function.update dev.queues 0 (some cq)
    mem := Function.update dev.mem cq (some ⟨0, .cq⟩) }
  have hfirst : first.Consistent :=
    h.consistent.enter hunused
      (fun p type hp => absurd (hfree p _ hp) (by decide : ¬BCE_QUEUE_USER_MIN ≤ 0)) rfl rfl
  have hlive : ∀ p q, Function.update (Function.update dev.mem cq (some ⟨0, .cq⟩)) sq
      (some ⟨1, .sq⟩) p = some q → q = ⟨1, .sq⟩ ∨ q = ⟨0, .cq⟩ ∨ dev.mem p = some q := by
    intro p q hq
    obtain ⟨-, hsq⟩ | ⟨-, hq⟩ := live_of_update hq
    · exact .inl hsq
    · obtain ⟨-, hcq⟩ | ⟨-, hq⟩ := live_of_update hq
      · exact .inr (.inl hcq)
      · exact .inr (.inr hq)
  refine ⟨@QueueDevice.Consistent.enter first hfirst 1 sq .sq ?_ ?_ _ rfl rfl, ?_, ?_, ?_, ?_⟩
  · exact (Function.update_of_ne hne ..).trans hunused'
  · intro p type hp
    obtain ⟨-, hq⟩ | ⟨-, hp⟩ := live_of_update hp
    · cases hq
    · exact absurd (hfree p _ hp) (by decide : ¬BCE_QUEUE_USER_MIN ≤ 1)
  · intro p q hq
    obtain rfl | rfl | hq := hlive p q hq
    · decide
    · decide
    · exact h.bound p q hq
  · intro p q hq hmin
    obtain rfl | rfl | hq := hlive p q hq
    · exact absurd hmin (by decide)
    · exact absurd hmin (by decide)
    · exact h.ida p q hq hmin
  · exact fun _ _ _ _ => nofun
  · intro p hp
    obtain rfl := Option.some.inj hp
    exact .inr (Function.update_self ..)

theorem QueueEffect.ok {op : QueueOp} {dev dev' : QueueDevice} (heff : QueueEffect op dev dev')
    (h : dev.Ok) (hop : op.Keeps) : dev'.Ok := by
  cases heff with
  | kept _ hqueues hmem hida hcmdq hcmdq' =>
    refine ⟨?_, ?_, ?_, ?_, ?_⟩
    · intro qid hlt p
      rw [hqueues, hmem]
      exact h.consistent qid hlt p
    · rw [hmem]
      exact h.bound
    · rw [hmem]
      exact fun p q hp hmin => hida q.qid (h.ida p q hp hmin)
    · rw [hmem]
      intro p q hp hlt
      have hne := h.command p q hp hlt
      rw [hcmdq hne]
      exact hne
    · rw [hmem]
      intro p hp
      by_cases hnone : dev.cmdCmdq = none
      · exact .inl (hcmdq' hnone p hp)
      · exact h.cmdq p ((hcmdq hnone).symm.trans hp)
  | @created qid p c type _ hmin hmax hfree hunused hc hlive heq =>
    subst heq
    exact h.created hmin hmax hfree hunused hc hlive
  | @entered cq sq _ hnone hunused hunused' hne heq =>
    subst heq
    exact h.entered hnone hunused hunused' hne
  | leaked hnot | stale hnot | destroyed hnot | freed hnot => exact absurd hop hnot

theorem QueueEffect.not_consistent {op : QueueOp} {dev dev' : QueueDevice}
    (heff : QueueEffect op dev dev') (h : dev.Ok) (hop : ¬op.Keeps) : ¬dev'.Consistent := by
  intro hdev'
  cases heff with
  | kept hkeeps | created hkeeps | entered hkeeps => exact hop hkeeps
  | @leaked p _ hnone hqueues hlive =>
    have hentry := (hdev' 1 (by decide) p).mpr ⟨_, hlive⟩
    rw [hqueues] at hentry
    obtain ⟨type, hlive'⟩ := (h.consistent 1 (by decide) p).mp hentry
    exact h.command p _ hlive' (by decide : 1 < BCE_QUEUE_USER_MIN) hnone
  | @stale qid p _ hlt hentry hdead =>
    obtain ⟨type, hlive⟩ := (hdev' qid hlt p).mp hentry
    exact absurd (hdead.symm.trans hlive) nofun
  | @destroyed p q _ hq hqueues hdead =>
    have hlt := h.bound p q hq
    have hentry := (h.consistent q.qid hlt p).mpr ⟨q.type, hq⟩
    rw [← hqueues] at hentry
    obtain ⟨type, hlive⟩ := (hdev' q.qid hlt p).mp hentry
    exact absurd (hdead.symm.trans hlive) nofun
  | @freed sq _ hsq hlive hqueues hdead =>
    have hq := (h.cmdq sq hsq).resolve_left hlive
    have hentry := (h.consistent 1 (by decide) sq).mpr ⟨_, hq⟩
    rw [← hqueues] at hentry
    obtain ⟨type, hlive'⟩ := (hdev' 1 (by decide) sq).mp hentry
    exact absurd (hdead.symm.trans hlive') nofun

/-! ## Every run -/

theorem queueDevice_ok {dev : QueueDevice}
    (h : queueSystem.Reachable (fun op _ => op.Keeps) dev) : dev.Ok := by
  refine StepSystem.Reachable.invariant ?_ ?_ h
  · rintro dev rfl
    refine ⟨fun qid _ p => ⟨nofun, ?_⟩, nofun, nofun, nofun, nofun⟩
    rintro ⟨type, hp⟩
    cases hp
  · intro op dev dev' _ hok hop hstep
    exact (queueStep_effect hstep).ok hok hop

/-- **The table of queues**: in every run of operations that keep it, `dev->queues` has
every live queue under its `qid` and nothing else, so the interrupt handler reaches live
queues only; and an operation keeps it so exactly if it is one of these. -/
theorem queue_table {dev : QueueDevice}
    (h : queueSystem.Reachable (fun op _ => op.Keeps) dev) :
    dev.Consistent ∧
    (∀ op dev', queueStep op dev = some dev' → (dev'.Consistent ↔ op.Keeps)) ∧
    (∀ p ∈ dev.bceHandleDmaIrqScan, dev.mem p ≠ none) ∧
    ∀ qid p, dev.completionTarget qid = some p → ∃ type, dev.mem p = some ⟨qid, type⟩ := by
  have hok := queueDevice_ok h
  refine ⟨hok.consistent, fun op dev' hstep => ?_, fun p hp => ?_, fun qid p hp => ?_⟩
  · have heff := queueStep_effect hstep
    constructor
    · intro hconsistent
      by_contra hop
      exact heff.not_consistent hok hop hconsistent
    · exact fun hop => (heff.ok hok hop).consistent
  · obtain ⟨qid, hqid, hentry⟩ := List.mem_filterMap.mp hp
    obtain ⟨type, hlive⟩ := (hok.consistent qid (List.mem_range.mp hqid) p).mp hentry
    rw [hlive]
    exact nofun
  · unfold QueueDevice.completionTarget at hp
    split at hp
    · cases hp
    · next hlt => exact (hok.consistent qid (Nat.lt_of_not_le hlt) p).mp hp

/-- The command queues are created, and a completion queue. -/
def createRun : List QueueOp :=
  [.createCommandQueues ⟨some 10, some 20, true, true, 0, 0⟩, .createCq ⟨true, some 30, 0⟩]

/-- The completion queue is entered under the first id for users. -/
theorem queue_table_of_a_queue :
    ∃ type, (queueSystem.after (fun op _ => op.Keeps) createRun queueDeviceInit).mem 30 =
      some ⟨2, type⟩ := by
  have hreach : queueSystem.Reachable (fun op _ => op.Keeps)
      (queueSystem.after (fun op _ => op.Keeps) createRun queueDeviceInit) :=
    .after (.of_init rfl) (by decide +kernel)
  exact (queue_table hreach).2.2.2 2 30 (by decide +kernel)

/-- A destroyed queue stays in the table. -/
theorem destroyed_queue_stays :
    ¬∀ dev, queueSystem.Reachable (fun _ _ => True) dev → dev.Consistent := by
  intro h
  have hconsistent := h (queueSystem.after (fun _ _ => True) (createRun ++ [.destroyCq 30])
    queueDeviceInit) (.after (.of_init rfl) (by decide +kernel))
  obtain ⟨type, hlive⟩ := (hconsistent 2 (by decide) 30).mp (by decide +kernel)
  revert hlive
  cases type with
  | cq | sq => decide +kernel

end BceDriver
