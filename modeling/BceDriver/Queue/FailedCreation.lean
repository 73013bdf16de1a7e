import BceDriver.Queue.Registry

/-!
# Creations that fail (`queue.c`)

`bce_create_cq` and `bce_create_sq` acquire an id, the memory of the queue, and its
registration, and give back what they have when the next fails, with two omissions: the
id is kept when there is no memory for the elements, and `completion_data` is never
freed.

- `QueueMemory` is the device with all that is allocated for its queues: the queues
  themselves, which the table of `QueueDevice` knows, and the other memory.
- `bceCreateQueue_refines`: less the other memory, a creation is one of `QueueDevice`.
-/

namespace BceDriver

/-- A device, and what is allocated besides the queues: the memory of elements and the
completion data, by address. -/
structure QueueMemory extends QueueDevice where
  buffers : Nat → Bool

/-- What the kernel and the device answer a creation: whether `ida_simple_get` has memory,
the addresses that are allocated, and the status of the registration. -/
structure CreationOutcome where
  ida : Bool
  /-- the queue -/
  q : Nat
  /-- `dma_alloc_coherent`, for `data` -/
  data : Option Nat
  /-- `kzalloc`, for `completion_data` -/
  completionData : Option Nat
  register : Nat
deriving DecidableEq, Repr

/-- The pointers of a queue. -/
structure QueuePointers where
  q : Nat
  data : Nat
  completionData : Option Nat

namespace QueueMemory

variable (dev : QueueMemory)

/-- `kzalloc` of a queue; an address in use is not given out. -/
def kzallocQueue (q : BceQueue) (p : Nat) : Option QueueMemory :=
  if dev.mem p = none ∧ dev.buffers p = false then
    some { dev with mem := Function.update dev.mem p (some q) }
  else none

/-- `kfree` of a queue -/
def kfreeQueue (p : Nat) : Option QueueMemory :=
  if dev.mem p = none then none
  else some { dev with mem := Function.update dev.mem p none }

/-- `dma_alloc_coherent` or `kzalloc` of other memory, which may fail -/
def allocBuffer : Option Nat → Option QueueMemory
  | none => some dev
  | some p =>
    if dev.mem p = none ∧ dev.buffers p = false then
      some { dev with buffers := Function.update dev.buffers p true }
    else none

/-- `dma_free_coherent` -/
def freeBuffer (p : Nat) : Option QueueMemory :=
  if dev.buffers p = false then none
  else some { dev with buffers := Function.update dev.buffers p false }

def bceAllocCq (qid : Nat) (o : CreationOutcome) : Option (Option QueuePointers × QueueMemory) := do
  let dev ← dev.kzallocQueue ⟨qid, .cq⟩ o.q
  let dev ← dev.allocBuffer o.data
  match o.data with
  | none => return (none, ← dev.kfreeQueue o.q)
  | some data => return (some ⟨o.q, data, none⟩, dev)

def bceAllocSq (qid : Nat) (o : CreationOutcome) : Option (Option QueuePointers × QueueMemory) := do
  let dev ← dev.kzallocQueue ⟨qid, .sq⟩ o.q
  let dev ← dev.allocBuffer o.data
  let dev ← dev.allocBuffer o.completionData
  match o.data with
  | none => return (none, ← dev.kfreeQueue o.q)
  | some data => return (some ⟨o.q, data, o.completionData⟩, dev)

def bceAllocQueue : BceQueueType → Nat → CreationOutcome →
    Option (Option QueuePointers × QueueMemory)
  | .cq => dev.bceAllocCq
  | .sq => dev.bceAllocSq

/-- `bce_free_cq` and `bce_free_sq` -/
def bceFreeQueue (p : QueuePointers) : Option QueueMemory := do
  let dev ← dev.freeBuffer p.data
  dev.kfreeQueue p.q

/-- The id of a creation. -/
def creationId (o : CreationOutcome) : Option Nat :=
  if o.ida then idaSimpleGet dev.queueIda BCE_QUEUE_USER_MIN BCE_QUEUE_USER_MAX else none

/-- `ida_simple_get` -/
def markId (qid : Nat) : QueueMemory :=
  { dev with queueIda := Function.update dev.queueIda qid true }

/-- `ida_simple_remove` -/
def idaSimpleRemove (qid : Nat) : QueueMemory :=
  { dev with queueIda := Function.update dev.queueIda qid false }

/-- `bce_create_cq`, and `bce_create_sq` past the checks of its arguments -/
def bceCreateQueue (type : BceQueueType) (o : CreationOutcome) :
    Option (Option Nat × QueueMemory) :=
  match dev.creationId o with
  | none => some (none, dev)
  | some qid => do
    match ← (dev.markId qid).bceAllocQueue type qid o with
    -- the id is not given back
    | (none, allocated) => return (none, allocated)
    | (some p, allocated) =>
      if ¬dev.CmdqLive then none
      -- `bce_free_queue` leaves the completion data of the queue
      else if o.register ≠ 0 then
        let freed ← allocated.bceFreeQueue p
        return (none, freed.idaSimpleRemove qid)
      else
        return (some p.q,
          { allocated with queues := Function.update allocated.queues qid (some p.q) })

def bceCreateCq (o : CreationOutcome) : Option (Option Nat × QueueMemory) :=
  dev.bceCreateQueue .cq o

def bceCreateSq (cq : Option Nat) (name : Option String) (direction : Nat) (o : CreationOutcome) :
    Option (Option Nat × QueueMemory) :=
  if cq = none then some (none, dev)
  else if name = none then some (none, dev)
  else if direction ≠ DMA_TO_DEVICE ∧ direction ≠ DMA_FROM_DEVICE then some (none, dev)
  else dev.bceCreateQueue .sq o

/-! ## What the parts do -/

/-- An entry that gets its old value back. -/
theorem update_back {β : Type} {f : Nat → β} {a : Nat} {w : β} (h : f a = w) (v : β) :
    Function.update (Function.update f a v) a w = f := by
  rw [Function.update_idem, ← h, Function.update_eq_self]

variable {dev} {dev' : QueueMemory} {q : BceQueue} {p qid : Nat} {o : CreationOutcome}
variable {type : BceQueueType}

theorem kzallocQueue_some (h : dev.kzallocQueue q p = some dev') :
    dev.mem p = none ∧ dev.buffers p = false ∧
      dev' = { dev with mem := Function.update dev.mem p (some q) } := by
  unfold kzallocQueue at h
  split at h
  · next hfresh =>
    cases h
    exact ⟨hfresh.1, hfresh.2, rfl⟩
  · cases h

theorem kfreeQueue_some (h : dev.kfreeQueue p = some dev') :
    dev' = { dev with mem := Function.update dev.mem p none } := by
  unfold kfreeQueue at h
  split at h
  · cases h
  · cases h
    rfl

theorem freeBuffer_some (h : dev.freeBuffer p = some dev') :
    dev' = { dev with buffers := Function.update dev.buffers p false } := by
  unfold freeBuffer at h
  split at h
  · cases h
  · cases h
    rfl

theorem allocBuffer_some (h : dev.allocBuffer (some p) = some dev') :
    dev.buffers p = false ∧
      dev' = { dev with buffers := Function.update dev.buffers p true } := by
  simp only [allocBuffer] at h
  split at h
  · next hfresh =>
    cases h
    exact ⟨hfresh.2, rfl⟩
  · cases h

/-- The memory that is allocated for completion data. -/
def completionDataOf : BceQueueType → CreationOutcome → Option Nat
  | .cq, _ => none
  | .sq, o => o.completionData

/-- The allocation of a queue of either type. -/
theorem bceAllocQueue_eq (dev : QueueMemory) (type : BceQueueType) (qid : Nat)
    (o : CreationOutcome) :
    dev.bceAllocQueue type qid o = do
      let dev ← dev.kzallocQueue ⟨qid, type⟩ o.q
      let dev ← dev.allocBuffer o.data
      let dev ← dev.allocBuffer (completionDataOf type o)
      match o.data with
      | none => return (none, ← dev.kfreeQueue o.q)
      | some data => return (some ⟨o.q, data, completionDataOf type o⟩, dev) := by
  cases type with
  | cq => rfl
  | sq => rfl

/-- The device with completion data that nothing points to any more. -/
def losing (dev : QueueMemory) : Option Nat → QueueMemory
  | none => dev
  | some p => { dev with buffers := Function.update dev.buffers p true }

/-- Without memory for its elements the queue is freed, and its completion data is not. -/
theorem bceAllocQueue_failed (hdata : o.data = none)
    {r : Option QueuePointers} (h : dev.bceAllocQueue type qid o = some (r, dev')) :
    r = none ∧ (∀ c, completionDataOf type o = some c → dev.buffers c = false) ∧
      dev' = dev.losing (completionDataOf type o) := by
  rw [bceAllocQueue_eq, hdata] at h
  obtain ⟨dev₁, halloc, h⟩ := Option.bind_eq_some_iff.mp h
  obtain ⟨dev₂, hbuf, h⟩ := Option.bind_eq_some_iff.mp h
  obtain ⟨dev₃, hcompl, h⟩ := Option.bind_eq_some_iff.mp h
  obtain ⟨dev₄, hfree, h⟩ := Option.bind_eq_some_iff.mp h
  obtain ⟨hmem, -, rfl⟩ := kzallocQueue_some halloc
  obtain rfl := Option.some.inj hbuf
  obtain rfl := kfreeQueue_some hfree
  obtain ⟨rfl, rfl⟩ := Prod.mk.inj (Option.some.inj h)
  refine ⟨rfl, ?_⟩
  -- the address of the queue is free again
  have hback := update_back hmem (some ⟨qid, type⟩)
  cases hlost : completionDataOf type o with
  | none =>
    rw [hlost] at hcompl
    obtain rfl := Option.some.inj hcompl
    exact ⟨nofun, by simp only [losing, hback]⟩
  | some c =>
    rw [hlost] at hcompl
    obtain ⟨hfresh, rfl⟩ := allocBuffer_some hcompl
    refine ⟨?_, by simp only [losing, hback]⟩
    rintro c' ⟨⟩
    exact hfresh

/-- With memory for its elements the queue is there, with all it points to. -/
theorem bceAllocQueue_done {data : Nat} (hdata : o.data = some data)
    {r : Option QueuePointers} (h : dev.bceAllocQueue type qid o = some (r, dev')) :
    r = some ⟨o.q, data, completionDataOf type o⟩ ∧ dev.mem o.q = none ∧
      dev.buffers data = false ∧
      (∀ c, completionDataOf type o = some c → c ≠ data ∧ dev.buffers c = false) ∧
      dev' = ({ dev with
        mem := Function.update dev.mem o.q (some ⟨qid, type⟩)
        buffers := Function.update dev.buffers data true } : QueueMemory).losing
          (completionDataOf type o) := by
  rw [bceAllocQueue_eq, hdata] at h
  obtain ⟨dev₁, halloc, h⟩ := Option.bind_eq_some_iff.mp h
  obtain ⟨dev₂, hbuf, h⟩ := Option.bind_eq_some_iff.mp h
  obtain ⟨dev₃, hcompl, h⟩ := Option.bind_eq_some_iff.mp h
  obtain ⟨rfl, rfl⟩ := Prod.mk.inj (Option.some.inj h)
  obtain ⟨hmem, -, rfl⟩ := kzallocQueue_some halloc
  obtain ⟨hfree, rfl⟩ := allocBuffer_some hbuf
  refine ⟨rfl, hmem, hfree, ?_, ?_⟩
  · intro c hc
    rw [hc] at hcompl
    obtain ⟨hnew, -⟩ := allocBuffer_some hcompl
    change Function.update dev.buffers data true c = false at hnew
    -- the completion data are allocated after the elements
    have hne : c ≠ data := by
      rintro rfl
      rw [Function.update_self] at hnew
      cases hnew
    rw [Function.update_of_ne hne] at hnew
    exact ⟨hne, hnew⟩
  · cases hlost : completionDataOf type o with
    | none =>
      rw [hlost] at hcompl
      exact (Option.some.inj hcompl).symm
    | some c =>
      rw [hlost] at hcompl
      exact (allocBuffer_some hcompl).2

/-- A queue that could not be registered is freed, and its completion data is not. -/
theorem bceFreeQueue_done {data : Nat} {lost : Option Nat} {type : BceQueueType}
    (hmem : dev.mem p = none) (hfree : dev.buffers data = false)
    (hne : ∀ c, lost = some c → c ≠ data)
    (h : (({ dev with
        mem := Function.update dev.mem p (some ⟨qid, type⟩)
        buffers := Function.update dev.buffers data true } : QueueMemory).losing
          lost).bceFreeQueue ⟨p, data, lost⟩ = some dev') :
    dev' = dev.losing lost := by
  obtain ⟨dev₁, hbuf, hqueue⟩ := Option.bind_eq_some_iff.mp h
  obtain rfl := freeBuffer_some hbuf
  obtain rfl := kfreeQueue_some hqueue
  have hback := update_back hmem (some ⟨qid, type⟩)
  cases lost with
  | none =>
    simp only [losing, hback, update_back hfree true]
  | some c =>
    have hcd := hne c rfl
    have hbufs : Function.update (Function.update (Function.update dev.buffers data true) c true)
        data false = Function.update dev.buffers c true := by
      rw [Function.update_comm hcd, update_back hfree]
    simp only [losing, hback, hbufs]

/-- The failure of a creation gives back all that was acquired: no id is kept, for want
of memory for the elements, and no completion data is lost. -/
def Restores (dev : QueueMemory) (type : BceQueueType) (o : CreationOutcome) : Prop :=
  dev.creationId o = none ∨ o.data ≠ none ∧ completionDataOf type o = none

theorem creationId_spec (h : dev.creationId o = some qid) :
    BCE_QUEUE_USER_MIN ≤ qid ∧ qid < BCE_QUEUE_USER_MAX ∧ dev.queueIda qid = false := by
  unfold creationId at h
  split at h
  · exact idaSimpleGet_spec h
  · cases h

/-- What a failed creation leaves, once it has an id: the id, if there is no memory for
the elements, and the completion data, which are new. -/
theorem bceCreateQueue_failed (hid : dev.creationId o = some qid)
    (h : dev.bceCreateQueue type o = some (none, dev')) :
    (∀ c, completionDataOf type o = some c → dev.buffers c = false) ∧
      dev' = (if o.data = none then dev.markId qid else dev).losing (completionDataOf type o) := by
  unfold bceCreateQueue at h
  rw [hid] at h
  obtain ⟨⟨r, allocated⟩, halloc, hrest⟩ := Option.bind_eq_some_iff.mp h
  cases hdata : o.data with
  | none =>
    obtain ⟨rfl, hlost, rfl⟩ := bceAllocQueue_failed hdata halloc
    obtain ⟨-, rfl⟩ := Prod.mk.inj (Option.some.inj hrest)
    rw [if_pos rfl]
    exact ⟨hlost, rfl⟩
  | some data =>
    obtain ⟨rfl, hmem, hfree, hlost, rfl⟩ := bceAllocQueue_done hdata halloc
    simp only at hrest
    split at hrest
    · cases hrest
    split at hrest
    · -- the device rejected the registration
      obtain ⟨freed, hfreed, hdone⟩ := Option.bind_eq_some_iff.mp hrest
      obtain ⟨-, rfl⟩ := Prod.mk.inj (Option.some.inj hdone)
      obtain rfl := bceFreeQueue_done hmem hfree (fun c hc => (hlost c hc).1) hfreed
      have hback := update_back (creationId_spec hid).2.2 true
      rw [if_neg nofun]
      refine ⟨fun c hc => (hlost c hc).2, ?_⟩
      cases completionDataOf type o with
      | none => simp only [losing, idaSimpleRemove, markId, hback]
      | some c => simp only [losing, idaSimpleRemove, markId, hback]
    · cases hrest

theorem bceCreateQueue_restores_iff (h : dev.bceCreateQueue type o = some (none, dev')) :
    dev' = dev ↔ dev.Restores type o := by
  cases hid : dev.creationId o with
  | none =>
    unfold bceCreateQueue at h
    rw [hid] at h
    obtain ⟨-, rfl⟩ := Prod.mk.inj (Option.some.inj h)
    exact iff_of_true rfl (.inl hid)
  | some qid =>
    obtain ⟨hfresh, rfl⟩ := bceCreateQueue_failed hid h
    have hfree := (creationId_spec hid).2.2
    rw [Restores, hid]
    constructor
    · intro heq
      refine .inr ⟨fun hdata => ?_, ?_⟩
      · -- the id is still marked
        rw [if_pos hdata] at heq
        have hmark : (dev.markId qid).queueIda qid = true := Function.update_self ..
        have hida : ((dev.markId qid).losing (completionDataOf type o)).queueIda qid = true := by
          cases completionDataOf type o <;> exact hmark
        rw [heq, hfree] at hida
        cases hida
      · -- the completion data are still allocated
        cases hlost : completionDataOf type o with
        | none => rfl
        | some c =>
          rw [hlost] at heq
          have hbuf : dev.buffers c = true := by
            rw [← heq]
            exact Function.update_self ..
          rw [hfresh c hlost] at hbuf
          cases hbuf
    · rintro (hnone | ⟨hdata, hlost⟩)
      · cases hnone
      · rw [if_neg hdata, hlost]
        rfl

theorem losing_toQueueDevice (dev : QueueMemory) (lost : Option Nat) :
    (dev.losing lost).toQueueDevice = dev.toQueueDevice := by
  cases lost <;> rfl

/-- Less the other memory, a creation is one of `QueueDevice`, which takes an address for
an allocation that succeeds. -/
theorem bceCreateQueue_refines {r : Option Nat} (h : dev.bceCreateQueue type o = some (r, dev')) :
    dev.toQueueDevice.bceCreateQueue type ⟨o.ida, o.data.map fun _ => o.q, o.register⟩ =
      some (r, dev'.toQueueDevice) := by
  unfold bceCreateQueue at h
  unfold QueueDevice.bceCreateQueue
  cases hid : dev.creationId o with
  | none =>
    rw [hid] at h
    obtain ⟨rfl, rfl⟩ := Prod.mk.inj (Option.some.inj h)
    unfold creationId at hid
    rw [hid]
  | some qid =>
    rw [hid] at h
    unfold creationId at hid
    rw [hid]
    obtain ⟨⟨p, allocated⟩, halloc, hrest⟩ := Option.bind_eq_some_iff.mp h
    cases hdata : o.data with
    | none =>
      obtain ⟨rfl, -, rfl⟩ := bceAllocQueue_failed hdata halloc
      obtain ⟨rfl, rfl⟩ := Prod.mk.inj (Option.some.inj hrest)
      rw [losing_toQueueDevice]
      rfl
    | some data =>
      obtain ⟨rfl, hmem, hfree, hlost, rfl⟩ := bceAllocQueue_done hdata halloc
      -- the address is free in both models
      have halloc' : ({ dev.toQueueDevice with
            queueIda := Function.update dev.queueIda qid true } : QueueDevice).bceAllocQueue
              type qid (some o.q) =
          some (some o.q, { dev.toQueueDevice with
            mem := Function.update dev.mem o.q (some ⟨qid, type⟩)
            queueIda := Function.update dev.queueIda qid true }) := if_pos hmem
      simp only [Option.map_some, halloc', Option.bind_some]
      simp only at hrest
      split at hrest
      · cases hrest
      next hlive =>
      rw [if_neg hlive]
      split at hrest
      · next hregister =>
        obtain ⟨freed, hfreed, hdone⟩ := Option.bind_eq_some_iff.mp hrest
        obtain ⟨rfl, rfl⟩ := Prod.mk.inj (Option.some.inj hdone)
        obtain rfl := bceFreeQueue_done hmem hfree (fun c hc => (hlost c hc).1) hfreed
        have hmem' : dev.mem o.q = none := hmem
        have hfree' : ({ dev.toQueueDevice with
              mem := Function.update dev.mem o.q (some ⟨qid, type⟩)
              queueIda := Function.update dev.queueIda qid true } : QueueDevice).bceFreeQueue o.q =
            some { dev.toQueueDevice with queueIda := Function.update dev.queueIda qid true } := by
          rw [QueueDevice.bceFreeQueue, if_neg (by simp)]
          simp only [update_back hmem']
        rw [if_pos hregister, hfree']
        cases completionDataOf type o <;> rfl
      · next hregister =>
        obtain ⟨rfl, rfl⟩ := Prod.mk.inj (Option.some.inj hrest)
        rw [if_neg hregister]
        cases completionDataOf type o <;> rfl

end QueueMemory

/-! ## Any number of creations -/

inductive CreateOp where
  | cq (o : CreationOutcome)
  | sq (cq : Option Nat) (name : Option String) (direction : Nat) (o : CreationOutcome)
deriving DecidableEq, Repr

def CreateOp.run (dev : QueueMemory) : CreateOp → Option (Option Nat × QueueMemory)
  | .cq o => dev.bceCreateCq o
  | .sq q name direction o => dev.bceCreateSq q name direction o

/-- The arguments of a submission queue that are not rejected at once. -/
def CreateOp.Checked : CreateOp → Prop
  | .cq _ => True
  | .sq q name direction _ =>
    q ≠ none ∧ name ≠ none ∧ (direction = DMA_TO_DEVICE ∨ direction = DMA_FROM_DEVICE)

def CreateOp.Restores (dev : QueueMemory) : CreateOp → Prop
  | .cq o => dev.Restores .cq o
  | .sq q name direction o => (CreateOp.sq q name direction o).Checked → dev.Restores .sq o

/-- Creations that all fail. -/
def failedCreations : List CreateOp → QueueMemory → Option QueueMemory
  | [], dev => some dev
  | op :: ops, dev =>
    match op.run dev with
    | some (none, dev) => failedCreations ops dev
    | _ => none

theorem createOp_restores_iff {op : CreateOp} {dev dev' : QueueMemory}
    (h : op.run dev = some (none, dev')) : dev' = dev ↔ op.Restores dev := by
  cases op with
  | cq o => exact QueueMemory.bceCreateQueue_restores_iff h
  | sq q name direction o =>
    rw [CreateOp.Restores, CreateOp.Checked]
    change dev.bceCreateSq q name direction o = _ at h
    unfold QueueMemory.bceCreateSq at h
    split at h
    · next hcq =>
      obtain ⟨-, rfl⟩ := Prod.mk.inj (Option.some.inj h)
      exact iff_of_true rfl fun hchecked => absurd hcq hchecked.1
    split at h
    · next hname =>
      obtain ⟨-, rfl⟩ := Prod.mk.inj (Option.some.inj h)
      exact iff_of_true rfl fun hchecked => absurd hname hchecked.2.1
    split at h
    · next hdir =>
      obtain ⟨-, rfl⟩ := Prod.mk.inj (Option.some.inj h)
      exact iff_of_true rfl fun hchecked =>
        hchecked.2.2.elim (fun hto => absurd hto hdir.1) fun hfrom => absurd hfrom hdir.2
    · next hcq hname hdir =>
      rw [QueueMemory.bceCreateQueue_restores_iff h]
      refine ⟨fun hrestores _ => hrestores, fun hrestores => hrestores ⟨hcq, hname, ?_⟩⟩
      tauto

/-- Creations that give back what they acquired change nothing, however many fail. -/
theorem failedCreations_restores {ops : List CreateOp} {dev dev' : QueueMemory}
    (hrestores : ∀ op ∈ ops, op.Restores dev) (h : failedCreations ops dev = some dev') :
    dev' = dev := by
  -- each creation that fails leaves the device the next one begins with
  induction ops with
  | nil => exact (Option.some.inj h).symm
  | cons op ops ih =>
    rw [failedCreations] at h
    split at h
    · next next hrun =>
      obtain rfl := (createOp_restores_iff hrun).mpr (hrestores op (List.mem_cons_self ..))
      exact ih (fun op hop => hrestores op (List.mem_cons_of_mem _ hop)) h
    · cases h

/-- What one failure leaves, and any number of them that give back what they acquired. -/
theorem failedCreation_restores_iff (dev : QueueMemory) :
    (∀ (op : CreateOp) dev', op.run dev = some (none, dev') → (dev' = dev ↔ op.Restores dev)) ∧
      ∀ (ops : List CreateOp) dev', (∀ op ∈ ops, op.Restores dev) →
        failedCreations ops dev = some dev' → dev' = dev :=
  ⟨fun _ _ => createOp_restores_iff, fun _ _ => failedCreations_restores⟩

/-- A device with its command queues and nothing else. -/
def commandQueuesMemory : QueueMemory where
  queues := fun qid => if qid = 0 then some 1 else if qid = 1 then some 2 else none
  mem := fun p => if p = 1 then some ⟨0, .cq⟩ else if p = 2 then some ⟨1, .sq⟩ else none
  queueIda := fun _ => false
  cmdCq := some 1
  cmdCmdq := some 2
  isBeingRemoved := false
  buffers := fun _ => false

/-- A completion queue with memory, or without, that the device does not register. -/
def unregisteredCq (data : Option Nat) : CreateOp :=
  .cq ⟨true, 10, data, none, 1⟩

def failureLeft (op : CreateOp) (dev : QueueMemory) : QueueMemory :=
  ((op.run dev).map Prod.snd).getD dev

theorem failedCreation_restores_iff_unregistered :
    (failureLeft (unregisteredCq (some 11)) commandQueuesMemory = commandQueuesMemory ↔
        (unregisteredCq (some 11)).Restores commandQueuesMemory) ∧
      failureLeft (unregisteredCq (some 11))
        (failureLeft (unregisteredCq (some 11)) commandQueuesMemory) = commandQueuesMemory :=
  ⟨(failedCreation_restores_iff commandQueuesMemory).1 (unregisteredCq (some 11)) _ rfl,
    (failedCreation_restores_iff commandQueuesMemory).2
      [unregisteredCq (some 11), unregisteredCq (some 11)] _
      (by simp [unregisteredCq, CreateOp.Restores, QueueMemory.Restores,
        QueueMemory.completionDataOf]) rfl⟩

/-- Without memory for its elements a completion queue keeps the id 2. -/
theorem failedCreation_not_restored :
    ¬∀ (op : CreateOp) (dev dev' : QueueMemory), op.Checked → op.run dev = some (none, dev') →
      dev'.queueIda = dev.queueIda ∧ dev'.queues = dev.queues ∧ dev'.mem = dev.mem ∧
        dev'.buffers = dev.buffers := by
  intro h
  have hsame := h (unregisteredCq none) commandQueuesMemory
    (failureLeft (unregisteredCq none) commandQueuesMemory) trivial rfl
  have hid : (failureLeft (unregisteredCq none) commandQueuesMemory).queueIda 2 = true := by decide
  rw [hsame.1] at hid
  cases hid

end BceDriver
