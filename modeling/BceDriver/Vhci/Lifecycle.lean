import BceDriver.Queue.Resources
import BceDriver.Vhci.Controller

/-!
# Creating and destroying the host controller (`vhci/vhci.c`, `vhci/queue.c`)

`bce_vhci_create` acquires a device node, five message queues, a completion queue and
five event queues, a workqueue and the host controller driver; at a failure it releases
what it acquired so far, less the last two. `bce_vhci_destroy` releases what the
pointers of `bce_vhci` are to, which the failure of a creation leaves as they are.

What the queues carry is not part of this module, nor what `usb_add_hcd` calls.
-/

namespace BceDriver

/-- The pairs of a message queue to the firmware and an event queue from it. -/
inductive VhciChannel where
  | commands
  | system
  | isochronous
  | interrupt
  | asynchronous
deriving DecidableEq, Repr

namespace VhciChannel

/-- In the order of the source -/
def all : List VhciChannel := [commands, system, isochronous, interrupt, asynchronous]

def hostName : VhciChannel → String
  | commands => "VHC1HostCommands"
  | system => "VHC1HostSystemEvents"
  | isochronous => "VHC1HostIsochronousEvents"
  | interrupt => "VHC1HostInterruptEvents"
  | asynchronous => "VHC1HostAsynchronousEvents"

def firmwareName : VhciChannel → String
  | commands => "VHC1FirmwareCommands"
  | system => "VHC1FirmwareSystemEvents"
  | isochronous => "VHC1FirmwareIsochronousEvents"
  | interrupt => "VHC1FirmwareInterruptEvents"
  | asynchronous => "VHC1FirmwareAsynchronousEvents"

theorem mem_all (ch : VhciChannel) : ch ∈ all := by
  cases ch <;> decide

theorem all_nodup : all.Nodup := by decide

end VhciChannel

/-- The pointers of a `bce_vhci_message_queue`. -/
structure MessageQueuePointers where
  cq : Option Nat
  sq : Option Nat
  data : Option Nat

/-- The pointers of a `bce_vhci_event_queue`. -/
structure EventQueuePointers where
  sq : Option Nat
  data : Option Nat

/-- The pointers of `bce_vhci` to what it acquires, and the driver. -/
structure BceVhciLife extends DriverState where
  msg : VhciChannel → MessageQueuePointers
  evCq : Option Nat
  ev : VhciChannel → EventQueuePointers
  tqStateWq : Option Nat
  hcd : Option Nat

/-- What the kernel and the device answer `bce_vhci_message_queue_create`. -/
structure MessageQueueOutcome where
  cq : CreateOutcome
  sq : CreateOutcome
  data : Option Nat

structure EventQueueOutcome where
  sq : CreateOutcome
  data : Option Nat

/-- Where a message queue will be. -/
def MessageQueueOutcome.places (o : MessageQueueOutcome) : List Place :=
  o.cq.places ++ (o.sq.places ++ placesAt (fun p => .object (.coherent p)) o.data)

def EventQueueOutcome.places (o : EventQueueOutcome) : List Place :=
  o.sq.places ++ placesAt (fun p => .object (.coherent p)) o.data

structure BceVhciOutcome where
  /-- `PTR_ERR` of what `device_create` returns, if it fails: `0` for a null pointer -/
  vdev : Option Int
  msg : VhciChannel → MessageQueueOutcome
  evCq : CreateOutcome
  ev : VhciChannel → EventQueueOutcome
  tqStateWq : Option Nat
  hcd : Option Nat
  addHcd : Int

namespace BceVhciLife

variable (v : BceVhciLife)

def held : Set Resource := v.toDriverState.held

def withDriver (s : DriverState) : BceVhciLife := { v with toDriverState := s }

def setMsg (ch : VhciChannel) (q : MessageQueuePointers) : BceVhciLife :=
  { v with msg := Function.update v.msg ch q }

def setEv (ch : VhciChannel) (q : EventQueuePointers) : BceVhciLife :=
  { v with ev := Function.update v.ev ch q }

@[simp] theorem setMsg_msg (ch : VhciChannel) (q : MessageQueuePointers) :
    (v.setMsg ch q).msg ch = q := Function.update_self ..

@[simp] theorem setEv_ev (ch : VhciChannel) (q : EventQueuePointers) :
    (v.setEv ch q).ev ch = q := Function.update_self ..

@[simp] theorem withDriver_msg (s : DriverState) : (v.withDriver s).msg = v.msg := rfl

@[simp] theorem withDriver_ev (s : DriverState) : (v.withDriver s).ev = v.ev := rfl

/-! ## Message queues -/

/-- The label `fail_cq` of `bce_vhci_message_queue_create` -/
def messageQueueFailCq (ch : VhciChannel) : Option (Int × BceVhciLife) :=
  (v.bceDestroyCq (v.msg ch).cq).map fun s =>
    (-EINVAL, (v.withDriver s).setMsg ch { v.msg ch with cq := none })

/-- The label `fail_sq` -/
def messageQueueFailSq (ch : VhciChannel) : Option (Int × BceVhciLife) :=
  (v.bceDestroySq (v.msg ch).sq).bind fun s =>
    ((v.withDriver s).setMsg ch { v.msg ch with sq := none }).messageQueueFailCq ch

/-- The rest of `bce_vhci_message_queue_create`, once the queues are created -/
def messageQueueData (ch : VhciChannel) (data : Option Nat) : Option (Int × BceVhciLife) :=
  (v.acquireAt .coherent data).bind fun s =>
    let v := (v.withDriver s).setMsg ch { v.msg ch with data }
    match data with
    | none => v.messageQueueFailSq ch
    | some _ => some (0, v)

/-- The same, once the completion queue is created -/
def messageQueueSq (ch : VhciChannel) (o : MessageQueueOutcome) : Option (Int × BceVhciLife) :=
  (v.bceCreateSq (v.msg ch).cq (some ch.hostName) DMA_TO_DEVICE o.sq).bind fun (sq, s) =>
    let v := (v.withDriver s).setMsg ch { v.msg ch with sq }
    match sq with
    | none => v.messageQueueFailCq ch
    | some _ => v.messageQueueData ch o.data

def bceVhciMessageQueueCreate (o : VhciChannel → MessageQueueOutcome) (ch : VhciChannel)
    (v : BceVhciLife) : Option (Int × BceVhciLife) :=
  (v.bceCreateCq (o ch).cq).bind fun (cq, s) =>
    let v := (v.withDriver s).setMsg ch { v.msg ch with cq }
    match cq with
    | none => some (-EINVAL, v)
    | some _ => v.messageQueueSq ch (o ch)

def bceVhciMessageQueueDestroy (ch : VhciChannel) (v : BceVhciLife) : Option BceVhciLife :=
  match (v.msg ch).cq with
  | none => some v
  | some cq =>
    (v.releaseAt .coherent (v.msg ch).data).bind fun s =>
      (s.bceDestroySq (v.msg ch).sq).bind fun s => (s.bceDestroyCq cq).map v.withDriver

/-- The command queue over `msg_commands` acquires nothing. -/
def bceVhciDestroyMessageQueues : Option BceVhciLife :=
  releaseAll bceVhciMessageQueueDestroy VhciChannel.all v

def bceVhciCreateMessageQueues (o : VhciChannel → MessageQueueOutcome) :
    Option (Int × BceVhciLife) :=
  (untilFailure (bceVhciMessageQueueCreate o) VhciChannel.all v).bind fun (status, v) =>
    if status ≠ 0 then v.bceVhciDestroyMessageQueues.map fun v => (-EINVAL, v)
    else some (0, v)

/-! ## Event queues -/

/-- `__bce_vhci_event_queue_create`; what is submitted to the queue is left out. -/
def bceVhciEventQueueCreate (o : VhciChannel → EventQueueOutcome) (ch : VhciChannel)
    (v : BceVhciLife) : Option (Int × BceVhciLife) :=
  (v.bceCreateSq v.evCq (some ch.firmwareName) DMA_FROM_DEVICE (o ch).sq).bind fun (sq, s) =>
    let v := (v.withDriver s).setEv ch { v.ev ch with sq }
    match sq with
    | none => some (-EINVAL, v)
    | some _ =>
      (v.acquireAt .coherent (o ch).data).bind fun s =>
        let v := (v.withDriver s).setEv ch { v.ev ch with data := (o ch).data }
        match (o ch).data with
        | none =>
          (v.bceDestroySq (v.ev ch).sq).map fun s =>
            (-EINVAL, (v.withDriver s).setEv ch { v.ev ch with sq := none })
        | some _ => some (0, v)

def bceVhciEventQueueDestroy (ch : VhciChannel) (v : BceVhciLife) : Option BceVhciLife :=
  match (v.ev ch).sq with
  | none => some v
  | some sq =>
    (v.releaseAt .coherent (v.ev ch).data).bind fun s => (s.bceDestroySq sq).map v.withDriver

def bceVhciDestroyEventQueues : Option BceVhciLife :=
  (releaseAll bceVhciEventQueueDestroy VhciChannel.all v).bind fun v =>
    match v.evCq with
    | none => some v
    | some cq => (v.bceDestroyCq cq).map v.withDriver

def bceVhciCreateEventQueues (o : BceVhciOutcome) : Option (Int × BceVhciLife) :=
  (v.bceCreateCq o.evCq).bind fun (evCq, s) =>
    let v := { v.withDriver s with evCq }
    match evCq with
    | none => some (-EINVAL, v)
    | some _ =>
      (untilFailure (bceVhciEventQueueCreate o.ev) VhciChannel.all v).bind fun (status, v) =>
        if status ≠ 0 then v.bceVhciDestroyEventQueues.map fun v => (-EINVAL, v)
        else some (0, v)

/-! ## The host controller -/

/-- The label `fail_mq` of `bce_vhci_create` -/
def createFailMq (status : Int) : Option (Int × BceVhciLife) :=
  (v.deviceDestroy .bceVhci).map fun s =>
    (if status = 0 then -EINVAL else status, v.withDriver s)

/-- The label `fail_eq` -/
def createFailEq (status : Int) : Option (Int × BceVhciLife) :=
  v.bceVhciDestroyMessageQueues.bind fun v => v.createFailMq status

/-- The label `fail_hcd` -/
def createFailHcd (status : Int) : Option (Int × BceVhciLife) :=
  v.bceVhciDestroyEventQueues.bind fun v => v.createFailEq status

/-- `bce_vhci_create`, from `usb_create_hcd` on -/
def createHcd (o : BceVhciOutcome) : Option (Int × BceVhciLife) :=
  (v.acquireAt .hcd o.hcd).bind fun s =>
    let v := { v.withDriver s with hcd := o.hcd }
    match o.hcd with
    | none => v.createFailHcd (-ENOMEM)
    | some p =>
      if o.addHcd ≠ 0 then v.createFailHcd o.addHcd
      else (v.acquire (.addedHcd p)).map fun s => (0, v.withDriver s)

/-- `bce_vhci_create`, from the workqueue on; that it is there is not checked. -/
def createWorkqueue (o : BceVhciOutcome) : Option (Int × BceVhciLife) :=
  (v.acquireAt .workqueue o.tqStateWq).bind fun s =>
    { v.withDriver s with tqStateWq := o.tqStateWq }.createHcd o

def bceVhciCreate (o : BceVhciOutcome) : Option (Int × BceVhciLife) :=
  match o.vdev with
  | some status => some (if status = 0 then -EINVAL else status, v)
  | none =>
    (v.acquire (.node .bceVhci)).bind fun s =>
      ((v.withDriver s).bceVhciCreateMessageQueues o.msg).bind fun (status, v) =>
        if status ≠ 0 then v.createFailMq status
        else (v.bceVhciCreateEventQueues o).bind fun (status, v) =>
          if status ≠ 0 then v.createFailEq status else v.createWorkqueue o

/-- `usb_remove_hcd`, of a driver that was added; `acceptsNull` says whether the kernel
has it return for a null pointer. -/
def usbRemoveHcd (acceptsNull : Bool) : Option DriverState :=
  match v.hcd with
  | none => if acceptsNull then some v.toDriverState else none
  | some p => v.release (.addedHcd p)

def bceVhciDestroy (acceptsNull : Bool) : Option BceVhciLife :=
  (v.usbRemoveHcd acceptsNull).bind fun s =>
    (v.withDriver s).bceVhciDestroyEventQueues.bind fun v =>
      v.bceVhciDestroyMessageQueues.bind fun v =>
        (v.deviceDestroy .bceVhci).map v.withDriver

end BceVhciLife

/-! ## What the pointers record -/

/-- What a failed creation of a message queue can keep. -/
def MessageQueueOutcome.Loses (o : MessageQueueOutcome) (L : Set Resource) : Prop :=
  o.cq.Loses L ∨ o.sq.Loses L

theorem CreateOutcome.Loses.no_queue {o : CreateOutcome} {L : Set Resource} (h : o.Loses L) :
    ∀ c q, Resource.queue c q ∉ L := by
  obtain rfl | ⟨-, -, qid, rfl⟩ := h
  · exact fun _ _ => id
  · exact fun _ _ => nofun

theorem MessageQueueOutcome.Loses.no_queue {o : MessageQueueOutcome} {L : Set Resource}
    (h : o.Loses L) : ∀ c q, Resource.queue c q ∉ L :=
  h.elim CreateOutcome.Loses.no_queue CreateOutcome.Loses.no_queue

namespace BceVhciLife

/-- The message queue has its pointers to `F`, or was not created. -/
def RecordsMsg (ch : VhciChannel) (F : Set Resource) (v : BceVhciLife) : Prop :=
  ((v.msg ch).cq = none ∧ F = ∅) ∨
  ∃ cq sq data i j, v.msg ch = ⟨some cq, some sq, some data⟩ ∧
    BCE_QUEUE_USER_MIN ≤ i ∧ BCE_QUEUE_USER_MIN ≤ j ∧
    Disjoint (queueWithId cq ⟨i, .cq⟩) (queueWithId sq ⟨j, .sq⟩) ∧
    F = queueWithId cq ⟨i, .cq⟩ ∪ queueWithId sq ⟨j, .sq⟩ ∪ {.object (.coherent data)}

def RecordsEv (ch : VhciChannel) (F : Set Resource) (v : BceVhciLife) : Prop :=
  ((v.ev ch).sq = none ∧ F = ∅) ∨
  ∃ sq data j, v.ev ch = ⟨some sq, some data⟩ ∧ BCE_QUEUE_USER_MIN ≤ j ∧
    F = queueWithId sq ⟨j, .sq⟩ ∪ {.object (.coherent data)}

/-- A step that changes nothing but the message queues. -/
structure MsgOnly (v v' : BceVhciLife) : Prop where
  kept : v.Kept v'.toDriverState
  ev : v'.ev = v.ev
  evCq : v'.evCq = v.evCq
  tqStateWq : v'.tqStateWq = v.tqStateWq
  hcd : v'.hcd = v.hcd

/-- A step that changes nothing but the event queues. -/
structure EvOnly (v v' : BceVhciLife) : Prop where
  kept : v.Kept v'.toDriverState
  msg : v'.msg = v.msg
  evCq : v'.evCq = v.evCq
  tqStateWq : v'.tqStateWq = v.tqStateWq
  hcd : v'.hcd = v.hcd

variable {v v' v'' : BceVhciLife} {s : DriverState} {ch : VhciChannel} {F G : Set Resource}
variable {status : Int}

theorem MsgOnly.trans (h : v.MsgOnly v') (h' : v'.MsgOnly v'') : v.MsgOnly v'' where
  kept := h.kept.trans h'.kept
  ev := h'.ev.trans h.ev
  evCq := h'.evCq.trans h.evCq
  tqStateWq := h'.tqStateWq.trans h.tqStateWq
  hcd := h'.hcd.trans h.hcd

theorem EvOnly.trans (h : v.EvOnly v') (h' : v'.EvOnly v'') : v.EvOnly v'' where
  kept := h.kept.trans h'.kept
  msg := h'.msg.trans h.msg
  evCq := h'.evCq.trans h.evCq
  tqStateWq := h'.tqStateWq.trans h.tqStateWq
  hcd := h'.hcd.trans h.hcd

/-- What the driver acquires or releases, `bce_vhci` does, whatever it records of it. -/
theorem acquires_of_driver (h : Acquires DriverState.held F v.toDriverState s)
    (hs : v'.toDriverState = s) : Acquires held F v v' :=
  ⟨h.fresh, (congrArg DriverState.held hs).trans h.held_eq⟩

theorem releases_of_driver (h : Releases DriverState.held F v.toDriverState s)
    (hs : v'.toDriverState = s) : Releases held F v v' :=
  ⟨h.live, (congrArg DriverState.held hs).trans h.held_eq⟩

theorem recordsMsg_of_ne {q : MessageQueuePointers} {ch' : VhciChannel} (hne : ch' ≠ ch)
    (hmsg : v'.msg = Function.update v.msg ch q) (h : RecordsMsg ch' F v) :
    RecordsMsg ch' F v' := by
  unfold RecordsMsg
  rw [hmsg, Function.update_of_ne hne]
  exact h

/-! ### Message queues -/

/-- What is left after a failure once the completion queue is there. -/
theorem messageQueueFailCq_lost {c i : Nat} {L : Set Resource}
    (h : v'.messageQueueFailCq ch = some (status, v'')) (hready : v.Ready)
    (honly : v.MsgOnly v') (hmin : BCE_QUEUE_USER_MIN ≤ i) (hcq : (v'.msg ch).cq = some c)
    (hacq : Acquires held (queueWithId c ⟨i, .cq⟩ ∪ L) v v')
    (hdisj : Disjoint (queueWithId c ⟨i, .cq⟩) L) :
    status = -EINVAL ∧ Acquires held L v v'' ∧ (v''.msg ch).cq = none ∧ v.MsgOnly v'' ∧
      ∃ q, v''.msg = Function.update v'.msg ch q := by
  obtain ⟨s, hdestroy, heq⟩ := Option.map_eq_some_iff.mp h
  obtain ⟨rfl, rfl⟩ := Prod.mk.inj heq
  obtain ⟨s', hs', hrel, hkept⟩ := DriverState.bceDestroyCq_releases
    (honly.kept.ready hready) hmin (Set.subset_union_left.trans hacq.subset)
  obtain rfl : s' = s := Option.some.inj (hs'.symm.trans (hcq ▸ hdestroy))
  refine ⟨rfl, ?_, by rw [setMsg_msg], honly.trans ⟨hkept, rfl, rfl, rfl, rfl⟩, _, rfl⟩
  exact ((Set.union_comm _ L) ▸ hacq).release (releases_of_driver hrel rfl) hdisj.symm

theorem bceVhciMessageQueueCreate_creates {o : VhciChannel → MessageQueueOutcome}
    (hready : v.Ready) (h : bceVhciMessageQueueCreate o ch v = some (status, v')) :
    v.MsgOnly v' ∧ Creates held RecordsMsg (o ch).Loses ch v status v' := by
  -- it is enough to follow what is acquired, and this one queue
  suffices hsuff : v.MsgOnly v' ∧ (∃ q, v'.msg = Function.update v.msg ch q) ∧
      (status = 0 → ∃ F, F.Nonempty ∧ RecordsMsg ch F v' ∧ Acquires held F v v') ∧
      (status ≠ 0 → RecordsMsg ch ∅ v' ∧ ∃ L, (o ch).Loses L ∧ Acquires held L v v') by
    obtain ⟨honly, ⟨q, hq⟩, hdone, hfailed⟩ := hsuff
    exact ⟨honly, fun j hj F hF => recordsMsg_of_ne hj hq hF, hdone, hfailed⟩
  obtain ⟨⟨cq, s₁⟩, hcq, h⟩ := Option.bind_eq_some_iff.mp h
  have hcreated := DriverState.bceCreateCq_created hcq
  cases cq with
  | none =>
    obtain ⟨rfl, rfl⟩ := Prod.mk.inj (Option.some.inj h)
    obtain ⟨L, hL, hacq⟩ := hcreated.failed rfl
    refine ⟨⟨hcreated.kept, rfl, rfl, rfl, rfl⟩, ⟨_, rfl⟩, nofun, fun _ => ⟨?_, L, .inl hL, ?_⟩⟩
    · exact .inl ⟨by simp [setMsg], rfl⟩
    · exact acquires_of_driver hacq rfl
  | some c =>
    obtain ⟨i, hi, hacq₁⟩ := hcreated.done c rfl
    obtain ⟨⟨sq, s₂⟩, hsq, h⟩ := Option.bind_eq_some_iff.mp h
    have hcreated₂ := DriverState.bceCreateSq_created hsq
    have hkept₂ := hcreated.kept.trans hcreated₂.kept
    cases sq with
    | none =>
      obtain ⟨L, hL, hacq₂⟩ := hcreated₂.failed rfl
      obtain ⟨rfl, hleft, hnone, honly, q, hq⟩ :=
        messageQueueFailCq_lost h hready ⟨hkept₂, rfl, rfl, rfl, rfl⟩ hi (by simp)
          (acquires_of_driver (hacq₁.trans hacq₂) rfl) (hacq₁.disjoint hacq₂)
      refine ⟨honly, ⟨q, ?_⟩, nofun, fun _ => ⟨.inl ⟨hnone, rfl⟩, L, .inr hL, hleft⟩⟩
      rw [hq]
      simp [setMsg, withDriver]
    | some q =>
      obtain ⟨j, hj, hacq₂⟩ := hcreated₂.done q rfl
      obtain ⟨s₃, hdata, h⟩ := Option.bind_eq_some_iff.mp h
      cases hd : (o ch).data with
      | none =>
        -- no memory for the messages: both queues are destroyed
        rw [hd] at hdata h
        obtain rfl := Option.some.inj hdata
        obtain ⟨s₄, hdestroy, h⟩ := Option.bind_eq_some_iff.mp h
        obtain ⟨s', hs', hrel, hkept⟩ := DriverState.bceDestroySq_releases
          (hkept₂.ready hready) hj hacq₂.subset
        simp only [setMsg_msg] at hdestroy
        obtain rfl : s' = s₄ := Option.some.inj (hs'.symm.trans hdestroy)
        have hfirst := (hacq₁.trans hacq₂).release hrel (hacq₁.disjoint hacq₂)
        rw [← Set.union_empty (queueWithId _ _)] at hfirst
        obtain ⟨rfl, hleft, hnone, honly, q, hq⟩ :=
          messageQueueFailCq_lost h hready ⟨hkept₂.trans hkept, rfl, rfl, rfl, rfl⟩ hi (by simp)
            (acquires_of_driver hfirst rfl) (Set.disjoint_empty _)
        refine ⟨honly, ⟨q, ?_⟩, nofun,
          fun _ => ⟨.inl ⟨hnone, rfl⟩, ∅, .inl (.inl rfl), hleft⟩⟩
        rw [hq]
        simp [setMsg, withDriver]
      | some d =>
        rw [hd] at hdata h
        obtain ⟨rfl, rfl⟩ := Prod.mk.inj (Option.some.inj h)
        obtain ⟨hacq₃, hkept₃⟩ := DriverState.acquire_acquires hdata
        refine ⟨⟨hkept₂.trans hkept₃, rfl, rfl, rfl, rfl⟩, ⟨⟨some c, some q, some d⟩, ?_⟩, ?_,
          fun hne => absurd rfl hne⟩
        · simp [setMsg, withDriver]
        · refine fun _ => ⟨_, ⟨.object (.coherent d), .inr rfl⟩,
            .inr ⟨c, q, d, i, j, ?_, hi, hj, hacq₁.disjoint hacq₂, rfl⟩, ?_⟩
          · simp [setMsg, withDriver]
          · exact acquires_of_driver ((hacq₁.trans hacq₂).trans hacq₃) rfl

/-! The creation returns where its queues and messages will be, if nothing is there. -/

theorem messageQueueFailCq_returns {c i : Nat} (hready : v.Ready) (hmin : BCE_QUEUE_USER_MIN ≤ i)
    (hcq : (v.msg ch).cq = some c) (hheld : queueWithId c ⟨i, .cq⟩ ⊆ v.held) :
    ∃ v', v.messageQueueFailCq ch = some (-EINVAL, v') := by
  obtain ⟨s, hdestroy, -⟩ := DriverState.bceDestroyCq_releases hready hmin hheld
  refine ⟨(v.withDriver s).setMsg ch { v.msg ch with cq := none }, ?_⟩
  simp only [messageQueueFailCq, hcq, hdestroy, Option.map_some]

theorem messageQueueFailSq_returns {c q i j : Nat} (hready : v.Ready)
    (hi : BCE_QUEUE_USER_MIN ≤ i) (hj : BCE_QUEUE_USER_MIN ≤ j)
    (hcq : (v.msg ch).cq = some c) (hsq : (v.msg ch).sq = some q)
    (hheld : queueWithId c ⟨i, .cq⟩ ⊆ v.held) (hheld' : queueWithId q ⟨j, .sq⟩ ⊆ v.held)
    (hdisj : Disjoint (queueWithId c ⟨i, .cq⟩) (queueWithId q ⟨j, .sq⟩)) :
    ∃ v', v.messageQueueFailSq ch = some (-EINVAL, v') := by
  obtain ⟨s, hdestroy, hrel, hkept⟩ := DriverState.bceDestroySq_releases hready hj hheld'
  simp only [messageQueueFailSq, hsq, hdestroy, Option.bind_some]
  exact messageQueueFailCq_returns (hkept.ready hready) hi (by simp [hcq])
    (hrel.keeps hheld hdisj.symm)

theorem messageQueueData_returns {c q i j : Nat} {data : Option Nat} {rest : List Place}
    (hready : v.Ready) (hi : BCE_QUEUE_USER_MIN ≤ i) (hj : BCE_QUEUE_USER_MIN ≤ j)
    (hcq : (v.msg ch).cq = some c) (hsq : (v.msg ch).sq = some q)
    (hheld : queueWithId c ⟨i, .cq⟩ ⊆ v.held) (hheld' : queueWithId q ⟨j, .sq⟩ ⊆ v.held)
    (hdisj : Disjoint (queueWithId c ⟨i, .cq⟩) (queueWithId q ⟨j, .sq⟩))
    (h : v.Unused (placesAt (fun p => .object (.coherent p)) data ++ rest)) :
    ∃ status v', v.messageQueueData ch data = some (status, v') ∧
      (status = 0 → v'.Unused rest) := by
  obtain ⟨s, hdata, hunused⟩ := DriverState.acquireAt_returns h
  simp only [messageQueueData, hdata, Option.bind_some]
  cases data with
  | none =>
    obtain rfl := Option.some.inj hdata
    exact returns_of_failure (by decide) (messageQueueFailSq_returns hready hi hj (by simp [hcq])
      (by simp [hsq]) hheld hheld' hdisj)
  | some d => exact ⟨0, _, rfl, fun _ => hunused⟩

theorem messageQueueSq_returns {c i : Nat} {o : MessageQueueOutcome} {rest : List Place}
    (hserving : v.Serving) (hi : BCE_QUEUE_USER_MIN ≤ i) (hcq : (v.msg ch).cq = some c)
    (hheld : queueWithId c ⟨i, .cq⟩ ⊆ v.held)
    (h : v.Unused (o.sq.places ++ (placesAt (fun p => .object (.coherent p)) o.data ++ rest))) :
    ∃ status v', v.messageQueueSq ch o = some (status, v') ∧ (status = 0 → v'.Unused rest) := by
  obtain ⟨sq, s, hsq, hunused⟩ := DriverState.bceCreateSq_returns (v.msg ch).cq
    (some ch.hostName) DMA_TO_DEVICE hserving h
  have hcreated := DriverState.bceCreateSq_created hsq
  have hready := hcreated.kept.ready hserving.ready
  simp only [messageQueueSq, hsq, Option.bind_some]
  cases sq with
  | none =>
    obtain ⟨L, -, hacq⟩ := hcreated.failed rfl
    exact returns_of_failure (by decide)
      (messageQueueFailCq_returns hready hi (by simp [hcq]) (hheld.trans hacq.mono))
  | some q =>
    obtain ⟨j, hj, hacq⟩ := hcreated.done q rfl
    exact messageQueueData_returns hready hi hj (by simp [hcq]) (by simp) (hheld.trans hacq.mono)
      hacq.subset (hacq.fresh.mono_left hheld) hunused

theorem bceVhciMessageQueueCreate_returns {o : VhciChannel → MessageQueueOutcome}
    {rest : List Place} (hserving : v.Serving) (h : v.Unused ((o ch).places ++ rest)) :
    ∃ status v', bceVhciMessageQueueCreate o ch v = some (status, v') ∧
      (status = 0 → v'.Unused rest) := by
  rw [MessageQueueOutcome.places, List.append_assoc, List.append_assoc] at h
  obtain ⟨cq, s, hcq, hunused⟩ := DriverState.bceCreateCq_returns hserving h
  have hcreated := DriverState.bceCreateCq_created hcq
  simp only [bceVhciMessageQueueCreate, hcq, Option.bind_some]
  cases cq with
  | none => exact returns_of_failure (by decide) ⟨_, rfl⟩
  | some c =>
    obtain ⟨i, hi, hacq⟩ := hcreated.done c rfl
    exact messageQueueSq_returns (hcreated.kept.serving hserving) hi (by simp) hacq.subset hunused

theorem bceVhciMessageQueueDestroy_releases (hready : v.Ready) (hrec : RecordsMsg ch F v)
    (hheld : F ⊆ v.held) :
    ∃ v', bceVhciMessageQueueDestroy ch v = some v' ∧ v.MsgOnly v' ∧ v'.msg = v.msg ∧
      Releases held F v v' := by
  obtain ⟨hnone, rfl⟩ | ⟨c, q, d, i, j, hptrs, hi, hj, hdisj, rfl⟩ := hrec
  · refine ⟨v, ?_, ⟨.refl, rfl, rfl, rfl, rfl⟩, rfl, .refl⟩
    simp only [bceVhciMessageQueueDestroy, hnone]
  · rw [Set.union_subset_iff, Set.union_subset_iff] at hheld
    obtain ⟨⟨hcq, hsq⟩, hdata⟩ := hheld
    obtain ⟨s₁, h₁, hrel₁, hkept₁⟩ :=
      DriverState.release_releases (Set.singleton_subset_iff.mp hdata)
    have hobj : ∀ {p : Nat} {q : BceQueue},
        Disjoint ({.object (.coherent d)} : Set Resource) (queueWithId p q) := by
      intro p q
      simp [queueWithId]
    obtain ⟨s₂, h₂, hrel₂, hkept₂⟩ := DriverState.bceDestroySq_releases (hkept₁.ready hready) hj
      (hrel₁.keeps hsq hobj)
    obtain ⟨s₃, h₃, hrel₃, hkept₃⟩ := DriverState.bceDestroyCq_releases
      ((hkept₁.trans hkept₂).ready hready) hi (hrel₂.keeps (hrel₁.keeps hcq hobj) hdisj.symm)
    refine ⟨v.withDriver s₃, ?_, ⟨(hkept₁.trans hkept₂).trans hkept₃, rfl, rfl, rfl, rfl⟩, rfl, ?_⟩
    · simp only [bceVhciMessageQueueDestroy, hptrs, DriverState.releaseAt, Option.bind_some, h₁,
        h₂, h₃, Option.map_some]
    · have hrel : Releases held _ v (v.withDriver s₃) :=
        releases_of_driver ((hrel₁.trans hrel₂).trans hrel₃) rfl
      have hcomm : queueWithId c ⟨i, .cq⟩ ∪ queueWithId q ⟨j, .sq⟩ ∪ {.object (.coherent d)} =
          {.object (.coherent d)} ∪ queueWithId q ⟨j, .sq⟩ ∪ queueWithId c ⟨i, .cq⟩ := by
        rw [Set.union_comm _ {Resource.object (.coherent d)}, Set.union_assoc,
          Set.union_comm (queueWithId q _)]
      rwa [hcomm]

/-! ### Event queues -/

theorem recordsEv_of_ne {q : EventQueuePointers} {ch' : VhciChannel} (hne : ch' ≠ ch)
    (hev : v'.ev = Function.update v.ev ch q) (h : RecordsEv ch' F v) : RecordsEv ch' F v' := by
  unfold RecordsEv
  rw [hev, Function.update_of_ne hne]
  exact h

theorem bceVhciEventQueueCreate_creates {o : VhciChannel → EventQueueOutcome}
    (hready : v.Ready) (h : bceVhciEventQueueCreate o ch v = some (status, v')) :
    v.EvOnly v' ∧ Creates held RecordsEv (o ch).sq.Loses ch v status v' := by
  suffices hsuff : v.EvOnly v' ∧ (∃ q, v'.ev = Function.update v.ev ch q) ∧
      (status = 0 → ∃ F, F.Nonempty ∧ RecordsEv ch F v' ∧ Acquires held F v v') ∧
      (status ≠ 0 → RecordsEv ch ∅ v' ∧ ∃ L, (o ch).sq.Loses L ∧ Acquires held L v v') by
    obtain ⟨honly, ⟨q, hq⟩, hdone, hfailed⟩ := hsuff
    exact ⟨honly, fun j hj F hF => recordsEv_of_ne hj hq hF, hdone, hfailed⟩
  obtain ⟨⟨sq, s₁⟩, hsq, h⟩ := Option.bind_eq_some_iff.mp h
  have hcreated := DriverState.bceCreateSq_created hsq
  cases sq with
  | none =>
    obtain ⟨rfl, rfl⟩ := Prod.mk.inj (Option.some.inj h)
    obtain ⟨L, hL, hacq⟩ := hcreated.failed rfl
    refine ⟨⟨hcreated.kept, rfl, rfl, rfl, rfl⟩, ⟨_, rfl⟩, nofun, fun _ => ⟨?_, L, hL, ?_⟩⟩
    · exact .inl ⟨by simp, rfl⟩
    · exact acquires_of_driver hacq rfl
  | some q =>
    obtain ⟨j, hj, hacq₁⟩ := hcreated.done q rfl
    obtain ⟨s₂, hdata, h⟩ := Option.bind_eq_some_iff.mp h
    cases hd : (o ch).data with
    | none =>
      rw [hd] at hdata h
      obtain rfl := Option.some.inj hdata
      obtain ⟨s₃, hdestroy, heq⟩ := Option.map_eq_some_iff.mp h
      obtain ⟨rfl, rfl⟩ := Prod.mk.inj heq
      simp only [setEv_ev] at hdestroy
      obtain ⟨s', hs', hrel, hkept⟩ := DriverState.bceDestroySq_releases
        (hcreated.kept.ready hready) hj hacq₁.subset
      obtain rfl : s' = s₃ := Option.some.inj (hs'.symm.trans hdestroy)
      refine ⟨⟨hcreated.kept.trans hkept, rfl, rfl, rfl, rfl⟩, ⟨⟨none, none⟩, ?_⟩, nofun,
        fun _ => ⟨.inl ⟨by simp, rfl⟩, ∅, .inl rfl, ?_⟩⟩
      · simp [setEv, withDriver]
      · exact .of_held_eq (hacq₁.undo hrel)
    | some d =>
      rw [hd] at hdata h
      obtain ⟨rfl, rfl⟩ := Prod.mk.inj (Option.some.inj h)
      obtain ⟨hacq₂, hkept₂⟩ := DriverState.acquire_acquires hdata
      refine ⟨⟨hcreated.kept.trans hkept₂, rfl, rfl, rfl, rfl⟩, ⟨⟨some q, some d⟩, ?_⟩, ?_,
        fun hne => absurd rfl hne⟩
      · simp [setEv, withDriver]
      · refine fun _ => ⟨_, ⟨.object (.coherent d), .inr rfl⟩, .inr ⟨q, d, j, ?_, hj, rfl⟩,
          acquires_of_driver (hacq₁.trans hacq₂) rfl⟩
        simp [setEv, withDriver]

/-- The creation returns where the queue and its buffers will be, if nothing is there. -/
theorem bceVhciEventQueueCreate_returns {o : VhciChannel → EventQueueOutcome} {rest : List Place}
    (hserving : v.Serving) (h : v.Unused ((o ch).places ++ rest)) :
    ∃ status v', bceVhciEventQueueCreate o ch v = some (status, v') ∧
      (status = 0 → v'.Unused rest) := by
  rw [EventQueueOutcome.places, List.append_assoc] at h
  obtain ⟨sq, s, hsq, hunused⟩ := DriverState.bceCreateSq_returns v.evCq
    (some ch.firmwareName) DMA_FROM_DEVICE hserving h
  have hcreated := DriverState.bceCreateSq_created hsq
  simp only [bceVhciEventQueueCreate, hsq, Option.bind_some]
  cases sq with
  | none => exact returns_of_failure (by decide) ⟨_, rfl⟩
  | some q =>
    obtain ⟨j, hj, hacq⟩ := hcreated.done q rfl
    obtain ⟨s₁, hdata, hunused₁⟩ := DriverState.acquireAt_returns hunused
    have hdata : ((v.withDriver s).setEv ch { v.ev ch with sq := some q }).acquireAt .coherent
        (o ch).data = some s₁ := hdata
    simp only [hdata, Option.bind_some]
    cases hd : (o ch).data with
    | none =>
      -- no memory for the messages: the queue is destroyed
      rw [hd] at hdata
      obtain rfl : s = s₁ := Option.some.inj hdata
      obtain ⟨s₂, hdestroy, -⟩ := DriverState.bceDestroySq_releases
        (hcreated.kept.ready hserving.ready) hj hacq.subset
      refine returns_of_failure (by decide) ⟨_, Option.map_eq_some_iff.mpr ⟨s₂, ?_, rfl⟩⟩
      simp only [setEv_ev]
      exact hdestroy
    | some d => exact ⟨0, _, rfl, fun _ => hunused₁⟩

theorem bceVhciEventQueueDestroy_releases (hready : v.Ready) (hrec : RecordsEv ch F v)
    (hheld : F ⊆ v.held) :
    ∃ v', bceVhciEventQueueDestroy ch v = some v' ∧ v.EvOnly v' ∧ v'.ev = v.ev ∧
      Releases held F v v' := by
  obtain ⟨hnone, rfl⟩ | ⟨q, d, j, hptrs, hj, rfl⟩ := hrec
  · refine ⟨v, ?_, ⟨.refl, rfl, rfl, rfl, rfl⟩, rfl, .refl⟩
    simp only [bceVhciEventQueueDestroy, hnone]
  · rw [Set.union_subset_iff] at hheld
    obtain ⟨hsq, hdata⟩ := hheld
    obtain ⟨s₁, h₁, hrel₁, hkept₁⟩ :=
      DriverState.release_releases (Set.singleton_subset_iff.mp hdata)
    obtain ⟨s₂, h₂, hrel₂, hkept₂⟩ := DriverState.bceDestroySq_releases (hkept₁.ready hready) hj
      (hrel₁.keeps hsq (by simp [queueWithId]))
    refine ⟨v.withDriver s₂, ?_, ⟨hkept₁.trans hkept₂, rfl, rfl, rfl, rfl⟩, rfl, ?_⟩
    · simp only [bceVhciEventQueueDestroy, hptrs, DriverState.releaseAt, Option.bind_some, h₁, h₂,
        Option.map_some]
    · rw [Set.union_comm]
      exact releases_of_driver (hrel₁.trans hrel₂) rfl

/-! ### All of them -/

/-- What the message queues have their pointers to, each what no other does. -/
def MsgHeld (Fs : List (Set Resource)) (v : BceVhciLife) : Prop :=
  List.Forall₂ (fun ch F => RecordsMsg ch F v) VhciChannel.all Fs ∧ Fs.Pairwise Disjoint

/-- The same for the event queues and their completion queue -/
def EvHeld (C : Set Resource) (Fs : List (Set Resource)) (v : BceVhciLife) : Prop :=
  (v.evCq = none ∧ C = ∅ ∨
    ∃ cq i, v.evCq = some cq ∧ BCE_QUEUE_USER_MIN ≤ i ∧ C = queueWithId cq ⟨i, .cq⟩) ∧
  List.Forall₂ (fun ch F => RecordsEv ch F v) VhciChannel.all Fs ∧ Fs.Pairwise Disjoint

theorem bceVhciDestroyMessageQueues_releases {Fs : List (Set Resource)} (hready : v.Ready)
    (h : MsgHeld Fs v) (hheld : totalOf Fs ⊆ v.held) :
    ∃ v', v.bceVhciDestroyMessageQueues = some v' ∧ v.MsgOnly v' ∧ v'.msg = v.msg ∧
      Releases held (totalOf Fs) v v' := by
  obtain ⟨v', hv', hI, hrel, -⟩ := releaseAll_releases held RecordsMsg
    (fun w => v.MsgOnly w ∧ w.msg = v.msg) (fun ch w F hI hF hsub => by
      obtain ⟨w', hw', honly, hmsg, hrel⟩ :=
        bceVhciMessageQueueDestroy_releases (hI.1.kept.ready hready) hF hsub
      refine ⟨w', hw', ⟨hI.1.trans honly, hmsg.trans hI.2⟩, hrel, fun j G hG => ?_⟩
      unfold RecordsMsg
      rw [hmsg]
      exact hG) ⟨⟨.refl, rfl, rfl, rfl, rfl⟩, rfl⟩ h.1 h.2 hheld
  exact ⟨v', hv', hI.1, hI.2, hrel⟩

theorem bceVhciDestroyEventQueues_releases {C : Set Resource} {Fs : List (Set Resource)}
    (hready : v.Ready) (h : EvHeld C Fs v) (hdisj : Disjoint (totalOf Fs) C)
    (hheld : totalOf Fs ∪ C ⊆ v.held) :
    ∃ v', v.bceVhciDestroyEventQueues = some v' ∧ v.EvOnly v' ∧ v'.ev = v.ev ∧
      Releases held (totalOf Fs ∪ C) v v' := by
  obtain ⟨hcq, hrec, hpair⟩ := h
  rw [Set.union_subset_iff] at hheld
  obtain ⟨w, hw, hI, hrel, -⟩ := releaseAll_releases held RecordsEv
    (fun w => v.EvOnly w ∧ w.ev = v.ev) (fun ch w F hI hF hsub => by
      obtain ⟨w', hw', honly, hev, hrel⟩ :=
        bceVhciEventQueueDestroy_releases (hI.1.kept.ready hready) hF hsub
      refine ⟨w', hw', ⟨hI.1.trans honly, hev.trans hI.2⟩, hrel, fun j G hG => ?_⟩
      unfold RecordsEv
      rw [hev]
      exact hG) ⟨⟨.refl, rfl, rfl, rfl, rfl⟩, rfl⟩ hrec hpair hheld.1
  obtain ⟨hnone, rfl⟩ | ⟨c, i, hc, hi, rfl⟩ := hcq
  · refine ⟨w, ?_, hI.1, hI.2, ?_⟩
    · simp only [bceVhciDestroyEventQueues, hw, Option.bind_some, hI.1.evCq, hnone]
    · rwa [Set.union_empty]
  · obtain ⟨s, hs, hrel', hkept⟩ := DriverState.bceDestroyCq_releases (hI.1.kept.ready hready) hi
      (hrel.keeps hheld.2 hdisj)
    refine ⟨w.withDriver s, ?_, hI.1.trans ⟨hkept, rfl, rfl, rfl, rfl⟩, hI.2, ?_⟩
    · simp only [bceVhciDestroyEventQueues, hw, Option.bind_some, hI.1.evCq, hc, hs,
        Option.map_some]
    · exact hrel.trans (releases_of_driver hrel' rfl)

/-- A queue that was acquired and released is not live, if nothing but ids is held
besides what was before. -/
theorem dead_of_released {w : BceVhciLife} {c : Nat} {q : BceQueue} {L : Set Resource}
    (hq : .queue c q ∈ F) (hacq : Acquires held F v w) (hL : ∀ c q, .queue c q ∉ L)
    (hheld : v'.held = v.held ∪ L) : v'.mem c = none := by
  by_contra hlive
  obtain ⟨q', hq'⟩ := Option.ne_none_iff_exists'.mp hlive
  have hbefore : Resource.queue c q' ∈ v.held := by
    have hmem : Resource.queue c q' ∈ v'.held := hq'
    rw [hheld] at hmem
    exact hmem.resolve_right (hL c q')
  -- there is one queue at an address
  have hboth : w.mem c = some q' ∧ w.mem c = some q :=
    ⟨hacq.mono hbefore, hacq.subset hq⟩
  obtain rfl := Option.some.inj (hboth.1.symm.trans hboth.2)
  exact Set.disjoint_left.mp hacq.fresh hbefore hq

/-- The pointers of the message queues are null, or the first of them is to a queue that
is not live. -/
def MsgStale (v : BceVhciLife) : Prop :=
  (∀ ch, (v.msg ch).cq = none) ∨ ∃ cq, (v.msg .commands).cq = some cq ∧ v.mem cq = none

/-- What the creations up to the first that fails leave. -/
theorem messageQueues_recorded {o : VhciChannel → MessageQueueOutcome} (hready : v.Ready)
    (hnull : ∀ ch, (v.msg ch).cq = none)
    (h : untilFailure (bceVhciMessageQueueCreate o) VhciChannel.all v = some (status, v')) :
    v.MsgOnly v' ∧ ∃ Fs, MsgHeld Fs v' ∧ FirstOnes Fs ∧ (status = 0 → ∀ F ∈ Fs, F.Nonempty) ∧
      ∃ L, (status = 0 → L = ∅) ∧ (status ≠ 0 → ∃ ch, (o ch).Loses L) ∧
        Disjoint (totalOf Fs) L ∧ Acquires held (totalOf Fs ∪ L) v v' := by
  obtain ⟨honly, -, Fs, hrec, hpair, hfirst, hall, L, hL⟩ :=
    untilFailure_creates held RecordsMsg (fun w => v.MsgOnly w)
      (fun L => ∃ ch, (o ch).Loses L) (fun ch w status w' hI hnone hw => by
        obtain ⟨honly, hothers, hdone, hfailed⟩ :=
          bceVhciMessageQueueCreate_creates (hI.kept.ready hready) hw
        refine ⟨hI.trans honly, hothers, hdone, fun hne => ?_⟩
        obtain ⟨hnone, L, hL, hacq⟩ := hfailed hne
        exact ⟨hnone, L, ⟨ch, hL⟩, hacq⟩)
      ⟨.refl, rfl, rfl, rfl, rfl⟩ VhciChannel.all_nodup (fun ch _ => .inl ⟨hnull ch, rfl⟩) h
  exact ⟨honly, Fs, ⟨hrec, hpair⟩, hfirst, hall, L, hL⟩

theorem bceVhciCreateMessageQueues_returns {o : VhciChannel → MessageQueueOutcome}
    {rest : List Place} (hserving : v.Serving) (hnull : ∀ ch, (v.msg ch).cq = none)
    (h : v.Unused (VhciChannel.all.flatMap (fun ch => (o ch).places) ++ rest)) :
    ∃ status v', v.bceVhciCreateMessageQueues o = some (status, v') ∧
      (status = 0 → v'.Unused rest) := by
  obtain ⟨st, w, hcreate, hrest⟩ := untilFailure_returns (fun w : BceVhciLife => w.Serving)
    (fun l w => w.Unused l) (fun ch => (o ch).places) (fun ch w rest hI hw => by
      obtain ⟨status, w', hstep, hunused⟩ := bceVhciMessageQueueCreate_returns hI hw
      obtain ⟨honly, -⟩ := bceVhciMessageQueueCreate_creates hI.ready hstep
      exact ⟨status, w', hstep, fun h0 => ⟨honly.kept.serving hI, hunused h0⟩⟩) hserving h
  simp only [bceVhciCreateMessageQueues, hcreate, Option.bind_some]
  split
  · obtain ⟨honly, Fs, hheld, -, -, L, -, -, -, hacq⟩ :=
      messageQueues_recorded hserving.ready hnull hcreate
    obtain ⟨u, hdestroy, -⟩ := bceVhciDestroyMessageQueues_releases
      (honly.kept.ready hserving.ready) hheld (Set.subset_union_left.trans hacq.subset)
    exact ⟨-EINVAL, u, by rw [hdestroy, Option.map_some], fun h0 => absurd h0 (by decide)⟩
  · next hgo => exact ⟨0, w, rfl, fun _ => (hrest (not_not.mp hgo)).2⟩

theorem bceVhciCreateMessageQueues_created {o : VhciChannel → MessageQueueOutcome}
    (hready : v.Ready) (hnull : ∀ ch, (v.msg ch).cq = none)
    (h : v.bceVhciCreateMessageQueues o = some (status, v')) :
    v.MsgOnly v' ∧
    (status = 0 → ∃ Fs, MsgHeld Fs v' ∧ (∀ F ∈ Fs, F.Nonempty) ∧
      Acquires held (totalOf Fs) v v') ∧
    (status ≠ 0 → v'.MsgStale ∧ ∃ ch L, (o ch).Loses L ∧ Acquires held L v v') := by
  obtain ⟨⟨st, w⟩, hcreate, h⟩ := Option.bind_eq_some_iff.mp h
  obtain ⟨honly, Fs, ⟨hrec, hpair⟩, hfirst, hall, L, hzero, hlost, hapart, hacq⟩ :=
    messageQueues_recorded hready hnull hcreate
  simp only at h
  split at h
  · next hfail =>
    obtain ⟨w', hw', heq⟩ := Option.map_eq_some_iff.mp h
    obtain ⟨rfl, rfl⟩ := Prod.mk.inj heq
    obtain ⟨ch, hL⟩ := hlost hfail
    obtain ⟨u, hu, honly', hmsg, hrel⟩ := bceVhciDestroyMessageQueues_releases
      (honly.kept.ready hready) ⟨hrec, hpair⟩ (Set.subset_union_left.trans hacq.subset)
    obtain rfl : u = w' := Option.some.inj (hu.symm.trans hw')
    have hleft : Acquires held L v u :=
      ((Set.union_comm _ L) ▸ hacq).release hrel hapart.symm
    refine ⟨honly.trans honly', nofun, fun _ => ⟨?_, ch, L, hL, hleft⟩⟩
    -- the pointers are as the creations left them
    have hptr : ∀ ch F, RecordsMsg ch F w → F = ∅ → (w.msg ch).cq = none := by
      rintro ch F (⟨hcq, -⟩ | ⟨c, q, d, i, j, -, -, -, -, hF⟩) hempty
      · exact hcq
      · exact absurd (hF.symm.trans hempty) (Set.Nonempty.ne_empty ⟨_, .inr rfl⟩)
    unfold MsgStale
    rw [hmsg]
    obtain _ | @⟨_, F, _, Fs, hF, hFs⟩ := hrec
    obtain ⟨hcq, rfl⟩ | ⟨c, q, d, i, j, hptrs, -, -, -, rfl⟩ := hF
    · have hall := hfirst.all_empty rfl
      left
      intro ch
      obtain ⟨G, hG, hch⟩ := exists_records (l := VhciChannel.all) (.cons (.inl ⟨hcq, rfl⟩) hFs)
        (VhciChannel.mem_all ch)
      exact hptr ch G hch (hall G hG)
    · right
      refine ⟨c, by rw [hptrs], dead_of_released (q := ⟨i, .cq⟩) ?_ hacq hL.no_queue hleft.held_eq⟩
      exact .inl (.inl (.inl (.inl (.inl rfl))))
  · next hgo =>
    obtain ⟨rfl, rfl⟩ := Prod.mk.inj (Option.some.inj h)
    obtain rfl := hzero (not_not.mp hgo)
    rw [Set.union_empty] at hacq
    exact ⟨honly, fun _ => ⟨Fs, ⟨hrec, hpair⟩, hall (not_not.mp hgo), hacq⟩,
      fun hne => absurd rfl hne⟩

end BceVhciLife

end BceDriver
