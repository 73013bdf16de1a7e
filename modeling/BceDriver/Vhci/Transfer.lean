import BceDriver.Vhci.Message
import BceDriver.Lib.FaultState

/-!
# Transfer queues (`vhci/transfer.h`, `vhci/transfer.c`)

A transfer queue drives the URBs linked on one USB endpoint.

- `Urb` is the `struct urb` of the USB core, `BceVhciUrb` the driver's own state
  for it, reached through `hcpriv`. Both are named by the address they live at;
  a `bce_vhci_urb` that is not allocated, or freed, has no entry, and reading it
  is a fault.
- `TransferSq` is a submission queue with what the device has of it: `inflight`
  are the elements submitted and neither completed nor aborted, `posted` the
  completions the device has written and `bce_handle_cq_completion` has not yet
  accepted, `pending` the accepted ones the driver has not consumed. These
  lists, `submitted`, and `Urb.enqueue` are bookkeeping the code never reads.
- A function that runs under `urb_lock` is a `TransferM` program. Controller
  commands, waits and flushes are outside; what they report is a parameter.

`u32` arithmetic is `% 2 ^ 32`. `kmalloc` and `kzalloc` succeed, as the code
assumes.
-/

namespace BceDriver

/-! ## Data -/

/-- `bce_vhci_command`, the ones sent or received here -/
def BCE_VHCI_CMD_ENDPOINT_SET_STATE : Nat := 0x42
def BCE_VHCI_CMD_ENDPOINT_REQUEST_STATE : Nat := 0x43
def BCE_VHCI_CMD_TRANSFER_REQUEST : Nat := 0x1000
def BCE_VHCI_CMD_CONTROL_TRANSFER_STATUS : Nat := 0x1005

/-- `bce_vhci_endpoint_state` -/
def BCE_VHCI_ENDPOINT_ACTIVE : Nat := 0
def BCE_VHCI_ENDPOINT_PAUSED : Nat := 1
def BCE_VHCI_ENDPOINT_STALLED : Nat := 2

/-- `sizeof(struct usb_ctrlrequest)` -/
def usbCtrlrequestSize : Nat := 8

inductive DmaDataDirection where
  | toDevice
  | fromDevice
deriving DecidableEq, Repr

/-- `bce_vhci_urb_state` -/
inductive BceVhciUrbState where
  | initPaused
  | waitingForTransferRequest
  | waitingForCompletion
  | dataTransferComplete
  | controlWaitingForSetupRequest
  | controlWaitingForSetupCompletion
  | controlComplete
deriving DecidableEq, Repr

structure BceVhciUrb where
  urb : Nat
  dir : DmaDataDirection
  isControl : Bool
  state : BceVhciUrbState
  receivedStatus : Nat
  sendOffset : Nat
  receiveOffset : Nat
deriving DecidableEq, Repr

/-- `struct urb`. The first four fields are its owner's. -/
structure Urb where
  dirIn : Bool
  transferBufferLength : Nat
  transferDma : Nat
  setupDma : Nat
  actualLength : Nat
  status : Int
  unlinked : Int
  hcpriv : Option Nat
  /-- the `bce_vhci_urb` of the last enqueue: the name of that enqueue -/
  enqueue : Nat
deriving DecidableEq, Repr

inductive ElementKind where
  | setup
  | data
deriving DecidableEq, Repr

/-- An element of `sq_in` or `sq_out`: the `bce_vhci_urb` it was submitted for,
and what it describes. -/
structure TransferElement where
  owner : Nat
  kind : ElementKind
  addr : Nat
  length : Nat
deriving DecidableEq, Repr

structure TransferSq where
  sq : BceQueueSq
  /-- every element ever submitted -/
  submitted : List TransferElement
  inflight : List TransferElement
  posted : List (TransferElement × BceSqCompletionData)
  pending : List (TransferElement × BceSqCompletionData)

structure BceVhciTransferQueue where
  bEndpointAddress : Nat
  devAddr : Nat
  state : Nat
  active : Bool
  stalled : Bool
  fwPaused : Bool
  /-- `sq_in` and `sq_out`, by the direction of their data -/
  sqs : DmaDataDirection → Option TransferSq
  evq : List BceVhciMessage
  givebackUrbList : List Nat
  /-- `endp->urb_list` -/
  urbList : List Nat
  urbs : Nat → Urb
  vurbs : Nat → Option BceVhciUrb
  /-- the address the next `kzalloc` of a `bce_vhci_urb` returns -/
  nextVurb : Nat
  msgAsynchronous : BceVhciMessageQueue
  /-- how the waits for a slot of `msg_asynchronous` will end -/
  asyncWaits : List Wakeup
  /-- `w_reset` is queued on `tq_state_wq` -/
  resetQueued : Bool

/-- `endp->desc.bEndpointAddress & 0x8F` -/
def BceVhciTransferQueue.endpAddr (q : BceVhciTransferQueue) : Nat :=
  q.bEndpointAddress &&& 0x8F

/-- `usb_endpoint_num(&urb->ep->desc) == 0` -/
def BceVhciTransferQueue.isControl (q : BceVhciTransferQueue) : Bool :=
  q.bEndpointAddress &&& 0x0F = 0

/-- What stops a kernel thread. -/
inductive Fault where
  | nullDeref
  | useAfterFree
  /-- a loop outran the bound the model gives it -/
  | hang
deriving DecidableEq, Repr

abbrev TransferM := StateT BceVhciTransferQueue (Except Fault)

/-! ## Memory and submission queues -/

namespace BceVhciTransferQueue

def setVurb (q : BceVhciTransferQueue) (urb : Nat) (v : BceVhciUrb) : BceVhciTransferQueue :=
  { q with vurbs := Function.update q.vurbs urb (some v) }

def setUrb (q : BceVhciTransferQueue) (u : Nat) (x : Urb) : BceVhciTransferQueue :=
  { q with urbs := Function.update q.urbs u x }

def setSq (q : BceVhciTransferQueue) (d : DmaDataDirection) (t : TransferSq) :
    BceVhciTransferQueue :=
  { q with sqs := Function.update q.sqs d (some t) }

end BceVhciTransferQueue

def readVurb (urb : Nat) : TransferM BceVhciUrb := fun q =>
  match q.vurbs urb with
  | some v => .ok (v, q)
  | none => .error .useAfterFree

/-- Write fields of the `bce_vhci_urb` at `urb`. -/
def modifyVurb (urb : Nat) (f : BceVhciUrb → BceVhciUrb) : TransferM PUnit := fun q =>
  match q.vurbs urb with
  | some v => .ok (⟨⟩, q.setVurb urb (f v))
  | none => .error .useAfterFree

/-- `kfree` of a `bce_vhci_urb`; a second one is a fault. -/
def kfreeVurb (urb : Nat) : TransferM PUnit := fun q =>
  match q.vurbs urb with
  | some _ => .ok (⟨⟩, { q with vurbs := Function.update q.vurbs urb none })
  | none => .error .useAfterFree

/-- `urb->hcpriv`, which is going to be dereferenced. -/
def readHcpriv (u : Nat) : TransferM Nat := fun q =>
  match (q.urbs u).hcpriv with
  | some urb => .ok (urb, q)
  | none => .error .nullDeref

/-- `bce_reserve_submission` on `sq_in` or `sq_out`. Slots of these queues are
given back under `urb_lock` only, so a wait for one runs out. -/
def reserveTransferSq (d : DmaDataDirection) (timeout : Nat) : TransferM Int := fun q =>
  match q.sqs d with
  | some t =>
    let r := bceReserveSubmissionThrough [] (bceReserveSubmission t.sq timeout) timeout
    .ok (r.1, q.setSq d { t with sq := r.2.1 })
  | none => .error .nullDeref

/-- `bce_next_submission`, `bce_set_submission_single` and
`bce_submit_to_device` of one element. -/
def TransferSq.submit (t : TransferSq) (e : TransferElement) : TransferSq :=
  let s := bceNextSubmission t.sq
  { t with
    sq := bceSubmitToDevice (bceSetSubmissionSingle s.2 s.1 e.addr e.length)
    submitted := t.submitted ++ [e]
    inflight := t.inflight ++ [e] }

def submitTransferSq (d : DmaDataDirection) (e : TransferElement) : TransferM PUnit := fun q =>
  match q.sqs d with
  | some t => .ok (⟨⟩, q.setSq d (t.submit e))
  | none => .error .nullDeref

/-- `bce_reserve_submission` on `msg_asynchronous`: the status, and what is left
of the timeout. -/
def reserveMsgAsynchronous (timeout : Nat) : TransferM (Int × Nat) := fun q =>
  let r := bceReserveSubmissionThrough q.asyncWaits
    (bceReserveSubmission q.msgAsynchronous.sq timeout) timeout
  .ok ((r.1, r.2.2.1), { q with
    msgAsynchronous := { q.msgAsynchronous with sq := r.2.1 }, asyncWaits := r.2.2.2 })

def cancelMsgAsynchronous : TransferM PUnit :=
  modify fun q => { q with msgAsynchronous := { q.msgAsynchronous with
    sq := bceCancelSubmissionReservation q.msgAsynchronous.sq } }

def writeMsgAsynchronous (msg : BceVhciMessage) : TransferM PUnit :=
  modify fun q => { q with msgAsynchronous := bceVhciMessageQueueWrite q.msgAsynchronous msg }

/-- `usb_hcd_unlink_urb_from_ep` -/
def usbHcdUnlinkUrbFromEp (u : Nat) : TransferM PUnit :=
  modify fun q => { q with urbList := q.urbList.erase u }

/-- `queue_work` of `w_reset`; it is queued at most once. -/
def bceVhciTransferQueueRequestReset : TransferM PUnit :=
  modify fun q => { q with resetQueued := true }

/-! ## Ending a URB -/

/-- `bce_vhci_urb_complete` -/
def bceVhciUrbComplete (urb : Nat) (status : Int) : TransferM PUnit := do
  let v ← readVurb urb
  usbHcdUnlinkUrbFromEp v.urb
  modify fun q => q.setUrb v.urb { q.urbs v.urb with hcpriv := none, status := status }
  kfreeVurb urb
  modify fun q => { q with givebackUrbList := q.givebackUrbList ++ [v.urb] }

/-- `bce_vhci_urb_control_check_status` -/
def bceVhciUrbControlCheckStatus (urb : Nat) : TransferM Int := do
  let v ← readVurb urb
  if v.receivedStatus = 0 then
    return 0
  else if v.state = .dataTransferComplete ∨
      (v.receivedStatus ≠ BCE_VHCI_SUCCESS ∧ v.state ≠ .controlWaitingForSetupRequest ∧
        v.state ≠ .controlWaitingForSetupCompletion) then
    modifyVurb urb fun v => { v with state := .controlComplete }
    if v.receivedStatus ≠ BCE_VHCI_SUCCESS then
      modify fun q => { q with active := false, stalled := true }
      bceVhciUrbComplete urb (-EPIPE)
      if (← get).urbList ≠ [] then
        bceVhciTransferQueueRequestReset
      return -ENOENT
    else
      bceVhciUrbComplete urb 0
      return -ENOENT
  else
    return 0

/-! ## The data phase -/

/-- The message `bce_vhci_urb_data_transfer_in` sends. -/
def transferRequestMessage (q : BceVhciTransferQueue) (trLen : Nat) : BceVhciMessage where
  cmd := BCE_VHCI_CMD_TRANSFER_REQUEST
  status := 0
  param1 := (q.endpAddr <<< 8) ||| q.devAddr
  param2 := trLen

/-- `bce_vhci_urb_data_transfer_in`; the timeout is `0` for a null pointer. -/
def bceVhciUrbDataTransferIn (urb : Nat) (timeout : Nat) : TransferM Int := do
  let reservation1 ← reserveMsgAsynchronous timeout
  if reservation1.1 ≠ 0 then
    return -ENOMEM
  else
    let reservation2 ← reserveTransferSq .fromDevice reservation1.2
    if reservation2 ≠ 0 then
      cancelMsgAsynchronous
      return -ENOMEM
    else
      modifyVurb urb fun v => { v with sendOffset := v.receiveOffset }
      let v ← readVurb urb
      let q ← get
      let u := q.urbs v.urb
      let trLen := (u.transferBufferLength + 2 ^ 32 - v.sendOffset) % 2 ^ 32
      writeMsgAsynchronous (transferRequestMessage q trLen)
      submitTransferSq .fromDevice ⟨urb, .data, u.transferDma + v.sendOffset, trLen⟩
      modifyVurb urb fun v => { v with state := .waitingForCompletion }
      return 0

/-- `bce_vhci_urb_data_start` -/
def bceVhciUrbDataStart (urb : Nat) (timeout : Nat) : TransferM Int := do
  let v ← readVurb urb
  match v.dir with
  | .toDevice =>
    if ((← get).urbs v.urb).transferBufferLength > 0 then
      modifyVurb urb fun v => { v with state := .waitingForTransferRequest }
      return 0
    else
      modifyVurb urb fun v => { v with state := .dataTransferComplete }
      return 0
  | .fromDevice => bceVhciUrbDataTransferIn urb timeout

/-- `bce_vhci_urb_send_out_data` -/
def bceVhciUrbSendOutData (urb : Nat) (kind : ElementKind) (addr size : Nat) :
    TransferM Int := do
  let reservation ← reserveTransferSq .toDevice 0
  if reservation ≠ 0 then
    return -EPIPE
  else
    submitTransferSq .toDevice ⟨urb, kind, addr, size⟩
    return 0

/-- `bce_vhci_urb_data_update` -/
def bceVhciUrbDataUpdate (urb : Nat) (msg : BceVhciMessage) : TransferM Int := do
  let v ← readVurb urb
  if v.state = .waitingForTransferRequest ∧ msg.cmd = BCE_VHCI_CMD_TRANSFER_REQUEST then
    let u := (← get).urbs v.urb
    let trLen :=
      min ((u.transferBufferLength + 2 ^ 32 - v.sendOffset) % 2 ^ 32) (msg.param2 % 2 ^ 32)
    let status ← bceVhciUrbSendOutData urb .data (u.transferDma + v.sendOffset) trLen
    if status ≠ 0 then
      return status
    else
      modifyVurb urb fun v => { v with
        sendOffset := (v.sendOffset + trLen) % 2 ^ 32
        state := .waitingForCompletion }
      return 0
  else
    -- expected or not, the message is for later
    return -EAGAIN

/-- `bce_vhci_urb_data_transfer_completion` -/
def bceVhciUrbDataTransferCompletion (urb : Nat) (c : BceSqCompletionData) : TransferM Int := do
  let v ← readVurb urb
  if v.state = .waitingForCompletion then
    let receiveOffset := (v.receiveOffset + c.dataSize) % 2 ^ 32
    modifyVurb urb fun v => { v with receiveOffset := receiveOffset }
    let u := (← get).urbs v.urb
    if v.dir = .fromDevice ∨ receiveOffset ≥ u.transferBufferLength then
      modify fun q => q.setUrb v.urb { q.urbs v.urb with actualLength := receiveOffset }
      modifyVurb urb fun v => { v with state := .dataTransferComplete }
      if !v.isControl then
        bceVhciUrbComplete urb 0
        return -ENOENT
      else
        return 0
    else
      return 0
  else
    return 0

/-! ## Messages and completions for one URB -/

/-- `bce_vhci_urb_control_update` -/
def bceVhciUrbControlUpdate (urb : Nat) (msg : BceVhciMessage) : TransferM Int := do
  let v ← readVurb urb
  if msg.cmd = BCE_VHCI_CMD_CONTROL_TRANSFER_STATUS then
    modifyVurb urb fun v => { v with receivedStatus := msg.status }
    bceVhciUrbControlCheckStatus urb
  else if v.state = .controlWaitingForSetupRequest then
    if msg.cmd = BCE_VHCI_CMD_TRANSFER_REQUEST then
      let u := (← get).urbs v.urb
      let status ← bceVhciUrbSendOutData urb .setup u.setupDma usbCtrlrequestSize
      if status ≠ 0 then
        return 0
      else
        modifyVurb urb fun v => { v with state := .controlWaitingForSetupCompletion }
        return 0
    else
      return -EAGAIN
  else if v.state = .waitingForTransferRequest ∨ v.state = .waitingForCompletion then
    let status ← bceVhciUrbDataUpdate urb msg
    if status ≠ 0 then
      return status
    else
      bceVhciUrbControlCheckStatus urb
  else
    return -EAGAIN

/-- `bce_vhci_urb_control_transfer_completion` -/
def bceVhciUrbControlTransferCompletion (urb : Nat) (c : BceSqCompletionData) :
    TransferM Int := do
  let v ← readVurb urb
  if v.state = .controlWaitingForSetupCompletion then
    -- a mismatch of the data size is only reported
    let status ← bceVhciUrbDataStart urb 1000
    if status ≠ 0 then
      bceVhciUrbComplete urb status
      return -ENOENT
    else
      return 0
  else if v.state = .waitingForTransferRequest ∨ v.state = .waitingForCompletion then
    let status ← bceVhciUrbDataTransferCompletion urb c
    if status ≠ 0 then
      return status
    else
      bceVhciUrbControlCheckStatus urb
  else
    return 0

/-- `bce_vhci_urb_update` -/
def bceVhciUrbUpdate (urb : Nat) (msg : BceVhciMessage) : TransferM Int := do
  let v ← readVurb urb
  if v.isControl then
    bceVhciUrbControlUpdate urb msg
  else
    bceVhciUrbDataUpdate urb msg

/-- `bce_vhci_urb_transfer_completion` -/
def bceVhciUrbTransferCompletion (urb : Nat) (c : BceSqCompletionData) : TransferM Int := do
  let v ← readVurb urb
  if v.isControl then
    bceVhciUrbControlTransferCompletion urb c
  else
    bceVhciUrbDataTransferCompletion urb c

/-- `bce_vhci_urb_init` -/
def bceVhciUrbInit (urb : Nat) : TransferM Int := do
  let v ← readVurb urb
  if v.isControl then
    modifyVurb urb fun v => { v with state := .controlWaitingForSetupRequest }
    return 0
  else
    bceVhciUrbDataStart urb 0

/-- `bce_vhci_urb_resume` -/
def bceVhciUrbResume (urb : Nat) : TransferM PUnit := do
  let v ← readVurb urb
  match v.state with
  | .initPaused =>
    -- the status of `bce_vhci_urb_init` is dropped
    let _ ← bceVhciUrbInit urb
    pure ⟨⟩
  | .waitingForCompletion =>
    let status ← bceVhciUrbDataTransferIn urb 0
    if status ≠ 0 then
      bceVhciUrbComplete urb status
    else
      pure ⟨⟩
  | _ => pure ⟨⟩

/-! ## Messages and completions for the queue -/

/-- A round of `bce_vhci_transfer_queue_deliver_pending`: whether another one follows. -/
def bceVhciTransferQueueDeliverPendingRound : TransferM Bool := do
  let q ← get
  match q.urbList, q.evq with
  | u :: _, msg :: _ =>
    let urb ← readHcpriv u
    let status ← bceVhciUrbUpdate urb msg
    if status = -EAGAIN then
      return false
    else
      modify fun q => { q with evq := q.evq.tail }
      return true
  | _, _ => return false

def bceVhciTransferQueueDeliverPendingLoop : Nat → TransferM PUnit
  | 0 => pure ⟨⟩
  | rounds + 1 => do
    if ← bceVhciTransferQueueDeliverPendingRound then
      bceVhciTransferQueueDeliverPendingLoop rounds
    else
      pure ⟨⟩

/-- `bce_vhci_transfer_queue_deliver_pending`. A round that another one follows
takes a message off `evq`. -/
def bceVhciTransferQueueDeliverPending : TransferM PUnit := do
  bceVhciTransferQueueDeliverPendingLoop (← get).evq.length

/-- `bce_vhci_transfer_queue_defer_event` -/
def bceVhciTransferQueueDeferEvent (msg : BceVhciMessage) : TransferM PUnit :=
  modify fun q => { q with evq := q.evq ++ [msg] }

/-- `bce_vhci_transfer_queue_event` once the deferred messages are delivered. -/
def bceVhciTransferQueueEventBody (msg : BceVhciMessage) : TransferM PUnit := do
  let q ← get
  if msg.cmd = BCE_VHCI_CMD_TRANSFER_REQUEST ∧ (q.evq ≠ [] ∨ q.urbList = []) then
    bceVhciTransferQueueDeferEvent msg
  else
    match q.urbList with
    | [] => pure ⟨⟩
    | u :: _ =>
      let turb ← readHcpriv u
      let status ← bceVhciUrbUpdate turb msg
      if status = -EAGAIN then
        bceVhciTransferQueueDeferEvent msg
      else
        pure ⟨⟩

/-- `bce_vhci_transfer_queue_event` up to its unlock. -/
def bceVhciTransferQueueEvent (msg : BceVhciMessage) : TransferM PUnit := do
  bceVhciTransferQueueDeliverPending
  bceVhciTransferQueueEventBody msg

/-- `bce_next_completion` on `sq_in` or `sq_out`. -/
def nextTransferCompletion (d : DmaDataDirection) : TransferM (Option BceSqCompletionData) :=
  fun q =>
    match q.sqs d with
    | some t =>
      match bceNextCompletion t.sq with
      | some (c, sq) =>
        .ok (some c, q.setSq d { t with sq := sq, pending := t.pending.tail })
      | none => .ok (none, q)
    | none => .error .nullDeref

/-- `bce_notify_submission_complete` on `sq_in` or `sq_out`. -/
def notifyTransferSq (d : DmaDataDirection) : TransferM PUnit := fun q =>
  match q.sqs d with
  | some t => .ok (⟨⟩, q.setSq d { t with sq := bceNotifySubmissionComplete t.sq })
  | none => .error .nullDeref

/-- A round of the loop of `bce_vhci_transfer_queue_completion`. -/
def bceVhciTransferQueueCompletionRound (d : DmaDataDirection) : TransferM Bool := do
  match ← nextTransferCompletion d with
  | none => return false
  | some c =>
    if c.status = BCE_COMPLETION_ABORTED then
      return true
    else
      match (← get).urbList with
      | [] => return true
      | u :: _ =>
        let urb ← readHcpriv u
        let _ ← bceVhciUrbTransferCompletion urb c
        notifyTransferSq d
        return true

def bceVhciTransferQueueCompletionLoop (d : DmaDataDirection) : Nat → TransferM PUnit
  | 0 => throw .hang
  | rounds + 1 => do
    if ← bceVhciTransferQueueCompletionRound d then
      bceVhciTransferQueueCompletionLoop d rounds
    else
      pure ⟨⟩

/-- `bce_vhci_transfer_queue_completion` up to its unlock. The ring holds fewer
completions than it has slots. -/
def bceVhciTransferQueueCompletion (d : DmaDataDirection) : TransferM PUnit := do
  match (← get).sqs d with
  | some t =>
    bceVhciTransferQueueCompletionLoop d t.sq.elCount
    bceVhciTransferQueueDeliverPending
  | none => throw .nullDeref

/-! ## Enqueueing and removing -/

/-- `bce_vhci_urb_create` up to the delivery of deferred messages, on the
`struct urb` at `u`; `linked` is what `usb_hcd_link_urb_to_ep` returns. -/
def bceVhciUrbCreateBody (u : Nat) (linked : Int) : TransferM Int := do
  let q ← get
  let vurb := q.nextVurb
  set { (q.setVurb vurb
      { urb := u
        dir := if (q.urbs u).dirIn then .fromDevice else .toDevice
        isControl := q.isControl
        state := .initPaused
        receivedStatus := 0
        sendOffset := 0
        receiveOffset := 0 }).setUrb u { q.urbs u with hcpriv := some vurb } with
    nextVurb := vurb + 1 }
  if linked ≠ 0 then
    modify fun q => q.setUrb u { q.urbs u with hcpriv := none }
    kfreeVurb vurb
    return linked
  else
    modify fun q => { (q.setUrb u { q.urbs u with unlinked := 0, enqueue := vurb }) with
      urbList := q.urbList ++ [u] }
    let status ←
      if q.active then
        bceVhciUrbInit vurb
      else do
        if q.stalled then
          bceVhciTransferQueueRequestReset
        modifyVurb vurb fun v => { v with state := .initPaused }
        pure 0
    if status ≠ 0 then
      usbHcdUnlinkUrbFromEp u
      modify fun q => q.setUrb u { q.urbs u with hcpriv := none }
      kfreeVurb vurb
    return status

/-- `bce_vhci_urb_create` -/
def bceVhciUrbCreate (u : Nat) (linked : Int) : TransferM Int := do
  let status ← bceVhciUrbCreateBody u linked
  if status = 0 then
    bceVhciTransferQueueDeliverPending
  return status

/-- `usb_hcd_check_unlink_urb` -/
def usbHcdCheckUnlinkUrb (u : Nat) (status : Int) : TransferM Int := do
  let q ← get
  if u ∉ q.urbList then
    return -EIDRM
  else if (q.urbs u).unlinked ≠ 0 then
    return -EBUSY
  else
    set (q.setUrb u { q.urbs u with unlinked := status })
    return 0

/-- `bce_vhci_urb_remove` up to the delivery of deferred messages: the
`bce_vhci_urb` it will free, if the URB was taken off the list. -/
def bceVhciUrbRemoveBody (u : Nat) (status : Int) : TransferM (Int × Option Nat) := do
  let ret ← usbHcdCheckUnlinkUrb u status
  if ret ≠ 0 then
    return (ret, none)
  else
    let vurb := ((← get).urbs u).hcpriv
    usbHcdUnlinkUrbFromEp u
    return (ret, vurb)

/-- `bce_vhci_urb_remove`. The lock is released before the `kfree`; giving the URB
back clears its `hcpriv`. -/
def bceVhciUrbRemove (u : Nat) (status : Int) : TransferM Int := do
  let r ← bceVhciUrbRemoveBody u status
  if r.1 ≠ 0 then
    return r.1
  else
    bceVhciTransferQueueDeliverPending
    match r.2 with
    | some vurb => kfreeVurb vurb
    | none => pure ⟨⟩
    modify fun q => q.setUrb u { q.urbs u with hcpriv := none }
    return r.1

/-! ## Pausing and resuming -/

/-- What a controller command reports: its status, and `param2` of the reply. -/
structure CommandOutcome where
  status : Int
  param2 : Nat
deriving DecidableEq, Repr

/-- `(enum bce_vhci_endpoint_state)` of a 64-bit `param2` -/
def bceVhciEndpointState (param2 : Nat) : Nat := param2 % 2 ^ 32

/-- What `bce_vhci_cmd_endpoint_set_state` leaves in `*retState`, which held `retState`. -/
def CommandOutcome.takeState (reply : CommandOutcome) (retState : Nat) : Nat :=
  if reply.status ≠ BCE_VHCI_INTERNAL_ERROR ∧ reply.status ≠ BCE_VHCI_NO_POWER then
    bceVhciEndpointState reply.param2
  else retState

/-- `bce_vhci_cmd_endpoint_set_state` with `&q->state` -/
def bceVhciCmdEndpointSetState (reply : CommandOutcome) : TransferM Int := do
  modify fun q => { q with state := reply.takeState q.state }
  return reply.status

/-- The device aborts the first `k` elements it has of `sq_in` or `sq_out`. -/
def TransferSq.abort (t : TransferSq) (k : Nat) : TransferSq :=
  { t with
    inflight := t.inflight.drop k
    posted := t.posted ++ (t.inflight.take k).map fun e => (e, ⟨BCE_COMPLETION_ABORTED, 0, 0⟩) }

/-- `bce_cmd_flush_memory_queue` on `sq_in` or `sq_out`, if there is one. A
flush that works aborts every element in flight. -/
def bceCmdFlushMemoryQueue (d : DmaDataDirection) (aborted : Nat) : TransferM PUnit :=
  modify fun q =>
    match q.sqs d with
    | some t => q.setSq d (t.abort aborted)
    | none => q

/-- `bce_vhci_transfer_queue_remove_pending` -/
def bceVhciTransferQueueRemovePending : TransferM PUnit :=
  modify fun q => { q with evq := [] }

/-- `q->active = false` under the lock. -/
def bceVhciTransferQueueDeactivate : TransferM PUnit :=
  modify fun q => { q with active := false }

/-- The command of `bce_vhci_transfer_queue_pause`, and what it makes of the reply. -/
def bceVhciTransferQueuePauseCommand (reply : CommandOutcome) : TransferM Int := do
  let status ← bceVhciCmdEndpointSetState reply
  if status ≠ 0 then
    return status
  else if (← get).state ≠ BCE_VHCI_ENDPOINT_PAUSED then
    return -EINVAL
  else
    return 0

/-- `bce_vhci_transfer_queue_pause`, given the reply to its command and how many
elements its flushes abort. -/
def bceVhciTransferQueuePause (reply : CommandOutcome) (abortedIn abortedOut : Nat) :
    TransferM Int := do
  bceVhciTransferQueueDeactivate
  bceVhciTransferQueueRemovePending
  let status ← bceVhciTransferQueuePauseCommand reply
  if status ≠ 0 then
    return status
  else
    bceCmdFlushMemoryQueue .fromDevice abortedIn
    bceCmdFlushMemoryQueue .toDevice abortedOut
    return 0

/-- The command of `bce_vhci_transfer_queue_resume`, and what it makes of the reply. -/
def bceVhciTransferQueueResumeCommand (reply : CommandOutcome) : TransferM Int := do
  let status ← bceVhciCmdEndpointSetState reply
  if status ≠ 0 then
    return status
  else if (← get).state ≠ BCE_VHCI_ENDPOINT_ACTIVE then
    return -EINVAL
  else
    return 0

/-- The body of `list_for_each_entry_safe` in `bce_vhci_transfer_queue_resume`. -/
def bceVhciTransferQueueResumeUrb (u : Nat) : TransferM PUnit := do
  let vurb ← readHcpriv u
  bceVhciUrbResume vurb

/-- The loop of `bce_vhci_transfer_queue_resume`, over the URBs from the cursor
on. Its body unlinks at most the URB it is called for, so the cursor's
successor stays linked. -/
def bceVhciTransferQueueResumeLoop : List Nat → TransferM PUnit
  | [] => pure ⟨⟩
  | u :: us => do
    bceVhciTransferQueueResumeUrb u
    bceVhciTransferQueueResumeLoop us

/-- `q->active = true` under the lock, and the URBs the loop is going to visit. -/
def bceVhciTransferQueueActivate : TransferM (List Nat) := do
  modify fun q => { q with active := true }
  return (← get).urbList

/-- `bce_vhci_transfer_queue_resume`, given the reply to its command. -/
def bceVhciTransferQueueResume (reply : CommandOutcome) : TransferM Int := do
  let status ← bceVhciTransferQueueResumeCommand reply
  if status ≠ 0 then
    return status
  else
    let us ← bceVhciTransferQueueActivate
    bceVhciTransferQueueResumeLoop us
    bceVhciTransferQueueDeliverPending
    return 0

end BceDriver
