import BceDriver.Vhci.TransferSpec
import BceDriver.Lib.StepSystem

/-!
# Runs of one endpoint

The contexts that work on one transfer queue, and every order they can go in:

- the USB core enqueues, dequeues and resets;
- interrupts bring messages and completions; each takes `urb_lock`, and then
  runs `bce_vhci_transfer_queue_giveback`;
- the ordered workqueue runs one work item at a time: cancel works, the reset
  work, firmware requests;
- the device completes or aborts elements; other endpoints use `msg_asynchronous`.

A context that holds `urb_lock` has a program of `LockOp`s, one round of a loop
each; what the worker does outside the lock are `WorkOp`s. Anything that needs
the lock waits for it, everything else goes on at any moment. What commands,
flushes and waits report is part of the action.
-/

namespace BceDriver

/-- What the holder of `urb_lock` still has to do. -/
inductive LockOp where
  /-- rounds of `bce_vhci_transfer_queue_deliver_pending` -/
  | deliver
  /-- rounds of `bce_vhci_transfer_queue_completion` -/
  | completions (d : DmaDataDirection)
  /-- `bce_vhci_transfer_queue_event` after the delivery -/
  | event (msg : BceVhciMessage)
  /-- the loop of `bce_vhci_transfer_queue_resume` -/
  | resume (us : List Nat)
  /-- unlock and run `bce_vhci_transfer_queue_giveback` -/
  | giveback
  /-- unlock and go on with the work item -/
  | back
deriving DecidableEq, Repr

/-- What the work item still has to do. -/
inductive WorkOp where
  /-- it holds `urb_lock` -/
  | locked
  /-- `bce_vhci_transfer_queue_pause`, by its parts -/
  | deactivate
  | removePending
  | pauseCommand
  | flush (d : DmaDataDirection)
  /-- `bce_vhci_urb_remove`, by its parts -/
  | remove (u : Nat) (status : Int)
  | kfree (vurb : Nat)
  | giveback (u : Nat)
  /-- the last call of `bce_vhci_urb_cancel_w` -/
  | resumeUnlessFwPaused
  /-- `bce_vhci_transfer_queue_resume`, by its parts -/
  | resumeCommand
  | activate
  /-- parts of `bce_vhci_transfer_queue_reset_w` -/
  | returnUnlessStalled
  | resetCommand
  | clearStalled
  | setFwPaused (b : Bool)
  /-- `BCE_VHCI_ENDPOINT_STALLED` from the firmware -/
  | stall
deriving DecidableEq, Repr

/-- `bce_vhci_transfer_queue_pause` up to its command -/
def pauseOps : List WorkOp := [.deactivate, .removePending, .pauseCommand]

/-- `bce_vhci_urb_cancel_w` -/
def cancelOps (u : Nat) (status : Int) : List WorkOp :=
  pauseOps ++ [.remove u status, .resumeUnlessFwPaused]

/-- `bce_vhci_transfer_queue_reset_w` -/
def resetOps : List WorkOp :=
  [.returnUnlessStalled, .removePending, .flush .fromDevice, .flush .toDevice, .resetCommand,
    .setFwPaused false, .clearStalled, .resumeCommand]

/-- `bce_vhci_handle_firmware_event` for a message to this endpoint -/
def firmwareOps (msg : BceVhciMessage) : List WorkOp :=
  if msg.cmd = BCE_VHCI_CMD_ENDPOINT_REQUEST_STATE then
    if msg.param2 = BCE_VHCI_ENDPOINT_ACTIVE then
      [.resumeCommand, .setFwPaused false]
    else if msg.param2 = BCE_VHCI_ENDPOINT_PAUSED then
      .setFwPaused true :: pauseOps
    else
      []
  else if msg.cmd = BCE_VHCI_CMD_ENDPOINT_SET_STATE then
    if msg.param2 = BCE_VHCI_ENDPOINT_STALLED then [.stall] else []
  else
    []

/-- What the owner of a `struct urb` asks for. -/
structure UrbRequest where
  dirIn : Bool
  transferBufferLength : Nat
  transferDma : Nat
  setupDma : Nat
deriving DecidableEq, Repr

/-- The `struct urb` at `u` is filled in. -/
def BceVhciTransferQueue.fill (q : BceVhciTransferQueue) (u : Nat) (request : UrbRequest) :
    BceVhciTransferQueue :=
  q.setUrb u { q.urbs u with
    dirIn := request.dirIn
    transferBufferLength := request.transferBufferLength
    transferDma := request.transferDma
    setupDma := request.setupDma
    actualLength := 0 }

structure Endpoint where
  q : BceVhciTransferQueue
  /-- the program of the holder of `urb_lock`; empty when the lock is free -/
  lock : List LockOp
  /-- the work item that runs -/
  worker : List WorkOp
  /-- the cancel works queued on `tq_state_wq` -/
  cancels : List (Nat × Int)
  /-- the threads at the loop of `bce_vhci_transfer_queue_giveback` -/
  givers : Nat
  /-- the URBs those threads took off `giveback_urb_list` and are giving back -/
  popped : List Nat
  /-- the enqueues `bce_vhci_urb_create` accepted -/
  accepted : List Nat
  /-- the enqueues given back to the USB core, in order -/
  givenBack : List Nat
  fault : Option Fault

inductive EndpointAction where
  | enqueue (u : Nat) (request : UrbRequest) (linked : Int)
  | dequeue (u : Nat) (status : Int)
  | endpointReset
  | event (msg : BceVhciMessage)
  | completion (d : DmaDataDirection)
  | lockStep
  | pop
  | leave
  | give (u : Nat)
  | startCancel (u : Nat) (status : Int)
  | startReset
  | startFirmware (msg : BceVhciMessage)
  | workStep (reply : CommandOutcome) (aborted : Nat)
  | complete (d : DmaDataDirection) (c : BceSqCompletionData)
  | accept (d : DmaDataDirection)
  | async (m : BceVhciMessageQueue) (w : List Wakeup)

namespace Endpoint

/-- Run a program on the queue; a fault stops everything. -/
def exec {α : Type} (s : Endpoint) (m : TransferM α)
    (k : α → BceVhciTransferQueue → Endpoint) : Endpoint :=
  match m.run s.q with
  | .ok (a, q) => k a q
  | .error f => { s with fault := some f }

/-- The URBs the work item took off the list and is going to give back. -/
def workHeld (worker : List WorkOp) : List Nat :=
  worker.filterMap fun
    | .giveback u => some u
    | _ => none

/-- The host controller driver has the `struct urb` at `u`. -/
def Owns (s : Endpoint) (u : Nat) : Prop :=
  u ∈ s.q.urbList ∨ u ∈ s.q.givebackUrbList ∨ u ∈ s.popped ∨ u ∈ workHeld s.worker

instance (s : Endpoint) (u : Nat) : Decidable (s.Owns u) := inferInstanceAs (Decidable (_ ∨ _))

/-- The endpoint works in the direction of the request, whose length is a `u32`. -/
def Supports (s : Endpoint) (request : UrbRequest) : Prop :=
  s.q.sqs (if request.dirIn then .fromDevice else .toDevice) ≠ none ∧
    request.transferBufferLength < 2 ^ 32

instance (q : BceVhciTransferQueue) (d : DmaDataDirection) : Decidable (q.sqs d ≠ none) :=
  decidable_of_iff ((q.sqs d).isSome = true) Option.isSome_iff_ne_none

instance (s : Endpoint) (request : UrbRequest) : Decidable (s.Supports request) :=
  inferInstanceAs (Decidable (_ ∧ _))

/-- `usb_submit_urb` fills in the `struct urb`, and `bce_vhci_urb_create` runs. -/
def enqueue (s : Endpoint) (u : Nat) (request : UrbRequest) (linked : Int) : Endpoint :=
  let s := { s with q := s.q.fill u request }
  s.exec (bceVhciUrbCreateBody u linked) fun status q =>
    if status = 0 then
      { s with q := q, lock := [.deliver], accepted := s.accepted ++ [(q.urbs u).enqueue] }
    else
      { s with q := q }

/-- A round of the program of the holder of `urb_lock`. -/
def lockStep (s : Endpoint) : Option Endpoint :=
  match s.lock with
  | [] => none
  | .deliver :: ops =>
    some (s.exec bceVhciTransferQueueDeliverPendingRound fun more q =>
      { s with q := q, lock := if more then .deliver :: ops else ops })
  | .completions d :: ops =>
    some (s.exec (bceVhciTransferQueueCompletionRound d) fun more q =>
      { s with q := q, lock := if more then .completions d :: ops else ops })
  | .event msg :: ops =>
    some (s.exec (bceVhciTransferQueueEventBody msg) fun _ q => { s with q := q, lock := ops })
  | .resume [] :: ops => some { s with lock := ops }
  | .resume (u :: us) :: ops =>
    some (s.exec (bceVhciTransferQueueResumeUrb u) fun _ q =>
      { s with q := q, lock := .resume us :: ops })
  | .giveback :: ops => some { s with lock := ops, givers := s.givers + 1 }
  | .back :: ops => some { s with lock := ops, worker := s.worker.tail }

/-- `usb_hcd_giveback_urb`: the `struct urb` is its owner's again. -/
def giveBack (s : Endpoint) (u : Nat) : Endpoint :=
  { s with
    q := s.q.setUrb u { s.q.urbs u with hcpriv := none }
    givenBack := s.givenBack ++ [(s.q.urbs u).enqueue] }

/-- A step of the work item, given the reply if it is a command, and the number
of elements aborted if it is a flush. -/
def workStep (s : Endpoint) (reply : CommandOutcome) (aborted : Nat) : Option Endpoint :=
  match s.worker with
  | [] => none
  | .locked :: _ => none
  | .deactivate :: ops =>
    if s.lock = [] then
      some (s.exec bceVhciTransferQueueDeactivate fun _ q => { s with q := q, worker := ops })
    else none
  | .removePending :: ops =>
    if s.lock = [] then
      some (s.exec bceVhciTransferQueueRemovePending fun _ q => { s with q := q, worker := ops })
    else none
  | .pauseCommand :: ops =>
    some (s.exec (bceVhciTransferQueuePauseCommand reply) fun status q =>
      if status = 0 then
        { s with q := q, worker := .flush .fromDevice :: .flush .toDevice :: ops }
      else
        { s with q := q, worker := ops })
  | .flush d :: ops =>
    some (s.exec (bceCmdFlushMemoryQueue d aborted) fun _ q => { s with q := q, worker := ops })
  | .remove u status :: ops =>
    if s.lock = [] then
      some (s.exec (bceVhciUrbRemoveBody u status) fun r q =>
        if r.1 = 0 then
          match r.2 with
          | some vurb =>
            { s with
              q := q, lock := [.deliver, .back]
              worker := .locked :: .kfree vurb :: .giveback u :: ops }
          | none =>
            { s with q := q, lock := [.deliver, .back], worker := .locked :: .giveback u :: ops }
        else
          { s with q := q, worker := ops })
    else none
  | .kfree vurb :: ops =>
    some (s.exec (kfreeVurb vurb) fun _ q => { s with q := q, worker := ops })
  | .giveback u :: ops => some { s.giveBack u with worker := ops }
  | .resumeUnlessFwPaused :: ops =>
    some { s with worker := if s.q.fwPaused then ops else .resumeCommand :: ops }
  | .resumeCommand :: ops =>
    some (s.exec (bceVhciTransferQueueResumeCommand reply) fun status q =>
      { s with q := q, worker := if status = 0 then .activate :: ops else ops })
  | .activate :: ops =>
    if s.lock = [] then
      some (s.exec bceVhciTransferQueueActivate fun us q =>
        { s with q := q, lock := [.resume us, .deliver, .back], worker := .locked :: ops })
    else none
  | .returnUnlessStalled :: ops =>
    if s.lock = [] then
      some { s with worker := if s.q.stalled then ops else [] }
    else none
  -- what `bce_vhci_cmd_endpoint_reset` returns is not looked at
  | .resetCommand :: ops => some { s with worker := ops }
  | .clearStalled :: ops =>
    if s.lock = [] then
      some { s with q := { s.q with stalled := false }, worker := ops }
    else none
  | .setFwPaused b :: ops => some { s with q := { s.q with fwPaused := b }, worker := ops }
  | .stall :: ops =>
    if s.lock = [] then
      some { s with
        q := { s.q with state := BCE_VHCI_ENDPOINT_STALLED, active := false, stalled := true }
        worker := ops }
    else none

/-- The device completes the oldest element it has. -/
def deviceComplete (t : TransferSq) (c : BceSqCompletionData) : Option TransferSq :=
  match t.inflight with
  | e :: es => some { t with inflight := es, posted := t.posted ++ [(e, c)] }
  | [] => none

/-- `bce_handle_cq_completion` accepts the oldest completion the device wrote. -/
def acceptCompletion (t : TransferSq) : Option TransferSq :=
  match t.posted with
  | (e, c) :: rest =>
    some { t with
      sq := bceStoreCompletion t.sq ⟨c.result, c.dataSize, t.sq.qid, t.sq.completionTail, c.status,
        BCE_COMPLETION_FLAG_PENDING⟩
      posted := rest
      pending := t.pending ++ [(e, c)] }
  | [] => none

/-- One action, if it can happen. -/
def step (a : EndpointAction) (s : Endpoint) : Option Endpoint :=
  if s.fault ≠ none then none else
  match a with
  | .enqueue u request linked =>
    if s.lock = [] ∧ ¬s.Owns u ∧ s.Supports request then some (s.enqueue u request linked) else none
  | .dequeue u status =>
    if s.lock = [] then
      some (s.exec (usbHcdCheckUnlinkUrb u 0) fun ret q =>
        { s with q := q, cancels := if ret = 0 then s.cancels ++ [(u, status)] else s.cancels })
    else none
  | .endpointReset => some { s with q := { s.q with resetQueued := true } }
  | .event msg =>
    if s.lock = [] ∧ (msg.cmd = BCE_VHCI_CMD_TRANSFER_REQUEST ∨
        msg.cmd = BCE_VHCI_CMD_CONTROL_TRANSFER_STATUS) then
      some { s with lock := [.deliver, .event msg, .giveback] }
    else none
  | .completion d =>
    if s.lock = [] ∧ s.q.sqs d ≠ none then
      some { s with lock := [.completions d, .deliver, .giveback] }
    else none
  | .lockStep => s.lockStep
  | .pop =>
    match s.q.givebackUrbList with
    | u :: us =>
      if s.lock = [] ∧ 0 < s.givers then
        some { s with
          q := { s.q with givebackUrbList := us }, givers := s.givers - 1
          popped := s.popped ++ [u] }
      else none
    | [] => none
  | .leave =>
    if s.lock = [] ∧ 0 < s.givers ∧ s.q.givebackUrbList = [] then
      some { s with givers := s.givers - 1 }
    else none
  | .give u =>
    if u ∈ s.popped then
      some { s.giveBack u with popped := s.popped.erase u, givers := s.givers + 1 }
    else none
  | .startCancel u status =>
    if s.worker = [] ∧ (u, status) ∈ s.cancels then
      some { s with worker := cancelOps u status, cancels := s.cancels.erase (u, status) }
    else none
  | .startReset =>
    if s.worker = [] ∧ s.q.resetQueued then
      some { s with worker := resetOps, q := { s.q with resetQueued := false } }
    else none
  | .startFirmware msg => if s.worker = [] then some { s with worker := firmwareOps msg } else none
  | .workStep reply aborted => s.workStep reply aborted
  | .complete d c =>
    match s.q.sqs d with
    | some t => (deviceComplete t c).map fun t => { s with q := s.q.setSq d t }
    | none => none
  | .accept d =>
    match s.q.sqs d with
    | some t => (acceptCompletion t).map fun t => { s with q := s.q.setSq d t }
    | none => none
  | .async m w => some { s with q := s.q.setAsync m w }

end Endpoint

/-- A submission queue of `bce_vhci_create_transfer_queue`. -/
def TransferSq.create (qid : Nat) : TransferSq where
  sq := bceAllocSq qid 0x100
  submitted := []
  inflight := []
  posted := []
  pending := []

/-- `bce_vhci_create_transfer_queue` for the endpoint at `address`: endpoint zero
works in both directions, any other in its own. -/
def bceVhciCreateTransferQueue (address devAddr qidIn qidOut : Nat) (urbs : Nat → Urb)
    (m : BceVhciMessageQueue) (w : List Wakeup) : BceVhciTransferQueue where
  bEndpointAddress := address
  devAddr := devAddr
  state := BCE_VHCI_ENDPOINT_ACTIVE
  active := true
  stalled := false
  fwPaused := false
  sqs := fun
    | .fromDevice =>
      if address &&& 0x0F = 0 ∨ address &&& 0x80 ≠ 0 then some (.create qidIn) else none
    | .toDevice =>
      if address &&& 0x0F = 0 ∨ address &&& 0x80 = 0 then some (.create qidOut) else none
  evq := []
  givebackUrbList := []
  urbList := []
  urbs := urbs
  vurbs := fun _ => none
  nextVurb := 0
  msgAsynchronous := m
  asyncWaits := w
  resetQueued := false

/-- The submission queues of a new transfer queue are new. -/
theorem bceVhciCreateTransferQueue_sqs {address devAddr qidIn qidOut : Nat} {urbs : Nat → Urb}
    {m : BceVhciMessageQueue} {w : List Wakeup} {d : DmaDataDirection} {t : TransferSq}
    (ht : (bceVhciCreateTransferQueue address devAddr qidIn qidOut urbs m w).sqs d = some t) :
    ∃ qid, t = .create qid := by
  cases d with
  | toDevice =>
    simp only [bceVhciCreateTransferQueue] at ht
    split at ht
    · exact ⟨qidOut, (Option.some.inj ht).symm⟩
    · cases ht
  | fromDevice =>
    simp only [bceVhciCreateTransferQueue] at ht
    split at ht
    · exact ⟨qidIn, (Option.some.inj ht).symm⟩
    · cases ht

/-- An endpoint nobody works on yet. -/
def Endpoint.start (q : BceVhciTransferQueue) : Endpoint where
  q := q
  lock := []
  worker := []
  cancels := []
  givers := 0
  popped := []
  accepted := []
  givenBack := []
  fault := none

/-- A `struct urb` nobody has used yet. -/
def blankUrb : Urb where
  dirIn := false
  transferBufferLength := 0
  transferDma := 0
  setupDma := 0
  actualLength := 0
  status := 0
  unlinked := 0
  hcpriv := none
  enqueue := 0

/-- The endpoint at `address` of device 1, with nothing enqueued anywhere. -/
def Endpoint.fresh (address : Nat) : Endpoint :=
  .start (bceVhciCreateTransferQueue address 1 2 3 (fun _ => blankUrb)
    (bceVhciMessageQueueCreate 4 0) [])

/-- All runs of an endpoint. -/
def endpointSystem : StepSystem Endpoint EndpointAction where
  init s := ∃ address devAddr qidIn qidOut urbs m w,
    s = .start (bceVhciCreateTransferQueue address devAddr qidIn qidOut urbs m w)
  step := Endpoint.step

/-- A condition on what the holder of `urb_lock` is about to do. -/
def AtLockStep (P : LockOp → BceVhciTransferQueue → Prop) : EndpointAction → Endpoint → Prop
  | .lockStep, s => ∀ op ∈ s.lock.head?, P op s.q
  | _, _ => True

instance (P : LockOp → BceVhciTransferQueue → Prop) [∀ op q, Decidable (P op q)] :
    ∀ a s, Decidable (AtLockStep P a s)
  | .lockStep, s => inferInstanceAs (Decidable (∀ op ∈ s.lock.head?, P op s.q))
  | .enqueue .., _ | .dequeue .., _ | .endpointReset, _ | .event _, _ | .completion _, _ | .pop, _
  | .leave, _ | .give _, _ | .startCancel .., _ | .startReset, _ | .startFirmware _, _
  | .workStep .., _ | .complete .., _ | .accept _, _ | .async .., _ => .isTrue trivial

theorem AtLockStep.head {P : LockOp → BceVhciTransferQueue → Prop} {s : Endpoint} {op : LockOp}
    {ops : List LockOp} (h : AtLockStep P .lockStep s) (hops : s.lock = op :: ops) : P op s.q :=
  h op (by simp [hops])

theorem Endpoint.fresh_init (address : Nat) : endpointSystem.init (.fresh address) :=
  ⟨address, 1, 2, 3, _, _, _, rfl⟩

/-! ## Which step it was -/

/-- The rounds of the holder of `urb_lock`. -/
inductive LockBranch (s : Endpoint) : Endpoint → Prop where
  | deliver {ops : List LockOp} : s.lock = .deliver :: ops →
      LockBranch s (s.exec bceVhciTransferQueueDeliverPendingRound fun more q =>
        { s with q := q, lock := if more then .deliver :: ops else ops })
  | completions {d : DmaDataDirection} {ops : List LockOp} : s.lock = .completions d :: ops →
      LockBranch s (s.exec (bceVhciTransferQueueCompletionRound d) fun more q =>
        { s with q := q, lock := if more then .completions d :: ops else ops })
  | event {msg : BceVhciMessage} {ops : List LockOp} : s.lock = .event msg :: ops →
      LockBranch s (s.exec (bceVhciTransferQueueEventBody msg) fun _ q =>
        { s with q := q, lock := ops })
  | resumed {ops : List LockOp} : s.lock = .resume [] :: ops → LockBranch s { s with lock := ops }
  | resume {u : Nat} {us : List Nat} {ops : List LockOp} : s.lock = .resume (u :: us) :: ops →
      LockBranch s (s.exec (bceVhciTransferQueueResumeUrb u) fun _ q =>
        { s with q := q, lock := .resume us :: ops })
  | giveback {ops : List LockOp} : s.lock = .giveback :: ops →
      LockBranch s { s with lock := ops, givers := s.givers + 1 }
  | back {ops : List LockOp} : s.lock = .back :: ops →
      LockBranch s { s with lock := ops, worker := s.worker.tail }

/-- The steps of the work item. -/
inductive WorkBranch (s : Endpoint) (reply : CommandOutcome) (aborted : Nat) :
    Endpoint → Prop where
  | deactivate {ops : List WorkOp} : s.worker = .deactivate :: ops → s.lock = [] →
      WorkBranch s reply aborted (s.exec bceVhciTransferQueueDeactivate fun _ q =>
        { s with q := q, worker := ops })
  | removePending {ops : List WorkOp} : s.worker = .removePending :: ops → s.lock = [] →
      WorkBranch s reply aborted (s.exec bceVhciTransferQueueRemovePending fun _ q =>
        { s with q := q, worker := ops })
  | pauseCommand {ops : List WorkOp} : s.worker = .pauseCommand :: ops →
      WorkBranch s reply aborted (s.exec (bceVhciTransferQueuePauseCommand reply) fun status q =>
        if status = 0 then
          { s with q := q, worker := .flush .fromDevice :: .flush .toDevice :: ops }
        else
          { s with q := q, worker := ops })
  | flush {d : DmaDataDirection} {ops : List WorkOp} : s.worker = .flush d :: ops →
      WorkBranch s reply aborted (s.exec (bceCmdFlushMemoryQueue d aborted) fun _ q =>
        { s with q := q, worker := ops })
  | remove {u : Nat} {status : Int} {ops : List WorkOp} : s.worker = .remove u status :: ops →
      s.lock = [] → WorkBranch s reply aborted (s.exec (bceVhciUrbRemoveBody u status) fun r q =>
        if r.1 = 0 then
          match r.2 with
          | some vurb =>
            { s with
              q := q, lock := [.deliver, .back]
              worker := .locked :: .kfree vurb :: .giveback u :: ops }
          | none =>
            { s with q := q, lock := [.deliver, .back], worker := .locked :: .giveback u :: ops }
        else
          { s with q := q, worker := ops })
  | kfree {vurb : Nat} {ops : List WorkOp} : s.worker = .kfree vurb :: ops →
      WorkBranch s reply aborted (s.exec (kfreeVurb vurb) fun _ q =>
        { s with q := q, worker := ops })
  | giveback {u : Nat} {ops : List WorkOp} : s.worker = .giveback u :: ops →
      WorkBranch s reply aborted { s.giveBack u with worker := ops }
  | resumeUnlessFwPaused {ops : List WorkOp} : s.worker = .resumeUnlessFwPaused :: ops →
      WorkBranch s reply aborted
        { s with worker := if s.q.fwPaused then ops else .resumeCommand :: ops }
  | resumeCommand {ops : List WorkOp} : s.worker = .resumeCommand :: ops →
      WorkBranch s reply aborted (s.exec (bceVhciTransferQueueResumeCommand reply) fun status q =>
        { s with q := q, worker := if status = 0 then .activate :: ops else ops })
  | activate {ops : List WorkOp} : s.worker = .activate :: ops → s.lock = [] →
      WorkBranch s reply aborted (s.exec bceVhciTransferQueueActivate fun us q =>
        { s with q := q, lock := [.resume us, .deliver, .back], worker := .locked :: ops })
  | returnUnlessStalled {ops : List WorkOp} : s.worker = .returnUnlessStalled :: ops →
      s.lock = [] →
      WorkBranch s reply aborted { s with worker := if s.q.stalled then ops else [] }
  | resetCommand {ops : List WorkOp} : s.worker = .resetCommand :: ops →
      WorkBranch s reply aborted { s with worker := ops }
  | clearStalled {ops : List WorkOp} : s.worker = .clearStalled :: ops → s.lock = [] →
      WorkBranch s reply aborted { s with q := { s.q with stalled := false }, worker := ops }
  | setFwPaused {b : Bool} {ops : List WorkOp} : s.worker = .setFwPaused b :: ops →
      WorkBranch s reply aborted { s with q := { s.q with fwPaused := b }, worker := ops }
  | stall {ops : List WorkOp} : s.worker = .stall :: ops → s.lock = [] →
      WorkBranch s reply aborted { s with
        q := { s.q with state := BCE_VHCI_ENDPOINT_STALLED, active := false, stalled := true }
        worker := ops }

/-- The steps of an endpoint. -/
inductive StepBranch (s : Endpoint) : EndpointAction → Endpoint → Prop where
  | enqueue {u : Nat} {request : UrbRequest} {linked : Int} : s.lock = [] → ¬s.Owns u →
      s.Supports request → StepBranch s (.enqueue u request linked) (s.enqueue u request linked)
  | dequeue {u : Nat} {status : Int} : s.lock = [] →
      StepBranch s (.dequeue u status) (s.exec (usbHcdCheckUnlinkUrb u 0) fun ret q =>
        { s with q := q, cancels := if ret = 0 then s.cancels ++ [(u, status)] else s.cancels })
  | endpointReset : StepBranch s .endpointReset { s with q := { s.q with resetQueued := true } }
  | event {msg : BceVhciMessage} : s.lock = [] →
      msg.cmd = BCE_VHCI_CMD_TRANSFER_REQUEST ∨ msg.cmd = BCE_VHCI_CMD_CONTROL_TRANSFER_STATUS →
      StepBranch s (.event msg) { s with lock := [.deliver, .event msg, .giveback] }
  | completion {d : DmaDataDirection} : s.lock = [] → s.q.sqs d ≠ none →
      StepBranch s (.completion d) { s with lock := [.completions d, .deliver, .giveback] }
  | lockStep {s' : Endpoint} : s.lockStep = some s' → StepBranch s .lockStep s'
  | pop {u : Nat} {us : List Nat} : s.q.givebackUrbList = u :: us → s.lock = [] → 0 < s.givers →
      StepBranch s .pop { s with
        q := { s.q with givebackUrbList := us }, givers := s.givers - 1
        popped := s.popped ++ [u] }
  | leave : s.lock = [] → 0 < s.givers → s.q.givebackUrbList = [] →
      StepBranch s .leave { s with givers := s.givers - 1 }
  | give {u : Nat} : u ∈ s.popped →
      StepBranch s (.give u)
        { s.giveBack u with popped := s.popped.erase u, givers := s.givers + 1 }
  | startCancel {u : Nat} {status : Int} : s.worker = [] → (u, status) ∈ s.cancels →
      StepBranch s (.startCancel u status)
        { s with worker := cancelOps u status, cancels := s.cancels.erase (u, status) }
  | startReset : s.worker = [] → s.q.resetQueued = true →
      StepBranch s .startReset
        { s with worker := resetOps, q := { s.q with resetQueued := false } }
  | startFirmware {msg : BceVhciMessage} : s.worker = [] →
      StepBranch s (.startFirmware msg) { s with worker := firmwareOps msg }
  | workStep {reply : CommandOutcome} {aborted : Nat} {s' : Endpoint} :
      s.workStep reply aborted = some s' → StepBranch s (.workStep reply aborted) s'
  | complete {d : DmaDataDirection} {c : BceSqCompletionData} {t : TransferSq}
      {e : TransferElement} {es : List TransferElement} : s.q.sqs d = some t →
      t.inflight = e :: es →
      StepBranch s (.complete d c) { s with
        q := s.q.setSq d { t with inflight := es, posted := t.posted ++ [(e, c)] } }
  | accept {d : DmaDataDirection} {t : TransferSq} {e : TransferElement} {c : BceSqCompletionData}
      {rest : List (TransferElement × BceSqCompletionData)} : s.q.sqs d = some t →
      t.posted = (e, c) :: rest →
      StepBranch s (.accept d) { s with
        q := s.q.setSq d { t with
          sq := bceStoreCompletion t.sq ⟨c.result, c.dataSize, t.sq.qid, t.sq.completionTail,
            c.status, BCE_COMPLETION_FLAG_PENDING⟩
          posted := rest
          pending := t.pending ++ [(e, c)] } }
  | async {m : BceVhciMessageQueue} {w : List Wakeup} :
      StepBranch s (.async m w) { s with q := s.q.setAsync m w }

section Branches

variable {s s' : Endpoint} {a : EndpointAction}

theorem lockStep_branch (hstep : s.lockStep = some s') : LockBranch s s' := by
  unfold Endpoint.lockStep at hstep
  split at hstep
  · cases hstep
  · next hops =>
    obtain rfl := Option.some.inj hstep
    exact .deliver hops
  · next hops =>
    obtain rfl := Option.some.inj hstep
    exact .completions hops
  · next hops =>
    obtain rfl := Option.some.inj hstep
    exact .event hops
  · next hops =>
    obtain rfl := Option.some.inj hstep
    exact .resumed hops
  · next hops =>
    obtain rfl := Option.some.inj hstep
    exact .resume hops
  · next hops =>
    obtain rfl := Option.some.inj hstep
    exact .giveback hops
  · next hops =>
    obtain rfl := Option.some.inj hstep
    exact .back hops

theorem workStep_branch {reply : CommandOutcome} {aborted : Nat}
    (hstep : s.workStep reply aborted = some s') : WorkBranch s reply aborted s' := by
  unfold Endpoint.workStep at hstep
  split at hstep
  · cases hstep
  · cases hstep
  · next hops =>
    obtain ⟨hl, hs'⟩ := Option.ite_none_right_eq_some.mp hstep
    obtain rfl := Option.some.inj hs'
    exact .deactivate hops hl
  · next hops =>
    obtain ⟨hl, hs'⟩ := Option.ite_none_right_eq_some.mp hstep
    obtain rfl := Option.some.inj hs'
    exact .removePending hops hl
  · next hops =>
    obtain rfl := Option.some.inj hstep
    exact .pauseCommand hops
  · next hops =>
    obtain rfl := Option.some.inj hstep
    exact .flush hops
  · next hops =>
    obtain ⟨hl, hs'⟩ := Option.ite_none_right_eq_some.mp hstep
    obtain rfl := Option.some.inj hs'
    exact .remove hops hl
  · next hops =>
    obtain rfl := Option.some.inj hstep
    exact .kfree hops
  · next hops =>
    obtain rfl := Option.some.inj hstep
    exact .giveback hops
  · next hops =>
    obtain rfl := Option.some.inj hstep
    exact .resumeUnlessFwPaused hops
  · next hops =>
    obtain rfl := Option.some.inj hstep
    exact .resumeCommand hops
  · next hops =>
    obtain ⟨hl, hs'⟩ := Option.ite_none_right_eq_some.mp hstep
    obtain rfl := Option.some.inj hs'
    exact .activate hops hl
  · next hops =>
    obtain ⟨hl, hs'⟩ := Option.ite_none_right_eq_some.mp hstep
    obtain rfl := Option.some.inj hs'
    exact .returnUnlessStalled hops hl
  · next hops =>
    obtain rfl := Option.some.inj hstep
    exact .resetCommand hops
  · next hops =>
    obtain ⟨hl, hs'⟩ := Option.ite_none_right_eq_some.mp hstep
    obtain rfl := Option.some.inj hs'
    exact .clearStalled hops hl
  · next hops =>
    obtain rfl := Option.some.inj hstep
    exact .setFwPaused hops
  · next hops =>
    obtain ⟨hl, hs'⟩ := Option.ite_none_right_eq_some.mp hstep
    obtain rfl := Option.some.inj hs'
    exact .stall hops hl

/-- A step is one of those of its action, in a run that goes on. -/
theorem step_branch (hstep : Endpoint.step a s = some s') :
    s.fault = none ∧ StepBranch s a s' := by
  unfold Endpoint.step at hstep
  split at hstep
  · cases hstep
  next hfault =>
  refine ⟨not_not.mp hfault, ?_⟩
  cases a with
  | enqueue u request linked =>
    obtain ⟨⟨hl, hu, hsup⟩, hs'⟩ := Option.ite_none_right_eq_some.mp hstep
    obtain rfl := Option.some.inj hs'
    exact .enqueue hl hu hsup
  | dequeue u status =>
    obtain ⟨hl, hs'⟩ := Option.ite_none_right_eq_some.mp hstep
    obtain rfl := Option.some.inj hs'
    exact .dequeue hl
  | endpointReset =>
    obtain rfl := Option.some.inj hstep
    exact .endpointReset
  | event msg =>
    obtain ⟨⟨hl, hmsg⟩, hs'⟩ := Option.ite_none_right_eq_some.mp hstep
    obtain rfl := Option.some.inj hs'
    exact .event hl hmsg
  | completion d =>
    obtain ⟨⟨hl, hsq⟩, hs'⟩ := Option.ite_none_right_eq_some.mp hstep
    obtain rfl := Option.some.inj hs'
    exact .completion hl hsq
  | lockStep => exact .lockStep hstep
  | pop =>
    dsimp only at hstep
    split at hstep
    · next u us hlist =>
      obtain ⟨⟨hl, hgivers⟩, hs'⟩ := Option.ite_none_right_eq_some.mp hstep
      obtain rfl := Option.some.inj hs'
      exact .pop hlist hl hgivers
    · cases hstep
  | leave =>
    obtain ⟨⟨hl, hgivers, hlist⟩, hs'⟩ := Option.ite_none_right_eq_some.mp hstep
    obtain rfl := Option.some.inj hs'
    exact .leave hl hgivers hlist
  | give u =>
    obtain ⟨hu, hs'⟩ := Option.ite_none_right_eq_some.mp hstep
    obtain rfl := Option.some.inj hs'
    exact .give hu
  | startCancel u status =>
    obtain ⟨⟨hw, hmem⟩, hs'⟩ := Option.ite_none_right_eq_some.mp hstep
    obtain rfl := Option.some.inj hs'
    exact .startCancel hw hmem
  | startReset =>
    obtain ⟨⟨hw, hqueued⟩, hs'⟩ := Option.ite_none_right_eq_some.mp hstep
    obtain rfl := Option.some.inj hs'
    exact .startReset hw hqueued
  | startFirmware msg =>
    obtain ⟨hw, hs'⟩ := Option.ite_none_right_eq_some.mp hstep
    obtain rfl := Option.some.inj hs'
    exact .startFirmware hw
  | workStep reply aborted => exact .workStep hstep
  | complete d c =>
    dsimp only at hstep
    split at hstep
    · next t ht =>
      obtain ⟨t', hdev, rfl⟩ := Option.map_eq_some_iff.mp hstep
      unfold Endpoint.deviceComplete at hdev
      split at hdev
      · next hin =>
        obtain rfl := Option.some.inj hdev
        exact .complete ht hin
      · cases hdev
    · cases hstep
  | accept d =>
    dsimp only at hstep
    split at hstep
    · next t ht =>
      obtain ⟨t', hdev, rfl⟩ := Option.map_eq_some_iff.mp hstep
      unfold Endpoint.acceptCompletion at hdev
      split at hdev
      · next hposted =>
        obtain rfl := Option.some.inj hdev
        exact .accept ht hposted
      · cases hdev
    · cases hstep
  | async m w =>
    obtain rfl := Option.some.inj hstep
    exact .async

end Branches

end BceDriver
