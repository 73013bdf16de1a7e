import BceDriver.Audio.Transport
import BceDriver.Queue.Counts
import BceDriver.Queue.Waiters

/-!
# The slots of the out queue (`audio/protocol_bce.c`)

A sender of the aaudio out queue takes a reservation, then the spinlock, writes its
message into the data slot at `data_tail`, and submits it in the next element of the
ring. There are 20 data slots and 21 elements, and nothing but the credit keeps a
slot from being written while the device still reads it.

- Any number of threads send. `bce_reserve_submission` goes step by step as in
  `BceDriver.Queue.Waiters`, and `__aaudio_send` as the statements it consists of;
  the completion handler and the device run in between, without the spinlock.
- A message is written in any number of steps: its tag, its header, its arguments.
- The other users of the spinlock (a reply, a wait that timed out) take it and
  leave it; what they do to `pending_entries` is in `BceDriver.Audio.Replies`.
- `submissions`, `handed`, `consumed` and `holders` record what happened: the
  elements filled in, how many were handed out, how many completions were taken,
  and the threads with a reservation.
-/

namespace BceDriver

open RingIndex

/-! ## Data -/

/-- A submission as its sender made it. -/
structure AaudioSubmission where
  /-- the element of the ring it is in -/
  element : Nat
  entry : BceQeSubmission
  /-- the data slot its sender wrote into -/
  slot : Nat
  /-- what the sender wrote there -/
  message : List UInt8
deriving DecidableEq, Repr

/-- Where `aaudio_bce_out_queue_completion` is. -/
inductive AaudioOutHandler where
  /-- about to look for a completion -/
  | looping
  | took
  /-- in `bce_notify_submission_complete`, with the slot returned -/
  | counting
  /-- in `bce_notify_submission_complete`, about to `complete()` -/
  | signalling
deriving DecidableEq, Repr

structure AaudioOut (ι : Type) where
  /-- `qout.sq` -/
  sq : BceQueueSq
  /-- the contents of the slots of `qout.data` -/
  data : Nat → List UInt8
  dmaAddr : Nat
  dataTail : Nat
  /-- who holds the spinlock -/
  spinlock : Option ι
  handler : AaudioOutHandler
  submissions : List AaudioSubmission
  handed : Nat
  consumed : Nat
  holders : Finset ι

/-- `aaudio_bce_queue_init` of the out queue. -/
def aaudioOutInit (ι : Type) (qid dmaAddr : Nat) : AaudioOut ι where
  sq := bceAllocSq qid (AAUDIO_BCE_QUEUE_ELEMENT_COUNT + 1)
  data := fun _ => []
  dmaAddr := dmaAddr
  dataTail := 0
  spinlock := none
  handler := .looping
  submissions := []
  handed := 0
  consumed := 0
  holders := ∅

/-! ## Senders -/

inductive AaudioSender where
  | idle
  /-- in `bce_reserve_submission` -/
  | reserving (call : SqCaller)
  | locking
  /-- has the lock, and is about to find its slot -/
  | locked
  /-- `ctx->msg.data` is `slot`, and `message` is what it holds so far -/
  | writing (slot : Nat) (message : List UInt8)
  /-- in `__aaudio_send`, after `bce_next_submission` -/
  | handed (element slot size : Nat) (message : List UInt8)
  /-- after `bce_set_submission_single` -/
  | filled
  /-- after `bce_submit_to_device` -/
  | rung
  | unlocking
  /-- has the lock for something else -/
  | other
deriving DecidableEq, Repr

inductive AaudioSenderChoice where
  /-- calls `__aaudio_send_prepare` -/
  | send (timeout : Nat)
  | reserve (c : SqChoice)
  | write (message : List UInt8)
  /-- calls `__aaudio_send` with a message of that size -/
  | submit (size : Nat)
  | lock
  | next
deriving DecidableEq, Repr

section Steps

variable {ι : Type} [DecidableEq ι]

/-- `bce_next_submission`, by thread `i`. -/
def aaudioHandOut (i : ι) (b : AaudioOut ι) : AaudioOut ι :=
  { b with
    sq := (bceNextSubmission b.sq).2
    handed := b.handed + 1
    holders := b.holders.erase i }

/-- `bce_set_submission_single` on the element of a message. -/
def aaudioFill (element slot size : Nat) (message : List UInt8) (b : AaudioOut ι) :
    AaudioOut ι :=
  let sq := bceSetSubmissionSingle b.sq element
    (b.dmaAddr + slot * AAUDIO_BCE_QUEUE_ELEMENT_SIZE) size
  { b with
    sq
    submissions := b.submissions ++ [⟨element, sq.data element, slot, message⟩] }

/-- The steps of a thread. -/
def aaudioSenderRun (i : ι) :
    AaudioSenderChoice → AaudioSender → AaudioOut ι → Option (AaudioSender × AaudioOut ι)
  -- `__aaudio_send_prepare`
  | .send timeout, .idle, b => some (.reserving (.trying timeout), b)
  | .reserve c, .reserving call, b =>
    (sqCallerStep c call b.sq).map fun r => (.reserving r.1, { b with
      sq := r.2
      holders := if r.1 = .returned 0 then insert i b.holders else b.holders })
  | .next, .reserving (.returned status), b =>
    some (if status = 0 then .locking else .idle, b)
  | .next, .locking, b =>
    if b.spinlock = none then some (.locked, { b with spinlock := some i }) else none
  | .next, .locked, b => some (.writing b.dataTail (b.data b.dataTail), b)
  | .write message, .writing slot _, b =>
    some (.writing slot message, { b with data := Function.update b.data slot message })
  -- `__aaudio_send`
  | .submit size, .writing slot message, b =>
    some (.handed (bceNextSubmission b.sq).1 slot size message, aaudioHandOut i b)
  | .next, .handed element slot size message, b =>
    some (.filled, aaudioFill element slot size message b)
  | .next, .filled, b => some (.rung, { b with sq := bceSubmitToDevice b.sq })
  | .next, .rung, b =>
    some (.unlocking, { b with
      dataTail := (b.dataTail + 1) % AAUDIO_BCE_QUEUE_ELEMENT_COUNT })
  | .next, .unlocking, b => some (.idle, { b with spinlock := none })
  -- the other users of the spinlock
  | .lock, .idle, b =>
    if b.spinlock = none then some (.other, { b with spinlock := some i }) else none
  | .next, .other, b => some (.idle, { b with spinlock := none })
  | _, _, _ => none

/-- Steps of one thread, one after the other. -/
def aaudioSenderThrough (i : ι) :
    List AaudioSenderChoice → AaudioSender × AaudioOut ι → Option (AaudioSender × AaudioOut ι)
  | [], r => some r
  | c :: cs, r => (aaudioSenderRun i c r.1 r.2).bind (aaudioSenderThrough i cs)

/-- Taken without interruption, the steps of `__aaudio_send` are what
`BceDriver.Audio.Transport` has of it. -/
theorem aaudioSend_alone (i : ι) (b : AaudioBce ι) {c : AaudioOut ι} (message : List UInt8)
    (size : Nat) (hsq : c.sq = b.sq) (htail : c.dataTail = b.dataTail)
    (hdma : c.dmaAddr = b.dmaAddr) :
    ∃ c', aaudioSenderThrough i [.submit size, .next, .next, .next, .next]
        (.writing c.dataTail message, c) = some (.idle, c') ∧
      c'.sq = (aaudioSend size b).sq ∧ c'.dataTail = (aaudioSend size b).dataTail ∧
      c'.spinlock = (aaudioSend size b).spinlock := by
  refine ⟨_, rfl, ?_, ?_, rfl⟩
  · show bceSubmitToDevice (bceSetSubmissionSingle (bceNextSubmission c.sq).2
      (bceNextSubmission c.sq).1
      (c.dmaAddr + c.dataTail * AAUDIO_BCE_QUEUE_ELEMENT_SIZE) size) = _
    rw [hsq, hdma, htail]
    rfl
  · show (c.dataTail + 1) % _ = _
    rw [htail]
    rfl

end Steps

/-! ## The completion handler and the device -/

inductive AaudioOutEvent where
  /-- the device completes an element -/
  | complete (e : BceQeCompletion)
  /-- a step of the completion handler -/
  | handler
deriving DecidableEq, Repr

variable {ι : Type}

/-- The steps of `aaudio_bce_out_queue_completion`. -/
def aaudioBceOutQueueCompletion (b : AaudioOut ι) : Option (AaudioOut ι) :=
  match b.handler with
  | .looping =>
    match bceNextCompletion b.sq with
    | none => some b
    | some (_, sq) => some { b with sq, handler := .took, consumed := b.consumed + 1 }
  | .took =>
    (sqCallerRun .notify .idle b.sq).map fun r => { b with sq := r.2, handler := .counting }
  | .counting =>
    (sqCallerStep .next .counting b.sq).map fun r => { b with
      sq := r.2
      handler := if r.1 = .idle then .looping else .signalling }
  | .signalling =>
    (sqCallerStep .next .signalling b.sq).map fun r => { b with sq := r.2, handler := .looping }

/-- The device completes what it was told of once, and in order. -/
def aaudioOutEnv : AaudioOutEvent → AaudioOut ι → Option (AaudioOut ι)
  | .complete e, b =>
    if b.sq.completionTail ≠ b.sq.doorbell ∧ e.completionIndex = b.sq.completionTail then
      some { b with sq := bceStoreCompletion b.sq e }
    else none
  | .handler, b => aaudioBceOutQueueCompletion b

/-- The threads `ι` on one out queue. -/
def aaudioOutProgram (ι : Type) [DecidableEq ι] :
    ThreadProgram ι (AaudioOut ι) AaudioSender AaudioSenderChoice AaudioOutEvent where
  init b := ∃ qid dmaAddr, b = aaudioOutInit ι qid dmaAddr
  start := .idle
  run := aaudioSenderRun
  env := aaudioOutEnv

end BceDriver
