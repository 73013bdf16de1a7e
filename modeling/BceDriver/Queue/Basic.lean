import BceDriver.Lib.RingIndex

/-!
# Submission queues (`queue.h`, `queue.c`)

A `bce_queue_sq` is a ring of `el_count` slots with four indices and a credit
counter:

- `tail` is the next slot handed out, `completion_tail` the next one the device
  completes, `completion_cidx` the next completion the driver consumes, `head`
  the next slot given back;
- `available_commands` counts the slots nobody has reserved.

Indices are `u32` and stay below `el_count`, so `(i + 1) % el_count` never
overflows and they are `Nat` here; the `atomic_t` counters are `Int`. Memory
barriers have no counterpart.

`bce_reserve_submission` may block. It is split where it does:
`bceReserveSubmission` runs a call up to its return or its first wait, and
`bceReserveSubmissionWake` runs it on from the return of that wait.
-/

namespace BceDriver

/-! ## Error numbers -/

def ENOENT : Int := 2
def EIO : Int := 5
def EAGAIN : Int := 11
def ENOMEM : Int := 12
def EBUSY : Int := 16
def EINVAL : Int := 22
def EPIPE : Int := 32
def EIDRM : Int := 43

/-! ## Data -/

structure BceSqCompletionData where
  status : Nat
  dataSize : Nat
  result : Nat
deriving DecidableEq, Repr, Inhabited

/-- An entry of a completion queue, as the device writes it. -/
structure BceQeCompletion where
  result : Nat
  dataSize : Nat
  qid : Nat
  completionIndex : Nat
  status : Nat
  flags : Nat
deriving DecidableEq, Repr, Inhabited

structure BceQeSubmission where
  length : Nat
  addr : Nat
  seglAddr : Nat
  seglLength : Nat
deriving DecidableEq, Repr, Inhabited

/-- `bce_qe_completion_status` -/
def BCE_COMPLETION_SUCCESS : Nat := 0
def BCE_COMPLETION_ABORTED : Nat := 2

def BCE_COMPLETION_FLAG_PENDING : Nat := 0x8000

structure BceQueueSq where
  qid : Nat
  elCount : Nat
  data : Nat → BceQeSubmission
  /-- the value last written to the queue's doorbell register -/
  doorbell : Nat
  availableCommands : Int
  /-- the tokens `complete()` left and no wait has taken -/
  availableCommandCompletion : Nat
  availableCommandCompletionWaitingCount : Int
  head : Nat
  tail : Nat
  completionCidx : Nat
  completionTail : Nat
  completionData : Nat → BceSqCompletionData
  hasPendingCompletions : Bool

/-- `bce_alloc_sq`: the allocation is zeroed and every slot but one is credit. -/
def bceAllocSq (qid elCount : Nat) : BceQueueSq where
  qid := qid
  elCount := elCount
  data := fun _ => ⟨0, 0, 0, 0⟩
  doorbell := 0
  availableCommands := elCount - 1
  availableCommandCompletion := 0
  availableCommandCompletionWaitingCount := 0
  head := 0
  tail := 0
  completionCidx := 0
  completionTail := 0
  completionData := fun _ => ⟨0, 0, 0⟩
  hasPendingCompletions := false

/-! ## Reserving a slot -/

/-- `atomic_dec_if_positive`: the decremented value, and the counter after. -/
def atomicDecIfPositive (v : Int) : Int × Int :=
  if v - 1 < 0 then (v - 1, v) else (v - 1, v - 1)

theorem atomicDecIfPositive_of_pos {v : Int} (h : 0 < v) :
    atomicDecIfPositive v = (v - 1, v - 1) := by
  simp [atomicDecIfPositive, show ¬v - 1 < 0 by omega]

theorem atomicDecIfPositive_of_le {v : Int} (h : v ≤ 0) :
    atomicDecIfPositive v = (v - 1, v) := by
  simp [atomicDecIfPositive, show v - 1 < 0 by omega]

/-- How far a call of `bce_reserve_submission` got. -/
inductive ReserveProgress where
  | returned (status : Int)
  | waiting
deriving DecidableEq, Repr

/-- `bce_reserve_submission` up to its return or its wait; `timeout` is `0` for
a null pointer too, which the code treats alike. -/
def bceReserveSubmission (sq : BceQueueSq) (timeout : Nat) : ReserveProgress × BceQueueSq :=
  let dec := atomicDecIfPositive sq.availableCommands
  let sq := { sq with availableCommands := dec.2 }
  if dec.1 < 0 then
    if timeout = 0 then
      (.returned (-EAGAIN), sq)
    else
      (.waiting, { sq with
        availableCommandCompletionWaitingCount :=
          sq.availableCommandCompletionWaitingCount + 1 })
  else
    (.returned 0, sq)

/-- `bce_reserve_submission` from the return of `wait_for_completion_timeout`,
which reported `left` jiffies (`0` when it timed out), through the next
iteration of its loop. -/
def bceReserveSubmissionWake (sq : BceQueueSq) (left : Nat) : ReserveProgress × BceQueueSq :=
  if left = 0 then
    let dec := atomicDecIfPositive sq.availableCommandCompletionWaitingCount
    let sq := { sq with availableCommandCompletionWaitingCount := dec.2 }
    -- nobody left to take back: a notifier already claimed the registration,
    -- so `try_wait_for_completion` consumes the token it leaves
    let sq := if dec.1 < 0 then
        { sq with availableCommandCompletion := sq.availableCommandCompletion - 1 }
      else sq
    bceReserveSubmission sq left
  else
    bceReserveSubmission sq left

/-- A wait that ended: the jiffies it had left and the queue as the other
contexts left it. -/
abbrev Wakeup := Nat × BceQueueSq

/-- A whole call of `bce_reserve_submission`, given how its waits end; a wait
beyond the list times out with the queue untouched. Returns the status, the
queue, the remaining timeout and the unused wakeups. -/
def bceReserveSubmissionThrough :
    List Wakeup → ReserveProgress × BceQueueSq → Nat → Int × BceQueueSq × Nat × List Wakeup
  | ws, (.returned status, sq), timeout => (status, sq, timeout, ws)
  | [], (.waiting, sq), _ =>
    match bceReserveSubmissionWake sq 0 with
    | (.returned status, sq) => (status, sq, 0, [])
    | (.waiting, sq) => (-EAGAIN, sq, 0, [])
  | (left, sq') :: ws, (.waiting, _), _ =>
    bceReserveSubmissionThrough ws (bceReserveSubmissionWake sq' left) left

def bceCancelSubmissionReservation (sq : BceQueueSq) : BceQueueSq :=
  { sq with availableCommands := sq.availableCommands + 1 }

/-! ## Handing out and giving back slots -/

/-- `bce_next_submission`: the slot handed out, and the queue after. -/
def bceNextSubmission (sq : BceQueueSq) : Nat × BceQueueSq :=
  (sq.tail, { sq with tail := (sq.tail + 1) % sq.elCount })

/-- `bce_submit_to_device` -/
def bceSubmitToDevice (sq : BceQueueSq) : BceQueueSq :=
  { sq with doorbell := sq.tail }

/-- `bce_set_submission_single` on the element of slot `slot`. -/
def bceSetSubmissionSingle (sq : BceQueueSq) (slot addr size : Nat) : BceQueueSq :=
  { sq with data := Function.update sq.data slot ⟨size, addr, 0, 0⟩ }

/-- `bce_notify_submission_complete` -/
def bceNotifySubmissionComplete (sq : BceQueueSq) : BceQueueSq :=
  let sq := { sq with
    head := (sq.head + 1) % sq.elCount
    availableCommands := sq.availableCommands + 1 }
  let dec := atomicDecIfPositive sq.availableCommandCompletionWaitingCount
  let sq := { sq with availableCommandCompletionWaitingCount := dec.2 }
  if dec.1 ≥ 0 then
    { sq with availableCommandCompletion := sq.availableCommandCompletion + 1 }
  else sq

/-- `bce_next_completion`: the completion consumed, if one is there. -/
def bceNextCompletion (sq : BceQueueSq) : Option (BceSqCompletionData × BceQueueSq) :=
  if sq.completionCidx = sq.completionTail then
    none
  else
    some (sq.completionData sq.completionCidx,
      { sq with completionCidx := (sq.completionCidx + 1) % sq.elCount })

/-- The part of `bce_handle_cq_completion` that acts on the queue the entry
names: its last statements, from the store of the completion data on. -/
def bceStoreCompletion (sq : BceQueueSq) (e : BceQeCompletion) : BceQueueSq :=
  { sq with
    completionData :=
      Function.update sq.completionData e.completionIndex ⟨e.status, e.dataSize, e.result⟩
    completionTail := (sq.completionTail + 1) % sq.elCount }

end BceDriver
