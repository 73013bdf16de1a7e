import BceDriver.Queue.Completion
import BceDriver.Queue.Waiters

/-!
# The command queue of the device (`bce_queue_cmdq`)

A thread that issues a command reserves a slot, takes `lck`, leaves a pointer to
its result record in `tres`, submits, and waits on the record
(`bce_cmd_start`, `bce_cmd_finish`). `bce_cmdq_completion` finds the record through
`head` and the data through `completion_cidx`.

- Any number of threads issue commands and run the completion handler. What `lck`
  protects is split where another thread can see it; the reservation and the
  wake-up after a notification go by the steps of `sqCallerStep`.
- A record is named by the thread in whose frame it is.
- The device completes the commands it was given, in order; `cqes` are its entries
  that `bce_handle_cq_completion` has not handled.
- `held`, `submitters`, `submitted`, `completions`, `accepted`, `done`, `notified`
  and `round` only record what happened: the reservations not yet used, the threads
  that took a slot, the slots the doorbell announced, what the device answered, the
  entries handled, the records completed, the slots given back, and how far the
  handler is with the completion it has consumed.
-/

namespace BceDriver

open RingIndex

structure BceQueueCmdqResultEl where
  /-- the tokens of `cmpl` -/
  cmpl : Nat
  status : Nat
  result : Nat
deriving DecidableEq, Repr

/-- What `bce_cmdq_completion` has done about a completion it has consumed. -/
inductive CmdqRound where
  | idle
  | consumed
  | completed
  | cleared
deriving DecidableEq, Repr

structure BceQueueCmdq (ι : Type) where
  sq : BceQueueSq
  lck : Option ι
  tres : Nat → Option ι
  /-- the callers' records -/
  el : ι → BceQueueCmdqResultEl
  cqes : List BceQeCompletion
  held : Nat
  submitters : List ι
  submitted : Nat
  completions : List BceSqCompletionData
  accepted : Nat
  done : List ι
  notified : Nat
  round : CmdqRound

/-- `bce_alloc_cmdq`, when it succeeds -/
def bceAllocCmdq (ι : Type) (qid elCount : Nat) : BceQueueCmdq ι where
  sq := bceAllocSq qid elCount
  lck := none
  tres := fun _ => none
  el := fun _ => ⟨0, 0, 0⟩
  cqes := []
  held := 0
  submitters := []
  submitted := 0
  completions := []
  accepted := 0
  done := []
  notified := 0
  round := .idle

/-- Where a thread is. `seq` counts the slots taken before its own. -/
inductive CmdqThread (ι : Type) where
  | idle
  /-- `bce_cmd_start` is in `bce_reserve_submission` -/
  | reserving (w : SqCaller)
  /-- about to take `lck` -/
  | reserved
  /-- `bce_cmd_start` returned, with `lck` held -/
  | started (seq : Nat)
  | submitted (seq : Nat)
  | waiting (seq : Nat)
  | returned (seq : Option Nat) (status : Nat)
  /-- `bce_cmdq_completion` is about to take `lck` -/
  | handling
  | looking
  | storing (result : BceSqCompletionData)
  | signalling (el : ι)
  | clearing
  | notifying
  /-- in `bce_notify_submission_complete`, with the slot returned -/
  | counting
  /-- in `bce_notify_submission_complete`, about to `complete()` -/
  | waking
  | unlocking
deriving DecidableEq, Repr

inductive CmdqChoice where
  /-- issue a command; `status` and `result` are what the record happens to hold -/
  | start (timeout status result : Nat)
  | handle
  | sq (c : SqChoice)
  | next
deriving DecidableEq, Repr

inductive CmdqEvent where
  /-- the device completes the oldest command it has not completed -/
  | complete (d : BceSqCompletionData)
  /-- `bce_handle_cq_completion` handles the oldest entry -/
  | accept
deriving DecidableEq, Repr

section Steps

variable {ι : Type} [DecidableEq ι]

/-- How `bce_cmd_start` goes on from a step of `bce_reserve_submission`. -/
def cmdqReserved (q : BceQueueCmdq ι) : SqCaller × BceQueueSq → CmdqThread ι × BceQueueCmdq ι
  | (.returned status, sq) =>
    if status = 0 then (.reserved, { q with sq, held := q.held + 1 })
    else (.returned none 0xFFFFFFFF, { q with sq })
  | (w, sq) => (.reserving w, { q with sq })

/-- The steps of a thread. -/
def cmdqRun (i : ι) : CmdqChoice → CmdqThread ι → BceQueueCmdq ι →
    Option (CmdqThread ι × BceQueueCmdq ι)
  -- `bce_cmd_start`
  | .start timeout status result, .idle, q | .start timeout status result, .returned _ _, q =>
    if 0 < timeout then
      some (.reserving (.trying timeout),
        { q with el := Function.update q.el i ⟨0, status, result⟩ })
    else none
  | .sq c, .reserving w, q => (sqCallerStep c w q.sq).map (cmdqReserved q)
  | .next, .reserved, q =>
    if q.lck = none then
      some (.started q.submitters.length, { q with
        lck := some i
        tres := Function.update q.tres q.sq.tail (some i)
        sq := (bceNextSubmission q.sq).2
        held := q.held - 1
        submitters := q.submitters ++ [i] })
    else none
  -- `bce_cmd_finish`
  | .next, .started seq, q =>
    some (.submitted seq,
      { q with sq := bceSubmitToDevice q.sq, submitted := q.submitters.length })
  | .next, .submitted seq, q => some (.waiting seq, { q with lck := none })
  | .next, .waiting seq, q =>
    if 0 < (q.el i).cmpl then
      some (.returned (some seq) (q.el i).status,
        { q with el := Function.update q.el i { q.el i with cmpl := (q.el i).cmpl - 1 } })
    else none
  -- `bce_cmdq_completion`
  | .handle, .idle, q | .handle, .returned _ _, q => some (.handling, q)
  | .next, .handling, q =>
    if q.lck = none then some (.looking, { q with lck := some i }) else none
  | .next, .looking, q =>
    match bceNextCompletion q.sq with
    | none => some (.unlocking, q)
    | some (result, sq) => some (.storing result, { q with sq, round := .consumed })
  | .next, .storing result, q =>
    match q.tres q.sq.head with
    | some j =>
      some (.signalling j, { q with
        el := Function.update q.el j
          { q.el j with status := result.status, result := result.result } })
    -- "Unexpected command queue completion"
    | none => some (.clearing, q)
  | .next, .signalling j, q =>
    some (.clearing, { q with
      el := Function.update q.el j { q.el j with cmpl := (q.el j).cmpl + 1 }
      done := q.done ++ [j]
      round := .completed })
  | .next, .clearing, q =>
    some (.notifying, { q with
      tres := Function.update q.tres q.sq.head none
      round := .cleared })
  | .next, .notifying, q =>
    some (.counting, { q with
      sq := { q.sq with
        head := (q.sq.head + 1) % q.sq.elCount
        availableCommands := q.sq.availableCommands + 1 }
      notified := q.notified + 1
      round := .idle })
  | .next, .counting, q =>
    (sqCallerStep .next .counting q.sq).map fun r =>
      (if r.1 = .idle then .looking else .waking, { q with sq := r.2 })
  | .next, .waking, q =>
    (sqCallerStep .next .signalling q.sq).map fun r => (.looking, { q with sq := r.2 })
  | .next, .unlocking, q => some (.idle, { q with lck := none })
  | _, _, _ => none

end Steps

/-- The entry the device writes for command `seq`. -/
def deviceEntry (sq : BceQueueSq) (seq : Nat) (d : BceSqCompletionData) : BceQeCompletion :=
  ⟨d.result, d.dataSize, sq.qid, seq % sq.elCount, d.status, BCE_COMPLETION_FLAG_PENDING⟩

/-- `bce_handle_cq_completion`, on the queue the entry names -/
def BceQueueSq.handleCompletion (sq : BceQueueSq) (e : BceQeCompletion) : BceQueueSq :=
  if sq.completionTail ≠ e.completionIndex then sq
  else bceStoreCompletion { sq with hasPendingCompletions := true } e

def cmdqEvent {ι : Type} : CmdqEvent → BceQueueCmdq ι → Option (BceQueueCmdq ι)
  | .complete d, q =>
    if q.completions.length < q.submitted then
      some { q with
        completions := q.completions ++ [d]
        cqes := q.cqes ++ [deviceEntry q.sq q.completions.length d] }
    else none
  | .accept, q =>
    match q.cqes with
    | [] => none
    | e :: rest =>
      some { q with sq := q.sq.handleCompletion e, cqes := rest, accepted := q.accepted + 1 }

/-- The threads `ι`, the device and the interrupt over one command queue. -/
def cmdqProgram (ι : Type) [DecidableEq ι] :
    ThreadProgram ι (BceQueueCmdq ι) (CmdqThread ι) CmdqChoice CmdqEvent where
  init q := ∃ qid elCount, 0 < elCount ∧ q = bceAllocCmdq ι qid elCount
  start := .idle
  run := cmdqRun
  env := cmdqEvent

/-- `bce_handle_cq_completion` of the device handles the entry on the queue its `qid`
names. -/
theorem bceHandleCqCompletion_sqs {dev dev' : AppleBceDevice} {e : BceQeCompletion}
    {ce ce' p : Nat} (hqid : e.qid < BCE_MAX_QUEUE_COUNT) (hp : dev.queues e.qid = some (.sq p))
    (h : bceHandleCqCompletion dev e ce = some (dev', ce')) :
    dev'.sqs = Function.update dev.sqs p ((dev.sqs p).handleCompletion e) := by
  unfold bceHandleCqCompletion at h
  rw [if_neg (by omega), hp] at h
  unfold BceQueueSq.handleCompletion
  simp only at h
  split at h
  · next hindex =>
    rw [if_pos hindex]
    cases h
    exact (Function.update_eq_self p dev.sqs).symm
  · next hindex =>
    rw [if_neg hindex]
    split at h
    · cases h
    · split at h
      · next hpending =>
        cases h
        rw [show { dev.sqs p with hasPendingCompletions := true } = dev.sqs p by rw [← hpending]]
      · split at h
        · cases h
        · cases h
          rfl

end BceDriver
