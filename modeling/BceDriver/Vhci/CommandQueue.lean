import BceDriver.Lib.Threads
import BceDriver.Mailbox.Basic
import BceDriver.Vhci.Message

/-!
# The command queue (`vhci/queue.c`)

`bce_vhci_command_queue_execute` sends a request under the mutex and waits for
the reply: it registers the caller's buffer as `completion.result`, and
`bce_vhci_command_queue_deliver_completion` copies the reply there and completes
the wait. A request that times out is cancelled in a second exchange over the
same buffer and completion.

- Any number of threads execute requests, deliver messages and destroy the queue;
  what `completion_lock` protects is split where another thread can see it.
- `result` is the thread whose buffer it points to.
- A message is delivered as it comes (`deliver`), or is the device's answer to the
  oldest message it has not answered (`reply`).
- `calls`, `exchanges`, `sent`, `cancels`, `writes`, `serving`, `unanswered` and
  `origin` only record what happened: the calls that took the mutex, the
  registrations, the messages sent, the last call that sent a cancellation, the
  exchange and buffer of each delivery that was written, how far the delivery in
  progress is, the messages without an answer, and what the content of a buffer
  answers.
-/

namespace BceDriver

/-! ## Exchanges -/

/-- A message as it was sent: the call that sent it, and whether to cancel. -/
structure CommandSent where
  call : Nat
  cancel : Bool
  msg : BceVhciMessage
deriving DecidableEq, Repr

/-- The device's answer: it echoes `cmd` with bit `0x8000` set. -/
def CommandSent.reply (o : CommandSent) (status param1 param2 : Nat) : BceVhciMessage :=
  ⟨o.msg.cmd ||| 0x8000, status, param1, param2⟩

/-- One run of `__bce_vhci_command_queue_execute`: of the request itself, or of its
cancellation. -/
structure CommandExchange where
  call : Nat
  req : BceVhciMessage
  cancel : Bool
deriving DecidableEq, Repr

/-- The exchange `bce_vhci_command_queue_cancel` starts. -/
def CommandExchange.cancellation (x : CommandExchange) : CommandExchange :=
  { x with req := { x.req with cmd := x.req.cmd ||| 0x4000 }, cancel := true }

/-- The last statements of `__bce_vhci_command_queue_execute`, with a reply. -/
def commandReplyStatus (req res : BceVhciMessage) : Int :=
  -- `res->cmd & ~0xC000` and `req->cmd & ~0x4000` of the 16-bit commands
  if res.cmd &&& 0x3FFF ≠ req.cmd &&& 0xBFFF then - EIO
  else if res.status = BCE_VHCI_SUCCESS then 0
  else res.status

/-- What `bce_vhci_command_queue_execute` returns when the exchange ends with
`status`: `bce_vhci_command_queue_cancel` looks at the buffer once more. -/
def CommandExchange.finish (x : CommandExchange) (res : BceVhciMessage) (status : Int) : Int :=
  if x.cancel then
    if status = -ETIMEDOUT then -ETIMEDOUT
    else if res.cmd &&& 0x4000 = 0 then status
    else -ETIMEDOUT
  else status

/-! ## What is shared -/

structure BceVhciCommandQueue (ι : Type) where
  mq : BceVhciMessageQueue
  /-- `completion.result` -/
  result : Option ι
  /-- the tokens of `completion.completion` -/
  completion : Nat
  completionLock : Option ι
  mutex : Option ι
  /-- the callers' buffers -/
  res : ι → BceVhciMessage
  calls : Nat
  exchanges : Nat
  sent : Nat
  cancels : Nat
  writes : List (Nat × ι)
  /-- a delivery is written and not yet completed (`false`), or completed (`true`) -/
  serving : Option Bool
  unanswered : List CommandSent
  origin : ι → Option CommandSent

/-- `bce_vhci_command_queue_create` -/
def bceVhciCommandQueueCreate (ι : Type) (mq : BceVhciMessageQueue) : BceVhciCommandQueue ι where
  mq := mq
  result := none
  completion := 0
  completionLock := none
  mutex := none
  res := fun _ => default
  calls := 0
  exchanges := 0
  sent := 0
  cancels := 0
  writes := []
  serving := none
  unanswered := []
  origin := fun _ => none

/-! ## Threads -/

/-- What `bce_vhci_command_queue_deliver_completion` or
`bce_vhci_command_queue_destroy` writes to the buffer, and what it answers. -/
structure CommandDelivery where
  msg : BceVhciMessage
  owner : Option CommandSent
  destroy : Bool
deriving DecidableEq, Repr

inductive CommandThread where
  | idle
  /-- about to take the mutex -/
  | acquiring (req : BceVhciMessage)
  | reserving (x : CommandExchange)
  | registering (x : CommandExchange)
  | registered (x : CommandExchange)
  | writing (x : CommandExchange)
  | waiting (x : CommandExchange)
  /-- the wait timed out; about to take `completion_lock` -/
  | cleaning (x : CommandExchange)
  | cleaned (x : CommandExchange)
  /-- the wait returned with time left -/
  | answered (x : CommandExchange)
  | unlocking (call : Nat) (status : Int)
  | returned (call : Nat) (status : Int)
  | delivering (d : CommandDelivery)
  | holding (d : CommandDelivery)
  | completing (destroy : Bool)
  | clearing (destroy : Bool)
  | releasing (destroy : Bool)
  /-- `bce_vhci_command_queue_destroy` about to take the mutex -/
  | joining
  | joined
deriving DecidableEq, Repr

inductive CommandChoice where
  /-- call `bce_vhci_command_queue_execute`, with what the buffer happens to hold -/
  | execute (req res : BceVhciMessage)
  | deliver (msg : BceVhciMessage)
  | reply (status param1 param2 : Nat)
  | destroy
  /-- `bce_reserve_submission` returns -/
  | reserved (status : Int)
  | next
  | timeout
deriving DecidableEq, Repr

/-- The message `bce_vhci_command_queue_destroy` leaves in the buffer. -/
def abortMessage : BceVhciMessage := ⟨0, BCE_VHCI_ABORT, 0, 0⟩

variable {ι : Type} [DecidableEq ι]

/-- A call by a thread that is in none. -/
def commandCallStep (i : ι) :
    CommandChoice → BceVhciCommandQueue ι → Option (CommandThread × BceVhciCommandQueue ι)
  | .execute req res, cq =>
    some (.acquiring req, { cq with
      res := Function.update cq.res i res
      origin := Function.update cq.origin i none })
  | .deliver msg, cq => some (.delivering ⟨msg, none, false⟩, cq)
  | .reply status param1 param2, cq =>
    match cq.unanswered with
    | [] => none
    | o :: rest =>
      some (.delivering ⟨o.reply status param1 param2, some o, false⟩,
        { cq with unanswered := rest })
  | .destroy, cq => some (.delivering ⟨abortMessage, none, true⟩, cq)
  | _, _ => none

/-- `spin_lock(&cq->completion_lock)`, by thread `i`. -/
def BceVhciCommandQueue.lock (cq : BceVhciCommandQueue ι) (i : ι) :
    Option (BceVhciCommandQueue ι) :=
  if cq.completionLock = none then some { cq with completionLock := some i } else none

def BceVhciCommandQueue.unlock (cq : BceVhciCommandQueue ι) : BceVhciCommandQueue ι :=
  { cq with completionLock := none }

/-- The steps of a thread. -/
def commandRun (i : ι) : CommandChoice → CommandThread → BceVhciCommandQueue ι →
    Option (CommandThread × BceVhciCommandQueue ι)
  | c, .idle, cq | c, .returned _ _, cq => commandCallStep i c cq
  -- `bce_vhci_command_queue_execute`
  | .next, .acquiring req, cq =>
    if cq.mutex = none then
      some (.reserving ⟨cq.calls + 1, req, false⟩,
        { cq with mutex := some i, calls := cq.calls + 1 })
    else none
  | .next, .unlocking call status, cq => some (.returned call status, { cq with mutex := none })
  -- `__bce_vhci_command_queue_execute`
  | .reserved status, .reserving x, cq =>
    some (if status = 0 then .registering x
      else .unlocking x.call (x.finish (cq.res i) status), cq)
  | .next, .registering x, cq =>
    (cq.lock i).map fun cq => (.registered x, { cq with
      result := some i
      completion := 0
      exchanges := cq.exchanges + 1 })
  | .next, .registered x, cq => some (.writing x, cq.unlock)
  | .next, .writing x, cq =>
    some (.waiting x, { cq with
      mq := bceVhciMessageQueueWrite cq.mq x.req
      sent := cq.sent + 1
      cancels := if x.cancel then x.call else cq.cancels
      unanswered := cq.unanswered ++ [⟨x.call, x.cancel, x.req⟩] })
  | .next, .waiting x, cq =>
    if 0 < cq.completion then
      some (.answered x, { cq with completion := cq.completion - 1 })
    else none
  | .timeout, .waiting x, cq => if cq.completion = 0 then some (.cleaning x, cq) else none
  | .next, .cleaning x, cq =>
    (cq.lock i).map fun cq => (.cleaned x, { cq with result := none })
  | .next, .cleaned x, cq =>
    some (if x.req.cmd &&& 0x4000 = 0 then .reserving x.cancellation
      else .unlocking x.call (x.finish (cq.res i) (-ETIMEDOUT)), cq.unlock)
  | .next, .answered x, cq =>
    some (.unlocking x.call (x.finish (cq.res i) (commandReplyStatus x.req (cq.res i))), cq)
  -- `bce_vhci_command_queue_deliver_completion` and `bce_vhci_command_queue_destroy`
  | .next, .delivering d, cq => (cq.lock i).map fun cq => (.holding d, cq)
  | .next, .holding d, cq =>
    match cq.result with
    | some j =>
      some (.completing d.destroy, { cq with
        res := Function.update cq.res j d.msg
        origin := Function.update cq.origin j d.owner
        writes := cq.writes ++ [(cq.exchanges, j)]
        serving := some false })
    | none => some (.releasing d.destroy, cq)
  | .next, .completing destroy, cq =>
    some (.clearing destroy, { cq with completion := cq.completion + 1, serving := some true })
  | .next, .clearing destroy, cq =>
    some (.releasing destroy, { cq with result := none, serving := none })
  | .next, .releasing destroy, cq => some (if destroy then .joining else .idle, cq.unlock)
  | .next, .joining, cq =>
    if cq.mutex = none then some (.joined, { cq with mutex := some i }) else none
  | .next, .joined, cq => some (.idle, { cq with mutex := none })
  | _, _, _ => none

/-- The threads `ι` over one command queue. -/
def commandProgram (ι : Type) [DecidableEq ι] :
    ThreadProgram ι (BceVhciCommandQueue ι) CommandThread CommandChoice Empty where
  init cq := ∃ mq, cq = bceVhciCommandQueueCreate ι mq
  start := .idle
  run := commandRun
  env e := e.elim

end BceDriver
