import BceDriver.Lib.Threads
import BceDriver.Queue.Basic

/-!
# The mailbox (`mailbox.c`)

`bce_mailbox_send` claims the mailbox by taking `mb_status` from 0 to 1, writes
its message, waits for the reply, and gives the mailbox back by setting
`mb_status` to 0. `bce_mailbox_handle_interrupt` stores the replies in
`mb_result`, sets `mb_status` to 2 and wakes the waiter.

- Any number of threads call `bce_mailbox_send`; each atomic operation, register
  write, completion operation and access to `mb_result` is one step.
- The handler runs do not overlap: `handler` is where the current one is.
- `finished` and `stores` only record what happened: how many handler runs are
  over, and which run stored which value. A sender remembers in `since` how many
  were over when it claimed the mailbox, so the runs `since`, `since + 1`, … are
  those that had not finished by then.
-/

namespace BceDriver

def EEXIST : Int := 17
def ETIMEDOUT : Int := 110

def REG_MBOX_OUT_BASE : Nat := 0x820

/-- Where the run of `bce_mailbox_handle_interrupt` is. -/
inductive MailboxHandler where
  | idle
  /-- `counter` more replies to read -/
  | retrieving (counter : Nat)
  | completing
deriving DecidableEq, Repr

structure BceMailbox where
  /-- the writes to the device's registers, offset and value, oldest first -/
  iowrites : List (Nat × BitVec 32)
  mbStatus : Int
  /-- the tokens `complete()` left and no wait has taken -/
  mbCompletion : Nat
  mbResult : BitVec 64
  handler : MailboxHandler
  finished : Nat
  stores : List (Nat × BitVec 64)
deriving DecidableEq, Repr

/-- `bce_mailbox_init`, in the zeroed device structure. -/
def bceMailboxInit : BceMailbox where
  iowrites := []
  mbStatus := 0
  mbCompletion := 0
  mbResult := 0
  handler := .idle
  finished := 0
  stores := []

/-! ## `bce_mailbox_send` -/

/-- The place in `bce_mailbox_send` of a sender that claimed the mailbox. -/
inductive SendPhase where
  | claimed (msg : BitVec 64)
  /-- `k` of the four registers are written -/
  | writing (msg : BitVec 64) (k : Nat)
  | waiting
  | woken
  | replied
  | received (recv : BitVec 64)
  | timedOut
deriving DecidableEq, Repr

inductive Sender where
  | idle
  /-- between the claim of `mb_status` and its release -/
  | sending (since : Nat) (phase : SendPhase)
  | returned (since : Nat) (status : Int) (recv : Option (BitVec 64))
deriving DecidableEq, Repr

inductive SendChoice where
  /-- call `bce_mailbox_send` -/
  | send (msg : BitVec 64)
  | next
  /-- the 200 ms are over -/
  | timeout
deriving DecidableEq, Repr

/-- The words written from `REG_MBOX_OUT_BASE` on. -/
def mboxOutWord (msg : BitVec 64) : Nat → BitVec 32
  | 0 => msg.setWidth 32
  | 1 => (msg >>> 32).setWidth 32
  | _ => 0

/-- The `atomic_cmpxchg` a call begins with. -/
def mailboxClaim (msg : BitVec 64) (mb : BceMailbox) : Sender × BceMailbox :=
  if mb.mbStatus ≠ 0 then
    (.returned mb.finished (-EEXIST) none, mb)
  else
    (.sending mb.finished (.claimed msg), { mb with mbStatus := 1 })

/-- The steps of `bce_mailbox_send` from the claim on; `timeout` ends a wait that
finds no token. -/
def mailboxSendStep (since : Nat) (timeout : Bool) :
    SendPhase → BceMailbox → Option (Sender × BceMailbox)
  | .claimed msg, mb => some (.sending since (.writing msg 0), { mb with mbCompletion := 0 })
  | .writing msg k, mb =>
    let mb := { mb with
      iowrites := mb.iowrites ++ [(REG_MBOX_OUT_BASE + 4 * k, mboxOutWord msg k)] }
    some (.sending since (if k + 1 < 4 then .writing msg (k + 1) else .waiting), mb)
  | .waiting, mb =>
    if timeout then
      if mb.mbCompletion = 0 then some (.sending since .woken, mb) else none
    else if 0 < mb.mbCompletion then
      some (.sending since .woken, { mb with mbCompletion := mb.mbCompletion - 1 })
    else none
  | .woken, mb =>
    some (.sending since (if mb.mbStatus ≠ 2 then .timedOut else .replied), mb)
  | .replied, mb => some (.sending since (.received mb.mbResult), mb)
  | .received recv, mb => some (.returned since 0 (some recv), { mb with mbStatus := 0 })
  | .timedOut, mb => some (.returned since (-ETIMEDOUT) none, { mb with mbStatus := 0 })

/-- `bce_mailbox_send` -/
def bceMailboxSend : SendChoice → Sender → BceMailbox → Option (Sender × BceMailbox)
  | .send msg, .idle, mb | .send msg, .returned _ _ _, mb => some (mailboxClaim msg mb)
  | .next, .sending since phase, mb => mailboxSendStep since false phase mb
  | .timeout, .sending since .waiting, mb => mailboxSendStep since true .waiting mb
  | _, _, _ => none

/-! ## `bce_mailbox_handle_interrupt` -/

inductive MailboxEvent where
  /-- the interrupt: the reply counter register reads `res` -/
  | interrupt (res : BitVec 32)
  /-- the two words of one reply -/
  | retrieve (lo hi : BitVec 32)
  | next
deriving DecidableEq, Repr

/-- `bce_mailbox_handle_interrupt` and `bce_mailbox_retrive_response`; a run that
finds no reply returns `-ENODATA` at once. -/
def bceMailboxHandleInterrupt : MailboxEvent → BceMailbox → Option BceMailbox
  | .interrupt res, mb =>
    if mb.handler = .idle then
      let count := ((res >>> 20) &&& 0xf).toNat
      if 0 < count then
        some { mb with handler := .retrieving count }
      else
        some { mb with finished := mb.finished + 1 }
    else none
  | .retrieve lo hi, mb =>
    match mb.handler with
    | .retrieving (counter + 1) =>
      let result := (hi.setWidth 64 <<< 32) ||| lo.setWidth 64
      some { mb with
        mbResult := result
        handler := .retrieving counter
        stores := mb.stores ++ [(mb.finished, result)] }
    | _ => none
  | .next, mb =>
    match mb.handler with
    | .retrieving 0 => some { mb with mbStatus := 2, handler := .completing }
    | .completing =>
      some { mb with
        mbCompletion := mb.mbCompletion + 1
        handler := .idle
        finished := mb.finished + 1 }
    | _ => none

/-! ## The system -/

/-- The senders `ι` and the interrupt. -/
def mailboxProgram (ι : Type) :
    ThreadProgram ι BceMailbox Sender SendChoice MailboxEvent where
  init mb := mb = bceMailboxInit
  start := .idle
  run _ := bceMailboxSend
  env := bceMailboxHandleInterrupt

/-- The state before any call. -/
def mailboxStart (ι : Type) : Threads ι BceMailbox Sender where
  shared := bceMailboxInit
  thread _ := .idle

/-- The sender holds the mailbox. -/
def Sender.Sending : Sender → Prop
  | .sending _ _ => True
  | _ => False

instance : DecidablePred Sender.Sending
  | .sending _ _ => .isTrue trivial
  | .idle | .returned _ _ _ => .isFalse id

end BceDriver
