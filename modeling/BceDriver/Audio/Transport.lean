import BceDriver.Lib.Threads
import BceDriver.Mailbox.Basic
import BceDriver.Queue.Basic

/-!
# The audio transport (`audio/protocol_bce.c`)

A command is sent under a tag `S000` … `S999`, drawn from the counter `tag_num`.
`__aaudio_send_cmd_sync` enters its `aaudio_bce_queue_entry`, which lives on its
stack, in `pending_entries` under that tag and waits; `aaudio_handle_reply` finds
the entry by the tag of the reply, copies the reply and completes the wait.

- Any number of threads send commands, with or without waiting, and handle
  replies; what the spinlock protects is split at each of its accesses.
- An entry is named by its thread: `pendingEntries t = some i` is a pointer to
  the entry on the stack of thread `i`, whichever call of `i` it belongs to.
- `drawn`, `call`, `serving` and `handled` only record what happened: the number
  of tags drawn, which of them a thread's call has, how far the handler that
  holds the lock is with an entry, and the replies handled so far.
-/

namespace BceDriver

def AAUDIO_BCE_QUEUE_ELEMENT_SIZE : Nat := 0x1000
def AAUDIO_BCE_QUEUE_ELEMENT_COUNT : Nat := 20
def AAUDIO_BCE_QUEUE_TAG_COUNT : Nat := 1000

/-! ## Messages and tags -/

structure AaudioMsg where
  size : Nat
  data : List UInt8
deriving DecidableEq, Repr

/-- `snprintf("S%03d")` of a tag number. -/
def aaudioTag (tagn : Nat) : List UInt8 :=
  [0x53, .ofNat (0x30 + tagn / 100), .ofNat (0x30 + tagn / 10 % 10), .ofNat (0x30 + tagn % 10)]

/-- The digits `kstrtoint` reads, up to an optional final newline. -/
def kstrtointDigits : Nat → List UInt8 → Option Nat
  | n, [] => some n
  | n, [0x0a] => some n
  | n, d :: ds =>
    if 0x30 ≤ d ∧ d ≤ 0x39 then kstrtointDigits (10 * n + (d.toNat - 0x30)) ds else none

/-- `kstrtoint` to base 10, on the bytes up to the terminating zero. -/
def kstrtoint (s : List UInt8) : Option Int :=
  match s.takeWhile (· ≠ 0) with
  | [] | [0x0a] | [0x2b] | [0x2d] | [0x2b, 0x0a] | [0x2d, 0x0a] => none
  | 0x2d :: ds => (kstrtointDigits 0 ds).map fun n => -(n : Int)
  | 0x2b :: ds => (kstrtointDigits 0 ds).map fun n => (n : Int)
  | ds => (kstrtointDigits 0 ds).map fun n => (n : Int)

/-- The tag number of a reply; the tag is the first field of its header. -/
def aaudioReplyTag (reply : AaudioMsg) : Option Int :=
  match reply.data.take 4 with
  | 0x53 :: digits => kstrtoint digits
  | _ => none

/-- A tag number comes back from the tag made of it. -/
theorem aaudioReplyTag_tag {tagn : Nat} (h : tagn < AAUDIO_BCE_QUEUE_TAG_COUNT) (size : Nat)
    (rest : List UInt8) : aaudioReplyTag ⟨size, aaudioTag tagn ++ rest⟩ = some (tagn : Int) := by
  have hall : ∀ n < 1000, kstrtoint (aaudioTag n).tail = some (n : Int) := by decide +kernel
  exact hall tagn h

/-- The copy of a reply into the buffer of an entry: `msg->size` shrinks to the
reply if need be, and that many bytes are copied. -/
def aaudioCopy (reply msg : AaudioMsg) : AaudioMsg :=
  let size := if reply.size < msg.size then reply.size else msg.size
  { size, data := reply.data.take size ++ msg.data.drop size }

theorem aaudioCopy_size_le (reply msg : AaudioMsg) : (aaudioCopy reply msg).size ≤ msg.size := by
  unfold aaudioCopy
  simp only
  split
  · next h => exact h.le
  · exact le_rfl

/-! ## What is shared -/

/-- A reply that was handled: the call it was copied to, if any. -/
structure AaudioHandled where
  tagn : Nat
  reply : AaudioMsg
  call : Option Nat
deriving DecidableEq, Repr

structure AaudioBce (ι : Type) where
  tagNum : Nat
  /-- `qout.data_tail` -/
  dataTail : Nat
  /-- the tag in the header of each slot of `qout.data` -/
  tags : Nat → List UInt8
  dmaAddr : Nat
  /-- `qout.sq` -/
  sq : BceQueueSq
  pendingEntries : Nat → Option ι
  /-- who holds the spinlock -/
  spinlock : Option ι
  /-- the tokens of the completion in each thread's entry -/
  cmpl : ι → Nat
  /-- the message each thread's entry points to -/
  msg : ι → AaudioMsg
  drawn : Nat
  call : ι → Nat
  /-- the tag whose entry is being served, and whether its waiter is completed -/
  serving : Option (Nat × Bool)
  handled : List AaudioHandled

/-- `aaudio_bce_init`, with the queue it made. -/
def aaudioBceInit (ι : Type) (dmaAddr : Nat) (sq : BceQueueSq) : AaudioBce ι where
  tagNum := 0
  dataTail := 0
  tags := fun _ => []
  dmaAddr := dmaAddr
  sq := sq
  pendingEntries := fun _ => none
  spinlock := none
  cmpl := fun _ => 0
  msg := fun _ => ⟨0, []⟩
  drawn := 0
  call := fun _ => 0
  serving := none
  handled := []

/-! ## Threads -/

/-- A call of `__aaudio_send_cmd_sync` that entered its entry. -/
structure AaudioCall where
  /-- the number of tags drawn up to its own -/
  call : Nat
  tagn : Nat
  /-- the number of replies handled before -/
  since : Nat
deriving DecidableEq, Repr

inductive AaudioSendKind where
  /-- `aaudio_send_cmd_sync` with the message the reply is to be copied to -/
  | sync (reply : AaudioMsg)
  /-- `aaudio_send` -/
  | plain
  /-- `aaudio_send_with_tag` -/
  | tagged (tag : List UInt8)
deriving DecidableEq, Repr

inductive AaudioThread (ι : Type) where
  | idle
  /-- in `bce_reserve_submission`; the message will have `size` bytes -/
  | reserving (kind : AaudioSendKind) (size : Nat)
  | locking (kind : AaudioSendKind) (size : Nat)
  | preparing (kind : AaudioSendKind) (size : Nat)
  /-- drew its tag, and is about to enter its entry -/
  | prepared (size call tagn : Nat)
  | registered (size : Nat) (c : AaudioCall)
  | sending (size : Nat)
  | waiting (c : AaudioCall)
  | timedOut (c : AaudioCall)
  | removing (c : AaudioCall)
  | removed
  | returned (status : Int)
  /-- `aaudio_handle_reply` before it takes the lock -/
  | replying (tagn : Nat) (reply : AaudioMsg)
  | delivering (tagn : Nat) (reply : AaudioMsg)
  | completing (tagn : Nat) (entry : ι)
  | clearing (tagn : Nat)
  | replied
deriving DecidableEq, Repr

inductive AaudioChoice where
  | send (kind : AaudioSendKind) (size : Nat)
  | handleReply (reply : AaudioMsg)
  /-- `bce_reserve_submission` returns -/
  | reserved (status : Int)
  | next
  | timeout
deriving DecidableEq, Repr

variable {ι : Type} [DecidableEq ι]

/-- `aaudio_send_create_tag`, on the header in slot `data_tail`. -/
def aaudioSendCreateTag (b : AaudioBce ι) : AaudioBce ι :=
  let tagn := (b.tagNum + 1) % AAUDIO_BCE_QUEUE_TAG_COUNT
  { b with
    tagNum := tagn
    tags := Function.update b.tags b.dataTail (aaudioTag tagn)
    drawn := b.drawn + 1 }

/-- `__aaudio_send`: submits the message in slot `data_tail` and unlocks. -/
def aaudioSend (size : Nat) (b : AaudioBce ι) : AaudioBce ι :=
  let next := bceNextSubmission b.sq
  let addr := b.dmaAddr + b.dataTail * AAUDIO_BCE_QUEUE_ELEMENT_SIZE
  { b with
    sq := bceSubmitToDevice (bceSetSubmissionSingle next.2 next.1 addr size)
    dataTail := (b.dataTail + 1) % AAUDIO_BCE_QUEUE_ELEMENT_COUNT
    spinlock := none }

/-- `spin_lock`, by thread `i`. -/
def AaudioBce.lock (b : AaudioBce ι) (i : ι) : Option (AaudioBce ι) :=
  if b.spinlock = none then some { b with spinlock := some i } else none

/-- The part of `aaudio_handle_reply` that finds the entry and copies the reply. -/
def aaudioDeliver (tagn : Nat) (reply : AaudioMsg) (b : AaudioBce ι) :
    AaudioThread ι × AaudioBce ι :=
  match b.pendingEntries tagn with
  | some j =>
    (.completing tagn j, { b with
      msg := Function.update b.msg j (aaudioCopy reply (b.msg j))
      serving := some (tagn, false)
      handled := b.handled ++ [⟨tagn, reply, some (b.call j)⟩] })
  | none => (.replied, { b with handled := b.handled ++ [⟨tagn, reply, none⟩] })

/-- A call by a thread that is in none. -/
def aaudioCallStep (i : ι) : AaudioChoice → AaudioBce ι → Option (AaudioThread ι × AaudioBce ι)
  | .send (.sync reply) size, b =>
    some (.reserving (.sync reply) size, { b with msg := Function.update b.msg i reply })
  | .send kind size, b => some (.reserving kind size, b)
  | .handleReply reply, b =>
    match aaudioReplyTag reply with
    | none => some (.idle, b)
    | some tagn =>
      -- the table is indexed unchecked; a tag outside it has no step here
      if 0 ≤ tagn ∧ tagn < AAUDIO_BCE_QUEUE_TAG_COUNT then
        some (.replying tagn.toNat reply, b)
      else none
  | _, _ => none

/-- The steps of a thread. -/
def aaudioRun (i : ι) :
    AaudioChoice → AaudioThread ι → AaudioBce ι → Option (AaudioThread ι × AaudioBce ι)
  | c, .idle, b | c, .returned _, b => aaudioCallStep i c b
  -- `__aaudio_send_prepare`
  | .reserved status, .reserving kind size, b =>
    some (if status = 0 then .locking kind size else .returned status, b)
  | .next, .locking kind size, b => (b.lock i).map fun b => (.preparing kind size, b)
  | .next, .preparing (.tagged tag) size, b =>
    some (.sending size, { b with tags := Function.update b.tags b.dataTail tag })
  | .next, .preparing .plain size, b => some (.sending size, aaudioSendCreateTag b)
  | .next, .preparing (.sync _) size, b =>
    let b := aaudioSendCreateTag b
    some (.prepared size b.drawn b.tagNum, b)
  | .next, .sending size, b => some (.returned 0, aaudioSend size b)
  -- `__aaudio_send_cmd_sync`
  | .next, .prepared size call tagn, b =>
    some (.registered size ⟨call, tagn, b.handled.length⟩, { b with
      cmpl := Function.update b.cmpl i 0
      pendingEntries := Function.update b.pendingEntries tagn (some i)
      call := Function.update b.call i call })
  | .next, .registered size c, b => some (.waiting c, aaudioSend size b)
  | .next, .waiting _, b =>
    if 0 < b.cmpl i then
      some (.returned 0, { b with cmpl := Function.update b.cmpl i (b.cmpl i - 1) })
    else none
  | .timeout, .waiting c, b => if b.cmpl i = 0 then some (.timedOut c, b) else none
  | .next, .timedOut c, b => (b.lock i).map fun b => (.removing c, b)
  | .next, .removing c, b =>
    some (.removed, if b.pendingEntries c.tagn = some i then
        { b with pendingEntries := Function.update b.pendingEntries c.tagn none }
      else b)
  | .next, .removed, b => some (.returned (-ETIMEDOUT), { b with spinlock := none })
  -- `aaudio_handle_reply`
  | .next, .replying tagn reply, b => (b.lock i).map fun b => (.delivering tagn reply, b)
  | .next, .delivering tagn reply, b => some (aaudioDeliver tagn reply b)
  | .next, .completing tagn j, b =>
    some (.clearing tagn, { b with
      cmpl := Function.update b.cmpl j (b.cmpl j + 1)
      serving := some (tagn, true) })
  | .next, .clearing tagn, b =>
    some (.replied, { b with
      pendingEntries := Function.update b.pendingEntries tagn none
      serving := none })
  | .next, .replied, b => some (.idle, { b with spinlock := none })
  | _, _, _ => none

/-- The threads `ι` over one transport. -/
def aaudioProgram (ι : Type) [DecidableEq ι] :
    ThreadProgram ι (AaudioBce ι) (AaudioThread ι) AaudioChoice Empty where
  init b := ∃ dmaAddr sq, b = aaudioBceInit ι dmaAddr sq
  start := .idle
  run := aaudioRun
  env e := e.elim

end BceDriver
