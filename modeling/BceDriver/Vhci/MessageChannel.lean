import BceDriver.Lib.ServiceQueue
import BceDriver.Lib.Simulation
import BceDriver.Queue.Counts
import BceDriver.Vhci.Message

/-!
# A message queue is a channel (`vhci/queue.c`)

Any number of threads send on a message queue: each reserves a slot, and writes its
message into it with `bce_vhci_message_queue_write` under the lock of the queue. The
device reads the submissions up to the doorbell, each through the bus address in it,
and completes them in order; `bce_vhci_message_queue_completion` gives the slots back.

- `MessageChannel.pending`: what the device is still going to read.
- `MessageChannel.Ok`: the totals of the ring, and that what the device has not read
  yet is as it was written.
- `messageChannel_in_order`: the queue is a `ServiceQueue` from which nothing is
  withdrawn.
-/

namespace BceDriver

open RingIndex

/-! ## The queue and the device -/

/-- The message the device finds by the submission in slot `i`, if its address is that
of a message in `data`. -/
def BceVhciMessageQueue.fetch (q : BceVhciMessageQueue) (i : Nat) : Option BceVhciMessage :=
  let s := q.sq.data i
  let slot := (s.addr - q.dmaAddr) / bceVhciMessageSize
  if s.length = bceVhciMessageSize ∧ s.addr = q.dmaAddr + bceVhciMessageSize * slot ∧
      slot < VHCI_EVENT_QUEUE_EL_COUNT then
    some (q.data slot)
  else
    none

structure MessageChannel where
  mq : BceVhciMessageQueue
  /-- the reservations no message was written for yet -/
  held : Nat
  /-- the messages written, in order -/
  written : List BceVhciMessage
  /-- the slot the device reads next -/
  next : Nat
  /-- the submissions it read and did not complete -/
  reading : Nat
  /-- what it read, in order -/
  taken : List (Option BceVhciMessage)

inductive ChannelAction where
  /-- an attempt of `bce_reserve_submission` -/
  | reserve
  /-- what blocked calls and their wakeups do to the counters of waits -/
  | waits (tokens : Nat) (waiting : Int)
  | cancel
  | write (msg : BceVhciMessage)
  | read
  | complete (e : BceQeCompletion)
  /-- a round of `bce_vhci_message_queue_completion` -/
  | notify
deriving DecidableEq, Repr

namespace MessageChannel

/-- Nothing was sent yet. -/
def start (mq : BceVhciMessageQueue) : MessageChannel where
  mq := mq
  held := 0
  written := []
  next := 0
  reading := 0
  taken := []

/-- A message is written. -/
def write (ch : MessageChannel) (msg : BceVhciMessage) : MessageChannel :=
  { ch with
    mq := bceVhciMessageQueueWrite ch.mq msg
    held := ch.held - 1
    written := ch.written ++ [msg] }

/-- The device reads a submission. -/
def read (ch : MessageChannel) : MessageChannel :=
  { ch with
    next := (ch.next + 1) % VHCI_EVENT_QUEUE_EL_COUNT
    reading := ch.reading + 1
    taken := ch.taken ++ [ch.mq.fetch ch.next] }

def step : ChannelAction → MessageChannel → Option MessageChannel
  | .reserve, ch =>
    match bceReserveSubmission ch.mq.sq 0 with
    | (.returned 0, sq) => some { ch with mq := { ch.mq with sq := sq }, held := ch.held + 1 }
    | (_, sq) => some { ch with mq := { ch.mq with sq := sq } }
  | .waits tokens waiting, ch =>
    some { ch with mq := { ch.mq with sq := { ch.mq.sq with
      availableCommandCompletion := tokens
      availableCommandCompletionWaitingCount := waiting } } }
  | .cancel, ch =>
    if 0 < ch.held then
      some { ch with
        mq := { ch.mq with sq := bceCancelSubmissionReservation ch.mq.sq }
        held := ch.held - 1 }
    else none
  | .write msg, ch => if 0 < ch.held then some (ch.write msg) else none
  | .read, ch => if ch.next ≠ ch.mq.sq.doorbell then some ch.read else none
  | .complete e, ch =>
    if 0 < ch.reading then
      some { ch with
        mq := { ch.mq with sq := bceStoreCompletion ch.mq.sq e }
        reading := ch.reading - 1 }
    else none
  | .notify, ch =>
    match bceNextCompletion ch.mq.sq with
    | some (_, sq) => some { ch with mq := { ch.mq with sq := bceNotifySubmissionComplete sq } }
    | none => none

/-- What the device is going to read, if nothing more is written. -/
def pending (ch : MessageChannel) : List (Option BceVhciMessage) :=
  (List.range (dist VHCI_EVENT_QUEUE_EL_COUNT ch.next ch.mq.sq.doorbell)).map fun i =>
    ch.mq.fetch (advance VHCI_EVENT_QUEUE_EL_COUNT ch.next i)

/-- The queue as its users see it. -/
def view (ch : MessageChannel) : ServiceQueue (Option BceVhciMessage) :=
  ⟨ch.written.map some, ch.pending, ch.taken⟩

end MessageChannel

/-- All runs of a message queue. -/
def messageChannelSystem : StepSystem MessageChannel ChannelAction where
  init ch := ∃ qid dmaAddr, ch = .start (bceVhciMessageQueueCreate qid dmaAddr)
  step := MessageChannel.step

/-! ## What holds of the queue -/

/-- The submission in slot `i` is for the message in slot `i` of `data`, which is `msg`. -/
structure BceVhciMessageQueue.Holds (q : BceVhciMessageQueue) (i : Nat) (msg : BceVhciMessage) :
    Prop where
  submission : q.sq.data i = ⟨bceVhciMessageSize, q.dmaAddr + bceVhciMessageSize * i, 0, 0⟩
  message : q.data i = msg

theorem BceVhciMessageQueue.Holds.fetch {q : BceVhciMessageQueue} {i : Nat} {msg : BceVhciMessage}
    (h : q.Holds i msg) (hi : i < VHCI_EVENT_QUEUE_EL_COUNT) : q.fetch i = some msg := by
  have hslot : (q.dmaAddr + bceVhciMessageSize * i - q.dmaAddr) / bceVhciMessageSize = i := by
    rw [Nat.add_sub_cancel_left]
    exact Nat.mul_div_cancel_left i (by decide)
  simp only [BceVhciMessageQueue.fetch, h.submission, hslot]
  rw [if_pos ⟨trivial, trivial, hi⟩, h.message]

/-- A message just written is held by its slot. -/
theorem bceVhciMessageQueueWrite_holds (q : BceVhciMessageQueue) (req : BceVhciMessage) :
    (bceVhciMessageQueueWrite q req).Holds q.sq.tail req :=
  ⟨Function.update_self .., Function.update_self ..⟩

/-- Other slots hold what they held. -/
theorem BceVhciMessageQueue.Holds.write {q : BceVhciMessageQueue} {i : Nat}
    {msg : BceVhciMessage} (h : q.Holds i msg) (req : BceVhciMessage) (hne : i ≠ q.sq.tail) :
    (bceVhciMessageQueueWrite q req).Holds i msg :=
  ⟨(Function.update_of_ne hne ..).trans h.submission,
    (Function.update_of_ne hne ..).trans h.message⟩

namespace MessageChannel

/-- The totals of the ring are those of the messages, and the slots of the messages the
device has not read yet hold them. -/
structure Totals (ch : MessageChannel) (k : SqTotals) : Prop where
  counts : SqCounts ch.mq.sq VHCI_EVENT_QUEUE_EL_COUNT k
  rung : k.rung = k.submitted
  submitted : k.submitted = ch.written.length
  held : k.held = ch.held
  next : ch.next = ch.taken.length % VHCI_EVENT_QUEUE_EL_COUNT
  reading : k.completed + ch.reading = ch.taken.length
  taken_le : ch.taken.length ≤ ch.written.length
  intact : ∀ j msg, ch.taken.length ≤ j → ch.written[j]? = some msg →
    ch.mq.Holds (j % VHCI_EVENT_QUEUE_EL_COUNT) msg

def Ok (ch : MessageChannel) : Prop := ∃ k, ch.Totals k

variable {ch : MessageChannel} {k : SqTotals}

namespace Totals

/-- The messages not given back and the reservations fit in the ring. -/
theorem window (h : ch.Totals k) :
    ch.written.length + ch.held < k.notified + VHCI_EVENT_QUEUE_EL_COUNT := by
  have hwindow := h.counts.window
  rwa [h.submitted, h.held] at hwindow

theorem notified_le (h : ch.Totals k) : k.notified ≤ ch.taken.length := by
  have hnotified := h.counts.notified_le
  have hconsumed := h.counts.consumed_le
  have hreading := h.reading
  omega

/-- Fewer messages than slots are unread. -/
theorem unread_lt (h : ch.Totals k) :
    ch.written.length - ch.taken.length < VHCI_EVENT_QUEUE_EL_COUNT := by
  have hwindow := h.window
  have hnotified := h.notified_le
  have hslots : 0 < VHCI_EVENT_QUEUE_EL_COUNT := by decide
  omega

/-- What is unread lies between the device's slot and the doorbell. -/
theorem dist_doorbell (h : ch.Totals k) :
    dist VHCI_EVENT_QUEUE_EL_COUNT ch.next ch.mq.sq.doorbell =
      ch.written.length - ch.taken.length := by
  rw [h.counts.doorbell, h.rung, h.submitted, h.next, ← advance_mod h.taken_le]
  exact dist_advance (Nat.mod_lt _ (by decide)) h.unread_lt

/-- The device is going to read exactly the messages it has not read. -/
theorem pending_eq (h : ch.Totals k) :
    ch.pending = (ch.written.drop ch.taken.length).map some := by
  unfold pending
  rw [h.dist_doorbell]
  refine List.ext_getElem (by simp) fun i hi _ => ?_
  simp only [List.length_map, List.length_range] at hi
  have hj : ch.taken.length + i < ch.written.length := by omega
  have hslot : advance VHCI_EVENT_QUEUE_EL_COUNT ch.next i =
      (ch.taken.length + i) % VHCI_EVENT_QUEUE_EL_COUNT := by
    rw [h.next, advance, Nat.mod_add_mod]
  simp only [List.getElem_map, List.getElem_range, List.getElem_drop, hslot]
  exact (h.intact _ _ (Nat.le_add_right _ i) (List.getElem?_eq_getElem hj)).fetch
    (Nat.mod_lt _ (by decide))

/-- Only the ring changed, and none of what the device finds in it. -/
theorem of_sq {k' : SqTotals} (h : ch.Totals k) {sq : BceQueueSq} {held reading : Nat}
    (hcounts : SqCounts sq VHCI_EVENT_QUEUE_EL_COUNT k') (hdata : sq.data = ch.mq.sq.data)
    (hrung : k'.rung = k.rung) (hsubmitted : k'.submitted = k.submitted) (hheld : k'.held = held)
    (hreading : k'.completed + reading = k.completed + ch.reading) :
    Totals { ch with mq := { ch.mq with sq := sq }, held := held, reading := reading } k' where
  counts := hcounts
  rung := by rw [hrung, hsubmitted, h.rung]
  submitted := hsubmitted.trans h.submitted
  held := hheld
  next := h.next
  reading := hreading.trans h.reading
  taken_le := h.taken_le
  intact := by
    intro j msg hj hmsg
    have hholds := h.intact j msg hj hmsg
    exact ⟨by rw [hdata]; exact hholds.submission, hholds.message⟩

/-- A message is written against a reservation. -/
theorem write (h : ch.Totals k) (hheld : 0 < ch.held) (msg : BceVhciMessage) :
    (ch.write msg).Totals
      { k with submitted := k.submitted + 1, rung := k.submitted + 1, held := k.held - 1 } where
  counts := ((h.counts.next (h.held ▸ hheld)).submit).of_same ⟨rfl, rfl, rfl, rfl, rfl, rfl, rfl⟩
  rung := rfl
  submitted := by
    show k.submitted + 1 = (ch.written ++ [msg]).length
    rw [h.submitted, List.length_append, List.length_singleton]
  held := congrArg (· - 1) h.held
  next := h.next
  reading := h.reading
  taken_le := by
    show ch.taken.length ≤ (ch.written ++ [msg]).length
    have htaken := h.taken_le
    rw [List.length_append]
    omega
  intact := by
    intro j msg' hj hmsg
    have hunread : ch.taken.length ≤ j := hj
    have htail : ch.mq.sq.tail = ch.written.length % VHCI_EVENT_QUEUE_EL_COUNT := by
      rw [h.counts.tail, h.submitted]
    rcases getElem?_concat hmsg with hold | ⟨rfl, rfl⟩
    · have hlt : j < ch.written.length := (List.getElem?_eq_some_iff.mp hold).1
      refine (h.intact j msg' hj hold).write msg fun heq => ?_
      -- the slot of an unread message is not the one at the tail
      have hwindow := h.window
      have hnotified := h.notified_le
      have htaken := h.taken_le
      have hslot := eq_of_mod_eq (m := k.notified) (heq.trans htail) (by omega) (by omega)
        (by omega) (by omega)
      omega
    · rw [← htail]
      exact bceVhciMessageQueueWrite_holds ch.mq msg'

/-- The device reads the oldest message it has not read. -/
theorem read (h : ch.Totals k) (hne : ch.next ≠ ch.mq.sq.doorbell) : ch.read.Totals k := by
  have hlt : ch.taken.length < ch.written.length := by
    refine Nat.lt_of_le_of_ne h.taken_le fun heq => hne ?_
    rw [h.next, h.counts.doorbell, h.rung, h.submitted, heq]
  have hlength : ch.read.taken.length = ch.taken.length + 1 := by simp [MessageChannel.read]
  exact {
    counts := h.counts
    rung := h.rung
    submitted := h.submitted
    held := h.held
    next := by
      show (ch.next + 1) % VHCI_EVENT_QUEUE_EL_COUNT = _
      rw [h.next, Nat.mod_add_mod, hlength]
    reading := by
      show k.completed + (ch.reading + 1) = _
      rw [hlength, ← h.reading]
      rfl
    taken_le := hlength ▸ hlt
    intact := fun j msg hj => h.intact j msg (by omega) }

/-- What the device reads is the oldest message it has not read. -/
theorem read_eq (h : ch.Totals k) (hne : ch.next ≠ ch.mq.sq.doorbell) :
    ch.pending = ch.mq.fetch ch.next :: ch.read.pending := by
  have hread := h.read hne
  have hlt : ch.taken.length < ch.written.length := by
    have hle := hread.taken_le
    simp only [MessageChannel.read, List.length_append, List.length_singleton] at hle
    exact hle
  have hfetch : ch.mq.fetch ch.next = some ch.written[ch.taken.length] := by
    rw [h.next]
    exact (h.intact _ _ (Nat.le_refl _) (List.getElem?_eq_getElem hlt)).fetch
      (Nat.mod_lt _ (by decide))
  rw [h.pending_eq, hread.pending_eq, hfetch, List.drop_eq_getElem_cons hlt, List.map_cons]
  simp [MessageChannel.read]

end Totals

/-! ## Every step -/

/-- What a step leaves, and how it is seen. -/
def Keeps (ch ch' : MessageChannel) : Prop :=
  ch'.Ok ∧ ((ServiceQueue.system _).Steps ServiceQueue.Kept ch.view ch'.view)

/-- A step that neither writes nor reads is not seen. -/
theorem Keeps.of_sq {k' : SqTotals} (h : ch.Totals k) {sq : BceQueueSq} {held reading : Nat}
    (hcounts : SqCounts sq VHCI_EVENT_QUEUE_EL_COUNT k') (hdata : sq.data = ch.mq.sq.data)
    (hrung : k'.rung = k.rung) (hsubmitted : k'.submitted = k.submitted) (hheld : k'.held = held)
    (hreading : k'.completed + reading = k.completed + ch.reading) :
    ch.Keeps { ch with mq := { ch.mq with sq := sq }, held := held, reading := reading } := by
  have h' := h.of_sq hcounts hdata hrung hsubmitted hheld hreading
  refine ⟨⟨k', h'⟩, .of_eq ?_⟩
  unfold view
  rw [h.pending_eq, h'.pending_eq]

theorem Keeps.write (h : ch.Totals k) (hheld : 0 < ch.held) (msg : BceVhciMessage) :
    ch.Keeps (ch.write msg) := by
  have h' := h.write hheld msg
  refine ⟨⟨_, h'⟩, .one (show ServiceQueue.Kept (.arrive (some msg)) _ from trivial) ?_⟩
  have hpending : (ch.write msg).pending = ch.pending ++ [some msg] := by
    rw [h.pending_eq, h'.pending_eq]
    show ((ch.written ++ [msg]).drop ch.taken.length).map some = _
    rw [List.drop_append_of_le_length h.taken_le, List.map_append, List.map_singleton]
  unfold view
  rw [hpending]
  show some _ = some (ServiceQueue.mk ((ch.written ++ [msg]).map some) _ _)
  rw [List.map_append, List.map_singleton]
  rfl

theorem Keeps.read (h : ch.Totals k) (hne : ch.next ≠ ch.mq.sq.doorbell) :
    ch.Keeps ch.read := by
  refine ⟨⟨_, h.read hne⟩, .one (show ServiceQueue.Kept .serve _ from trivial) ?_⟩
  show ServiceQueue.step .serve ch.view = some ch.read.view
  unfold view
  rw [h.read_eq hne]
  rfl

theorem step_keeps {l : ChannelAction} {ch' : MessageChannel} (h : ch.Ok)
    (hstep : MessageChannel.step l ch = some ch') : ch.Keeps ch' := by
  obtain ⟨k, h⟩ := h
  cases l with
  | reserve =>
    simp only [MessageChannel.step] at hstep
    rcases bceReserveSubmission_cases ch.mq.sq 0 with ⟨hpos, heq⟩ | ⟨-, -, heq⟩ | ⟨-, h0, -⟩
    · rw [heq] at hstep
      obtain rfl := Option.some.inj hstep
      exact .of_sq h (h.counts.reserve hpos) rfl rfl rfl (congrArg (· + 1) h.held) rfl
    · rw [heq] at hstep
      obtain rfl := Option.some.inj hstep
      exact .of_sq h h.counts rfl rfl rfl h.held rfl
    · exact absurd rfl h0
  | waits tokens waiting =>
    obtain rfl := Option.some.inj hstep
    exact .of_sq h (h.counts.of_same ⟨rfl, rfl, rfl, rfl, rfl, rfl, rfl⟩) rfl rfl rfl h.held rfl
  | cancel =>
    obtain ⟨hheld, hch'⟩ := Option.ite_none_right_eq_some.mp hstep
    obtain rfl := Option.some.inj hch'
    exact .of_sq h (h.counts.cancel (h.held ▸ hheld)) rfl rfl rfl (congrArg (· - 1) h.held) rfl
  | write msg =>
    obtain ⟨hheld, hch'⟩ := Option.ite_none_right_eq_some.mp hstep
    obtain rfl := Option.some.inj hch'
    exact .write h hheld msg
  | read =>
    obtain ⟨hne, hch'⟩ := Option.ite_none_right_eq_some.mp hstep
    obtain rfl := Option.some.inj hch'
    exact .read h hne
  | complete e =>
    obtain ⟨hreading, hch'⟩ := Option.ite_none_right_eq_some.mp hstep
    obtain rfl := Option.some.inj hch'
    have hlt : k.completed < k.rung := by
      have htotal := h.reading
      have htaken := h.taken_le
      have hrung := h.rung
      have hsubmitted := h.submitted
      omega
    exact .of_sq h (h.counts.store hlt e) rfl rfl rfl h.held
      (by show k.completed + 1 + _ = _; omega)
  | notify =>
    simp only [MessageChannel.step] at hstep
    split at hstep
    · next d sq hnext =>
      obtain rfl := Option.some.inj hstep
      obtain ⟨hlt, -, hsq, hcounts⟩ := h.counts.consume hnext
      have hnotified : k.notified < k.consumed + 1 := Nat.lt_succ_of_le h.counts.notified_le
      refine .of_sq h (hcounts.notify hnotified) ?_ rfl rfl h.held rfl
      rw [bceNotifySubmissionComplete_data, hsq]
    · cases hstep

theorem ok_start (qid dmaAddr : Nat) : (start (bceVhciMessageQueueCreate qid dmaAddr)).Ok :=
  ⟨_, {
    counts := .init (by decide)
    rung := rfl
    submitted := rfl
    held := rfl
    next := rfl
    reading := rfl
    taken_le := Nat.le_refl 0
    intact := fun _ _ _ hmsg => nomatch hmsg }⟩

theorem reachable_ok {G : ChannelAction → MessageChannel → Prop}
    (h : messageChannelSystem.Reachable G ch) : ch.Ok := by
  refine h.invariant (I := Ok) ?_ fun l s s' _ hok _ hstep => (step_keeps hok hstep).1
  rintro s ⟨qid, dmaAddr, rfl⟩
  exact ok_start qid dmaAddr

/-- A message queue is seen as a queue whose jobs are the messages. -/
theorem reachable_view (h : messageChannelSystem.Reachable (fun _ _ => True) ch) :
    (ServiceQueue.system _).Reachable ServiceQueue.Kept ch.view := by
  refine h.view view ?_ fun l s s' hreach _ hstep => (step_keeps (reachable_ok hreach) hstep).2
  rintro s ⟨qid, dmaAddr, rfl⟩
  obtain ⟨k, hok⟩ := ok_start qid dmaAddr
  show view _ = ⟨[], [], []⟩
  unfold view
  rw [hok.pending_eq]
  rfl

end MessageChannel

/-- **A message queue is a channel**, for any number of senders: what the device has read
and what it is going to read is what was written, in order, and no message is overwritten
before it is read. It is a `ServiceQueue`, and never holds more than 255 messages. -/
theorem messageChannel_in_order {ch : MessageChannel}
    (h : messageChannelSystem.Reachable (fun _ _ => True) ch) :
    (ServiceQueue.system _).Reachable ServiceQueue.Kept ch.view ∧
      ch.taken ++ ch.pending = ch.written.map some ∧ ch.pending.length ≤ 255 := by
  have hview := MessageChannel.reachable_view h
  obtain ⟨k, hok⟩ := MessageChannel.reachable_ok h
  refine ⟨hview, ServiceQueue.conserved hview, ?_⟩
  have hunread := hok.unread_lt
  rw [hok.pending_eq, List.length_map, List.length_drop]
  exact Nat.le_of_lt_succ hunread

/-- Two messages, one of them read and given back. -/
theorem messageChannel_in_order_of_a_run : ∃ ch : MessageChannel,
    ch.taken ++ ch.pending = [some ⟨1, 0, 0x10, 0⟩, some ⟨2, 0, 0x20, 7⟩] ∧
      ch.taken.length = 1 := by
  have hrun : messageChannelSystem.Reachable (fun _ _ => True)
      (messageChannelSystem.after (fun _ _ => True)
        [.reserve, .reserve, .write ⟨1, 0, 0x10, 0⟩, .read, .write ⟨2, 0, 0x20, 7⟩,
          .complete ⟨0, 16, 4, 0, 0, 0⟩, .notify]
        (.start (bceVhciMessageQueueCreate 4 0x1000))) := .after (.of_init ⟨4, 0x1000, rfl⟩) rfl
  exact ⟨_, (messageChannel_in_order hrun).2.1.trans rfl, rfl⟩

end BceDriver
