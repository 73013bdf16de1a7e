import BceDriver.Queue.Credit

/-!
# Messages and their queues (`vhci/queue.h`, `vhci/queue.c`)

- `BceVhciMessageQueue`: messages to the controller, one slot of `data` for
  each slot of the submission queue.
- `BceVhciEventQueue`: posted buffers the controller writes messages into; the
  completion only says that the buffer at `head` holds one.

Message fields are `Nat`s below their C width.
-/

namespace BceDriver

open RingIndex

/-- `bce_vhci_message_status` -/
def BCE_VHCI_SUCCESS : Nat := 1
def BCE_VHCI_ABORT : Nat := 4
def BCE_VHCI_BAD_ARGUMENT : Nat := 5
def BCE_VHCI_INTERNAL_ERROR : Nat := 7
def BCE_VHCI_NO_POWER : Nat := 8

structure BceVhciMessage where
  cmd : Nat
  status : Nat
  param1 : Nat
  param2 : Nat
deriving DecidableEq, Repr, Inhabited

/-- `sizeof(struct bce_vhci_message)` -/
def bceVhciMessageSize : Nat := 16

structure BceVhciMessageQueue where
  sq : BceQueueSq
  data : Nat → BceVhciMessage
  dmaAddr : Nat

structure BceVhciEventQueue where
  sq : BceQueueSq
  data : Nat → BceVhciMessage
  dmaAddr : Nat

def VHCI_EVENT_QUEUE_EL_COUNT : Nat := 256

/-- `bce_vhci_message_queue_create`, when it succeeds -/
def bceVhciMessageQueueCreate (qid dmaAddr : Nat) : BceVhciMessageQueue where
  sq := bceAllocSq qid VHCI_EVENT_QUEUE_EL_COUNT
  data := fun _ => default
  dmaAddr := dmaAddr

/-- `bce_vhci_message_queue_write` -/
def bceVhciMessageQueueWrite (q : BceVhciMessageQueue) (req : BceVhciMessage) :
    BceVhciMessageQueue :=
  let sidx := q.sq.tail
  let s := bceNextSubmission q.sq
  { q with
    data := Function.update q.data sidx req
    sq := bceSubmitToDevice
      (bceSetSubmissionSingle s.2 s.1 (q.dmaAddr + bceVhciMessageSize * sidx) bceVhciMessageSize) }

/-- The loop of `bce_vhci_event_queue_submit_pending`; it stops at the first
reservation that fails. -/
def bceVhciEventQueueSubmitPendingLoop (q : BceVhciEventQueue) : Nat → BceVhciEventQueue
  | 0 => q
  | count + 1 =>
    match bceReserveSubmission q.sq 0 with
    | (.returned 0, sq) =>
      let idx := sq.tail
      let s := bceNextSubmission sq
      let sq :=
        bceSetSubmissionSingle s.2 s.1 (q.dmaAddr + idx * bceVhciMessageSize) bceVhciMessageSize
      bceVhciEventQueueSubmitPendingLoop { q with sq := sq } count
    | (_, sq) => { q with sq := sq }

/-- `bce_vhci_event_queue_submit_pending` -/
def bceVhciEventQueueSubmitPending (q : BceVhciEventQueue) (count : Nat) : BceVhciEventQueue :=
  let q := bceVhciEventQueueSubmitPendingLoop q count
  { q with sq := bceSubmitToDevice q.sq }

/-! ## Posting buffers -/

/-- With credit for all of them, `count` buffers are posted at the successive
slots from `tail` on, each with its own part of `data`. -/
theorem bceVhciEventQueueSubmitPendingLoop_spec {a b : Nat} :
    ∀ (count : Nat) {q : BceVhciEventQueue} {c held : Nat}, SqCredit q.sq a b c held →
      (count : Int) ≤ q.sq.availableCommands →
      let q' := bceVhciEventQueueSubmitPendingLoop q count
      SqCredit q'.sq a b (c + count) held ∧ q'.sq.elCount = q.sq.elCount ∧
        q'.sq.head = q.sq.head ∧
        q'.sq.availableCommands = q.sq.availableCommands - count ∧
        q'.sq.tail = advance q.sq.elCount q.sq.tail count ∧
        q'.sq.data = writeAll q.sq.elCount q.sq.data q.sq.tail
          ((List.range count).map fun i =>
            ⟨bceVhciMessageSize,
              q.dmaAddr + advance q.sq.elCount q.sq.tail i * bceVhciMessageSize, 0, 0⟩)
  | 0, q, c, held, h, _ => by
    have htail : q.sq.tail < q.sq.elCount := by
      rw [h.tail]
      exact advance_lt h.elCount_pos
    exact ⟨h, rfl, rfl, by simp [bceVhciEventQueueSubmitPendingLoop],
      (advance_zero htail).symm, rfl⟩
  | count + 1, q, c, held, h, hfree => by
    have hpos : 0 < q.sq.availableCommands := by push_cast at hfree; omega
    have htail : q.sq.tail < q.sq.elCount := by
      rw [h.tail]
      exact advance_lt h.elCount_pos
    let sq₁ := { q.sq with availableCommands := q.sq.availableCommands - 1 }
    let sq₂ := bceSetSubmissionSingle (bceNextSubmission sq₁).2 q.sq.tail
      (q.dmaAddr + q.sq.tail * bceVhciMessageSize) bceVhciMessageSize
    let q₁ : BceVhciEventQueue := { q with sq := sq₂ }
    have hloop : bceVhciEventQueueSubmitPendingLoop q (count + 1) =
        bceVhciEventQueueSubmitPendingLoop q₁ count := by
      show (match bceReserveSubmission q.sq 0 with
        | (.returned 0, sq) => _
        | (_, sq) => _) = _
      rw [bceReserveSubmission_of_pos hpos]
      rfl
    have h₁ : SqCredit q₁.sq a b (c + 1) held := (h.reserve hpos).next.of_eq rfl rfl rfl rfl rfl rfl
    obtain ⟨hcredit, hn, hhead, havail, htl, hdata⟩ :=
      bceVhciEventQueueSubmitPendingLoop_spec count h₁
        (by show (count : Int) ≤ q.sq.availableCommands - 1; push_cast at hfree; omega)
    -- the buffers left go to the slots from the next one on
    have hstep : ∀ i, advance q.sq.elCount ((q.sq.tail + 1) % q.sq.elCount) i =
        advance q.sq.elCount q.sq.tail (i + 1) := by
      intro i
      rw [show (q.sq.tail + 1) % q.sq.elCount = advance q.sq.elCount q.sq.tail 1 from rfl,
        advance_advance, Nat.add_comm 1 i]
    rw [hloop]
    refine ⟨?_, hn, hhead, ?_, ?_, ?_⟩
    · rw [show c + (count + 1) = c + 1 + count by omega]
      exact hcredit
    · rw [havail]
      show q.sq.availableCommands - 1 - count = _
      push_cast
      omega
    · rw [htl]
      exact hstep count
    · rw [hdata, List.range_succ_eq_map, List.map_cons, List.map_map]
      show writeAll q.sq.elCount _ ((q.sq.tail + 1) % q.sq.elCount) _ =
        writeAll q.sq.elCount _ ((q.sq.tail + 1) % q.sq.elCount) _
      rw [advance_zero htail]
      congr 1
      refine List.map_congr_left fun i _ => ?_
      show BceQeSubmission.mk _ (q.dmaAddr +
        advance q.sq.elCount ((q.sq.tail + 1) % q.sq.elCount) i * bceVhciMessageSize) 0 0 = _
      rw [hstep i]
      rfl

/-- `bce_vhci_event_queue_submit_pending` on the credit it needs. -/
theorem bceVhciEventQueueSubmitPending_spec {q : BceVhciEventQueue} {a b c held count : Nat}
    (h : SqCredit q.sq a b c held) (hfree : (count : Int) ≤ q.sq.availableCommands) :
    let q' := bceVhciEventQueueSubmitPending q count
    SqCredit q'.sq a b (c + count) held ∧
      q'.sq.availableCommands = q.sq.availableCommands - count ∧
      q'.sq.tail = advance q.sq.elCount q.sq.tail count ∧ q'.sq.doorbell = q'.sq.tail ∧
      q'.sq.data = writeAll q.sq.elCount q.sq.data q.sq.tail
        ((List.range count).map fun i =>
          ⟨bceVhciMessageSize,
            q.dmaAddr + advance q.sq.elCount q.sq.tail i * bceVhciMessageSize, 0, 0⟩) := by
  obtain ⟨hcredit, -, -, havail, htail, hdata⟩ :=
    bceVhciEventQueueSubmitPendingLoop_spec count h hfree
  exact ⟨hcredit.of_eq rfl rfl rfl rfl rfl rfl, havail, htail, rfl, hdata⟩

/-- Posting never moves `head`, however many reservations succeed. -/
theorem bceVhciEventQueueSubmitPending_head (q : BceVhciEventQueue) (count : Nat) :
    (bceVhciEventQueueSubmitPending q count).sq.head = q.sq.head := by
  show (bceVhciEventQueueSubmitPendingLoop q count).sq.head = q.sq.head
  induction count generalizing q with
  | zero => rfl
  | succ count ih =>
    -- without a slot the loop ends early
    rcases bceReserveSubmission_cases q.sq 0 with ⟨-, h⟩ | ⟨-, -, h⟩ | ⟨-, h0, -⟩
    · simp only [bceVhciEventQueueSubmitPendingLoop, h]
      exact ih _
    · simp only [bceVhciEventQueueSubmitPendingLoop, h]
      rfl
    · exact absurd rfl h0

end BceDriver
