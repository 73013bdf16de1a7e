import BceDriver.Audio.Transport
import BceDriver.Queue.Receive
import BceDriver.Vhci.Message

/-!
# The receive paths (`vhci/queue.c`, `audio/protocol_bce.c`)

- `bceVhciEventQueueReceive`: `bce_vhci_event_queue_completion` finds a message at
  `sq->head`, and `bce_vhci_event_queue_submit_pending` posts the buffer at `sq->tail`.
- `aaudioBceInQueueReceive`: `aaudio_bce_in_queue_completion` keeps a `data_head` of its
  own, and `aaudio_bce_in_queue_submit_pending` a `data_tail`: there are 20 buffers, and
  21 elements in the ring.

The callbacks do not touch the queue they are called for.
-/

namespace BceDriver

/-! ## VHCI events -/

def VHCI_EVENT_PENDING_COUNT : Nat := 32

/-- `bce_vhci_event_queue_completion` and `bce_vhci_event_queue_submit_pending` -/
def bceVhciEventQueueReceive : ReceivePath BceVhciEventQueue BceVhciMessage BceVhciMessage where
  ringCount := VHCI_EVENT_QUEUE_EL_COUNT
  bufCount := VHCI_EVENT_QUEUE_EL_COUNT
  elSize := bceVhciMessageSize
  pendingCount := VHCI_EVENT_PENDING_COUNT
  sq := BceVhciEventQueue.sq
  setSq sq q := { q with sq }
  dmaAddr := BceVhciEventQueue.dmaAddr
  data := BceVhciEventQueue.data
  setData data q := { q with data }
  headIndex q := q.sq.head
  message _ msg := msg
  afterCallback q := q
  tailIndex q := q.sq.tail
  afterPost q := q

theorem bceVhciEventQueueReceive_lawful : bceVhciEventQueueReceive.Lawful where
  elSize_pos := by decide
  pending_le := by decide
  pending_lt := by decide
  sq_setSq _ _ := rfl
  data_setSq _ _ := rfl
  dmaAddr_setSq _ _ := rfl
  headIndex_setSq _ _ h := h
  tailIndex_setSq _ _ h := h
  sq_setData _ _ := rfl
  data_setData _ _ := rfl
  dmaAddr_setData _ _ := rfl
  headIndex_setData _ _ := rfl
  tailIndex_setData _ _ := rfl
  sq_afterCallback _ := rfl
  data_afterCallback _ := rfl
  dmaAddr_afterCallback _ := rfl
  tailIndex_afterCallback _ := rfl
  sq_afterPost _ := rfl
  data_afterPost _ := rfl
  dmaAddr_afterPost _ := rfl
  headIndex_afterPost _ := rfl
  headIndex_finish q hn := by
    show (bceNotifySubmissionComplete q.sq).head = (q.sq.head + 1) % VHCI_EVENT_QUEUE_EL_COUNT
    rw [bceNotifySubmissionComplete_head, show q.sq.elCount = VHCI_EVENT_QUEUE_EL_COUNT from hn]
  tailIndex_post _ _ h := h

/-- The posting is the one of `BceDriver.Vhci.Message`. -/
theorem bceVhciEventQueueReceive_submitPending (q : BceVhciEventQueue) (count : Nat) :
    bceVhciEventQueueReceive.submitPending count q = bceVhciEventQueueSubmitPending q count := by
  have hloop : ∀ count q, bceVhciEventQueueReceive.postLoop count q =
      bceVhciEventQueueSubmitPendingLoop q count := by
    intro count
    induction count with
    | zero => exact fun _ => rfl
    | succ count ih =>
      intro q
      obtain ⟨-, hreserve⟩ | ⟨-, -, hreserve⟩ | ⟨-, h0, -⟩ := bceReserveSubmission_cases q.sq 0
      · have hpost : bceVhciEventQueueReceive.post q = some { q with
            sq := bceSetSubmissionSingle (bceNextSubmission { q.sq with
                availableCommands := q.sq.availableCommands - 1 }).2 q.sq.tail
              (q.dmaAddr + q.sq.tail * bceVhciMessageSize) bceVhciMessageSize } := by
          rw [ReceivePath.post, show bceVhciEventQueueReceive.sq q = q.sq from rfl, hreserve]
          rfl
        rw [ReceivePath.postLoop, hpost, bceVhciEventQueueSubmitPendingLoop, hreserve]
        exact ih _
      · have hpost : bceVhciEventQueueReceive.post q = none := by
          rw [ReceivePath.post, show bceVhciEventQueueReceive.sq q = q.sq from rfl, hreserve]
          rfl
        rw [ReceivePath.postLoop, hpost, bceVhciEventQueueSubmitPendingLoop, hreserve]
        rfl
      · exact absurd rfl h0
  unfold ReceivePath.submitPending
  rw [hloop]
  rfl

/-! ## Audio messages -/

/-- `struct aaudio_bce_queue`, as `qin` is used -/
structure AaudioBceQueue where
  sq : BceQueueSq
  data : Nat → List UInt8
  dmaAddr : Nat
  dataHead : Nat
  dataTail : Nat

/-- `aaudio_bce_in_queue_completion` and `aaudio_bce_in_queue_submit_pending` -/
def aaudioBceInQueueReceive : ReceivePath AaudioBceQueue (List UInt8) AaudioMsg where
  ringCount := AAUDIO_BCE_QUEUE_ELEMENT_COUNT + 1
  bufCount := AAUDIO_BCE_QUEUE_ELEMENT_COUNT
  elSize := AAUDIO_BCE_QUEUE_ELEMENT_SIZE
  pendingCount := AAUDIO_BCE_QUEUE_ELEMENT_COUNT
  sq := AaudioBceQueue.sq
  setSq sq q := { q with sq }
  dmaAddr := AaudioBceQueue.dmaAddr
  data := AaudioBceQueue.data
  setData data q := { q with data }
  headIndex := AaudioBceQueue.dataHead
  message c data := ⟨c.dataSize, data⟩
  afterCallback q := { q with dataHead := (q.dataHead + 1) % AAUDIO_BCE_QUEUE_ELEMENT_COUNT }
  tailIndex := AaudioBceQueue.dataTail
  afterPost q := { q with dataTail := (q.dataTail + 1) % AAUDIO_BCE_QUEUE_ELEMENT_COUNT }

theorem aaudioBceInQueueReceive_lawful : aaudioBceInQueueReceive.Lawful where
  elSize_pos := by decide
  pending_le := by decide
  pending_lt := by decide
  sq_setSq _ _ := rfl
  data_setSq _ _ := rfl
  dmaAddr_setSq _ _ := rfl
  headIndex_setSq _ _ _ := rfl
  tailIndex_setSq _ _ _ := rfl
  sq_setData _ _ := rfl
  data_setData _ _ := rfl
  dmaAddr_setData _ _ := rfl
  headIndex_setData _ _ := rfl
  tailIndex_setData _ _ := rfl
  sq_afterCallback _ := rfl
  data_afterCallback _ := rfl
  dmaAddr_afterCallback _ := rfl
  tailIndex_afterCallback _ := rfl
  sq_afterPost _ := rfl
  data_afterPost _ := rfl
  dmaAddr_afterPost _ := rfl
  headIndex_afterPost _ := rfl
  headIndex_finish _ _ := rfl
  tailIndex_post _ _ _ := rfl

/-! ## The result -/

/-- The `k`-th message given is the one written for the `k`-th submission. -/
theorem ReceiveSound.given_written {κ μ ρ : Type} {p : ReceivePath κ μ ρ} {s : Receive κ μ ρ}
    (h : ReceiveSound p s) {k : Nat} {g : Nat × ρ} (hg : s.given[k]? = some g) :
    ∃ c m, s.written[k]? = some (c, m) ∧ g.2 = p.message c m := by
  obtain ⟨-, w, -, hw, -, hmsg⟩ := h.given k g hg
  exact ⟨w.1, w.2, hw, hmsg⟩

/-- **Receiving.** In every run of either path, however the completions are split over
the passes of its handler: the `k`-th message given to the callback is read from the
buffer of the `k`-th submission posted, a buffer is posted again only after its message
was given, posting never fails to reserve a slot, and between passes as many buffers
are posted as at first.

A VHCI callback gets the message the device wrote; the audio callback gets the bytes the
device wrote and the size it completed them with. -/
theorem receive_paths_sound :
    (∀ s, (receiveSystem bceVhciEventQueueReceive).Reachable (fun _ _ => True) s →
      ReceiveSound bceVhciEventQueueReceive s ∧
      ∀ (k : Nat) (g : Nat × BceVhciMessage), s.given[k]? = some g →
        ∃ c, s.written[k]? = some (c, g.2)) ∧
    ∀ s, (receiveSystem aaudioBceInQueueReceive).Reachable (fun _ _ => True) s →
      ReceiveSound aaudioBceInQueueReceive s ∧
      ∀ (k : Nat) (g : Nat × AaudioMsg), s.given[k]? = some g →
        ∃ c, s.written[k]? = some (c, g.2.data) ∧ g.2.size = c.dataSize := by
  refine ⟨fun s h => ?_, fun s h => ?_⟩
  · have hsound := (receive_ok bceVhciEventQueueReceive_lawful h).sound
      bceVhciEventQueueReceive_lawful
    refine ⟨hsound, fun k g hg => ?_⟩
    obtain ⟨c, m, hw, hmsg⟩ := hsound.given_written hg
    -- the callback gets the buffer as it is
    have hm : g.2 = m := hmsg
    exact ⟨c, hm ▸ hw⟩
  · have hsound := (receive_ok aaudioBceInQueueReceive_lawful h).sound
      aaudioBceInQueueReceive_lawful
    refine ⟨hsound, fun k g hg => ?_⟩
    obtain ⟨c, data, hw, hmsg⟩ := hsound.given_written hg
    have hm : g.2 = ⟨c.dataSize, data⟩ := hmsg
    exact ⟨c, by rw [hm]; exact hw, by rw [hm]⟩

/-- The first posting of `count` buffers, and a pass that finds one message. -/
def oneMessage {μ : Type} (count : Nat) (m : μ) : List (ReceiveAction μ) :=
  List.replicate (count + 2) .next ++ [.complete ⟨0, 16, 3, 0, 0, 0⟩ m, .interrupt] ++
    List.replicate 7 .next

theorem receive_paths_sound_of_one :
    (∃ s g c, ReceiveSound bceVhciEventQueueReceive s ∧ s.handler = .idle ∧
      s.given = [g] ∧ s.written[0]? = some (c, g.2) ∧ g.2 = ⟨1, 2, 3, 4⟩) ∧
    ∃ s g c, ReceiveSound aaudioBceInQueueReceive s ∧ s.handler = .idle ∧
      s.given = [g] ∧ s.written[0]? = some (c, g.2.data) ∧ g.2.size = c.dataSize ∧
      g.2 = ⟨16, [1, 2]⟩ := by
  have hevents : (receiveSystem bceVhciEventQueueReceive).Reachable (fun _ _ => True)
      ((receiveSystem bceVhciEventQueueReceive).after (fun _ _ => True)
        (oneMessage VHCI_EVENT_PENDING_COUNT ⟨1, 2, 3, 4⟩)
        ⟨⟨bceAllocSq 3 VHCI_EVENT_QUEUE_EL_COUNT, fun _ => default, 0x1000⟩,
          .posting VHCI_EVENT_PENDING_COUNT, [], [], []⟩) :=
    .after (.of_init ⟨3, _, rfl, rfl, rfl, rfl⟩) (by decide +kernel)
  have haudio : (receiveSystem aaudioBceInQueueReceive).Reachable (fun _ _ => True)
      ((receiveSystem aaudioBceInQueueReceive).after (fun _ _ => True)
        (oneMessage AAUDIO_BCE_QUEUE_ELEMENT_COUNT [1, 2])
        ⟨⟨bceAllocSq 3 (AAUDIO_BCE_QUEUE_ELEMENT_COUNT + 1), fun _ => [], 0x1000, 0, 0⟩,
          .posting AAUDIO_BCE_QUEUE_ELEMENT_COUNT, [], [], []⟩) :=
    .after (.of_init ⟨3, _, rfl, rfl, rfl, rfl⟩) (by decide +kernel)
  obtain ⟨hsound, hgiven⟩ := receive_paths_sound.1 _ hevents
  obtain ⟨c, hw⟩ := hgiven 0 (0, ⟨1, 2, 3, 4⟩) (by decide +kernel)
  obtain ⟨hsound', hgiven'⟩ := receive_paths_sound.2 _ haudio
  obtain ⟨c', hw', hsize⟩ := hgiven' 0 (0, ⟨16, [1, 2]⟩) (by decide +kernel)
  exact ⟨⟨_, _, c, hsound, by decide +kernel, by decide +kernel, hw, rfl⟩,
    _, _, c', hsound', by decide +kernel, by decide +kernel, hw', hsize, rfl⟩

end BceDriver
