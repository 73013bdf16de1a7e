import BceDriver.Vhci.Requests

/-!
# Enqueues are all or nothing

Starting a device-to-host URB takes a slot of `msg_asynchronous` and one of
`sq_in`, after the USB core has linked it. `bce_vhci_urb_create` reserves both
before it submits anything, and never waits for them.

- `NotEnqueued`: what the driver shares is as it was before the call.
- `AskedForData`: one message and one element went out, for the whole buffer.
- `urbCreate_all_or_nothing`: a call leaves the first if it fails, and the second if
  it starts a device-to-host URB. The queue can be in any state, its lists and URBs
  in any condition.
-/

namespace BceDriver

open FaultState

/-! ## Without waiting -/

/-- Reserve a slot for one message and write it. -/
def BceVhciMessageQueue.put (m : BceVhciMessageQueue) (msg : BceVhciMessage) :
    BceVhciMessageQueue :=
  bceVhciMessageQueueWrite
    { m with sq := { m.sq with availableCommands := m.sq.availableCommands - 1 } } msg

/-- The data the URB still lacks is asked for: one message and one element. -/
structure AsksIn (q : BceVhciTransferQueue) (urb : Nat) (v : BceVhciUrb)
    (q' : BceVhciTransferQueue) : Prop where
  message : q'.msgAsynchronous =
    q.msgAsynchronous.put (transferRequestMessage q (inElement q urb v).length)
  element : ∃ t, q.sqs .fromDevice = some t ∧ q'.sqs .fromDevice = some (t.put (inElement q urb v))

section Start

variable {E : Fault → Prop} {q : BceVhciTransferQueue} {urb : Nat} {v : BceVhciUrb}

/-- Without a wait, a reservation that fails changes nothing. -/
theorem wp_reserveMsgAsynchronous_zero {Q : Int × Nat → BceVhciTransferQueue → Prop}
    (hok : Q (0, 0) (q.setAsync { q.msgAsynchronous with sq := { q.msgAsynchronous.sq with
      availableCommands := q.msgAsynchronous.sq.availableCommands - 1 } } q.asyncWaits))
    (hfail : Q (-EAGAIN, 0) q) :
    wp (reserveMsgAsynchronous 0) E Q q := by
  unfold wp reserveMsgAsynchronous
  rw [StateT.run]
  rcases Int.lt_or_le 0 q.msgAsynchronous.sq.availableCommands with h | h
  · rw [bceReserveSubmission_of_pos h, bceReserveSubmissionThrough_returned]
    exact hok
  · rw [bceReserveSubmission_zero_of_le h, bceReserveSubmissionThrough_returned]
    exact hfail

/-- Both slots are reserved before anything is submitted, and the first is given
back if there is no second. -/
theorem dataTransferIn_zero (hv : q.vurbs urb = some v) (hE : E .nullDeref) :
    wp (bceVhciUrbDataTransferIn urb 0) E
      (fun r q' => (r = 0 ∧ AsksIn q urb v q') ∨ (r ≠ 0 ∧ q' = q)) q := by
  unfold bceVhciUrbDataTransferIn
  rw [wp_bind]
  refine wp_reserveMsgAsynchronous_zero ?_ ?_
  · rw [if_neg (not_not_intro rfl), wp_bind]
    cases ht : q.sqs .fromDevice with
    | none => exact wp_reserveTransferSq_none (by simpa using ht) hE _
    | some t =>
      refine wp_reserveTransferSq_zero (by simpa using ht) (fun _ => ?_) (fun _ => ?_)
      · rw [if_neg (not_not_intro rfl)]
        simp only [wp_bind, wp_modifyVurb, wp_readVurb, wp_get, writeMsgAsynchronous, wp_modify,
          wp_submitTransferSq, wp_pure, BceVhciTransferQueue.setSq, BceVhciTransferQueue.setVurb,
          BceVhciTransferQueue.setAsync, hv, Function.update_self]
        refine .inl ⟨trivial, rfl, t, ht, ?_⟩
        simp [TransferSq.put, inElement]
      · -- the reservation of `msg_asynchronous` is cancelled
        rw [if_pos (by decide), wp_bind, cancelMsgAsynchronous, wp_modify, wp_pure]
        refine .inr ⟨by decide, ?_⟩
        simp [BceVhciTransferQueue.setAsync, bceCancelSubmissionReservation]
  · rw [if_pos (by decide)]
    exact wp_pure.mpr (.inr ⟨by decide, rfl⟩)

/-- `bce_vhci_urb_init` fails without a trace. -/
theorem urbInit_zero (hv : q.vurbs urb = some v) (hE : E .nullDeref) :
    wp (bceVhciUrbInit urb) E (fun r q' => (r ≠ 0 → q' = q) ∧
      (r = 0 → v.isControl = false → v.dir = .fromDevice → AsksIn q urb v q')) q := by
  simp only [bceVhciUrbInit, wp_bind, wp_readVurb, hv]
  by_cases hc : v.isControl = true
  · rw [if_pos hc]
    simp only [wp_bind, wp_modifyVurb, hv, wp_pure]
    exact ⟨fun h => absurd rfl h, fun _ h => by simp [hc] at h⟩
  rw [if_neg hc]
  simp only [bceVhciUrbDataStart, wp_bind, wp_readVurb, hv]
  cases hd : v.dir with
  | toDevice =>
    simp only [wp_bind, wp_get, wp_modifyVurb, hv, wp_pure, wp_ite]
    simp
  | fromDevice =>
    refine wp_imp (dataTransferIn_zero hv hE) ?_
    rintro r q' (⟨rfl, hasks⟩ | ⟨hr, rfl⟩)
    · exact ⟨fun h => absurd rfl h, fun _ _ _ => hasks⟩
    · exact ⟨fun _ => rfl, fun h => absurd h hr⟩

end Start

/-! ## The whole call -/

/-- What the driver shares with other calls is as it was, and the URB has no
`bce_vhci_urb`. -/
structure NotEnqueued (q : BceVhciTransferQueue) (u : Nat) (q' : BceVhciTransferQueue) : Prop where
  sqs : q'.sqs = q.sqs
  msgAsynchronous : q'.msgAsynchronous = q.msgAsynchronous
  urbList : q'.urbList = q.urbList
  evq : q'.evq = q.evq
  givebackUrbList : q'.givebackUrbList = q.givebackUrbList
  active : q'.active = q.active
  stalled : q'.stalled = q.stalled
  state : q'.state = q.state
  others : ∀ u', u' ≠ u → q'.urbs u' = q.urbs u'
  hcpriv : (q'.urbs u).hcpriv = none

/-- `sq'` is `sq` with `e` in the slot at its tail, the tail and the doorbell past it, and
one slot less to reserve. -/
def BceQueueSq.WithEntry (sq : BceQueueSq) (e : BceQeSubmission) (sq' : BceQueueSq) : Prop :=
  sq' = { sq with
    data := Function.update sq.data sq.tail e
    tail := (sq.tail + 1) % sq.elCount
    doorbell := (sq.tail + 1) % sq.elCount
    availableCommands := sq.availableCommands - 1 }

/-- The whole buffer of the URB at `u` is asked for, with one message and one element. -/
structure AskedForData (q : BceVhciTransferQueue) (u : Nat) (q' : BceVhciTransferQueue) :
    Prop where
  /-- the message is in the slot at the tail -/
  slot : q'.msgAsynchronous.data =
    Function.update q.msgAsynchronous.data q.msgAsynchronous.sq.tail
      ⟨BCE_VHCI_CMD_TRANSFER_REQUEST, 0, (q.bEndpointAddress &&& 0x8F) <<< 8 ||| q.devAddr,
        (q.urbs u).transferBufferLength⟩
  /-- that slot is submitted -/
  message : q.msgAsynchronous.sq.WithEntry
    ⟨16, q.msgAsynchronous.dmaAddr + 16 * q.msgAsynchronous.sq.tail, 0, 0⟩ q'.msgAsynchronous.sq
  dmaAddr : q'.msgAsynchronous.dmaAddr = q.msgAsynchronous.dmaAddr
  /-- the buffer is submitted on `sq_in` -/
  element : ∃ t t', q.sqs .fromDevice = some t ∧ q'.sqs .fromDevice = some t' ∧
    t.sq.WithEntry ⟨(q.urbs u).transferBufferLength, (q.urbs u).transferDma, 0, 0⟩ t'.sq ∧
    t'.submitted = t.submitted ++
      [⟨q.nextVurb, .data, (q.urbs u).transferDma, (q.urbs u).transferBufferLength⟩] ∧
    t'.inflight = t.inflight ++
      [⟨q.nextVurb, .data, (q.urbs u).transferDma, (q.urbs u).transferBufferLength⟩] ∧
    t'.posted = t.posted ∧ t'.pending = t.pending

/-- A call that fails leaves nothing behind, and one that starts a device-to-host URB
outside the control endpoint asks for all of its data. -/
structure AllOrNothing (q : BceVhciTransferQueue) (u : Nat) (r : Int)
    (q' : BceVhciTransferQueue) : Prop where
  failed : r ≠ 0 → NotEnqueued q u q'
  started : r = 0 → q.active = true → q.isControl = false → (q.urbs u).dirIn = true →
    AskedForData q u q'

section Create

variable {q q' : BceVhciTransferQueue} {u : Nat}

/-- A new URB lacks all of its data. -/
theorem AskedForData.of_link (hlen : (q.urbs u).transferBufferLength < 2 ^ 32)
    (h : AsksIn (q.link u) q.nextVurb (freshVurb q u) q') : AskedForData q u q' := by
  have helement : inElement (q.link u) q.nextVurb (freshVurb q u) =
      ⟨q.nextVurb, .data, (q.urbs u).transferDma, (q.urbs u).transferBufferLength⟩ := by
    simp [inElement, BceVhciTransferQueue.link, freshVurb]
    exact hlen
  have hmessage := h.message
  obtain ⟨t, ht, ht'⟩ := h.element
  rw [helement] at hmessage ht'
  exact {
    slot := by rw [hmessage]; rfl
    message := by rw [hmessage]; rfl
    dmaAddr := by rw [hmessage]; rfl
    element := ⟨t, _, ht, ht', rfl, rfl, rfl, rfl, rfl⟩ }

/-- Only `msg_asynchronous` and `sq_in` are looked at. -/
theorem AskedForData.of_eq {q'' : BceVhciTransferQueue} (h : AskedForData q u q')
    (hm : q''.msgAsynchronous = q'.msgAsynchronous)
    (hsq : q''.sqs .fromDevice = q'.sqs .fromDevice) : AskedForData q u q'' where
  slot := hm ▸ h.slot
  message := hm ▸ h.message
  dmaAddr := hm ▸ h.dmaAddr
  element := hsq ▸ h.element

/-- A URB that was linked and could not be started leaves nothing behind. -/
theorem NotEnqueued.of_discard (hnew : u ∉ q.urbList) :
    NotEnqueued q u ((q.link u).discard q.nextVurb u) where
  sqs := rfl
  msgAsynchronous := rfl
  urbList := by
    show (q.urbList ++ [u]).erase u = q.urbList
    rw [List.erase_append_right _ hnew]
    simp
  evq := rfl
  givebackUrbList := rfl
  active := rfl
  stalled := rfl
  state := rfl
  others := by
    intro u' hne
    simp [BceVhciTransferQueue.discard, BceVhciTransferQueue.link, hne]
  hcpriv := by simp [BceVhciTransferQueue.discard]

/-- What is done up to the delivery. -/
theorem createBody_all_or_nothing (hnew : u ∉ q.urbList)
    (hlen : (q.urbs u).transferBufferLength < 2 ^ 32) (linked : Int) :
    wp (bceVhciUrbCreateBody u linked) (fun _ => True) (AllOrNothing q u) q := by
  have hfresh : (q.link u).vurbs q.nextVurb = some (freshVurb q u) := Function.update_self ..
  refine wp_createBody u linked (fun hl => ?_) (fun _ ha => ?_) (fun _ ha => ?_)
  · refine ⟨fun _ => ?_, fun h => absurd h hl⟩
    exact ⟨rfl, rfl, rfl, rfl, rfl, rfl, rfl, rfl, fun u' hne => Function.update_of_ne hne ..,
      by simp⟩
  · refine wp_imp (urbInit_zero hfresh trivial) fun r q' h => ⟨fun hr => ?_, fun hr => ?_⟩
    · refine ⟨fun h => absurd rfl h, fun _ _ hc hin => ?_⟩
      exact .of_link hlen (h.2 hr hc (by simp [freshVurb, hin]))
    · obtain rfl := h.1 hr
      exact ⟨⟨_, hfresh⟩, fun _ => .of_discard hnew, fun h => absurd h hr⟩
  · exact ⟨fun h => absurd rfl h, fun _ ha' => by simp [ha] at ha'⟩

/-- A message for a URB asks for nothing: it is answered on `sq_out`. -/
theorem UpdateEffect.asksNothing {urb : Nat} {v : BceVhciUrb} {msg : BceVhciMessage} {r : Int}
    (h : UpdateEffect q urb v msg r q') :
    q'.msgAsynchronous = q.msgAsynchronous ∧ q'.sqs .fromDevice = q.sqs .fromDevice := by
  have hsettle : ∀ (q : BceVhciTransferQueue) u s,
      (q.settle urb u s).msgAsynchronous = q.msgAsynchronous ∧
        (q.settle urb u s).sqs = q.sqs := by
    intro q u s
    unfold BceVhciTransferQueue.settle
    split
    · exact ⟨rfl, rfl⟩
    · exact ⟨rfl, rfl⟩
  cases h with
  | deferred | refused | status => exact ⟨rfl, rfl⟩
  | setup | out => exact ⟨rfl, rfl⟩
  | outSettled =>
    obtain ⟨hm, hs⟩ := hsettle (q.setSq .toDevice _) v.urb v.receivedStatus
    exact ⟨hm, by rw [hs]; rfl⟩
  | settled =>
    obtain ⟨hm, hs⟩ := hsettle q v.urb msg.status
    exact ⟨hm, by rw [hs]⟩

end Create

/-- **An enqueue is all or nothing.** For any state of the queue and any URB that is
not on its list: if `bce_vhci_urb_create` fails, every queue, the list of URBs, the
deferred messages and the flags are as before the call, and the URB has no
`bce_vhci_urb`. If it succeeds for a device-to-host URB on an active queue that is
not the control endpoint's, one TRANSFER_REQUEST and one element on `sq_in` were
submitted, both for the whole buffer. -/
theorem urbCreate_all_or_nothing {q q' : BceVhciTransferQueue} {u : Nat} {linked r : Int}
    (hnew : u ∉ q.urbList) (hlen : (q.urbs u).transferBufferLength < 2 ^ 32)
    (hrun : (bceVhciUrbCreate u linked).run q = .ok (r, q')) : AllOrNothing q u r q' := by
  have h : wp (bceVhciUrbCreate u linked) (fun _ => True) (AllOrNothing q u) q := by
    unfold bceVhciUrbCreate
    rw [wp_bind]
    refine wp_imp (createBody_all_or_nothing hnew hlen linked) fun r q₁ h₁ => ?_
    rw [wp_ite]
    refine ⟨fun hr => ?_, fun _ => wp_pure.mpr h₁⟩
    rw [wp_bind]
    -- what is delivered then asks for no more
    refine wp_imp (wp_deliverPending_any (K := fun q' =>
      q'.msgAsynchronous = q₁.msgAsynchronous ∧ q'.sqs .fromDevice = q₁.sqs .fromDevice)
      (fun hk heff => ?_) (fun _ hk => hk) ⟨rfl, rfl⟩) fun _ q' hk => wp_pure.mpr ⟨?_, ?_⟩
    · exact ⟨heff.asksNothing.1.trans hk.1, heff.asksNothing.2.trans hk.2⟩
    · exact fun hne => absurd hr hne
    · exact fun hr ha hc hin => (h₁.started hr ha hc hin).of_eq hk.1 hk.2
  exact wp_ok h hrun

/-- A device-to-host URB of four bytes, on a new queue. -/
def newInQueue : BceVhciTransferQueue := (Endpoint.fresh 0x81).q.fill 0 ⟨true, 4, 0, 0⟩

theorem urbCreate_all_or_nothing_of_new :
    returned (bceVhciUrbCreate 0 0) newInQueue = some 0 ∧
      AskedForData newInQueue 0 (final (bceVhciUrbCreate 0 0) newInQueue) ∧
      (final (bceVhciUrbCreate 0 0) newInQueue).msgAsynchronous.data 0 =
        ⟨BCE_VHCI_CMD_TRANSFER_REQUEST, 0, 0x8101, 4⟩ ∧
      (final (bceVhciUrbCreate 0 0) newInQueue).msgAsynchronous.sq.doorbell = 1 := by
  have hr : returned (bceVhciUrbCreate 0 0) newInQueue = some 0 := by decide
  have hasked := (urbCreate_all_or_nothing (by decide) (by decide) (run_eq_final hr)).started rfl
    (by decide) (by decide) (by decide)
  refine ⟨hr, hasked, ?_, ?_⟩
  · rw [hasked.slot]
    decide
  · rw [hasked.message]
    decide

end BceDriver
