import BceDriver.Vhci.HandlerFrame
import BceDriver.Vhci.MessageChannel

/-!
# Elements are announced

`bce_vhci_urb_data_transfer_in` reserves a slot of `msg_asynchronous` and one of `sq_in`,
sends a transfer request, and submits the element it asks for. Nothing else writes to
`msg_asynchronous`, or submits to `sq_in`.

- `Sends`: what a handler does to `msg_asynchronous`, as actions of its channel.
- `AnnouncedSubmissions`: the elements submitted to `sq_in` are those the requests ask for.
- `step_announced`: every step of an endpoint.
-/

namespace BceDriver

open FaultState

/-- From `mq` to `mq'`, `msgs` are written, each against a reservation of its own, and no
reservation is left. -/
def Sends (mq : BceVhciMessageQueue) (msgs : List BceVhciMessage) (mq' : BceVhciMessageQueue) :
    Prop :=
  ∀ ch : MessageChannel, ch.mq = mq → ch.held = 0 →
    messageChannelSystem.Steps (fun _ _ => True) ch
      { ch with mq := mq', written := ch.written ++ msgs }

/-- What was ever submitted to `sq_in`. -/
def BceVhciTransferQueue.submittedIn (q : BceVhciTransferQueue) : List TransferElement :=
  match q.sqs .fromDevice with
  | some t => t.submitted
  | none => []

/-- The request for the data of an element. -/
def BceVhciTransferQueue.announcement (q : BceVhciTransferQueue) (e : TransferElement) :
    BceVhciMessage :=
  transferRequestMessage q e.length

/-- The elements `es` are submitted to `sq_in`, and asked for. -/
structure AnnouncedSubmissions (q : BceVhciTransferQueue) (es : List TransferElement)
    (q' : BceVhciTransferQueue) : Prop where
  bEndpointAddress : q'.bEndpointAddress = q.bEndpointAddress
  devAddr : q'.devAddr = q.devAddr
  asyncWaits : q'.asyncWaits = []
  submitted : q'.submittedIn = q.submittedIn ++ es
  sends : Sends q.msgAsynchronous (es.map q.announcement) q'.msgAsynchronous

/-- With nobody to wake up the blocked, elements are only submitted announced. -/
def Announces (q q' : BceVhciTransferQueue) : Prop :=
  q.asyncWaits = [] → ∃ es, AnnouncedSubmissions q es q'

/-! ## Sending -/

section Sending

variable {mq mq₁ mq' : BceVhciMessageQueue} {msgs msgs' : List BceVhciMessage}

theorem Sends.refl (mq : BceVhciMessageQueue) : Sends mq [] mq := by
  rintro ch rfl -
  refine .of_eq ?_
  rw [List.append_nil]

theorem Sends.trans (h : Sends mq msgs mq₁) (h' : Sends mq₁ msgs' mq') :
    Sends mq (msgs ++ msgs') mq' := by
  intro ch hmq hheld
  have hsecond := h' { ch with mq := mq₁, written := ch.written ++ msgs } rfl hheld
  simp only [List.append_assoc] at hsecond
  exact (h ch hmq hheld).trans hsecond

/-- A reservation that fails, waiting or not, writes nothing. -/
theorem Sends.of_waits (mq : BceVhciMessageQueue) (tokens : Nat) (waiting : Int) :
    Sends mq [] { mq with sq := { mq.sq with
      availableCommandCompletion := tokens
      availableCommandCompletionWaitingCount := waiting } } := by
  rintro ch rfl -
  rw [List.append_nil]
  exact .one (l := .waits tokens waiting) trivial rfl

/-- A reserved slot. -/
def BceVhciMessageQueue.reserved (mq : BceVhciMessageQueue) : BceVhciMessageQueue :=
  { mq with sq := { mq.sq with availableCommands := mq.sq.availableCommands - 1 } }

@[simp] theorem BceVhciMessageQueue.reserved_data (mq : BceVhciMessageQueue) :
    mq.reserved.data = mq.data := rfl

@[simp] theorem BceVhciMessageQueue.reserved_dmaAddr (mq : BceVhciMessageQueue) :
    mq.reserved.dmaAddr = mq.dmaAddr := rfl

theorem reserved_step (ch : MessageChannel) (h : 0 < ch.mq.sq.availableCommands) :
    messageChannelSystem.Steps (fun _ _ => True) ch
      { ch with mq := ch.mq.reserved, held := ch.held + 1 } := by
  refine .one (l := .reserve) trivial ?_
  simp only [messageChannelSystem, MessageChannel.step, bceReserveSubmission_of_pos h]
  rfl

/-- A reservation that is cancelled writes nothing. -/
theorem Sends.of_cancelled (h : 0 < mq.sq.availableCommands) :
    Sends mq [] { mq with sq := bceCancelSubmissionReservation mq.reserved.sq } := by
  rintro ch rfl hheld
  refine (reserved_step ch h).trans (StepSystem.Steps.one (l := .cancel) trivial ?_)
  simp [messageChannelSystem, MessageChannel.step, hheld]

/-- A message is written to a reserved slot. -/
theorem Sends.of_written (h : 0 < mq.sq.availableCommands) (msg : BceVhciMessage) :
    Sends mq [msg] (bceVhciMessageQueueWrite mq.reserved msg) := by
  rintro ch rfl hheld
  refine (reserved_step ch h).trans (StepSystem.Steps.one (l := .write msg) trivial ?_)
  simp [messageChannelSystem, MessageChannel.step, MessageChannel.write, hheld]

end Sending

/-! ## Announcing -/

namespace AnnouncedSubmissions

variable {q q₁ q' : BceVhciTransferQueue} {es es' : List TransferElement}

/-- The endpoint in the requests does not change. -/
theorem announcement (h : AnnouncedSubmissions q es q') : q'.announcement = q.announcement := by
  funext e
  simp only [BceVhciTransferQueue.announcement, transferRequestMessage,
    BceVhciTransferQueue.endpAddr, h.bEndpointAddress, h.devAddr]

/-- Nothing that matters changed. -/
theorem of_eq (hwaits : q.asyncWaits = []) (haddress : q'.bEndpointAddress = q.bEndpointAddress)
    (hdev : q'.devAddr = q.devAddr) (hwaits' : q'.asyncWaits = q.asyncWaits)
    (hsubmitted : q'.submittedIn = q.submittedIn)
    (hasync : q'.msgAsynchronous = q.msgAsynchronous) : AnnouncedSubmissions q [] q' where
  bEndpointAddress := haddress
  devAddr := hdev
  asyncWaits := hwaits'.trans hwaits
  submitted := hsubmitted.trans (List.append_nil _).symm
  sends := hasync ▸ .refl _

theorem trans (h : AnnouncedSubmissions q es q₁) (h' : AnnouncedSubmissions q₁ es' q') :
    AnnouncedSubmissions q (es ++ es') q' where
  bEndpointAddress := h'.bEndpointAddress.trans h.bEndpointAddress
  devAddr := h'.devAddr.trans h.devAddr
  asyncWaits := h'.asyncWaits
  submitted := by rw [h'.submitted, h.submitted, List.append_assoc]
  sends := by
    rw [List.map_append]
    exact h.sends.trans (h.announcement ▸ h'.sends)

/-- Only `msg_asynchronous` changed. -/
theorem of_async {m : BceVhciMessageQueue} (hsends : Sends q.msgAsynchronous [] m) :
    AnnouncedSubmissions q [] (q.setAsync m []) where
  bEndpointAddress := rfl
  devAddr := rfl
  asyncWaits := rfl
  submitted := (List.append_nil _).symm
  sends := hsends

end AnnouncedSubmissions

section Frame

variable {q : BceVhciTransferQueue}

/-- Submission queues with nothing new submitted. -/
theorem submittedIn_setSq {d : DmaDataDirection} {t t' : TransferSq} (ht : q.sqs d = some t)
    (h : t'.submitted = t.submitted) : (q.setSq d t').submittedIn = q.submittedIn := by
  unfold BceVhciTransferQueue.submittedIn
  cases d with
  | toDevice => simp [BceVhciTransferQueue.setSq]
  | fromDevice => simp [BceVhciTransferQueue.setSq, ht, h]

/-- With nobody to wake it up, a call leaves nobody to wake up others. -/
theorem bceReserveSubmissionThrough_nil (p : ReserveProgress × BceQueueSq) (timeout : Nat) :
    (bceReserveSubmissionThrough [] p timeout).2.2.2 = [] := by
  obtain ⟨progress, sq⟩ := p
  cases progress with
  | returned => rfl
  | waiting =>
    unfold bceReserveSubmissionThrough
    split <;> rfl

/-- A reservation nobody can help with. -/
theorem wp_reserveMsgAsynchronous_alone {E : Fault → Prop} (hwaits : q.asyncWaits = [])
    (timeout : Nat) {Q : Int × Nat → BceVhciTransferQueue → Prop}
    (hok : ∀ left, 0 < q.msgAsynchronous.sq.availableCommands →
      Q (0, left) (q.setAsync q.msgAsynchronous.reserved []))
    (hfail : ∀ left m, Sends q.msgAsynchronous [] m → Q (-EAGAIN, left) (q.setAsync m [])) :
    wp (reserveMsgAsynchronous timeout) E Q q := by
  unfold wp reserveMsgAsynchronous
  rw [StateT.run, hwaits]
  dsimp only
  rcases Int.lt_or_le 0 q.msgAsynchronous.sq.availableCommands with hpos | hle
  · rw [bceReserveSubmission_of_pos hpos, bceReserveSubmissionThrough_returned]
    exact hok timeout hpos
  · obtain ⟨hr, tokens, waiting, hsq⟩ := bceReserveSubmissionThrough_nil_of_le hle timeout
    rw [hr, hsq, bceReserveSubmissionThrough_nil]
    exact hfail _ _ (.of_waits q.msgAsynchronous tokens waiting)

theorem announced_dataTransferIn (hwaits : q.asyncWaits = []) (urb timeout : Nat) :
    wp (bceVhciUrbDataTransferIn urb timeout) (fun _ => True)
      (fun _ q' => ∃ es, AnnouncedSubmissions q es q') q := by
  unfold bceVhciUrbDataTransferIn
  rw [wp_bind]
  refine wp_reserveMsgAsynchronous_alone hwaits timeout (fun left hasync => ?_) fun left m hm => ?_
  · rw [if_neg (not_not_intro rfl), wp_bind]
    cases ht : q.sqs .fromDevice with
    | none => exact wp_reserveTransferSq_none (q := q.setAsync _ []) ht trivial _
    | some t =>
      refine wp_reserveTransferSq (q := q.setAsync _ []) ht _ (fun _ => ?_) (fun t' _ hw => ?_)
      · rw [if_neg (not_not_intro rfl)]
        cases hv : q.vurbs urb with
        | none =>
          rw [wp_bind, wp_modifyVurb]
          simp only [BceVhciTransferQueue.setSq, BceVhciTransferQueue.setAsync, hv]
        | some v =>
          simp only [wp_bind, wp_modifyVurb, wp_readVurb, wp_get, writeMsgAsynchronous, wp_modify,
            wp_submitTransferSq, wp_pure, BceVhciTransferQueue.setSq,
            BceVhciTransferQueue.setVurb, BceVhciTransferQueue.setAsync, hv, Function.update_self]
          refine ⟨[inElement q urb v], rfl, rfl, rfl, ?_,
            .of_written hasync (q.announcement (inElement q urb v))⟩
          simp [BceVhciTransferQueue.submittedIn, ht, TransferSq.submit, inElement]
      · rw [if_pos (by decide), wp_bind]
        obtain ⟨tokens, waiting, rfl⟩ := hw
        refine ⟨[], rfl, rfl, rfl, ?_, .of_cancelled hasync⟩
        rw [List.append_nil]
        exact submittedIn_setSq (q := q) ht rfl
  · rw [if_pos (show -EAGAIN ≠ 0 by decide)]
    exact wp_pure.mpr ⟨[], .of_async hm⟩

theorem announces : WorkFrame Announces where
  refl q hwaits := ⟨[], .of_eq hwaits rfl rfl rfl rfl rfl⟩
  trans q q₁ q' h h' hwaits := by
    obtain ⟨es, hes⟩ := h hwaits
    obtain ⟨es', hes'⟩ := h' hes.asyncWaits
    exact ⟨es ++ es', hes.trans hes'⟩
  vurbs q _ _ hwaits := ⟨[], .of_eq hwaits rfl rfl rfl rfl rfl⟩
  urbs q _ hwaits := ⟨[], .of_eq hwaits rfl rfl rfl rfl rfl⟩
  lists q _ _ _ hwaits := ⟨[], .of_eq hwaits rfl rfl rfl rfl rfl⟩
  stall q hwaits := ⟨[], .of_eq hwaits rfl rfl rfl rfl rfl⟩
  resetQueued q _ hwaits := ⟨[], .of_eq hwaits rfl rfl rfl rfl rfl⟩
  setSq q d t t' ht hsubmitted hwaits :=
    ⟨[], .of_eq hwaits rfl rfl rfl (submittedIn_setSq ht hsubmitted) rfl⟩
  submitOut e q := by
    rw [wp_submitTransferSq]
    cases ht : q.sqs .toDevice with
    | none => trivial
    | some t => exact fun hwaits => ⟨[], .of_eq hwaits rfl rfl rfl rfl rfl⟩
  dataTransferIn urb timeout q := by
    by_cases hwaits : q.asyncWaits = []
    · exact wp_imp (announced_dataTransferIn hwaits urb timeout) fun _ _ h _ => h
    · exact wp_imp (Fixed.dataTransferIn urb timeout q) fun _ _ _ h => absurd h hwaits
  flags q _ _ _ _ hwaits := ⟨[], .of_eq hwaits rfl rfl rfl rfl rfl⟩

/-- What a step of an endpoint submits to `sq_in` is announced. -/
theorem step_announced {s s' : Endpoint} {a : EndpointAction}
    (hstep : Endpoint.step a s = some s') (hasync : ∀ m w, a ≠ .async m w)
    (hwaits : s.q.asyncWaits = []) : ∃ es, AnnouncedSubmissions s.q es s'.q :=
  announces.step hstep hasync hwaits

end Frame

end BceDriver
