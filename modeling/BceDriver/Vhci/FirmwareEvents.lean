import BceDriver.Vhci.Message
import Mathlib.Data.List.Chain

/-!
# The firmware event worker (`vhci/vhci.c`)

`bce_vhci_handle_firmware_events_w` drains `ev_commands` with a lookahead of
one message, so that a message and its own cancellation are taken together.

- `bceVhciHandleFirmwareEventsRound` is one round of its loop. `msg2`, a
  pointer into the ring's data, is the slot it points to.
- `bce_vhci_handle_firmware_event` is a parameter `handle`: it works on the
  rest of the controller and touches neither `ev_commands` nor `msg_system`.
- `takeFwEvents` is what the messages ask for, read from left to right.

The worker does what they ask for exactly on the lists without a cancelled
pair: after a pair it keeps `msg2`, so the cancellation comes round once more
as a message of its own, and `head` is one slot too far from then on.
-/

namespace BceDriver

open RingIndex

/-- What the worker does with a message: hand it to the handler, or write a
response. -/
inductive FwAction where
  | executed (msg : BceVhciMessage)
  | answered (response : BceVhciMessage)
deriving DecidableEq, Repr

/-- What the worker works on, its count, and its actions so far. -/
structure FwPass (ω : Type*) where
  evCommands : BceVhciEventQueue
  msgSystem : BceVhciMessageQueue
  /-- how the waits for a slot of `msg_system` will end -/
  waits : List Wakeup
  /-- the rest of the controller -/
  rest : ω
  cnt : Nat
  log : List FwAction

/-- The second message cancels the first. -/
def BceVhciMessage.Cancels (msg2 msg : BceVhciMessage) : Prop :=
  msg2.cmd = msg.cmd ||| 0x4000 ∧ msg2.param1 = msg.param1

instance (msg2 msg : BceVhciMessage) : Decidable (msg2.Cancels msg) :=
  inferInstanceAs (Decidable (_ ∧ _))

/-- The response `bce_vhci_send_fw_event_response` builds. -/
def fwEventResponse (req : BceVhciMessage) (status : Nat) : BceVhciMessage :=
  { req with cmd := (req.cmd ||| 0x8000) % 2 ^ 16, status := status, param2 := 0 }

variable {ω : Type*}

/-- `bce_vhci_send_fw_event_response` -/
def bceVhciSendFwEventResponse (p : FwPass ω) (req : BceVhciMessage) (status : Nat) : FwPass ω :=
  let r := fwEventResponse req status
  let res := bceReserveSubmissionThrough p.waits (bceReserveSubmission p.msgSystem.sq 1000) 1000
  let p := { p with msgSystem := { p.msgSystem with sq := res.2.1 }, waits := res.2.2.2 }
  if res.1 ≠ 0 then
    p
  else
    { p with
      msgSystem := bceVhciMessageQueueWrite p.msgSystem r
      log := p.log ++ [.answered r] }

/-- `p` with the submission queue of `ev_commands` replaced. -/
def FwPass.setEvSq (p : FwPass ω) (sq : BceQueueSq) : FwPass ω :=
  { p with evCommands := { p.evCommands with sq := sq } }

/-- `(u16) result` -/
def toU16 (result : Int) : Nat := (result % 2 ^ 16).toNat

section Worker

variable (handle : ω → BceVhciMessage → Int × ω)

/-- The end of a round that executes its message. -/
def fwEventExecute (p : FwPass ω) (msg : BceVhciMessage) : FwPass ω :=
  let result := handle p.rest msg
  let p := { p with rest := result.2, log := p.log ++ [.executed msg] }
  let p := bceVhciSendFwEventResponse p msg (toU16 result.1)
  let p := p.setEvSq (bceNotifySubmissionComplete p.evCommands.sq)
  { p with cnt := p.cnt + 1 }

/-- The end of a round that takes two elements. -/
def fwEventCancelled (p : FwPass ω) (msg : BceVhciMessage) : FwPass ω :=
  let p := bceVhciSendFwEventResponse p msg BCE_VHCI_ABORT
  let p := p.setEvSq (bceNotifySubmissionComplete (bceNotifySubmissionComplete p.evCommands.sq))
  { p with cnt := p.cnt + 2 }

/-- The slot of `msg`, and the pass once it is taken: from the lookahead if
there is one. `none` is the `break`. -/
def fwEventNext (msg2 : Option Nat) (p : FwPass ω) : Option (Nat × FwPass ω) :=
  match msg2 with
  | some slot => some (slot, p)
  | none => (bceNextCompletion p.evCommands.sq).map fun c => (c.2.head, p.setEvSq c.2)

/-- A round once its message is chosen: the lookahead it leaves, and the pass. -/
def fwEventTake (slot : Nat) (p : FwPass ω) : Option Nat × FwPass ω :=
  let msg := p.evCommands.data slot
  match bceNextCompletion p.evCommands.sq with
  | some (_, sq) =>
    let slot2 := (sq.head + 1) % sq.elCount
    let p := p.setEvSq sq
    -- the lookahead stays set across the `continue`
    if (p.evCommands.data slot2).Cancels msg then
      (some slot2, fwEventCancelled p msg)
    else
      (some slot2, fwEventExecute handle p msg)
  | none => (none, fwEventExecute handle p msg)

/-- A round of the worker's loop. -/
def bceVhciHandleFirmwareEventsRound (msg2 : Option Nat) (p : FwPass ω) :
    Option (Option Nat × FwPass ω) :=
  (fwEventNext msg2 p).map fun (slot, p) => fwEventTake handle slot p

/-- The worker's loop; `none` when the fuel runs out. -/
def bceVhciHandleFirmwareEventsLoop : Nat → Option Nat → FwPass ω → Option (FwPass ω)
  | 0, _, _ => none
  | fuel + 1, msg2, p =>
    match bceVhciHandleFirmwareEventsRound handle msg2 p with
    | none => some p
    | some (msg2, p) => bceVhciHandleFirmwareEventsLoop fuel msg2 p

/-- `bce_vhci_handle_firmware_events_w`: the pass when the ring is drained, and
the event queue after the buffers are re-posted. -/
def bceVhciHandleFirmwareEventsW (p : FwPass ω) : Option (FwPass ω × BceVhciEventQueue) :=
  (bceVhciHandleFirmwareEventsLoop handle (p.evCommands.sq.elCount + 1) none
    { p with cnt := 0 }).map
    fun p => (p, bceVhciEventQueueSubmitPending p.evCommands p.cnt)

/-! ## What the messages ask for -/

/-- The actions a list of messages asks for, and the controller after them. -/
def takeFwEvents : List BceVhciMessage → ω → List FwAction × ω
  | [], w => ([], w)
  | [msg], w =>
    let result := handle w msg
    ([.executed msg, .answered (fwEventResponse msg (toU16 result.1))], result.2)
  | msg :: msg2 :: msgs, w =>
    if msg2.Cancels msg then
      let later := takeFwEvents msgs w
      (.answered (fwEventResponse msg BCE_VHCI_ABORT) :: later.1, later.2)
    else
      let result := handle w msg
      let later := takeFwEvents (msg2 :: msgs) result.2
      (.executed msg :: .answered (fwEventResponse msg (toU16 result.1)) :: later.1, later.2)

/-- The responses among the actions, in order. -/
def fwAnswers (log : List FwAction) : List BceVhciMessage :=
  log.filterMap fun
    | .executed _ => none
    | .answered r => some r

/-- From `p` to `q`, a pass took each of `msgs` exactly once: it did what they
ask for, its responses are the next elements of `msg_system`, and `head` and the
credit moved on by their number. -/
structure FwDrained (msgs : List BceVhciMessage) (p q : FwPass ω) : Prop where
  log : q.log = p.log ++ (takeFwEvents handle msgs p.rest).1
  rest : q.rest = (takeFwEvents handle msgs p.rest).2
  responses : q.msgSystem.data = writeAll p.msgSystem.sq.elCount p.msgSystem.data
    p.msgSystem.sq.tail (fwAnswers (takeFwEvents handle msgs p.rest).1)
  responsesTail : q.msgSystem.sq.tail = advance p.msgSystem.sq.elCount p.msgSystem.sq.tail
    (fwAnswers (takeFwEvents handle msgs p.rest).1).length
  head : q.evCommands.sq.head =
    advance p.evCommands.sq.elCount p.evCommands.sq.head msgs.length
  credit : q.evCommands.sq.availableCommands =
    p.evCommands.sq.availableCommands + msgs.length
  cnt : q.cnt = p.cnt + msgs.length
  buffers : q.evCommands.sq.elCount = p.evCommands.sq.elCount ∧
    q.evCommands.sq.tail = p.evCommands.sq.tail ∧
    q.evCommands.sq.data = p.evCommands.sq.data ∧ q.evCommands.dmaAddr = p.evCommands.dmaAddr

/-- The whole worker took each of `msgs` exactly once, and posted exactly that
many buffers again. -/
structure FwEventsTaken (msgs : List BceVhciMessage) (p drained : FwPass ω)
    (posted : BceVhciEventQueue) : Prop where
  taken : FwDrained handle msgs { p with cnt := 0 } drained
  head : posted.sq.head = drained.evCommands.sq.head
  tail : posted.sq.tail = advance p.evCommands.sq.elCount p.evCommands.sq.tail msgs.length
  slots : posted.sq.data = writeAll p.evCommands.sq.elCount p.evCommands.sq.data
    p.evCommands.sq.tail ((List.range msgs.length).map fun i =>
      ⟨bceVhciMessageSize, p.evCommands.dmaAddr +
        advance p.evCommands.sq.elCount p.evCommands.sq.tail i * bceVhciMessageSize, 0, 0⟩)
  credit : posted.sq.availableCommands = p.evCommands.sq.availableCommands
  rung : posted.sq.doorbell = posted.sq.tail

end Worker

/-! ## Responses -/

@[simp] theorem bceVhciSendFwEventResponse_evCommands (p : FwPass ω) (req : BceVhciMessage)
    (status : Nat) : (bceVhciSendFwEventResponse p req status).evCommands = p.evCommands := by
  unfold bceVhciSendFwEventResponse
  generalize bceReserveSubmissionThrough p.waits (bceReserveSubmission p.msgSystem.sq 1000)
    1000 = res
  dsimp only
  split
  · rfl
  · rfl

/-- With a free slot on `msg_system` the response is written without a wait. -/
theorem bceVhciSendFwEventResponse_of_free {p : FwPass ω}
    (hfree : 0 < p.msgSystem.sq.availableCommands) (req : BceVhciMessage) (status : Nat) :
    bceVhciSendFwEventResponse p req status =
      { p with
        msgSystem := bceVhciMessageQueueWrite
          { p.msgSystem with sq :=
              { p.msgSystem.sq with availableCommands := p.msgSystem.sq.availableCommands - 1 } }
          (fwEventResponse req status)
        log := p.log ++ [.answered (fwEventResponse req status)] } := by
  unfold bceVhciSendFwEventResponse
  rw [bceReserveSubmission_of_pos hfree, bceReserveSubmissionThrough_returned]
  dsimp only
  rw [if_neg (not_not_intro rfl)]

theorem fwEventExecute_evCommands (handle : ω → BceVhciMessage → Int × ω) (p : FwPass ω)
    (msg : BceVhciMessage) :
    (fwEventExecute handle p msg).evCommands =
      { p.evCommands with sq := bceNotifySubmissionComplete p.evCommands.sq } := by
  simp [fwEventExecute, FwPass.setEvSq]

theorem fwEventCancelled_evCommands (p : FwPass ω) (msg : BceVhciMessage) :
    (fwEventCancelled p msg).evCommands =
      { p.evCommands with
        sq := bceNotifySubmissionComplete (bceNotifySubmissionComplete p.evCommands.sq) } := by
  simp [fwEventCancelled, FwPass.setEvSq]

/-! ## One round -/

section Round

variable {handle : ω → BceVhciMessage → Int × ω} {sq : BceQueueSq} {msg2 : Option Nat}
  {p : FwPass ω} {c held k : Nat}

/-- Where the lookahead stands when `k` messages are left: nothing is consumed,
or exactly the message at `head` is and the lookahead points to it. -/
inductive FwRing (sq : BceQueueSq) (c held : Nat) : Nat → Option Nat → Prop where
  | idle {k : Nat} : SqCredit sq 0 k c held → FwRing sq c held k none
  | ahead {k : Nat} : SqCredit sq 1 k c held → FwRing sq c held (k + 1) (some sq.head)

/-- With no message left the worker leaves its loop. -/
theorem round_of_nil (h : FwRing p.evCommands.sq c held 0 msg2) :
    bceVhciHandleFirmwareEventsRound handle msg2 p = none := by
  cases h with
  | idle h =>
    simp [bceVhciHandleFirmwareEventsRound, fwEventNext, h.next_completion_none_iff.mpr rfl]

/-- A round takes the message at `head`, first consuming its completion if the
lookahead has not. -/
theorem fwEventNext_of_ring (h : FwRing p.evCommands.sq c held (k + 1) msg2) :
    ∃ sq, fwEventNext msg2 p = some (p.evCommands.sq.head, p.setEvSq sq) ∧
      sq = { p.evCommands.sq with completionCidx := sq.completionCidx } ∧
      SqCredit sq 1 k c held := by
  cases h with
  | idle h =>
    obtain ⟨d, sq, hnext, -, rfl, hsq⟩ := h.next_completion
    exact ⟨_, by rw [fwEventNext, hnext]; rfl, rfl, hsq⟩
  | ahead h => exact ⟨p.evCommands.sq, rfl, rfl, h⟩

/-- A round whose message is the last one. -/
theorem round_of_last (h : FwRing p.evCommands.sq c held 1 msg2) :
    ∃ sq, bceVhciHandleFirmwareEventsRound handle msg2 p =
        some (none, fwEventExecute handle (p.setEvSq sq)
          (p.evCommands.data p.evCommands.sq.head)) ∧
      sq = { p.evCommands.sq with completionCidx := sq.completionCidx } ∧
      SqCredit sq 1 0 c held := by
  obtain ⟨sq, hnext, hsq, hcredit⟩ := fwEventNext_of_ring h
  refine ⟨sq, ?_, hsq, hcredit⟩
  have hnone : bceNextCompletion (p.setEvSq sq).evCommands.sq = none :=
    hcredit.next_completion_none_iff.mpr rfl
  rw [bceVhciHandleFirmwareEventsRound, hnext, Option.map_some]
  dsimp only
  rw [fwEventTake, hnone]
  rfl

/-- A round with another message behind: the lookahead moves to it, and it
decides between the two ways the round goes. -/
theorem round_of_more (h : FwRing p.evCommands.sq c held (k + 2) msg2) :
    ∃ sq, bceVhciHandleFirmwareEventsRound handle msg2 p =
        some (some (advance sq.elCount sq.head 1),
          if (p.evCommands.data (advance sq.elCount sq.head 1)).Cancels
              (p.evCommands.data p.evCommands.sq.head) then
            fwEventCancelled (p.setEvSq sq) (p.evCommands.data p.evCommands.sq.head)
          else
            fwEventExecute handle (p.setEvSq sq) (p.evCommands.data p.evCommands.sq.head)) ∧
      sq = { p.evCommands.sq with completionCidx := sq.completionCidx } ∧
      SqCredit sq 2 k c held := by
  obtain ⟨sq, hnext, hsq, hcredit⟩ := fwEventNext_of_ring h
  obtain ⟨d, sq', hnext', -, hsq', hcredit'⟩ := hcredit.next_completion
  have hfields : sq' = { p.evCommands.sq with completionCidx := sq'.completionCidx } := by
    rw [hsq', hsq]
  refine ⟨sq', ?_, hfields, hcredit'⟩
  have hsome : bceNextCompletion (p.setEvSq sq).evCommands.sq = some (d, sq') := hnext'
  rw [bceVhciHandleFirmwareEventsRound, hnext, Option.map_some]
  dsimp only
  rw [fwEventTake, hsome]
  dsimp only
  by_cases hpair : (p.evCommands.data (advance sq'.elCount sq'.head 1)).Cancels
      (p.evCommands.data p.evCommands.sq.head)
  · rw [if_pos hpair]
    exact congrArg some (if_pos hpair)
  · rw [if_neg hpair]
    exact congrArg some (if_neg hpair)

/-- A round that takes the message `m` at `head` and executes it. -/
theorem round_of_execute {m : BceVhciMessage} {msgs : List BceVhciMessage}
    (h : FwRing p.evCommands.sq c held (msgs.length + 1) msg2)
    (hm : p.evCommands.data p.evCommands.sq.head = m)
    (hmsgs : ∀ m2 ∈ msgs.head?,
      p.evCommands.data (advance p.evCommands.sq.elCount p.evCommands.sq.head 1) = m2)
    (hpair : ∀ m2 ∈ msgs.head?, ¬m2.Cancels m) :
    ∃ msg2' sq, bceVhciHandleFirmwareEventsRound handle msg2 p =
        some (msg2', fwEventExecute handle (p.setEvSq sq) m) ∧
      sq = { p.evCommands.sq with completionCidx := sq.completionCidx } ∧
      FwRing (bceNotifySubmissionComplete sq) c held msgs.length msg2' := by
  cases msgs with
  | nil =>
    obtain ⟨sq, hround, hsq, hcredit⟩ := @round_of_last ω handle msg2 p c held h
    exact ⟨none, sq, by rw [hround, hm], hsq, .idle hcredit.notify⟩
  | cons m2 msgs =>
    obtain ⟨sq, hround, hsq, hcredit⟩ := @round_of_more ω handle msg2 p c held msgs.length h
    have hhead : advance sq.elCount sq.head 1 =
        advance p.evCommands.sq.elCount p.evCommands.sq.head 1 := by rw [hsq]
    rw [hhead, hm, hmsgs m2 rfl, if_neg (hpair m2 rfl)] at hround
    refine ⟨_, sq, hround, hsq, ?_⟩
    rw [show advance p.evCommands.sq.elCount p.evCommands.sq.head 1 =
      (bceNotifySubmissionComplete sq).head by rw [← hhead, bceNotifySubmissionComplete_head]; rfl]
    exact .ahead hcredit.notify

end Round

/-! ## A drained list without a cancelled pair -/

section Drain

variable {handle : ω → BceVhciMessage → Int × ω} {p q : FwPass ω} {m : BceVhciMessage}
  {msgs : List BceVhciMessage} {msg2 : Option Nat} {c held : Nat}

/-- No message of the list is immediately followed by its own cancellation. -/
def NoCancelledPair (msgs : List BceVhciMessage) : Prop :=
  msgs.IsChain fun msg msg2 => ¬msg2.Cancels msg

instance (msgs : List BceVhciMessage) : Decidable (NoCancelledPair msgs) :=
  inferInstanceAs (Decidable (List.IsChain _ _))

/-- The list from `head` on is what the buffers hold. -/
def FwPending (p : FwPass ω) (msgs : List BceVhciMessage) : Prop :=
  ∀ i (h : i < msgs.length),
    p.evCommands.data (advance p.evCommands.sq.elCount p.evCommands.sq.head i) = msgs[i]

/-- A message its successor does not cancel is executed and answered first. -/
theorem takeFwEvents_cons (hpair : ∀ m2 ∈ msgs.head?, ¬m2.Cancels m) (w : ω) :
    takeFwEvents handle (m :: msgs) w =
      let result := handle w m
      let later := takeFwEvents handle msgs result.2
      (.executed m :: .answered (fwEventResponse m (toU16 result.1)) :: later.1, later.2) := by
  cases msgs with
  | nil => rfl
  | cons m2 msgs => rw [takeFwEvents, if_neg (hpair m2 rfl)]

/-- What executing the message `m` does to the pass, given a free slot. -/
theorem fwEventExecute_of_free (hfree : 0 < p.msgSystem.sq.availableCommands)
    (m : BceVhciMessage) :
    fwEventExecute handle p m =
      { p with
        evCommands :=
          { p.evCommands with sq := bceNotifySubmissionComplete p.evCommands.sq }
        msgSystem := bceVhciMessageQueueWrite
          { p.msgSystem with sq :=
              { p.msgSystem.sq with availableCommands := p.msgSystem.sq.availableCommands - 1 } }
          (fwEventResponse m (toU16 (handle p.rest m).1))
        rest := (handle p.rest m).2
        cnt := p.cnt + 1
        log := p.log ++ [.executed m] ++
          [.answered (fwEventResponse m (toU16 (handle p.rest m).1))] } := by
  have hsend := @bceVhciSendFwEventResponse_of_free ω
    { p with rest := (handle p.rest m).2, log := p.log ++ [.executed m] } hfree m
    (toU16 (handle p.rest m).1)
  unfold fwEventExecute
  dsimp only
  rw [hsend]
  rfl

/-- Nothing to take. -/
theorem FwDrained.nil (hhead : p.evCommands.sq.head < p.evCommands.sq.elCount)
    (htail : p.msgSystem.sq.tail < p.msgSystem.sq.elCount) : FwDrained handle [] p p where
  log := (List.append_nil _).symm
  rest := rfl
  responses := rfl
  responsesTail := (advance_zero htail).symm
  head := (advance_zero hhead).symm
  credit := by simp
  cnt := rfl
  buffers := ⟨rfl, rfl, rfl, rfl⟩

/-- One message executed, then the rest taken. -/
theorem FwDrained.cons {sq : BceQueueSq} (hfree : 0 < p.msgSystem.sq.availableCommands)
    (hsq : sq = { p.evCommands.sq with completionCidx := sq.completionCidx })
    (hpair : ∀ m2 ∈ msgs.head?, ¬m2.Cancels m)
    (h : FwDrained handle msgs (fwEventExecute handle (p.setEvSq sq) m) q) :
    FwDrained handle (m :: msgs) p q := by
  have hn : sq.elCount = p.evCommands.sq.elCount := by rw [hsq]
  have hh : sq.head = p.evCommands.sq.head := by rw [hsq]
  have hv : sq.availableCommands = p.evCommands.sq.availableCommands := by rw [hsq]
  rw [fwEventExecute_of_free (show 0 < (p.setEvSq sq).msgSystem.sq.availableCommands from hfree)]
    at h
  have htake := @takeFwEvents_cons ω handle m msgs hpair p.rest
  exact {
    log := by
      rw [h.log, htake, List.append_assoc, List.append_assoc]
      rfl
    rest := by rw [h.rest, htake]; rfl
    responses := by rw [h.responses, htake]; rfl
    responsesTail := by
      rw [h.responsesTail, htake]
      show advance p.msgSystem.sq.elCount (advance p.msgSystem.sq.elCount p.msgSystem.sq.tail 1)
        _ = _
      rw [advance_advance, Nat.add_comm 1]
      rfl
    head := by
      rw [h.head]
      show advance (bceNotifySubmissionComplete sq).elCount (bceNotifySubmissionComplete sq).head
        _ = _
      rw [bceNotifySubmissionComplete_elCount, bceNotifySubmissionComplete_head, hn, hh]
      show advance p.evCommands.sq.elCount
        (advance p.evCommands.sq.elCount p.evCommands.sq.head 1) _ = _
      rw [advance_advance, Nat.add_comm 1]
      rfl
    credit := by
      rw [h.credit]
      show (bceNotifySubmissionComplete sq).availableCommands + _ = _
      rw [bceNotifySubmissionComplete_availableCommands, hv, List.length_cons]
      push_cast
      omega
    cnt := by
      rw [h.cnt, List.length_cons]
      show p.cnt + 1 + _ = _
      omega
    buffers := by
      obtain ⟨h₁, h₂, h₃, h₄⟩ := h.buffers
      refine ⟨h₁.trans ?_, h₂.trans ?_, h₃.trans ?_, h₄⟩
      · exact (bceNotifySubmissionComplete_elCount sq).trans hn
      · exact (bceNotifySubmissionComplete_tail sq).trans (by rw [hsq])
      · exact (bceNotifySubmissionComplete_data sq).trans (by rw [hsq]) }

/-- The second of the pending messages is the one behind `head`. -/
theorem FwPending.second (h : FwPending p (m :: msgs)) :
    ∀ m2 ∈ msgs.head?,
      p.evCommands.data (advance p.evCommands.sq.elCount p.evCommands.sq.head 1) = m2 := by
  intro m2 hm2
  cases msgs with
  | nil => simp at hm2
  | cons m3 msgs =>
    obtain rfl : m3 = m2 := by simpa using hm2
    exact h 1 (by simp)

/-- Once `head` has moved on, the rest of the messages is pending. -/
theorem FwPending.tail (h : FwPending p (m :: msgs)) {sq : BceQueueSq}
    (hn : sq.elCount = p.evCommands.sq.elCount)
    (hh : sq.head = advance p.evCommands.sq.elCount p.evCommands.sq.head 1)
    (hq : q.evCommands = { p.evCommands with sq := sq }) : FwPending q msgs := by
  intro i hi
  have hi' := h (i + 1) (by simpa using hi)
  rw [hq]
  show p.evCommands.data (advance sq.elCount sq.head i) = msgs[i]
  rw [hn, hh, advance_advance, Nat.add_comm 1 i, hi']
  rfl

/-- Without a cancelled pair, the loop takes each pending message exactly once. -/
theorem loop_of_noCancelledPair :
    ∀ (msgs : List BceVhciMessage) {msg2 : Option Nat} {p : FwPass ω} {fuel : Nat},
      FwRing p.evCommands.sq c held msgs.length msg2 → FwPending p msgs → NoCancelledPair msgs →
      (msgs.length : Int) ≤ p.msgSystem.sq.availableCommands →
      p.msgSystem.sq.tail < p.msgSystem.sq.elCount → msgs.length < fuel →
      ∃ q, bceVhciHandleFirmwareEventsLoop handle fuel msg2 p = some q ∧
        FwDrained handle msgs p q ∧ SqCredit q.evCommands.sq 0 0 c held
  | [], _, p, fuel + 1, hring, _, _, _, htail, _ => by
    refine ⟨p, ?_, .nil ?_ htail, ?_⟩
    · rw [bceVhciHandleFirmwareEventsLoop, round_of_nil hring]
    · cases hring with
      | idle h => exact h.head_lt
    · cases hring with
      | idle h => exact h
  | m :: msgs, msg2, p, fuel + 1, hring, hpend, hpair, hfree, htail, hfuel => by
    obtain ⟨hhd, htl⟩ := List.isChain_cons.mp hpair
    have hpos : 0 < p.msgSystem.sq.availableCommands := by
      rw [List.length_cons] at hfree
      push_cast at hfree
      omega
    have hhead : p.evCommands.sq.head < p.evCommands.sq.elCount := by
      cases hring with
      | idle h => exact h.head_lt
      | ahead h => exact h.head_lt
    have hm : p.evCommands.data p.evCommands.sq.head = m := by
      have h := hpend 0 (by simp)
      rwa [advance_zero hhead] at h
    obtain ⟨msg2', sq, hround, hsq, hring'⟩ :=
      @round_of_execute ω handle msg2 p c held m msgs hring hm hpend.second hhd
    -- the message is executed, and the rest is pending behind it
    let p' := fwEventExecute handle (p.setEvSq sq) m
    have hp' : p' = _ := fwEventExecute_of_free
      (show 0 < (p.setEvSq sq).msgSystem.sq.availableCommands from hpos) m
    have hevc : p'.evCommands =
        { p.evCommands with sq := bceNotifySubmissionComplete sq } := by rw [hp']; rfl
    have hpend' : FwPending p' msgs := by
      refine hpend.tail ?_ ?_ hevc
      · rw [bceNotifySubmissionComplete_elCount, hsq]
      · rw [bceNotifySubmissionComplete_head, hsq]
        rfl
    obtain ⟨q, hloop, hdrained, hcredit⟩ := @loop_of_noCancelledPair msgs msg2' p' fuel
      (by rw [hevc]; exact hring') hpend' htl
      (by
        rw [hp']
        show (msgs.length : Int) ≤ p.msgSystem.sq.availableCommands - 1
        rw [List.length_cons] at hfree
        push_cast at hfree
        omega)
      (by
        rw [hp']
        exact Nat.mod_lt _ (by omega : 0 < p.msgSystem.sq.elCount))
      (by rw [List.length_cons] at hfuel; omega)
    refine ⟨q, ?_, .cons hpos hsq hhd hdrained, hcredit⟩
    rw [bceVhciHandleFirmwareEventsLoop, hround]
    exact hloop

end Drain

/-! ## A drained list with a cancelled pair -/

section Overrun

variable {handle : ω → BceVhciMessage → Int × ω} {p : FwPass ω} {msg2 : Option Nat}
  {c held : Nat}

/-- What is left for the loop: the completions it has not consumed, and the
message of the lookahead. -/
structure FwLeft (sq : BceQueueSq) (msg2 : Option Nat) (k : Nat) : Prop where
  head_lt : sq.head < sq.elCount
  cidx_lt : sq.completionCidx < sq.elCount
  left : ∃ b, k = b + (if msg2.isSome then 1 else 0) ∧ b < sq.elCount ∧
    sq.completionTail = advance sq.elCount sq.completionCidx b

namespace FwLeft

variable {sq : BceQueueSq} {b k : Nat}

theorem next_completion_none (hc : sq.completionCidx < sq.elCount)
    (ht : sq.completionTail = advance sq.elCount sq.completionCidx 0) :
    bceNextCompletion sq = none := by
  rw [advance_zero hc] at ht
  simp [bceNextCompletion, ht]

theorem next_completion_some (hc : sq.completionCidx < sq.elCount) (hb : b + 1 < sq.elCount)
    (ht : sq.completionTail = advance sq.elCount sq.completionCidx (b + 1)) :
    ∃ d sq', bceNextCompletion sq = some (d, sq') ∧
      sq' = { sq with completionCidx := sq'.completionCidx } ∧
      sq'.completionCidx < sq.elCount ∧
      sq'.completionTail = advance sq.elCount sq'.completionCidx b := by
  have hne : sq.completionCidx ≠ sq.completionTail := by
    intro heq
    have : 0 = b + 1 := advance_inj hc (by omega) hb (by rw [advance_zero hc, ← ht, ← heq])
    omega
  refine ⟨_, _, by rw [bceNextCompletion, if_neg hne], rfl, Nat.mod_lt _ (Nat.zero_lt_of_lt hc), ?_⟩
  show sq.completionTail = advance sq.elCount (advance sq.elCount sq.completionCidx 1) b
  rw [ht, advance_advance, Nat.add_comm 1 b]

/-- Notifying only moves `head`. -/
theorem notify (h : FwLeft sq msg2 k) : FwLeft (bceNotifySubmissionComplete sq) msg2 k := by
  obtain ⟨hh, hc, b, hk, hb, ht⟩ := h
  refine ⟨?_, ?_, b, hk, ?_, ?_⟩
  · rw [bceNotifySubmissionComplete_head, bceNotifySubmissionComplete_elCount]
    exact Nat.mod_lt _ (Nat.zero_lt_of_lt hh)
  · rwa [bceNotifySubmissionComplete_completionCidx, bceNotifySubmissionComplete_elCount]
  · rwa [bceNotifySubmissionComplete_elCount]
  · rwa [bceNotifySubmissionComplete_completionCidx, bceNotifySubmissionComplete_elCount,
      bceNotifySubmissionComplete_completionTail]

/-- Taking a message leaves one less, and moves `head` by one slot, or by two
for a pair. -/
theorem take {p : FwPass ω} (h : FwLeft p.evCommands.sq none k) (slot : Nat) :
    let r := fwEventTake handle slot p
    FwLeft r.2.evCommands.sq r.1 k ∧
      r.2.evCommands.sq.elCount = p.evCommands.sq.elCount ∧
      (r.2.evCommands.sq.head = advance p.evCommands.sq.elCount p.evCommands.sq.head 1 ∨
        r.2.evCommands.sq.head = advance p.evCommands.sq.elCount p.evCommands.sq.head 2) := by
  obtain ⟨hh, hc, b, hk, hb, ht⟩ := h
  obtain rfl : k = b := by simpa using hk
  cases k with
  | zero =>
    rw [fwEventTake, next_completion_none hc ht]
    dsimp only
    rw [fwEventExecute_evCommands]
    refine ⟨notify ⟨hh, hc, 0, rfl, hb, ht⟩, bceNotifySubmissionComplete_elCount _, .inl ?_⟩
    exact bceNotifySubmissionComplete_head _
  | succ b =>
    obtain ⟨d, sq', hnext, hsq', hc', ht'⟩ := next_completion_some hc hb ht
    have hn : sq'.elCount = p.evCommands.sq.elCount := by rw [hsq']
    have hhead : sq'.head = p.evCommands.sq.head := by rw [hsq']
    have hleft : FwLeft sq' (some (advance sq'.elCount sq'.head 1)) (b + 1) :=
      ⟨by rwa [hn, hhead], by rwa [hn], b, rfl, by rw [hn]; omega, by rw [ht', hn]⟩
    rw [fwEventTake, hnext]
    dsimp only
    split
    · rw [fwEventCancelled_evCommands]
      refine ⟨hleft.notify.notify, ?_, .inr ?_⟩
      · show (bceNotifySubmissionComplete (bceNotifySubmissionComplete sq')).elCount = _
        rw [bceNotifySubmissionComplete_elCount, bceNotifySubmissionComplete_elCount, hn]
      · show (bceNotifySubmissionComplete (bceNotifySubmissionComplete sq')).head = _
        rw [bceNotifySubmissionComplete_head, bceNotifySubmissionComplete_head,
          bceNotifySubmissionComplete_elCount, hn, hhead]
        exact advance_succ
    · rw [fwEventExecute_evCommands]
      refine ⟨hleft.notify, ?_, .inl ?_⟩
      · show (bceNotifySubmissionComplete sq').elCount = _
        rw [bceNotifySubmissionComplete_elCount, hn]
      · show (bceNotifySubmissionComplete sq').head = _
        rw [bceNotifySubmissionComplete_head, hn, hhead]
        rfl

/-- From any state with `k` messages left, a round takes one of them. -/
theorem round (h : FwLeft p.evCommands.sq msg2 (k + 1)) :
    ∃ msg2' p', bceVhciHandleFirmwareEventsRound handle msg2 p = some (msg2', p') ∧
      FwLeft p'.evCommands.sq msg2' k ∧
      p'.evCommands.sq.elCount = p.evCommands.sq.elCount ∧
      (p'.evCommands.sq.head = advance p.evCommands.sq.elCount p.evCommands.sq.head 1 ∨
        p'.evCommands.sq.head = advance p.evCommands.sq.elCount p.evCommands.sq.head 2) := by
  obtain ⟨hh, hc, b, hk, hb, ht⟩ := h
  cases msg2 with
  | some slot =>
    obtain rfl : k = b := by simpa using hk
    have h' : FwLeft p.evCommands.sq none k := ⟨hh, hc, k, rfl, hb, ht⟩
    exact ⟨_, _, rfl, h'.take slot⟩
  | none =>
    obtain rfl : b = k + 1 := by simpa using hk.symm
    obtain ⟨d, sq', hnext, hsq', hc', ht'⟩ := next_completion_some hc hb ht
    have hn : sq'.elCount = p.evCommands.sq.elCount := by rw [hsq']
    have hhead : sq'.head = p.evCommands.sq.head := by rw [hsq']
    have h' : FwLeft sq' none k :=
      ⟨by rwa [hn, hhead], by rwa [hn], k, rfl, by rw [hn]; omega, by rw [ht', hn]⟩
    refine ⟨_, _, by rw [bceVhciHandleFirmwareEventsRound, fwEventNext, hnext]; rfl, ?_⟩
    obtain ⟨hleft, hcount, hmove⟩ := @take ω handle k (p.setEvSq sq') h' sq'.head
    refine ⟨hleft, hcount.trans hn, ?_⟩
    rw [← hn, ← hhead]
    exact hmove

/-- With nothing left the worker leaves its loop. -/
theorem round_zero (h : FwLeft p.evCommands.sq msg2 0) :
    bceVhciHandleFirmwareEventsRound handle msg2 p = none := by
  obtain ⟨hh, hc, b, hk, hb, ht⟩ := h
  cases msg2 with
  | some slot => simp at hk
  | none =>
    obtain rfl : b = 0 := by simpa using hk.symm
    rw [bceVhciHandleFirmwareEventsRound, fwEventNext, next_completion_none hc ht]
    rfl

/-- The loop takes every message left, and moves `head` on by at least and at
most twice their number. -/
theorem loop :
    ∀ (k : Nat) {msg2 : Option Nat} {p : FwPass ω} {fuel : Nat},
      FwLeft p.evCommands.sq msg2 k → k < fuel →
      ∃ q j, bceVhciHandleFirmwareEventsLoop handle fuel msg2 p = some q ∧ j ≤ k ∧
        q.evCommands.sq.head =
          advance p.evCommands.sq.elCount p.evCommands.sq.head (k + j)
  | 0, _, p, fuel + 1, h, _ => by
    refine ⟨p, 0, ?_, Nat.le_refl 0, (advance_zero h.head_lt).symm⟩
    rw [bceVhciHandleFirmwareEventsLoop, h.round_zero]
  -- by induction on the messages left: each round takes one of them
  | k + 1, msg2, p, fuel + 1, h, hfuel => by
    obtain ⟨msg2', p', hround, hleft, hn, hmove⟩ := @round ω handle p msg2 k h
    obtain ⟨q, j, hloop, hj, hhead⟩ := loop k hleft (by omega : k < fuel)
    rw [hn] at hhead
    have hrun : bceVhciHandleFirmwareEventsLoop handle (fuel + 1) msg2 p = some q := by
      rw [bceVhciHandleFirmwareEventsLoop, hround]
      exact hloop
    rcases hmove with hmove | hmove
    · refine ⟨q, j, hrun, by omega, ?_⟩
      rw [hhead, hmove, advance_advance, show 1 + (k + j) = k + 1 + j by omega]
    · refine ⟨q, j + 1, hrun, by omega, ?_⟩
      rw [hhead, hmove, advance_advance, show 2 + (k + j) = k + 1 + (j + 1) by omega]

/-- After a pair: everything up to `head` is notified, and yet the lookahead
still holds a message. -/
theorem of_pair (h : SqCredit sq 0 k c held) (slot : Nat) : FwLeft sq (some slot) (k + 1) where
  head_lt := h.head_lt
  cidx_lt := by
    rw [h.cidx, advance_zero h.head_lt]
    exact h.head_lt
  -- the lookahead names a slot whose completion is consumed already
  left := by
    have hlt := h.occupied_lt
    refine ⟨k, rfl, by omega, ?_⟩
    rw [h.ctail, h.cidx, advance_advance]

end FwLeft

/-- With a cancelled pair among the messages, `head` ends up too far. -/
theorem loop_of_cancelledPair :
    ∀ (msgs : List BceVhciMessage) {msg2 : Option Nat} {p : FwPass ω} {fuel : Nat},
      FwRing p.evCommands.sq c held msgs.length msg2 → FwPending p msgs →
      ¬NoCancelledPair msgs → msgs.length < fuel →
      ∃ q j, bceVhciHandleFirmwareEventsLoop handle fuel msg2 p = some q ∧
        0 < j ∧ j ≤ msgs.length ∧
        q.evCommands.sq.head =
          advance p.evCommands.sq.elCount p.evCommands.sq.head (msgs.length + j)
  | [], _, _, _, _, _, hpair, _ => absurd List.IsChain.nil hpair
  | [m], _, _, _, _, _, hpair, _ => absurd (List.IsChain.singleton m) hpair
  | m :: m2 :: msgs, msg2, p, fuel + 1, hring, hpend, hpair, hfuel => by
    have hhead : p.evCommands.sq.head < p.evCommands.sq.elCount := by
      cases hring with
      | idle h => exact h.head_lt
      | ahead h => exact h.head_lt
    have hm : p.evCommands.data p.evCommands.sq.head = m := by
      have h := hpend 0 (by simp)
      rwa [advance_zero hhead] at h
    by_cases hcancel : m2.Cancels m
    · -- the pair: the worker is left with one message more than the ring
      obtain ⟨sq, hround, hsq, hcredit⟩ := @round_of_more ω handle msg2 p c held msgs.length hring
      have hn : sq.elCount = p.evCommands.sq.elCount := by rw [hsq]
      have hh : sq.head = p.evCommands.sq.head := by rw [hsq]
      rw [hm, hn, hh, hpend.second m2 rfl, if_pos hcancel] at hround
      have hleft := FwLeft.of_pair hcredit.notify.notify
        (advance p.evCommands.sq.elCount p.evCommands.sq.head 1)
      have hevc := fwEventCancelled_evCommands (p.setEvSq sq) m
      have hleft' : FwLeft (fwEventCancelled (p.setEvSq sq) m).evCommands.sq
          (some (advance p.evCommands.sq.elCount p.evCommands.sq.head 1)) (msgs.length + 1) := by
        rw [hevc]
        exact hleft
      obtain ⟨q, j, hloop, hj, hqhead⟩ := @FwLeft.loop ω handle (msgs.length + 1) _ _ fuel hleft'
        (by simpa using hfuel)
      refine ⟨q, j + 1, ?_, Nat.succ_pos j, by simpa using hj, ?_⟩
      · rw [bceVhciHandleFirmwareEventsLoop, hround]
        exact hloop
      · rw [hqhead, hevc]
        show advance (bceNotifySubmissionComplete (bceNotifySubmissionComplete sq)).elCount
          (bceNotifySubmissionComplete (bceNotifySubmissionComplete sq)).head _ = _
        rw [bceNotifySubmissionComplete_head, bceNotifySubmissionComplete_elCount,
          bceNotifySubmissionComplete_head, bceNotifySubmissionComplete_elCount, hn, hh]
        show advance _ (advance _ (advance _ p.evCommands.sq.head 1) 1) _ = _
        rw [advance_advance, advance_advance, List.length_cons, List.length_cons,
          show 1 + (1 + (msgs.length + 1 + j)) = msgs.length + 1 + 1 + (j + 1) by omega]
    · -- this message is taken as it should; the pair is further on
      have hrest : ¬NoCancelledPair (m2 :: msgs) := fun h =>
        hpair (List.isChain_cons_cons.mpr ⟨hcancel, h⟩)
      have hhd : ∀ m3 ∈ (m2 :: msgs).head?, ¬m3.Cancels m := by
        intro m3 hm3
        obtain rfl : m2 = m3 := by simpa using hm3
        exact hcancel
      obtain ⟨msg2', sq, hround, hsq, hring'⟩ :=
        @round_of_execute ω handle msg2 p c held m (m2 :: msgs) hring hm hpend.second hhd
      have hevc := fwEventExecute_evCommands handle (p.setEvSq sq) m
      have hnotify : (bceNotifySubmissionComplete sq).elCount = p.evCommands.sq.elCount ∧
          (bceNotifySubmissionComplete sq).head =
            advance p.evCommands.sq.elCount p.evCommands.sq.head 1 := by
        rw [bceNotifySubmissionComplete_elCount, bceNotifySubmissionComplete_head, hsq]
        exact ⟨rfl, rfl⟩
      have hpend' : FwPending (fwEventExecute handle (p.setEvSq sq) m) (m2 :: msgs) :=
        hpend.tail hnotify.1 hnotify.2 hevc
      obtain ⟨q, j, hloop, hpos, hj, hqhead⟩ := @loop_of_cancelledPair (m2 :: msgs) msg2'
        (fwEventExecute handle (p.setEvSq sq) m) fuel (by rw [hevc]; exact hring') hpend' hrest
        (by simpa using hfuel)
      refine ⟨q, j, ?_, hpos, Nat.le_succ_of_le hj, ?_⟩
      · rw [bceVhciHandleFirmwareEventsLoop, hround]
        exact hloop
      · rw [hqhead, hevc]
        show advance (bceNotifySubmissionComplete sq).elCount
          (bceNotifySubmissionComplete sq).head _ = _
        rw [hnotify.1, hnotify.2, advance_advance]
        show _ = advance _ _ ((m2 :: msgs).length + 1 + j)
        rw [show 1 + ((m2 :: msgs).length + j) = (m2 :: msgs).length + 1 + j by omega]

end Overrun

/-! ## The worker -/

/-- **When the worker takes each message exactly once.** Whatever messages are
pending and wherever in the ring they lie, with a free slot on `msg_system` for
every response, the worker ends; and it took each message exactly once if and
only if none is immediately followed by its own cancellation. -/
theorem fw_events_taken_iff (handle : ω → BceVhciMessage → Int × ω) (p : FwPass ω)
    (msgs : List BceVhciMessage) {c held a' b' c' held' : Nat}
    (hev : SqCredit p.evCommands.sq 0 msgs.length c held) (hpend : FwPending p msgs)
    (hsys : SqCredit p.msgSystem.sq a' b' c' held')
    (hfree : (msgs.length : Int) ≤ p.msgSystem.sq.availableCommands) :
    ∃ drained posted, bceVhciHandleFirmwareEventsW handle p = some (drained, posted) ∧
      (FwEventsTaken handle msgs p drained posted ↔ NoCancelledPair msgs) := by
  have hlen := hev.occupied_lt
  by_cases hpair : NoCancelledPair msgs
  · have htail : p.msgSystem.sq.tail < p.msgSystem.sq.elCount := by
      rw [hsys.tail]
      exact advance_lt hsys.elCount_pos
    obtain ⟨q, hloop, hdrained, hcredit⟩ := @loop_of_noCancelledPair ω handle c held msgs none
      { p with cnt := 0 } (p.evCommands.sq.elCount + 1) (.idle hev) hpend hpair hfree htail
      (by omega)
    refine ⟨q, _, by rw [bceVhciHandleFirmwareEventsW, hloop]; rfl, fun _ => hpair, fun _ => ?_⟩
    obtain ⟨hn, htl, hdata, hdma⟩ := hdrained.buffers
    have hcnt : q.cnt = msgs.length := hdrained.cnt.trans (Nat.zero_add _)
    have hroom : (q.cnt : Int) ≤ q.evCommands.sq.availableCommands := by
      have hnonneg := hev.available_nonneg
      rw [hdrained.credit, hcnt]
      show (msgs.length : Int) ≤ p.evCommands.sq.availableCommands + msgs.length
      omega
    obtain ⟨-, havail, htail', hrung, hslots⟩ := bceVhciEventQueueSubmitPending_spec hcredit hroom
    exact {
      taken := hdrained
      head := bceVhciEventQueueSubmitPending_head _ _
      tail := by rw [htail', hn, htl, hcnt]
      slots := by rw [hslots, hn, htl, hdata, hdma, hcnt]
      credit := by
        rw [havail, hdrained.credit, hcnt]
        show p.evCommands.sq.availableCommands + msgs.length - msgs.length = _
        omega
      rung := hrung }
  · obtain ⟨q, j, hloop, hpos, hj, hhead⟩ := @loop_of_cancelledPair ω handle c held msgs none
      { p with cnt := 0 } (p.evCommands.sq.elCount + 1) (.idle hev) hpend hpair (by omega)
    refine ⟨q, _, by rw [bceVhciHandleFirmwareEventsW, hloop]; rfl, fun htaken => ?_,
      fun h => absurd h hpair⟩
    have hheads := htaken.taken.head.symm.trans hhead
    rw [← advance_advance] at hheads
    -- less than a whole revolution too far
    have hzero : j = 0 := by
      refine advance_inj (advance_lt hev.elCount_pos) (by omega) hev.elCount_pos
        (hheads.symm.trans ?_)
      exact (advance_zero (advance_lt hev.elCount_pos)).symm
    omega

/-- A controller with four event slots, three of them posted from slot 2 on,
the first `k` of these completed; its handler counts the messages. -/
def fourSlotPass (data : Nat → BceVhciMessage) (k : Nat) : FwPass Nat where
  evCommands :=
    { sq :=
        { bceAllocSq 3 4 with
          head := 2
          completionCidx := 2
          completionTail := (2 + k) % 4
          tail := 1
          availableCommands := 0 }
      data := data
      dmaAddr := 0 }
  msgSystem := { sq := bceAllocSq 2 8, data := fun _ => ⟨0, 0, 0, 0⟩, dmaAddr := 0 }
  waits := []
  rest := 0
  cnt := 0
  log := []

/-- Three messages across the end of the ring. -/
theorem fw_events_taken_of_three :
    ∃ drained posted,
      bceVhciHandleFirmwareEventsW (fun w _ => (1, w + 1))
        (fourSlotPass (fun i => ⟨0x43, 0, i, 0⟩) 3) = some (drained, posted) ∧
      (FwEventsTaken (fun w _ => (1, w + 1))
        [⟨0x43, 0, 2, 0⟩, ⟨0x43, 0, 3, 0⟩, ⟨0x43, 0, 0, 0⟩]
        (fourSlotPass (fun i => ⟨0x43, 0, i, 0⟩) 3) drained posted ↔
        NoCancelledPair [⟨0x43, 0, 2, 0⟩, ⟨0x43, 0, 3, 0⟩, ⟨0x43, 0, 0, 0⟩]) := by
  have hev : SqCredit (fourSlotPass (fun i => ⟨0x43, 0, i, 0⟩) 3).evCommands.sq 0 3 0 0 :=
    ⟨by decide, by decide, by decide, by decide, by decide, by decide⟩
  have hsys : SqCredit (bceAllocSq 2 8) 0 0 0 0 := .init (by decide)
  refine fw_events_taken_iff _ _ _ hev ?_ hsys (by decide)
  intro i hi
  match i, hi with
  | 0, _ => rfl
  | 1, _ => rfl
  | 2, _ => rfl

/-- A message and its cancellation: the cancellation is executed and answered a
second time, and `head` passes a buffer that is still posted. -/
theorem fw_events_of_a_cancelled_pair :
    ∃ drained posted,
      bceVhciHandleFirmwareEventsW (fun w _ => (1, w + 1))
        (fourSlotPass (fun i => if i = 2 then ⟨0x43, 0, 7, 0⟩ else ⟨0x4043, 0, 7, 0⟩) 2) =
          some (drained, posted) ∧
      drained.log = [.answered ⟨0x8043, 4, 7, 0⟩, .executed ⟨0x4043, 0, 7, 0⟩,
        .answered ⟨0xC043, 1, 7, 0⟩] ∧
      drained.evCommands.sq.head = 1 ∧ drained.cnt = 3 ∧
      ¬FwEventsTaken (fun w _ => (1, w + 1)) [⟨0x43, 0, 7, 0⟩, ⟨0x4043, 0, 7, 0⟩]
        (fourSlotPass (fun i => if i = 2 then ⟨0x43, 0, 7, 0⟩ else ⟨0x4043, 0, 7, 0⟩) 2)
        drained posted := by
  refine ⟨_, _, rfl, by decide, by decide, by decide, fun h => ?_⟩
  have hhead := h.taken.head
  exact absurd hhead (by decide)

end BceDriver
