import BceDriver.Vhci.CommandReplies

/-!
# How a call of `bce_vhci_command_queue_execute` can go

What a call does depends on the others only through three things: whether its
reservations succeed, whether its waits time out, and what is written to its buffer.

- `ExchangeOutcome`: how one run of `__bce_vhci_command_queue_execute` goes, with the
  run for the cancellation if there is one.
- `ExchangeOutcome.execute`: what the call returns, and what it leaves in its buffer.
- `ExchangeOutcome.execute_of_writes`: after a write to the buffer, its first content makes
  no difference; `execute_unwritten`, `execute_mismatched`: without one, or if the last is
  no reply to the request, the call fails.
-/

namespace BceDriver

/-! ## Outcomes -/

/-- A write to the buffer of a call. -/
inductive CommandWrite where
  /-- by `bce_vhci_command_queue_deliver_completion` -/
  | delivered (msg : BceVhciMessage)
  /-- by `bce_vhci_command_queue_destroy` -/
  | aborted
deriving DecidableEq, Repr

def CommandWrite.msg : CommandWrite → BceVhciMessage
  | .delivered msg => msg
  | .aborted => abortMessage

/-- The message answers the request: `__bce_vhci_command_queue_execute` reports no desync. -/
def BceVhciMessage.Replies (msg req : BceVhciMessage) : Prop :=
  msg.cmd &&& 0x3FFF = req.cmd &&& 0xBFFF

instance (msg req : BceVhciMessage) : Decidable (msg.Replies req) :=
  inferInstanceAs (Decidable (_ = _))

/-- How a run of `__bce_vhci_command_queue_execute` goes. -/
inductive ExchangeOutcome where
  /-- `bce_reserve_submission` fails -/
  | refused
  /-- the wait returns with time left -/
  | answered (w : CommandWrite)
  /-- the wait times out; `late` is written before `completion_lock` is taken, and
  `cancellation` is how the cancellation goes, where there is one -/
  | timedOut (late : Option CommandWrite) (cancellation : ExchangeOutcome)
deriving DecidableEq, Repr

/-- The content of a buffer after some writes. -/
def lastWritten (ws : List CommandWrite) (res : BceVhciMessage) : BceVhciMessage :=
  (ws.getLast?.map CommandWrite.msg).getD res

/-- The request `bce_vhci_command_queue_cancel` sends. -/
def cancelRequest (req : BceVhciMessage) : BceVhciMessage :=
  { req with cmd := req.cmd ||| 0x4000 }

/-- What `bce_vhci_command_queue_cancel` makes of the exchange it starts. -/
def bceVhciCommandQueueCancel (r : Int × BceVhciMessage) : Int × BceVhciMessage :=
  if r.1 = -ETIMEDOUT then (-ETIMEDOUT, r.2)
  else if r.2.cmd &&& 0x4000 = 0 then r
  else (-ETIMEDOUT, r.2)

/-- `__bce_vhci_command_queue_execute`: the status, and what is in the buffer. -/
def ExchangeOutcome.execute :
    ExchangeOutcome → BceVhciMessage → BceVhciMessage → Int × BceVhciMessage
  | .refused, _, res => (-EAGAIN, res)
  | .answered w, req, _ => (commandReplyStatus req w.msg, w.msg)
  | .timedOut late o, req, res =>
    if req.cmd &&& 0x4000 = 0 then
      bceVhciCommandQueueCancel (o.execute (cancelRequest req) (lastWritten late.toList res))
    else (-ETIMEDOUT, lastWritten late.toList res)

/-- The writes to the buffer. -/
def ExchangeOutcome.writes : ExchangeOutcome → BceVhciMessage → List CommandWrite
  | .refused, _ => []
  | .answered w, _ => [w]
  | .timedOut late o, req =>
    late.toList ++ if req.cmd &&& 0x4000 = 0 then o.writes (cancelRequest req) else []

/-! ## What a call leaves -/

section Outcome

variable {req res : BceVhciMessage} {ws ws' : List CommandWrite}

@[simp] theorem lastWritten_nil : lastWritten [] res = res := rfl

@[simp] theorem lastWritten_concat {w : CommandWrite} : lastWritten (ws ++ [w]) res = w.msg := by
  simp [lastWritten]

theorem lastWritten_append :
    lastWritten (ws ++ ws') res = lastWritten ws' (lastWritten ws res) := by
  unfold lastWritten
  rw [List.getLast?_append]
  cases ws'.getLast? with
  | none | some => rfl

theorem cancelRequest_cmd : (cancelRequest req).cmd &&& 0x4000 ≠ 0 := by
  show (req.cmd ||| 0x4000) &&& 0x4000 ≠ 0
  rw [Nat.and_or_distrib_right]
  simp

theorem bceVhciCommandQueueCancel_snd {r : Int × BceVhciMessage} :
    (bceVhciCommandQueueCancel r).2 = r.2 := by
  unfold bceVhciCommandQueueCancel
  split
  · rfl
  · split <;> rfl

/-- The cancellation reports no success of its own. -/
theorem bceVhciCommandQueueCancel_neg {r : Int × BceVhciMessage} (h : r.1 < 0) :
    (bceVhciCommandQueueCancel r).1 < 0 := by
  have hcode : -ETIMEDOUT < 0 := by decide
  unfold bceVhciCommandQueueCancel
  split
  · exact hcode
  · split
    · exact h
    · exact hcode

/-- The buffer holds what was written last. -/
theorem ExchangeOutcome.execute_snd (o : ExchangeOutcome) (req res : BceVhciMessage) :
    (o.execute req res).2 = lastWritten (o.writes req) res := by
  induction o generalizing req res with
  | refused | answered => rfl
  | timedOut late o ih =>
    unfold execute writes
    split
    · rw [bceVhciCommandQueueCancel_snd, ih, lastWritten_append]
    · rw [List.append_nil]

/-- Once the buffer is written, its first content makes no difference. -/
theorem ExchangeOutcome.execute_of_writes (o : ExchangeOutcome) {req : BceVhciMessage}
    (h : o.writes req ≠ []) (res res' : BceVhciMessage) :
    o.execute req res = o.execute req res' := by
  induction o generalizing req res res' with
  | refused => exact absurd rfl h
  | answered => rfl
  | timedOut late o ih =>
    unfold execute
    unfold writes at h
    cases late with
    | some w => rfl
    | none =>
      split
      · next hcmd =>
        rw [if_pos hcmd] at h
        rw [ih h]
      · next hcmd =>
        rw [if_neg hcmd] at h
        exact absurd rfl h

/-- A call whose buffer is not written fails with an `errno`. -/
theorem ExchangeOutcome.execute_unwritten (o : ExchangeOutcome) {req : BceVhciMessage}
    (h : o.writes req = []) (res : BceVhciMessage) : (o.execute req res).1 < 0 := by
  induction o generalizing req res with
  | refused => exact (by decide : -EAGAIN < 0)
  | answered => cases h
  | timedOut late o ih =>
    unfold writes at h
    unfold execute
    obtain ⟨-, h⟩ := List.append_eq_nil_iff.mp h
    split
    · next hcmd =>
      rw [if_pos hcmd] at h
      exact bceVhciCommandQueueCancel_neg (ih h _)
    · exact (by decide : -ETIMEDOUT < 0)

theorem cancelRequest_opcode : (cancelRequest req).cmd &&& 0xBFFF = req.cmd &&& 0xBFFF := by
  show (req.cmd ||| 0x4000) &&& 0xBFFF = _
  rw [Nat.and_or_distrib_right]
  simp

/-- What a cancellation is answered with answers the request. -/
theorem replies_cancelRequest {msg : BceVhciMessage} :
    msg.Replies (cancelRequest req) ↔ msg.Replies req := by
  unfold BceVhciMessage.Replies
  rw [cancelRequest_opcode]

/-- So does one whose buffer is written last with a message that is no reply. -/
theorem ExchangeOutcome.execute_mismatched (o : ExchangeOutcome) {req : BceVhciMessage}
    {w : CommandWrite} (h : (o.writes req).getLast? = some w) (hw : ¬w.msg.Replies req)
    (res : BceVhciMessage) : (o.execute req res).1 < 0 := by
  induction o generalizing req res with
  | refused => cases h
  | answered w' =>
    obtain rfl : w' = w := by simpa [writes] using h
    have hstatus : commandReplyStatus req w'.msg = - EIO := if_pos hw
    show commandReplyStatus req w'.msg < 0
    rw [hstatus]
    decide
  | timedOut late o ih =>
    unfold writes at h
    unfold execute
    split
    · next hcmd =>
      rw [if_pos hcmd] at h
      refine bceVhciCommandQueueCancel_neg ?_
      by_cases hnone : o.writes (cancelRequest req) = []
      · exact o.execute_unwritten hnone _
      · rw [List.getLast?_append_of_ne_nil _ hnone] at h
        exact ih h (fun hreply => hw (replies_cancelRequest.mp hreply)) _
    · exact (by decide : -ETIMEDOUT < 0)

end Outcome

end BceDriver
