import BceDriver.Vhci.Transfer

/-!
# What a URB handler does

Each handler of `transfer.c` that works on one URB, said once: the outcomes it
can have, each with the state it leaves. Everything later about transfer queues
goes through these and never unfolds a handler again.

- `UpdateEffect`: a message (`bce_vhci_urb_update`);
- `CompletionEffect`: a completion (`bce_vhci_urb_transfer_completion`);
- `InitEffect`, `ResumeEffect`: starting and restarting.
-/

namespace BceDriver

open FaultState

/-! ## Rules for the primitives -/

section Primitives

variable {E : Fault → Prop} {q : BceVhciTransferQueue}

theorem wp_readVurb {urb : Nat} {Q : BceVhciUrb → BceVhciTransferQueue → Prop} :
    wp (readVurb urb) E Q q ↔
      match q.vurbs urb with
      | some v => Q v q
      | none => E .useAfterFree := by
  unfold wp readVurb
  rw [StateT.run]
  cases q.vurbs urb with
  | some v => rfl
  | none => rfl

theorem wp_modifyVurb {urb : Nat} {f : BceVhciUrb → BceVhciUrb}
    {Q : PUnit → BceVhciTransferQueue → Prop} :
    wp (modifyVurb urb f) E Q q ↔
      match q.vurbs urb with
      | some v => Q ⟨⟩ (q.setVurb urb (f v))
      | none => E .useAfterFree := by
  unfold wp modifyVurb
  rw [StateT.run]
  cases q.vurbs urb with
  | some v => rfl
  | none => rfl

theorem wp_kfreeVurb {urb : Nat} {Q : PUnit → BceVhciTransferQueue → Prop} :
    wp (kfreeVurb urb) E Q q ↔
      match q.vurbs urb with
      | some _ => Q ⟨⟩ { q with vurbs := Function.update q.vurbs urb none }
      | none => E .useAfterFree := by
  unfold wp kfreeVurb
  rw [StateT.run]
  cases q.vurbs urb with
  | some v => rfl
  | none => rfl

theorem wp_readHcpriv {u : Nat} {Q : Nat → BceVhciTransferQueue → Prop} :
    wp (readHcpriv u) E Q q ↔
      match (q.urbs u).hcpriv with
      | some urb => Q urb q
      | none => E .nullDeref := by
  unfold wp readHcpriv
  rw [StateT.run]
  cases (q.urbs u).hcpriv with
  | some urb => rfl
  | none => rfl

theorem wp_submitTransferSq {d : DmaDataDirection} {e : TransferElement}
    {Q : PUnit → BceVhciTransferQueue → Prop} :
    wp (submitTransferSq d e) E Q q ↔
      match q.sqs d with
      | some t => Q ⟨⟩ (q.setSq d (t.submit e))
      | none => E .nullDeref := by
  unfold wp submitTransferSq
  rw [StateT.run]
  cases q.sqs d with
  | some t => rfl
  | none => rfl

theorem wp_notifyTransferSq {d : DmaDataDirection} {Q : PUnit → BceVhciTransferQueue → Prop} :
    wp (notifyTransferSq d) E Q q ↔
      match q.sqs d with
      | some t => Q ⟨⟩ (q.setSq d { t with sq := bceNotifySubmissionComplete t.sq })
      | none => E .nullDeref := by
  unfold wp notifyTransferSq
  rw [StateT.run]
  cases q.sqs d with
  | some t => rfl
  | none => rfl

theorem wp_usbHcdUnlinkUrbFromEp {u : Nat} {Q : PUnit → BceVhciTransferQueue → Prop} :
    wp (usbHcdUnlinkUrbFromEp u) E Q q ↔ Q ⟨⟩ { q with urbList := q.urbList.erase u } := Iff.rfl

theorem wp_requestReset {Q : PUnit → BceVhciTransferQueue → Prop} :
    wp bceVhciTransferQueueRequestReset E Q q ↔ Q ⟨⟩ { q with resetQueued := true } := Iff.rfl

end Primitives

/-! ## Reading a queue after a write -/

namespace BceVhciTransferQueue

variable (q : BceVhciTransferQueue) (urb u : Nat) (v : BceVhciUrb) (x : Urb)
  (d : DmaDataDirection) (t : TransferSq)

@[simp] theorem setVurb_vurbs :
    (q.setVurb urb v).vurbs = Function.update q.vurbs urb (some v) := rfl
@[simp] theorem setVurb_urbs : (q.setVurb urb v).urbs = q.urbs := rfl
@[simp] theorem setVurb_sqs : (q.setVurb urb v).sqs = q.sqs := rfl
@[simp] theorem setVurb_urbList : (q.setVurb urb v).urbList = q.urbList := rfl
@[simp] theorem setVurb_evq : (q.setVurb urb v).evq = q.evq := rfl
@[simp] theorem setVurb_givebackUrbList :
    (q.setVurb urb v).givebackUrbList = q.givebackUrbList := rfl
@[simp] theorem setUrb_vurbs : (q.setUrb u x).vurbs = q.vurbs := rfl
@[simp] theorem setUrb_urbs : (q.setUrb u x).urbs = Function.update q.urbs u x := rfl
@[simp] theorem setUrb_sqs : (q.setUrb u x).sqs = q.sqs := rfl
@[simp] theorem setUrb_urbList : (q.setUrb u x).urbList = q.urbList := rfl
@[simp] theorem setUrb_evq : (q.setUrb u x).evq = q.evq := rfl
@[simp] theorem setUrb_givebackUrbList : (q.setUrb u x).givebackUrbList = q.givebackUrbList := rfl
@[simp] theorem setUrb_nextVurb : (q.setUrb u x).nextVurb = q.nextVurb := rfl
@[simp] theorem setSq_vurbs : (q.setSq d t).vurbs = q.vurbs := rfl
@[simp] theorem setSq_urbs : (q.setSq d t).urbs = q.urbs := rfl
@[simp] theorem setSq_sqs : (q.setSq d t).sqs = Function.update q.sqs d (some t) := rfl
@[simp] theorem setSq_urbList : (q.setSq d t).urbList = q.urbList := rfl
@[simp] theorem setSq_evq : (q.setSq d t).evq = q.evq := rfl
@[simp] theorem setSq_givebackUrbList : (q.setSq d t).givebackUrbList = q.givebackUrbList := rfl

/-- The queue with what it shares with the other endpoints replaced. -/
def setAsync (q : BceVhciTransferQueue) (m : BceVhciMessageQueue) (w : List Wakeup) :
    BceVhciTransferQueue :=
  { q with msgAsynchronous := m, asyncWaits := w }

variable (m : BceVhciMessageQueue) (w : List Wakeup)

@[simp] theorem setAsync_vurbs : (q.setAsync m w).vurbs = q.vurbs := rfl
@[simp] theorem setAsync_urbs : (q.setAsync m w).urbs = q.urbs := rfl
@[simp] theorem setAsync_sqs : (q.setAsync m w).sqs = q.sqs := rfl
@[simp] theorem setAsync_urbList : (q.setAsync m w).urbList = q.urbList := rfl
@[simp] theorem setAsync_evq : (q.setAsync m w).evq = q.evq := rfl
@[simp] theorem setAsync_givebackUrbList :
    (q.setAsync m w).givebackUrbList = q.givebackUrbList := rfl

theorem setSq_self {q : BceVhciTransferQueue} {d : DmaDataDirection} {t : TransferSq}
    (h : q.sqs d = some t) : q.setSq d t = q := by
  unfold setSq
  rw [← h, Function.update_eq_self]

/-! ## Ending a URB -/

/-- The queue once the URB at `u`, with its `bce_vhci_urb` at `urb`, is completed. -/
def complete (q : BceVhciTransferQueue) (urb u : Nat) (status : Int) : BceVhciTransferQueue :=
  { q with
    urbList := q.urbList.erase u
    urbs := Function.update q.urbs u { q.urbs u with hcpriv := none, status := status }
    vurbs := Function.update q.vurbs urb none
    givebackUrbList := q.givebackUrbList ++ [u] }

/-- A control transfer failed. -/
def stall (q : BceVhciTransferQueue) : BceVhciTransferQueue :=
  { q with active := false, stalled := true }

/-- The queue once the control URB at `u` ended with the status it received. -/
def settle (q : BceVhciTransferQueue) (urb u receivedStatus : Nat) : BceVhciTransferQueue :=
  if receivedStatus ≠ BCE_VHCI_SUCCESS then
    let q := q.stall.complete urb u (-EPIPE)
    { q with resetQueued := q.resetQueued || !q.urbList.isEmpty }
  else
    q.complete urb u 0

/-- What was last written to a freed `bce_vhci_urb` does not matter. -/
@[simp] theorem complete_setVurb (u : Nat) (status : Int) :
    (q.setVurb urb v).complete urb u status = q.complete urb u status := by
  simp [complete, setVurb]

@[simp] theorem stall_setVurb : (q.setVurb urb v).stall = q.stall.setVurb urb v := rfl

@[simp] theorem settle_setVurb (u s : Nat) :
    (q.setVurb urb v).settle urb u s = q.settle urb u s := by
  simp only [settle, stall_setVurb, complete_setVurb]

end BceVhciTransferQueue

/-- The received status ends the URB in the state it is in. -/
def BceVhciUrb.Settled (v : BceVhciUrb) : Prop :=
  v.receivedStatus ≠ 0 ∧
    (v.state = .dataTransferComplete ∨
      (v.receivedStatus ≠ BCE_VHCI_SUCCESS ∧ v.state ≠ .controlWaitingForSetupRequest ∧
        v.state ≠ .controlWaitingForSetupCompletion))

instance (v : BceVhciUrb) : Decidable v.Settled := inferInstanceAs (Decidable (_ ∧ _))

section Ending

variable {E : Fault → Prop} {q : BceVhciTransferQueue} {urb : Nat} {v : BceVhciUrb}

theorem wp_complete (hv : q.vurbs urb = some v) (status : Int)
    {Q : PUnit → BceVhciTransferQueue → Prop} :
    wp (bceVhciUrbComplete urb status) E Q q ↔ Q ⟨⟩ (q.complete urb v.urb status) := by
  simp only [bceVhciUrbComplete, wp_bind, wp_readVurb, hv, wp_usbHcdUnlinkUrbFromEp, wp_modify,
    wp_kfreeVurb, BceVhciTransferQueue.setUrb]
  rfl

theorem wp_checkStatus (hv : q.vurbs urb = some v) {Q : Int → BceVhciTransferQueue → Prop} :
    wp (bceVhciUrbControlCheckStatus urb) E Q q ↔
      if v.Settled then Q (-ENOENT) (q.settle urb v.urb v.receivedStatus) else Q 0 q := by
  simp only [bceVhciUrbControlCheckStatus, wp_bind, wp_readVurb, hv]
  by_cases h0 : v.receivedStatus = 0
  · rw [if_pos h0, if_neg fun h : v.Settled => h.1 h0]
    exact wp_pure
  rw [if_neg h0]
  by_cases h1 : v.state = .dataTransferComplete ∨
      (v.receivedStatus ≠ BCE_VHCI_SUCCESS ∧ v.state ≠ .controlWaitingForSetupRequest ∧
        v.state ≠ .controlWaitingForSetupCompletion)
  · have hv' : (q.setVurb urb { v with state := .controlComplete }).vurbs urb =
        some { v with state := .controlComplete } := Function.update_self ..
    have hsettled : v.Settled := ⟨h0, h1⟩
    rw [if_pos h1, if_pos hsettled, wp_bind, wp_modifyVurb]
    simp only [hv]
    rw [← BceVhciTransferQueue.settle_setVurb q urb { v with state := .controlComplete },
      BceVhciTransferQueue.settle]
    by_cases hs : v.receivedStatus ≠ BCE_VHCI_SUCCESS
    · rw [if_pos hs, if_pos hs, wp_bind, wp_modify, wp_bind]
      have hv'' : (q.setVurb urb { v with state := .controlComplete }).stall.vurbs urb =
          some { v with state := .controlComplete } := hv'
      refine (wp_complete hv'' (-EPIPE)).trans ?_
      rw [wp_bind, wp_get]
      generalize ((q.setVurb urb _).stall.complete urb v.urb (-EPIPE)) = c
      cases hl : c.urbList with
      | nil =>
        have hreset : (c.resetQueued || !c.urbList.isEmpty) = c.resetQueued := by simp [hl]
        rw [if_neg (not_not_intro rfl), wp_pure]
        dsimp only
        rw [hreset]
      | cons u us =>
        rw [if_pos (List.cons_ne_nil u us), wp_bind, wp_requestReset, wp_pure]
        simp [hl]
    · rw [if_neg hs, if_neg hs, wp_bind, wp_complete hv', wp_pure]
  · rw [if_neg h1, if_neg fun h : v.Settled => h1 h.2]
    exact wp_pure

end Ending

/-! ## Submitting an element -/

/-- Reserve a slot for one element and submit it. -/
def TransferSq.put (t : TransferSq) (e : TransferElement) : TransferSq :=
  { t with sq := { t.sq with availableCommands := t.sq.availableCommands - 1 } }.submit e

/-- Only the bookkeeping of the waits for a slot of `t` changed. -/
def TransferSq.Waited (t t' : TransferSq) : Prop :=
  ∃ tokens waiting, t' = { t with sq := { t.sq with
    availableCommandCompletion := tokens
    availableCommandCompletionWaitingCount := waiting } }

theorem TransferSq.Waited.refl (t : TransferSq) : t.Waited t :=
  ⟨t.sq.availableCommandCompletion, t.sq.availableCommandCompletionWaitingCount, rfl⟩

/-- Only `msg_asynchronous`, and the bookkeeping of waits, changed: what is left
of a submission that failed. -/
structure Waited (q q' : BceVhciTransferQueue) : Prop where
  frame : q' = { q with
    sqs := q'.sqs, msgAsynchronous := q'.msgAsynchronous, asyncWaits := q'.asyncWaits }
  none_iff : ∀ d, q'.sqs d = none ↔ q.sqs d = none
  sqs : ∀ d t t', q.sqs d = some t → q'.sqs d = some t' → t.Waited t'

/-- The element `bce_vhci_urb_data_transfer_in` submits. -/
def inElement (q : BceVhciTransferQueue) (urb : Nat) (v : BceVhciUrb) : TransferElement :=
  let u := q.urbs v.urb
  ⟨urb, .data, u.transferDma + v.receiveOffset,
    (u.transferBufferLength + 2 ^ 32 - v.receiveOffset) % 2 ^ 32⟩

/-- What reserving a slot of `msg_asynchronous` is going to return. -/
def asyncReservation (timeout : Nat) (q : BceVhciTransferQueue) : Int :=
  (bceReserveSubmissionThrough q.asyncWaits
    (bceReserveSubmission q.msgAsynchronous.sq timeout) timeout).1

theorem asyncReservation_of_pos (h : 0 < q.msgAsynchronous.sq.availableCommands) (timeout : Nat) :
    asyncReservation timeout q = 0 := by
  unfold asyncReservation
  rw [bceReserveSubmission_of_pos h, bceReserveSubmissionThrough_returned]

/-- A slot of `msg_asynchronous` and one of `sq_in` can be reserved. -/
def CanStartIn (timeout : Nat) (q : BceVhciTransferQueue) : Prop :=
  asyncReservation timeout q = 0 ∧ ∃ t ∈ q.sqs .fromDevice, 0 < t.sq.availableCommands

instance (timeout : Nat) (q : BceVhciTransferQueue) : Decidable (CanStartIn timeout q) :=
  inferInstanceAs (Decidable (_ ∧ _))

/-- The data of a device-to-host URB is asked for: an element on `sq_in`. -/
structure StartedIn (timeout : Nat) (q : BceVhciTransferQueue) (urb : Nat) (v : BceVhciUrb)
    (q' : BceVhciTransferQueue) : Prop where
  can : CanStartIn timeout q
  slot : ∃ t, q.sqs .fromDevice = some t ∧ 0 < t.sq.availableCommands ∧
    q' = ((q.setSq .fromDevice (t.put (inElement q urb v))).setVurb urb
      { v with sendOffset := v.receiveOffset, state := .waitingForCompletion }).setAsync
        q'.msgAsynchronous q'.asyncWaits
  async : 0 < q.msgAsynchronous.sq.availableCommands →
    q'.msgAsynchronous.sq.availableCommands = q.msgAsynchronous.sq.availableCommands - 1

/-- There is no slot to ask for the data with. -/
structure StartFailed (timeout : Nat) (q q' : BceVhciTransferQueue) : Prop where
  cannot : asyncReservation timeout q ≠ 0 ∨
    ∃ t, q.sqs .fromDevice = some t ∧ t.sq.availableCommands ≤ 0
  waited : Waited q q'

section Submitting

variable {E : Fault → Prop} {q : BceVhciTransferQueue} {urb : Nat} {v : BceVhciUrb}

/-- A reservation that fails leaves nothing but bookkeeping behind. -/
theorem bceReserveSubmissionThrough_nil_of_le {sq : BceQueueSq} (h : sq.availableCommands ≤ 0)
    (timeout : Nat) :
    let r := bceReserveSubmissionThrough [] (bceReserveSubmission sq timeout) timeout
    r.1 = -EAGAIN ∧ ∃ tokens waiting, r.2.1 = { sq with
      availableCommandCompletion := tokens
      availableCommandCompletionWaitingCount := waiting } := by
  rcases bceReserveSubmission_cases sq timeout with ⟨hpos, -⟩ | ⟨-, -, hr⟩ | ⟨-, -, hr⟩
  · omega
  · rw [hr, bceReserveSubmissionThrough_returned]
    exact ⟨rfl, _, _, rfl⟩
  · rw [hr]
    have hwake : ∃ tokens waiting, bceReserveSubmissionWake
        { sq with availableCommandCompletionWaitingCount :=
            sq.availableCommandCompletionWaitingCount + 1 } 0 =
        (.returned (-EAGAIN), { sq with
          availableCommandCompletion := tokens
          availableCommandCompletionWaitingCount := waiting }) := by
      unfold bceReserveSubmissionWake
      rw [if_pos rfl]
      dsimp only
      split
      · exact ⟨_, _, bceReserveSubmission_zero_of_le h⟩
      · exact ⟨_, _, bceReserveSubmission_zero_of_le h⟩
    obtain ⟨tokens, waiting, hwake⟩ := hwake
    unfold bceReserveSubmissionThrough
    rw [hwake]
    exact ⟨rfl, tokens, waiting, rfl⟩

theorem wp_reserveTransferSq {d : DmaDataDirection} {t : TransferSq} (ht : q.sqs d = some t)
    (timeout : Nat) {Q : Int → BceVhciTransferQueue → Prop}
    (hok : 0 < t.sq.availableCommands →
      Q 0 (q.setSq d { t with sq :=
        { t.sq with availableCommands := t.sq.availableCommands - 1 } }))
    (hfail : ∀ t', t.sq.availableCommands ≤ 0 → t.Waited t' → Q (-EAGAIN) (q.setSq d t')) :
    wp (reserveTransferSq d timeout) E Q q := by
  unfold wp reserveTransferSq
  rw [StateT.run, ht]
  dsimp only
  rcases Int.lt_or_le 0 t.sq.availableCommands with h | h
  · rw [bceReserveSubmission_of_pos h, bceReserveSubmissionThrough_returned]
    exact hok h
  · obtain ⟨hstatus, tokens, waiting, hsq⟩ := bceReserveSubmissionThrough_nil_of_le h timeout
    rw [hstatus, hsq]
    exact hfail _ h ⟨tokens, waiting, rfl⟩

theorem wp_reserveTransferSq_none {d : DmaDataDirection} (hd : q.sqs d = none)
    (hE : E .nullDeref) (timeout : Nat) {Q : Int → BceVhciTransferQueue → Prop} :
    wp (reserveTransferSq d timeout) E Q q := by
  unfold wp reserveTransferSq
  rw [StateT.run, hd]
  exact hE

theorem wp_reserveMsgAsynchronous (timeout : Nat) {Q : Int × Nat → BceVhciTransferQueue → Prop}
    (h : ∀ r m w, r.1 = asyncReservation timeout q →
      (0 < q.msgAsynchronous.sq.availableCommands →
        m.sq.availableCommands = q.msgAsynchronous.sq.availableCommands - 1) →
      Q r (q.setAsync m w)) :
    wp (reserveMsgAsynchronous timeout) E Q q := by
  refine h _ _ _ rfl fun hpos => ?_
  rw [bceReserveSubmission_of_pos hpos, bceReserveSubmissionThrough_returned]

theorem Waited.of_async (q : BceVhciTransferQueue) (m : BceVhciMessageQueue) (w : List Wakeup) :
    Waited q (q.setAsync m w) where
  frame := rfl
  none_iff := fun _ => Iff.rfl
  sqs := by
    intro d t t' ht ht'
    obtain rfl : t = t' := Option.some.inj (ht.symm.trans ht')
    exact .refl t

theorem Waited.of_setSq {d : DmaDataDirection} {t t' : TransferSq} (ht : q.sqs d = some t)
    (h : t.Waited t') (m : BceVhciMessageQueue) (w : List Wakeup) :
    Waited q ((q.setSq d t').setAsync m w) where
  frame := rfl
  none_iff := by
    intro d'
    by_cases hd : d' = d
    · subst hd
      simp [ht]
    · simp [hd]
  sqs := by
    intro d' t₁ t₂ h₁ h₂
    by_cases hd : d' = d
    · subst hd
      obtain rfl : t = t₁ := Option.some.inj (ht.symm.trans h₁)
      obtain rfl : t' = t₂ := by simpa using h₂
      exact h
    · obtain rfl : t₁ = t₂ := by simpa [hd, h₁] using h₂
      exact .refl t₁

/-- `bce_vhci_urb_data_transfer_in` submits the element, or leaves nothing behind. -/
theorem dataTransferIn_spec (hv : q.vurbs urb = some v) (timeout : Nat)
    (hE : asyncReservation timeout q = 0 → q.sqs .fromDevice = none → E .nullDeref) :
    wp (bceVhciUrbDataTransferIn urb timeout) E
      (fun r q' => (r = 0 ∧ StartedIn timeout q urb v q') ∨
        (r = -ENOMEM ∧ StartFailed timeout q q')) q := by
  unfold bceVhciUrbDataTransferIn
  rw [wp_bind]
  refine wp_reserveMsgAsynchronous timeout fun r m w hr hm => ?_
  rw [wp_ite]
  refine ⟨fun hne => wp_pure.mpr (.inr ⟨rfl, .inl (hr ▸ hne), .of_async q m w⟩), fun hzero => ?_⟩
  rw [wp_bind]
  cases ht : q.sqs .fromDevice with
  | none =>
    exact wp_reserveTransferSq_none (q := q.setAsync m w) ht (hE (hr ▸ not_not.mp hzero) ht) _
  | some t =>
    refine wp_reserveTransferSq (q := q.setAsync m w) ht _ (fun hpos => ?_) (fun t' hle ht' => ?_)
    · rw [if_neg (not_not_intro rfl)]
      simp only [wp_bind, wp_modifyVurb, wp_readVurb, wp_get, writeMsgAsynchronous, wp_modify,
        wp_submitTransferSq, wp_pure, BceVhciTransferQueue.setSq, BceVhciTransferQueue.setVurb,
        BceVhciTransferQueue.setAsync, hv, Function.update_self]
      have hcan : CanStartIn timeout q := ⟨hr ▸ not_not.mp hzero, t, ht, hpos⟩
      refine .inl ⟨trivial, hcan, ⟨t, ht, hpos, ?_⟩, hm⟩
      simp [BceVhciTransferQueue.setSq, BceVhciTransferQueue.setVurb,
        BceVhciTransferQueue.setAsync, TransferSq.put, inElement]
    · rw [if_pos (by decide)]
      exact .inr ⟨rfl, .inr ⟨t, ht, hle⟩, .of_setSq ht ht' _ w⟩

/-- Without a wait, a reservation that fails changes nothing. -/
theorem wp_reserveTransferSq_zero {d : DmaDataDirection} {t : TransferSq}
    (ht : q.sqs d = some t) {Q : Int → BceVhciTransferQueue → Prop}
    (hok : 0 < t.sq.availableCommands →
      Q 0 (q.setSq d { t with sq :=
        { t.sq with availableCommands := t.sq.availableCommands - 1 } }))
    (hfail : t.sq.availableCommands ≤ 0 → Q (-EAGAIN) q) :
    wp (reserveTransferSq d 0) E Q q := by
  unfold wp reserveTransferSq
  rw [StateT.run, ht]
  dsimp only
  rcases Int.lt_or_le 0 t.sq.availableCommands with h | h
  · rw [bceReserveSubmission_of_pos h, bceReserveSubmissionThrough_returned]
    exact hok h
  · rw [bceReserveSubmission_zero_of_le h, bceReserveSubmissionThrough_returned]
    show Q (-EAGAIN) (q.setSq d t)
    rw [BceVhciTransferQueue.setSq_self ht]
    exact hfail h

/-- `bce_vhci_urb_send_out_data` submits the element if a slot is free. -/
theorem wp_sendOutData {t : TransferSq} (ht : q.sqs .toDevice = some t) {kind : ElementKind}
    {addr size : Nat} {Q : Int → BceVhciTransferQueue → Prop}
    (hok : 0 < t.sq.availableCommands →
      Q 0 (q.setSq .toDevice (t.put ⟨urb, kind, addr, size⟩)))
    (hfull : t.sq.availableCommands ≤ 0 → Q (-EPIPE) q) :
    wp (bceVhciUrbSendOutData urb kind addr size) E Q q := by
  unfold bceVhciUrbSendOutData
  rw [wp_bind]
  refine wp_reserveTransferSq_zero ht (fun hpos => ?_) (fun hle => ?_)
  · rw [if_neg (not_not_intro rfl), wp_bind, wp_submitTransferSq]
    simp only [BceVhciTransferQueue.setSq_sqs, Function.update_self, wp_pure]
    have hq := hok hpos
    simpa [BceVhciTransferQueue.setSq, TransferSq.put] using hq
  · rw [if_pos (by decide)]
    exact wp_pure.mpr (hfull hle)

end Submitting

/-! ## Messages -/

/-- The setup packet of the URB. -/
def setupElement (q : BceVhciTransferQueue) (urb : Nat) (v : BceVhciUrb) : TransferElement :=
  ⟨urb, .setup, (q.urbs v.urb).setupDma, usbCtrlrequestSize⟩

/-- The number of bytes a transfer request of `size` bytes is answered with. -/
def outLength (q : BceVhciTransferQueue) (v : BceVhciUrb) (size : Nat) : Nat :=
  min (((q.urbs v.urb).transferBufferLength + 2 ^ 32 - v.sendOffset) % 2 ^ 32) (size % 2 ^ 32)

/-- The next window of a host-to-device URB. -/
def outElement (q : BceVhciTransferQueue) (urb : Nat) (v : BceVhciUrb) (size : Nat) :
    TransferElement :=
  ⟨urb, .data, (q.urbs v.urb).transferDma + v.sendOffset, outLength q v size⟩

/-- The URB once a window of it is sent. -/
def BceVhciUrb.sentOut (v : BceVhciUrb) (length : Nat) : BceVhciUrb :=
  { v with sendOffset := (v.sendOffset + length) % 2 ^ 32, state := .waitingForCompletion }

/-- The URB is waiting for a transfer request and nothing else. -/
def BceVhciUrb.AcceptsRequest (v : BceVhciUrb) : Prop :=
  v.state = .waitingForTransferRequest ∨
    (v.isControl = true ∧ v.state = .controlWaitingForSetupRequest)

instance (v : BceVhciUrb) : Decidable v.AcceptsRequest := inferInstanceAs (Decidable (_ ∨ _))

/-- The outcomes of a message for the URB, by the status `bce_vhci_urb_update`
returns. -/
inductive UpdateEffect (q : BceVhciTransferQueue) (urb : Nat) (v : BceVhciUrb)
    (msg : BceVhciMessage) : Int → BceVhciTransferQueue → Prop where
  /-- not now -/
  | deferred : (v.isControl = true → msg.cmd ≠ BCE_VHCI_CMD_CONTROL_TRANSFER_STATUS) →
      ¬(v.AcceptsRequest ∧ msg.cmd = BCE_VHCI_CMD_TRANSFER_REQUEST) →
      UpdateEffect q urb v msg (-EAGAIN) q
  /-- no slot on `sq_out`: the request is lost -/
  | refused {r : Int} {t : TransferSq} : r ≠ -EAGAIN → v.AcceptsRequest →
      msg.cmd = BCE_VHCI_CMD_TRANSFER_REQUEST → q.sqs .toDevice = some t →
      t.sq.availableCommands ≤ 0 → UpdateEffect q urb v msg r q
  /-- the setup packet is sent -/
  | setup {t : TransferSq} : v.isControl = true → v.state = .controlWaitingForSetupRequest →
      msg.cmd = BCE_VHCI_CMD_TRANSFER_REQUEST → q.sqs .toDevice = some t →
      0 < t.sq.availableCommands →
      UpdateEffect q urb v msg 0 ((q.setSq .toDevice (t.put (setupElement q urb v))).setVurb urb
        { v with state := .controlWaitingForSetupCompletion })
  /-- a window of the data is sent -/
  | out {t : TransferSq} : v.state = .waitingForTransferRequest →
      msg.cmd = BCE_VHCI_CMD_TRANSFER_REQUEST → q.sqs .toDevice = some t →
      0 < t.sq.availableCommands →
      (v.isControl = true → ¬(v.sentOut (outLength q v msg.param2)).Settled) →
      UpdateEffect q urb v msg 0
        ((q.setSq .toDevice (t.put (outElement q urb v msg.param2))).setVurb urb
          (v.sentOut (outLength q v msg.param2)))
  /-- a window of the data is sent, and an error status received before ends the URB -/
  | outSettled {t : TransferSq} : v.isControl = true → v.state = .waitingForTransferRequest →
      msg.cmd = BCE_VHCI_CMD_TRANSFER_REQUEST → q.sqs .toDevice = some t →
      0 < t.sq.availableCommands → (v.sentOut (outLength q v msg.param2)).Settled →
      UpdateEffect q urb v msg (-ENOENT)
        ((q.setSq .toDevice (t.put (outElement q urb v msg.param2))).settle urb v.urb
          v.receivedStatus)
  /-- the status is for later -/
  | status : v.isControl = true → msg.cmd = BCE_VHCI_CMD_CONTROL_TRANSFER_STATUS →
      ¬({ v with receivedStatus := msg.status } : BceVhciUrb).Settled →
      UpdateEffect q urb v msg 0 (q.setVurb urb { v with receivedStatus := msg.status })
  /-- the status ends the URB -/
  | settled : v.isControl = true → msg.cmd = BCE_VHCI_CMD_CONTROL_TRANSFER_STATUS →
      ({ v with receivedStatus := msg.status } : BceVhciUrb).Settled →
      UpdateEffect q urb v msg (-ENOENT) (q.settle urb v.urb msg.status)

section Update

variable {E : Fault → Prop} {q : BceVhciTransferQueue} {urb : Nat} {v : BceVhciUrb}
  {msg : BceVhciMessage}

theorem dataUpdate_spec (hv : q.vurbs urb = some v)
    (hE : v.AcceptsRequest → msg.cmd = BCE_VHCI_CMD_TRANSFER_REQUEST → q.sqs .toDevice = none →
      E .nullDeref)
    {Q : Int → BceVhciTransferQueue → Prop}
    (hdefer : ¬(v.state = .waitingForTransferRequest ∧
      msg.cmd = BCE_VHCI_CMD_TRANSFER_REQUEST) → Q (-EAGAIN) q)
    (hfull : ∀ t, v.state = .waitingForTransferRequest →
      msg.cmd = BCE_VHCI_CMD_TRANSFER_REQUEST → q.sqs .toDevice = some t →
      t.sq.availableCommands ≤ 0 → Q (-EPIPE) q)
    (hout : ∀ t, v.state = .waitingForTransferRequest →
      msg.cmd = BCE_VHCI_CMD_TRANSFER_REQUEST → q.sqs .toDevice = some t →
      0 < t.sq.availableCommands →
      Q 0 ((q.setSq .toDevice (t.put (outElement q urb v msg.param2))).setVurb urb
        (v.sentOut (outLength q v msg.param2)))) :
    wp (bceVhciUrbDataUpdate urb msg) E Q q := by
  unfold bceVhciUrbDataUpdate
  simp only [wp_bind, wp_readVurb, hv]
  rw [wp_ite]
  refine ⟨fun h => ?_, fun h => wp_pure.mpr (hdefer h)⟩
  rw [wp_bind, wp_get]
  cases ht : q.sqs .toDevice with
  | none =>
    rw [wp_bind]
    unfold bceVhciUrbSendOutData
    rw [wp_bind]
    exact wp_reserveTransferSq_none ht (hE (.inl h.1) h.2 ht) _
  | some t =>
    rw [wp_bind]
    refine wp_sendOutData ht (fun hpos => ?_) (fun hle => ?_)
    · rw [if_neg (not_not_intro rfl)]
      simp only [wp_bind, wp_modifyVurb, BceVhciTransferQueue.setSq_vurbs, hv, wp_pure]
      exact hout t h.1 h.2 ht hpos
    · rw [if_pos (by decide)]
      exact hfull t h.1 h.2 ht hle

/-- The status handler of a control URB. -/
theorem controlUpdate_status (hv : q.vurbs urb = some v) (hc : v.isControl = true)
    (hmsg : msg.cmd = BCE_VHCI_CMD_CONTROL_TRANSFER_STATUS) :
    wp (bceVhciUrbControlUpdate urb msg) E (UpdateEffect q urb v msg) q := by
  simp only [bceVhciUrbControlUpdate, wp_bind, wp_readVurb, hv]
  rw [if_pos hmsg, wp_bind, wp_modifyVurb]
  simp only [hv]
  have hv' : (q.setVurb urb { v with receivedStatus := msg.status }).vurbs urb =
      some { v with receivedStatus := msg.status } := Function.update_self ..
  rw [wp_checkStatus hv', BceVhciTransferQueue.settle_setVurb]
  split
  · exact .settled hc hmsg ‹_›
  · exact .status hc hmsg ‹_›

/-- A message for a control URB that is waiting for its setup request. -/
theorem controlUpdate_setup (hv : q.vurbs urb = some v) (hc : v.isControl = true)
    (hmsg : msg.cmd ≠ BCE_VHCI_CMD_CONTROL_TRANSFER_STATUS)
    (hstate : v.state = .controlWaitingForSetupRequest)
    (hE : v.AcceptsRequest → msg.cmd = BCE_VHCI_CMD_TRANSFER_REQUEST → q.sqs .toDevice = none →
      E .nullDeref) :
    wp (bceVhciUrbControlUpdate urb msg) E (UpdateEffect q urb v msg) q := by
  simp only [bceVhciUrbControlUpdate, wp_bind, wp_readVurb, hv]
  rw [if_neg hmsg, if_pos hstate, wp_ite]
  have haccepts : v.AcceptsRequest := .inr ⟨hc, hstate⟩
  refine ⟨fun htr => ?_, fun htr => wp_pure.mpr (.deferred (fun _ => hmsg) fun h => htr h.2)⟩
  rw [wp_bind, wp_get, wp_bind]
  cases ht : q.sqs .toDevice with
  | none =>
    unfold bceVhciUrbSendOutData
    rw [wp_bind]
    exact wp_reserveTransferSq_none ht (hE haccepts htr ht) _
  | some t =>
    refine wp_sendOutData ht (fun hpos => ?_) (fun hle => ?_)
    · rw [if_neg (not_not_intro rfl)]
      simp only [wp_bind, wp_modifyVurb, BceVhciTransferQueue.setSq_vurbs, hv, wp_pure]
      exact .setup hc hstate htr ht hpos
    · rw [if_pos (by decide)]
      exact wp_pure.mpr (.refused (by decide) haccepts htr ht hle)

/-- A message for a control URB in its data phase. -/
theorem controlUpdate_data (hv : q.vurbs urb = some v) (hc : v.isControl = true)
    (hmsg : msg.cmd ≠ BCE_VHCI_CMD_CONTROL_TRANSFER_STATUS)
    (hstate : v.state = .waitingForTransferRequest ∨ v.state = .waitingForCompletion)
    (hE : v.AcceptsRequest → msg.cmd = BCE_VHCI_CMD_TRANSFER_REQUEST → q.sqs .toDevice = none →
      E .nullDeref) :
    wp (bceVhciUrbControlUpdate urb msg) E (UpdateEffect q urb v msg) q := by
  have hsetup : v.state ≠ .controlWaitingForSetupRequest := by
    rcases hstate with h | h
    · simp [h]
    · simp [h]
  simp only [bceVhciUrbControlUpdate, wp_bind, wp_readVurb, hv]
  rw [if_neg hmsg, if_neg hsetup, if_pos hstate, wp_bind]
  refine dataUpdate_spec hv hE (fun h => ?_) (fun t h htr ht hle => ?_) (fun t h htr ht hpos => ?_)
  · rw [if_pos (by decide)]
    refine wp_pure.mpr (.deferred (fun _ => hmsg) ?_)
    rintro ⟨hacc | hacc, htr⟩
    · exact h ⟨hacc, htr⟩
    · exact hsetup hacc.2
  · rw [if_pos (by decide)]
    exact wp_pure.mpr (.refused (by decide) (.inl h) htr ht hle)
  · rw [if_neg (not_not_intro rfl)]
    -- the data is sent, then the status received before is looked at
    have hv' : ((q.setSq .toDevice (t.put (outElement q urb v msg.param2))).setVurb urb
        (v.sentOut (outLength q v msg.param2))).vurbs urb =
        some (v.sentOut (outLength q v msg.param2)) := Function.update_self ..
    rw [wp_checkStatus hv', BceVhciTransferQueue.settle_setVurb]
    split
    · exact .outSettled hc h htr ht hpos ‹_›
    · exact .out h htr ht hpos fun _ => ‹_›

/-- **A message for one URB.** -/
theorem urbUpdate_spec (hv : q.vurbs urb = some v)
    (hE : v.AcceptsRequest → msg.cmd = BCE_VHCI_CMD_TRANSFER_REQUEST → q.sqs .toDevice = none →
      E .nullDeref) :
    wp (bceVhciUrbUpdate urb msg) E (UpdateEffect q urb v msg) q := by
  simp only [bceVhciUrbUpdate, wp_bind, wp_readVurb, hv]
  by_cases hc : v.isControl = true
  · rw [if_pos hc]
    by_cases hmsg : msg.cmd = BCE_VHCI_CMD_CONTROL_TRANSFER_STATUS
    · exact controlUpdate_status hv hc hmsg
    by_cases hsetup : v.state = .controlWaitingForSetupRequest
    · exact controlUpdate_setup hv hc hmsg hsetup hE
    by_cases hdata : v.state = .waitingForTransferRequest ∨ v.state = .waitingForCompletion
    · exact controlUpdate_data hv hc hmsg hdata hE
    simp only [bceVhciUrbControlUpdate, wp_bind, wp_readVurb, hv]
    rw [if_neg hmsg, if_neg hsetup, if_neg hdata]
    -- a control URB in any other state takes no message
    refine wp_pure.mpr (.deferred (fun _ => hmsg) ?_)
    rintro ⟨hacc | hacc, -⟩
    · exact hdata (.inl hacc)
    · exact hsetup hacc.2
  · rw [if_neg hc]
    refine dataUpdate_spec hv hE (fun h => ?_) (fun t h htr ht hle => ?_)
      (fun t h htr ht hpos => ?_)
    · refine .deferred (fun h' => absurd h' hc) ?_
      rintro ⟨hacc | hacc, htr⟩
      · exact h ⟨hacc, htr⟩
      · exact hc hacc.1
    · exact .refused (by decide) (.inl h) htr ht hle
    · exact .out h htr ht hpos fun h' => absurd h' hc

end Update

/-! ## Starting and restarting -/

/-- The state a host-to-device URB starts its data phase in. -/
def outStartState (q : BceVhciTransferQueue) (v : BceVhciUrb) : BceVhciUrbState :=
  if (q.urbs v.urb).transferBufferLength > 0 then
    .waitingForTransferRequest
  else
    .dataTransferComplete

section Start

variable {E : Fault → Prop} {q : BceVhciTransferQueue} {urb : Nat} {v : BceVhciUrb}

theorem dataStart_spec (hv : q.vurbs urb = some v)
    (hE : v.dir = .fromDevice → q.sqs .fromDevice = none → E .nullDeref) (timeout : Nat)
    {Q : Int → BceVhciTransferQueue → Prop}
    (hout : v.dir = .toDevice → Q 0 (q.setVurb urb { v with state := outStartState q v }))
    (hin : ∀ q', v.dir = .fromDevice → StartedIn timeout q urb v q' → Q 0 q')
    (hfail : ∀ q', v.dir = .fromDevice → StartFailed timeout q q' → Q (-ENOMEM) q') :
    wp (bceVhciUrbDataStart urb timeout) E Q q := by
  simp only [bceVhciUrbDataStart, wp_bind, wp_readVurb, hv]
  cases hd : v.dir with
  | toDevice =>
    have hq := hout hd
    unfold outStartState at hq
    simp only [wp_bind, wp_get]
    rw [wp_ite]
    refine ⟨fun h => ?_, fun h => ?_⟩
    · rw [if_pos h] at hq
      simp only [wp_bind, wp_modifyVurb, hv, wp_pure]
      exact hq
    · rw [if_neg h] at hq
      simp only [wp_bind, wp_modifyVurb, hv, wp_pure]
      exact hq
  | fromDevice =>
    refine wp_imp (dataTransferIn_spec hv timeout fun _ => hE hd) ?_
    rintro r q' (⟨rfl, h⟩ | ⟨rfl, h⟩)
    · exact hin q' hd h
    · exact hfail q' hd h

/-- The outcomes of `bce_vhci_urb_init`, by the status it returns. -/
inductive InitEffect (q : BceVhciTransferQueue) (urb : Nat) (v : BceVhciUrb) :
    Int → BceVhciTransferQueue → Prop where
  | control : v.isControl = true →
      InitEffect q urb v 0 (q.setVurb urb { v with state := .controlWaitingForSetupRequest })
  | out : v.isControl = false → v.dir = .toDevice →
      InitEffect q urb v 0 (q.setVurb urb { v with state := outStartState q v })
  | startedIn {q' : BceVhciTransferQueue} : v.isControl = false → v.dir = .fromDevice →
      StartedIn 0 q urb v q' → InitEffect q urb v 0 q'
  | failed {q' : BceVhciTransferQueue} : v.isControl = false → v.dir = .fromDevice →
      StartFailed 0 q q' → InitEffect q urb v (-ENOMEM) q'

theorem urbInit_spec (hv : q.vurbs urb = some v)
    (hE : v.dir = .fromDevice → q.sqs .fromDevice = none → E .nullDeref) :
    wp (bceVhciUrbInit urb) E (InitEffect q urb v) q := by
  simp only [bceVhciUrbInit, wp_bind, wp_readVurb, hv]
  by_cases hc : v.isControl = true
  · rw [if_pos hc]
    simp only [wp_bind, wp_modifyVurb, hv, wp_pure]
    exact .control hc
  · rw [if_neg hc]
    have hc' : v.isControl = false := by simpa using hc
    exact dataStart_spec hv hE 0 (.out hc') (fun q' hd h => .startedIn hc' hd h)
      (fun q' hd h => .failed hc' hd h)

/-- The outcomes of `bce_vhci_urb_resume`. -/
inductive ResumeEffect (q : BceVhciTransferQueue) (urb : Nat) (v : BceVhciUrb) :
    BceVhciTransferQueue → Prop where
  | unchanged : v.state ≠ .initPaused → v.state ≠ .waitingForCompletion → ResumeEffect q urb v q
  | init {r : Int} {q' : BceVhciTransferQueue} : v.state = .initPaused → InitEffect q urb v r q' →
      ResumeEffect q urb v q'
  | restarted {q' : BceVhciTransferQueue} : v.state = .waitingForCompletion →
      StartedIn 0 q urb v q' → ResumeEffect q urb v q'
  | failed {q₁ : BceVhciTransferQueue} : v.state = .waitingForCompletion → StartFailed 0 q q₁ →
      ResumeEffect q urb v (q₁.complete urb v.urb (-ENOMEM))

theorem Waited.vurbs {q q' : BceVhciTransferQueue} (h : Waited q q') : q'.vurbs = q.vurbs := by
  rw [h.frame]

/-- **Restarting one URB.** -/
theorem urbResume_spec (hv : q.vurbs urb = some v)
    (hE : (v.state = .initPaused ∧ v.dir = .fromDevice) ∨
      (v.state = .waitingForCompletion ∧ asyncReservation 0 q = 0) →
      q.sqs .fromDevice = none → E .nullDeref) :
    wp (bceVhciUrbResume urb) E (fun _ q' => ResumeEffect q urb v q') q := by
  simp only [bceVhciUrbResume, wp_bind, wp_readVurb, hv]
  cases hs : v.state with
  | initPaused =>
    simp only [wp_bind, wp_pure]
    exact wp_imp (urbInit_spec hv fun hd => hE (.inl ⟨hs, hd⟩))
      fun r q' h => .init hs h
  | waitingForCompletion =>
    simp only [wp_bind]
    refine wp_imp (dataTransferIn_spec hv 0 fun hr => hE (.inr ⟨hs, hr⟩)) ?_
    rintro r q' (⟨rfl, h⟩ | ⟨rfl, h⟩)
    · rw [if_neg (not_not_intro rfl)]
      exact wp_pure.mpr (.restarted hs h)
    · rw [if_pos (by decide), wp_complete (h.waited.vurbs ▸ hv)]
      exact .failed hs h
  | _ => exact wp_pure.mpr (.unchanged (by simp [hs]) (by simp [hs]))

end Start

/-! ## Completions -/

/-- The count of bytes received once the completion is added. -/
def BceVhciUrb.received (v : BceVhciUrb) (c : BceSqCompletionData) : Nat :=
  (v.receiveOffset + c.dataSize) % 2 ^ 32

/-- The completion ends the data phase. -/
def DataDone (q : BceVhciTransferQueue) (v : BceVhciUrb) (c : BceSqCompletionData) : Prop :=
  v.dir = .fromDevice ∨ v.received c ≥ (q.urbs v.urb).transferBufferLength

/-- The queue with the length of the transfer noted in the URB. -/
def BceVhciTransferQueue.setActualLength (q : BceVhciTransferQueue) (u n : Nat) :
    BceVhciTransferQueue :=
  q.setUrb u { q.urbs u with actualLength := n }

/-- The outcomes of a completion for the URB. -/
inductive CompletionEffect (q : BceVhciTransferQueue) (urb : Nat) (v : BceVhciUrb)
    (c : BceSqCompletionData) : BceVhciTransferQueue → Prop where
  /-- unexpected -/
  | ignored : v.state ≠ .waitingForCompletion →
      (v.isControl = true → v.state ≠ .controlWaitingForSetupCompletion) →
      (v.isControl = true → v.state = .waitingForTransferRequest → ¬v.Settled) →
      CompletionEffect q urb v c q
  /-- a window of the data is sent -/
  | progress : v.state = .waitingForCompletion → ¬DataDone q v c →
      (v.isControl = true → ¬v.Settled) →
      CompletionEffect q urb v c (q.setVurb urb { v with receiveOffset := v.received c })
  /-- the data phase of a control URB is over, its status is not known -/
  | dataDone : v.isControl = true → v.state = .waitingForCompletion → DataDone q v c →
      ¬({ v with state := .dataTransferComplete } : BceVhciUrb).Settled →
      CompletionEffect q urb v c ((q.setActualLength v.urb (v.received c)).setVurb urb
        { v with receiveOffset := v.received c, state := .dataTransferComplete })
  /-- the URB is done -/
  | done : v.isControl = false → v.state = .waitingForCompletion → DataDone q v c →
      CompletionEffect q urb v c
        ((q.setActualLength v.urb (v.received c)).complete urb v.urb 0)
  /-- the data phase of a control URB is over, and its status is known -/
  | doneSettled : v.isControl = true → v.state = .waitingForCompletion → DataDone q v c →
      ({ v with state := .dataTransferComplete } : BceVhciUrb).Settled →
      CompletionEffect q urb v c
        ((q.setActualLength v.urb (v.received c)).settle urb v.urb v.receivedStatus)
  /-- an error status received before ends the URB -/
  | settled : v.isControl = true →
      (v.state = .waitingForTransferRequest ∨ (v.state = .waitingForCompletion ∧ ¬DataDone q v c)) →
      v.Settled → CompletionEffect q urb v c (q.settle urb v.urb v.receivedStatus)
  /-- the setup packet is sent, the data is asked for -/
  | startedIn {q' : BceVhciTransferQueue} : v.isControl = true →
      v.state = .controlWaitingForSetupCompletion → v.dir = .fromDevice →
      StartedIn 1000 q urb v q' → CompletionEffect q urb v c q'
  | startFailed {q₁ : BceVhciTransferQueue} : v.isControl = true →
      v.state = .controlWaitingForSetupCompletion → v.dir = .fromDevice →
      StartFailed 1000 q q₁ → CompletionEffect q urb v c (q₁.complete urb v.urb (-ENOMEM))
  /-- the setup packet is sent, the data phase of a host-to-device URB begins -/
  | startedOut : v.isControl = true → v.state = .controlWaitingForSetupCompletion →
      v.dir = .toDevice →
      CompletionEffect q urb v c (q.setVurb urb { v with state := outStartState q v })

section Completion

variable {E : Fault → Prop} {q : BceVhciTransferQueue} {urb : Nat} {v : BceVhciUrb}
  {c : BceSqCompletionData}

theorem dataTransferCompletion_spec (hv : q.vurbs urb = some v)
    {Q : Int → BceVhciTransferQueue → Prop}
    (hignored : v.state ≠ .waitingForCompletion → Q 0 q)
    (hprogress : v.state = .waitingForCompletion → ¬DataDone q v c →
      Q 0 (q.setVurb urb { v with receiveOffset := v.received c }))
    (hdone : v.isControl = false → v.state = .waitingForCompletion → DataDone q v c →
      Q (-ENOENT) ((q.setActualLength v.urb (v.received c)).complete urb v.urb 0))
    (hdata : v.isControl = true → v.state = .waitingForCompletion → DataDone q v c →
      Q 0 ((q.setActualLength v.urb (v.received c)).setVurb urb
        { v with receiveOffset := v.received c, state := .dataTransferComplete })) :
    wp (bceVhciUrbDataTransferCompletion urb c) E Q q := by
  simp only [bceVhciUrbDataTransferCompletion, wp_bind, wp_readVurb, hv]
  rw [wp_ite]
  refine ⟨fun hs => ?_, fun hs => wp_pure.mpr (hignored hs)⟩
  rw [wp_bind, wp_modifyVurb]
  simp only [hv]
  rw [wp_bind, wp_get, wp_ite]
  refine ⟨fun hd => ?_, fun hd => wp_pure.mpr (hprogress hs hd)⟩
  rw [wp_bind, wp_modify, wp_bind, wp_modifyVurb]
  simp only [BceVhciTransferQueue.setUrb_vurbs, BceVhciTransferQueue.setVurb_vurbs,
    Function.update_self]
  -- the three writes of the handler, as one state
  have hstate : (((q.setVurb urb { v with receiveOffset := v.received c }).setUrb v.urb
      { q.urbs v.urb with actualLength := v.received c }).setVurb urb
        { v with receiveOffset := v.received c, state := .dataTransferComplete }) =
      (q.setActualLength v.urb (v.received c)).setVurb urb
        { v with receiveOffset := v.received c, state := .dataTransferComplete } := by
    simp [BceVhciTransferQueue.setVurb, BceVhciTransferQueue.setUrb,
      BceVhciTransferQueue.setActualLength]
  have hv' : ((q.setActualLength v.urb (v.received c)).setVurb urb
      { v with receiveOffset := v.received c, state := .dataTransferComplete }).vurbs urb =
      some { v with receiveOffset := v.received c, state := .dataTransferComplete } :=
    Function.update_self ..
  rw [← hstate] at hv'
  rw [wp_ite]
  refine ⟨fun hc => ?_, fun hc => ?_⟩
  · have hq := hdone (by simpa using hc) hs hd
    -- `bce_vhci_urb_complete` frees what was just written
    rw [← BceVhciTransferQueue.complete_setVurb _ urb
      { v with receiveOffset := v.received c, state := .dataTransferComplete }, ← hstate] at hq
    rw [wp_bind]
    exact (wp_complete hv' 0).mpr (wp_pure.mpr hq)
  · have hq := hdata (by simpa using hc) hs hd
    rw [← hstate] at hq
    exact wp_pure.mpr hq

/-- A completion for a control URB that is waiting for its setup packet to be sent. -/
theorem controlCompletion_setup (hv : q.vurbs urb = some v) (hc : v.isControl = true)
    (hs : v.state = .controlWaitingForSetupCompletion)
    (hE : v.dir = .fromDevice → q.sqs .fromDevice = none → E .nullDeref) :
    wp (bceVhciUrbControlTransferCompletion urb c) E (fun _ q' => CompletionEffect q urb v c q')
      q := by
  simp only [bceVhciUrbControlTransferCompletion, wp_bind, wp_readVurb, hv]
  rw [if_pos hs, wp_bind]
  refine dataStart_spec hv hE 1000 (fun hd => ?_) (fun q' hd h => ?_) (fun q' hd h => ?_)
  · rw [if_neg (not_not_intro rfl)]
    exact wp_pure.mpr (.startedOut hc hs hd)
  · rw [if_neg (not_not_intro rfl)]
    exact wp_pure.mpr (.startedIn hc hs hd h)
  · rw [if_pos (by decide), wp_bind, wp_complete (h.waited.vurbs ▸ hv), wp_pure]
    exact .startFailed hc hs hd h

/-- A completion for a control URB in its data phase. -/
theorem controlCompletion_data (hv : q.vurbs urb = some v) (hc : v.isControl = true)
    (hs : v.state = .waitingForTransferRequest ∨ v.state = .waitingForCompletion) :
    wp (bceVhciUrbControlTransferCompletion urb c) E (fun _ q' => CompletionEffect q urb v c q')
      q := by
  have hsetup : v.state ≠ .controlWaitingForSetupCompletion := by
    rcases hs with h | h
    · simp [h]
    · simp [h]
  simp only [bceVhciUrbControlTransferCompletion, wp_bind, wp_readVurb, hv]
  rw [if_neg hsetup, if_pos hs, wp_bind]
  refine dataTransferCompletion_spec hv (fun hw => ?_) (fun hw hd => ?_) (fun h _ _ => ?_)
    (fun _ hw hd => ?_)
  · rw [if_neg (not_not_intro rfl), wp_checkStatus hv]
    split
    · exact .settled hc (.inl (hs.resolve_right hw)) ‹_›
    · exact .ignored hw (fun _ => hsetup) fun _ _ => ‹_›
  · rw [if_neg (not_not_intro rfl), wp_checkStatus (Function.update_self ..),
      BceVhciTransferQueue.settle_setVurb]
    split
    · exact .settled hc (.inr ⟨hw, hd⟩) ‹_›
    · exact .progress hw hd fun _ => ‹_›
  · simp [hc] at h
  · rw [if_neg (not_not_intro rfl), wp_checkStatus (Function.update_self ..),
      BceVhciTransferQueue.settle_setVurb]
    split
    · exact .doneSettled hc hw hd ‹_›
    · exact .dataDone hc hw hd ‹_›

/-- **A completion for one URB.** -/
theorem urbTransferCompletion_spec (hv : q.vurbs urb = some v)
    (hE : v.dir = .fromDevice → q.sqs .fromDevice = none → E .nullDeref) :
    wp (bceVhciUrbTransferCompletion urb c) E (fun _ q' => CompletionEffect q urb v c q') q := by
  simp only [bceVhciUrbTransferCompletion, wp_bind, wp_readVurb, hv]
  by_cases hc : v.isControl = true
  · rw [if_pos hc]
    by_cases hs : v.state = .controlWaitingForSetupCompletion
    · exact controlCompletion_setup hv hc hs hE
    by_cases hd : v.state = .waitingForTransferRequest ∨ v.state = .waitingForCompletion
    · exact controlCompletion_data hv hc hd
    simp only [bceVhciUrbControlTransferCompletion, wp_bind, wp_readVurb, hv]
    rw [if_neg hs, if_neg hd]
    exact wp_pure.mpr (.ignored (fun h => hd (.inr h)) (fun _ => hs)
      fun _ h => absurd (.inl h) hd)
  · rw [if_neg hc]
    have hc' : v.isControl = false := by simpa using hc
    exact dataTransferCompletion_spec hv
      (fun hw => .ignored hw (fun h => absurd h hc) fun h => absurd h hc)
      (fun hw hd => .progress hw hd fun h => absurd h hc)
      (fun _ hw hd => .done hc' hw hd) (fun h => absurd h hc)

end Completion

end BceDriver
