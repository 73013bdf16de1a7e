import BceDriver.Vhci.Outstanding
import BceDriver.Vhci.CancelRequests
import BceDriver.Vhci.Requests

/-!
# What the device has of a URB that ends

A URB ends by the completion of its data, by a status, because it cannot be
started again, or because it is cancelled. Only the first says that the device is
through with it; the others go by the state of the URB, or rely on a flush.

- `EndsCleanly`: the steps that neither end a URB the device has an element of,
  nor leave one to it for a URB that is about to end.
- `Clean`: what they keep of every linked URB: it has one element outstanding at
  most, and none in a state that does not wait for one.
- `OnlyLinked`: the device has elements of linked URBs only.
- `given_back_not_in_flight`: so it has none of what is given back.
-/

namespace BceDriver

open FaultState

/-! ## The removal ahead -/

/-- The URBs the work item is going to remove. -/
def removals (worker : List WorkOp) : List Nat :=
  worker.filterMap fun
    | .remove u _ => some u
    | _ => none

/-- The work item is going to remove the URB, and flushes the queue no more before. -/
def Removing (worker : List WorkOp) (d : DmaDataDirection) (u : Nat) : Prop :=
  u ∈ removals worker ∧ .pauseCommand ∉ worker ∧ .flush d ∉ worker

instance (worker : List WorkOp) (d : DmaDataDirection) (u : Nat) :
    Decidable (Removing worker d u) :=
  inferInstanceAs (Decidable (_ ∧ _))

/-- What is left of a cancel work that has not removed its URB. -/
inductive CancelRest (u : Nat) (status : Int) : List WorkOp → Prop where
  | deactivate : CancelRest u status (cancelOps u status)
  | removePending : CancelRest u status
      [.removePending, .pauseCommand, .remove u status, .resumeUnlessFwPaused]
  | pauseCommand : CancelRest u status [.pauseCommand, .remove u status, .resumeUnlessFwPaused]
  | flushIn : CancelRest u status
      [.flush .fromDevice, .flush .toDevice, .remove u status, .resumeUnlessFwPaused]
  | flushOut : CancelRest u status [.flush .toDevice, .remove u status, .resumeUnlessFwPaused]
  | remove : CancelRest u status [.remove u status, .resumeUnlessFwPaused]

/-- Only cancel works remove, and the queue is not active from their start on. -/
structure RemovalAhead (s : Endpoint) : Prop where
  rest : removals s.worker ≠ [] → ∃ u status, CancelRest u status s.worker
  inactive : removals s.worker ≠ [] → .deactivate ∉ s.worker → s.q.active = false

section Ahead

variable {s s' : Endpoint} {u : Nat} {d : DmaDataDirection} {worker worker' ops : List WorkOp}

theorem mem_removals : u ∈ removals worker ↔ ∃ status, .remove u status ∈ worker := by
  unfold removals
  rw [List.mem_filterMap]
  constructor
  · rintro ⟨op, hop, hu⟩
    cases op with
    | remove u' status =>
      obtain rfl := Option.some.inj hu
      exact ⟨status, hop⟩
    | _ => cases hu
  · rintro ⟨status, hop⟩
    exact ⟨_, hop, rfl⟩

/-- A program without removals of its own has none. -/
theorem removals_eq_nil (h : removals worker = [])
    (hsub : ∀ u status, .remove u status ∈ worker' → .remove u status ∈ worker) :
    removals worker' = [] := by
  refine List.eq_nil_iff_forall_not_mem.mpr fun u hu => ?_
  obtain ⟨status, hmem⟩ := mem_removals.mp hu
  have hmem' : u ∈ removals worker := mem_removals.mpr ⟨status, hsub u status hmem⟩
  rw [h] at hmem'
  cases hmem'

theorem Removing.ne_nil (h : Removing worker d u) : removals worker ≠ [] :=
  List.ne_nil_of_mem h.1

/-- No work item begins with a removal. -/
theorem removals_resetOps : removals resetOps = [] := rfl

theorem removals_firmwareOps (msg : BceVhciMessage) : removals (firmwareOps msg) = [] := by
  refine List.eq_nil_iff_forall_not_mem.mpr fun u hu => ?_
  obtain ⟨status, hmem⟩ := mem_removals.mp hu
  simpa using firmwareOps_mem hmem

theorem RemovalAhead.of_nil (h : removals s.worker = []) : RemovalAhead s :=
  ⟨fun hne => absurd h hne, fun hne => absurd h hne⟩

/-- The queue is deactivated before it is paused. -/
theorem CancelRest.pause {status : Int} (h : CancelRest u status worker)
    (hd : .deactivate ∈ worker) : .pauseCommand ∈ worker := by
  cases h with
  | deactivate => simp [cancelOps, pauseOps]
  | _ => simp at hd

/-- While the queue is flushed no more, it is not active. -/
theorem RemovalAhead.not_active (h : RemovalAhead s) (hr : Removing s.worker d u) :
    s.q.active = false := by
  obtain ⟨u', status, hrest⟩ := h.rest hr.ne_nil
  exact h.inactive hr.ne_nil fun hmem => hr.2.1 (hrest.pause hmem)

/-- When a URB is removed, nothing is going to be flushed. -/
theorem RemovalAhead.removing (h : RemovalAhead s) {status : Int}
    (hw : s.worker = .remove u status :: ops) (d : DmaDataDirection) :
    Removing s.worker d u := by
  have hmem : u ∈ removals s.worker :=
    mem_removals.mpr ⟨status, hw ▸ List.mem_cons_self⟩
  obtain ⟨u', status', hrest⟩ := h.rest (List.ne_nil_of_mem hmem)
  refine ⟨hmem, ?_, ?_⟩
  · rw [hw] at hrest ⊢
    cases hrest
    simp
  · rw [hw] at hrest ⊢
    cases hrest
    simp

/-- A work item that holds `urb_lock` removes nothing any more. -/
theorem RemovalAhead.of_locked (h : RemovalAhead s) (hw : s.worker = .locked :: ops) :
    removals s.worker = [] := by
  by_contra hne
  obtain ⟨u, status, hrest⟩ := h.rest hne
  rw [hw] at hrest
  nomatch hrest

/-- Nothing is resumed while a removal is ahead. -/
theorem RemovalAhead.not_resuming (h : RemovalAhead s) (howned : Owned s) {us : List Nat}
    {lops : List LockOp} (hl : s.lock = .resume us :: lops) (d : DmaDataDirection) (u : Nat) :
    ¬Removing s.worker d u := by
  obtain ⟨b, hlock, hworker⟩ := howned.contexts
  rw [hl] at hlock
  have hlocked : ∃ ops, s.worker = .locked :: ops := by
    cases hlock with
    | plain hplain => exact absurd (hplain (.resume us) (by simp)) id
    | resume =>
      generalize hw : s.worker = w at hworker
      cases hworker with
      | locked => exact ⟨_, rfl⟩
  obtain ⟨ops, hw⟩ := hlocked
  exact fun hr => hr.ne_nil (h.of_locked hw)

theorem RemovalAhead.offWork {a : EndpointAction} (h : RemovalAhead s) (hoff : OffWork s a s') :
    RemovalAhead s' := by
  have hactive : s.q.active = false → s'.q.active = false := by
    intro ha
    rcases hoff.flags with hsame | hstall
    · rw [hsame.1, ha]
    · exact hstall.1
  cases hoff.workqueue with
  | same _ hw | queued _ _ hw =>
    exact ⟨fun hne => hw ▸ h.rest (hw ▸ hne),
      fun hne hd => hactive (h.inactive (hw ▸ hne) (hw ▸ hd))⟩
  | unlocked _ hw =>
    have hnone := h.of_locked hw
    rw [hw] at hnone
    exact .of_nil hnone
  | cancel _ _ _ hw =>
    refine ⟨fun _ => ?_, fun _ hd => absurd ?_ hd⟩
    · rw [hw]
      exact ⟨_, _, .deactivate⟩
    · rw [hw]
      exact List.mem_cons_self
  | reset _ _ hw => exact .of_nil (hw ▸ removals_resetOps)
  | firmware _ _ hw => exact .of_nil (hw ▸ removals_firmwareOps _)

theorem RemovalAhead.work (h : RemovalAhead s) {reply : CommandOutcome} {aborted : Nat}
    (hstep : s.workStep reply aborted = some s') : RemovalAhead s' := by
  by_cases hnone : removals s.worker = []
  · exact .of_nil (removals_eq_nil hnone (workStep_workqueue hstep).2)
  have hinactive := h.inactive hnone
  obtain ⟨u, status, hrest⟩ := h.rest hnone
  -- each step of a cancellation leaves the rest of it; no other work removes URBs
  cases workStep_branch hstep with
  | deactivate hops =>
    rw [hops] at hrest
    cases hrest
    exact ⟨fun _ => ⟨_, _, .removePending⟩, fun _ _ => rfl⟩
  | removePending hops =>
    rw [hops] at hrest hinactive
    cases hrest
    exact ⟨fun _ => ⟨_, _, .pauseCommand⟩, fun _ _ => hinactive (by simp)⟩
  | pauseCommand hops =>
    rw [hops] at hrest hinactive
    cases hrest
    refine Endpoint.exec_ok (pauseCommand_spec (q := s.q)) fun r q' hq' => ?_
    have hactive : q'.active = false := by
      obtain ⟨state, hstate⟩ := s.q.replied_eq reply
      rw [hq'.1, hstate]
      exact hinactive (by simp)
    split
    · exact ⟨fun _ => ⟨_, _, .flushIn⟩, fun _ _ => hactive⟩
    · exact ⟨fun _ => ⟨_, _, .remove⟩, fun _ _ => hactive⟩
  | @flush d ops hops =>
    rw [hops] at hrest hinactive
    have hrest' : ∃ u status, CancelRest u status ops := by
      cases hrest with
      | flushIn => exact ⟨_, _, .flushOut⟩
      | flushOut => exact ⟨_, _, .remove⟩
    have hactive : s.q.active = false := by
      refine hinactive fun hmem => ?_
      cases hrest with
      | flushIn => simp at hmem
      | flushOut => simp at hmem
    refine Endpoint.exec_ok (P := fun _ q' => q'.active = false) ?_
      fun _ q' hq' => ⟨fun _ => hrest', fun _ _ => hq'⟩
    rw [wp_flush]
    split
    · exact hactive
    · exact hactive
  | remove hops =>
    rw [hops] at hrest
    cases hrest
    refine Endpoint.exec_ok (removeBody_spec s.q u status) fun r q' _ => ?_
    split
    · split
      · exact .of_nil rfl
      · exact .of_nil rfl
    · exact .of_nil rfl
  | kfree hops | giveback hops | resumeUnlessFwPaused hops | resumeCommand hops | activate hops
  | returnUnlessStalled hops | resetCommand hops | clearStalled hops | setFwPaused hops
  | stall hops =>
    rw [hops] at hrest
    nomatch hrest

theorem reachable_removalAhead {G : EndpointAction → Endpoint → Prop}
    (h : endpointSystem.Reachable G s) : RemovalAhead s := by
  refine StepSystem.Reachable.invariant (I := RemovalAhead) ?_ ?_ h
  · rintro s ⟨address, devAddr, qidIn, qidOut, urbs, m, w, rfl⟩
    exact .of_nil rfl
  · intro a s s' hreach hahead _ hstep
    by_cases ha : ∃ reply aborted, a = .workStep reply aborted
    · obtain ⟨reply, aborted, rfl⟩ := ha
      exact hahead.work (step_workStep hstep)
    · exact hahead.offWork (step_offWork (reachable_owned hreach) hstep
        fun reply aborted heq => ha ⟨reply, aborted, heq⟩)

end Ahead

/-! ## What is kept of a linked URB -/

/-- The URB waits for nothing of the device. -/
def BceVhciUrb.Idle (v : BceVhciUrb) : Prop :=
  v.state = .initPaused ∨ v.state = .controlWaitingForSetupRequest ∨
    v.state = .waitingForTransferRequest

/-- One element of the URB is outstanding at most, and the device has it only while
the URB waits for it, or not at all if the URB is about to be removed. -/
structure Clean (worker : List WorkOp) (sqs : DmaDataDirection → Option TransferSq) (urb : Nat)
    (v : BceVhciUrb) : Prop where
  one : outstanding sqs urb ≤ 1
  idle : v.Idle → outstanding sqs urb = 0
  ended : v.state ≠ .waitingForCompletion → v.state ≠ .controlWaitingForSetupCompletion →
    ¬InFlight sqs urb
  removing : ∀ d, Removing worker d v.urb → ¬InFlightOn sqs d urb

/-- A handler leaves its URB clean, or ended with nothing in flight. -/
def LeavesClean (worker : List WorkOp) (q : BceVhciTransferQueue) (urb : Nat)
    (q' : BceVhciTransferQueue) : Prop :=
  ∃ x, q'.vurbs = Function.update q.vurbs urb x ∧ (x = none → ¬InFlight q'.sqs urb) ∧
    ∀ v ∈ x, Clean worker q'.sqs urb v

section Clean

variable {worker : List WorkOp} {sqs sqs' : DmaDataDirection → Option TransferSq}
  {q q' : BceVhciTransferQueue} {urb : Nat} {v : BceVhciUrb} {d : DmaDataDirection}
  {t : TransferSq}

theorem Clean.noMore (h : Clean worker sqs urb v) (hless : NoMore sqs sqs' urb) :
    Clean worker sqs' urb v where
  one := hless.outstanding_le.trans h.one
  idle := fun hv => Nat.le_zero.mp (h.idle hv ▸ hless.outstanding_le)
  ended := fun hw hs => hless.not_inFlight (h.ended hw hs)
  removing := fun d hr hin => h.removing d hr (hless.inFlight d hin)

/-- With nothing in flight there is nothing to be removed too early. -/
theorem Clean.of_not_inFlight (h : ¬InFlight q.sqs urb) (hone : outstanding q.sqs urb ≤ 1)
    (hidle : v.Idle → outstanding q.sqs urb = 0) : Clean worker q.sqs urb v :=
  ⟨hone, hidle, fun _ _ => h, fun _ _ hin => h hin.inFlight⟩

/-- A URB with nothing outstanding may be in any state. -/
theorem Clean.of_zero (h : outstanding q.sqs urb = 0) : Clean worker q.sqs urb v :=
  .of_not_inFlight (not_inFlight_of_zero h) (h.le.trans (Nat.zero_le 1)) fun _ => h

/-- The first element of a URB that waits for it. -/
theorem Clean.of_put {e : TransferElement} (ht : q.sqs d = some t) (he : e.owner = urb)
    (hzero : outstanding q.sqs urb = 0)
    (hstate : v.state = .waitingForCompletion ∨ v.state = .controlWaitingForSetupCompletion)
    (hr : ¬Removing worker d v.urb) : Clean worker (q.setSq d (t.put e)).sqs urb v := by
  have hcount := outstanding_put ht e urb
  rw [if_pos he, hzero] at hcount
  refine ⟨hcount.le, fun hidle => ?_, fun hw hs => absurd hstate (not_or.mpr ⟨hw, hs⟩),
    fun d' hr' hin => ?_⟩
  · rcases hstate with hs | hs
    · simp [BceVhciUrb.Idle, hs] at hidle
    · simp [BceVhciUrb.Idle, hs] at hidle
  · rcases hin.of_put ht with hin | ⟨rfl, -⟩
    · exact not_inFlight_of_zero hzero hin.inFlight
    · exact hr hr'

theorem LeavesClean.same (hv : q.vurbs urb = some v) (h : Clean worker q.sqs urb v) :
    LeavesClean worker q urb q := by
  refine ⟨some v, ?_, nofun, fun v' hv' => ?_⟩
  · rw [← hv, Function.update_eq_self]
  · obtain rfl := Option.some.inj hv'
    exact h

theorem LeavesClean.wrote (hv : q'.vurbs = Function.update q.vurbs urb (some v))
    (h : Clean worker q'.sqs urb v) : LeavesClean worker q urb q' := by
  refine ⟨some v, hv, nofun, fun v' hv' => ?_⟩
  obtain rfl := Option.some.inj hv'
  exact h

theorem LeavesClean.ended (hv : q'.vurbs = Function.update q.vurbs urb none)
    (h : ¬InFlight q'.sqs urb) : LeavesClean worker q urb q' :=
  ⟨none, hv, fun _ => h, nofun⟩

theorem LeavesClean.settle (u receivedStatus : Nat) (h : ¬InFlight q.sqs urb) :
    LeavesClean worker q urb (q.settle urb u receivedStatus) :=
  .ended (settle_vurbs ..) (settle_sqs q urb u receivedStatus ▸ h)

theorem StartedIn.leavesClean {timeout : Nat} (h : StartedIn timeout q urb v q')
    (hzero : outstanding q.sqs urb = 0) (hr : ¬Removing worker .fromDevice v.urb) :
    LeavesClean worker q urb q' := by
  obtain ⟨t, ht, -, hq'⟩ := h.slot
  rw [hq']
  refine .wrote rfl ?_
  exact Clean.of_put (e := inElement q urb v) ht rfl hzero (.inl rfl) hr

end Clean

/-! ## Ending in time -/

/-- A status that ends a control URB at once. -/
def ErrorStatus (status : Nat) : Prop := status ≠ 0 ∧ status ≠ BCE_VHCI_SUCCESS

instance (status : Nat) : Decidable (ErrorStatus status) := inferInstanceAs (Decidable (_ ∧ _))

/-- The data phase can begin with an element, now or at the next request. -/
def StartsData (q : BceVhciTransferQueue) (v : BceVhciUrb) : Prop :=
  (v.dir = .fromDevice ∧ CanStartIn 1000 q) ∨
    (v.dir = .toDevice ∧ (q.urbs v.urb).transferBufferLength > 0)

instance (q : BceVhciTransferQueue) (v : BceVhciUrb) : Decidable (StartsData q v) :=
  inferInstanceAs (Decidable (_ ∨ _))

instance (q : BceVhciTransferQueue) (v : BceVhciUrb) (c : BceSqCompletionData) :
    Decidable (DataDone q v c) :=
  inferInstanceAs (Decidable (_ ∨ _))

/-- The message is no error status for a URB the device has an element of, and no
request that puts one on `sq_out` for a URB an error status or a removal ends. -/
def MessageInTime (worker : List WorkOp) (msg : BceVhciMessage) (q : BceVhciTransferQueue)
    (urb : Nat) (v : BceVhciUrb) : Prop :=
  (msg.cmd = BCE_VHCI_CMD_CONTROL_TRANSFER_STATUS → v.isControl = true →
    v.state = .waitingForCompletion → ErrorStatus msg.status → ¬InFlight q.sqs urb) ∧
  (msg.cmd = BCE_VHCI_CMD_TRANSFER_REQUEST → v.AcceptsRequest → OutSlot q →
    ¬(v.isControl = true ∧ v.state = .waitingForTransferRequest ∧ ErrorStatus v.receivedStatus) ∧
      ¬Removing worker .toDevice v.urb)

/-- The completion of `e` ends no data phase and begins none while another element
of the URB is outstanding. -/
def CompletionInTime (worker : List WorkOp) (e : TransferElement) (c : BceSqCompletionData)
    (q : BceVhciTransferQueue) (urb : Nat) (v : BceVhciUrb) : Prop :=
  (v.state = .waitingForCompletion → DataDone q v c ∨ (v.isControl = true ∧ v.Settled) →
    e.owner = urb ∨ ¬InFlight q.sqs urb) ∧
  (v.isControl = true → v.state = .controlWaitingForSetupCompletion →
    (e.owner = urb ∨ ¬InFlight q.sqs urb ∧ (StartsData q v → outstanding q.sqs urb = 0)) ∧
      (v.dir = .fromDevice → CanStartIn 1000 q → ¬Removing worker .fromDevice v.urb))

/-- The URB that is resumed has nothing in flight, and if its data can be asked for
again nothing outstanding. -/
def ResumeInTime (q : BceVhciTransferQueue) (urb : Nat) (v : BceVhciUrb) : Prop :=
  v.state = .waitingForCompletion →
    ¬InFlight q.sqs urb ∧ (CanStartIn 0 q → outstanding q.sqs urb = 0)

section Handlers

variable {worker : List WorkOp} {q q' : BceVhciTransferQueue} {urb : Nat} {v : BceVhciUrb}
  {d : DmaDataDirection} {t : TransferSq}

theorem BceVhciUrb.Settled.error (h : v.Settled) (hs : v.state ≠ .dataTransferComplete) :
    ErrorStatus v.receivedStatus :=
  ⟨h.1, (h.2.resolve_left hs).1⟩

/-- A URB that a status ends has nothing in flight. -/
theorem Clean.settled {status : Nat} (h : Clean worker q.sqs urb v)
    (hsettled : ({ v with receivedStatus := status } : BceVhciUrb).Settled)
    (hwait : v.state = .waitingForCompletion → ErrorStatus status → ¬InFlight q.sqs urb) :
    ¬InFlight q.sqs urb := by
  by_cases hs : v.state = .waitingForCompletion
  · exact hwait hs (hsettled.error (by simp [hs]))
  · refine h.ended hs fun hsetup => ?_
    rcases hsettled.2 with hdone | ⟨-, -, hnot⟩
    · simp [hsetup] at hdone
    · exact hnot hsetup

theorem UpdateEffect.leavesClean {msg : BceVhciMessage} {r : Int} (hv : q.vurbs urb = some v)
    (heff : UpdateEffect q urb v msg r q') (h : Clean worker q.sqs urb v)
    (hin : MessageInTime worker msg q urb v) : LeavesClean worker q urb q' := by
  cases heff with
  | deferred => exact .same hv h
  | refused => exact .same hv h
  | @setup t hc hs htr ht hpos =>
    have hr := (hin.2 htr (.inr ⟨hc, hs⟩) ⟨t, ht, hpos⟩).2
    refine .wrote rfl ?_
    exact Clean.of_put (e := setupElement q urb v) ht rfl (h.idle (.inr (.inl hs))) (.inr rfl) hr
  | @out t hs htr ht hpos =>
    have hr := (hin.2 htr (.inl hs) ⟨t, ht, hpos⟩).2
    refine .wrote rfl ?_
    exact Clean.of_put (e := outElement q urb v msg.param2) ht rfl (h.idle (.inr (.inr hs)))
      (.inl rfl) hr
  | @outSettled t hc hs htr ht hpos hsettled =>
    have herror : ErrorStatus v.receivedStatus := hsettled.error (by simp [BceVhciUrb.sentOut])
    exact absurd ⟨hc, hs, herror⟩ (hin.2 htr (.inl hs) ⟨t, ht, hpos⟩).1
  | status =>
    refine .wrote rfl ?_
    exact ⟨h.one, h.idle, h.ended, h.removing⟩
  | settled hc hcmd hsettled =>
    exact .settle _ _ (h.settled hsettled (hin.1 hcmd hc))

theorem CompletionEffect.leavesClean {c : BceSqCompletionData} (hv : q.vurbs urb = some v)
    (heff : CompletionEffect q urb v c q') (h : Clean worker q.sqs urb v)
    (hdone : v.state = .waitingForCompletion →
      DataDone q v c ∨ (v.isControl = true ∧ v.Settled) → ¬InFlight q.sqs urb)
    (hsetup : v.isControl = true → v.state = .controlWaitingForSetupCompletion →
      ¬InFlight q.sqs urb ∧ (StartsData q v → outstanding q.sqs urb = 0))
    (hstart : v.isControl = true → v.state = .controlWaitingForSetupCompletion →
      v.dir = .fromDevice → CanStartIn 1000 q → ¬Removing worker .fromDevice v.urb) :
    LeavesClean worker q urb q' := by
  cases heff with
  | ignored => exact .same hv h
  | progress hs =>
    refine .wrote rfl ?_
    exact ⟨h.one, h.idle, h.ended, h.removing⟩
  | dataDone _ hs hd =>
    refine .wrote rfl ?_
    exact Clean.of_not_inFlight (hdone hs (.inl hd)) h.one (by simp [BceVhciUrb.Idle])
  | done _ hs hd => exact .ended rfl (hdone hs (.inl hd))
  | doneSettled _ hs hd => exact .settle _ _ (hdone hs (.inl hd))
  | settled hc _ hsettled =>
    exact .settle _ _ (h.settled hsettled fun hs _ => hdone hs (.inr ⟨hc, hsettled⟩))
  | startedIn hc hs hdir heff =>
    exact heff.leavesClean ((hsetup hc hs).2 (.inl ⟨hdir, heff.can⟩)) (hstart hc hs hdir heff.can)
  | @startFailed q₁ hc hs _ heff =>
    refine .ended ?_ ((NoMore.of_waited heff.waited urb).not_inFlight (hsetup hc hs).1)
    rw [← heff.waited.vurbs]
    rfl
  | startedOut hc hs hdir =>
    obtain ⟨hnot, hzero⟩ := hsetup hc hs
    refine .wrote rfl (Clean.of_not_inFlight hnot h.one fun hidle => ?_)
    by_cases hlen : (q.urbs v.urb).transferBufferLength > 0
    · exact hzero (.inr ⟨hdir, hlen⟩)
    · simp [BceVhciUrb.Idle, outStartState, hlen] at hidle

theorem InitEffect.leavesClean {r : Int} (hv : q.vurbs urb = some v)
    (heff : InitEffect q urb v r q') (hzero : outstanding q.sqs urb = 0)
    (hr : ¬Removing worker .fromDevice v.urb) : LeavesClean worker q urb q' := by
  cases heff with
  | control =>
    refine .wrote rfl ?_
    exact Clean.of_zero hzero
  | out =>
    refine .wrote rfl ?_
    exact Clean.of_zero hzero
  | startedIn _ _ heff => exact heff.leavesClean hzero hr
  | failed _ _ heff =>
    refine .wrote (v := v) ?_ (Clean.of_zero ((outstanding_waited heff.waited urb).trans hzero))
    rw [heff.waited.vurbs, ← hv, Function.update_eq_self]

theorem ResumeEffect.leavesClean (hv : q.vurbs urb = some v) (heff : ResumeEffect q urb v q')
    (h : Clean worker q.sqs urb v) (hin : ResumeInTime q urb v)
    (hr : ¬Removing worker .fromDevice v.urb) : LeavesClean worker q urb q' := by
  cases heff with
  | unchanged => exact .same hv h
  | init hs heff => exact heff.leavesClean hv (h.idle (.inl hs)) hr
  | restarted hs heff => exact heff.leavesClean ((hin hs).2 heff.can) hr
  | @failed q₁ hs heff =>
    refine .ended ?_ ((NoMore.of_waited heff.waited urb).not_inFlight (hin hs).1)
    rw [← heff.waited.vurbs]
    rfl

end Handlers

end BceDriver
