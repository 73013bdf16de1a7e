import BceDriver.Vhci.InFlight

/-!
# One data element for a URB

No handler submits a data element for a URB that has one in flight, except the
one that resumes it: it goes by the state of the URB alone. `RoundFlushed` says
that the resume loop visits no URB whose data the device still has;
`urb_one_data_element` is what that is enough for.
-/

namespace BceDriver

open FaultState

/-! ## What each handler leaves -/

section Handlers

variable {q q' : BceVhciTransferQueue} {urb u : Nat} {v : BceVhciUrb}

/-- Asking for data puts one data element in flight. -/
theorem StartedIn.data {timeout : Nat} (h : StartedIn timeout q urb v q') :
    dataInFlight q'.sqs urb = dataInFlight q.sqs urb + 1 := by
  obtain ⟨t, ht, -, hq'⟩ := h.slot
  have hput := dataInFlight_put ht (inElement q urb v) urb
  rw [if_pos ⟨rfl, rfl⟩] at hput
  rw [hq']
  exact hput

theorem StartedIn.oneElement {timeout : Nat} (h : StartedIn timeout q urb v q')
    (hzero : dataInFlight q.sqs urb = 0) : LeavesUrb (OneElement q'.sqs urb) urb q q' := by
  have hdata := h.data
  exact .startedIn h ⟨by omega, by simp [BceVhciUrb.Unsent]⟩

theorem UpdateEffect.oneElement {msg : BceVhciMessage} {r : Int} (hv : q.vurbs urb = some v)
    (h : UpdateEffect q urb v msg r q') (hone : OneElement q.sqs urb v) :
    LeavesUrb (OneElement q'.sqs urb) urb q q' := by
  cases h with
  | deferred => exact .kept hv rfl hone
  | refused => exact .kept hv rfl hone
  | @setup t _ hs _ ht =>
    have hput := dataInFlight_put ht (setupElement q urb v) urb
    rw [if_neg (by simp [setupElement]), hone.unsent (.inr (.inl hs))] at hput
    exact .stored rfl (.of_zero hput)
  | @out t hs _ ht =>
    have hput := dataInFlight_put ht (outElement q urb v msg.param2) urb
    rw [if_pos ⟨rfl, rfl⟩, hone.unsent (.inr (.inr (.inr hs)))] at hput
    exact .stored rfl ⟨hput.le, by simp [BceVhciUrb.Unsent, BceVhciUrb.sentOut]⟩
  | outSettled => exact .freed (settle_vurbs ..)
  | status => exact .stored rfl ⟨hone.one, hone.unsent⟩
  | settled => exact .freed (settle_vurbs ..)

theorem CompletionEffect.oneElement {c : BceSqCompletionData} (hv : q.vurbs urb = some v)
    (h : CompletionEffect q urb v c q') (hone : OneElement q.sqs urb v) :
    LeavesUrb (OneElement q'.sqs urb) urb q q' := by
  cases h with
  | ignored => exact .kept hv rfl hone
  | progress => exact .stored rfl ⟨hone.one, hone.unsent⟩
  | dataDone => exact .stored rfl ⟨hone.one, by simp [BceVhciUrb.Unsent]⟩
  | done => exact .freed rfl
  | doneSettled => exact .freed (settle_vurbs ..)
  | settled => exact .freed (settle_vurbs ..)
  | startedIn _ hs _ h => exact h.oneElement (hone.unsent (.inr (.inr (.inl hs))))
  | startFailed _ _ _ h => exact .startFailed h ..
  | startedOut _ hs => exact .stored rfl (.of_zero (hone.unsent (.inr (.inr (.inl hs)))))

theorem InitEffect.oneElement {r : Int} (hv : q.vurbs urb = some v)
    (h : InitEffect q urb v r q') (hzero : dataInFlight q.sqs urb = 0) :
    LeavesUrb (OneElement q'.sqs urb) urb q q' := by
  cases h with
  | control => exact .stored rfl (.of_zero hzero)
  | out => exact .stored rfl (.of_zero hzero)
  | startedIn _ _ h => exact h.oneElement hzero
  | failed _ _ h =>
    refine .kept hv h.waited.vurbs (.of_zero ?_)
    rw [dataInFlight_waited h.waited, hzero]

/-- Resuming leaves one element, if what it restarts has none in flight. -/
theorem ResumeEffect.oneElement (hv : q.vurbs urb = some v) (h : ResumeEffect q urb v q')
    (hone : OneElement q.sqs urb v)
    (hflushed : v.state = .waitingForCompletion →
      dataInFlight q.sqs urb = 0 ∨ ¬CanStartIn 0 q) :
    LeavesUrb (OneElement q'.sqs urb) urb q q' := by
  cases h with
  | unchanged => exact .kept hv rfl hone
  | init hs h => exact h.oneElement hv (hone.unsent (.inl hs))
  | restarted hs h =>
    rcases hflushed hs with hzero | hcannot
    · exact h.oneElement hzero
    · exact absurd h.can hcannot
  | failed _ h => exact .startFailed h ..

end Handlers

/-! ## All runs -/

/-- The URB the resume loop is about to restart has no data element in flight, or
cannot be restarted. -/
def RoundFlushed : LockOp → BceVhciTransferQueue → Prop
  | .resume us, q => ∀ u ∈ us.head?, ∀ urb ∈ (q.urbs u).hcpriv, ∀ v ∈ q.vurbs urb,
      v.state = .waitingForCompletion → dataInFlight q.sqs urb = 0 ∨ ¬CanStartIn 0 q
  | _, _ => True

instance : ∀ op q, Decidable (RoundFlushed op q)
  | .resume us, q => inferInstanceAs (Decidable (∀ u ∈ us.head?, ∀ urb ∈ (q.urbs u).hcpriv, _))
  | .deliver, _ | .event _, _ | .completions _, _ | .giveback, _ | .back, _ => .isTrue trivial

section Runs

variable {q q' : BceVhciTransferQueue}

/-- A handler that leaves its URB with one element at most. -/
theorem EveryLinked.oneElement {u urb : Nat} (h : EveryLinked OneElement q)
    (hnodup : q.urbList.Nodup) (hheap : SameHeap q q' ∨ Ended q urb u q')
    (hadds : Adds (OwnedBy urb) q q') (hx : LeavesUrb (OneElement q'.sqs urb) urb q q') :
    EveryLinked OneElement q' := by
  obtain ⟨x, hv, hP⟩ := hx
  exact h.touches (.of_heap hnodup hheap hv)
    (fun urb' v hne hone => hone.of_le (dataInFlight_adds hadds hne).le) hP

theorem UpdateEffect.keepsOneElement {u urb : Nat} {v : BceVhciUrb} {msg : BceVhciMessage}
    {r : Int} (hup : UpdateEffect q urb v msg r q') (hnodup : q.urbList.Nodup)
    (h : EveryLinked OneElement q) (hhead : q.Head u urb v) : EveryLinked OneElement q' :=
  h.oneElement hnodup (hup.heap hhead.vurb) hup.adds
    (hup.oneElement hhead.vurb (h _ (Head.mem hhead) _ _ hhead.toHas))

theorem DeliverEffect.oneElement {more : Bool} (hnodup : q.urbList.Nodup)
    (h : EveryLinked OneElement q) (heff : DeliverEffect q more q') :
    EveryLinked OneElement q' :=
  h.deliver (fun hhead hup => hup.keepsOneElement hnodup h hhead) heff

theorem EventEffect.oneElement {msg : BceVhciMessage} (hnodup : q.urbList.Nodup)
    (h : EveryLinked OneElement q) (heff : EventEffect q msg q') : EveryLinked OneElement q' :=
  h.event (fun hhead hup => hup.keepsOneElement hnodup h hhead) heff

theorem CompletionRoundEffect.oneElement {d : DmaDataDirection} {more : Bool}
    (hnodup : q.urbList.Nodup) (h : EveryLinked OneElement q)
    (heff : CompletionRoundEffect q d more q') : EveryLinked OneElement q' := by
  have hconsume : ∀ {t : TransferSq} (sq : BceQueueSq), q.sqs d = some t →
      EveryLinked OneElement (q.consume d t sq) := fun sq ht =>
    h.of_sqs rfl rfl rfl fun urb v hone => hone.of_le (dataInFlight_consume ht sq urb).le
  cases heff with
  | idle => exact h
  | skipped ht => exact hconsume _ ht
  | @completed t t' c sq u urb v q₁ ht _ _ hhead heff ht' =>
    have hhas : (q.consume d t sq).Has u urb v := (hhead.consume d t sq).toHas
    have hmem : u ∈ q.urbList := Head.mem hhead
    have hround : EveryLinked OneElement q₁ :=
      (hconsume sq ht).oneElement hnodup (heff.heap hhas.vurb) heff.adds
        (heff.oneElement hhas.vurb (hconsume sq ht u hmem urb v hhas))
    exact hround.of_sqs rfl rfl rfl
      fun urb v hone => hone.of_le (dataInFlight_notify ht' urb).le

theorem CreateEffect.oneElement {u : Nat} {r : Int} (h : EveryLinked OneElement q)
    (hfresh : dataInFlight q.sqs q.nextVurb = 0) (heff : CreateEffect q u r q') :
    EveryLinked OneElement q' := by
  refine h.create (.of_zero hfresh) (fun hlink q' r hi => ?_) heff
  have hv : (q.link u).vurbs q.nextVurb = some (freshVurb q u) := Function.update_self ..
  obtain ⟨x, hx, hP⟩ := hi.oneElement hv hfresh
  exact hlink.touches (.of_same (hi.heap hv) hx)
    (fun urb' v hne hone => hone.of_le (dataInFlight_adds hi.adds hne).le) hP

/-- A new enqueue has nothing in flight. -/
theorem Old.fresh (h : Old q) : dataInFlight q.sqs q.nextVurb = 0 := by
  have hon : ∀ d, dataOn q.sqs d q.nextVurb = 0 := by
    intro d
    unfold dataOn
    cases ht : q.sqs d with
    | none => rfl
    | some t =>
      rw [Option.map_some, Option.getD_some]
      unfold TransferSq.dataOf
      rw [List.countP_eq_zero]
      intro e he hcount
      simp only [decide_eq_true_eq] at hcount
      have hlt := h d t ht e (List.mem_append_left _ (List.mem_append_left _ he))
      omega
  unfold dataInFlight
  rw [hon, hon]

theorem reachable_oneElement {s : Endpoint}
    (h : endpointSystem.Reachable (AtLockStep RoundFlushed) s) : EveryLinked OneElement s.q := by
  refine StepSystem.Reachable.invariant (I := fun s => EveryLinked OneElement s.q) ?_ ?_ h
  · rintro s ⟨address, devAddr, qidIn, qidOut, urbs, m, w, rfl⟩ u hu
    simp [Endpoint.start, bceVhciCreateTransferQueue] at hu
  · intro a s s' hreach hone hguard hstep
    have howned := reachable_owned hreach
    have hnodup := howned.urbList_nodup
    refine hone.step (step_spec howned hstep)
      (fun _ _ _ r q' _ _ _ heff h => heff.oneElement h (reachable_old hreach).fresh)
      (fun more q' heff => heff.oneElement hnodup hone)
      (fun d ops more q' _ _ heff => heff.oneElement hnodup hone)
      (fun msg q' heff => heff.oneElement hnodup hone) ?_ ?_
    · intro u us ops urb v q' ha hops hu hhas heff
      subst ha
      refine hone.oneElement hnodup (heff.heap hhas.vurb) heff.adds
        (heff.oneElement hhas.vurb (hone u hu urb v hhas) ?_)
      exact hguard.head hops u rfl urb hhas.hcpriv v hhas.vurb
    · intro d t t' ht hdev
      refine hone.of_sqs rfl rfl rfl fun urb v hP => hP.of_le ?_
      have hcount := dataInFlight_setSq ht t' urb
      have hle := hdev.dataOf_le urb
      omega

end Runs

/-! ## Resuming a queue that is active -/

/-- No linked URB waits for something only resuming would start again, and the
head of the list has no message to take. -/
def ResumeIdle (q : BceVhciTransferQueue) : Prop :=
  (∀ u ∈ q.urbList, ∀ urb ∈ (q.urbs u).hcpriv, ∀ v ∈ q.vurbs urb,
    v.state ≠ .initPaused ∧ v.state ≠ .waitingForCompletion) ∧ DeliverIdle q

instance (q : BceVhciTransferQueue) : Decidable (ResumeIdle q) :=
  inferInstanceAs (Decidable (_ ∧ _))

/-- Resuming such a queue submits nothing. -/
theorem resume_idle {q : BceVhciTransferQueue} (hlive : q.Live) (hidle : ResumeIdle q)
    (reply : CommandOutcome) :
    wp (bceVhciTransferQueueResume reply) (fun _ => False) (fun r q' => r = 0 → q'.sqs = q.sqs)
      q := by
  obtain ⟨hurbs, hdeliver⟩ := hidle
  refine wp_resume
    (I := fun us q' => (∃ state, q' = { q with state := state, active := true }) ∧
      ∀ u ∈ us, u ∈ q.urbList)
    (fun state => ⟨⟨state, rfl⟩, fun _ hu => hu⟩) ?_ ?_
  · rintro u us _ ⟨⟨state, rfl⟩, hus⟩
    obtain ⟨hu, hus⟩ := List.forall_mem_cons.mp hus
    obtain ⟨urb, v, hhas⟩ := hlive u hu
    obtain ⟨hinit, hwaiting⟩ := hurbs u hu urb hhas.hcpriv v hhas.vurb
    have hsame : ({ q with state := state, active := true } : BceVhciTransferQueue).Has u urb v :=
      ⟨hhas.hcpriv, hhas.vurb, hhas.urb_eq⟩
    refine wp_imp (resumeUrb_spec hsame fun h => ?_) fun _ q' heff => ?_
    · exact absurd (h.imp And.left And.left) (not_or.mpr ⟨hinit, hwaiting⟩)
    · cases heff with
      | unchanged => exact ⟨⟨state, rfl⟩, hus⟩
      | init hs => exact absurd hs hinit
      | restarted hs => exact absurd hs hwaiting
      | failed hs => exact absurd hs hwaiting
  · rintro _ ⟨⟨state, rfl⟩, -⟩
    refine wp_imp (wp_deliverPending (I := fun q' => q' = { q with state := state, active := true })
      ?_ rfl) fun _ q' hq' => by rw [hq']
    rintro _ rfl
    have hflags : Flags q { q with state := state, active := true } := ⟨rfl⟩
    have hsame : DeliverIdle { q with state := state, active := true } := hdeliver
    exact wp_imp (deliverRound_spec (hflags.heap.live hlive)
      fun v hv msg hmsg hacc htr => absurd ⟨hacc, htr⟩ (hsame v hv msg hmsg).2)
      fun more q' heff => heff.of_idle hsame

/-- **At most one data element.** In every run whose resume loops restart only
URBs without data in flight, no linked URB has more than one data element in
flight, and resuming a queue none of whose URBs waits to be resumed, active or
not, puts nothing on `sq_in` or `sq_out`. -/
theorem urb_one_data_element {s : Endpoint}
    (h : endpointSystem.Reachable (AtLockStep RoundFlushed) s) :
    (∀ u ∈ s.q.urbList, ∀ urb v, s.q.Has u urb v → dataInFlight s.q.sqs urb ≤ 1) ∧
      (ResumeIdle s.q → ∀ reply, wp (bceVhciTransferQueueResume reply) (fun _ => False)
        (fun r q' => r = 0 → q'.sqs = s.q.sqs) s.q) :=
  ⟨fun u hu urb v hhas => (reachable_oneElement h u hu urb v hhas).one,
    fun hidle reply => resume_idle (reachable_owned h).live hidle reply⟩

/-- Two URBs that ask for data, the first of which is cancelled: the pause
flushes both elements, and resuming asks for the data of the second again. -/
def restartRun : List EndpointAction :=
  [.enqueue 0 ⟨true, 4, 0, 0⟩ 0, .lockStep, .enqueue 1 ⟨true, 4, 0, 0⟩ 0, .lockStep,
    .dequeue 0 (-104), .startCancel 0 (-104), .workStep ⟨0, 0⟩ 0, .workStep ⟨0, 0⟩ 0,
    .workStep ⟨0, BCE_VHCI_ENDPOINT_PAUSED⟩ 0, .workStep ⟨0, 0⟩ 2, .workStep ⟨0, 0⟩ 0,
    .workStep ⟨0, 0⟩ 0, .lockStep, .lockStep, .workStep ⟨0, 0⟩ 0, .workStep ⟨0, 0⟩ 0,
    .workStep ⟨0, 0⟩ 0, .workStep ⟨0, BCE_VHCI_ENDPOINT_ACTIVE⟩ 0, .workStep ⟨0, 0⟩ 0, .lockStep]

def restartState : Endpoint :=
  endpointSystem.after (AtLockStep RoundFlushed) restartRun (.fresh 0x81)

/-- A host-to-device URB that waits for its transfer request. -/
def outState : Endpoint :=
  endpointSystem.after (AtLockStep RoundFlushed)
    [.enqueue 0 ⟨false, 4, 0, 0⟩ 0, .lockStep] (.fresh 0x02)

/-- The second URB has one element in flight, and resuming the other queue, which
is active, leaves it as it is. -/
theorem urb_one_data_element_of_a_run :
    restartState.q.urbList = [1] ∧ dataInFlight restartState.q.sqs 1 ≤ 1 ∧
      outState.q.active = true ∧
      wp (bceVhciTransferQueueResume ⟨0, BCE_VHCI_ENDPOINT_ACTIVE⟩) (fun _ => False)
        (fun r q' => r = 0 → q'.sqs = outState.q.sqs) outState.q := by
  have hreach : endpointSystem.Reachable (AtLockStep RoundFlushed) restartState :=
    .after (.of_init (Endpoint.fresh_init 0x81)) (by decide)
  have hhas : restartState.q.Has 1 1 ((restartState.q.vurbs 1).get (by decide)) :=
    ⟨by decide, (Option.some_get _).symm, by decide⟩
  have hout : endpointSystem.Reachable (AtLockStep RoundFlushed) outState :=
    .after (.of_init (Endpoint.fresh_init 0x02)) (by decide)
  exact ⟨by decide, (urb_one_data_element hreach).1 1 (by decide) 1 _ hhas, by decide,
    (urb_one_data_element hout).2 (by decide) _⟩

/-- A command succeeds, a flush aborts all that is in flight on its queue. -/
def WorkOp.Succeeds (q : BceVhciTransferQueue) (reply : CommandOutcome) (aborted : Nat) :
    WorkOp → Prop
  | .pauseCommand => reply = ⟨0, BCE_VHCI_ENDPOINT_PAUSED⟩
  | .resumeCommand => reply = ⟨0, BCE_VHCI_ENDPOINT_ACTIVE⟩
  | .flush d => ∀ t ∈ q.sqs d, t.inflight.length ≤ aborted
  | _ => True

instance (q : BceVhciTransferQueue) (reply : CommandOutcome) (aborted : Nat) :
    ∀ op, Decidable (WorkOp.Succeeds q reply aborted op)
  | .pauseCommand | .resumeCommand => inferInstanceAs (Decidable (reply = _))
  | .flush d => inferInstanceAs (Decidable (∀ t ∈ q.sqs d, _))
  | .locked | .deactivate | .removePending | .remove .. | .kfree _ | .giveback _
  | .resumeUnlessFwPaused | .activate | .returnUnlessStalled | .resetCommand | .clearStalled
  | .setFwPaused _ | .stall => .isTrue trivial

/-- All commands succeed, and all flushes. -/
def CommandsWork : EndpointAction → Endpoint → Prop
  | .workStep reply aborted, s => ∀ op ∈ s.worker.head?, op.Succeeds s.q reply aborted
  | _, _ => True

instance : ∀ a s, Decidable (CommandsWork a s)
  | .workStep reply aborted, s =>
    inferInstanceAs (Decidable (∀ op ∈ s.worker.head?, op.Succeeds s.q reply aborted))
  | .enqueue .., _ | .dequeue .., _ | .endpointReset, _ | .event _, _ | .completion _, _ | .pop, _
  | .leave, _ | .give _, _ | .startCancel .., _ | .startReset, _ | .startFirmware _, _
  | .lockStep, _ | .complete .., _ | .accept _, _ | .async .., _ => .isTrue trivial

/-- A URB that asks for data, and a firmware request to make the queue active,
which it is: nothing is flushed before the URB is resumed. -/
def activeRun : List EndpointAction :=
  [.enqueue 0 ⟨true, 4, 0, 0⟩ 0, .lockStep,
    .startFirmware ⟨BCE_VHCI_CMD_ENDPOINT_REQUEST_STATE, 0, 0, BCE_VHCI_ENDPOINT_ACTIVE⟩,
    .workStep ⟨0, BCE_VHCI_ENDPOINT_ACTIVE⟩ 0, .workStep ⟨0, 0⟩ 0, .lockStep, .lockStep,
    .lockStep, .lockStep]

def resumedState : Endpoint := endpointSystem.after CommandsWork activeRun (.fresh 0x81)

/-- The data of the URB is asked for twice. -/
theorem data_asked_for_twice :
    ¬∀ s, endpointSystem.Reachable CommandsWork s →
      (∀ u ∈ s.q.urbList, ∀ urb v, s.q.Has u urb v → dataInFlight s.q.sqs urb ≤ 1) := by
  intro h
  have hreach : endpointSystem.Reachable CommandsWork resumedState :=
    .after (.of_init (Endpoint.fresh_init 0x81)) (by decide)
  have hhas : resumedState.q.Has 0 0 ((resumedState.q.vurbs 0).get (by decide)) :=
    ⟨by decide, (Option.some_get _).symm, by decide⟩
  exact absurd (h resumedState hreach 0 (by decide) 0 _ hhas) (by decide)

end BceDriver
