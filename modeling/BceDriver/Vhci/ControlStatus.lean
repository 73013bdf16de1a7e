import BceDriver.Vhci.Linked

/-!
# When a control URB is completed

A control URB is done once its data phase is over and its status is known, or
once the status is an error and setup is over. `Overdue` is a URB that is done
and still linked. Every handler that changes the state or the status checks for
it, except the completion of the setup packet, which starts the data phase:
`SetupChecked` says when that does no harm, and `control_urb_not_overdue` that
nothing else ever does.
-/

namespace BceDriver

namespace BceVhciUrb

/-- The URB is done: it should have been completed. -/
def Overdue (v : BceVhciUrb) : Prop :=
  v.receivedStatus ≠ 0 ∧
    (v.state = .dataTransferComplete ∨
      (v.receivedStatus ≠ BCE_VHCI_SUCCESS ∧
        (v.state = .waitingForTransferRequest ∨ v.state = .waitingForCompletion)))

instance (v : BceVhciUrb) : Decidable v.Overdue := inferInstanceAs (Decidable (_ ∧ _))

/-- The URB is not overdue, and has no status if it is no control URB. -/
structure OnTime (v : BceVhciUrb) : Prop where
  notOverdue : ¬v.Overdue
  noStatus : v.isControl = false → v.receivedStatus = 0

/-- What `bce_vhci_urb_control_check_status` looks for covers every overdue URB. -/
theorem Overdue.settled {v : BceVhciUrb} (h : v.Overdue) : v.Settled := by
  obtain ⟨hstatus, hstate | ⟨herror, hstate | hstate⟩⟩ := h
  · exact ⟨hstatus, .inl hstate⟩
  · exact ⟨hstatus, .inr ⟨herror, by simp [hstate], by simp [hstate]⟩⟩
  · exact ⟨hstatus, .inr ⟨herror, by simp [hstate], by simp [hstate]⟩⟩

/-- A URB that was checked is on time. -/
theorem OnTime.of_checked {v : BceVhciUrb} (hcheck : v.isControl = true → ¬v.Settled)
    (hno : v.isControl = false → v.receivedStatus = 0) : v.OnTime := by
  refine ⟨fun h => ?_, hno⟩
  cases hc : v.isControl with
  | true => exact hcheck hc h.settled
  | false => exact h.1 (hno hc)

/-- A URB whose state is none of those a URB is overdue in. -/
theorem OnTime.of_state {v : BceVhciUrb} (hno : v.isControl = false → v.receivedStatus = 0)
    (h₁ : v.state ≠ .dataTransferComplete) (h₂ : v.state ≠ .waitingForTransferRequest)
    (h₃ : v.state ≠ .waitingForCompletion) : v.OnTime := by
  refine ⟨?_, hno⟩
  rintro ⟨-, h | ⟨-, h | h⟩⟩
  · exact h₁ h
  · exact h₂ h
  · exact h₃ h

/-- Being on time is about the state and the status. -/
theorem OnTime.of_eq {v v' : BceVhciUrb} (h : v.OnTime) (hstate : v'.state = v.state)
    (hstatus : v'.receivedStatus = v.receivedStatus) (hc : v'.isControl = v.isControl) :
    v'.OnTime := by
  constructor
  · unfold Overdue
    rw [hstate, hstatus]
    exact h.notOverdue
  · rw [hstatus, hc]
    exact h.noStatus

end BceVhciUrb

/-- Starting the data phase of the URB leaves it on time: its status is not
known, or is success with a data phase to come, or there is no slot to start
with and the URB is completed. -/
def SetupChecked (q : BceVhciTransferQueue) (v : BceVhciUrb) : Prop :=
  v.receivedStatus = 0 ∨
    (v.receivedStatus = BCE_VHCI_SUCCESS ∧
      ¬(v.dir = .toDevice ∧ (q.urbs v.urb).transferBufferLength = 0)) ∨
    (v.dir = .fromDevice ∧ ¬CanStartIn 1000 q)

instance (q : BceVhciTransferQueue) (v : BceVhciUrb) : Decidable (SetupChecked q v) :=
  inferInstanceAs (Decidable (_ ∨ _))

/-! ## What each handler leaves -/

section Handlers

variable {q q' : BceVhciTransferQueue} {urb u : Nat} {v : BceVhciUrb}

open BceVhciUrb

theorem UpdateEffect.onTime {msg : BceVhciMessage} {r : Int} (hv : q.vurbs urb = some v)
    (h : UpdateEffect q urb v msg r q') (htime : v.OnTime) : LeavesUrb OnTime urb q q' := by
  cases h with
  | deferred => exact .kept hv rfl htime
  | refused => exact .kept hv rfl htime
  | setup => exact .stored rfl (.of_state htime.noStatus (by simp) (by simp) (by simp))
  | out _ _ _ _ hcheck => exact .stored rfl (.of_checked hcheck htime.noStatus)
  | outSettled => exact .freed (settle_vurbs ..)
  | status hc _ hcheck =>
    exact .stored rfl (.of_checked (fun _ => hcheck) fun hc' => by simp [hc] at hc')
  | settled => exact .freed (settle_vurbs ..)

theorem InitEffect.onTime {r : Int} (hv : q.vurbs urb = some v) (h : InitEffect q urb v r q')
    (htime : v.OnTime) : LeavesUrb OnTime urb q q' := by
  have hno : v.isControl = false → ∀ v' : BceVhciUrb, v'.isControl = v.isControl →
      v'.receivedStatus = v.receivedStatus → v'.OnTime := by
    intro hc v' hc' hs
    refine .of_checked (fun h => ?_) fun _ => hs.trans (htime.noStatus hc)
    rw [hc', hc] at h
    cases h
  cases h with
  | control => exact .stored rfl (.of_state htime.noStatus (by simp) (by simp) (by simp))
  | out hc => exact .stored rfl (hno hc _ rfl rfl)
  | startedIn hc _ h => exact .startedIn h (hno hc _ rfl rfl)
  | failed _ _ h => exact .kept hv h.waited.vurbs htime

theorem ResumeEffect.onTime (hv : q.vurbs urb = some v) (h : ResumeEffect q urb v q')
    (htime : v.OnTime) : LeavesUrb OnTime urb q q' := by
  cases h with
  | unchanged => exact .kept hv rfl htime
  | init _ h => exact h.onTime hv htime
  | restarted hs h => exact .startedIn h (htime.of_eq hs.symm rfl rfl)
  | failed _ h => exact .startFailed h ..

/-- A completion leaves the URB on time, the setup completion if it is checked. -/
theorem CompletionEffect.onTime {c : BceSqCompletionData} (hv : q.vurbs urb = some v)
    (h : CompletionEffect q urb v c q') (htime : v.OnTime)
    (hsetup : v.isControl = true → v.state = .controlWaitingForSetupCompletion →
      SetupChecked q v) : LeavesUrb OnTime urb q q' := by
  cases h with
  | ignored => exact .kept hv rfl htime
  | progress => exact .stored rfl (htime.of_eq rfl rfl rfl)
  | dataDone hc _ _ hcheck => exact .stored rfl (.of_checked (fun _ => hcheck) htime.noStatus)
  | done => exact .freed rfl
  | doneSettled => exact .freed (settle_vurbs ..)
  | settled => exact .freed (settle_vurbs ..)
  | startedIn hc hs hd h =>
    refine .startedIn h ⟨?_, htime.noStatus⟩
    rintro ⟨hstatus, hdone | ⟨herror, -⟩⟩
    · cases hdone
    · rcases hsetup hc hs with h0 | ⟨h1, -⟩ | ⟨-, hcannot⟩
      · exact hstatus h0
      · exact herror h1
      · exact hcannot h.can
  | startFailed _ _ _ h => exact .startFailed h ..
  | startedOut hc hs hd =>
    refine .stored rfl ⟨?_, htime.noStatus⟩
    rintro ⟨hstatus, hover⟩
    rcases hsetup hc hs with h0 | ⟨h1, hlen⟩ | ⟨hin, -⟩
    · exact hstatus h0
    · rcases hover with hdone | ⟨herror, -⟩
      · unfold outStartState at hdone
        dsimp only at hdone
        split at hdone
        · cases hdone
        · exact hlen ⟨hd, by omega⟩
      · exact herror h1
    · simp [hd] at hin

end Handlers

/-! ## All runs -/

section Runs

variable {q q' : BceVhciTransferQueue}

theorem UpdateEffect.keepsOnTime {u urb : Nat} {v : BceVhciUrb} {msg : BceVhciMessage} {r : Int}
    (hup : UpdateEffect q urb v msg r q') (hnodup : q.urbList.Nodup)
    (h : EveryLinked (fun _ _ v => v.OnTime) q) (hhead : q.Head u urb v) :
    EveryLinked (fun _ _ v => v.OnTime) q' :=
  h.handler hnodup (hup.heap hhead.vurb)
    (hup.onTime hhead.vurb (h _ (Head.mem hhead) _ _ hhead.toHas))

theorem DeliverEffect.onTime {more : Bool} (hnodup : q.urbList.Nodup)
    (h : EveryLinked (fun _ _ v => v.OnTime) q) (heff : DeliverEffect q more q') :
    EveryLinked (fun _ _ v => v.OnTime) q' :=
  h.deliver (fun hhead hup => hup.keepsOnTime hnodup h hhead) heff

theorem EventEffect.onTime {msg : BceVhciMessage} (hnodup : q.urbList.Nodup)
    (h : EveryLinked (fun _ _ v => v.OnTime) q) (heff : EventEffect q msg q') :
    EveryLinked (fun _ _ v => v.OnTime) q' :=
  h.event (fun hhead hup => hup.keepsOnTime hnodup h hhead) heff

/-- The completion a round is about to consume, if it is one of a setup packet,
starts the data phase of a URB that stays on time. -/
def RoundChecked : LockOp → BceVhciTransferQueue → Prop
  | .completions d, q => ∀ c ∈ q.nextCompletion d, c.status ≠ BCE_COMPLETION_ABORTED →
      ∀ v ∈ q.headVurb, v.isControl = true → v.state = .controlWaitingForSetupCompletion →
        SetupChecked q v
  | _, _ => True

instance : ∀ op q, Decidable (RoundChecked op q)
  | .completions d, q => inferInstanceAs (Decidable (∀ c ∈ q.nextCompletion d, _))
  | .deliver, _ | .event _, _ | .resume _, _ | .giveback, _ | .back, _ => .isTrue trivial

theorem CompletionRoundEffect.onTime {d : DmaDataDirection} {more : Bool}
    (hnodup : q.urbList.Nodup) (h : EveryLinked (fun _ _ v => v.OnTime) q)
    (heff : CompletionRoundEffect q d more q') (hcheck : RoundChecked (.completions d) q) :
    EveryLinked (fun _ _ v => v.OnTime) q' := by
  refine h.completionRound id (fun {t c sq u urb v q₁} ht hnext hstatus hhead heff hcons => ?_) heff
  have hv : (q.consume d t sq).vurbs urb = some v := hhead.vurb
  refine hcons.handler hnodup (heff.heap hv)
    (heff.onTime hv (h _ (Head.mem hhead) _ _ hhead.toHas) fun hc hs => ?_)
  have hsetup := hcheck c (BceVhciTransferQueue.nextCompletion_eq ht hnext) hstatus v
    hhead.headVurb hc hs
  exact hsetup.imp id (Or.imp id (And.imp id
    (mt (BceVhciTransferQueue.canStartIn_of_consume ht hnext))))

/-- A new URB has no status yet. -/
theorem CreateEffect.onTime {u : Nat} {r : Int} (h : EveryLinked (fun _ _ v => v.OnTime) q)
    (heff : CreateEffect q u r q') : EveryLinked (fun _ _ v => v.OnTime) q' := by
  have hfresh : (freshVurb q u).OnTime :=
    .of_state (fun _ => rfl) (by simp [freshVurb]) (by simp [freshVurb]) (by simp [freshVurb])
  refine h.create hfresh (fun hlink q' r hi => ?_) heff
  have hv : (q.link u).vurbs q.nextVurb = some (freshVurb q u) := Function.update_self ..
  exact hlink.init (hi.heap hv) (hi.onTime hv hfresh)

/-- **No URB is overdue** in the runs whose setup completions are all checked. -/
theorem reachable_onTime {s : Endpoint}
    (h : endpointSystem.Reachable (AtLockStep RoundChecked) s) :
    EveryLinked (fun _ _ v => v.OnTime) s.q := by
  refine StepSystem.Reachable.invariant (I := fun s => EveryLinked (fun _ _ v => v.OnTime) s.q)
    ?_ ?_ h
  · rintro s ⟨address, devAddr, qidIn, qidOut, urbs, m, w, rfl⟩ u hu
    simp [Endpoint.start, bceVhciCreateTransferQueue] at hu
  · intro a s s' hreach htime hguard hstep
    have howned := reachable_owned hreach
    have hnodup := howned.urbList_nodup
    refine htime.step (step_spec howned hstep) (fun _ _ _ r q' _ _ _ heff h => heff.onTime h)
      (fun more q' heff => heff.onTime hnodup htime) ?_
      (fun msg q' heff => heff.onTime hnodup htime) ?_
      (fun d t t' _ _ => htime.of_sqs rfl rfl rfl fun _ _ hv => hv)
    · intro d ops more q' ha hops heff
      subst ha
      exact heff.onTime hnodup htime (hguard.head hops)
    · intro u us ops urb v q' ha hops hu hhas heff
      exact htime.handler hnodup (heff.heap hhas.vurb)
        (heff.onTime hhas.vurb (htime u hu urb v hhas))

/-- **No linked URB is done** in the runs whose setup completions are checked:
whatever the order of its messages and completions, a control URB is completed as
soon as its data phase is over and its status known, or its status is an error
and setup is over. -/
theorem control_urb_not_overdue {s : Endpoint}
    (h : endpointSystem.Reachable (AtLockStep RoundChecked) s) :
    ∀ u ∈ s.q.urbList, ∀ urb v, s.q.Has u urb v → ¬v.Overdue :=
  fun u hu urb v hhas => (reachable_onTime h u hu urb v hhas).notOverdue

end Runs

/-- A control transfer without data, up to the setup packet sent. -/
def setupRun : List EndpointAction :=
  [.enqueue 0 ⟨false, 0, 0, 0⟩ 0, .lockStep,
    .event ⟨BCE_VHCI_CMD_TRANSFER_REQUEST, 0, 0, 8⟩, .lockStep, .lockStep, .lockStep, .leave]

/-- The setup packet is completed before the status comes. -/
def completedRun : List EndpointAction :=
  setupRun ++ [.complete .toDevice ⟨0, 8, 0⟩, .accept .toDevice, .completion .toDevice,
    .lockStep, .lockStep, .lockStep, .lockStep, .leave]

/-- The status comes before the completion of the setup packet is seen. -/
def statusRun : List EndpointAction :=
  setupRun ++ [.event ⟨BCE_VHCI_CMD_CONTROL_TRANSFER_STATUS, BCE_VHCI_SUCCESS, 0, 0⟩, .lockStep,
    .lockStep, .lockStep, .leave]

def completedState : Endpoint :=
  endpointSystem.after (AtLockStep RoundChecked) completedRun (.fresh 0x00)

def statusState : Endpoint :=
  endpointSystem.after (AtLockStep RoundChecked) statusRun (.fresh 0x00)

/-- Up to there the URB is on time: it waits for its status, or for its setup packet. -/
theorem control_urb_not_overdue_of_a_run :
    (completedState.q.urbList = [0] ∧ ∃ v, completedState.q.Has 0 0 v ∧
      (v.state = .dataTransferComplete ∧ v.receivedStatus = 0) ∧ ¬v.Overdue) ∧
    (statusState.q.urbList = [0] ∧ ∃ v, statusState.q.Has 0 0 v ∧
      (v.state = .controlWaitingForSetupCompletion ∧ v.receivedStatus = BCE_VHCI_SUCCESS) ∧
      ¬v.Overdue) := by
  have hcompleted : endpointSystem.Reachable (AtLockStep RoundChecked) completedState :=
    .after (.of_init (Endpoint.fresh_init 0x00)) (by decide)
  have hstatus : endpointSystem.Reachable (AtLockStep RoundChecked) statusState :=
    .after (.of_init (Endpoint.fresh_init 0x00)) (by decide)
  have hlinked : completedState.q.Has 0 0 ((completedState.q.vurbs 0).get (by decide)) :=
    ⟨by decide, (Option.some_get _).symm, by decide⟩
  have hlinked' : statusState.q.Has 0 0 ((statusState.q.vurbs 0).get (by decide)) :=
    ⟨by decide, (Option.some_get _).symm, by decide⟩
  exact ⟨⟨by decide, _, hlinked, by decide,
      control_urb_not_overdue hcompleted 0 (by decide) 0 _ hlinked⟩,
    by decide, _, hlinked', by decide, control_urb_not_overdue hstatus 0 (by decide) 0 _ hlinked'⟩

/-- The setup completion then starts a data phase that is over at once. -/
def overdueState : Endpoint :=
  endpointSystem.after (fun _ _ => True)
    (statusRun ++ [.complete .toDevice ⟨0, 8, 0⟩, .accept .toDevice, .completion .toDevice,
      .lockStep, .lockStep, .lockStep, .lockStep]) (.fresh 0x00)

/-- The URB, whose status is known, stays linked. -/
theorem status_known_at_setup_completion :
    ¬∀ s, endpointSystem.Reachable (fun _ _ => True) s → s.lock = [] →
      ∀ u ∈ s.q.urbList, ∀ urb v, s.q.Has u urb v → v.isControl = true → ¬v.Overdue := by
  intro h
  have hreach : endpointSystem.Reachable (fun _ _ => True) overdueState :=
    .after (.of_init (Endpoint.fresh_init 0x00)) (by decide)
  have hhas : overdueState.q.Has 0 0 ((overdueState.q.vurbs 0).get (by decide)) :=
    ⟨by decide, (Option.some_get _).symm, by decide⟩
  exact absurd (h overdueState hreach (by decide) 0 (by decide) 0 _ hhas (by decide)) (by decide)

end BceDriver
