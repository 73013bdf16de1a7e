import BceDriver.Lib.History
import BceDriver.Vhci.Linked

/-!
# Stalled queues

`q->active` and `q->stalled` are written by failed control transfers, by the
firmware, and by the pause, the resume and the reset, the last three partly
outside `urb_lock`.

- `StallsAtMost`: what everything but the workqueue does to the flags.
- `Parked`: an enqueue of a queue that is not active waits for a resume, and
  nothing but a resume starts it.
- `sinceStall`: what the workqueue has done since the queue was stalled.
- `stalled_queue_recovers`: as long as no resume activates a stalled queue, a
  stalled queue is not active, and is active again only after a reset.
-/

namespace BceDriver

open FaultState

/-! ## The two flags -/

/-- The flags are as before, or a control transfer failed. -/
def StallsAtMost (q q' : BceVhciTransferQueue) : Prop :=
  (q'.active = q.active ∧ q'.stalled = q.stalled) ∨ (q'.active = false ∧ q'.stalled = true)

section Flags

variable {q q₁ q' : BceVhciTransferQueue} {urb u : Nat} {v : BceVhciUrb}

theorem StallsAtMost.refl (q : BceVhciTransferQueue) : StallsAtMost q q := .inl ⟨rfl, rfl⟩

theorem StallsAtMost.trans (h : StallsAtMost q q₁) (h' : StallsAtMost q₁ q') :
    StallsAtMost q q' := by
  rcases h' with ⟨ha, hs⟩ | h'
  · unfold StallsAtMost
    rw [ha, hs]
    exact h
  · exact .inr h'

/-- A queue that is not active and stalled does not become so. -/
theorem StallsAtMost.not_both (h : StallsAtMost q q') (hq : q.stalled = true → q.active = false) :
    q'.stalled = true → q'.active = false := by
  rcases h with ⟨ha, hs⟩ | ⟨ha, -⟩
  · rw [ha, hs]
    exact hq
  · exact fun _ => ha

theorem StallsAtMost.stalled (h : StallsAtMost q q') (hq : q.stalled = true) :
    q'.stalled = true := by
  rcases h with ⟨-, hs⟩ | ⟨-, hs⟩
  · exact hs.trans hq
  · exact hs

theorem settle_stalls (q : BceVhciTransferQueue) (urb u receivedStatus : Nat) :
    StallsAtMost q (q.settle urb u receivedStatus) := by
  unfold BceVhciTransferQueue.settle
  split
  · exact .inr ⟨rfl, rfl⟩
  · exact .refl q

/-- Starting a URB is not its failure. -/
theorem StartedIn.flags {timeout : Nat} (h : StartedIn timeout q urb v q') :
    q'.active = q.active ∧ q'.stalled = q.stalled := by
  obtain ⟨t, -, -, hq'⟩ := h.slot
  rw [hq']
  exact ⟨rfl, rfl⟩

theorem Waited.flags (h : Waited q q') : q'.active = q.active ∧ q'.stalled = q.stalled := by
  rw [h.frame]
  exact ⟨rfl, rfl⟩

theorem InitEffect.flags {r : Int} (h : InitEffect q urb v r q') :
    q'.active = q.active ∧ q'.stalled = q.stalled := by
  cases h with
  | control => exact ⟨rfl, rfl⟩
  | out => exact ⟨rfl, rfl⟩
  | startedIn _ _ h => exact h.flags
  | failed _ _ h => exact h.waited.flags

theorem ResumeEffect.flags (h : ResumeEffect q urb v q') :
    q'.active = q.active ∧ q'.stalled = q.stalled := by
  cases h with
  | unchanged => exact ⟨rfl, rfl⟩
  | init _ h => exact h.flags
  | restarted _ h => exact h.flags
  | failed _ h => exact h.waited.flags

theorem CreateEffect.flags {r : Int} (h : CreateEffect q u r q') :
    q'.active = q.active ∧ q'.stalled = q.stalled := by
  cases h with
  | refused => exact ⟨rfl, rfl⟩
  | active _ h => exact h.flags
  | failed _ _ h => exact h.flags
  | paused => exact ⟨rfl, rfl⟩

theorem UpdateEffect.stalls {msg : BceVhciMessage} {r : Int} (h : UpdateEffect q urb v msg r q') :
    StallsAtMost q q' := by
  cases h with
  | outSettled => exact .trans (.refl q) (settle_stalls ..)
  | settled => exact settle_stalls ..
  | _ => exact .refl q

theorem CompletionEffect.stalls {c : BceSqCompletionData} (h : CompletionEffect q urb v c q') :
    StallsAtMost q q' := by
  cases h with
  | doneSettled => exact .trans (.refl q) (settle_stalls ..)
  | settled => exact settle_stalls ..
  | startedIn _ _ _ h => exact .inl h.flags
  | startFailed _ _ _ h => exact .inl h.waited.flags
  | _ => exact .refl q

theorem DeliverEffect.stalls {more : Bool} (h : DeliverEffect q more q') : StallsAtMost q q' := by
  cases h with
  | idle => exact .refl q
  | blocked _ _ h => exact h.stalls
  | delivered _ _ h => exact h.stalls

theorem EventEffect.stalls {msg : BceVhciMessage} (h : EventEffect q msg q') :
    StallsAtMost q q' := by
  cases h with
  | dropped => exact .refl q
  | queued => exact .refl q
  | deferred _ _ h => exact h.stalls
  | updated _ _ h => exact h.stalls

theorem CompletionRoundEffect.stalls {d : DmaDataDirection} {more : Bool}
    (h : CompletionRoundEffect q d more q') : StallsAtMost q q' := by
  cases h with
  | idle => exact .refl q
  | skipped => exact .refl q
  | completed _ _ _ _ h => exact h.stalls

end Flags

/-! ## Parked URBs -/

/-- A linked URB is parked, or its enqueue is one of those in `S`. -/
def ParkedUnless (S : Nat → Prop) (_ : DmaDataDirection → Option TransferSq) (urb : Nat)
    (v : BceVhciUrb) : Prop :=
  v.state = .initPaused ∨ S urb

/-- The enqueues of `q` that were started. -/
def Started (q : BceVhciTransferQueue) (urb : Nat) : Prop :=
  ∃ v, q.vurbs urb = some v ∧ v.state ≠ .initPaused

/-- No URB was started between `q` and `q'`: one that is linked is parked, or
was started before. -/
def StartsNothing (q q' : BceVhciTransferQueue) : Prop :=
  EveryLinked (ParkedUnless (Started q)) q'

theorem StartsNothing.refl (q : BceVhciTransferQueue) : StartsNothing q q := by
  intro u _ urb v hhas
  by_cases hs : v.state = .initPaused
  · exact .inl hs
  · exact .inr ⟨v, hhas.vurb, hs⟩

section Parked

variable {S : Nat → Prop} {q q' : BceVhciTransferQueue} {urb u : Nat} {v : BceVhciUrb}

/-- A message does not start a parked URB: an error status ends it at most. -/
theorem UpdateEffect.parked {msg : BceVhciMessage} {r : Int} (hv : q.vurbs urb = some v)
    (h : UpdateEffect q urb v msg r q') :
    LeavesUrb (fun v' => v.state = .initPaused → v'.state = .initPaused) urb q q' := by
  cases h with
  | deferred => exact .kept hv rfl id
  | refused => exact .kept hv rfl id
  | setup _ hs => exact .stored rfl fun hp => by simp [hp] at hs
  | out hs => exact .stored rfl fun hp => by simp [hp] at hs
  | outSettled => exact .freed (settle_vurbs ..)
  | status => exact .stored rfl id
  | settled => exact .freed (settle_vurbs ..)

/-- A completion is not one of a parked URB's. -/
theorem CompletionEffect.parked {c : BceSqCompletionData} (hv : q.vurbs urb = some v)
    (h : CompletionEffect q urb v c q') :
    LeavesUrb (fun v' => v.state = .initPaused → v'.state = .initPaused) urb q q' := by
  cases h with
  | ignored => exact .kept hv rfl id
  | progress => exact .stored rfl id
  | dataDone _ hs => exact .stored rfl fun hp => by simp [hp] at hs
  | done => exact .freed rfl
  | doneSettled => exact .freed (settle_vurbs ..)
  | settled => exact .freed (settle_vurbs ..)
  | startedIn _ hs _ h => exact .startedIn h fun hp => by simp [hp] at hs
  | startFailed _ _ _ h => exact .startFailed h ..
  | startedOut _ hs => exact .stored rfl fun hp => by simp [hp] at hs

/-- A handler that leaves its URB parked, if it is. -/
theorem EveryLinked.parked {x : Option BceVhciUrb} (h : EveryLinked (ParkedUnless S) q)
    (hmem : u ∈ q.urbList) (hhas : q.Has u urb v) (hq : Touches q urb x q')
    (hx : ∀ v' ∈ x, v.state = .initPaused → v'.state = .initPaused) :
    EveryLinked (ParkedUnless S) q' := by
  refine h.touches hq (fun _ _ _ hp => hp) fun v' hv' => ?_
  rcases h u hmem urb v hhas with hp | hS
  · exact .inl (hx v' hv' hp)
  · exact .inr hS

theorem UpdateEffect.keepsParked {msg : BceVhciMessage} {r : Int}
    (hup : UpdateEffect q urb v msg r q') (hnodup : q.urbList.Nodup)
    (h : EveryLinked (ParkedUnless S) q) (hhead : q.Head u urb v) :
    EveryLinked (ParkedUnless S) q' := by
  obtain ⟨x, hv, hx⟩ := hup.parked hhead.vurb
  exact h.parked (Head.mem hhead) hhead.toHas (.of_heap hnodup (hup.heap hhead.vurb) hv) hx

theorem DeliverEffect.parked {more : Bool} (heff : DeliverEffect q more q')
    (hnodup : q.urbList.Nodup) (h : EveryLinked (ParkedUnless S) q) :
    EveryLinked (ParkedUnless S) q' :=
  h.deliver (fun hhead hup => hup.keepsParked hnodup h hhead) heff

theorem EventEffect.parked {msg : BceVhciMessage} (heff : EventEffect q msg q')
    (hnodup : q.urbList.Nodup) (h : EveryLinked (ParkedUnless S) q) :
    EveryLinked (ParkedUnless S) q' :=
  h.event (fun hhead hup => hup.keepsParked hnodup h hhead) heff

theorem CompletionRoundEffect.parked {d : DmaDataDirection} {more : Bool}
    (heff : CompletionRoundEffect q d more q') (hnodup : q.urbList.Nodup)
    (h : EveryLinked (ParkedUnless S) q) : EveryLinked (ParkedUnless S) q' := by
  refine h.completionRound id (fun {t c sq u urb v q₁} _ _ _ hhead heff hcons => ?_) heff
  have hhas : (q.consume d t sq).Has u urb v := (hhead.consume d t sq).toHas
  obtain ⟨x, hv, hx⟩ := heff.parked hhas.vurb
  exact hcons.parked (show u ∈ q.urbList from Head.mem hhead) hhas
    (.of_heap hnodup (heff.heap hhas.vurb) hv) hx

/-- What is enqueued while the queue is not active is parked. -/
theorem CreateEffect.parked {r : Int} (heff : CreateEffect q u r q') (ha : q.active = false)
    (h : EveryLinked (ParkedUnless S) q) : EveryLinked (ParkedUnless S) q' := by
  have hfresh : ParkedUnless S q.sqs q.nextVurb (freshVurb q u) := .inl rfl
  cases heff with
  | refused => exact h.refuse u
  | active ha' => simp [ha] at ha'
  | failed ha' => simp [ha] at ha'
  | paused => exact (h.link hfresh).of_eq rfl rfl rfl rfl

end Parked

/-! ## Steps of everybody but the workqueue -/

/-- What everybody but the work item does to the workqueue. -/
inductive WorkqueueStep (s : Endpoint) (a : EndpointAction) (s' : Endpoint) : Prop where
  | same : (∀ u status, a ≠ .startCancel u status) → s'.worker = s.worker →
      s'.cancels = s.cancels → WorkqueueStep s a s'
  /-- the work item does not hold `urb_lock` any more -/
  | unlocked : a = .lockStep → s.worker = .locked :: s'.worker → s'.cancels = s.cancels →
      WorkqueueStep s a s'
  | queued {u : Nat} {status : Int} : a = .dequeue u status → u ∈ s.q.urbList →
      s'.worker = s.worker → s'.cancels = s.cancels ++ [(u, status)] → WorkqueueStep s a s'
  | cancel {u : Nat} {status : Int} : a = .startCancel u status → s.worker = [] →
      (u, status) ∈ s.cancels → s'.worker = cancelOps u status →
      s'.cancels = s.cancels.erase (u, status) → WorkqueueStep s a s'
  | reset : a = .startReset → s.worker = [] → s'.worker = resetOps → s'.cancels = s.cancels →
      WorkqueueStep s a s'
  | firmware {msg : BceVhciMessage} : a = .startFirmware msg → s.worker = [] →
      s'.worker = firmwareOps msg → s'.cancels = s.cancels → WorkqueueStep s a s'

/-- A step that is not the work item's: the queue is stalled at most, and no resume
loop begins. -/
structure OffWork (s : Endpoint) (a : EndpointAction) (s' : Endpoint) : Prop where
  flags : StallsAtMost s.q s'.q
  resuming : s'.resuming ≠ [] → s.resuming ≠ [] ∧ s'.q.stalled = s.q.stalled
  workqueue : WorkqueueStep s a s'

section OffWork

variable {s s' : Endpoint} {a : EndpointAction}

/-- Nothing that matters changed. -/
theorem OffWork.of_eq (ha : s'.q.active = s.q.active) (hs : s'.q.stalled = s.q.stalled)
    (hl : s'.lock = s.lock) (hw : WorkqueueStep s a s') : OffWork s a s' := by
  refine ⟨.inl ⟨ha, hs⟩, fun h => ⟨?_, hs⟩, hw⟩
  simpa only [Endpoint.resuming, hl] using h

/-- A step under the lock, outside the resume loop. -/
theorem OffWork.of_locked (hq : StallsAtMost s.q s'.q) (hr : s'.resuming = [])
    (hw : WorkqueueStep s a s') : OffWork s a s' :=
  ⟨hq, fun h => absurd hr h, hw⟩

theorem lockStep_offWork (h : Owned s) (hstep : s.lockStep = some s') :
    OffWork s .lockStep s' := by
  obtain ⟨b, hlock, hworker⟩ := h.contexts
  have hdied : OffWork s .lockStep { s with fault := some .nullDeref } :=
    .of_eq rfl rfl rfl (.same nofun rfl rfl)
  cases lockStep_branch hstep with
  | deliver hops =>
    rw [hops] at hlock
    refine Endpoint.exec_elim (deliverRound_spec (E := (· = .nullDeref)) h.live
      fun _ _ _ _ _ _ _ => rfl)
      (fun more q' heff => .of_locked heff.stalls ?_ (.same nofun rfl rfl)) hdied
    cases more with
    | true => rfl
    | false => exact hlock.resuming_tail _ rfl
  | @completions d ops hops =>
    rw [hops] at hlock
    refine Endpoint.exec_elim (completionRound_spec (E := (· = .nullDeref)) h.live d
      (fun _ => rfl) fun _ _ _ _ => rfl)
      (fun more q' heff => .of_locked heff.stalls ?_ (.same nofun rfl rfl)) hdied
    cases more with
    | true => rfl
    | false => exact hlock.resuming_tail _ rfl
  | @event msg ops hops =>
    rw [hops] at hlock
    exact Endpoint.exec_elim (eventBody_spec (E := (· = .nullDeref)) h.live msg
      fun _ _ _ _ => rfl)
      (fun _ q' heff => .of_locked heff.stalls (hlock.resuming_tail _ rfl) (.same nofun rfl rfl))
      hdied
  | resumed hops | giveback hops =>
    rw [hops] at hlock
    exact .of_locked (.refl _) (hlock.resuming_tail _ rfl) (.same nofun rfl rfl)
  | @resume u us ops hops =>
    have hres : s.resuming = u :: us := by simp [Endpoint.resuming, hops]
    obtain ⟨v, hhas⟩ := h.linked u (h.resuming.2 u (by simp [hres]))
    refine Endpoint.exec_elim (resumeUrb_spec (E := (· = .nullDeref)) hhas fun _ _ => rfl)
      (fun _ q' heff => ⟨.inl heff.flags, fun _ => ⟨?_, heff.flags.2⟩, .same nofun rfl rfl⟩) hdied
    simp [hres]
  | back hops =>
    rw [hops] at hlock
    cases hlock with
    | plain hplain => exact absurd (hplain .back (by simp)) id
    | back =>
      -- the worker waits for the lock at the head of its program
      generalize hw : s.worker = worker at hworker
      cases hworker with
      | locked =>
        refine ⟨.refl _, fun hr => absurd rfl hr, .unlocked rfl ?_ rfl⟩
        simp [hw]

theorem step_offWork (h : Owned s) (hstep : Endpoint.step a s = some s')
    (ha : ∀ reply aborted, a ≠ .workStep reply aborted) : OffWork s a s' := by
  cases (step_branch hstep).2 with
  | workStep => exact absurd rfl (ha _ _)
  | lockStep hlock => exact lockStep_offWork h hlock
  | @enqueue u request linked =>
    have hdir : ((s.q.fill u request).urbs u).dirIn = true →
        (s.q.fill u request).sqs .fromDevice = none → (Fault.nullDeref = .nullDeref) :=
      fun _ _ => rfl
    unfold Endpoint.enqueue
    refine Endpoint.exec_elim (s := { s with q := s.q.fill u request })
      (createBody_spec (E := (· = .nullDeref)) u hdir linked) (fun r q' heff => ?_)
      (.of_eq rfl rfl rfl (.same nofun rfl rfl))
    split
    · exact .of_locked (.inl heff.flags) rfl (.same nofun rfl rfl)
    · exact .of_eq heff.flags.1 heff.flags.2 rfl (.same nofun rfl rfl)
  | @dequeue u status =>
    refine Endpoint.exec_ok (checkUnlink_spec s.q u) fun r q' hq' => ?_
    obtain ⟨rfl, hlinked⟩ := hq'
    refine .of_eq rfl rfl rfl ?_
    by_cases hr : r = 0
    · exact .queued rfl (hlinked hr) rfl (if_pos hr)
    · exact .same nofun rfl (if_neg hr)
  | event | completion => exact .of_locked (.refl _) rfl (.same nofun rfl rfl)
  | startCancel hw hmem => exact ⟨.refl _, fun hr => ⟨hr, rfl⟩, .cancel rfl hw hmem rfl rfl⟩
  | startReset hw => exact ⟨.refl _, fun hr => ⟨hr, rfl⟩, .reset rfl hw rfl rfl⟩
  | startFirmware hw => exact ⟨.refl _, fun hr => ⟨hr, rfl⟩, .firmware rfl hw rfl rfl⟩
  | endpointReset | pop | leave | give | complete | accept | async =>
    exact .of_eq rfl rfl rfl (.same nofun rfl rfl)

end OffWork

/-! ## The reset -/

/-- What the reset worker does to a stalled queue before it calls it recovered. -/
def recovery : List WorkOp :=
  [.removePending, .flush .fromDevice, .flush .toDevice, .resetCommand]

/-- What the workqueue has done since the queue was stalled, if it ever was. -/
def sinceStall (a : EndpointAction) (s s' : Endpoint) (done : Option (List WorkOp)) :
    Option (List WorkOp) :=
  if s.q.stalled = false ∧ s'.q.stalled = true then
    some []
  else
    match a with
    | .workStep _ _ => done.map (· ++ s.worker.head?.toList)
    | _ => done

/-- The runs of an endpoint, with what the workqueue has done since the last stall. -/
def stallSystem : StepSystem (Endpoint × Option (List WorkOp)) EndpointAction :=
  endpointSystem.withHistory (fun _ => none) sinceStall

/-- A resume does not activate a stalled queue. -/
def ActivatesUnstalled : EndpointAction → Endpoint → Prop
  | .workStep _ _, s => s.worker.head? = some .activate → s.q.stalled = false
  | _, _ => True

instance : ∀ a s, Decidable (ActivatesUnstalled a s)
  | .workStep _ _, s =>
    inferInstanceAs (Decidable (s.worker.head? = some .activate → s.q.stalled = false))
  | .enqueue .., _ | .dequeue .., _ | .endpointReset, _ | .event _, _ | .completion _, _ | .pop, _
  | .leave, _ | .give _, _ | .startCancel .., _ | .startReset, _ | .startFirmware _, _
  | .lockStep, _ | .complete .., _ | .accept _, _ | .async .., _ => .isTrue trivial

/-- The flags, and how far a reset that is going to clear `q->stalled` is. -/
structure StallInv (s : Endpoint) (since : Option (List WorkOp)) : Prop where
  notBoth : s.q.stalled = true → s.q.active = false
  resuming : s.resuming ≠ [] → s.q.stalled = false
  recovered : s.q.stalled = false → ∀ done ∈ since, recovery <:+: done
  /-- a reset either has yet to look at `q->stalled`, or found it set and has done the
  rest of its program since -/
  resetting : .clearStalled ∈ s.worker → s.worker = resetOps ∨
    (s.q.stalled = true ∧
      ∃ ops, ops ++ s.worker = resetOps.tail ∧ ∀ done ∈ since, ops <:+ done)

/-- The invariant after a step of the work item of `s`. -/
def StallInvAfter (s : Endpoint) (since : Option (List WorkOp)) (s' : Endpoint) : Prop :=
  ∀ reply aborted, StallInv s' (sinceStall (.workStep reply aborted) s s' since)

section Reset

variable {s s' : Endpoint} {since : Option (List WorkOp)} {op : WorkOp} {ops : List WorkOp}

/-- Only a reset is going to clear `q->stalled`. -/
theorem StallInv.not_resetting (h : StallInv s since) (hw : s.worker = op :: ops)
    (hop : op ∉ resetOps) : .clearStalled ∉ s.worker := by
  intro hmem
  rcases h.resetting hmem with hall | ⟨-, ops', hsplit, -⟩
  · exact hop (by rw [← hall, hw]; exact List.mem_cons_self)
  · refine hop (List.mem_of_mem_tail ?_)
    rw [← hsplit, hw]
    exact List.mem_append_right _ List.mem_cons_self

theorem StallInv.offWork {a : EndpointAction} (h : StallInv s since) (hoff : OffWork s a s')
    (ha : ∀ reply aborted, a ≠ .workStep reply aborted) :
    StallInv s' (sinceStall a s s' since) := by
  have hkept : s.q.stalled = s'.q.stalled → sinceStall a s s' since = since := by
    intro hs
    unfold sinceStall
    rw [if_neg (by rw [hs]; simp)]
    cases a with
    | workStep reply aborted => exact absurd rfl (ha reply aborted)
    | _ => rfl
  refine ⟨hoff.flags.not_both h.notBoth, fun hr => ?_, fun hs => ?_, fun hmem => ?_⟩
  · obtain ⟨hr', hs⟩ := hoff.resuming hr
    exact hs.trans (h.resuming hr')
  · have hs' : s.q.stalled = false := by
      rcases hoff.flags with ⟨-, heq⟩ | ⟨-, ht⟩
      · exact heq.symm.trans hs
      · simp [hs] at ht
    rw [hkept (hs'.trans hs.symm)]
    exact h.recovered hs'
  · have hsame : s'.worker = s.worker → s'.worker = resetOps ∨ (s'.q.stalled = true ∧
        ∃ ops, ops ++ s'.worker = resetOps.tail ∧
          ∀ done ∈ sinceStall a s s' since, ops <:+ done) := by
      intro hw
      rw [hw] at hmem ⊢
      rcases h.resetting hmem with hall | ⟨ht, hrest⟩
      · exact .inl hall
      · have ht' := hoff.flags.stalled ht
        rw [hkept (ht.trans ht'.symm)]
        exact .inr ⟨ht', hrest⟩
    cases hoff.workqueue with
    | same _ hw => exact hsame hw
    | queued _ _ hw => exact hsame hw
    | unlocked _ hw =>
      exact absurd (hw ▸ List.mem_cons_of_mem _ hmem) (h.not_resetting hw (by decide))
    | cancel _ _ _ hw =>
      rw [hw] at hmem
      simp [cancelOps, pauseOps] at hmem
    | reset _ _ hw => exact .inl hw
    | firmware _ _ hw => exact absurd (firmwareOps_mem (hw ▸ hmem)) (by simp)

/-- A step of the work item that does not change `q->stalled`. -/
theorem StallInv.work (h : StallInv s since) (hw : s.worker = op :: ops)
    (hop : op ≠ .returnUnlessStalled) (hs : s'.q.stalled = s.q.stalled)
    (ha : s.q.stalled = true → s'.q.active = true → s.q.active = true)
    (hr : s'.resuming ≠ [] → s.resuming ≠ [] ∨ s.q.stalled = false)
    (hworker : .clearStalled ∈ s'.worker → s'.worker = ops) : StallInvAfter s since s' := by
  intro reply aborted
  have hsince : sinceStall (.workStep reply aborted) s s' since = since.map (· ++ [op]) := by
    unfold sinceStall
    rw [if_neg (by rw [hs]; simp), hw]
    rfl
  rw [hsince]
  refine ⟨fun ht => ?_, fun hr' => ?_, fun hs' done hdone => ?_, fun hmem => ?_⟩
  · rw [hs] at ht
    by_contra hact
    have hact' := ha ht (by simpa using hact)
    simp [h.notBoth ht] at hact'
  · rw [hs]
    exact (hr hr').elim h.resuming id
  · obtain ⟨done₀, hdone₀, rfl⟩ := Option.map_eq_some_iff.mp hdone
    exact (h.recovered (hs.symm.trans hs') done₀ hdone₀).trans
      (List.prefix_append done₀ [op]).isInfix
  · have hops := hworker hmem
    have hmem' : .clearStalled ∈ s.worker := by
      rw [hw]
      exact List.mem_cons_of_mem _ (hops ▸ hmem)
    rcases h.resetting hmem' with hall | ⟨ht, done, hsplit, hsuffix⟩
    · rw [hw] at hall
      exact absurd (List.cons.inj hall).1 hop
    · refine .inr ⟨hs.trans ht, done ++ [op], ?_, fun done' hdone' => ?_⟩
      · rw [hops, List.append_assoc, List.singleton_append, ← hw, hsplit]
      · obtain ⟨done₀, hdone₀, rfl⟩ := Option.map_eq_some_iff.mp hdone'
        obtain ⟨pre, hpre⟩ := hsuffix done₀ hdone₀
        exact ⟨pre, by rw [← hpre, List.append_assoc]⟩

/-- A step of a work item that is no reset. -/
theorem StallInv.otherWork (h : StallInv s since) (hw : s.worker = op :: ops)
    (hop : op ∉ resetOps) (hs : s'.q.stalled = s.q.stalled)
    (ha : s.q.stalled = true → s'.q.active = true → s.q.active = true)
    (hr : s'.resuming ≠ [] → s.resuming ≠ [] ∨ s.q.stalled = false)
    (hworker : .clearStalled ∈ s'.worker → .clearStalled ∈ ops) : StallInvAfter s since s' := by
  refine h.work hw ?_ hs ha hr fun hmem => ?_
  · rintro rfl
    exact hop (by decide)
  · exact absurd (hw ▸ List.mem_cons_of_mem _ (hworker hmem)) (h.not_resetting hw hop)

/-- A reset that finds the queue stalled goes on, any other is over. -/
theorem StallInv.checked (h : StallInv s since) (hw : s.worker = .returnUnlessStalled :: ops) :
    StallInvAfter s since { s with worker := if s.q.stalled then ops else [] } := by
  intro reply aborted
  have hsince : sinceStall (.workStep reply aborted) s
      { s with worker := if s.q.stalled then ops else [] } since =
      since.map (· ++ [.returnUnlessStalled]) := by
    unfold sinceStall
    rw [if_neg (by simp), hw]
    rfl
  rw [hsince]
  refine ⟨h.notBoth, h.resuming, fun hs done hdone => ?_, fun hmem => ?_⟩
  · obtain ⟨done₀, hdone₀, rfl⟩ := Option.map_eq_some_iff.mp hdone
    exact (h.recovered hs done₀ hdone₀).trans
      (List.prefix_append done₀ [.returnUnlessStalled]).isInfix
  · dsimp only at hmem ⊢
    by_cases ht : s.q.stalled = true
    · rw [if_pos ht] at hmem ⊢
      rcases h.resetting (hw ▸ List.mem_cons_of_mem _ hmem) with hall | ⟨-, done, hsplit, -⟩
      · rw [hw] at hall
        exact .inr ⟨ht, [], (List.cons.inj hall).2, fun _ _ => List.nil_suffix⟩
      · have hin : WorkOp.returnUnlessStalled ∈ resetOps.tail := by
          rw [← hsplit, hw]
          simp
        exact absurd hin (by decide)
    · rw [if_neg ht] at hmem
      simp at hmem

/-- A reset clears `q->stalled` before it resumes. -/
theorem StallInv.resume_after_clear (h : StallInv s since) (hw : s.worker = .resumeCommand :: ops) :
    .clearStalled ∉ ops := by
  intro hmem
  rcases h.resetting (hw ▸ List.mem_cons_of_mem _ hmem) with hall | ⟨-, done, hsplit, -⟩
  · rw [hw] at hall
    cases hall
  · rw [hw] at hsplit
    obtain ⟨-, rfl⟩ : done = recovery ++ [.setFwPaused false, .clearStalled] ∧ ops = [] := by
      simpa [resetOps, recovery, List.append_eq_cons_iff, List.cons_eq_append_iff] using hsplit
    cases hmem

/-- `q->stalled` is cleared at the end of a reset. -/
theorem StallInv.cleared (h : StallInv s since) (hw : s.worker = .clearStalled :: ops) :
    StallInvAfter s since { s with q := { s.q with stalled := false }, worker := ops } := by
  intro reply aborted
  have hsince : sinceStall (.workStep reply aborted) s
      { s with q := { s.q with stalled := false }, worker := ops } since =
      since.map (· ++ [.clearStalled]) := by
    unfold sinceStall
    rw [if_neg (by simp), hw]
    rfl
  rw [hsince]
  rcases h.resetting (hw ▸ List.mem_cons_self) with hall | ⟨-, done, hsplit, hsuffix⟩
  · rw [hw] at hall
    cases hall
  rw [hw] at hsplit
  obtain ⟨rfl, rfl⟩ : done = recovery ++ [.setFwPaused false] ∧ ops = [.resumeCommand] := by
    simpa [resetOps, recovery, List.append_eq_cons_iff, List.cons_eq_append_iff] using hsplit
  refine ⟨fun ht => ?_, fun _ => rfl, fun _ done' hdone' => ?_, fun hmem => ?_⟩
  · cases ht
  · obtain ⟨done₀, hdone₀, rfl⟩ := Option.map_eq_some_iff.mp hdone'
    obtain ⟨pre, hpre⟩ := hsuffix done₀ hdone₀
    exact ⟨pre, [.setFwPaused false, .clearStalled], by rw [← hpre]; simp⟩
  · simp at hmem

/-- A firmware stall. -/
theorem StallInv.stall (h : StallInv s since) (hw : s.worker = .stall :: ops) (hl : s.lock = []) :
    StallInvAfter s since { s with
      q := { s.q with state := BCE_VHCI_ENDPOINT_STALLED, active := false, stalled := true }
      worker := ops } := by
  intro reply aborted
  refine ⟨fun _ => rfl, fun hr => ?_, fun hs => ?_, fun hmem => ?_⟩
  · exact absurd (by simp [Endpoint.resuming, hl]) hr
  · cases hs
  · exact absurd (hw ▸ List.mem_cons_of_mem _ hmem) (h.not_resetting hw (by decide))

theorem workStep_stallInv (howned : Owned s) (h : StallInv s since) {reply : CommandOutcome}
    {aborted : Nat} (hguard : ActivatesUnstalled (.workStep reply aborted) s)
    (hstep : s.workStep reply aborted = some s') :
    StallInvAfter s since s' := by
  cases workStep_branch hstep with
  | deactivate hops => exact h.otherWork hops (by decide) rfl (fun _ ha => by cases ha) .inl id
  | removePending hops | resetCommand hops =>
    exact h.work hops (by decide) rfl (fun _ => id) .inl fun _ => rfl
  | pauseCommand hops =>
    refine Endpoint.exec_ok (pauseCommand_spec (q := s.q)) fun r q' hq' => ?_
    obtain ⟨state, hstate⟩ := s.q.replied_eq reply
    rw [hq'.1, hstate]
    split
    · exact h.otherWork hops (by decide) rfl (fun _ => id) .inl (by simp)
    · exact h.otherWork hops (by decide) rfl (fun _ => id) .inl id
  | @flush d ops hops =>
    refine Endpoint.exec_ok (P := fun _ q' =>
      StallInvAfter s since { s with q := q', worker := ops }) ?_ fun _ _ heff => heff
    have hop : .flush d ≠ WorkOp.returnUnlessStalled := by simp
    rw [wp_flush]
    split
    · exact h.work hops hop rfl (fun _ => id) .inl fun _ => rfl
    · exact h.work hops hop rfl (fun _ => id) .inl fun _ => rfl
  | @remove u status ops hops =>
    have hop : .remove u status ∉ resetOps := by simp [resetOps]
    refine Endpoint.exec_ok (removeBody_spec s.q u status) fun r q' hrem => ?_
    cases hrem with
    | refused hr =>
      rw [if_neg hr]
      exact h.otherWork hops hop rfl (fun _ => id) .inl id
    | removed hu =>
      obtain ⟨v, hhas⟩ := howned.linked u hu
      rw [if_pos rfl, hhas.hcpriv]
      exact h.otherWork hops hop rfl (fun _ => id) (fun hr => absurd rfl hr) (by simp)
  | kfree hops =>
    refine Endpoint.exec_ok (howned.kfree hops) fun _ q' hq' => ?_
    subst hq'
    exact h.otherWork hops (by simp [resetOps]) rfl (fun _ => id) .inl id
  | giveback hops => exact h.otherWork hops (by simp [resetOps]) rfl (fun _ => id) .inl id
  | resumeUnlessFwPaused hops =>
    refine h.otherWork hops (by decide) rfl (fun _ => id) .inl fun hmem => ?_
    by_cases hp : s.q.fwPaused = true
    · simpa [hp] using hmem
    · simpa [hp] using hmem
  | resumeCommand hops =>
    refine Endpoint.exec_ok (resumeCommand_spec (q := s.q)) fun r q' hq' => ?_
    obtain ⟨state, hstate⟩ := s.q.replied_eq reply
    rw [hq'.1, hstate]
    -- the resume of a reset comes after `q->stalled` is cleared
    have hno := h.resume_after_clear hops
    refine h.work hops (by decide) rfl (fun _ => id) .inl fun hmem => ?_
    by_cases hr : r = 0
    · exact absurd (by simpa [hr] using hmem) hno
    · exact absurd (by simpa [hr] using hmem) hno
  | @activate ops hops =>
    -- the guard allows no activation of a stalled queue
    have hguard' : s.q.stalled = false := hguard (by rw [hops]; rfl)
    refine h.otherWork hops (by decide) rfl (fun ht => by simp [hguard'] at ht)
      (fun _ => .inr hguard') fun hmem => ?_
    have hmem' : .clearStalled ∈ WorkOp.locked :: ops := hmem
    simpa using hmem'
  | returnUnlessStalled hops => exact h.checked hops
  | clearStalled hops => exact h.cleared hops
  | @setFwPaused b ops hops =>
    have hop : .setFwPaused b ≠ WorkOp.returnUnlessStalled := by simp
    exact h.work hops hop rfl (fun _ => id) .inl fun _ => rfl
  | stall hops hl => exact h.stall hops hl

end Reset

/-! ## All runs -/

/-- A step of a stalled queue starts no URB. -/
theorem step_startsNothing {s s' : Endpoint} {a : EndpointAction} {since : Option (List WorkOp)}
    (howned : Owned s) (h : StallInv s since) (hs : s.q.stalled = true)
    (hstep : Endpoint.step a s = some s') : StartsNothing s.q s'.q := by
  have hstart : StartsNothing s.q s.q := .refl s.q
  have hnodup := howned.urbList_nodup
  refine hstart.step (step_spec howned hstep)
    (fun _ _ _ r q' _ _ _ heff h' => heff.parked (h.notBoth hs) h')
    (fun more q' heff => heff.parked hnodup hstart)
    (fun d ops more q' _ _ heff => heff.parked hnodup hstart)
    (fun msg q' heff => heff.parked hnodup hstart) ?_
    (fun d t t' _ _ => hstart.of_sqs rfl rfl rfl fun _ _ hv => hv)
  intro u us ops urb v q' _ hops _ _ _
  -- a stalled queue is not being resumed
  have hres : s.resuming ≠ [] := by simp [Endpoint.resuming, hops]
  simp [h.resuming hres] at hs

theorem reachable_stallInv {p : Endpoint × Option (List WorkOp)}
    (h : stallSystem.Reachable (fun a p => ActivatesUnstalled a p.1) p) :
    Owned p.1 ∧ StallInv p.1 p.2 := by
  refine ⟨reachable_owned (h.forget fun _ _ hguard => hguard),
    StepSystem.Reachable.invariant (I := fun p => StallInv p.1 p.2) ?_ ?_ h⟩
  · rintro ⟨s, since⟩ hinit
    obtain ⟨⟨address, devAddr, qidIn, qidOut, urbs, m, w, rfl⟩, rfl⟩ :=
      StepSystem.withHistory_init.mp hinit
    refine ⟨fun hs => ?_, fun hr => absurd rfl hr, fun _ done hdone => ?_, fun hmem => ?_⟩
    · cases hs
    · cases hdone
    · cases hmem
  · rintro a ⟨s, since⟩ ⟨s', since'⟩ hreach hinv hguard hnext
    obtain ⟨hstep, rfl⟩ := StepSystem.withHistory_step hnext
    have howned : Owned s := reachable_owned (hreach.forget fun _ _ hguard => hguard)
    by_cases ha : ∃ reply aborted, a = .workStep reply aborted
    · obtain ⟨reply, aborted, rfl⟩ := ha
      exact workStep_stallInv howned hinv hguard (step_workStep hstep) reply aborted
    · have ha' : ∀ reply aborted, a ≠ .workStep reply aborted :=
        fun reply aborted heq => ha ⟨reply, aborted, heq⟩
      exact hinv.offWork (step_offWork howned hstep ha') ha'

/-- A control transfer fails, the next one is parked and asks for the reset, and
the reset worker runs up to the end of the resume. -/
def recoveryRun : List EndpointAction :=
  [.enqueue 0 ⟨false, 0, 0, 0⟩ 0, .lockStep,
    .event ⟨BCE_VHCI_CMD_TRANSFER_REQUEST, 0, 0, 8⟩, .lockStep, .lockStep, .lockStep, .leave,
    .complete .toDevice ⟨0, 8, 0⟩, .accept .toDevice, .completion .toDevice, .lockStep, .lockStep,
    .lockStep, .lockStep, .leave,
    .event ⟨BCE_VHCI_CMD_CONTROL_TRANSFER_STATUS, 4, 0, 0⟩, .lockStep, .lockStep, .lockStep,
    .enqueue 1 ⟨false, 0, 0, 0⟩ 0, .lockStep, .startReset] ++
  List.replicate 7 (.workStep ⟨0, 0⟩ 4) ++
  [.workStep ⟨0, BCE_VHCI_ENDPOINT_ACTIVE⟩ 0, .workStep ⟨0, 0⟩ 0, .lockStep, .lockStep, .lockStep,
    .lockStep]

def recoveredState : Endpoint × Option (List WorkOp) :=
  stallSystem.after (fun a p => ActivatesUnstalled a p.1) recoveryRun (.fresh 0x00, none)

/-- The firmware stalls the queue, then asks to make it active. -/
def activeStalledState : Endpoint × Option (List WorkOp) :=
  stallSystem.after (fun _ _ => True)
    [.startFirmware ⟨BCE_VHCI_CMD_ENDPOINT_SET_STATE, 0, 0, BCE_VHCI_ENDPOINT_STALLED⟩,
      .workStep ⟨0, 0⟩ 0,
      .startFirmware ⟨BCE_VHCI_CMD_ENDPOINT_REQUEST_STATE, 0, 0, BCE_VHCI_ENDPOINT_ACTIVE⟩,
      .workStep ⟨0, BCE_VHCI_ENDPOINT_ACTIVE⟩ 0, .workStep ⟨0, 0⟩ 0, .lockStep, .lockStep,
      .lockStep] (.fresh 0x00, none)

end BceDriver
