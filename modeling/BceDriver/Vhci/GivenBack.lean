import BceDriver.Vhci.Endings

/-!
# Nothing in flight for what is given back

The runs of an endpoint in which no step ends a URB too early (`EndsCleanly`),
and what they keep: `Tidy`.

- A round of the holder of `urb_lock` is in time (`LockOp.InTime`).
- A cancel work pauses and flushes what its URB has in flight (`WorkOp.Flushes`).
- `given_back_not_in_flight`: then the device has no element of a URB that was
  given back.
-/

namespace BceDriver

open FaultState

/-! ## The condition -/

/-- `P` holds of the `bce_vhci_urb` of the first of the URBs. -/
def OfFirst (P : BceVhciTransferQueue → Nat → BceVhciUrb → Prop) (us : List Nat)
    (q : BceVhciTransferQueue) : Prop :=
  ∀ u ∈ us.head?, ∀ urb ∈ (q.urbs u).hcpriv, ∀ v ∈ q.vurbs urb, P q urb v

/-- The round works on a URB in time. -/
def LockOp.InTime (worker : List WorkOp) (q : BceVhciTransferQueue) : LockOp → Prop
  | .deliver => ∀ msg ∈ q.evq.head?, OfFirst (MessageInTime worker msg) q.urbList q
  | .event msg => (msg.cmd = BCE_VHCI_CMD_TRANSFER_REQUEST → q.evq = []) →
      OfFirst (MessageInTime worker msg) q.urbList q
  | .completions d => ∀ t ∈ q.sqs d, ∀ p ∈ t.pending.head?, p.2.status ≠ BCE_COMPLETION_ABORTED →
      OfFirst (CompletionInTime worker p.1 p.2) q.urbList q
  | .resume us => OfFirst ResumeInTime us q
  | _ => True

/-- The pause works and its flushes abort every element of the URB at `u`, or the
device has none. -/
def WorkOp.Flushes (q : BceVhciTransferQueue) (reply : CommandOutcome) (aborted u : Nat) :
    WorkOp → Prop
  | .pauseCommand =>
    (reply.status = 0 ∧ bceVhciEndpointState reply.param2 = BCE_VHCI_ENDPOINT_PAUSED) ∨
      ¬InFlight q.sqs (q.urbs u).enqueue
  | .flush d => ∀ t ∈ q.sqs d, ∀ e ∈ t.inflight.drop aborted, e.owner ≠ (q.urbs u).enqueue
  | _ => True

def EndsCleanly : EndpointAction → Endpoint → Prop
  | .lockStep, s => ∀ op ∈ s.lock.head?, op.InTime s.worker s.q
  | .workStep reply aborted, s => ∀ op ∈ s.worker.head?, ∀ u ∈ removals s.worker,
      u ∈ s.q.urbList → op.Flushes s.q reply aborted u
  | _, _ => True

/-! ## What is kept -/

/-- The device has elements of linked URBs only. -/
def OnlyLinked (q : BceVhciTransferQueue) : Prop :=
  ∀ urb, InFlight q.sqs urb → ∃ u ∈ q.urbList, (q.urbs u).hcpriv = some urb

/-- What every step of such a run keeps. -/
structure Tidy (worker : List WorkOp) (q : BceVhciTransferQueue) : Prop where
  clean : EveryLinked (Clean worker) q
  linked : OnlyLinked q

section Rounds

variable {worker : List WorkOp} {q q' : BceVhciTransferQueue} {u urb : Nat} {v : BceVhciUrb}

theorem OfFirst.head {P : BceVhciTransferQueue → Nat → BceVhciUrb → Prop}
    (h : OfFirst P q.urbList q) (hhead : q.Head u urb v) : P q urb v := by
  obtain ⟨us, hlist⟩ := hhead.first
  exact h u (by simp [hlist]) urb hhead.hcpriv v hhead.vurb

/-- Only the submission queues changed, and nothing is submitted. -/
theorem Tidy.noMore (h : Tidy worker q) (hlist : q'.urbList = q.urbList)
    (hurbs : q'.urbs = q.urbs) (hvurbs : q'.vurbs = q.vurbs)
    (hless : ∀ urb, NoMore q.sqs q'.sqs urb) : Tidy worker q' where
  clean := h.clean.of_sqs hlist hurbs hvurbs fun urb _ hclean => hclean.noMore (hless urb)
  linked := by
    intro urb hin
    have hin' : InFlight q.sqs urb := not_not.mp fun hnot => (hless urb).not_inFlight hnot hin
    rw [hlist, hurbs]
    exact h.linked urb hin'

theorem Tidy.of_eq (h : Tidy worker q) (hlist : q'.urbList = q.urbList)
    (hurbs : q'.urbs = q.urbs) (hvurbs : q'.vurbs = q.vurbs) (hsqs : q'.sqs = q.sqs) :
    Tidy worker q' := by
  refine h.noMore hlist hurbs hvurbs fun urb => ?_
  rw [hsqs]
  exact ⟨le_rfl, fun _ hin => hin⟩

/-- A handler that leaves its URB clean. -/
theorem Tidy.handler (h : Tidy worker q) (hnodup : q.urbList.Nodup) (hmem : u ∈ q.urbList)
    (hhas : q.Has u urb v) (hheap : SameHeap q q' ∨ Ended q urb v.urb q')
    (hadds : Adds (OwnedBy urb) q q') (hleaves : LeavesClean worker q urb q') :
    Tidy worker q' := by
  rw [hhas.urb_eq] at hheap
  obtain ⟨x, hv, hnone, hclean⟩ := hleaves
  refine ⟨h.clean.touches (.of_heap hnodup hheap hv)
    (fun urb' _ hne hc => hc.noMore (.of_adds hadds hne)) hclean, fun urb' hin => ?_⟩
  by_cases hurb : urb' = urb
  · subst hurb
    rcases hheap with hsame | hended
    · exact ⟨u, hsame.urbList ▸ hmem, (hsame.hcpriv u).trans hhas.hcpriv⟩
    · have hfreed := hended.freed
      rw [hv, Function.update_self] at hfreed
      exact absurd hin (hnone hfreed)
  · obtain ⟨u', hu', hp⟩ := h.linked urb' (hin.of_adds hadds hurb)
    rcases hheap with hsame | hended
    · exact ⟨u', hsame.urbList ▸ hu', (hsame.hcpriv u').trans hp⟩
    · have hne : u' ≠ u := by
        rintro rfl
        exact hurb (Option.some.inj (hp.symm.trans hhas.hcpriv))
      refine ⟨u', ?_, (hended.hcpriv u' hne).trans hp⟩
      rw [hended.urbList]
      exact (List.mem_erase_of_ne hne).mpr hu'

theorem UpdateEffect.tidy {msg : BceVhciMessage} {r : Int} (heff : UpdateEffect q urb v msg r q')
    (hnodup : q.urbList.Nodup) (h : Tidy worker q) (hhead : q.Head u urb v)
    (hin : MessageInTime worker msg q urb v) : Tidy worker q' := by
  have hmem := Head.mem hhead
  exact h.handler hnodup hmem hhead.toHas (heff.heap hhead.vurb) heff.adds
    (heff.leavesClean hhead.vurb (h.clean u hmem urb v hhead.toHas) hin)

theorem DeliverEffect.tidy {more : Bool} (heff : DeliverEffect q more q')
    (hnodup : q.urbList.Nodup) (h : Tidy worker q) (hin : LockOp.InTime worker q .deliver) :
    Tidy worker q' := by
  have hfirst : ∀ {u urb v msg msgs}, q.Head u urb v → q.evq = msg :: msgs →
      MessageInTime worker msg q urb v := by
    intro u urb v msg msgs hhead hevq
    exact OfFirst.head (hin msg (by simp [hevq])) hhead
  cases heff with
  | idle => exact h
  | blocked hhead hevq hup => exact hup.tidy hnodup h hhead (hfirst hhead hevq)
  | delivered hhead hevq hup =>
    exact (hup.tidy hnodup h hhead (hfirst hhead hevq)).of_eq rfl rfl rfl rfl

theorem EventEffect.tidy {msg : BceVhciMessage} (heff : EventEffect q msg q')
    (hnodup : q.urbList.Nodup) (h : Tidy worker q) (hin : LockOp.InTime worker q (.event msg)) :
    Tidy worker q' := by
  cases heff with
  | dropped => exact h
  | queued => exact h.of_eq rfl rfl rfl rfl
  | deferred hhead hevq hup =>
    exact (hup.tidy hnodup h hhead (OfFirst.head (hin hevq) hhead)).of_eq rfl rfl rfl rfl
  | updated hhead hevq hup =>
    exact hup.tidy hnodup h hhead (OfFirst.head (hin hevq) hhead)

/-- The completion of a URB's own element leaves it nothing outstanding, that of
another's what it has. -/
theorem CompletionRoundEffect.tidy {d : DmaDataDirection} {more : Bool}
    (heff : CompletionRoundEffect q d more q') (hnodup : q.urbList.Nodup)
    (hrec : EachSq TransferSq.Recorded q) (h : Tidy worker q)
    (hin : LockOp.InTime worker q (.completions d)) : Tidy worker q' := by
  cases heff with
  | idle => exact h
  | skipped ht => exact h.noMore rfl rfl rfl fun urb => .consume ht _ urb
  | @completed t t' c sq u urb v q₁ ht hnext hstatus hhead heff ht' =>
    obtain ⟨e, rest, hpending, -⟩ := (hrec d t ht).next hnext
    have hless : ∀ urb, NoMore q.sqs (q.consume d t sq).sqs urb := fun urb => .consume ht sq urb
    have hcons : Tidy worker (q.consume d t sq) := h.noMore rfl rfl rfl hless
    have hhas : (q.consume d t sq).Has u urb v := (hhead.consume d t sq).toHas
    have hmem : u ∈ (q.consume d t sq).urbList := Head.mem (q := q) hhead
    obtain ⟨hdone, hsetup⟩ := OfFirst.head (hin t ht (e, c) (by simp [hpending]) hstatus) hhead
    have hown : e.owner = urb → outstanding (q.consume d t sq).sqs urb = 0 := by
      intro howner
      have hcount : outstanding (q.consume d t sq).sqs urb + (if e.owner = urb then 1 else 0) =
          outstanding q.sqs urb := outstanding_consume ht hpending hstatus urb
      have hone := (h.clean u (Head.mem hhead) urb v hhead.toHas).one
      rw [if_pos howner] at hcount
      omega
    have hcan : CanStartIn 1000 (q.consume d t sq) → CanStartIn 1000 q :=
      BceVhciTransferQueue.canStartIn_of_consume ht hnext
    have hround : Tidy worker q₁ := by
      refine hcons.handler hnodup hmem hhas (heff.heap hhas.vurb) heff.adds
        (heff.leavesClean hhas.vurb (hcons.clean u hmem urb v hhas) (fun hs hends => ?_)
          (fun hc hs => ?_) fun hc hs hdir hstart => (hsetup hc hs).2 hdir (hcan hstart))
      · rcases hdone hs hends with howner | hnot
        · exact not_inFlight_of_zero (hown howner)
        · exact (hless urb).not_inFlight hnot
      · rcases (hsetup hc hs).1 with howner | ⟨hnot, hzero⟩
        · exact ⟨not_inFlight_of_zero (hown howner), fun _ => hown howner⟩
        · refine ⟨(hless urb).not_inFlight hnot, fun hstarts => ?_⟩
          have hstarts' : StartsData q v := hstarts.imp (fun h => ⟨h.1, hcan h.2⟩) id
          exact Nat.le_zero.mp (hzero hstarts' ▸ (hless urb).outstanding_le)
    exact hround.noMore rfl rfl rfl fun urb => .notify ht' urb

end Rounds

/-! ## Enqueues -/

section Creating

variable {worker : List WorkOp} {q q' : BceVhciTransferQueue} {u : Nat} {r : Int}

/-- The URBs but the one at `u`, which is not linked, are still linked. -/
theorem OnlyLinked.others (h : OnlyLinked q) (hu : u ∉ q.urbList)
    (hsqs : ∀ urb, InFlight q'.sqs urb → InFlight q.sqs urb)
    (hlinked : ∀ u' ∈ q.urbList, u' ≠ u →
      u' ∈ q'.urbList ∧ (q'.urbs u').hcpriv = (q.urbs u').hcpriv) : OnlyLinked q' := by
  intro urb hin
  obtain ⟨u', hu', hp⟩ := h urb (hsqs urb hin)
  have hne : u' ≠ u := by
    rintro rfl
    exact hu hu'
  obtain ⟨hmem, hsame⟩ := hlinked u' hu' hne
  exact ⟨u', hmem, hsame.trans hp⟩

theorem Tidy.link (h : Tidy worker q) (hu : u ∉ q.urbList) (hold : Old q) :
    Tidy worker (q.link u) where
  clean := h.clean.link (.of_zero hold.outstanding_zero)
  linked := by
    refine h.linked.others hu (fun _ hin => hin) fun u' hu' hne => ?_
    refine ⟨List.mem_append_left _ hu', ?_⟩
    simp [BceVhciTransferQueue.link, hne]

/-- Starting a new URB that is not about to be removed. -/
theorem InitEffect.tidy (heff : InitEffect (q.link u) q.nextVurb (freshVurb q u) r q')
    (hnodup : q.urbList.Nodup) (hu : u ∉ q.urbList) (hold : Old q)
    (hr : ¬Removing worker .fromDevice u) (h : Tidy worker q) : Tidy worker q' := by
  have hhas : (q.link u).Has u q.nextVurb (freshVurb q u) := by
    refine ⟨?_, Function.update_self .., rfl⟩
    simp [BceVhciTransferQueue.link]
  have hnodup' : (q.link u).urbList.Nodup := by
    refine List.nodup_append.mpr ⟨hnodup, List.nodup_singleton u, fun u' hu' u'' hu'' => ?_⟩
    obtain rfl := List.mem_singleton.mp hu''
    rintro rfl
    exact hu hu'
  exact (h.link hu hold).handler hnodup' (List.mem_append_right _ (List.mem_singleton_self u))
    hhas (.inl (heff.heap hhas.vurb)) heff.adds
    (heff.leavesClean hhas.vurb hold.outstanding_zero hr)

/-- A URB that could not be started has nothing in flight. -/
theorem InitEffect.not_started {urb : Nat} {v : BceVhciUrb} (heff : InitEffect q urb v r q')
    (hr : r ≠ 0) : Waited q q' := by
  cases heff with
  | failed _ _ h => exact h.waited
  | _ => exact absurd rfl hr

theorem CreateEffect.tidy (heff : CreateEffect q u r q') (hnodup : q.urbList.Nodup)
    (hu : u ∉ q.urbList) (hold : Old q)
    (hr : q.active = true → ¬Removing worker .fromDevice u) (h : Tidy worker q) :
    Tidy worker q' := by
  cases heff with
  | refused =>
    refine ⟨h.clean.refuse u, h.linked.others hu (fun _ hin => hin) fun u' hu' hne => ⟨hu', ?_⟩⟩
    simp [hne]
  | active ha hi => exact hi.tidy hnodup hu hold (hr ha) h
  | @failed r q₁ ha hne hi =>
    have hwaited := hi.not_started hne
    refine ⟨(hi.tidy hnodup hu hold (hr ha) h).clean.discard _ u,
      h.linked.others hu (fun urb hin => ?_) fun u' hu' hne => ⟨?_, ?_⟩⟩
    · have hless : NoMore (q.link u).sqs q₁.sqs urb := .of_waited hwaited urb
      exact not_not.mp fun hnot => hless.not_inFlight hnot hin
    · have hlist : q₁.urbList = q.urbList ++ [u] := by rw [hwaited.frame]; rfl
      show u' ∈ q₁.urbList.erase u
      rw [hlist]
      exact (List.mem_erase_of_ne hne).mpr (List.mem_append_left _ hu')
    · have hurbs : q₁.urbs = (q.link u).urbs := by rw [hwaited.frame]
      simp [BceVhciTransferQueue.discard, hurbs, BceVhciTransferQueue.link, hne]
  | paused => exact (h.link hu hold).of_eq rfl rfl rfl rfl

end Creating

/-! ## Steps -/

section Steps

variable {worker worker' : List WorkOp} {q : BceVhciTransferQueue} {s s' : Endpoint}
  {a : EndpointAction} {d : DmaDataDirection} {u : Nat}

/-- The work item goes on, and what it is about to remove has nothing in flight. -/
theorem Tidy.goesOn (h : Tidy worker q)
    (hw : ∀ u ∈ q.urbList, ∀ urb v d, q.Has u urb v → Removing worker' d u →
      Removing worker d u ∨ ¬InFlightOn q.sqs d urb) : Tidy worker' q := by
  refine ⟨fun u hu urb v hhas => ?_, h.linked⟩
  have hclean := h.clean u hu urb v hhas
  refine ⟨hclean.one, hclean.idle, hclean.ended, fun d hr => ?_⟩
  rcases hw u hu urb v d hhas (hhas.urb_eq ▸ hr) with hr' | hnot
  · exact hclean.removing d (hhas.urb_eq.symm ▸ hr')
  · exact hnot

/-- A URB that is flushed no more can be taken off the list. -/
theorem Tidy.remove (h : Tidy worker q) (hlive : q.Live) (hr : ∀ d, Removing worker d u)
    (status : Int) :
    Tidy worker { q.setUrb u { q.urbs u with unlinked := status } with
      urbList := q.urbList.erase u } := by
  refine ⟨h.clean.remove u status, fun urb hin => ?_⟩
  obtain ⟨u', hu', hp⟩ := h.linked urb hin
  have hne : u' ≠ u := by
    rintro rfl
    obtain ⟨urb', v, hhas⟩ := hlive u' hu'
    obtain rfl := Option.some.inj (hp.symm.trans hhas.hcpriv)
    obtain ⟨d, t, ht, hmem⟩ := hin
    exact (h.clean u' hu' urb v hhas).removing d (hhas.urb_eq.symm ▸ hr d) ⟨t, ht, hmem⟩
  refine ⟨u', (List.mem_erase_of_ne hne).mpr hu', ?_⟩
  simpa [hne] using hp

/-- Giving a URB back that is not linked. -/
theorem Tidy.giveBack (h : Tidy worker s.q) (hu : u ∉ s.q.urbList) :
    Tidy worker (s.giveBack u).q := by
  refine ⟨h.clean.giveBack u, h.linked.others hu (fun _ hin => hin) fun u' hu' hne => ⟨hu', ?_⟩⟩
  simp [Endpoint.giveBack, hne]

/-- A new URB is not started if it is about to be removed. -/
theorem Tidy.enqueued (h : Tidy s.worker s.q) (howned : Owned s) (hahead : RemovalAhead s)
    (hold : Old s.q) {request : UrbRequest} {r : Int} {q' : BceVhciTransferQueue}
    (hu : ¬s.Owns u) (heff : CreateEffect (s.q.fill u request) u r q') : Tidy s.worker q' := by
  have hoff : u ∉ s.q.urbList := fun hmem => hu (.inl hmem)
  have hfill : Tidy s.worker (s.q.fill u request) := by
    refine ⟨h.clean.fill u request,
      h.linked.others hoff (fun _ hin => hin) fun u' hu' hne => ⟨hu', ?_⟩⟩
    simp [BceVhciTransferQueue.fill, hne]
  refine heff.tidy howned.urbList_nodup hoff hold (fun ha hr => ?_) hfill
  have hinactive : (s.q.fill u request).active = false := hahead.not_active hr
  rw [ha] at hinactive
  cases hinactive

/-- A step keeps the queue tidy, for the work item as it was. -/
theorem Tidy.step (h : Tidy s.worker s.q) (howned : Owned s) (hahead : RemovalAhead s)
    (hold : Old s.q) (hrec : EachSq TransferSq.Recorded s.q) (hguard : EndsCleanly a s)
    (heff : StepEffect s a s') : Tidy s.worker s'.q := by
  have hnodup := howned.urbList_nodup
  have hround : ∀ {op ops}, a = .lockStep → s.lock = op :: ops → op.InTime s.worker s.q := by
    rintro op ops rfl hops
    exact hguard op (by simp [hops])
  have hoff : ∀ u, u ∈ s.popped ++ Endpoint.workHeld s.worker → u ∉ s.q.urbList := by
    intro u hu hmem
    have hu' : u ∈ s.q.givebackUrbList ++ s.popped ++ Endpoint.workHeld s.worker := by
      rw [List.append_assoc]
      exact List.mem_append_right _ hu
    exact (howned.off_list hmem hu').2 rfl
  cases heff with
  | died => exact h
  | quiet _ hq => exact h.of_eq hq.flags.urbList hq.flags.urbs hq.flags.vurbs hq.flags.sqs
  | enqueued _ hu _ heff => exact h.enqueued howned hahead hold hu heff
  | refused _ hu _ _ heff => exact h.enqueued howned hahead hold hu heff
  | delivered hops heff => exact heff.tidy hnodup h (hround rfl hops)
  | completed hops heff => exact heff.tidy hnodup hrec h (hround rfl hops)
  | event hops heff => exact heff.tidy hnodup h (hround rfl hops)
  | @resumed u urb us v ops q' hops hu hhas heff =>
    have hin : ResumeInTime s.q urb v :=
      hround rfl hops u rfl urb hhas.hcpriv v hhas.vurb
    have hr : ¬Removing s.worker .fromDevice v.urb := hahead.not_resuming howned hops _ _
    exact h.handler hnodup hu hhas (heff.heap hhas.vurb) heff.adds
      (heff.leavesClean hhas.vurb (h.clean u hu urb v hhas) hin hr)
  | activated => exact h.of_eq rfl rfl rfl rfl
  | removed hops => exact h.remove howned.live (hahead.removing hops) _
  | freed => exact ⟨h.clean.free _, h.linked⟩
  | gaveRemoved hops => exact h.giveBack (hoff _ (by simp [hops]))
  | popped => exact h.of_eq rfl rfl rfl rfl
  | gave hu => exact h.giveBack (hoff _ (List.mem_append_left _ hu))
  | device ht hdev => exact h.noMore rfl rfl rfl fun urb => .device ht hdev urb

end Steps

/-! ## The work item goes on -/

section Working

variable {s s' : Endpoint} {d : DmaDataDirection} {u : Nat}

/-- The command of a pause succeeds if the reply says that the endpoint is paused. -/
theorem pauseCommand_paused {E : Fault → Prop} (q : BceVhciTransferQueue) (reply : CommandOutcome) :
    wp (bceVhciTransferQueuePauseCommand reply) E
      (fun r q' => q' = q.replied reply ∧ (reply.status = 0 ∧
        bceVhciEndpointState reply.param2 = BCE_VHCI_ENDPOINT_PAUSED → r = 0)) q := by
  unfold bceVhciTransferQueuePauseCommand
  rw [wp_bind, wp_setState, wp_ite]
  refine ⟨fun hne => wp_pure.mpr ⟨rfl, fun hok => absurd hok.1 hne⟩, fun hzero => ?_⟩
  rw [wp_bind, wp_get, wp_ite]
  refine ⟨fun hne => wp_pure.mpr ⟨rfl, fun hok => absurd ?_ hne⟩,
    fun _ => wp_pure.mpr ⟨rfl, fun _ => rfl⟩⟩
  exact (reply.takeState_zero hok.1 q.state).trans hok.2

/-- Nobody but the work item brings a removal nearer. -/
theorem RemovalAhead.removing_offWork {a : EndpointAction} (h : RemovalAhead s)
    (hoff : OffWork s a s') (hr : Removing s'.worker d u) : Removing s.worker d u := by
  cases hoff.workqueue with
  | same _ hw | queued _ _ hw => exact hw ▸ hr
  | unlocked _ hw =>
    have hnone := h.of_locked hw
    rw [hw] at hnone
    exact absurd hnone hr.ne_nil
  | cancel _ _ _ hw =>
    rw [hw] at hr
    exact absurd (by simp [cancelOps, pauseOps]) hr.2.1
  | reset _ _ hw =>
    rw [hw] at hr
    exact absurd removals_resetOps hr.ne_nil
  | firmware _ _ hw =>
    rw [hw] at hr
    exact absurd (removals_firmwareOps _) hr.ne_nil

/-- The URB is removed with what it has in flight now, and that is nothing unless the
removal was as near in `s`. -/
def Spared (s : Endpoint) (d : DmaDataDirection) (u : Nat) (s' : Endpoint) : Prop :=
  Removing s'.worker d u → Removing s.worker d u ∨
    (u ∈ s'.q.urbList → ¬InFlightOn s'.q.sqs d (s'.q.urbs u).enqueue)

/-- The work item comes to a removal by pausing and flushing, in vain only if the
device has nothing of the URB. -/
theorem RemovalAhead.removing_work (h : RemovalAhead s) {reply : CommandOutcome} {aborted : Nat}
    (hguard : EndsCleanly (.workStep reply aborted) s)
    (hstep : s.workStep reply aborted = some s') : Spared s d u s' := by
  by_cases hmem : u ∈ removals s.worker
  case neg =>
    intro hr
    obtain ⟨status, hop⟩ := mem_removals.mp hr.1
    exact absurd (mem_removals.mpr ⟨status, (workStep_workqueue hstep).2 u status hop⟩) hmem
  obtain ⟨u', status, hrest⟩ := h.rest (List.ne_nil_of_mem hmem)
  have hflushes : ∀ {op ops}, s.worker = op :: ops → u ∈ s.q.urbList →
      op.Flushes s.q reply aborted u :=
    fun {op ops} hops hu => hguard op (by simp [hops]) u hmem hu
  -- the work ahead of a removal is that of a cancellation, so only its steps are left
  cases workStep_branch hstep with
  | deactivate hops =>
    rw [hops] at hrest
    cases hrest
    exact fun hr => absurd (List.mem_cons_of_mem _ List.mem_cons_self) hr.2.1
  | removePending hops =>
    rw [hops] at hrest
    cases hrest
    exact fun hr => absurd List.mem_cons_self hr.2.1
  | pauseCommand hops =>
    have hop := hflushes hops
    rw [hops] at hrest
    cases hrest
    refine Endpoint.exec_ok (Q := Spared s d u) (pauseCommand_paused s.q reply) fun r q' hq' => ?_
    obtain ⟨state, hstate⟩ := s.q.replied_eq reply
    obtain ⟨rfl, hpaused⟩ := hq'
    rw [hstate]
    split
    · intro hr
      refine absurd ?_ hr.2.2
      cases d with
      | toDevice => simp
      | fromDevice => simp
    · -- the pause failed, so the removal comes next
      next hfail =>
      refine fun _ => .inr fun hu hin => ?_
      rcases hop hu with heq | hnot
      · exact hfail (hpaused heq)
      · exact hnot hin.inFlight
  | @flush d' ops hops =>
    have hop := hflushes hops
    refine Endpoint.exec_ok (Q := Spared s d u) (P := fun _ q' => q'.urbList = s.q.urbList ∧
      q'.urbs = s.q.urbs ∧ ∀ t ∈ q'.sqs d', ∃ t₀ ∈ s.q.sqs d',
        t.inflight = t₀.inflight.drop aborted) ?_ fun _ q' hq' hr => ?_
    · rw [wp_flush]
      split
      · next t ht =>
        refine ⟨rfl, rfl, fun t' ht' => ⟨t, ht, ?_⟩⟩
        obtain rfl : t.abort aborted = t' := by simpa using ht'
        rfl
      · next hnone => exact ⟨rfl, rfl, fun t ht => absurd ht (by simp [hnone])⟩
    · obtain ⟨hlist, hurbs, hsqs⟩ := hq'
      by_cases hd : d = d'
      · -- this flush is the last one before the removal, for its direction
        subst hd
        refine .inr fun hu hin => ?_
        obtain ⟨t, ht, e, he, howner⟩ := hin
        obtain ⟨t₀, ht₀, hdrop⟩ := hsqs t ht
        have howner' : e.owner = (s.q.urbs u).enqueue := hurbs ▸ howner
        exact hop (hlist ▸ hu) t₀ ht₀ e (hdrop ▸ he) howner'
      · refine .inl ⟨hmem, ?_, ?_⟩
        · rw [hops]
          exact fun h' => hr.2.1 (by simpa using h')
        · rw [hops]
          exact fun h' => hr.2.2 (by simpa [hd] using h')
  | remove hops =>
    rw [hops] at hrest
    cases hrest
    refine Endpoint.exec_ok (Q := Spared s d u) (removeBody_spec s.q u' status) fun r q' _ => ?_
    split
    · split
      · exact fun hr => absurd rfl hr.ne_nil
      · exact fun hr => absurd rfl hr.ne_nil
    · exact fun hr => absurd rfl hr.ne_nil
  | kfree hops | giveback hops | resumeUnlessFwPaused hops | resumeCommand hops | activate hops
  | returnUnlessStalled hops | resetCommand hops | clearStalled hops | setFwPaused hops
  | stall hops =>
    rw [hops] at hrest
    nomatch hrest

end Working

/-! ## All runs -/

section Runs

variable {s : Endpoint}

theorem reachable_tidy (h : endpointSystem.Reachable EndsCleanly s) : Tidy s.worker s.q := by
  refine StepSystem.Reachable.invariant (I := fun s => Tidy s.worker s.q) ?_ ?_ h
  · rintro s ⟨address, devAddr, qidIn, qidOut, urbs, m, w, rfl⟩
    refine ⟨fun u hu => absurd hu List.not_mem_nil, fun urb hin => ?_⟩
    obtain ⟨d, t, ht, e, he, -⟩ := hin
    obtain ⟨qid, rfl⟩ := bceVhciCreateTransferQueue_sqs ht
    exact absurd he List.not_mem_nil
  · intro a s s' hreach htidy hguard hstep
    have howned := reachable_owned hreach
    have hahead := reachable_removalAhead hreach
    have heff := step_spec howned hstep
    have howned' : Owned s' := howned.step heff
    refine (htidy.step howned hahead (reachable_old hreach) (reachable_recorded hreach) hguard
      heff).goesOn fun u hu urb v d hhas hr => ?_
    -- only a step of the work item comes nearer to a removal
    by_cases ha : ∃ reply aborted, a = .workStep reply aborted
    · obtain ⟨reply, aborted, rfl⟩ := ha
      refine (hahead.removing_work hguard (step_workStep hstep) hr).imp id fun hnot => ?_
      have hurb : urb = (s'.q.urbs u).enqueue := howned'.urb_eq hu hhas
      rw [hurb]
      exact hnot hu
    · exact .inl (hahead.removing_offWork (step_offWork howned hstep
        fun reply aborted heq => ha ⟨reply, aborted, heq⟩) hr)

/-- **Nothing is in flight for what is given back**, in every run whose URBs end
in time and whose cancel works flush what they remove. -/
theorem given_back_not_in_flight (h : endpointSystem.Reachable EndsCleanly s) :
    ∀ n ∈ s.givenBack, ¬InFlight s.q.sqs n := by
  intro n hn hin
  have howned := reachable_owned h
  obtain ⟨u, hu, hp⟩ := (reachable_tidy h).linked n hin
  obtain ⟨v, hhas⟩ := howned.linked u hu
  obtain rfl := Option.some.inj (hp.symm.trans hhas.hcpriv)
  exact howned.not_givenBack (Endpoint.mem_held.mpr (.inl hu)) hn

end Runs

/-! ## Decidability -/

instance (P : BceVhciTransferQueue → Nat → BceVhciUrb → Prop) [∀ q urb v, Decidable (P q urb v)]
    (us : List Nat) (q : BceVhciTransferQueue) : Decidable (OfFirst P us q) :=
  inferInstanceAs (Decidable (∀ u ∈ us.head?, ∀ urb ∈ (q.urbs u).hcpriv, ∀ v ∈ q.vurbs urb, _))

instance (worker : List WorkOp) (msg : BceVhciMessage) (q : BceVhciTransferQueue) (urb : Nat)
    (v : BceVhciUrb) : Decidable (MessageInTime worker msg q urb v) :=
  @instDecidableAnd _ _ inferInstance inferInstance

instance (worker : List WorkOp) (e : TransferElement) (c : BceSqCompletionData)
    (q : BceVhciTransferQueue) (urb : Nat) (v : BceVhciUrb) :
    Decidable (CompletionInTime worker e c q urb v) :=
  @instDecidableAnd _ _ inferInstance inferInstance

instance (q : BceVhciTransferQueue) (urb : Nat) (v : BceVhciUrb) :
    Decidable (ResumeInTime q urb v) :=
  inferInstanceAs (Decidable (_ → _))

instance (worker : List WorkOp) (q : BceVhciTransferQueue) :
    ∀ op, Decidable (LockOp.InTime worker q op)
  | .deliver => inferInstanceAs (Decidable (∀ msg ∈ q.evq.head?, _))
  | .event _ => inferInstanceAs (Decidable ((_ → _) → _))
  | .completions d => inferInstanceAs (Decidable (∀ t ∈ q.sqs d, ∀ p ∈ t.pending.head?, _))
  | .resume us => inferInstanceAs (Decidable (OfFirst ResumeInTime us q))
  | .giveback | .back => .isTrue trivial

instance (q : BceVhciTransferQueue) (reply : CommandOutcome) (aborted u : Nat) :
    ∀ op, Decidable (WorkOp.Flushes q reply aborted u op)
  | .pauseCommand => inferInstanceAs (Decidable (_ ∨ _))
  | .flush d => inferInstanceAs (Decidable (∀ t ∈ q.sqs d, _))
  | .locked | .deactivate | .removePending | .remove .. | .kfree _ | .giveback _
  | .resumeUnlessFwPaused | .resumeCommand | .activate | .returnUnlessStalled | .resetCommand
  | .clearStalled | .setFwPaused _ | .stall => .isTrue trivial

instance : ∀ a s, Decidable (EndsCleanly a s)
  | .lockStep, s => inferInstanceAs (Decidable (∀ op ∈ s.lock.head?, op.InTime s.worker s.q))
  | .workStep reply aborted, s =>
    inferInstanceAs (Decidable (∀ op ∈ s.worker.head?, ∀ u ∈ removals s.worker,
      u ∈ s.q.urbList → op.Flushes s.q reply aborted u))
  | .enqueue .., _ | .dequeue .., _ | .endpointReset, _ | .event _, _ | .completion _, _ | .pop, _
  | .leave, _ | .give _, _ | .startCancel .., _ | .startReset, _ | .startFirmware _, _
  | .complete .., _ | .accept _, _ | .async .., _ => .isTrue trivial

/-- A URB that asks for data and is cancelled: the pause works, and the flush
aborts its element. -/
def cancelledInTime : Endpoint :=
  endpointSystem.after EndsCleanly
    [.enqueue 0 ⟨true, 4, 0, 0⟩ 0, .lockStep, .dequeue 0 (-104), .startCancel 0 (-104),
      .workStep ⟨0, 0⟩ 0, .workStep ⟨0, 0⟩ 0, .workStep ⟨0, BCE_VHCI_ENDPOINT_PAUSED⟩ 0,
      .workStep ⟨0, 0⟩ 1, .workStep ⟨0, 0⟩ 0, .workStep ⟨0, 0⟩ 0, .lockStep, .lockStep,
      .workStep ⟨0, 0⟩ 0, .workStep ⟨0, 0⟩ 0] (.fresh 0x81)

theorem given_back_not_in_flight_of_a_cancel :
    cancelledInTime.givenBack = [0] ∧
      ∀ n ∈ cancelledInTime.givenBack, ¬InFlight cancelledInTime.q.sqs n := by
  have hreach : endpointSystem.Reachable EndsCleanly cancelledInTime :=
    .after (.of_init (Endpoint.fresh_init 0x81)) (by decide +kernel)
  exact ⟨by decide +kernel, given_back_not_in_flight hreach⟩

/-- The same URB, but the controller does not answer the pause: the cancel work
removes the URB all the same. -/
def cancelledUnpaused : Endpoint :=
  endpointSystem.after (fun _ _ => True)
    [.enqueue 0 ⟨true, 4, 0, 0⟩ 0, .lockStep, .dequeue 0 (-104), .startCancel 0 (-104),
      .workStep ⟨0, 0⟩ 0, .workStep ⟨0, 0⟩ 0, .workStep ⟨-110, 0⟩ 0, .workStep ⟨0, 0⟩ 0,
      .lockStep, .lockStep, .workStep ⟨0, 0⟩ 0, .workStep ⟨0, 0⟩ 0] (.fresh 0x81)

/-- It is given back while the device still has the element that names its buffer. -/
theorem given_back_in_flight :
    ¬∀ s, endpointSystem.Reachable (fun _ _ => True) s →
      ∀ n ∈ s.givenBack, ¬InFlight s.q.sqs n := by
  intro h
  have hreach : endpointSystem.Reachable (fun _ _ => True) cancelledUnpaused :=
    .after (.of_init (Endpoint.fresh_init 0x81)) (by decide +kernel)
  exact h cancelledUnpaused hreach 0 (by decide +kernel) (by decide +kernel)

end BceDriver
