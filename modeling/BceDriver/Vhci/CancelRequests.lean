import BceDriver.Vhci.Directions
import BceDriver.Vhci.Stall

/-!
# Which enqueue a cancellation ends

`bce_vhci_urb_request_cancel` queues a work item that names a `struct urb`. By
the time it runs the URB may have completed, gone back to its owner and been
enqueued again. `CancelRecord` keeps what the work item does not: the enqueue the
cancellation was requested for.

- `EnqueueStep`: what a step does to the enqueues of the URBs.
- `CancelInv`: a requested URB is still in the enqueue of the request exactly as
  long as it was not enqueued again.
- `cancels_end_their_enqueue`: so a cancellation ends the enqueue it was
  requested for, unless the URB was enqueued again in between.
-/

namespace BceDriver

open FaultState

/-! ## What a step does to the enqueues -/

/-- No URB is enqueued. -/
structure SameEnqueues (q q' : BceVhciTransferQueue) : Prop where
  linked : ∀ u ∈ q'.urbList, u ∈ q.urbList
  enqueue : ∀ u, (q'.urbs u).enqueue = (q.urbs u).enqueue
  nextVurb : q'.nextVurb = q.nextVurb

/-- The URB at `u`, which was not linked, is enqueued or is refused, and then is
not linked either. -/
structure TriedEnqueue (q : BceVhciTransferQueue) (u : Nat) (q' : BceVhciTransferQueue) : Prop where
  new : u ∉ q.urbList
  linked : ∀ u' ∈ q'.urbList, u' ≠ u → u' ∈ q.urbList
  others : ∀ u', u' ≠ u → (q'.urbs u').enqueue = (q.urbs u').enqueue
  nextVurb : q'.nextVurb = q.nextVurb + 1

/-- What a step does to the enqueues. -/
inductive EnqueueStep (s : Endpoint) (a : EndpointAction) (s' : Endpoint) : Prop where
  | same : SameEnqueues s.q s'.q → s'.accepted = s.accepted → EnqueueStep s a s'
  | accepted {u : Nat} {request : UrbRequest} {linked : Int} : a = .enqueue u request linked →
      TriedEnqueue s.q u s'.q → (s'.q.urbs u).enqueue = s.q.nextVurb →
      s'.accepted = s.accepted ++ [s.q.nextVurb] → EnqueueStep s a s'
  | refused {u : Nat} {request : UrbRequest} {linked : Int} : a = .enqueue u request linked →
      TriedEnqueue s.q u s'.q → u ∉ s'.q.urbList →
      (s'.q.urbs u).enqueue = (s.q.urbs u).enqueue ∨ (s'.q.urbs u).enqueue = s.q.nextVurb →
      s'.accepted = s.accepted → EnqueueStep s a s'

section Enqueues

variable {q q' : BceVhciTransferQueue} {s s' : Endpoint} {u : Nat}

theorem SameEnqueues.of_same (h : SameHeap q q') : SameEnqueues q q' :=
  ⟨fun _ hu => h.urbList ▸ hu, h.enqueue, h.nextVurb⟩

theorem SameEnqueues.of_ended {urb : Nat} (h : Ended q urb u q') : SameEnqueues q q' :=
  ⟨fun _ hu => List.mem_of_mem_erase (h.urbList ▸ hu), h.enqueue, h.nextVurb⟩

theorem SameEnqueues.of_head (h : HeadHeap q q') : SameEnqueues q q' := by
  rcases h with h | ⟨u, urb, v, -, h⟩
  · exact .of_same h
  · exact .of_ended h

/-- Giving a URB back leaves its enqueue named. -/
theorem SameEnqueues.giveBack (s : Endpoint) (u : Nat) : SameEnqueues s.q (s.giveBack u).q := by
  refine ⟨fun _ hu => hu, fun u' => ?_, rfl⟩
  by_cases hu : u' = u
  · subst hu
    simp [Endpoint.giveBack]
  · simp [Endpoint.giveBack, hu]

theorem StepEffect.enqueueStep {a : EndpointAction} (heff : StepEffect s a s') :
    EnqueueStep s a s' := by
  have hfill : ∀ u request, ((s.q.fill u request).urbs u).enqueue = (s.q.urbs u).enqueue := by
    intro u request
    simp [BceVhciTransferQueue.fill]
  cases heff with
  | died => exact .same (.of_same (.refl _)) rfl
  | quiet _ hq => exact .same (.of_same hq.flags.heap) hq.accepted
  | @enqueued u request linked q' _ hu _ heff =>
    have hnew : u ∉ s.q.urbList := fun h => hu (.inl h)
    have hheap := heff.linked
    have hothers := (Others.link s.q u request).trans_same hheap
    -- the URB is named after its enqueue, and what follows keeps the name
    have hname : (q'.urbs u).enqueue = s.q.nextVurb := by
      rw [hheap.enqueue u]
      simp [BceVhciTransferQueue.link, BceVhciTransferQueue.fill]
    refine .accepted rfl ⟨hnew, fun u' hu' hne => ?_, fun u' hne => (hothers.urbs u' hne).2,
      hothers.nextVurb⟩ hname ?_
    · rw [hheap.urbList] at hu'
      rcases List.mem_append.mp hu' with hu' | hu'
      · exact hu'
      · exact absurd (List.mem_singleton.mp hu') hne
    · dsimp only
      rw [hname]
  | @refused u request linked r q' _ hu _ hr heff =>
    have hnew : u ∉ s.q.urbList := fun h => hu (.inl h)
    obtain ⟨hothers, hlist⟩ := heff.others hr hnew
    refine .refused rfl ⟨hnew, fun u' hu' _ => hlist ▸ hu', fun u' hne => (hothers.urbs u' hne).2,
      hothers.nextVurb⟩ (hlist ▸ hnew) ?_ rfl
    cases heff with
    | refused =>
      left
      simp [BceVhciTransferQueue.fill]
    | active => exact absurd rfl hr
    -- the URB is off the list again, and keeps its new name
    | failed _ _ hinit =>
      right
      have hheap := hinit.heap (Function.update_self ..)
      have hname := hheap.enqueue u
      simpa [BceVhciTransferQueue.discard, BceVhciTransferQueue.link,
        BceVhciTransferQueue.fill] using hname
    | paused => exact absurd rfl hr
  | delivered _ heff => exact .same (.of_head heff.heap) rfl
  | completed _ heff => exact .same (.of_head heff.heap) rfl
  | event _ heff => exact .same (.of_head heff.heap) rfl
  | resumed _ _ hhas heff =>
    rcases heff.heap hhas.vurb with hheap | hheap
    · exact .same (.of_same hheap) rfl
    · exact .same (.of_ended hheap) rfl
  | activated =>
    exact .same (.of_same ⟨rfl, rfl, fun _ => rfl, fun _ => rfl, fun _ => rfl, rfl⟩) rfl
  | @removed _ _ u status ops _ _ _ =>
    refine .same ⟨fun _ hu => List.mem_of_mem_erase hu, fun u' => ?_, rfl⟩ rfl
    by_cases hu : u' = u
    · subst hu
      simp
    · simp [hu]
  | freed => exact .same ⟨fun _ hu => hu, fun _ => rfl, rfl⟩ rfl
  | gaveRemoved => exact .same (.giveBack s _) rfl
  | popped => exact .same ⟨fun _ hu => hu, fun _ => rfl, rfl⟩ rfl
  | gave => exact .same (.giveBack s _) rfl
  | device => exact .same ⟨fun _ hu => hu, fun _ => rfl, rfl⟩ rfl

end Enqueues

/-! ## The record -/

/-- A cancellation that was asked for. -/
structure CancelRequest where
  u : Nat
  status : Int
  /-- the enqueue the URB was in -/
  enqueue : Nat
  /-- how many enqueues there had been -/
  since : Nat
deriving DecidableEq

/-- What the work item keeps of it. -/
def CancelRequest.work (r : CancelRequest) : Nat × Int := (r.u, r.status)

/-- A URB the cancel worker took off the list. -/
structure Removal where
  u : Nat
  request : Option CancelRequest
  /-- the enqueue it was in -/
  removed : Nat
  /-- it was enqueued again after the request -/
  again : Bool
deriving DecidableEq

/-- The cancellation was requested for the enqueue that it ended. -/
def Removal.Requested (m : Removal) : Prop :=
  ∃ r ∈ m.request, r.u = m.u ∧ r.enqueue = m.removed

structure CancelRecord where
  /-- the URBs enqueued so far, in order -/
  enqueued : List Nat
  /-- the requests whose work items wait -/
  requests : List CancelRequest
  /-- the request the worker serves, or the last one it served -/
  serving : Option CancelRequest
  removals : List Removal

/-- The URB was enqueued again after the request the worker serves. -/
def CancelRecord.EnqueuedAgain (h : CancelRecord) (u : Nat) : Prop :=
  ∃ r ∈ h.serving, u ∈ h.enqueued.drop r.since

instance (h : CancelRecord) (u : Nat) : Decidable (h.EnqueuedAgain u) :=
  inferInstanceAs (Decidable (∃ r ∈ h.serving, _))

def noteEnqueued (a : EndpointAction) (s s' : Endpoint) (enqueued : List Nat) : List Nat :=
  match a with
  | .enqueue u _ _ => if s.accepted.length < s'.accepted.length then enqueued ++ [u] else enqueued
  | _ => enqueued

def noteRequests (a : EndpointAction) (s s' : Endpoint) (h : CancelRecord) : List CancelRequest :=
  match a with
  | .dequeue u status =>
    if s.cancels.length < s'.cancels.length then
      h.requests ++ [⟨u, status, (s.q.urbs u).enqueue, h.enqueued.length⟩]
    else h.requests
  | .startCancel u status => h.requests.eraseP fun r => r.work = (u, status)
  | _ => h.requests

def noteServing (a : EndpointAction) (h : CancelRecord) : Option CancelRequest :=
  match a with
  | .startCancel u status => h.requests.find? fun r => r.work = (u, status)
  | _ => h.serving

/-- `bce_vhci_urb_remove` took its URB off the list. -/
def noteRemovals (a : EndpointAction) (s s' : Endpoint) (h : CancelRecord) : List Removal :=
  match a, s.worker with
  | .workStep _ _, .remove u _ :: _ =>
    if u ∈ s.q.urbList ∧ u ∉ s'.q.urbList then
      h.removals ++ [⟨u, h.serving, (s.q.urbs u).enqueue, decide (h.EnqueuedAgain u)⟩]
    else h.removals
  | _, _ => h.removals

def noteCancels (a : EndpointAction) (s s' : Endpoint) (h : CancelRecord) : CancelRecord where
  enqueued := noteEnqueued a s s' h.enqueued
  requests := noteRequests a s s' h
  serving := noteServing a h
  removals := noteRemovals a s s' h

/-- The runs of an endpoint, with what was cancelled and for whom. -/
def cancelSystem : StepSystem (Endpoint × CancelRecord) EndpointAction :=
  endpointSystem.withHistory (fun _ => ⟨[], [], none, []⟩) noteCancels

/-- The URB the worker is about to remove, if it is linked, was not enqueued again
since the request. -/
def WorkOp.RemovesRequested (q : BceVhciTransferQueue) (h : CancelRecord) : WorkOp → Prop
  | .remove u _ => u ∈ q.urbList → ¬h.EnqueuedAgain u
  | _ => True

def CancelsInTime : EndpointAction → Endpoint × CancelRecord → Prop
  | .workStep _ _, p => ∀ op ∈ p.1.worker.head?, op.RemovesRequested p.1.q p.2
  | _, _ => True

/-! ## Every request finds its enqueue -/

/-- A request whose work item has not ended. -/
structure Outstanding (s : Endpoint) (enqueued : List Nat) (r : CancelRequest) : Prop where
  since : r.since ≤ enqueued.length
  old : r.enqueue < s.q.nextVurb
  same : r.u ∈ s.q.urbList → r.u ∉ enqueued.drop r.since →
    (s.q.urbs r.u).enqueue = r.enqueue
  later : r.u ∈ enqueued.drop r.since → r.enqueue < (s.q.urbs r.u).enqueue

section Requests

variable {s s' : Endpoint} {a : EndpointAction} {enqueued : List Nat} {r : CancelRequest}

theorem noteEnqueued_of_eq (h : s'.accepted = s.accepted) :
    noteEnqueued a s s' enqueued = enqueued := by
  unfold noteEnqueued
  cases a with
  | enqueue u request linked => exact if_neg (by rw [h]; exact lt_irrefl _)
  | _ => rfl

/-- A request stays outstanding whatever happens to the URBs. -/
theorem Outstanding.step (h : Outstanding s enqueued r) (hstep : EnqueueStep s a s') :
    Outstanding s' (noteEnqueued a s s' enqueued) r := by
  cases hstep with
  | same hq hacc =>
    rw [noteEnqueued_of_eq hacc]
    refine ⟨h.since, hq.nextVurb ▸ h.old, fun hu hnot => ?_, fun hmem => ?_⟩
    · rw [hq.enqueue]
      exact h.same (hq.linked _ hu) hnot
    · rw [hq.enqueue]
      exact h.later hmem
  | @accepted u request linked ha hq hname hacc =>
    have hnote : noteEnqueued a s s' enqueued = enqueued ++ [u] := by
      rw [ha]
      exact if_pos (by rw [hacc]; simp)
    have hold := h.old
    rw [hnote]
    refine ⟨?_, ?_, fun hu hnot => ?_, fun hmem => ?_⟩
    · rw [List.length_append]
      exact Nat.le_add_right_of_le h.since
    · rw [hq.nextVurb]
      omega
    · rw [List.drop_append_of_le_length h.since, List.mem_append, not_or] at hnot
      -- a URB that was not enqueued again is not the one enqueued now
      have hne : r.u ≠ u := fun heq => hnot.2 (by simp [heq])
      rw [hq.others r.u hne]
      exact h.same (hq.linked r.u hu hne) hnot.1
    · by_cases heq : r.u = u
      · rw [heq, hname]
        exact hold
      · rw [List.drop_append_of_le_length h.since, List.mem_append] at hmem
        rw [hq.others r.u heq]
        exact h.later (hmem.resolve_right (by simp [heq]))
  | @refused u request linked ha hq hoff hname hacc =>
    have hold := h.old
    rw [noteEnqueued_of_eq hacc]
    refine ⟨h.since, ?_, fun hu hnot => ?_, fun hmem => ?_⟩
    · rw [hq.nextVurb]
      omega
    · have hne : r.u ≠ u := by
        rintro heq
        exact hoff (heq ▸ hu)
      rw [hq.others r.u hne]
      exact h.same (hq.linked r.u hu hne) hnot
    · by_cases heq : r.u = u
      · rcases hname with hname | hname
        · rw [heq, hname, ← heq]
          exact h.later hmem
        · rw [heq, hname]
          exact hold
      · rw [hq.others r.u heq]
        exact h.later hmem

end Requests

/-! ## Every run -/

structure CancelInv (s : Endpoint) (h : CancelRecord) : Prop where
  cancels : s.cancels = h.requests.map CancelRequest.work
  serving : ∀ u status, .remove u status ∈ s.worker → ∃ r ∈ h.serving, r.u = u
  outstanding : ∀ r, r ∈ h.requests ∨ r ∈ h.serving → Outstanding s h.enqueued r
  removals : ∀ m ∈ h.removals, m.Requested ↔ m.again = false

section Runs

variable {s s' : Endpoint} {a : EndpointAction} {h : CancelRecord}

/-- The work item queues no cancel work and begins no removal. -/
theorem workStep_workqueue {reply : CommandOutcome} {aborted : Nat}
    (hstep : s.workStep reply aborted = some s') :
    s'.cancels = s.cancels ∧
      ∀ u status, .remove u status ∈ s'.worker → .remove u status ∈ s.worker := by
  -- a handler that runs on the queue alone, or faults
  have hexec : ∀ {α : Type} (m : TransferM α) (k : α → BceVhciTransferQueue → Endpoint),
      (∀ a q, (k a q).cancels = s.cancels ∧
        ∀ u status, .remove u status ∈ (k a q).worker → .remove u status ∈ s.worker) →
      (s.exec m k).cancels = s.cancels ∧
        ∀ u status, .remove u status ∈ (s.exec m k).worker → .remove u status ∈ s.worker :=
    fun m k hk => Endpoint.exec_any (Q := fun s' => s'.cancels = s.cancels ∧
      ∀ u status, .remove u status ∈ s'.worker → .remove u status ∈ s.worker) hk
      fun _ => ⟨rfl, fun _ _ => id⟩
  cases workStep_branch hstep with
  | deactivate hops | removePending hops | flush hops | kfree hops | activate hops =>
    exact hexec _ _ fun _ _ => ⟨rfl, fun _ _ => by simp [hops]⟩
  | giveback hops | resetCommand hops | clearStalled hops | setFwPaused hops | stall hops =>
    exact ⟨rfl, fun _ _ => by simp [hops]⟩
  | pauseCommand hops =>
    refine hexec _ _ fun status q => ?_
    split
    · exact ⟨rfl, fun _ _ => by simp [hops]⟩
    · exact ⟨rfl, fun _ _ => by simp [hops]⟩
  | @remove u status ops hops =>
    have hrest : ∀ u' status', .remove u' status' ∈ ops → .remove u' status' ∈ s.worker :=
      fun _ _ hmem => hops ▸ List.mem_cons_of_mem _ hmem
    refine hexec _ _ fun r q => ?_
    split
    · split
      · exact ⟨rfl, fun u' status' hmem => hrest u' status' (by simpa using hmem)⟩
      · exact ⟨rfl, fun u' status' hmem => hrest u' status' (by simpa using hmem)⟩
    · exact ⟨rfl, hrest⟩
  | resumeUnlessFwPaused hops =>
    refine ⟨rfl, fun u status hmem => ?_⟩
    rw [hops]
    by_cases hp : s.q.fwPaused = true
    · simpa [hp] using hmem
    · simpa [hp] using hmem
  | resumeCommand hops =>
    refine hexec _ _ fun r q => ⟨rfl, fun u status hmem => ?_⟩
    rw [hops]
    by_cases hr : r = 0
    · simpa [hr] using hmem
    · simpa [hr] using hmem
  | returnUnlessStalled hops =>
    refine ⟨rfl, fun u status hmem => ?_⟩
    rw [hops]
    by_cases hs : s.q.stalled = true
    · simpa [hs] using hmem
    · simp [hs] at hmem

/-- A step that queues no request and serves none. -/
theorem CancelInv.of_same (hinv : CancelInv s h) (henq : EnqueueStep s a s')
    (hreq : noteRequests a s s' h = h.requests) (hserv : noteServing a h = h.serving)
    (hrem : noteRemovals a s s' h = h.removals) (hcancels : s'.cancels = s.cancels)
    (hworker : ∀ u status, .remove u status ∈ s'.worker → .remove u status ∈ s.worker) :
    CancelInv s' (noteCancels a s s' h) where
  cancels := by
    rw [noteCancels, hreq, hcancels]
    exact hinv.cancels
  serving := by
    rw [noteCancels, hserv]
    exact fun u status hmem => hinv.serving u status (hworker u status hmem)
  outstanding := by
    rw [noteCancels, hreq, hserv]
    exact fun r hr => (hinv.outstanding r hr).step henq
  removals := by
    rw [noteCancels, hrem]
    exact hinv.removals

/-- A cancellation is requested: for the enqueue its URB is in. -/
theorem CancelInv.queued (howned : Owned s) (hinv : CancelInv s h) {u : Nat} {status : Int}
    (henq : EnqueueStep s (.dequeue u status) s') (hu : u ∈ s.q.urbList)
    (hworker : s'.worker = s.worker) (hcancels : s'.cancels = s.cancels ++ [(u, status)]) :
    CancelInv s' (noteCancels (.dequeue u status) s s' h) := by
  have hreq : noteRequests (.dequeue u status) s s' h =
      h.requests ++ [⟨u, status, (s.q.urbs u).enqueue, h.enqueued.length⟩] :=
    if_pos (by rw [hcancels]; simp)
  have hnew : Outstanding s h.enqueued ⟨u, status, (s.q.urbs u).enqueue, h.enqueued.length⟩ := by
    refine ⟨le_rfl, ?_, fun _ _ => rfl, fun hmem => ?_⟩
    · exact howned.old _ (howned.accepted_of_held (Endpoint.mem_held.mpr (.inl hu)))
    · simp at hmem
  refine ⟨?_, ?_, fun r hr => ?_, hinv.removals⟩
  · rw [noteCancels, hreq, hcancels, hinv.cancels, List.map_append]
    rfl
  · rw [hworker]
    exact hinv.serving
  · rw [noteCancels, hreq, List.mem_append] at hr
    rcases hr with (hr | hr) | hr
    · exact (hinv.outstanding r (.inl hr)).step henq
    · obtain rfl := List.mem_singleton.mp hr
      exact hnew.step henq
    · exact (hinv.outstanding r (.inr hr)).step henq

/-- The worker begins to serve the oldest request of its kind. -/
theorem CancelInv.cancel (hinv : CancelInv s h) {u : Nat} {status : Int}
    (henq : EnqueueStep s (.startCancel u status) s') (hmem : (u, status) ∈ s.cancels)
    (hworker : s'.worker = cancelOps u status)
    (hcancels : s'.cancels = s.cancels.erase (u, status)) :
    CancelInv s' (noteCancels (.startCancel u status) s s' h) := by
  have hfound : ∃ r, h.requests.find? (fun r => r.work = (u, status)) = some r := by
    rw [hinv.cancels] at hmem
    obtain ⟨r, hr, hwork⟩ := List.mem_map.mp hmem
    rw [← Option.isSome_iff_exists, List.find?_isSome]
    exact ⟨r, hr, by simp [hwork]⟩
  obtain ⟨r, hr⟩ := hfound
  have hwork : r.work = (u, status) := by simpa using List.find?_some hr
  refine ⟨?_, fun u' status' hmem' => ⟨r, hr, ?_⟩, fun r' hr' => ?_, hinv.removals⟩
  · rw [hcancels, hinv.cancels, List.erase_eq_eraseP, List.eraseP_map]
    refine congrArg (List.map CancelRequest.work ·) (congrArg (List.eraseP · h.requests) ?_)
    funext r'
    exact (beq_eq_decide _ _).trans (decide_eq_decide.mpr eq_comm)
  · rw [hworker] at hmem'
    have heq : u' = u ∧ status' = status := by simpa [cancelOps, pauseOps] using hmem'
    rw [heq.1]
    exact congrArg Prod.fst hwork
  · refine (hinv.outstanding r' (.inl ?_)).step henq
    rcases hr' with hr' | hr'
    · exact List.mem_of_mem_eraseP hr'
    · exact List.mem_of_find?_eq_some hr'

theorem CancelInv.offWork (howned : Owned s) (hinv : CancelInv s h) (henq : EnqueueStep s a s')
    (hoff : WorkqueueStep s a s') (ha : ∀ reply aborted, a ≠ .workStep reply aborted) :
    CancelInv s' (noteCancels a s s' h) := by
  have hrem : noteRemovals a s s' h = h.removals := by
    unfold noteRemovals
    cases a with
    | workStep reply aborted => exact absurd rfl (ha reply aborted)
    | _ => rfl
  cases hoff with
  | same hstart hworker hcancels =>
    refine hinv.of_same henq ?_ ?_ hrem hcancels fun u status hmem => hworker ▸ hmem
    · cases a with
      | dequeue u status => exact if_neg (by rw [hcancels]; exact lt_irrefl _)
      | startCancel u status => exact absurd rfl (hstart u status)
      | _ => rfl
    · cases a with
      | startCancel u status => exact absurd rfl (hstart u status)
      | _ => rfl
  | unlocked ha' hworker hcancels =>
    subst ha'
    exact hinv.of_same henq rfl rfl hrem hcancels fun u status hmem =>
      hworker ▸ List.mem_cons_of_mem _ hmem
  | queued ha' hu hworker hcancels =>
    subst ha'
    exact hinv.queued howned henq hu hworker hcancels
  | cancel ha' _ hmem hworker hcancels =>
    subst ha'
    exact hinv.cancel henq hmem hworker hcancels
  | reset ha' _ hworker hcancels =>
    subst ha'
    refine hinv.of_same henq rfl rfl hrem hcancels fun u status hmem => ?_
    rw [hworker] at hmem
    simp [resetOps] at hmem
  | firmware ha' _ hworker hcancels =>
    subst ha'
    refine hinv.of_same henq rfl rfl hrem hcancels fun u status hmem => ?_
    exact absurd (firmwareOps_mem (hworker ▸ hmem)) (by simp)

/-- The enqueue that a removal ends is the one its request is for, unless the URB
was enqueued again. -/
theorem CancelInv.removal (hinv : CancelInv s h) {u : Nat} {status : Int} {ops : List WorkOp}
    (hw : s.worker = .remove u status :: ops) (hu : u ∈ s.q.urbList) :
    Removal.Requested ⟨u, h.serving, (s.q.urbs u).enqueue, decide (h.EnqueuedAgain u)⟩ ↔
      decide (h.EnqueuedAgain u) = false := by
  obtain ⟨r, hr, hru⟩ := hinv.serving u status (hw ▸ List.mem_cons_self)
  have hout := hinv.outstanding r (.inr hr)
  have hagain : h.EnqueuedAgain u ↔ u ∈ h.enqueued.drop r.since := by
    constructor
    · rintro ⟨r', hr', hmem⟩
      obtain rfl := Option.some.inj (hr.symm.trans hr')
      exact hmem
    · exact fun hmem => ⟨r, hr, hmem⟩
  rw [decide_eq_false_iff_not]
  refine Iff.trans ?_ (not_congr hagain).symm
  subst hru
  constructor
  · rintro ⟨r', hr', -, heq⟩ hmem
    obtain rfl := Option.some.inj (hr.symm.trans hr')
    exact absurd heq (Nat.ne_of_lt (hout.later hmem))
  · intro hnot
    exact ⟨r, hr, rfl, (hout.same hu hnot).symm⟩

theorem CancelInv.work (hinv : CancelInv s h) {reply : CommandOutcome} {aborted : Nat}
    (henq : EnqueueStep s (.workStep reply aborted) s')
    (hstep : s.workStep reply aborted = some s') :
    CancelInv s' (noteCancels (.workStep reply aborted) s s' h) := by
  obtain ⟨hcancels, hworker⟩ := workStep_workqueue hstep
  refine ⟨hcancels.trans hinv.cancels,
    fun u status hmem => hinv.serving u status (hworker u status hmem),
    fun r hr => (hinv.outstanding r hr).step henq, fun m hm => ?_⟩
  unfold noteCancels noteRemovals at hm
  dsimp only at hm
  split at hm
  · next _ _ u status ops hw =>
    split at hm
    · next hgone =>
      rcases List.mem_append.mp hm with hm | hm
      · exact hinv.removals m hm
      · obtain rfl := List.mem_singleton.mp hm
        exact hinv.removal hw hgone.1
    · exact hinv.removals m hm
  · exact hinv.removals m hm

theorem reachable_cancelInv {p : Endpoint × CancelRecord}
    (h : cancelSystem.Reachable (fun _ _ => True) p) : CancelInv p.1 p.2 := by
  refine StepSystem.Reachable.invariant (I := fun p => CancelInv p.1 p.2) ?_ ?_ h
  · rintro ⟨s, record⟩ hinit
    obtain ⟨⟨address, devAddr, qidIn, qidOut, urbs, m, w, rfl⟩, rfl⟩ :=
      StepSystem.withHistory_init.mp hinit
    refine ⟨rfl, fun u status hmem => ?_, fun r hr => ?_, fun m hm => ?_⟩
    · cases hmem
    · rcases hr with hr | hr
      · cases hr
      · cases hr
    · cases hm
  · rintro a ⟨s, record⟩ ⟨s', record'⟩ hreach hinv - hnext
    obtain ⟨hstep, rfl⟩ := StepSystem.withHistory_step hnext
    have howned : Owned s :=
      reachable_owned (G := fun _ _ => True) (hreach.forget fun _ _ _ => trivial)
    have henq := (step_spec howned hstep).enqueueStep
    by_cases ha : ∃ reply aborted, a = .workStep reply aborted
    · obtain ⟨reply, aborted, rfl⟩ := ha
      exact hinv.work henq (step_workStep hstep)
    · have ha' : ∀ reply aborted, a ≠ .workStep reply aborted :=
        fun reply aborted heq => ha ⟨reply, aborted, heq⟩
      exact hinv.offWork howned henq (step_offWork howned hstep ha').workqueue ha'

/-- With no URB enqueued again before its removal, none ever was. -/
theorem reachable_inTime {p : Endpoint × CancelRecord}
    (h : cancelSystem.Reachable CancelsInTime p) : ∀ m ∈ p.2.removals, m.again = false := by
  refine StepSystem.Reachable.invariant (I := fun p : Endpoint × CancelRecord =>
    ∀ m ∈ p.2.removals, m.again = false) ?_ ?_ h
  · rintro ⟨s, record⟩ hinit m hm
    obtain ⟨-, rfl⟩ := StepSystem.withHistory_init.mp hinit
    cases hm
  · rintro a ⟨s, record⟩ ⟨s', record'⟩ - hinv hguard hnext m hm
    obtain ⟨-, rfl⟩ := StepSystem.withHistory_step hnext
    unfold noteCancels noteRemovals at hm
    dsimp only at hm
    split at hm
    · next _ _ u status ops hw =>
      split at hm
      · next hgone =>
        rcases List.mem_append.mp hm with hm | hm
        · exact hinv m hm
        · obtain rfl := List.mem_singleton.mp hm
          have hop := hguard (.remove u status) (by simp [hw])
          exact decide_eq_false (hop hgone.1)
      · exact hinv m hm
    · exact hinv m hm

/-- **A cancellation ends the enqueue it was requested for**, in every run and for
every URB the cancel worker takes off the list, exactly when the URB was not
enqueued again after the request. So in the runs in which the worker never comes
to a linked URB that was, every cancellation ends the enqueue it was requested for. -/
theorem cancels_end_their_enqueue {p : Endpoint × CancelRecord} :
    (cancelSystem.Reachable (fun _ _ => True) p →
      ∀ m ∈ p.2.removals, m.Requested ↔ m.again = false) ∧
    (cancelSystem.Reachable CancelsInTime p → ∀ m ∈ p.2.removals, m.Requested) := by
  refine ⟨fun h => (reachable_cancelInv h).removals, fun h m hm => ?_⟩
  have hinv := reachable_cancelInv (h.mono fun _ _ _ => trivial)
  exact (hinv.removals m hm).mpr (reachable_inTime h m hm)

end Runs

instance (q : BceVhciTransferQueue) (h : CancelRecord) :
    ∀ op, Decidable (WorkOp.RemovesRequested q h op)
  | .remove u _ => inferInstanceAs (Decidable (u ∈ q.urbList → ¬h.EnqueuedAgain u))
  | .locked | .deactivate | .removePending | .pauseCommand | .flush _ | .kfree _ | .giveback _
  | .resumeUnlessFwPaused | .resumeCommand | .activate | .returnUnlessStalled | .resetCommand
  | .clearStalled | .setFwPaused _ | .stall => .isTrue trivial

instance : ∀ a p, Decidable (CancelsInTime a p)
  | .workStep _ _, p =>
    inferInstanceAs (Decidable (∀ op ∈ p.1.worker.head?, op.RemovesRequested p.1.q p.2))
  | .enqueue .., _ | .dequeue .., _ | .endpointReset, _ | .event _, _ | .completion _, _ | .pop, _
  | .leave, _ | .give _, _ | .startCancel .., _ | .startReset, _ | .startFirmware _, _
  | .lockStep, _ | .complete .., _ | .accept _, _ | .async .., _ => .isTrue trivial

def cancelledState : Endpoint × CancelRecord :=
  cancelSystem.after CancelsInTime cancelRun (.fresh 0x01, ⟨[], [], none, []⟩)

/-- A URB that is cancelled at once. -/
theorem cancels_end_their_enqueue_of_one :
    cancelledState.2.removals = [⟨0, some ⟨0, -104, 0, 1⟩, 0, false⟩] ∧
      ∀ m ∈ cancelledState.2.removals, m.Requested := by
  have hreach : cancelSystem.Reachable CancelsInTime cancelledState :=
    .after (.of_init (StepSystem.withHistory_init.mpr ⟨Endpoint.fresh_init 0x01, rfl⟩))
      (by decide +kernel)
  exact ⟨by decide +kernel, cancels_end_their_enqueue.2 hreach⟩

/-- A URB completes between its cancellation and the cancel work, goes back to its
owner and is enqueued again. -/
def staleCancelRun : List EndpointAction :=
  [.enqueue 0 ⟨true, 4, 0, 0⟩ 0, .lockStep, .dequeue 0 (-104), .complete .fromDevice ⟨0, 4, 0⟩,
    .accept .fromDevice, .completion .fromDevice, .lockStep, .lockStep, .lockStep, .lockStep, .pop,
    .give 0, .enqueue 0 ⟨true, 4, 0, 0⟩ 0, .lockStep, .startCancel 0 (-104), .workStep ⟨0, 0⟩ 0,
    .workStep ⟨0, 0⟩ 0, .workStep ⟨BCE_VHCI_INTERNAL_ERROR, 0⟩ 0, .workStep ⟨0, 0⟩ 0]

def staleCancelState : Endpoint × CancelRecord :=
  cancelSystem.after (fun _ _ => True) staleCancelRun (.fresh 0x81, ⟨[], [], none, []⟩)

/-- The old request removes the new enqueue. -/
theorem stale_cancel_removes :
    ¬∀ p, cancelSystem.Reachable (fun _ _ => True) p → ∀ m ∈ p.2.removals, m.Requested := by
  intro h
  have hreach : cancelSystem.Reachable (fun _ _ => True) staleCancelState :=
    .after (.of_init (StepSystem.withHistory_init.mpr ⟨Endpoint.fresh_init 0x81, rfl⟩))
      (by decide +kernel)
  have hremovals : staleCancelState.2.removals = [⟨0, some ⟨0, -104, 0, 1⟩, 1, true⟩] := by
    decide +kernel
  obtain ⟨r, hr, -, heq⟩ := h staleCancelState hreach _ (hremovals ▸ List.mem_singleton_self _)
  obtain rfl := Option.some.inj hr
  exact absurd heq (by decide)

end BceDriver
