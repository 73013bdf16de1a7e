import BceDriver.Lib.History
import BceDriver.Lib.ServiceQueue
import BceDriver.Lib.Simulation
import BceDriver.Vhci.Places

/-!
# URBs are completed in the order they were enqueued in

Messages and completions are for the first URB on `endp->urb_list`, so an endpoint is a
`ServiceQueue` of its enqueues: an enqueue arrives when `bce_vhci_urb_create` accepts it
and is served when the first URB is completed. It is withdrawn when the cancel work takes
its URB off the list, and when `bce_vhci_transfer_queue_resume` cannot restart it.

- `servedBy`: the enqueues a step serves; the runs keep a record of them.
- `StepEffect.seen`: how a step is seen.
- `urbs_served_in_order`: the result, for every order of steps.
-/

namespace BceDriver

/-- The URBs that are on `giveback_urb_list` after a step and were not before. -/
def completedBy (s s' : Endpoint) : List Nat :=
  s'.q.givebackUrbList.drop s.q.givebackUrbList.length

/-- The enqueues a step serves: those it completes, unless it is restarting a URB. -/
def servedBy (a : EndpointAction) (s s' : Endpoint) (served : List Nat) : List Nat :=
  match a, s.lock with
  | .lockStep, .resume _ :: _ => served
  | .lockStep, _ => served ++ (completedBy s s').map s.enqueueOf
  | _, _ => served

/-- The runs of an endpoint, with a record of the enqueues served. -/
def servedSystem : StepSystem (Endpoint × List Nat) EndpointAction :=
  endpointSystem.withHistory (fun _ => []) servedBy

/-- The endpoint as its users see it. -/
def Endpoint.service (s : Endpoint) (served : List Nat) : ServiceQueue Nat :=
  ⟨s.accepted, s.q.urbList.map s.enqueueOf, served⟩

/-! ## How a step is seen -/

section Seen

variable {s s' : Endpoint} {a : EndpointAction} {served : List Nat}

/-- The steps of a queue of enqueues that any step of an endpoint is seen as. -/
def Seen (s : Endpoint) (served : List Nat) (s' : Endpoint) (served' : List Nat) : Prop :=
  (ServiceQueue.system Nat).Steps (fun _ _ => True) (s.service served) (s'.service served')

/-- The list of URBs is as it was. -/
theorem Seen.of_same (hlist : s'.q.urbList = s.q.urbList)
    (henq : ∀ u ∈ s.q.urbList, s'.enqueueOf u = s.enqueueOf u) (hacc : s'.accepted = s.accepted) :
    Seen s served s' served := by
  refine .of_eq ?_
  unfold Endpoint.service
  rw [hlist, hacc, List.map_congr_left henq]

/-- A URB leaves the list, wherever it is there. -/
theorem Seen.withdrawn {u : Nat} (hu : u ∈ s.q.urbList) (hlist : s'.q.urbList = s.q.urbList.erase u)
    (henq : ∀ u, s'.enqueueOf u = s.enqueueOf u) (hacc : s'.accepted = s.accepted) :
    Seen s served s' served := by
  refine .one (l := .withdraw (s.q.urbList.idxOf u)) trivial ?_
  show ServiceQueue.step (.withdraw _) (s.service served) = some (s'.service served)
  have hplace : s.q.urbList.idxOf u < (s.q.urbList.map s.enqueueOf).length := by
    rw [List.length_map]
    exact List.idxOf_lt_length_iff.mpr hu
  have hrest : (s.q.urbList.map s.enqueueOf).eraseIdx (s.q.urbList.idxOf u) =
      s'.q.urbList.map s'.enqueueOf := by
    rw [List.eraseIdx_map, List.eraseIdx_idxOf_eq_erase, hlist]
    exact List.map_congr_left fun u' _ => (henq u').symm
  unfold ServiceQueue.step Endpoint.service
  dsimp only
  rw [if_pos hplace, hrest, hacc]

/-- The first URB is completed. -/
theorem Seen.first {u : Nat} {us : List Nat} (hfirst : s.q.urbList = u :: us)
    (hlist : s'.q.urbList = s.q.urbList.erase u) (henq : ∀ u, s'.enqueueOf u = s.enqueueOf u)
    (hacc : s'.accepted = s.accepted) :
    Seen s served s' (served ++ [s.enqueueOf u]) := by
  refine .one (l := .serve) trivial ?_
  show ServiceQueue.step .serve (s.service served) = some (s'.service (served ++ [s.enqueueOf u]))
  have hrest : s'.q.urbList.map s'.enqueueOf = us.map s.enqueueOf := by
    rw [hlist, hfirst, List.erase_cons_head]
    exact List.map_congr_left fun u' _ => henq u'
  unfold ServiceQueue.step Endpoint.service
  rw [hfirst, hrest, hacc]
  rfl

/-- A new URB is the last. -/
theorem Seen.arrived (howned : Owned s) {u : Nat} {request : UrbRequest}
    {q' : BceVhciTransferQueue} (hu : ¬s.Owns u) (heff : CreateEffect (s.q.fill u request) u 0 q')
    {lock : List LockOp} :
    Seen s served
      { s with q := q', lock := lock, accepted := s.accepted ++ [(q'.urbs u).enqueue] } served := by
  have hheap := heff.linked
  have hothers := (Others.link s.q u request).trans_same hheap
  refine .one (l := .arrive (q'.urbs u).enqueue) trivial ?_
  have hlist : q'.urbList = s.q.urbList ++ [u] := hheap.urbList
  have hold : s.q.urbList.map (fun u => (q'.urbs u).enqueue) = s.q.urbList.map s.enqueueOf := by
    refine List.map_congr_left fun u' hu' => ?_
    exact (howned.others hu hothers (Endpoint.mem_held.mpr (.inl hu'))).2.1
  show some (ServiceQueue.mk _ (s.q.urbList.map s.enqueueOf ++ [(q'.urbs u).enqueue]) served) =
    some ⟨_, q'.urbList.map fun u => (q'.urbs u).enqueue, served⟩
  rw [hlist, List.map_append, hold]
  rfl

/-- A round on the first URB completes it, or leaves the list. -/
theorem Seen.of_head {q' : BceVhciTransferQueue} (hround : HeadHeap s.q q') {lock : List LockOp} :
    Seen s served { s with q := q', lock := lock }
      (served ++ (completedBy s { s with q := q', lock := lock }).map s.enqueueOf) := by
  rcases hround with h | ⟨u, urb, v, hhead, h⟩
  · have hnone : completedBy s { s with q := q', lock := lock } = [] := by
      unfold completedBy
      rw [h.givebackUrbList, List.drop_length]
    rw [hnone, List.map_nil, List.append_nil]
    exact .of_same h.urbList (fun u _ => h.enqueue u) rfl
  · have hone : completedBy s { s with q := q', lock := lock } = [u] := by
      unfold completedBy
      rw [h.givebackUrbList, List.drop_left]
    obtain ⟨us, hfirst⟩ := hhead.first
    rw [hone, List.map_singleton]
    exact .first hfirst h.urbList h.enqueue rfl

/-- **How a step is seen.** -/
theorem StepEffect.seen (howned : Owned s) (h : StepEffect s a s') :
    Seen s served s' (servedBy a s s' served) := by
  cases h with
  | died hlock =>
    have hnone : completedBy s { s with fault := some .nullDeref } = [] := List.drop_length
    have hsame : servedBy .lockStep s { s with fault := some .nullDeref } served = served := by
      unfold servedBy
      split
      · rfl
      · rw [hnone, List.map_nil, List.append_nil]
      · rfl
    rw [hsame]
    exact .of_eq rfl
  | quiet _ hquiet =>
    have hheap := hquiet.flags.heap
    have hnone : completedBy s s' = [] := by
      unfold completedBy
      rw [hheap.givebackUrbList, List.drop_length]
    have hsame : servedBy a s s' served = served := by
      unfold servedBy
      split
      · rfl
      · rw [hnone, List.map_nil, List.append_nil]
      · rfl
    rw [hsame]
    exact .of_same hheap.urbList (fun u _ => hheap.enqueue u) hquiet.accepted
  | enqueued _ hu _ heff => exact .arrived howned hu heff
  | refused _ hu _ hr heff =>
    obtain ⟨hothers, hlist⟩ := heff.others hr fun hmem => hu (.inl hmem)
    refine .of_same hlist (fun u' hu' => ?_) rfl
    exact (howned.others hu hothers (Endpoint.mem_held.mpr (.inl hu'))).2.1
  | @delivered ops more q' hops hround =>
    rw [show servedBy .lockStep s _ served = _ by unfold servedBy; rw [hops]]
    exact .of_head hround.heap
  | @completed d ops more q' hops hround =>
    rw [show servedBy .lockStep s _ served = _ by unfold servedBy; rw [hops]]
    exact .of_head hround.heap
  | @event msg ops q' hops hround =>
    rw [show servedBy .lockStep s _ served = _ by unfold servedBy; rw [hops]]
    exact .of_head hround.heap
  | resumed hops hu hhas hres =>
    rw [show servedBy .lockStep s _ served = served by unfold servedBy; rw [hops]]
    rcases hres.heap hhas.vurb with hheap | hheap
    · exact .of_same hheap.urbList (fun u _ => hheap.enqueue u) rfl
    · rw [hhas.urb_eq] at hheap
      exact .withdrawn hu hheap.urbList hheap.enqueue rfl
  | activated | freed | popped => exact .of_eq rfl
  | @removed reply aborted u status ops hops hl hu =>
    refine .withdrawn hu rfl (fun u' => ?_) rfl
    by_cases hne : u' = u
    · subst hne
      simp [Endpoint.enqueueOf]
    · simp [Endpoint.enqueueOf, hne]
  | @gaveRemoved reply aborted u ops hops =>
    refine .of_same rfl (fun u' _ => ?_) rfl
    by_cases hne : u' = u
    · subst hne
      simp [Endpoint.enqueueOf, Endpoint.giveBack]
    · simp [Endpoint.enqueueOf, Endpoint.giveBack, hne]
  | @gave u hu =>
    refine .of_same rfl (fun u' _ => ?_) rfl
    by_cases hne : u' = u
    · subst hne
      simp [Endpoint.enqueueOf, Endpoint.giveBack]
    · simp [Endpoint.enqueueOf, Endpoint.giveBack, hne]
  | @device a d t t' ops ht hdev hheld hctx =>
    have hsame : servedBy a s { s with q := s.q.setSq d t', worker := ops } served = served := by
      have hnone : completedBy s { s with q := s.q.setSq d t', worker := ops } = [] :=
        List.drop_length
      unfold servedBy
      split
      · rfl
      · rw [hnone, List.map_nil, List.append_nil]
      · rfl
    rw [hsame]
    exact .of_eq rfl

end Seen

/-! ## All runs -/

/-- **URBs are completed in the order they were enqueued in**, in every run of an endpoint:
it is a `ServiceQueue`, so that the enqueues served, and after them those still linked,
stand in the order they were accepted in. -/
theorem urbs_served_in_order {s : Endpoint} {served : List Nat}
    (h : servedSystem.Reachable (fun _ _ => True) (s, served)) :
    (ServiceQueue.system Nat).Reachable (fun _ _ => True) (s.service served) ∧
      List.Sublist (served ++ s.q.urbList.map s.enqueueOf) s.accepted := by
  have hview : (ServiceQueue.system Nat).Reachable (fun _ _ => True) (s.service served) := by
    refine h.view (fun p => p.1.service p.2) ?_ ?_
    · rintro ⟨s, served⟩ hinit
      obtain ⟨⟨address, devAddr, qidIn, qidOut, urbs, m, w, rfl⟩, rfl⟩ :=
        StepSystem.withHistory_init.mp hinit
      rfl
    · rintro l ⟨s, served⟩ ⟨s', served'⟩ hreach - hnext
      obtain ⟨hstep, rfl⟩ := StepSystem.withHistory_step hnext
      have howned : Owned s :=
        reachable_owned (G := fun _ _ => True)
          (StepSystem.Reachable.forget (fun _ _ _ => trivial) hreach)
      exact (step_spec howned hstep).seen howned
  exact ⟨hview, ServiceQueue.served_sublist hview⟩

/-- Two URBs ask for data, the first is cancelled, and the second completed once it is
restarted. -/
def servedRun : List EndpointAction :=
  [.enqueue 0 ⟨true, 4, 0, 0⟩ 0, .lockStep, .enqueue 1 ⟨true, 4, 0, 0⟩ 0, .lockStep,
    .dequeue 0 (-104), .startCancel 0 (-104), .workStep ⟨0, 0⟩ 0, .workStep ⟨0, 0⟩ 0,
    .workStep ⟨0, BCE_VHCI_ENDPOINT_PAUSED⟩ 0, .workStep ⟨0, 0⟩ 2, .workStep ⟨0, 0⟩ 0,
    .workStep ⟨0, 0⟩ 0, .lockStep, .lockStep, .workStep ⟨0, 0⟩ 0, .workStep ⟨0, 0⟩ 0,
    .workStep ⟨0, 0⟩ 0, .workStep ⟨0, BCE_VHCI_ENDPOINT_ACTIVE⟩ 0, .workStep ⟨0, 0⟩ 0, .lockStep,
    .lockStep, .lockStep, .lockStep, .enqueue 2 ⟨true, 4, 0, 0⟩ 0, .lockStep,
    .complete .fromDevice ⟨0, 4, 0⟩, .accept .fromDevice, .accept .fromDevice, .accept .fromDevice,
    .completion .fromDevice, .lockStep, .lockStep, .lockStep, .lockStep, .lockStep, .lockStep]

def servedState : Endpoint × List Nat :=
  servedSystem.after (fun _ _ => True) servedRun (.fresh 0x81, [])

/-- The third is behind the second, and the first in neither place. -/
theorem urbs_served_in_order_of_a_run :
    servedState.2 = [1] ∧ servedState.1.q.urbList.map servedState.1.enqueueOf = [2] ∧
      List.Sublist (servedState.2 ++ servedState.1.q.urbList.map servedState.1.enqueueOf)
        servedState.1.accepted := by
  have hreach : servedSystem.Reachable (fun _ _ => True) servedState :=
    .after (.of_init (StepSystem.withHistory_init.mpr ⟨Endpoint.fresh_init 0x81, rfl⟩)) (by decide)
  exact ⟨by decide, by decide, (urbs_served_in_order hreach).2⟩

end BceDriver
