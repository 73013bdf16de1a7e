import BceDriver.Vhci.EndpointSteps

/-!
# Every enqueue is in one place

`Owned` holds in every reachable state (`reachable_owned`), by cases on the
effects of a step. What follows for the enqueues the driver accepted:

- `urb_in_one_place`: linked, on its way to the USB core, or given back, one of
  them, once; and no `bce_vhci_urb` is read after it was freed;
- on its way includes the URB `bce_vhci_urb_remove` holds, whose `bce_vhci_urb`
  it frees only after it dropped `urb_lock`.
-/

namespace BceDriver

open FaultState

section Steps

variable {s s' : Endpoint}

/-! ## A new enqueue -/

/-- What enqueueing the URB at `u` leaves alone. -/
structure Others (q : BceVhciTransferQueue) (u : Nat) (q' : BceVhciTransferQueue) : Prop where
  givebackUrbList : q'.givebackUrbList = q.givebackUrbList
  urbs : ∀ u', u' ≠ u → (q'.urbs u').hcpriv = (q.urbs u').hcpriv ∧
    (q'.urbs u').enqueue = (q.urbs u').enqueue
  vurbs : ∀ urb, urb < q.nextVurb →
    (q'.vurbs urb).map BceVhciUrb.urb = (q.vurbs urb).map BceVhciUrb.urb
  nextVurb : q'.nextVurb = q.nextVurb + 1

theorem Others.trans_same {q q₁ q' : BceVhciTransferQueue} {u : Nat} (h : Others q u q₁)
    (h' : SameHeap q₁ q') : Others q u q' where
  givebackUrbList := h'.givebackUrbList.trans h.givebackUrbList
  urbs := by
    intro u' hne
    exact ⟨(h'.hcpriv u').trans (h.urbs u' hne).1, (h'.enqueue u').trans (h.urbs u' hne).2⟩
  vurbs := fun urb hurb => (h'.vurbs urb).trans (h.vurbs urb hurb)
  nextVurb := h'.nextVurb.trans h.nextVurb

theorem Others.link (q : BceVhciTransferQueue) (u : Nat) (request : UrbRequest) :
    Others q u ((q.fill u request).link u) where
  givebackUrbList := rfl
  urbs := by
    intro u' hne
    simp [BceVhciTransferQueue.link, BceVhciTransferQueue.fill, hne]
  vurbs := by
    intro urb hurb
    have hne : urb ≠ q.nextVurb := Nat.ne_of_lt hurb
    simp [BceVhciTransferQueue.link, BceVhciTransferQueue.fill, hne]
  nextVurb := rfl

/-- A URB the driver has keeps its `bce_vhci_urb` when another is enqueued. -/
theorem Owned.others (h : Owned s) {u u' : Nat} {q' : BceVhciTransferQueue} (hu : ¬s.Owns u)
    (hq : Others s.q u q') (hu' : u' ∈ s.held) :
    u' ≠ u ∧ (q'.urbs u').enqueue = s.enqueueOf u' ∧
      (q'.vurbs (s.enqueueOf u')).map BceVhciUrb.urb =
        (s.q.vurbs (s.enqueueOf u')).map BceVhciUrb.urb := by
  have hne : u' ≠ u := by
    rintro rfl
    exact hu (Endpoint.mem_held.mp hu')
  exact ⟨hne, (hq.urbs u' hne).2, hq.vurbs _ (h.old _ (h.accepted_of_held hu'))⟩

/-- A linked URB stays live when another is enqueued. -/
theorem Owned.others_has (h : Owned s) {u u' : Nat} {q' : BceVhciTransferQueue} (hu : ¬s.Owns u)
    (hq : Others s.q u q') (hu' : u' ∈ s.q.urbList) :
    ∃ v, q'.Has u' (q'.urbs u').enqueue v := by
  obtain ⟨hne, he, hv⟩ := h.others hu hq (Endpoint.mem_held.mpr (.inl hu'))
  obtain ⟨v, hhas⟩ := h.linked u' hu'
  rw [hhas.vurb, Option.map_some, hhas.urb_eq, Option.map_eq_some_iff] at hv
  obtain ⟨v', hv', hurb⟩ := hv
  rw [he]
  exact ⟨v', (hq.urbs u' hne).1.trans hhas.hcpriv, hv', hurb⟩

/-- A freed `bce_vhci_urb` stays so when another URB is enqueued. -/
theorem Owned.others_freed (h : Owned s) {u u' : Nat} {q' : BceVhciTransferQueue}
    (hu : ¬s.Owns u) (hq : Others s.q u q') (hu' : u' ∈ s.q.givebackUrbList ++ s.popped) :
    q'.vurbs (q'.urbs u').enqueue = none := by
  have hheld : u' ∈ s.held := by
    unfold Endpoint.held
    rw [List.append_assoc s.q.urbList]
    exact List.mem_append_left _ (List.mem_append_right _ hu')
  obtain ⟨-, he, hv⟩ := h.others hu hq hheld
  rw [h.freed u' hu', Option.map_none, Option.map_eq_none_iff] at hv
  rw [he]
  exact hv

/-- The work item keeps its URB when another is enqueued. -/
theorem Owned.others_worker (h : Owned s) {u : Nat} {q' : BceVhciTransferQueue} {b : Bool}
    (hu : ¬s.Owns u) (hq : Others s.q u q') (hworker : WorkerOwns s.q s.worker b) :
    WorkerOwns q' s.worker b :=
  hworker.congr fun _ hu' => (h.others hu hq (List.mem_append_right _ hu')).2

/-- An enqueue that is accepted leaves the new URB linked, with a fresh `bce_vhci_urb`. -/
theorem CreateEffect.linked {q q' : BceVhciTransferQueue} {u : Nat}
    (h : CreateEffect q u 0 q') : SameHeap (q.link u) q' := by
  have hfresh : (q.link u).vurbs q.nextVurb = some (freshVurb q u) := Function.update_self ..
  cases h with
  | refused hr => exact absurd rfl hr
  | active _ h => exact h.heap hfresh
  | failed _ hr => exact absurd rfl hr
  | paused => exact ⟨rfl, rfl, fun _ => rfl, fun _ => rfl, fun _ => rfl, rfl⟩

/-- An enqueue that is refused leaves the list as it was. -/
theorem CreateEffect.others {q q' : BceVhciTransferQueue} {u : Nat} {request : UrbRequest}
    {r : Int} (h : CreateEffect (q.fill u request) u r q') (hr : r ≠ 0) (hu : u ∉ q.urbList) :
    Others q u q' ∧ q'.urbList = q.urbList := by
  cases h with
  | refused =>
    refine ⟨⟨rfl, fun u' hne => ?_, fun urb hurb => ?_, rfl⟩, rfl⟩
    · simp [BceVhciTransferQueue.fill, hne]
    · have hne : urb ≠ q.nextVurb := Nat.ne_of_lt hurb
      simp [BceVhciTransferQueue.fill, hne]
  | active => exact absurd rfl hr
  | @failed r q₁ _ _ hinit =>
    have hfresh : ((q.fill u request).link u).vurbs q.nextVurb =
      some (freshVurb (q.fill u request) u) := Function.update_self ..
    have hheap := hinit.heap hfresh
    have h₁ := (Others.link q u request).trans_same hheap
    refine ⟨⟨h₁.givebackUrbList, fun u' hne => ?_, fun urb hurb => ?_, h₁.nextVurb⟩, ?_⟩
    · have hne' := h₁.urbs u' hne
      simpa [BceVhciTransferQueue.discard, hne] using hne'
    · have hne : urb ≠ q.nextVurb := Nat.ne_of_lt hurb
      have hv := h₁.vurbs urb hurb
      simpa [BceVhciTransferQueue.discard, BceVhciTransferQueue.fill, hne] using hv
    · have hlist : q₁.urbList = q.urbList ++ [u] := hheap.urbList
      show q₁.urbList.erase u = q.urbList
      rw [hlist, List.erase_append_right _ hu]
      simp
  | paused => exact absurd rfl hr

/-- An enqueue that is accepted. -/
theorem Owned.enqueued (h : Owned s) {u : Nat} {request : UrbRequest}
    {q' : BceVhciTransferQueue} (hl : s.lock = []) (hu : ¬s.Owns u)
    (heff : CreateEffect (s.q.fill u request) u 0 q') :
    Owned { s with
      q := q', lock := [.deliver], accepted := s.accepted ++ [(q'.urbs u).enqueue] } := by
  have hheap := heff.linked
  have hq := (Others.link s.q u request).trans_same hheap
  have hlist : q'.urbList = s.q.urbList ++ [u] := hheap.urbList
  have henq : (q'.urbs u).enqueue = s.q.nextVurb := by
    rw [hheap.enqueue u]
    simp [BceVhciTransferQueue.link, BceVhciTransferQueue.fill]
  have hplaces := h.places
  rw [henq]
  refine {
    places := ?_
    distinct := ?_
    old := ?_
    linked := ?_
    freed := fun u' hu' => h.others_freed hu hq (hq.givebackUrbList ▸ hu')
    contexts :=
      ⟨false, .plain (by simp [LockOp.Plain]), h.others_worker hu hq (h.worker_of_free hl)⟩
    resuming := ⟨List.nodup_nil, by simp [Endpoint.resuming]⟩ }
  · have hmap : ∀ l : List Nat, (∀ u' ∈ l, u' ∈ s.held) →
        l.map (fun u' => (q'.urbs u').enqueue) = l.map s.enqueueOf := fun l hmem =>
      List.map_congr_left fun u' hu' => (h.others hu hq (hmem u' hu')).2.1
    unfold Endpoint.held at hplaces hmap ⊢
    show (List.map (fun u' => (q'.urbs u').enqueue)
      (q'.urbList ++ q'.givebackUrbList ++ s.popped ++ Endpoint.workHeld s.worker) ++
        s.givenBack).Perm _
    rw [hlist, hq.givebackUrbList]
    simp only [List.map_append, List.map_cons, List.map_nil, henq] at hplaces ⊢
    rw [hmap s.q.urbList (by simp +contextual), hmap s.q.givebackUrbList (by simp +contextual),
      hmap s.popped (by simp +contextual), hmap (Endpoint.workHeld s.worker) (by simp +contextual)]
    -- the new enqueue is in one place, and the others are where they were
    refine List.perm_iff_count.mpr fun x => ?_
    have hcount := hplaces.count_eq x
    simp only [List.count_append] at hcount ⊢
    omega
  · refine List.nodup_append.mpr ⟨h.distinct, by simp, fun e he e' he' => ?_⟩
    have hlt := h.old e he
    simp only [List.mem_singleton] at he'
    omega
  · intro e he
    show e < q'.nextVurb
    rw [hq.nextVurb]
    rcases List.mem_append.mp he with he | he
    · exact Nat.lt_succ_of_lt (h.old e he)
    · simp only [List.mem_singleton] at he
      omega
  · intro u' hu'
    have hu'' : u' ∈ s.q.urbList ++ [u] := hlist ▸ hu'
    show ∃ v, q'.Has u' (q'.urbs u').enqueue v
    rcases List.mem_append.mp hu'' with hmem | hmem
    · exact h.others_has hu hq hmem
    · obtain rfl : u' = u := by simpa using hmem
      rw [henq]
      have hhas : ((s.q.fill u' request).link u').Has u' s.q.nextVurb
          (freshVurb (s.q.fill u' request) u') := by
        refine ⟨?_, Function.update_self .., rfl⟩
        simp [BceVhciTransferQueue.link, BceVhciTransferQueue.fill]
      exact hheap.has hhas

/-- An enqueue that is refused. -/
theorem Owned.refused (h : Owned s) {u : Nat} {q' : BceVhciTransferQueue} (hu : ¬s.Owns u)
    (hq : Others s.q u q') (hlist : q'.urbList = s.q.urbList) : Owned { s with q := q' } := by
  have hheld : ({ s with q := q' } : Endpoint).held = s.held := by
    unfold Endpoint.held
    rw [hlist, hq.givebackUrbList]
  obtain ⟨b, hlock, hworker⟩ := h.contexts
  refine {
    places := ?_
    distinct := h.distinct
    old := fun e he => ?_
    linked := fun u' hu' => h.others_has hu hq (hlist ▸ hu')
    freed := fun u' hu' => h.others_freed hu hq (hq.givebackUrbList ▸ hu')
    contexts := ⟨b, hlock, h.others_worker hu hq hworker⟩
    resuming := ⟨h.resuming.1, fun u' hu' => hlist ▸ h.resuming.2 u' hu'⟩ }
  · rw [hheld]
    show (s.held.map (fun u' => (q'.urbs u').enqueue) ++ s.givenBack).Perm s.accepted
    rw [List.map_congr_left fun u' hu' => (h.others hu hq hu').2.1]
    exact h.places
  · have hlt := h.old e he
    show e < q'.nextVurb
    rw [hq.nextVurb]
    exact Nat.lt_succ_of_lt hlt

/-! ## The steps that move a URB -/

/-- A round of the resume loop. -/
theorem Owned.resumed (h : Owned s) {u urb : Nat} {us : List Nat} {v : BceVhciUrb}
    {ops : List LockOp} {q' : BceVhciTransferQueue} (hops : s.lock = .resume (u :: us) :: ops)
    (hu : u ∈ s.q.urbList) (hhas : s.q.Has u urb v) (heff : ResumeEffect s.q urb v q') :
    Owned { s with q := q', lock := .resume us :: ops } := by
  obtain ⟨b, hlock, hworker⟩ := h.contexts
  have hres : s.resuming = u :: us := by simp [Endpoint.resuming, hops]
  have hnodup := h.resuming.1
  have hmem := h.resuming.2
  rw [hres] at hnodup hmem
  rw [hops] at hlock
  have hctx : ∃ b, LockOk (.resume us :: ops) b ∧ WorkerOwns s.q s.worker b := by
    cases hlock with
    | plain hplain => exact absurd (hplain (.resume (u :: us)) (by simp)) id
    | resume => exact ⟨true, .resume, hworker⟩
  obtain ⟨hout, hnodup'⟩ := List.nodup_cons.mp hnodup
  rcases heff.heap hhas.vurb with hsame | hended
  · exact h.of_same hsame rfl rfl rfl rfl hctx
      ⟨hnodup', fun u' hu' => hmem u' (List.mem_cons_of_mem _ hu')⟩
  · rw [hhas.urb_eq] at hended
    refine h.of_ended hu hhas hended rfl rfl rfl rfl hctx
      ⟨hnodup', fun u' hu' => ⟨hmem u' (List.mem_cons_of_mem _ hu'), ?_⟩⟩
    rintro rfl
    exact hout hu'

/-- The worker takes a URB off the list. -/
theorem Owned.removed (h : Owned s) {u : Nat} {status : Int} {ops : List WorkOp}
    (hops : s.worker = .remove u status :: ops) (hl : s.lock = []) (hu : u ∈ s.q.urbList) :
    Owned { s with
      q := { s.q.setUrb u { s.q.urbs u with unlinked := status } with
        urbList := s.q.urbList.erase u }
      lock := [.deliver, .back]
      worker := .locked :: .kfree (s.enqueueOf u) :: .giveback u :: ops } := by
  have hworker := h.worker_of_free hl
  rw [hops] at hworker
  cases hworker with
  | plain hplain =>
    have hplain' : ∀ op ∈ ops, op.Plain := fun op hop => hplain op (List.mem_cons_of_mem _ hop)
    obtain ⟨v, hhas⟩ := h.linked u hu
    have hsame : SameHeap s.q (s.q.setUrb u { s.q.urbs u with unlinked := status }) :=
      .setUrb u rfl rfl
    refine h.of_moved [] ?_ (funext hsame.enqueue) (by simp) rfl rfl (fun u' hu' => ?_) h.freed
      ⟨true, .deliver, .locked ?_⟩ ⟨List.nodup_nil, by simp [Endpoint.resuming]⟩
    · unfold Endpoint.held
      rw [hops]
      simp only [Endpoint.workHeld_locked, Endpoint.workHeld_kfree, Endpoint.workHeld_giveback,
        Endpoint.workHeld_plain hplain, Endpoint.workHeld_plain hplain', List.append_nil,
        BceVhciTransferQueue.setUrb_givebackUrbList]
      refine List.perm_iff_count.mpr fun x => ?_
      have hcount := (List.perm_cons_erase hu).count_eq x
      simp only [List.count_append, List.count_cons, List.count_nil] at hcount ⊢
      omega
    · exact ⟨List.mem_of_mem_erase hu', hsame.hcpriv u', rfl⟩
    · have hvurb : s.q.vurbs ((s.q.setUrb u { s.q.urbs u with unlinked := status }).urbs u).enqueue
          = some v := by
        rw [hsame.enqueue u]
        exact hhas.vurb
      have he : s.enqueueOf u =
          ((s.q.setUrb u { s.q.urbs u with unlinked := status }).urbs u).enqueue :=
        (hsame.enqueue u).symm
      rw [he]
      exact .freeing hvurb hplain'

/-- The worker frees the `bce_vhci_urb` of the URB it took off the list. -/
theorem Owned.freedByWorker (h : Owned s) {urb : Nat} {ops : List WorkOp}
    (hops : s.worker = .kfree urb :: ops) :
    Owned { s with
      q := { s.q with vurbs := Function.update s.q.vurbs urb none }, worker := ops } := by
  obtain ⟨b, hlock, hworker⟩ := h.contexts
  rw [hops] at hworker
  cases hworker with
  | plain hplain => exact absurd (hplain (.kfree urb) (by simp)) id
  | @freeing u v ops hv hplain =>
    have hheld : u ∈ s.held := by
      simp [Endpoint.held, hops]
    have hother : ∀ u' ∈ s.held, u' ≠ u → s.enqueueOf u' ≠ s.enqueueOf u :=
      fun u' hu' hne heq => hne (h.enqueue_inj hu' hheld heq)
    have hnodup := h.held_nodup
    unfold Endpoint.held at hnodup
    rw [hops, Endpoint.workHeld_kfree, Endpoint.workHeld_giveback] at hnodup
    have hoff : ∀ u' ∈ s.q.urbList ++ s.q.givebackUrbList ++ s.popped, u' ≠ u := by
      rintro u' hu' rfl
      exact List.disjoint_of_nodup_append hnodup hu' List.mem_cons_self
    refine h.of_moved [] ?_ rfl (by simp) rfl rfl (fun u' hu' => ?_) (fun u' hu' => ?_)
      ⟨false, hlock, .freed (Function.update_self ..) hplain⟩ h.resuming
    · simp [Endpoint.held, hops]
    · have hne : s.enqueueOf u' ≠ s.enqueueOf u :=
        hother u' (Endpoint.mem_held.mpr (.inl hu'))
          (hoff u' (by simp [show u' ∈ s.q.urbList from hu']))
      refine ⟨hu', rfl, ?_⟩
      show Option.map _ (Function.update s.q.vurbs (s.enqueueOf u) none (s.enqueueOf u')) = _
      rw [Function.update_of_ne hne]
    · have hmem : u' ∈ s.q.urbList ++ s.q.givebackUrbList ++ s.popped := by
        rw [List.append_assoc]
        exact List.mem_append_right _ hu'
      have hne : s.enqueueOf u' ≠ s.enqueueOf u :=
        hother u' (List.mem_append_left _ hmem) (hoff u' hmem)
      show Function.update s.q.vurbs (s.enqueueOf u) none (s.enqueueOf u') = none
      rw [Function.update_of_ne hne]
      exact h.freed u' hu'

/-- Giving a URB back that is not linked. -/
theorem Owned.gave (h : Owned s) {u : Nat} (popped : List Nat) (givers : Nat) {ops : List WorkOp}
    (hheld : (popped ++ Endpoint.workHeld ops ++ [u]).Perm (s.popped ++ Endpoint.workHeld s.worker))
    (hpopped : popped ⊆ s.popped)
    (hctx : ∃ b, LockOk s.lock b ∧ WorkerOwns s.q ops b) :
    Owned { s.giveBack u with popped := popped, givers := givers, worker := ops } := by
  have henq : ∀ u', ((s.giveBack u).q.urbs u').enqueue = s.enqueueOf u' := by
    intro u'
    by_cases hu' : u' = u
    · subst hu'
      simp [Endpoint.giveBack, Endpoint.enqueueOf]
    · simp [Endpoint.giveBack, Endpoint.enqueueOf, hu']
  have hmem : u ∈ s.popped ++ Endpoint.workHeld s.worker := hheld.subset (by simp)
  have hnodup := h.held_nodup
  unfold Endpoint.held at hnodup
  rw [List.append_assoc, List.append_assoc] at hnodup
  have hoff : u ∉ s.q.urbList := fun hu =>
    List.disjoint_of_nodup_append hnodup hu (List.mem_append_right _ hmem)
  obtain ⟨b, hlock, hworker⟩ := hctx
  refine h.of_moved [u] ?_ (funext henq) rfl rfl rfl (fun u' hu' => ?_) (fun u' hu' => ?_)
    ⟨b, hlock, hworker.congr fun u' _ => ⟨henq u', rfl⟩⟩ h.resuming
  · unfold Endpoint.held
    show (s.q.urbList ++ s.q.givebackUrbList ++ popped ++ Endpoint.workHeld ops ++ [u]).Perm _
    rw [List.append_assoc (_ ++ _) popped, List.append_assoc (_ ++ _) (_ ++ _),
      List.append_assoc (_ ++ _) s.popped]
    exact List.Perm.append_left _ hheld
  · have hu'' : u' ∈ s.q.urbList := hu'
    have hne : u' ≠ u := by
      rintro rfl
      exact hoff hu''
    refine ⟨hu'', ?_, rfl⟩
    simp [Endpoint.giveBack, hne]
  · refine h.freed u' ?_
    rcases List.mem_append.mp hu' with hu' | hu'
    · exact List.mem_append_left _ hu'
    · exact List.mem_append_right _ (hpopped hu')

/-- **Every step keeps the ownership.** -/
theorem Owned.step {a : EndpointAction} (h : Owned s) (heff : StepEffect s a s') : Owned s' := by
  cases heff with
  | died => exact h.of_same (.refl _) rfl rfl rfl rfl h.contexts h.resuming
  | quiet _ hq =>
    exact h.of_same hq.flags.heap hq.popped hq.accepted hq.givenBack hq.workHeld hq.contexts
      (hq.resuming ▸ h.resuming)
  | enqueued hl hu _ hcreate => exact h.enqueued hl hu hcreate
  | refused _ hu _ hr hcreate =>
    obtain ⟨hq, hlist⟩ := hcreate.others hr fun hmem => hu (.inl hmem)
    exact h.refused hu hq hlist
  | delivered hops hround =>
    exact h.of_round hops (by simp) (by simp) _ hround.heap
  | completed hops hround =>
    exact h.of_round hops (by simp) (by simp) _ hround.heap
  | event hops hround =>
    exact h.of_round hops (by simp) (by simp) false hround.heap
  | resumed hops hu hhas hres => exact h.resumed hops hu hhas hres
  | activated hops hl =>
    have hworker := h.worker_of_free hl
    rw [hops] at hworker
    cases hworker with
    | plain hplain =>
      have hplain' := fun op hop => hplain op (List.mem_cons_of_mem _ hop)
      refine h.of_same ⟨rfl, rfl, fun _ => rfl, fun _ => rfl, fun _ => rfl, rfl⟩ rfl rfl rfl ?_
        ⟨true, .resume, .locked (.plain hplain')⟩ ⟨h.urbList_nodup, fun u hu => hu⟩
      rw [hops, Endpoint.workHeld_locked, Endpoint.workHeld_plain hplain,
        Endpoint.workHeld_plain hplain']
  | removed hops hl hu => exact h.removed hops hl hu
  | freed hops => exact h.freedByWorker hops
  -- the worker gives the URB back that it removed and whose structure it freed
  | @gaveRemoved _ _ u ops hops =>
    obtain ⟨b, hlock, hworker⟩ := h.contexts
    rw [hops] at hworker
    have hctx : ∃ b, LockOk s.lock b ∧ WorkerOwns s.q ops b := by
      cases hworker with
      | plain hplain => exact absurd (hplain (.giveback u) (by simp)) id
      | freed _ hplain => exact ⟨false, hlock, .plain hplain⟩
    refine h.gave s.popped s.givers ?_ (fun _ hu => hu) hctx
    rw [hops, Endpoint.workHeld_giveback, List.append_assoc]
    exact List.Perm.append_left _ (List.perm_append_singleton u _)
  | @popped u us hlist hl =>
    have hfreed := h.freed
    rw [hlist] at hfreed
    obtain ⟨b, hlock, hworker⟩ := h.contexts
    refine h.of_moved [] ?_ rfl (by simp) rfl rfl (fun u' hu' => ⟨hu', rfl, rfl⟩)
      (fun u' hu' => hfreed u' ?_) ⟨b, hlock, hworker.congr fun _ _ => ⟨rfl, rfl⟩⟩ h.resuming
    · unfold Endpoint.held
      rw [hlist]
      refine List.perm_iff_count.mpr fun x => ?_
      simp only [List.count_append, List.count_cons, List.count_nil]
      omega
    · simp only [List.mem_append, List.mem_cons, List.not_mem_nil] at hu' ⊢
      grind
  | @gave u hu =>
    refine h.gave (s.popped.erase u) (s.givers + 1) ?_ List.erase_subset h.contexts
    rw [List.append_assoc]
    refine (List.Perm.append_left _ (List.perm_append_singleton u _)).trans ?_
    exact List.perm_middle.trans ((List.perm_cons_erase hu).symm.append_right _)
  | @device a d t t' ops ht hdev hheld hctx =>
    exact h.of_same (.setSq s.q d t') rfl rfl rfl hheld hctx h.resuming

end Steps

/-! ## All runs -/

/-- **The ownership of URBs is an invariant**, whatever the guard on the steps. -/
theorem reachable_owned {G : EndpointAction → Endpoint → Prop} {s : Endpoint}
    (h : endpointSystem.Reachable G s) : Owned s := by
  refine h.invariant ?_ ?_
  · rintro s ⟨address, devAddr, qidIn, qidOut, urbs, m, w, rfl⟩
    exact {
      places := .nil
      distinct := List.nodup_nil
      old := by simp [Endpoint.start]
      linked := by simp [Endpoint.start, bceVhciCreateTransferQueue]
      freed := by simp [Endpoint.start, bceVhciCreateTransferQueue]
      contexts := ⟨false, .plain (by simp [Endpoint.start]), .plain (by simp [Endpoint.start])⟩
      resuming := ⟨List.nodup_nil, by simp [Endpoint.resuming, Endpoint.start]⟩ }
  · intro a s s' _ hs _ hstep
    exact hs.step (step_spec hs hstep)

/-- No thread ever reads a `bce_vhci_urb` that was freed: a missing submission
queue is the only thing that kills one. -/
theorem reachable_fault {G : EndpointAction → Endpoint → Prop} {s : Endpoint}
    (h : endpointSystem.Reachable G s) : s.fault = none ∨ s.fault = some .nullDeref := by
  refine StepSystem.Reachable.invariant (I := fun s => s.fault = none ∨ s.fault = some .nullDeref)
    ?_ ?_ h
  · rintro s ⟨address, devAddr, qidIn, qidOut, urbs, m, w, rfl⟩
    exact .inl rfl
  · intro a s s' hreach hs _ hstep
    have hf : s.fault = none := by
      by_contra hne
      simp [endpointSystem, Endpoint.step, hne] at hstep
    cases step_spec (reachable_owned hreach) hstep with
    | died => exact .inr rfl
    | quiet hf' => exact .inl hf'
    | _ => exact .inl hf

/-! ## One place -/

namespace Endpoint

/-- The enqueue is linked, once, and its `bce_vhci_urb` is live and its own. -/
def Linked (s : Endpoint) (e : Nat) : Prop :=
  ∃ u, s.q.urbList.count u = 1 ∧ ∃ v, s.q.Has u e v

/-- The enqueue is off the list and on its way to the USB core: on
`giveback_urb_list` or with a thread that runs `bce_vhci_transfer_queue_giveback`,
its `bce_vhci_urb` freed; or with the work item in `bce_vhci_urb_remove`, which
frees it if that is not done. -/
def OnTheWay (s : Endpoint) (e : Nat) : Prop :=
  ∃ u, (s.q.givebackUrbList ++ s.popped ++ workHeld s.worker).count u = 1 ∧
    u ∉ s.q.urbList ∧ s.enqueueOf u = e ∧
    (s.q.vurbs e = none ∨ (u ∈ workHeld s.worker ∧ .kfree e ∈ s.worker))

end Endpoint

section Places

variable {s : Endpoint} {e u : Nat}

theorem WorkerOwns.freed_or_freeing {q : BceVhciTransferQueue} {ops : List WorkOp} {b : Bool}
    (h : WorkerOwns q ops b) (hu : u ∈ Endpoint.workHeld ops) :
    q.vurbs (q.urbs u).enqueue = none ∨ .kfree (q.urbs u).enqueue ∈ ops := by
  induction h with
  | plain h => simp [Endpoint.workHeld_plain h] at hu
  | freeing _ h =>
    obtain rfl := by simpa [Endpoint.workHeld_plain h] using hu
    exact .inr List.mem_cons_self
  | freed hv h =>
    obtain rfl := by simpa [Endpoint.workHeld_plain h] using hu
    exact .inl hv
  | locked _ ih => exact (ih hu).imp id (List.mem_cons_of_mem _)

theorem Owned.linked_of_mem (h : Owned s) (hu : u ∈ s.q.urbList) : s.Linked (s.enqueueOf u) := by
  obtain ⟨v, hhas⟩ := h.linked u hu
  exact ⟨u, List.count_eq_one_of_mem h.urbList_nodup hu, v, hhas⟩

theorem Owned.onTheWay_of_mem (h : Owned s)
    (hu : u ∈ s.q.givebackUrbList ++ s.popped ++ Endpoint.workHeld s.worker) :
    s.OnTheWay (s.enqueueOf u) := by
  have hnodup := h.held_nodup
  unfold Endpoint.held at hnodup
  rw [List.append_assoc, List.append_assoc, ← List.append_assoc s.q.givebackUrbList] at hnodup
  refine ⟨u, List.count_eq_one_of_mem (List.Nodup.of_append_right hnodup) hu, fun hmem => ?_,
    rfl, ?_⟩
  · exact List.disjoint_of_nodup_append hnodup hmem hu
  · rcases List.mem_append.mp hu with hmem | hmem
    · exact .inl (h.freed u hmem)
    · obtain ⟨b, -, hworker⟩ := h.contexts
      exact (hworker.freed_or_freeing hmem).imp id fun hk => ⟨hmem, hk⟩

/-- An enqueue that is linked is the one its URB is in. -/
theorem Owned.linked_enqueue (h : Owned s) (hl : s.Linked e) :
    ∃ u ∈ s.q.urbList, s.enqueueOf u = e := by
  obtain ⟨u, hcount, v, hhas⟩ := hl
  have hu : u ∈ s.q.urbList := List.count_pos_iff.mp (by omega)
  exact ⟨u, hu, (h.urb_eq hu hhas).symm⟩

end Places

/-- **Every enqueue is in exactly one place**, in every state of every run: it
is given back at most once, and no freed `bce_vhci_urb` is read. -/
theorem urb_in_one_place {s : Endpoint} (h : endpointSystem.Reachable (fun _ _ => True) s) :
    s.fault ≠ some .useAfterFree ∧ s.givenBack.Nodup ∧ ∀ e ∈ s.accepted,
      (s.Linked e ∨ s.OnTheWay e ∨ e ∈ s.givenBack) ∧
        ¬(s.Linked e ∧ s.OnTheWay e) ∧ ¬(s.Linked e ∧ e ∈ s.givenBack) ∧
          ¬(s.OnTheWay e ∧ e ∈ s.givenBack) := by
  have howned := reachable_owned h
  have hnodup := howned.places.nodup_iff.mpr howned.distinct
  have hway : ∀ e, s.OnTheWay e → ∃ u ∈ s.held, u ∉ s.q.urbList ∧ s.enqueueOf u = e := by
    rintro e ⟨u, hcount, hoff, henq, -⟩
    have hu : u ∈ s.q.givebackUrbList ++ s.popped ++ Endpoint.workHeld s.worker :=
      List.count_pos_iff.mp (by omega)
    refine ⟨u, ?_, hoff, henq⟩
    unfold Endpoint.held
    rw [List.append_assoc, List.append_assoc, ← List.append_assoc s.q.givebackUrbList]
    exact List.mem_append_right _ hu
  refine ⟨?_, List.Nodup.of_append_right hnodup, fun e he => ⟨?_, ?_, ?_, ?_⟩⟩
  · rcases reachable_fault h with hf | hf
    · simp [hf]
    · simp [hf]
  · rcases List.mem_append.mp (howned.places.mem_iff.mpr he) with hmem | hmem
    · obtain ⟨u, hu, rfl⟩ := List.mem_map.mp hmem
      unfold Endpoint.held at hu
      rw [List.append_assoc, List.append_assoc, ← List.append_assoc s.q.givebackUrbList] at hu
      rcases List.mem_append.mp hu with hu | hu
      · exact .inl (howned.linked_of_mem hu)
      · exact .inr (.inl (howned.onTheWay_of_mem hu))
    · exact .inr (.inr hmem)
  · rintro ⟨hlinked, honway⟩
    obtain ⟨u, hu, henq⟩ := howned.linked_enqueue hlinked
    obtain ⟨u', hu', hoff, henq'⟩ := hway e honway
    have heq := howned.enqueue_inj (Endpoint.mem_held.mpr (.inl hu)) hu' (henq.trans henq'.symm)
    exact hoff (heq ▸ hu)
  · rintro ⟨hlinked, hgiven⟩
    obtain ⟨u, hu, henq⟩ := howned.linked_enqueue hlinked
    exact howned.not_givenBack (Endpoint.mem_held.mpr (.inl hu)) (henq ▸ hgiven)
  · rintro ⟨honway, hgiven⟩
    obtain ⟨u, hu, -, henq⟩ := hway e honway
    exact howned.not_givenBack hu (henq ▸ hgiven)

/-- A URB with one byte of data, cancelled before the device asked for it, up to
where `bce_vhci_urb_remove` dropped `urb_lock`. -/
def cancelRun : List EndpointAction :=
  [.enqueue 0 ⟨false, 1, 0, 0⟩ 0, .lockStep, .dequeue 0 (-104), .startCancel 0 (-104),
    .workStep ⟨0, 0⟩ 0, .workStep ⟨0, 0⟩ 0, .workStep ⟨BCE_VHCI_INTERNAL_ERROR, 0⟩ 0,
    .workStep ⟨0, 0⟩ 0, .lockStep, .lockStep]

/-- The state the cancelled URB is in there. -/
def cancelState : Endpoint := endpointSystem.after (fun _ _ => True) cancelRun (.fresh 0x01)

theorem cancelState_reachable : endpointSystem.Reachable (fun _ _ => True) cancelState :=
  .after (.of_init (Endpoint.fresh_init 0x01)) (by decide)

/-- The places of the cancelled enqueue: it is with the work item alone. -/
theorem urb_in_one_place_of_a_cancel :
    0 ∈ cancelState.accepted ∧ (cancelState.Linked 0 ∨ cancelState.OnTheWay 0 ∨
      0 ∈ cancelState.givenBack) := by
  have haccepted : 0 ∈ cancelState.accepted := by decide
  exact ⟨haccepted, ((urb_in_one_place cancelState_reachable).2.2 0 haccepted).1⟩

/-- The work item in `bce_vhci_urb_remove` has a URB that is off the list, not
given back, and whose `bce_vhci_urb` is not freed while the lock is free. -/
theorem removed_urb_not_freed :
    ¬∀ s, endpointSystem.Reachable (fun _ _ => True) s → s.lock = [] → ∀ e ∈ s.accepted,
      s.Linked e ∨ (s.OnTheWay e ∧ s.q.vurbs e = none) ∨ e ∈ s.givenBack := by
  intro h
  rcases h cancelState cancelState_reachable (by decide) 0 (by decide) with hl | ⟨-, hv⟩ | hg
  · obtain ⟨u, hcount, -⟩ := hl
    have hnil : cancelState.q.urbList = [] := by decide
    rw [hnil, List.count_nil] at hcount
    exact absurd hcount (by decide)
  · revert hv
    decide
  · revert hg
    decide

end BceDriver
