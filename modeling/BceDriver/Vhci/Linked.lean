import BceDriver.Vhci.Places

/-!
# What holds of every linked URB

`EveryLinked P` says `P` of the `bce_vhci_urb` of every linked URB, where `P` may
look at the elements on the submission queues. A handler works on one
`bce_vhci_urb` (`Touches`), so it keeps `EveryLinked P` if it leaves `P` true of
that one and does not disturb the others; `EveryLinked.step` reduces a step of a
run to its handlers.
-/

namespace BceDriver

/-- `P` holds of the `bce_vhci_urb` of every linked URB, and of its address. -/
def EveryLinked (P : (DmaDataDirection → Option TransferSq) → Nat → BceVhciUrb → Prop)
    (q : BceVhciTransferQueue) : Prop :=
  ∀ u ∈ q.urbList, ∀ urb v, q.Has u urb v → P q.sqs urb v

/-- The URBs linked before and their `bce_vhci_urb`s are all there is, the one at
`urb` apart, which is now `x`. -/
structure Touches (q : BceVhciTransferQueue) (urb : Nat) (x : Option BceVhciUrb)
    (q' : BceVhciTransferQueue) : Prop where
  urbList : ∀ u ∈ q'.urbList, u ∈ q.urbList
  hcpriv : ∀ u ∈ q'.urbList, (q'.urbs u).hcpriv = (q.urbs u).hcpriv
  vurbs : q'.vurbs = Function.update q.vurbs urb x

section Touching

variable {P : (DmaDataDirection → Option TransferSq) → Nat → BceVhciUrb → Prop}
  {q q' : BceVhciTransferQueue} {urb u : Nat} {v : BceVhciUrb} {x : Option BceVhciUrb}

/-- The URBs linked after a step were linked before it, as they are now. -/
theorem EveryLinked.frame (h : EveryLinked P q) (hlist : ∀ u ∈ q'.urbList, u ∈ q.urbList)
    (hcpriv : ∀ u ∈ q'.urbList, ∀ urb, (q'.urbs u).hcpriv = some urb →
      (q.urbs u).hcpriv = some urb)
    (hvurbs : ∀ urb v, q'.vurbs urb = some v → q.vurbs urb = some v) (hsqs : q'.sqs = q.sqs) :
    EveryLinked P q' := by
  intro u hu urb v hhas
  rw [hsqs]
  exact h u (hlist u hu) urb v
    ⟨hcpriv u hu urb hhas.hcpriv, hvurbs urb v hhas.vurb, hhas.urb_eq⟩

/-- Only the list, the `bce_vhci_urb`s and the submission queues matter. -/
theorem EveryLinked.of_eq (h : EveryLinked P q) (hlist : q'.urbList = q.urbList)
    (hurbs : q'.urbs = q.urbs) (hvurbs : q'.vurbs = q.vurbs) (hsqs : q'.sqs = q.sqs) :
    EveryLinked P q' :=
  h.frame (fun _ hu => hlist ▸ hu) (fun _ _ _ hp => hurbs ▸ hp) (fun _ _ hv => hvurbs ▸ hv) hsqs

/-- Only the submission queues changed. -/
theorem EveryLinked.of_sqs (h : EveryLinked P q) (hlist : q'.urbList = q.urbList)
    (hurbs : q'.urbs = q.urbs) (hvurbs : q'.vurbs = q.vurbs)
    (hP : ∀ urb v, P q.sqs urb v → P q'.sqs urb v) : EveryLinked P q' := by
  intro u hu urb v hhas
  exact hP urb v (h u (hlist ▸ hu) urb v ⟨hurbs ▸ hhas.hcpriv, hvurbs ▸ hhas.vurb, hhas.urb_eq⟩)

theorem EveryLinked.touches (h : EveryLinked P q) (hq : Touches q urb x q')
    (hother : ∀ urb' v, urb' ≠ urb → P q.sqs urb' v → P q'.sqs urb' v)
    (hx : ∀ v ∈ x, P q'.sqs urb v) : EveryLinked P q' := by
  intro u hu urb' v hhas
  have hv := hhas.vurb
  rw [hq.vurbs] at hv
  by_cases hurb : urb' = urb
  · subst hurb
    rw [Function.update_self] at hv
    exact hx v hv
  · rw [Function.update_of_ne hurb] at hv
    exact hother urb' v hurb (h u (hq.urbList u hu) urb' v
      ⟨(hq.hcpriv u hu).symm.trans hhas.hcpriv, hv, hhas.urb_eq⟩)

theorem Touches.of_same (hheap : SameHeap q q')
    (hv : q'.vurbs = Function.update q.vurbs urb x) : Touches q urb x q' :=
  ⟨fun _ hu => hheap.urbList ▸ hu, fun u _ => hheap.hcpriv u, hv⟩

/-- What a handler may do to the list is what `SameHeap` and `Ended` say. -/
theorem Touches.of_heap (hnodup : q.urbList.Nodup)
    (hheap : SameHeap q q' ∨ Ended q urb u q') (hv : q'.vurbs = Function.update q.vurbs urb x) :
    Touches q urb x q' := by
  rcases hheap with hheap | hheap
  · exact .of_same hheap hv
  · have hlist := hheap.urbList
    refine ⟨fun u' hu' => List.mem_of_mem_erase (hlist ▸ hu'), fun u' hu' => ?_, hv⟩
    refine hheap.hcpriv u' ?_
    rintro rfl
    exact hnodup.not_mem_erase (hlist ▸ hu')

theorem Head.mem (h : q.Head u urb v) : u ∈ q.urbList := by
  obtain ⟨us, hlist⟩ := h.first
  exact hlist ▸ List.mem_cons_self

theorem settle_vurbs (q : BceVhciTransferQueue) (urb u receivedStatus : Nat) :
    (q.settle urb u receivedStatus).vurbs = Function.update q.vurbs urb none := by
  unfold BceVhciTransferQueue.settle
  split
  · rfl
  · rfl

theorem StartedIn.vurbs {timeout : Nat} (h : StartedIn timeout q urb v q') :
    q'.vurbs = Function.update q.vurbs urb
      (some { v with sendOffset := v.receiveOffset, state := .waitingForCompletion }) := by
  obtain ⟨t, -, -, hq'⟩ := h.slot
  rw [hq']
  rfl

end Touching

/-! ## Handlers -/

section Handled

variable {P : BceVhciUrb → Prop} {q q₁ q' : BceVhciTransferQueue} {urb u timeout : Nat}
  {v : BceVhciUrb}

/-- What a handler left at `urb`, if anything, is as `P` says; the others are as they
were. -/
def LeavesUrb (P : BceVhciUrb → Prop) (urb : Nat) (q q' : BceVhciTransferQueue) : Prop :=
  ∃ x, q'.vurbs = Function.update q.vurbs urb x ∧ ∀ v ∈ x, P v

namespace LeavesUrb

theorem stored (h : q'.vurbs = Function.update q.vurbs urb (some v)) (hP : P v) :
    LeavesUrb P urb q q' :=
  ⟨some v, h, by simpa using hP⟩

theorem kept (hv : q.vurbs urb = some v) (h : q'.vurbs = q.vurbs) (hP : P v) :
    LeavesUrb P urb q q' :=
  .stored (by rw [h, ← hv, Function.update_eq_self]) hP

theorem freed (h : q'.vurbs = Function.update q.vurbs urb none) : LeavesUrb P urb q q' :=
  ⟨none, h, by simp⟩

theorem startedIn (h : StartedIn timeout q urb v q')
    (hP : P { v with sendOffset := v.receiveOffset, state := .waitingForCompletion }) :
    LeavesUrb P urb q q' :=
  .stored h.vurbs hP

/-- A URB that cannot be started is completed. -/
theorem startFailed (h : StartFailed timeout q q₁) (u : Nat) (status : Int) :
    LeavesUrb P urb q (q₁.complete urb u status) := by
  refine .freed ?_
  rw [← h.waited.vurbs]
  rfl

end LeavesUrb

/-- A handler leaves its URB as `P` says, and the others alone. -/
theorem EveryLinked.handler (h : EveryLinked (fun _ _ v => P v) q) (hnodup : q.urbList.Nodup)
    (hheap : SameHeap q q' ∨ Ended q urb u q') (hx : LeavesUrb P urb q q') :
    EveryLinked (fun _ _ v => P v) q' := by
  obtain ⟨x, hv, hP⟩ := hx
  exact h.touches (.of_heap hnodup hheap hv) (fun _ _ _ hv => hv) hP

/-- So does one that starts a new URB. -/
theorem EveryLinked.init (h : EveryLinked (fun _ _ v => P v) q) (hheap : SameHeap q q')
    (hx : LeavesUrb P urb q q') : EveryLinked (fun _ _ v => P v) q' := by
  obtain ⟨x, hv, hP⟩ := hx
  exact h.touches (.of_same hheap hv) (fun _ _ _ hv => hv) hP

end Handled

section Steps

variable {P : (DmaDataDirection → Option TransferSq) → Nat → BceVhciUrb → Prop}
  {q q' : BceVhciTransferQueue} {u : Nat}

/-! ## Enqueues -/

/-- Linking a new URB keeps what holds of every linked one and of a new one. -/
theorem EveryLinked.link (h : EveryLinked P q) (hfresh : P q.sqs q.nextVurb (freshVurb q u)) :
    EveryLinked P (q.link u) := by
  intro u' hu' urb v hhas
  have hp := hhas.hcpriv
  have hv := hhas.vurb
  by_cases hurb : urb = q.nextVurb
  · subst hurb
    obtain rfl : freshVurb q u = v := by simpa [BceVhciTransferQueue.link] using hv
    exact hfresh
  · have hne : u' ≠ u := by
      rintro rfl
      simp [BceVhciTransferQueue.link] at hp
      exact hurb hp.symm
    have hmem : u' ∈ q.urbList := by
      rcases List.mem_append.mp hu' with hu' | hu'
      · exact hu'
      · exact absurd (by simpa using hu') hne
    refine h u' hmem urb v ⟨?_, ?_, hhas.urb_eq⟩
    · simpa [BceVhciTransferQueue.link, hne] using hp
    · simpa [BceVhciTransferQueue.link, hurb] using hv

/-- A URB that is refused changes nothing for the linked ones. -/
theorem EveryLinked.refuse (h : EveryLinked P q) (u : Nat) :
    EveryLinked P { q with
      urbs := Function.update q.urbs u { q.urbs u with hcpriv := none }
      vurbs := Function.update q.vurbs q.nextVurb none
      nextVurb := q.nextVurb + 1 } := by
  refine h.frame (fun _ hu => hu) (fun u' _ urb hp => ?_) (fun urb v hv => ?_) rfl
  · by_cases hu : u' = u
    · subst hu
      simp at hp
    · simpa [hu] using hp
  · by_cases hurb : urb = q.nextVurb
    · subst hurb
      simp at hv
    · simpa [hurb] using hv

/-- A URB that is taken back changes nothing for the others. -/
theorem EveryLinked.discard (h : EveryLinked P q) (urb u : Nat) :
    EveryLinked P (q.discard urb u) := by
  refine h.frame (fun _ hu => List.mem_of_mem_erase hu) (fun u' _ urb hp => ?_)
    (fun urb' v hv => ?_) rfl
  · by_cases hu : u' = u
    · subst hu
      simp [BceVhciTransferQueue.discard] at hp
    · simpa [BceVhciTransferQueue.discard, hu] using hp
  · by_cases hurb : urb' = urb
    · subst hurb
      simp [BceVhciTransferQueue.discard] at hv
    · simpa [BceVhciTransferQueue.discard, hurb] using hv

/-- An enqueue keeps what holds of every linked URB, if a new one has it and
starting it keeps it. -/
theorem EveryLinked.create {r : Int} (h : EveryLinked P q)
    (hfresh : P q.sqs q.nextVurb (freshVurb q u))
    (hinit : EveryLinked P (q.link u) → ∀ q' r,
      InitEffect (q.link u) q.nextVurb (freshVurb q u) r q' → EveryLinked P q')
    (heff : CreateEffect q u r q') : EveryLinked P q' := by
  have hlink := h.link hfresh
  cases heff with
  | refused => exact h.refuse u
  | active _ hi => exact hinit hlink _ _ hi
  | failed _ _ hi => exact (hinit hlink _ _ hi).discard _ u
  | paused => exact hlink.of_eq rfl rfl rfl rfl

/-! ## Steps -/

/-- Filling a URB in leaves the `bce_vhci_urb`s. -/
theorem EveryLinked.fill (h : EveryLinked P q) (u : Nat) (request : UrbRequest) :
    EveryLinked P (q.fill u request) := by
  refine h.frame (fun u' hu' => hu') (fun u' _ urb hp => ?_) (fun _ _ hv => hv) rfl
  by_cases hu : u' = u
  · subst hu
    simpa [BceVhciTransferQueue.fill] using hp
  · simpa [BceVhciTransferQueue.fill, hu] using hp

/-- Giving a URB back leaves the others. -/
theorem EveryLinked.giveBack {s : Endpoint} (h : EveryLinked P s.q) (u : Nat) :
    EveryLinked P (s.giveBack u).q := by
  refine h.frame (fun u' hu' => hu') (fun u' _ urb hp => ?_) (fun _ _ hv => hv) rfl
  by_cases hu : u' = u
  · subst hu
    simp [Endpoint.giveBack] at hp
  · simpa [Endpoint.giveBack, hu] using hp

/-- So does taking it off the list. -/
theorem EveryLinked.remove (h : EveryLinked P q) (u : Nat) (status : Int) :
    EveryLinked P { q.setUrb u { q.urbs u with unlinked := status } with
      urbList := q.urbList.erase u } := by
  refine h.frame (fun u' hu' => List.mem_of_mem_erase hu') (fun u' _ urb hp => ?_)
    (fun _ _ hv => hv) rfl
  by_cases hu : u' = u
  · subst hu
    simpa using hp
  · simpa [hu] using hp

/-- And freeing its `bce_vhci_urb`. -/
theorem EveryLinked.free (h : EveryLinked P q) (urb : Nat) :
    EveryLinked P { q with vurbs := Function.update q.vurbs urb none } := by
  refine h.frame (fun _ hu => hu) (fun _ _ _ hp => hp) (fun urb' v hv => ?_) rfl
  by_cases hurb : urb' = urb
  · subst hurb
    simp at hv
  · simpa [hurb] using hv

/-- The delivery of a message updates the first URB at most. -/
theorem EveryLinked.deliver {more : Bool} (h : EveryLinked P q)
    (hupdate : ∀ {u urb v msg r q₁}, q.Head u urb v → UpdateEffect q urb v msg r q₁ →
      EveryLinked P q₁)
    (heff : DeliverEffect q more q') : EveryLinked P q' := by
  cases heff with
  | idle => exact h
  | blocked hhead _ hup => exact hupdate hhead hup
  | delivered hhead _ hup => exact (hupdate hhead hup).of_eq rfl rfl rfl rfl

/-- So does an event. -/
theorem EveryLinked.event {msg : BceVhciMessage} (h : EveryLinked P q)
    (hupdate : ∀ {u urb v msg r q₁}, q.Head u urb v → UpdateEffect q urb v msg r q₁ →
      EveryLinked P q₁)
    (heff : EventEffect q msg q') : EveryLinked P q' := by
  cases heff with
  | dropped => exact h
  | queued => exact h.of_eq rfl rfl rfl rfl
  | deferred hhead _ hup => exact (hupdate hhead hup).of_eq rfl rfl rfl rfl
  | updated hhead _ hup => exact hupdate hhead hup

/-- And a round over the completions, on what it consumed. -/
theorem EveryLinked.completionRound {d : DmaDataDirection} {more : Bool} (h : EveryLinked P q)
    (hsqs : ∀ {sqs sqs' urb v}, P sqs urb v → P sqs' urb v)
    (hcompletion : ∀ {t c sq u urb v q₁}, q.sqs d = some t →
      bceNextCompletion t.sq = some (c, sq) → c.status ≠ BCE_COMPLETION_ABORTED → q.Head u urb v →
      CompletionEffect (q.consume d t sq) urb v c q₁ → EveryLinked P (q.consume d t sq) →
      EveryLinked P q₁)
    (heff : CompletionRoundEffect q d more q') : EveryLinked P q' := by
  cases heff with
  | idle => exact h
  | skipped => exact h.of_sqs rfl rfl rfl fun _ _ => hsqs
  | @completed t _ _ sq _ _ _ _ ht hnext hstatus hhead heff =>
    have hcons : EveryLinked P (q.consume d t sq) := h.of_sqs rfl rfl rfl fun _ _ => hsqs
    exact (hcompletion ht hnext hstatus hhead heff hcons).of_sqs rfl rfl rfl fun _ _ => hsqs

/-- **The invariant rule for linked URBs.** It is enough to look at enqueues, at
the rounds that work on one URB, and at the device. -/
theorem EveryLinked.step {s s' : Endpoint} {a : EndpointAction} (h : EveryLinked P s.q)
    (heff : StepEffect s a s')
    (hcreate : ∀ u request linked r q', a = .enqueue u request linked → ¬s.Owns u →
      s.Supports request → CreateEffect (s.q.fill u request) u r q' →
      EveryLinked P (s.q.fill u request) → EveryLinked P q')
    (hdeliver : ∀ more q', DeliverEffect s.q more q' → EveryLinked P q')
    (hcompletion : ∀ d ops more q', a = .lockStep → s.lock = .completions d :: ops →
      CompletionRoundEffect s.q d more q' → EveryLinked P q')
    (hevent : ∀ msg q', EventEffect s.q msg q' → EveryLinked P q')
    (hresume : ∀ u us ops urb v q', a = .lockStep → s.lock = .resume (u :: us) :: ops →
      u ∈ s.q.urbList → s.q.Has u urb v → ResumeEffect s.q urb v q' → EveryLinked P q')
    (hdevice : ∀ d t t', s.q.sqs d = some t → DeviceEffect t t' →
      EveryLinked P (s.q.setSq d t')) :
    EveryLinked P s'.q := by
  cases heff with
  | died => exact h
  | quiet _ hq =>
    exact h.of_eq hq.flags.urbList hq.flags.urbs hq.flags.vurbs hq.flags.sqs
  | enqueued _ hu hsup heff => exact hcreate _ _ _ _ _ rfl hu hsup heff (h.fill _ _)
  | refused _ hu hsup _ heff => exact hcreate _ _ _ _ _ rfl hu hsup heff (h.fill _ _)
  | delivered _ heff => exact hdeliver _ _ heff
  | completed hops heff => exact hcompletion _ _ _ _ rfl hops heff
  | event _ heff => exact hevent _ _ heff
  | resumed hops hu hhas heff => exact hresume _ _ _ _ _ _ rfl hops hu hhas heff
  | activated => exact h.of_eq rfl rfl rfl rfl
  | removed => exact h.remove _ _
  | freed => exact h.free _
  | gaveRemoved => exact h.giveBack _
  | gave => exact h.giveBack _
  | popped => exact h.of_eq rfl rfl rfl rfl
  | device ht hdev => exact hdevice _ _ _ ht hdev

end Steps

end BceDriver
