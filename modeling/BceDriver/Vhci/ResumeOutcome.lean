import BceDriver.Vhci.StateRequests

/-!
# What a resume leaves behind

`bce_vhci_transfer_queue_resume` visits every linked URB once. A visit that asks
for data takes a slot of `msg_asynchronous` and one of `sq_in`, so the first
URBs of the list get one and the rest do not.

- `unstarted`: the URBs that find no slot.
- `VisitEffect`: what a visit does to the slots and to its URB.
- `ResumedAll`: nobody is parked any more, and whoever could not be started has been
  given back.
- `resumedAll_iff`: that is so exactly if there was a slot for everybody. The status of
  `bce_vhci_urb_init` is dropped, and nothing calls `bce_vhci_transfer_queue_giveback`.
-/

namespace BceDriver

open FaultState

/-! ## Slots -/

/-- A visit of the URB asks for its data. -/
def BceVhciUrb.AsksOnResume (v : BceVhciUrb) : Prop :=
  (v.state = .initPaused ∧ v.isControl = false ∧ v.dir = .fromDevice) ∨
    v.state = .waitingForCompletion

instance (v : BceVhciUrb) : Decidable v.AsksOnResume := inferInstanceAs (Decidable (_ ∨ _))

/-- The `bce_vhci_urb` of the URB at `u`. -/
def BceVhciTransferQueue.vurbOf (q : BceVhciTransferQueue) (u : Nat) : Option BceVhciUrb :=
  (q.urbs u).hcpriv.bind q.vurbs

/-- How many URBs can ask for data: each takes a slot of both queues. -/
def inSlots (q : BceVhciTransferQueue) : Nat :=
  match q.sqs .fromDevice with
  | some t => (min q.msgAsynchronous.sq.availableCommands t.sq.availableCommands).toNat
  | none => 0

/-- The URBs among `us` that ask for data when they are visited. -/
def asking (us : List Nat) (q : BceVhciTransferQueue) : List Nat :=
  us.filter fun u => ∃ v ∈ q.vurbOf u, v.AsksOnResume

/-- Those of them that find no slot, if `us` are visited in this order. -/
def unstarted (us : List Nat) (q : BceVhciTransferQueue) : List Nat :=
  (asking us q).drop (inSlots q)

section Slots

variable {q q' : BceVhciTransferQueue} {urb u : Nat} {v : BceVhciUrb}

theorem BceVhciTransferQueue.Has.vurbOf (h : q.Has u urb v) : q.vurbOf u = some v := by
  simp [BceVhciTransferQueue.vurbOf, h.hcpriv, h.vurb]

/-- Without a wait, a slot of `msg_asynchronous` is reserved if one is free. -/
theorem asyncReservation_zero_iff :
    asyncReservation 0 q = 0 ↔ 0 < q.msgAsynchronous.sq.availableCommands := by
  refine ⟨fun h => ?_, fun h => asyncReservation_of_pos h 0⟩
  by_contra hle
  unfold asyncReservation at h
  rw [bceReserveSubmission_zero_of_le (not_lt.mp hle), bceReserveSubmissionThrough_returned] at h
  exact absurd h (show -EAGAIN ≠ 0 by decide)

theorem StartedIn.inSlots (h : StartedIn 0 q urb v q') : inSlots q = inSlots q' + 1 := by
  obtain ⟨t, ht, hpos, hq'⟩ := h.slot
  have hfree := asyncReservation_zero_iff.mp h.can.1
  have hasync := h.async hfree
  have ht' : q'.sqs .fromDevice = some (t.put (inElement q urb v)) := by
    rw [hq']
    simp
  have havail : (t.put (inElement q urb v)).sq.availableCommands =
      t.sq.availableCommands - 1 := rfl
  unfold BceDriver.inSlots
  rw [ht, ht']
  simp only [hasync, havail]
  omega

theorem StartFailed.inSlots (h : StartFailed 0 q q') : inSlots q = 0 := by
  unfold BceDriver.inSlots
  cases ht : q.sqs .fromDevice with
  | none => rfl
  | some t =>
    dsimp only
    rcases h.cannot with hasync | ⟨t', ht', hle⟩
    · have := mt asyncReservation_zero_iff.mpr hasync
      omega
    · obtain rfl := Option.some.inj (ht.symm.trans ht')
      omega

end Slots

/-! ## A visit -/

/-- The outcomes of a visit of the URB, by whether it asks for data and gets a slot. -/
inductive VisitEffect (q : BceVhciTransferQueue) (urb : Nat) (v : BceVhciUrb) :
    BceVhciTransferQueue → Prop where
  | idle {q' : BceVhciTransferQueue} : ¬v.AsksOnResume → inSlots q = inSlots q' →
      SameHeap q q' → (∀ v' ∈ q'.vurbs urb, v'.state ≠ .initPaused) → VisitEffect q urb v q'
  | asked {q' : BceVhciTransferQueue} : v.AsksOnResume → inSlots q = inSlots q' + 1 →
      SameHeap q q' → (∀ v' ∈ q'.vurbs urb, v'.state ≠ .initPaused) → VisitEffect q urb v q'
  /-- a new URB stays parked -/
  | parked {q' : BceVhciTransferQueue} : v.AsksOnResume → inSlots q = 0 → SameHeap q q' →
      q'.vurbs urb = some v → v.state = .initPaused → VisitEffect q urb v q'
  /-- an interrupted one is completed -/
  | ended {q' : BceVhciTransferQueue} : v.AsksOnResume → inSlots q = 0 →
      Ended q urb v.urb q' → VisitEffect q urb v q'

section Visit

variable {q q' : BceVhciTransferQueue} {urb u : Nat} {v : BceVhciUrb} {us : List Nat}

theorem StartedIn.visit (h : StartedIn 0 q urb v q') (hv : q.vurbs urb = some v)
    (hasks : v.AsksOnResume) : VisitEffect q urb v q' := by
  refine .asked hasks h.inSlots (.of_startedIn hv h) fun v' hv' => ?_
  rw [h.vurbs, Function.update_self] at hv'
  obtain rfl := Option.some.inj hv'
  simp

theorem ResumeEffect.visit (hv : q.vurbs urb = some v) (h : ResumeEffect q urb v q') :
    VisitEffect q urb v q' := by
  cases h with
  | unchanged hp hw =>
    refine .idle (by simp [BceVhciUrb.AsksOnResume, hp, hw]) rfl (.refl q) fun v' hv' => ?_
    obtain rfl := Option.some.inj (hv.symm.trans hv')
    exact hp
  | init hp h =>
    cases h with
    | control hc =>
      refine .idle (by simp [BceVhciUrb.AsksOnResume, hp, hc]) rfl (.setVurb hv rfl) ?_
      simp
    | out hc hd =>
      refine .idle (by simp [BceVhciUrb.AsksOnResume, hp, hd]) rfl (.setVurb hv rfl) ?_
      simp only [BceVhciTransferQueue.setVurb_vurbs, Function.update_self, Option.mem_def,
        Option.some.injEq, forall_eq']
      unfold outStartState
      split
      · decide
      · decide
    | startedIn hc hd hs => exact hs.visit hv (.inl ⟨hp, hc, hd⟩)
    | failed hc hd hf =>
      exact .parked (.inl ⟨hp, hc, hd⟩) hf.inSlots (.of_waited hf.waited)
        (by rw [hf.waited.vurbs, hv]) hp
  | restarted hw hs => exact hs.visit hv (.inr hw)
  | failed hw hf =>
    exact .ended (.inr hw) hf.inSlots (.of_same (.of_waited hf.waited) (.complete ..))

/-- A visit of one URB does not change which of the others ask. -/
theorem asking_visit (hlive : q.Live) (hlinked : ∀ w ∈ us, w ∈ q.urbList) (hu : u ∉ us)
    (hhas : q.Has u urb v) (heff : ResumeEffect q urb v q') : asking us q' = asking us q := by
  refine List.filter_congr fun w hw => ?_
  have hne : w ≠ u := by
    rintro rfl
    exact hu hw
  obtain ⟨urb', v', hw'⟩ := hlive w (hlinked w hw)
  rw [hw'.vurbOf, (heff.other hhas hw' hne).vurbOf]

/-- A URB that gets what it asks for leaves one slot less to the rest. -/
theorem unstarted_visit (hrest : asking us q' = asking us q) (hhas : q.Has u urb v)
    (h : VisitEffect q urb v q') :
    unstarted (u :: us) q = unstarted us q' ∨
      (unstarted (u :: us) q ≠ [] ∧ ((q'.vurbs urb = some v ∧ v.state = .initPaused) ∨
        Ended q urb u q')) := by
  have hasking : asking (u :: us) q =
      if v.AsksOnResume then u :: asking us q' else asking us q' := by
    rw [hrest]
    unfold asking
    rw [List.filter_cons]
    simp [hhas.vurbOf]
  -- without a slot the first that asks is left
  have hnone : v.AsksOnResume → inSlots q = 0 → unstarted (u :: us) q ≠ [] := by
    intro hasks hslots
    unfold unstarted
    rw [hasking, if_pos hasks, hslots]
    simp
  cases h with
  | idle hno hslots =>
    left
    unfold unstarted
    rw [hasking, if_neg hno, hslots]
  | asked hasks hslots =>
    left
    unfold unstarted
    rw [hasking, if_pos hasks, hslots]
    rfl
  | parked hasks hslots _ hv hp => exact .inr ⟨hnone hasks hslots, .inl ⟨hv, hp⟩⟩
  | ended hasks hslots hended =>
    rw [hhas.urb_eq] at hended
    exact .inr ⟨hnone hasks hslots, .inr hended⟩

/-- After a visit that gets what it asks for the URB is not parked. -/
theorem VisitEffect.begun (h : VisitEffect q urb v q') (hslot : v.AsksOnResume → inSlots q ≠ 0) :
    SameHeap q q' ∧ ∀ v' ∈ q'.vurbs urb, v'.state ≠ .initPaused := by
  cases h with
  | idle _ _ hheap hstate => exact ⟨hheap, hstate⟩
  | asked _ _ hheap hstate => exact ⟨hheap, hstate⟩
  | parked hasks hslots => exact absurd hslots (hslot hasks)
  | ended hasks hslots => exact absurd hslots (hslot hasks)

/-- What is on `giveback_urb_list` stays there. -/
theorem VisitEffect.giveback (h : VisitEffect q urb v q') (hg : q.givebackUrbList ≠ []) :
    q'.givebackUrbList ≠ [] := by
  cases h with
  | idle _ _ hheap => rwa [hheap.givebackUrbList]
  | asked _ _ hheap => rwa [hheap.givebackUrbList]
  | parked _ _ hheap => rwa [hheap.givebackUrbList]
  | ended _ _ hended =>
    rw [hended.givebackUrbList]
    simp

end Visit

/-! ## The loop -/

/-- What the loop keeps as long as every URB gets what it asks for. -/
structure AllStarted (q : BceVhciTransferQueue) (us : List Nat) (q' : BceVhciTransferQueue) :
    Prop extends Revisiting q us q' where
  slots : unstarted us q' = []
  urbList : q'.urbList = q.urbList
  givebackUrbList : q'.givebackUrbList = q.givebackUrbList
  begun : ∀ u ∈ q'.urbList, u ∉ us → ∀ urb v, q'.Has u urb v → v.state ≠ .initPaused

/-- A URB waits to be given back, or one that the loop is not going to visit is parked. -/
def LeftBehind (q : BceVhciTransferQueue) (us : List Nat) (q' : BceVhciTransferQueue) : Prop :=
  q'.givebackUrbList ≠ [] ∨
    ∃ u ∈ q.urbList, u ∉ us ∧ ∃ urb v, q'.Has u urb v ∧ v.state = .initPaused

/-- What the loop keeps if it cannot start every URB. -/
structure NotAllStarted (q : BceVhciTransferQueue) (us : List Nat) (q' : BceVhciTransferQueue) :
    Prop extends Revisiting q us q' where
  visits : ∀ u ∈ us, u ∈ q.urbList
  left : unstarted us q' ≠ [] ∨ LeftBehind q us q'

section Loop

variable {q q₁ q₂ : BceVhciTransferQueue} {us : List Nat} {u urb : Nat} {v : BceVhciUrb}

theorem AllStarted.round (h : AllStarted q (u :: us) q₁) (hhas : q₁.Has u urb v)
    (heff : ResumeEffect q₁ urb v q₂) : AllStarted q us q₂ := by
  obtain ⟨hu, -⟩ := List.nodup_cons.mp h.usNodup
  have hrest := asking_visit h.live (fun w hw => h.linked w (List.mem_cons_of_mem _ hw))
    hu hhas heff
  have hvisit := heff.visit hhas.vurb
  obtain hleft | ⟨hne, -⟩ := unstarted_visit hrest hhas hvisit
  · -- somebody would be left if there was no slot for this one
    obtain ⟨hheap, hstate⟩ := hvisit.begun fun hasks hslots => by
      have hnil := h.slots
      unfold unstarted asking at hnil
      rw [hslots, List.filter_cons] at hnil
      simp [hhas.vurbOf, hasks] at hnil
    refine ⟨h.toRevisiting.round hhas heff, hleft ▸ h.slots, hheap.urbList.trans h.urbList,
      hheap.givebackUrbList.trans h.givebackUrbList, fun w hw hnot urb' v' hw' => ?_⟩
    have hmem : w ∈ q₁.urbList := hheap.urbList ▸ hw
    obtain ⟨urb₀, v₀, hold⟩ := h.live w hmem
    by_cases hwu : w = u
    · subst hwu
      obtain rfl := Option.some.inj (((hheap.hcpriv w).symm.trans hw'.hcpriv).symm.trans
        hhas.hcpriv)
      exact hstate v' hw'.vurb
    · obtain ⟨-, rfl⟩ := (heff.other hhas hold hwu).unique hw'
      exact h.begun w hmem (by simp [hwu, hnot]) urb₀ v₀ hold
  · exact absurd h.slots hne

theorem LeftBehind.round (h : LeftBehind q (u :: us) q₁) (hhas : q₁.Has u urb v)
    (heff : ResumeEffect q₁ urb v q₂) : LeftBehind q us q₂ := by
  obtain hg | ⟨w, hw, hnot, urb', v', hold, hp⟩ := h
  · exact .inl ((heff.visit hhas.vurb).giveback hg)
  · obtain ⟨hwu, hwus⟩ := not_or.mp (mt List.mem_cons.mpr hnot)
    exact .inr ⟨w, hw, hwus, urb', v', heff.other hhas hold hwu, hp⟩

theorem NotAllStarted.round (h : NotAllStarted q (u :: us) q₁) (hhas : q₁.Has u urb v)
    (heff : ResumeEffect q₁ urb v q₂) : NotAllStarted q us q₂ := by
  obtain ⟨hu, -⟩ := List.nodup_cons.mp h.usNodup
  have hrest := asking_visit h.live (fun w hw => h.linked w (List.mem_cons_of_mem _ hw))
    hu hhas heff
  have hvisits : ∀ w ∈ us, w ∈ q.urbList := fun w hw => h.visits w (List.mem_cons_of_mem _ hw)
  refine ⟨h.toRevisiting.round hhas heff, hvisits, ?_⟩
  obtain hne | hleft := h.left
  · obtain hsame | ⟨-, ⟨hv, hp⟩ | hended⟩ := unstarted_visit hrest hhas (heff.visit hhas.vurb)
    · exact .inl (hsame ▸ hne)
    · -- it is parked in an active queue now
      have hhas' : q₂.Has u urb v := by
        rcases heff.heap hhas.vurb with hheap | hended
        · exact ⟨(hheap.hcpriv u).trans hhas.hcpriv, hv, hhas.urb_eq⟩
        · rw [hended.freed] at hv
          cases hv
      exact .inr (.inr ⟨u, h.visits u List.mem_cons_self, hu, urb, v, hhas', hp⟩)
    · refine .inr (.inl ?_)
      rw [hended.givebackUrbList]
      simp
  · exact .inr (hleft.round hhas heff)

end Loop

/-! ## The delivery -/

section Delivery

variable {q q' : BceVhciTransferQueue} {urb : Nat} {v : BceVhciUrb}

/-- A delivery that finds no error ends no URB. -/
theorem Delivering.heap {state : Nat} {more : Bool} (h : Delivering state q)
    (heff : DeliverEffect q more q') : SameHeap q q' := by
  cases heff with
  | idle => exact .refl q
  | blocked hhead _ hup =>
    cases hup with
    | deferred => exact .refl q
    | refused hr => exact absurd rfl hr
  | @delivered u urb v msg msgs r q₁ hhead hevq hup hr =>
    refine SameHeap.trans ?_ (.setEvq q₁ _)
    rcases h.update hhead hevq hup hr with ⟨rfl, -⟩ | ⟨t, v', rfl, hurb, -⟩
    · exact .refl q₁
    · exact (SameHeap.setSq q .toDevice t).trans (.setVurb hhead.vurb hurb)

/-- No message parks a URB. -/
theorem UpdateEffect.unparked {msg : BceVhciMessage} {r : Int} (hv : q.vurbs urb = some v)
    (h : UpdateEffect q urb v msg r q') :
    LeavesUrb (fun v' => v'.state = .initPaused → v.state = .initPaused) urb q q' := by
  cases h with
  | deferred => exact .kept hv rfl id
  | refused => exact .kept hv rfl id
  | setup => exact .stored rfl (by simp)
  | out => exact .stored rfl (by simp [BceVhciUrb.sentOut])
  | outSettled => exact .freed (settle_vurbs ..)
  | status => exact .stored rfl id
  | settled => exact .freed (settle_vurbs ..)

/-- No linked URB is parked. -/
abbrev NoneParked (q : BceVhciTransferQueue) : Prop :=
  EveryLinked (fun _ _ v => v.state ≠ .initPaused) q

theorem DeliverEffect.noneParked {more : Bool} (heff : DeliverEffect q more q')
    (hnodup : q.urbList.Nodup) (h : NoneParked q) : NoneParked q' := by
  refine h.deliver (fun hhead hup => ?_) heff
  obtain ⟨x, hx, hstate⟩ := hup.unparked hhead.vurb
  have hhas := h _ (Head.mem hhead) _ _ hhead.toHas
  exact h.touches (.of_heap hnodup (hup.heap hhead.vurb) hx) (fun _ _ _ h => h)
    fun v' hv' hp => hhas (hstate v' hv' hp)

/-- Nor does a message start or remove what the resume left. -/
theorem LeftBehind.deliver {q₀ : BceVhciTransferQueue} {more : Bool} (h : LeftBehind q₀ [] q)
    (heff : DeliverEffect q more q') : LeftBehind q₀ [] q' := by
  rcases heff.heap with hheap | ⟨_, _, _, _, hended⟩
  · obtain hg | ⟨u, hu, -, urb, v, hhas, hp⟩ := h
    · exact .inl (by rwa [hheap.givebackUrbList])
    · obtain ⟨v', hhas'⟩ := hheap.has hhas
      refine .inr ⟨u, hu, by simp, urb, v', hhas', ?_⟩
      have hupdate : ∀ {u₀ urb₀ : Nat} {v₀ : BceVhciUrb} {msg : BceVhciMessage} {r : Int}
          {q₁ : BceVhciTransferQueue}, q.Head u₀ urb₀ v₀ → UpdateEffect q urb₀ v₀ msg r q₁ →
          q₁.vurbs urb = some v' → v'.state = .initPaused := by
        intro u₀ urb₀ v₀ msg r q₁ hhead hup hv'
        obtain ⟨x, hx, hstate⟩ := hup.parked hhead.vurb
        rw [hx] at hv'
        by_cases hurb : urb = urb₀
        · subst hurb
          obtain rfl := Option.some.inj (hhas.vurb.symm.trans hhead.vurb)
          rw [Function.update_self] at hv'
          exact hstate v' hv' hp
        · rw [Function.update_of_ne hurb] at hv'
          obtain rfl := Option.some.inj (hhas.vurb.symm.trans hv')
          exact hp
      cases heff with
      | idle =>
        obtain ⟨-, rfl⟩ := hhas.unique hhas'
        exact hp
      | blocked hhead _ hup => exact hupdate hhead hup hhas'.vurb
      | delivered hhead _ hup => exact hupdate hhead hup hhas'.vurb
  · refine .inl ?_
    rw [hended.givebackUrbList]
    simp

/-- A queue that is stopped by the delivery has a URB to give back. -/
theorem UpdateEffect.stopped {msg : BceVhciMessage} {r : Int} (h : UpdateEffect q urb v msg r q')
    (hq : q.active = true ∨ q.givebackUrbList ≠ []) :
    q'.active = true ∨ q'.givebackUrbList ≠ [] := by
  have hsettle : ∀ (q : BceVhciTransferQueue) u s, (q.settle urb u s).givebackUrbList ≠ [] := by
    intro q u s
    unfold BceVhciTransferQueue.settle
    split
    · simp [BceVhciTransferQueue.complete]
    · simp [BceVhciTransferQueue.complete]
  cases h with
  | outSettled => exact .inr (hsettle _ _ _)
  | settled => exact .inr (hsettle _ _ _)
  | _ => exact hq

end Delivery

/-! ## The resume -/

/-- Nobody that was linked is parked; whoever found no slot was completed with the error
and handed to the USB core; everybody else stays linked. -/
structure ResumedAll (q q' : BceVhciTransferQueue) : Prop where
  begun : ∀ u ∈ q.urbList, ∀ urb v, q'.Has u urb v → v.state ≠ .initPaused
  completed : ∀ u ∈ unstarted q.urbList q, u ∉ q'.urbList ∧ (q'.urbs u).status = -ENOMEM
  handed : q'.givebackUrbList = []
  kept : ∀ u ∈ q.urbList, u ∉ unstarted q.urbList q → u ∈ q'.urbList

section Resume

variable {q q' : BceVhciTransferQueue} {reply : CommandOutcome}

theorem ResumedAll.not_leftBehind (h : ResumedAll q q') : ¬LeftBehind q [] q' := by
  rintro (hg | ⟨u, hu, -, urb, v, hhas, hp⟩)
  · exact hg h.handed
  · exact h.begun u hu urb v hhas hp

theorem FirstServed.activate (h : FirstServed q) (state : Nat) :
    FirstServed { q with state := state, active := true } :=
  ⟨h.urbs.of_eq rfl rfl rfl rfl, h.evq⟩

theorem SameHeap.activate (q : BceVhciTransferQueue) (state : Nat) :
    SameHeap q { q with state := state, active := true } :=
  ⟨rfl, rfl, fun _ => rfl, fun _ => rfl, fun _ => rfl, rfl⟩

/-- The queue the loop begins with. -/
theorem Revisiting.start_active (hserved : FirstServed q) (hlive : q.Live)
    (hnodup : q.urbList.Nodup) (state : Nat) :
    Revisiting { q with state := state, active := true } q.urbList
      { q with state := state, active := true } :=
  .start (hserved.activate state) ((SameHeap.activate q state).live hlive) hnodup

/-- With a slot for everybody, and no error among the deferred messages. -/
theorem resume_all (hserved : FirstServed q) (hlive : q.Live) (hnodup : q.urbList.Nodup)
    (hslots : unstarted q.urbList q = []) (hgiveback : q.givebackUrbList = [])
    (hfails : ¬FailsDeferred q) :
    wp (bceVhciTransferQueueResume reply) (fun _ => True)
      (fun r q' => r = 0 → ResumedAll q q') q := by
  refine wp_resume (I := fun us q' => ∃ state,
      AllStarted { q with state := state, active := true } us q') (fun state => ⟨state, ?_⟩) ?_ ?_
  · exact ⟨.start_active hserved hlive hnodup state, hslots, rfl, rfl,
      fun u hu hnot => absurd hu hnot⟩
  · rintro u us q₁ ⟨state, h₁⟩
    obtain ⟨urb, v, hhas⟩ := h₁.live u (h₁.linked u List.mem_cons_self)
    exact wp_imp (resumeUrb_spec hhas fun _ _ => trivial)
      fun _ _ heff => ⟨state, h₁.round hhas heff⟩
  · rintro q₁ ⟨state, h₁⟩
    have hserved' := hserved.activate state
    have hlive' := (SameHeap.activate q state).live hlive
    have hbegun : NoneParked q₁ := fun u hu => h₁.begun u hu (by simp)
    have hfails₁ : ¬FailsDeferred q₁ := (h₁.failsDeferred_iff hlive').not.mpr hfails
    refine wp_imp (wp_deliverPending (I := fun q₂ => Delivering state q₂ ∧ NoneParked q₂ ∧
      q₂.urbList = q.urbList ∧ q₂.givebackUrbList = []) ?_
      ⟨⟨h₁.live, h₁.nodup, h₁.state, h₁.active, h₁.noStatus hserved', hfails₁⟩, hbegun, h₁.urbList,
        h₁.givebackUrbList.trans hgiveback⟩) fun _ q₂ h₂ => ?_
    · rintro q₂ ⟨hdel, hparked, hlist, hg⟩
      refine wp_imp (deliverRound_spec hdel.live fun _ _ _ _ _ _ _ => trivial) fun _ q₃ heff => ?_
      have hheap := hdel.heap heff
      exact ⟨hdel.round heff, heff.noneParked hdel.nodup hparked, hheap.urbList.trans hlist,
        hheap.givebackUrbList.trans hg⟩
    · obtain ⟨-, hparked, hlist, hg⟩ := h₂
      exact ⟨fun u hu => hparked u (hlist ▸ hu), by simp [hslots], hg, fun u hu _ => hlist ▸ hu⟩

/-- Without a slot for somebody, or with somebody to give back before. -/
theorem resume_leaves (hserved : FirstServed q) (hlive : q.Live) (hnodup : q.urbList.Nodup)
    (hleft : unstarted q.urbList q ≠ [] ∨ q.givebackUrbList ≠ []) :
    wp (bceVhciTransferQueueResume reply) (fun _ => True)
      (fun r q' => r = 0 → LeftBehind q [] q') q := by
  refine wp_resume (I := fun us q' => ∃ state,
      NotAllStarted { q with state := state, active := true } us q')
      (fun state => ⟨state, ?_⟩) ?_ ?_
  · exact ⟨.start_active hserved hlive hnodup state, fun _ hu => hu, hleft.imp_right .inl⟩
  · rintro u us q₁ ⟨state, h₁⟩
    obtain ⟨urb, v, hhas⟩ := h₁.live u (h₁.linked u List.mem_cons_self)
    exact wp_imp (resumeUrb_spec hhas fun _ _ => trivial)
      fun _ _ heff => ⟨state, h₁.round hhas heff⟩
  · rintro q₁ ⟨state, h₁⟩
    have hleft₁ : LeftBehind q [] q₁ := h₁.left.resolve_left (by simp [unstarted, asking])
    refine wp_imp (wp_deliverPending
      (I := fun q₂ => q₂.Live ∧ q₂.urbList.Nodup ∧ LeftBehind q [] q₂)
      ?_ ⟨h₁.live, h₁.nodup, hleft₁⟩) fun _ q₂ h₂ => h₂.2.2
    rintro q₂ ⟨hlive₂, hnodup₂, hleft₂⟩
    refine wp_imp (deliverRound_spec hlive₂ fun _ _ _ _ _ _ _ => trivial) fun _ q₃ heff => ?_
    obtain ⟨hlive₃, hnodup₃⟩ := heff.heap.live hlive₂ hnodup₂
    exact ⟨hlive₃, hnodup₃, hleft₂.deliver heff⟩

/-- With an error among the deferred messages, which the delivery ends a URB with. -/
theorem resume_fails (hserved : FirstServed q) (hlive : q.Live) (hnodup : q.urbList.Nodup)
    (hfails : FailsDeferred q) :
    wp (bceVhciTransferQueueResume reply) (fun _ => True)
      (fun r q' => r = 0 → q'.givebackUrbList ≠ []) q := by
  refine wp_resume (I := fun us q' => ∃ state,
      Revisiting { q with state := state, active := true } us q')
    (fun state => ⟨state, .start_active hserved hlive hnodup state⟩) ?_ ?_
  · rintro u us q₁ ⟨state, h₁⟩
    obtain ⟨urb, v, hhas⟩ := h₁.live u (h₁.linked u List.mem_cons_self)
    exact wp_imp (resumeUrb_spec hhas fun _ _ => trivial)
      fun _ _ heff => ⟨state, h₁.round hhas heff⟩
  · rintro q₁ ⟨state, h₁⟩
    have hserved' := hserved.activate state
    have hlive' := (SameHeap.activate q state).live hlive
    have hfails₁ : FailsDeferred q₁ := (h₁.failsDeferred_iff hlive').mpr hfails
    refine wp_imp (wp_and (deliverPending_active h₁.live h₁.nodup h₁.active (h₁.noStatus hserved'))
      (wp_deliverPending_any (K := fun q₂ => q₂.active = true ∨ q₂.givebackUrbList ≠ [])
        (fun hk hup => hup.stopped hk) (fun _ hk => hk) (.inl h₁.active))) fun _ q₂ h₂ => ?_
    obtain ⟨⟨-, hactive⟩, hstopped⟩ := h₂
    exact hstopped.resolve_left fun ha => hactive.mp ha hfails₁

end Resume

/-- **What a resume does for every URB.** In any reachable state of an endpoint, once a
resume returned 0: no URB that was linked is parked, and whoever could not be started
was completed and handed over, exactly if there was a slot for every URB that asks for
data, nobody waited to be given back before, and the delivery ends no control transfer
with an error it knew. -/
theorem resumedAll_iff {s : Endpoint} (h : endpointSystem.Reachable (fun _ _ => True) s)
    {reply : CommandOutcome} {q' : BceVhciTransferQueue}
    (hrun : (bceVhciTransferQueueResume reply).run s.q = .ok (0, q')) :
    ResumedAll s.q q' ↔
      unstarted s.q.urbList s.q = [] ∧ s.q.givebackUrbList = [] ∧ ¬FailsDeferred s.q := by
  have hserved := reachable_firstServed h
  have hlive := (reachable_owned h).live
  have hnodup := (reachable_owned h).urbList_nodup
  have hleaves := @resume_leaves s.q reply hserved hlive hnodup
  have hending := @resume_fails s.q reply hserved hlive hnodup
  have hstarting := @resume_all s.q reply hserved hlive hnodup
  constructor
  · intro hall
    have hslots : unstarted s.q.urbList s.q = [] ∧ s.q.givebackUrbList = [] := by
      by_contra hno
      exact hall.not_leftBehind (wp_ok (hleaves (not_and_or.mp hno)) hrun rfl)
    refine ⟨hslots.1, hslots.2, fun hfails => ?_⟩
    exact wp_ok (hending hfails) hrun rfl hall.handed
  · rintro ⟨hslots, hgiveback, hfails⟩
    exact wp_ok (hstarting hslots hgiveback hfails) hrun rfl

/-! ## A parked URB -/

/-- The queue is paused, and a device-to-host URB is enqueued. -/
def parkedRun : List EndpointAction :=
  .startFirmware ⟨BCE_VHCI_CMD_ENDPOINT_REQUEST_STATE, 0, 0, BCE_VHCI_ENDPOINT_PAUSED⟩ ::
    List.replicate 6 (.workStep ⟨0, BCE_VHCI_ENDPOINT_PAUSED⟩ 0) ++
  [.enqueue 0 ⟨true, 4, 0, 0⟩ 0, .lockStep]

def parkedState : Endpoint := endpointSystem.after (fun _ _ => True) parkedRun (.fresh 0x81)

/-- Other endpoints hold every slot of `msg_asynchronous`. -/
def fullAsync : BceVhciMessageQueue :=
  { bceVhciMessageQueueCreate 4 0 with
    sq := { bceAllocSq 4 VHCI_EVENT_QUEUE_EL_COUNT with availableCommands := 0 } }

def parkedFullState : Endpoint :=
  endpointSystem.after (fun _ _ => True) (parkedRun ++ [.async fullAsync []]) (.fresh 0x81)

/-- With free slots the URB is started. -/
theorem resumedAll_iff_of_parked :
    ResumedAll parkedState.q (final resumeWith parkedState.q) := by
  have hreach : endpointSystem.Reachable (fun _ _ => True) parkedState :=
    .after (.of_init (Endpoint.fresh_init 0x81)) (by decide)
  have hrun : resumeWith.run parkedState.q = .ok (0, final resumeWith parkedState.q) :=
    run_eq_final (by decide +kernel)
  exact (resumedAll_iff hreach hrun).mpr (by decide)

/-- Without one the resume returns 0, and the URB is still parked. -/
theorem not_resumedAll :
    ¬∀ s, endpointSystem.Reachable (fun _ _ => True) s → ∀ reply q',
      (bceVhciTransferQueueResume reply).run s.q = .ok (0, q') → ResumedAll s.q q' := by
  intro h
  have hreach : endpointSystem.Reachable (fun _ _ => True) parkedFullState :=
    .after (.of_init (Endpoint.fresh_init 0x81)) (by decide)
  have hrun : resumeWith.run parkedFullState.q = .ok (0, final resumeWith parkedFullState.q) :=
    run_eq_final (by decide +kernel)
  have hall := h _ hreach _ _ hrun
  have hhas : (final resumeWith parkedFullState.q).Has 0 0
      (((final resumeWith parkedFullState.q).vurbs 0).get (by decide)) :=
    ⟨by decide, (Option.some_get _).symm, by decide⟩
  exact absurd (hall.begun 0 (by decide) 0 _ hhas) (by decide)

end BceDriver
