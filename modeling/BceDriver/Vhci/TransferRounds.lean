import BceDriver.Vhci.Elements

/-!
# What a round does

The loops of `transfer.c` under `urb_lock`, one round at a time: delivering a
deferred message, taking an event, taking a completion, resuming a URB. Each has
one inductive with its outcomes, built on the outcomes for the URB at the head
of the list, and one theorem that a round has one of them, provided the linked
URBs own their `bce_vhci_urb` (`Live`). A missing submission queue is the only
fault left.
-/

namespace BceDriver

open FaultState

namespace BceVhciTransferQueue

/-- The URB at `u` owns the `bce_vhci_urb` at `urb`, which is `v`. -/
structure Has (q : BceVhciTransferQueue) (u urb : Nat) (v : BceVhciUrb) : Prop where
  hcpriv : (q.urbs u).hcpriv = some urb
  vurb : q.vurbs urb = some v
  urb_eq : v.urb = u

/-- The URB at `u`, with `v` at `urb`, is the first on the list. -/
structure Head (q : BceVhciTransferQueue) (u urb : Nat) (v : BceVhciUrb) : Prop
    extends q.Has u urb v where
  first : ∃ us, q.urbList = u :: us

theorem Has.unique {q : BceVhciTransferQueue} {u urb urb' : Nat} {v v' : BceVhciUrb}
    (h : q.Has u urb v) (h' : q.Has u urb' v') : urb = urb' ∧ v = v' := by
  obtain rfl := Option.some.inj (h.hcpriv.symm.trans h'.hcpriv)
  exact ⟨rfl, Option.some.inj (h.vurb.symm.trans h'.vurb)⟩

/-- One URB is the first. -/
theorem Head.unique {q : BceVhciTransferQueue} {u u' urb urb' : Nat} {v v' : BceVhciUrb}
    (h : q.Head u urb v) (h' : q.Head u' urb' v') : u = u' ∧ urb = urb' ∧ v = v' := by
  obtain ⟨us, hlist⟩ := h.first
  obtain ⟨us', hlist'⟩ := h'.first
  obtain rfl := (List.cons.inj (hlist.symm.trans hlist')).1
  exact ⟨rfl, h.toHas.unique h'.toHas⟩

/-- Only the list and the URBs matter. -/
theorem Head.of_eq {q q' : BceVhciTransferQueue} {u urb : Nat} {v : BceVhciUrb}
    (h : q.Head u urb v) (hlist : q'.urbList = q.urbList) (hurbs : q'.urbs = q.urbs)
    (hvurbs : q'.vurbs = q.vurbs) : q'.Head u urb v :=
  ⟨⟨hurbs ▸ h.hcpriv, hvurbs ▸ h.vurb, h.urb_eq⟩, hlist ▸ h.first⟩

/-- Every linked URB owns its `bce_vhci_urb`. -/
def Live (q : BceVhciTransferQueue) : Prop :=
  ∀ u ∈ q.urbList, ∃ urb v, q.Has u urb v

/-- A queue with a linked URB has a head. -/
theorem Live.head {q : BceVhciTransferQueue} (h : q.Live) {u : Nat} {us : List Nat}
    (hl : q.urbList = u :: us) : ∃ urb v, q.Head u urb v := by
  obtain ⟨urb, v, hhas⟩ := h u (hl ▸ List.mem_cons_self)
  exact ⟨urb, v, hhas, us, hl⟩

/-- The `bce_vhci_urb` of the first URB on the list. -/
def headVurb (q : BceVhciTransferQueue) : Option BceVhciUrb :=
  q.urbList.head?.bind fun u => (q.urbs u).hcpriv.bind q.vurbs

theorem Head.headVurb {q : BceVhciTransferQueue} {u urb : Nat} {v : BceVhciUrb}
    (h : q.Head u urb v) : q.headVurb = some v := by
  obtain ⟨us, hlist⟩ := h.first
  simp [BceVhciTransferQueue.headVurb, hlist, h.hcpriv, h.vurb]

/-- The completion `bce_next_completion` is going to find. -/
def nextCompletion (q : BceVhciTransferQueue) (d : DmaDataDirection) : Option BceSqCompletionData :=
  (q.sqs d).bind fun t => (bceNextCompletion t.sq).map Prod.fst

theorem nextCompletion_eq {q : BceVhciTransferQueue} {d : DmaDataDirection} {t : TransferSq}
    {c : BceSqCompletionData} {sq : BceQueueSq} (ht : q.sqs d = some t)
    (hnext : bceNextCompletion t.sq = some (c, sq)) : q.nextCompletion d = some c := by
  simp [nextCompletion, ht, hnext]

/-- The queue once a completion of `sq_in` or `sq_out` is consumed. -/
def consume (q : BceVhciTransferQueue) (d : DmaDataDirection) (t : TransferSq)
    (sq : BceQueueSq) : BceVhciTransferQueue :=
  q.setSq d { t with sq := sq, pending := t.pending.tail }

theorem Head.consume {q : BceVhciTransferQueue} {u urb : Nat} {v : BceVhciUrb}
    (h : q.Head u urb v) (d : DmaDataDirection) (t : TransferSq) (sq : BceQueueSq) :
    (q.consume d t sq).Head u urb v :=
  h.of_eq rfl rfl rfl

/-- The queue once a slot of `sq_in` or `sq_out` is given back. -/
def notify (q : BceVhciTransferQueue) (d : DmaDataDirection) (t : TransferSq) :
    BceVhciTransferQueue :=
  q.setSq d { t with sq := bceNotifySubmissionComplete t.sq }

/-- Consuming a completion leaves the credit of the queues alone. -/
theorem canStartIn_of_consume {q : BceVhciTransferQueue} {d : DmaDataDirection} {t : TransferSq}
    {c : BceSqCompletionData} {sq : BceQueueSq} {timeout : Nat} (ht : q.sqs d = some t)
    (hnext : bceNextCompletion t.sq = some (c, sq)) (h : CanStartIn timeout (q.consume d t sq)) :
    CanStartIn timeout q := by
  obtain ⟨hasync, t₁, ht₁, hpos⟩ := h
  refine ⟨hasync, ?_⟩
  by_cases hd : d = .fromDevice
  · subst hd
    refine ⟨t, ht, ?_⟩
    obtain rfl : { t with sq := sq, pending := t.pending.tail } = t₁ := by
      simpa [consume] using ht₁
    unfold bceNextCompletion at hnext
    split at hnext
    · cases hnext
    · obtain ⟨-, rfl⟩ := Prod.mk.inj (Option.some.inj hnext)
      exact hpos
  · exact ⟨t₁, by simpa [consume, Ne.symm hd] using ht₁, hpos⟩

end BceVhciTransferQueue

/-- The head of the list does not accept the first deferred message. -/
def DeliverIdle (q : BceVhciTransferQueue) : Prop :=
  ∀ v ∈ q.headVurb, ∀ msg ∈ q.evq.head?,
    ¬(v.isControl = true ∧ msg.cmd = BCE_VHCI_CMD_CONTROL_TRANSFER_STATUS) ∧
      ¬(v.AcceptsRequest ∧ msg.cmd = BCE_VHCI_CMD_TRANSFER_REQUEST)

instance (q : BceVhciTransferQueue) : Decidable (DeliverIdle q) :=
  inferInstanceAs (Decidable (∀ v ∈ q.headVurb, _))

/-- The outcomes of a round of `bce_vhci_transfer_queue_deliver_pending`. -/
inductive DeliverEffect (q : BceVhciTransferQueue) : Bool → BceVhciTransferQueue → Prop where
  | idle : q.urbList = [] ∨ q.evq = [] → DeliverEffect q false q
  | blocked {u urb : Nat} {v : BceVhciUrb} {msg : BceVhciMessage} {msgs : List BceVhciMessage}
      {q' : BceVhciTransferQueue} : q.Head u urb v → q.evq = msg :: msgs →
      UpdateEffect q urb v msg (-EAGAIN) q' → DeliverEffect q false q'
  | delivered {u urb : Nat} {v : BceVhciUrb} {msg : BceVhciMessage} {msgs : List BceVhciMessage}
      {r : Int} {q' : BceVhciTransferQueue} : q.Head u urb v → q.evq = msg :: msgs →
      UpdateEffect q urb v msg r q' → r ≠ -EAGAIN →
      DeliverEffect q true { q' with evq := q'.evq.tail }

/-- The outcomes of `bce_vhci_transfer_queue_event` after the delivery. -/
inductive EventEffect (q : BceVhciTransferQueue) (msg : BceVhciMessage) :
    BceVhciTransferQueue → Prop where
  | dropped : msg.cmd ≠ BCE_VHCI_CMD_TRANSFER_REQUEST → q.urbList = [] → EventEffect q msg q
  | queued : msg.cmd = BCE_VHCI_CMD_TRANSFER_REQUEST → q.evq ≠ [] ∨ q.urbList = [] →
      EventEffect q msg { q with evq := q.evq ++ [msg] }
  | deferred {u urb : Nat} {v : BceVhciUrb} {q' : BceVhciTransferQueue} : q.Head u urb v →
      (msg.cmd = BCE_VHCI_CMD_TRANSFER_REQUEST → q.evq = []) →
      UpdateEffect q urb v msg (-EAGAIN) q' →
      EventEffect q msg { q' with evq := q'.evq ++ [msg] }
  | updated {u urb : Nat} {v : BceVhciUrb} {r : Int} {q' : BceVhciTransferQueue} :
      q.Head u urb v → (msg.cmd = BCE_VHCI_CMD_TRANSFER_REQUEST → q.evq = []) →
      UpdateEffect q urb v msg r q' → r ≠ -EAGAIN → EventEffect q msg q'

/-- The outcomes of a round of `bce_vhci_transfer_queue_completion`. -/
inductive CompletionRoundEffect (q : BceVhciTransferQueue) (d : DmaDataDirection) :
    Bool → BceVhciTransferQueue → Prop where
  | idle {t : TransferSq} : q.sqs d = some t → bceNextCompletion t.sq = none →
      CompletionRoundEffect q d false q
  /-- no slot is given back -/
  | skipped {t : TransferSq} {c : BceSqCompletionData} {sq : BceQueueSq} : q.sqs d = some t →
      bceNextCompletion t.sq = some (c, sq) →
      c.status = BCE_COMPLETION_ABORTED ∨ q.urbList = [] →
      CompletionRoundEffect q d true (q.consume d t sq)
  | completed {t t' : TransferSq} {c : BceSqCompletionData} {sq : BceQueueSq} {u urb : Nat}
      {v : BceVhciUrb} {q₁ : BceVhciTransferQueue} : q.sqs d = some t →
      bceNextCompletion t.sq = some (c, sq) → c.status ≠ BCE_COMPLETION_ABORTED →
      q.Head u urb v → CompletionEffect (q.consume d t sq) urb v c q₁ → q₁.sqs d = some t' →
      CompletionRoundEffect q d true (q₁.notify d t')

section Rounds

variable {E : Fault → Prop} {q : BceVhciTransferQueue}

theorem deliverRound_spec (hlive : q.Live)
    (hE : ∀ v ∈ q.headVurb, ∀ msg ∈ q.evq.head?, v.AcceptsRequest →
      msg.cmd = BCE_VHCI_CMD_TRANSFER_REQUEST → q.sqs .toDevice = none → E .nullDeref) :
    wp bceVhciTransferQueueDeliverPendingRound E (DeliverEffect q) q := by
  unfold bceVhciTransferQueueDeliverPendingRound
  rw [wp_bind, wp_get]
  cases hl : q.urbList with
  | nil => exact wp_pure.mpr (.idle (.inl hl))
  | cons u us =>
    cases he : q.evq with
    | nil => exact wp_pure.mpr (.idle (.inr he))
    | cons msg msgs =>
      obtain ⟨urb, v, hhead⟩ := hlive.head hl
      simp only [wp_bind, wp_readHcpriv, hhead.hcpriv]
      refine wp_imp (urbUpdate_spec hhead.vurb (hE v hhead.headVurb msg (by simp [he])))
        fun r q' h => ?_
      rw [wp_ite]
      refine ⟨fun hr => wp_pure.mpr ?_, fun hr => ?_⟩
      · subst hr
        exact .blocked hhead he h
      · rw [wp_bind, wp_modify, wp_pure]
        exact .delivered hhead he h hr

theorem eventBody_spec (hlive : q.Live) (msg : BceVhciMessage)
    (hE : ∀ v ∈ q.headVurb, v.AcceptsRequest → q.sqs .toDevice = none → E .nullDeref) :
    wp (bceVhciTransferQueueEventBody msg) E (fun _ q' => EventEffect q msg q') q := by
  unfold bceVhciTransferQueueEventBody
  rw [wp_bind, wp_get, wp_ite]
  refine ⟨fun h => .queued h.1 h.2, fun h => ?_⟩
  have hfirst : msg.cmd = BCE_VHCI_CMD_TRANSFER_REQUEST → q.evq = [] := fun htr => by
    by_contra hne
    exact h ⟨htr, .inl hne⟩
  cases hl : q.urbList with
  | nil => exact wp_pure.mpr (.dropped (fun htr => h ⟨htr, .inr hl⟩) hl)
  | cons u us =>
    obtain ⟨urb, v, hhead⟩ := hlive.head hl
    simp only [wp_bind, wp_readHcpriv, hhead.hcpriv]
    refine wp_imp (urbUpdate_spec hhead.vurb fun hacc _ => hE v hhead.headVurb hacc)
      fun r q' h => ?_
    rw [wp_ite]
    refine ⟨fun hr => ?_, fun hr => wp_pure.mpr (.updated hhead hfirst h hr)⟩
    subst hr
    exact .deferred hhead hfirst h

theorem wp_nextTransferCompletion {d : DmaDataDirection}
    {Q : Option BceSqCompletionData → BceVhciTransferQueue → Prop} :
    wp (nextTransferCompletion d) E Q q ↔
      match q.sqs d with
      | some t =>
        match bceNextCompletion t.sq with
        | some (c, sq) => Q (some c) (q.consume d t sq)
        | none => Q none q
      | none => E .nullDeref := by
  unfold wp nextTransferCompletion
  rw [StateT.run]
  cases q.sqs d with
  | some t =>
    dsimp only
    cases bceNextCompletion t.sq with
    | some p => rfl
    | none => rfl
  | none => rfl

theorem completionRound_spec (hlive : q.Live) (d : DmaDataDirection)
    (hd : q.sqs d = none → E .nullDeref)
    (hE : ∀ v ∈ q.headVurb, v.dir = .fromDevice → q.sqs .fromDevice = none → E .nullDeref) :
    wp (bceVhciTransferQueueCompletionRound d) E (CompletionRoundEffect q d) q := by
  unfold bceVhciTransferQueueCompletionRound
  rw [wp_bind, wp_nextTransferCompletion]
  cases ht : q.sqs d with
  | none => exact hd ht
  | some t =>
    -- consuming a completion takes no queue away
    have hnone : ∀ d' sq, (q.consume d t sq).sqs d' = none → q.sqs d' = none := by
      intro d' sq h
      by_cases hd : d' = d
      · subst hd
        simp [BceVhciTransferQueue.consume] at h
      · simpa [BceVhciTransferQueue.consume, hd] using h
    dsimp only
    cases hnext : bceNextCompletion t.sq with
    | none => exact wp_pure.mpr (.idle ht hnext)
    | some p =>
      obtain ⟨c, sq⟩ := p
      dsimp only
      rw [wp_ite]
      refine ⟨fun ha => wp_pure.mpr (.skipped ht hnext (.inl ha)), fun ha => ?_⟩
      rw [wp_bind, wp_get]
      cases hl : q.urbList with
      | nil =>
        rw [show (q.consume d t sq).urbList = [] from hl]
        exact wp_pure.mpr (.skipped ht hnext (.inr hl))
      | cons u us =>
        obtain ⟨urb, v, hhead⟩ := hlive.head hl
        have hhcpriv : ((q.consume d t sq).urbs u).hcpriv = some urb := hhead.hcpriv
        have hvurb : (q.consume d t sq).vurbs urb = some v := hhead.vurb
        rw [show (q.consume d t sq).urbList = u :: us from hl]
        simp only [wp_bind, wp_readHcpriv, hhcpriv]
        refine wp_imp (urbTransferCompletion_spec hvurb
          fun hin h => hE v hhead.headVurb hin (hnone _ _ h)) fun r q₁ h => ?_
        rw [wp_notifyTransferSq]
        cases ht' : q₁.sqs d with
        | none =>
          -- the handler leaves the queues there are
          have hd := hnone d sq (h.adds.none_iff.mp ht')
          simp [ht] at hd
        | some t' => exact wp_pure.mpr (.completed ht hnext ha hhead h ht')

theorem resumeUrb_spec {u urb : Nat} {v : BceVhciUrb} (h : q.Has u urb v)
    (hE : (v.state = .initPaused ∧ v.dir = .fromDevice) ∨
      (v.state = .waitingForCompletion ∧ asyncReservation 0 q = 0) →
      q.sqs .fromDevice = none → E .nullDeref) :
    wp (bceVhciTransferQueueResumeUrb u) E (fun _ q' => ResumeEffect q urb v q') q := by
  unfold bceVhciTransferQueueResumeUrb
  simp only [wp_bind, wp_readHcpriv, h.hcpriv]
  exact urbResume_spec h.vurb hE

/-- The rounds of a delivery keep what each keeps. -/
theorem wp_deliverLoop {I : BceVhciTransferQueue → Prop}
    (h : ∀ q, I q → wp bceVhciTransferQueueDeliverPendingRound E (fun _ q' => I q') q)
    (rounds : Nat) {q : BceVhciTransferQueue} (hq : I q) :
    wp (bceVhciTransferQueueDeliverPendingLoop rounds) E (fun _ q' => I q') q := by
  induction rounds generalizing q with
  | zero => exact wp_pure.mpr hq
  | succ rounds ih =>
    unfold bceVhciTransferQueueDeliverPendingLoop
    rw [wp_bind]
    refine wp_imp (h q hq) fun more q' hq' => ?_
    rw [wp_ite]
    exact ⟨fun _ => ih hq', fun _ => wp_pure.mpr hq'⟩

/-- **Delivering keeps what its rounds keep.** -/
theorem wp_deliverPending {I : BceVhciTransferQueue → Prop}
    (h : ∀ q, I q → wp bceVhciTransferQueueDeliverPendingRound E (fun _ q' => I q') q)
    (hq : I q) : wp bceVhciTransferQueueDeliverPending E (fun _ q' => I q') q := by
  unfold bceVhciTransferQueueDeliverPending
  rw [wp_bind, wp_get]
  exact wp_deliverLoop h _ hq

/-- What the rounds and the delivery keep, the completion handler keeps. -/
theorem wp_completion {I : BceVhciTransferQueue → Prop} {d : DmaDataDirection}
    (hhang : E .hang) (hnull : E .nullDeref)
    (hround : ∀ q, I q → wp (bceVhciTransferQueueCompletionRound d) E (fun _ q' => I q') q)
    (hdeliver : ∀ q, I q → wp bceVhciTransferQueueDeliverPendingRound E (fun _ q' => I q') q)
    (hq : I q) : wp (bceVhciTransferQueueCompletion d) E (fun _ q' => I q') q := by
  have hloop : ∀ rounds q, I q →
      wp (bceVhciTransferQueueCompletionLoop d rounds) E (fun _ q' => I q') q := by
    intro rounds
    induction rounds with
    | zero => exact fun q _ => wp_throw.mpr hhang
    | succ rounds ih =>
      intro q hq
      unfold bceVhciTransferQueueCompletionLoop
      rw [wp_bind]
      refine wp_imp (hround q hq) fun more q' hq' => ?_
      rw [wp_ite]
      exact ⟨fun _ => ih q' hq', fun _ => wp_pure.mpr hq'⟩
  unfold bceVhciTransferQueueCompletion
  rw [wp_bind, wp_get]
  cases q.sqs d with
  | some t =>
    simp only [wp_bind]
    exact wp_imp (hloop _ q hq) fun _ q' hq' => wp_deliverPending hdeliver hq'
  | none => exact wp_throw.mpr hnull

end Rounds

section RoundsAdd

variable {q q' : BceVhciTransferQueue}

/-- The elements of the URB at the head of the list. -/
abbrev OfHead (q : BceVhciTransferQueue) : DmaDataDirection → TransferElement → Prop :=
  fun _ e => ∃ u v, q.Head u e.owner v

theorem UpdateEffect.headAdds {u urb : Nat} {v : BceVhciUrb} {msg : BceVhciMessage} {r : Int}
    (hhead : q.Head u urb v) (h : UpdateEffect q urb v msg r q') : Adds (OfHead q) q q' :=
  h.adds.mono fun _ _ he => ⟨u, v, he ▸ hhead⟩

theorem DeliverEffect.adds {more : Bool} (h : DeliverEffect q more q') : Adds (OfHead q) q q' := by
  cases h with
  | idle => exact .refl q
  | blocked hhead _ hup => exact hup.headAdds hhead
  | delivered hhead _ hup => exact (hup.headAdds hhead).trans (.of_sqs rfl)

theorem EventEffect.adds {msg : BceVhciMessage} (h : EventEffect q msg q') :
    Adds (OfHead q) q q' := by
  cases h with
  | dropped => exact .refl q
  | queued => exact .of_sqs rfl
  | deferred hhead _ hup => exact (hup.headAdds hhead).trans (.of_sqs rfl)
  | updated hhead _ hup => exact hup.headAdds hhead

end RoundsAdd

/-! ## Enqueueing and removing -/

/-- The zeroed `bce_vhci_urb` of a new enqueue of the URB at `u`. -/
def freshVurb (q : BceVhciTransferQueue) (u : Nat) : BceVhciUrb where
  urb := u
  dir := if (q.urbs u).dirIn then .fromDevice else .toDevice
  isControl := q.isControl
  state := .initPaused
  receivedStatus := 0
  sendOffset := 0
  receiveOffset := 0

namespace BceVhciTransferQueue

/-- The queue with a new enqueue of the URB at `u` linked. -/
def link (q : BceVhciTransferQueue) (u : Nat) : BceVhciTransferQueue :=
  { q with
    urbList := q.urbList ++ [u]
    urbs := Function.update q.urbs u
      { q.urbs u with hcpriv := some q.nextVurb, unlinked := 0, enqueue := q.nextVurb }
    vurbs := Function.update q.vurbs q.nextVurb (some (freshVurb q u))
    nextVurb := q.nextVurb + 1 }

/-- The queue once the URB at `u` is off the list, and its `bce_vhci_urb` at
`urb` freed, without being given back. -/
def discard (q : BceVhciTransferQueue) (urb u : Nat) : BceVhciTransferQueue :=
  { q with
    urbList := q.urbList.erase u
    urbs := Function.update q.urbs u { q.urbs u with hcpriv := none }
    vurbs := Function.update q.vurbs urb none }

end BceVhciTransferQueue

/-- The outcomes of `bce_vhci_urb_create` up to the delivery, by its status. -/
inductive CreateEffect (q : BceVhciTransferQueue) (u : Nat) :
    Int → BceVhciTransferQueue → Prop where
  /-- the USB core does not link the URB -/
  | refused {r : Int} : r ≠ 0 → CreateEffect q u r { q with
      urbs := Function.update q.urbs u { q.urbs u with hcpriv := none }
      vurbs := Function.update q.vurbs q.nextVurb none
      nextVurb := q.nextVurb + 1 }
  | active {q' : BceVhciTransferQueue} : q.active = true →
      InitEffect (q.link u) q.nextVurb (freshVurb q u) 0 q' → CreateEffect q u 0 q'
  /-- the URB cannot be started -/
  | failed {r : Int} {q' : BceVhciTransferQueue} : q.active = true → r ≠ 0 →
      InitEffect (q.link u) q.nextVurb (freshVurb q u) r q' →
      CreateEffect q u r (q'.discard q.nextVurb u)
  | paused : q.active = false → CreateEffect q u 0
      { q.link u with resetQueued := q.resetQueued || q.stalled }

section Create

variable {E : Fault → Prop} {q : BceVhciTransferQueue}

/-- Initialising a URB leaves its `bce_vhci_urb` allocated. -/
theorem InitEffect.allocated {q' : BceVhciTransferQueue} {urb : Nat} {v : BceVhciUrb} {r : Int}
    (hv : q.vurbs urb = some v) (h : InitEffect q urb v r q') : ∃ v', q'.vurbs urb = some v' := by
  cases h with
  | control => exact ⟨_, Function.update_self ..⟩
  | out => exact ⟨_, Function.update_self ..⟩
  | startedIn _ _ h =>
    obtain ⟨t, -, -, hq'⟩ := h.slot
    rw [hq']
    exact ⟨_, Function.update_self ..⟩
  | failed _ _ h => exact ⟨v, h.waited.vurbs ▸ hv⟩

/-- `bce_vhci_urb_create` up to the delivery, given what starting the URB does. -/
theorem wp_createBody (u : Nat) (linked : Int) {Q : Int → BceVhciTransferQueue → Prop}
    (hrefused : linked ≠ 0 → Q linked { q with
      urbs := Function.update q.urbs u { q.urbs u with hcpriv := none }
      vurbs := Function.update q.vurbs q.nextVurb none
      nextVurb := q.nextVurb + 1 })
    (hinit : linked = 0 → q.active = true → wp (bceVhciUrbInit q.nextVurb) E (fun r q' =>
      (r = 0 → Q 0 q') ∧ (r ≠ 0 → (∃ v', q'.vurbs q.nextVurb = some v') ∧
        Q r (q'.discard q.nextVurb u))) (q.link u))
    (hpaused : linked = 0 → q.active = false →
      Q 0 { q.link u with resetQueued := q.resetQueued || q.stalled }) :
    wp (bceVhciUrbCreateBody u linked) E Q q := by
  unfold bceVhciUrbCreateBody
  rw [wp_bind, wp_get]
  dsimp only
  rw [wp_bind, wp_set, wp_ite]
  refine ⟨fun hl => ?_, fun hl => ?_⟩
  · -- `usb_hcd_link_urb_to_ep` refused the URB
    rw [wp_bind, wp_modify, wp_bind, wp_kfreeVurb]
    simp only [BceVhciTransferQueue.setUrb_vurbs, BceVhciTransferQueue.setVurb_vurbs,
      Function.update_self, wp_pure]
    have h := hrefused hl
    simpa [BceVhciTransferQueue.setUrb, BceVhciTransferQueue.setVurb] using h
  · rw [wp_bind, wp_modify]
    have hfresh : (q.link u).vurbs q.nextVurb = some (freshVurb q u) := Function.update_self ..
    refine Eq.mpr (@congrArg _ _ _ (q.link u) (wp _ E Q) ?_) ?_
    · simp [BceVhciTransferQueue.link, BceVhciTransferQueue.setUrb,
        BceVhciTransferQueue.setVurb, freshVurb]
    rw [wp_ite]
    refine ⟨fun ha => ?_, fun ha => ?_⟩
    · rw [wp_bind]
      refine wp_imp (hinit (not_not.mp hl) ha) fun r q' h => ?_
      rw [wp_ite]
      refine ⟨fun hr => ?_, fun hr => ?_⟩
      · -- it could not be started: the URB is unlinked again
        obtain ⟨⟨v', hv'⟩, hq⟩ := h.2 hr
        rw [wp_bind, wp_usbHcdUnlinkUrbFromEp, wp_bind, wp_modify, wp_bind, wp_kfreeVurb]
        simp only [BceVhciTransferQueue.setUrb_vurbs, hv', wp_pure]
        exact hq
      · obtain rfl : r = 0 := not_not.mp hr
        exact wp_pure.mpr (h.1 rfl)
    · -- the queue is paused, and a stalled one asks for a reset
      have hreset := hpaused (not_not.mp hl) (by simpa using ha)
      rw [wp_ite]
      refine ⟨fun hst => ?_, fun hst => ?_⟩
      · have hst' : q.stalled = true := hst
        rw [hst', Bool.or_true] at hreset
        rw [wp_bind, wp_requestReset, wp_bind, wp_modifyVurb]
        simp only [hfresh, wp_bind, wp_pure]
        rw [if_neg (not_not_intro rfl), wp_pure]
        refine Eq.mpr (congrArg (Q 0) ?_) hreset
        simp [BceVhciTransferQueue.link, BceVhciTransferQueue.setVurb, freshVurb]
      · have hst' : q.stalled = false := by simpa using hst
        rw [hst', Bool.or_false] at hreset
        rw [wp_bind, wp_modifyVurb]
        simp only [hfresh, wp_bind, wp_pure]
        rw [if_neg (not_not_intro rfl), wp_pure]
        refine Eq.mpr (congrArg (Q 0) ?_) hreset
        simp [BceVhciTransferQueue.link, BceVhciTransferQueue.setVurb, freshVurb]

theorem createBody_spec (u : Nat)
    (hE : (q.urbs u).dirIn = true → q.sqs .fromDevice = none → E .nullDeref) (linked : Int) :
    wp (bceVhciUrbCreateBody u linked) E (CreateEffect q u) q := by
  have hfresh : (q.link u).vurbs q.nextVurb = some (freshVurb q u) := Function.update_self ..
  have hdir : (freshVurb q u).dir = .fromDevice → (q.urbs u).dirIn = true := by
    simp [freshVurb]
  refine wp_createBody u linked .refused (fun _ ha => ?_) (fun _ => .paused)
  refine wp_imp (urbInit_spec hfresh fun hd => hE (hdir hd)) fun r q' h => ⟨?_, fun hr => ?_⟩
  · rintro rfl
    exact .active ha h
  · exact ⟨h.allocated hfresh, .failed ha hr h⟩

end Create

theorem CreateEffect.adds {q q' : BceVhciTransferQueue} {u : Nat} {r : Int}
    (h : CreateEffect q u r q') : Adds (OwnedBy q.nextVurb) q q' := by
  cases h with
  | refused => exact .of_sqs rfl
  | active _ h => exact (Adds.of_sqs rfl).trans h.adds
  | failed _ _ h => exact ((Adds.of_sqs rfl).trans h.adds).trans (.of_sqs rfl)
  | paused => exact .of_sqs rfl

/-- The outcomes of `bce_vhci_urb_remove` up to the delivery. -/
inductive RemoveEffect (q : BceVhciTransferQueue) (u : Nat) (status : Int) :
    Int × Option Nat → BceVhciTransferQueue → Prop where
  | refused {r : Int × Option Nat} : r.1 ≠ 0 → RemoveEffect q u status r q
  | removed : u ∈ q.urbList →
      RemoveEffect q u status (0, (q.urbs u).hcpriv)
        { q.setUrb u { q.urbs u with unlinked := status } with urbList := q.urbList.erase u }

theorem removeBody_spec {E : Fault → Prop} (q : BceVhciTransferQueue) (u : Nat) (status : Int) :
    wp (bceVhciUrbRemoveBody u status) E (RemoveEffect q u status) q := by
  unfold bceVhciUrbRemoveBody usbHcdCheckUnlinkUrb
  rw [wp_bind, wp_bind, wp_get, wp_ite]
  refine ⟨fun hm => ?_, fun hm => ?_⟩
  · rw [wp_pure, if_pos (by decide)]
    exact wp_pure.mpr (.refused (by decide))
  · rw [wp_ite]
    refine ⟨fun hb => ?_, fun hb => ?_⟩
    · rw [wp_pure, if_pos (by decide)]
      exact wp_pure.mpr (.refused (by decide))
    · rw [wp_bind, wp_set, wp_pure, if_neg (not_not_intro rfl), wp_bind, wp_get, wp_bind,
        wp_usbHcdUnlinkUrbFromEp, wp_pure]
      have h : RemoveEffect q u status _ _ := .removed (not_not.mp hm)
      simpa using h

/-- The check of `bce_vhci_urb_request_cancel`, with no status, changes nothing and
lets a linked URB pass only. -/
theorem checkUnlink_spec {E : Fault → Prop} (q : BceVhciTransferQueue) (u : Nat) :
    wp (usbHcdCheckUnlinkUrb u 0) E (fun r q' => q' = q ∧ (r = 0 → u ∈ q.urbList)) q := by
  unfold usbHcdCheckUnlinkUrb
  rw [wp_bind, wp_get, wp_ite]
  refine ⟨fun _ => wp_pure.mpr ⟨rfl, fun h => absurd h (by decide)⟩, fun hm => ?_⟩
  rw [wp_ite]
  refine ⟨fun _ => wp_pure.mpr ⟨rfl, fun h => absurd h (by decide)⟩, fun hb => ?_⟩
  rw [wp_bind, wp_set, wp_pure]
  have hu : { q.urbs u with unlinked := 0 } = q.urbs u := by
    rw [← not_not.mp hb]
  refine ⟨?_, fun _ => not_not.mp hm⟩
  rw [hu, BceVhciTransferQueue.setUrb, Function.update_eq_self]

/-! ## Commands -/

/-- The queue with the state the reply reports. -/
def BceVhciTransferQueue.replied (q : BceVhciTransferQueue) (reply : CommandOutcome) :
    BceVhciTransferQueue :=
  { q with state := reply.takeState q.state }

/-- The state of a reply that reports success is taken. -/
theorem CommandOutcome.takeState_zero (reply : CommandOutcome) (h : reply.status = 0)
    (retState : Nat) : reply.takeState retState = bceVhciEndpointState reply.param2 := by
  unfold CommandOutcome.takeState
  rw [h]
  exact if_pos (by decide)

/-- A reply sets `q->state` at most. -/
theorem BceVhciTransferQueue.replied_eq (q : BceVhciTransferQueue) (reply : CommandOutcome) :
    ∃ state, q.replied reply = { q with state := state } :=
  ⟨_, rfl⟩

section Commands

variable {E : Fault → Prop} {q : BceVhciTransferQueue} {reply : CommandOutcome}

theorem wp_setState {Q : Int → BceVhciTransferQueue → Prop} :
    wp (bceVhciCmdEndpointSetState reply) E Q q ↔ Q reply.status (q.replied reply) := by
  unfold bceVhciCmdEndpointSetState BceVhciTransferQueue.replied
  rw [wp_bind, wp_modify, wp_pure]

theorem wp_flush {d : DmaDataDirection} {aborted : Nat} {Q : PUnit → BceVhciTransferQueue → Prop} :
    wp (bceCmdFlushMemoryQueue d aborted) E Q q ↔
      match q.sqs d with
      | some t => Q ⟨⟩ (q.setSq d (t.abort aborted))
      | none => Q ⟨⟩ q := by
  unfold bceCmdFlushMemoryQueue
  rw [wp_modify]
  cases q.sqs d with
  | some t => rfl
  | none => rfl

/-- A command that succeeds left the queue in the state asked for. -/
theorem pauseCommand_spec :
    wp (bceVhciTransferQueuePauseCommand reply) E
      (fun r q' => q' = q.replied reply ∧ (r = 0 → q'.state = BCE_VHCI_ENDPOINT_PAUSED)) q := by
  unfold bceVhciTransferQueuePauseCommand
  rw [wp_bind, wp_setState, wp_ite]
  refine ⟨fun h => wp_pure.mpr ⟨rfl, fun h' => absurd h' h⟩, fun _ => ?_⟩
  rw [wp_bind, wp_get, wp_ite]
  exact ⟨fun _ => wp_pure.mpr ⟨rfl, fun h' => absurd h' (by decide)⟩,
    fun h => wp_pure.mpr ⟨rfl, fun _ => not_not.mp h⟩⟩

theorem resumeCommand_spec :
    wp (bceVhciTransferQueueResumeCommand reply) E
      (fun r q' => q' = q.replied reply ∧ (r = 0 → q'.state = BCE_VHCI_ENDPOINT_ACTIVE)) q := by
  unfold bceVhciTransferQueueResumeCommand
  rw [wp_bind, wp_setState, wp_ite]
  refine ⟨fun h => wp_pure.mpr ⟨rfl, fun h' => absurd h' h⟩, fun _ => ?_⟩
  rw [wp_bind, wp_get, wp_ite]
  exact ⟨fun _ => wp_pure.mpr ⟨rfl, fun h' => absurd h' (by decide)⟩,
    fun h => wp_pure.mpr ⟨rfl, fun _ => not_not.mp h⟩⟩

/-- Nothing is delivered to a head that does not accept it. -/
theorem DeliverEffect.of_idle {q' : BceVhciTransferQueue} {more : Bool} (h : DeliverIdle q)
    (heff : DeliverEffect q more q') : q' = q := by
  cases heff with
  | idle => rfl
  | blocked _ _ hup =>
    cases hup with
    | deferred => rfl
    | refused hr => exact absurd rfl hr
  | @delivered u urb v msg msgs r q' hhead hevq hup hr =>
    have hmsg : msg ∈ q.evq.head? := by simp [hevq]
    obtain ⟨hstatus, hrequest⟩ := h v hhead.headVurb msg hmsg
    cases hup with
    | deferred => exact absurd rfl hr
    | refused _ hacc hmsg => exact absurd ⟨hacc, hmsg⟩ hrequest
    | setup hc hs hmsg => exact absurd ⟨.inr ⟨hc, hs⟩, hmsg⟩ hrequest
    | out hs hmsg => exact absurd ⟨.inl hs, hmsg⟩ hrequest
    | outSettled _ hs hmsg => exact absurd ⟨.inl hs, hmsg⟩ hrequest
    | status hc hmsg => exact absurd ⟨hc, hmsg⟩ hstatus
    | settled hc hmsg => exact absurd ⟨hc, hmsg⟩ hstatus

/-- The resume loop visits each URB of its list. -/
theorem wp_resumeLoop {I : List Nat → BceVhciTransferQueue → Prop}
    (hround : ∀ u us q, I (u :: us) q →
      wp (bceVhciTransferQueueResumeUrb u) E (fun _ q' => I us q') q)
    (us : List Nat) {q : BceVhciTransferQueue} (hq : I us q) :
    wp (bceVhciTransferQueueResumeLoop us) E (fun _ q' => I [] q') q := by
  induction us generalizing q with
  | nil => exact wp_pure.mpr hq
  | cons u us ih =>
    unfold bceVhciTransferQueueResumeLoop
    rw [wp_bind]
    exact wp_imp (hround u us q hq) fun _ q' hq' => ih hq'

/-- **Resuming.** The loop starts with the URBs linked at its beginning, visits
each, and delivers. -/
theorem wp_resume {I : List Nat → BceVhciTransferQueue → Prop} {J : BceVhciTransferQueue → Prop}
    (hstart : ∀ state, I q.urbList { q with state := state, active := true })
    (hround : ∀ u us q, I (u :: us) q →
      wp (bceVhciTransferQueueResumeUrb u) E (fun _ q' => I us q') q)
    (hdeliver : ∀ q, I [] q → wp bceVhciTransferQueueDeliverPending E (fun _ q' => J q') q) :
    wp (bceVhciTransferQueueResume reply) E (fun r q' => r = 0 → J q') q := by
  unfold bceVhciTransferQueueResume
  rw [wp_bind]
  refine wp_imp resumeCommand_spec fun status q₁ hq₁ => ?_
  obtain ⟨state, hstate⟩ := q.replied_eq reply
  rw [hq₁.1, hstate, wp_ite]
  refine ⟨fun hne => wp_pure.mpr fun h => absurd h hne, fun _ => ?_⟩
  unfold bceVhciTransferQueueActivate
  rw [wp_bind, wp_bind, wp_modify, wp_bind, wp_get, wp_pure, wp_bind]
  refine wp_imp (wp_resumeLoop hround _ (hstart state)) fun _ q₂ hq₂ => ?_
  rw [wp_bind]
  exact wp_imp (hdeliver q₂ hq₂) fun _ q₃ hq₃ => wp_pure.mpr fun _ => hq₃

end Commands

end BceDriver
