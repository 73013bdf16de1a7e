import BceDriver.Vhci.Directions
import BceDriver.Vhci.Slots

/-!
# The data phase of a host-to-device URB

The firmware asks for the data of a URB in pieces: a transfer request for each,
and a completion once the piece is sent.

- `requests`: the requests of a list, each followed by the completion of what was
  submitted for it.
- `SentFor`: what the requests up to some point should have brought about.
- `AfterData`: the invariant of everything that comes after the data phase.

A URB that was sent in part stays in `WAITING_FOR_COMPLETION`, where it takes no
further request, so the first one has to ask for everything.
-/

namespace BceDriver

open FaultState

/-! ## Requests and completions -/

/-- The device sends the oldest element it has of `sq_out` in full, and the
completion is accepted: whether there was one. -/
def deviceSends : TransferM Bool := fun q =>
  match q.sqs .toDevice with
  | some t =>
    match t.inflight with
    | e :: _ =>
      match (Endpoint.deviceComplete t ⟨BCE_COMPLETION_SUCCESS, e.length, 0⟩).bind
          Endpoint.acceptCompletion with
      | some t' => .ok (true, q.setSq .toDevice t')
      | none => .ok (false, q)
    | [] => .ok (false, q)
  | none => .ok (false, q)

/-- The completion of what was submitted, if anything was. -/
def sendAndComplete : TransferM PUnit := do
  if ← deviceSends then
    bceVhciTransferQueueCompletion .toDevice
  else
    pure ⟨⟩

/-- A transfer request, and the completion of what was submitted for it. -/
def requestAndCompletion (msg : BceVhciMessage) : TransferM PUnit := do
  bceVhciTransferQueueEvent msg
  sendAndComplete

def requests : List BceVhciMessage → TransferM PUnit
  | [] => pure ⟨⟩
  | msg :: msgs => do
    requestAndCompletion msg
    requests msgs

/-- The number of bytes asked for. -/
def requested (msgs : List BceVhciMessage) : Nat := (msgs.map BceVhciMessage.param2).sum

/-! ## What they should bring about -/

/-- Consecutive windows from an address on, with their length in all. -/
inductive Windows : Nat → List TransferElement → Nat → Prop where
  | nil (addr : Nat) : Windows addr [] 0
  | cons {addr n : Nat} {e : TransferElement} {es : List TransferElement} : e.addr = addr →
      Windows (addr + e.length) es n → Windows addr (e :: es) (e.length + n)

/-- The data elements of the URB on `sq_out`, from the first on. -/
def outElements (q : BceVhciTransferQueue) (urb : Nat) : List TransferElement :=
  match q.sqs .toDevice with
  | some t => t.submitted.filter fun e => e.owner = urb ∧ e.kind = .data
  | none => []

/-- The URB waits for no more data: it is done, or waits for its status. -/
def DataOver (q : BceVhciTransferQueue) (urb : Nat) : Prop :=
  ∀ v ∈ q.vurbs urb, v.state = .dataTransferComplete

/-- What requests for `n` bytes in all bring about, from `q` on, for the URB at `u`. -/
structure SentFor (q : BceVhciTransferQueue) (u urb n : Nat) (q' : BceVhciTransferQueue) :
    Prop where
  windows : Windows (q.urbs u).transferDma (outElements q' urb)
    (min n (q.urbs u).transferBufferLength)
  deferred : n < (q.urbs u).transferBufferLength → q'.evq = []
  ended : DataOver q' urb ↔ (q.urbs u).transferBufferLength ≤ n
  length : DataOver q' urb → (q'.urbs u).actualLength = (q.urbs u).transferBufferLength

/-- After each of the requests the data sent is what was asked for so far. -/
def SentInPieces (q : BceVhciTransferQueue) (u urb : Nat) (msgs : List BceVhciMessage) : Prop :=
  ∀ asked, asked <+: msgs →
    wp (requests asked) (fun _ => False) (fun _ q' => SentFor q u urb (requested asked) q') q

/-- Nobody holds `urb_lock`, and the data phase of the host-to-device URB at the
head of the active queue begins. -/
structure DataPhase (s : Endpoint) (u urb : Nat) (v : BceVhciUrb) : Prop where
  lock : s.lock = []
  active : s.q.active = true
  head : s.q.Head u urb v
  dir : v.dir = .toDevice
  state : v.state = .waitingForTransferRequest
  length : 0 < (s.q.urbs u).transferBufferLength ∧ (s.q.urbs u).transferBufferLength < 2 ^ 32
  unsent : v.sendOffset = 0 ∧ v.receiveOffset = 0 ∧ outElements s.q urb = [] ∧
    (s.q.urbs u).actualLength = 0
  /-- no request was deferred -/
  evq : s.q.evq = []
  /-- `sq_out` has a free slot, and the device nothing of it -/
  slots : ∃ t, s.q.sqs .toDevice = some t ∧ 0 < t.sq.availableCommands ∧ t.inflight = [] ∧
    t.posted = [] ∧ t.pending = []

/-- The URB received an error status before its data phase began. -/
def BceVhciUrb.Failed (v : BceVhciUrb) : Prop :=
  v.isControl = true ∧ v.receivedStatus ≠ 0 ∧ v.receivedStatus ≠ BCE_VHCI_SUCCESS


/-! ## After the data phase -/

section Frame

variable {q q' : BceVhciTransferQueue} {urb urb' u : Nat} {v : BceVhciUrb}

theorem complete_urbs_of_ne (hu : u ≠ v.urb) (status : Int) :
    (q.complete urb v.urb status).urbs u = q.urbs u := by
  simp [BceVhciTransferQueue.complete, hu]

theorem settle_outElements (q : BceVhciTransferQueue) (urb u receivedStatus urb' : Nat) :
    outElements (q.settle urb u receivedStatus) urb' = outElements q urb' := by
  unfold outElements
  rw [settle_sqs]

theorem settle_urbs_of_ne (hu : u ≠ v.urb) (receivedStatus : Nat) :
    (q.settle urb v.urb receivedStatus).urbs u = q.urbs u := by
  unfold BceVhciTransferQueue.settle
  split
  · exact @complete_urbs_of_ne q.stall urb u v hu (-EPIPE)
  · exact complete_urbs_of_ne hu 0

/-- However a control URB ends, the length noted in it stays. -/
theorem settle_actualLength (q : BceVhciTransferQueue) (urb u receivedStatus u' : Nat) :
    ((q.settle urb u receivedStatus).urbs u').actualLength = (q.urbs u').actualLength := by
  have hcomplete : ∀ (q : BceVhciTransferQueue) status,
      ((q.complete urb u status).urbs u').actualLength = (q.urbs u').actualLength := by
    intro q status
    by_cases hu : u' = u
    · subst hu
      simp [BceVhciTransferQueue.complete]
    · simp [BceVhciTransferQueue.complete, hu]
  unfold BceVhciTransferQueue.settle
  split
  · exact hcomplete q.stall (-EPIPE)
  · exact hcomplete q 0

theorem StartedIn.urbs {timeout : Nat} (h : StartedIn timeout q urb v q') : q'.urbs = q.urbs := by
  obtain ⟨t, -, -, hq'⟩ := h.slot
  rw [hq']
  rfl

/-- A message for one URB leaves the others alone. -/
theorem UpdateEffect.urbs_of_ne {msg : BceVhciMessage} {r : Int}
    (h : UpdateEffect q urb v msg r q') (hu : u ≠ v.urb) : q'.urbs u = q.urbs u := by
  cases h with
  | outSettled => exact settle_urbs_of_ne hu v.receivedStatus
  | settled => exact settle_urbs_of_ne hu msg.status
  | _ => rfl

/-- A completion for one URB leaves the others alone. -/
theorem CompletionEffect.urbs_of_ne {c : BceSqCompletionData}
    (h : CompletionEffect q urb v c q') (hu : u ≠ v.urb) : q'.urbs u = q.urbs u := by
  have hlength : ∀ n, (q.setActualLength v.urb n).urbs u = q.urbs u := by
    simp [BceVhciTransferQueue.setActualLength, hu]
  cases h with
  | dataDone => exact hlength _
  | done => exact (complete_urbs_of_ne hu 0).trans (hlength _)
  | doneSettled => exact (settle_urbs_of_ne hu v.receivedStatus).trans (hlength _)
  | settled => exact settle_urbs_of_ne hu v.receivedStatus
  | startedIn _ _ _ h => rw [h.urbs]
  | startFailed _ _ _ h =>
    rw [complete_urbs_of_ne hu, h.waited.frame]
  | _ => rfl

theorem outElements_setSq {t t' : TransferSq} (ht : q.sqs .toDevice = some t)
    (hsub : t'.submitted = t.submitted) (urb : Nat) :
    outElements (q.setSq .toDevice t') urb = outElements q urb := by
  simp [outElements, ht, hsub]

/-- What is submitted for one URB is not submitted for another. -/
theorem outElements_adds (h : Adds (OwnedBy urb') q q') (hne : urb' ≠ urb) :
    outElements q' urb = outElements q urb := by
  unfold outElements
  cases ht : q.sqs .toDevice with
  | none => rw [h.none_iff.mpr ht]
  | some t =>
    obtain ⟨t', es, ht', hadd, hes⟩ := h.some ht
    have hnone : es.filter (fun e => e.owner = urb ∧ e.kind = .data) = [] := by
      refine List.filter_eq_nil_iff.mpr fun e he => ?_
      simp [(hes e he).trans_ne hne]
    rw [ht']
    show t'.submitted.filter _ = _
    rw [hadd.submitted, List.filter_append, hnone, List.append_nil]

end Frame

/-- What a handler needs of the queue: the linked URBs own their `bce_vhci_urb`s,
the submission queues they can use are there, and the slots of `sq_out` are
accounted for. -/
structure Sound (q : BceVhciTransferQueue) : Prop where
  live : q.Live
  nodup : q.urbList.Nodup
  fits : EveryLinked UrbFits q
  slots : ∃ t lost, q.sqs .toDevice = some t ∧ t.Lost lost

namespace Sound

variable {q q' : BceVhciTransferQueue}

theorem setEvq (h : Sound q) (evq : List BceVhciMessage) : Sound { q with evq := evq } :=
  ⟨(SameHeap.setEvq q evq).live h.live, h.nodup, h.fits.of_eq rfl rfl rfl rfl, h.slots⟩

/-- Only what the device has of `sq_out`, and its slots, changed. -/
theorem setSq (h : Sound q) {t t' : TransferSq} {lost : Nat} (ht : q.sqs .toDevice = some t)
    (hlost : t'.Lost lost) : Sound (q.setSq .toDevice t') where
  live := (SameHeap.setSq q _ _).live h.live
  nodup := h.nodup
  fits := h.fits.of_none rfl rfl rfl fun _ => setSq_none ht
  slots := ⟨t', lost, by simp, hlost⟩

/-- A handler worked on the URB at the head of the list. -/
theorem handler (h : Sound q) {P : DmaDataDirection → TransferElement → Prop} {u urb : Nat}
    {v : BceVhciUrb} (hhead : q.Head u urb v) (hheap : SameHeap q q' ∨ Ended q urb v.urb q')
    (hadds : Adds P q q')
    (hkind : LeavesUrb (SameKind v) urb q q') : Sound q' := by
  obtain ⟨hlive, hnodup⟩ := live_of_heap hhead.toHas hheap h.live h.nodup
  obtain ⟨t, lost, ht, hlost⟩ := h.slots
  obtain ⟨t', es, ht', hadd, -⟩ := hadds.some ht
  exact ⟨hlive, hnodup, h.fits.fits h.nodup (Head.mem hhead) hhead.toHas hheap
    (fun d => hadds.none_iff) hkind, t', lost, ht', hlost.added hadd⟩

theorem update (h : Sound q) {u urb : Nat} {v : BceVhciUrb} {msg : BceVhciMessage} {r : Int}
    (hhead : q.Head u urb v) (heff : UpdateEffect q urb v msg r q') : Sound q' :=
  h.handler hhead (heff.heap hhead.vurb) heff.adds (heff.sameKind hhead.vurb)

theorem completion (h : Sound q) {u urb : Nat} {v : BceVhciUrb} {c : BceSqCompletionData}
    (hhead : q.Head u urb v) (heff : CompletionEffect q urb v c q') : Sound q' :=
  h.handler hhead (heff.heap hhead.vurb) heff.adds (heff.sameKind hhead.vurb)

/-- The head of the list goes on. -/
theorem setVurb (h : Sound q) {u urb : Nat} {v v' : BceVhciUrb} (hhead : q.Head u urb v)
    (hurb : v'.urb = v.urb) (hkind : SameKind v v') : Sound (q.setVurb urb v') :=
  h.handler (P := fun _ _ => True) hhead (.inl (.setVurb hhead.vurb hurb)) (.of_sqs rfl)
    (.stored rfl hkind)

/-- The length of a transfer is noted in its URB. -/
theorem setActualLength (h : Sound q) {u urb : Nat} {v : BceVhciUrb} (hhead : q.Head u urb v)
    (n : Nat) : Sound (q.setActualLength u n) :=
  h.handler (P := fun _ _ => True) hhead (.inl (.of_setActualLength q u n)) (.of_sqs rfl)
    (.kept hhead.vurb rfl (.refl v))

/-- A control URB ends. -/
theorem settle (h : Sound q) {u urb : Nat} {v : BceVhciUrb} (hhead : q.Head u urb v)
    (receivedStatus : Nat) : Sound (q.settle urb u receivedStatus) :=
  h.handler (P := fun _ _ => True) hhead (.inr (hhead.urb_eq ▸ .settle q urb _ receivedStatus))
    (.of_sqs (settle_sqs ..)) (.freed (settle_vurbs ..))

/-- The queues the URB at the head can need are there. -/
theorem headFits (h : Sound q) {v : BceVhciUrb} (hv : v ∈ q.headVurb) :
    ∃ urb, UrbFits q.sqs urb v := by
  obtain ⟨u, urb, hmem, hhas⟩ := Live.of_headVurb h.live hv
  exact ⟨urb, h.fits u hmem urb v hhas⟩

section Rounds

variable {E : Fault → Prop}

theorem deliverRound (h : Sound q) :
    wp bceVhciTransferQueueDeliverPendingRound E (DeliverEffect q) q := by
  refine deliverRound_spec h.live fun v hv _ _ hacc _ hnone => ?_
  obtain ⟨urb, hfit⟩ := h.headFits hv
  exact absurd hnone (hfit.out hacc)

theorem eventBody (h : Sound q) (msg : BceVhciMessage) :
    wp (bceVhciTransferQueueEventBody msg) E (fun _ q' => EventEffect q msg q') q := by
  refine eventBody_spec h.live msg fun v hv hacc hnone => ?_
  obtain ⟨urb, hfit⟩ := h.headFits hv
  exact absurd hnone (hfit.out hacc)

theorem completionRound (h : Sound q) :
    wp (bceVhciTransferQueueCompletionRound .toDevice) E (CompletionRoundEffect q .toDevice) q := by
  obtain ⟨t, lost, ht, hlost⟩ := h.slots
  refine completionRound_spec h.live .toDevice (fun hnone => ?_) fun v hv hdir hnone => ?_
  · simp [ht] at hnone
  · obtain ⟨urb, hfit⟩ := h.headFits hv
    exact absurd hnone (hdir ▸ hfit.own)

end Rounds

end Sound

/-- The URB at `u` needs no more data: its elements on `sq_out` are `es`, the length
noted in it is `n`, and it is off the list, or waits there for its status. -/
structure AfterData (u urb : Nat) (es : List TransferElement) (n : Nat)
    (q : BceVhciTransferQueue) : Prop where
  sound : Sound q
  out : outElements q urb = es
  length : (q.urbs u).actualLength = n
  place : (q.vurbs urb = none ∧ u ∉ q.urbList) ∨
    ∃ v, q.Head u urb v ∧ v.state = .dataTransferComplete

namespace AfterData

variable {q q' : BceVhciTransferQueue} {u urb n : Nat} {es : List TransferElement}

theorem setEvq (h : AfterData u urb es n q) (evq : List BceVhciMessage) :
    AfterData u urb es n { q with evq := evq } where
  sound := h.sound.setEvq evq
  out := h.out
  length := h.length
  place := h.place.imp id fun ⟨v, hhead, hstate⟩ =>
    ⟨v, hhead.of_eq rfl rfl rfl, hstate⟩

theorem setSq (h : AfterData u urb es n q) {t t' : TransferSq} {lost : Nat}
    (ht : q.sqs .toDevice = some t) (hsub : t'.submitted = t.submitted) (hlost : t'.Lost lost) :
    AfterData u urb es n (q.setSq .toDevice t') where
  sound := h.sound.setSq ht hlost
  out := (outElements_setSq ht hsub urb).trans h.out
  length := h.length
  place := h.place.imp id fun ⟨v, hhead, hstate⟩ =>
    ⟨v, hhead.of_eq rfl rfl rfl, hstate⟩

/-- The URB at the head of the list is another one, or this one with its data phase over. -/
theorem head_cases (h : AfterData u urb es n q) {u' urb' : Nat} {v' : BceVhciUrb}
    (hhead : q.Head u' urb' v') :
    (u ≠ u' ∧ urb' ≠ urb ∧ q.vurbs urb = none ∧ u ∉ q.urbList) ∨
      (u' = u ∧ urb' = urb ∧ v'.state = .dataTransferComplete) := by
  rcases h.place with ⟨hfreed, hoff⟩ | ⟨v, hhead₀, hstate⟩
  · refine .inl ⟨?_, ?_, hfreed, hoff⟩
    · rintro rfl
      exact hoff (Head.mem hhead)
    · rintro rfl
      exact Option.some_ne_none _ (hhead.vurb.symm.trans hfreed)
  · obtain ⟨rfl, rfl, rfl⟩ := hhead₀.unique hhead
    exact .inr ⟨rfl, rfl, hstate⟩

/-- A handler that worked on another URB. -/
theorem of_other (h : AfterData u urb es n q) (hsound : Sound q') {u' urb' : Nat}
    {v' : BceVhciUrb} {x : Option BceVhciUrb} (hhead : q.Head u' urb' v')
    (hheap : SameHeap q q' ∨ Ended q urb' v'.urb q') (hadds : Adds (OwnedBy urb') q q')
    (hvurbs : q'.vurbs = Function.update q.vurbs urb' x)
    (hurbs : u ≠ v'.urb → q'.urbs u = q.urbs u)
    (hne : u ≠ u' ∧ urb' ≠ urb ∧ q.vurbs urb = none ∧ u ∉ q.urbList) :
    AfterData u urb es n q' := by
  obtain ⟨hu, hurb, hfreed, hoff⟩ := hne
  refine ⟨hsound, (outElements_adds hadds hurb).trans h.out, ?_, .inl ⟨?_, fun hmem => hoff ?_⟩⟩
  · rw [hurbs (hhead.urb_eq ▸ hu)]
    exact h.length
  · rw [hvurbs, Function.update_of_ne hurb.symm]
    exact hfreed
  · rcases hheap with hheap | hheap
    · exact hheap.urbList ▸ hmem
    · exact List.mem_of_mem_erase (hheap.urbList ▸ hmem)

/-- The URB ended with its status. -/
theorem of_settle (h : Sound q) {v : BceVhciUrb} (hhead : q.Head u urb v)
    (hout : outElements q urb = es) (hlength : (q.urbs u).actualLength = n)
    (receivedStatus : Nat) : AfterData u urb es n (q.settle urb u receivedStatus) := by
  have hended := Ended.settle q urb u receivedStatus
  refine ⟨h.settle hhead receivedStatus, (settle_outElements ..).trans hout,
    (settle_actualLength ..).trans hlength, .inl ⟨hended.freed, ?_⟩⟩
  rw [hended.urbList]
  exact h.nodup.not_mem_erase

/-- A message for the head of the list. -/
theorem update (h : AfterData u urb es n q) {u' urb' : Nat} {v' : BceVhciUrb}
    {msg : BceVhciMessage} {r : Int} (hhead : q.Head u' urb' v')
    (heff : UpdateEffect q urb' v' msg r q') : AfterData u urb es n q' := by
  have hsound := h.sound.update hhead heff
  rcases h.head_cases hhead with hne | ⟨rfl, rfl, hstate⟩
  · obtain ⟨x, hvurbs, -⟩ := heff.sameKind hhead.vurb
    exact h.of_other hsound hhead (heff.heap hhead.vurb) heff.adds hvurbs heff.urbs_of_ne hne
  · cases heff with
    | deferred => exact h
    | refused => exact h
    | setup _ hs => simp [hstate] at hs
    | out hs => simp [hstate] at hs
    | outSettled _ hs => simp [hstate] at hs
    | status =>
      refine ⟨hsound, h.out, h.length, .inr ⟨{ v' with receivedStatus := msg.status }, ?_, hstate⟩⟩
      exact ⟨⟨hhead.hcpriv, Function.update_self .., hhead.urb_eq⟩, hhead.first⟩
    | settled =>
      rw [hhead.urb_eq]
      exact .of_settle h.sound hhead h.out h.length msg.status

/-- A completion for the head of the list. -/
theorem completion (h : AfterData u urb es n q) {u' urb' : Nat} {v' : BceVhciUrb}
    {c : BceSqCompletionData} (hhead : q.Head u' urb' v')
    (heff : CompletionEffect q urb' v' c q') : AfterData u urb es n q' := by
  have hsound := h.sound.completion hhead heff
  rcases h.head_cases hhead with hne | ⟨rfl, rfl, hstate⟩
  · obtain ⟨x, hvurbs, -⟩ := heff.sameKind hhead.vurb
    exact h.of_other hsound hhead (heff.heap hhead.vurb) heff.adds hvurbs heff.urbs_of_ne hne
  · cases heff with
    | ignored => exact h
    | settled _ hs => simp [hstate] at hs
    | progress hs => simp [hstate] at hs
    | dataDone _ hs => simp [hstate] at hs
    | done _ hs => simp [hstate] at hs
    | doneSettled _ hs => simp [hstate] at hs
    | startedIn _ hs => simp [hstate] at hs
    | startFailed _ hs => simp [hstate] at hs
    | startedOut _ hs => simp [hstate] at hs

theorem deliverRound (h : AfterData u urb es n q) {more : Bool} (heff : DeliverEffect q more q') :
    AfterData u urb es n q' := by
  cases heff with
  | idle => exact h
  | blocked hhead _ hup => exact h.update hhead hup
  | delivered hhead _ hup => exact (h.update hhead hup).setEvq _

theorem event (h : AfterData u urb es n q) {msg : BceVhciMessage} (heff : EventEffect q msg q') :
    AfterData u urb es n q' := by
  cases heff with
  | dropped => exact h
  | queued => exact h.setEvq _
  | deferred hhead _ hup => exact (h.update hhead hup).setEvq _
  | updated hhead _ hup => exact h.update hhead hup

theorem completionRound (h : AfterData u urb es n q) {more : Bool}
    (heff : CompletionRoundEffect q .toDevice more q') : AfterData u urb es n q' := by
  obtain ⟨t₀, lost, ht₀, hlost⟩ := h.sound.slots
  cases heff with
  | idle => exact h
  | skipped ht hnext =>
    obtain rfl := Option.some.inj (ht.symm.trans ht₀)
    exact h.setSq ht rfl (hlost.consume hnext).2
  | @completed t t' cd sq u' urb' v' q₁ ht hnext _ hhead heff ht' =>
    obtain rfl := Option.some.inj (ht.symm.trans ht₀)
    have hcons : AfterData u urb es n (q.consume .toDevice t sq) :=
      h.setSq ht rfl (hlost.consume hnext).2
    have hround : AfterData u urb es n q₁ :=
      hcons.completion (hhead.consume .toDevice t sq) heff
    have hsq : (q.consume .toDevice t sq).sqs .toDevice =
        some { t with sq := sq, pending := t.pending.tail } := by
      simp [BceVhciTransferQueue.consume]
    obtain ⟨t₁, es', ht₁, hadd, -⟩ := heff.adds.some hsq
    obtain rfl := Option.some.inj (ht'.symm.trans ht₁)
    exact hround.setSq ht' rfl ((hlost.consume hnext).2.added hadd).notify

end AfterData

/-! ## The handlers after the data phase -/

section Handlers

variable {E : Fault → Prop} {q : BceVhciTransferQueue} {u urb n : Nat}
  {es : List TransferElement}

/-- The number of completions of `sq_out` that are not consumed. -/
def pendingOut (q : BceVhciTransferQueue) : Nat :=
  ((q.sqs .toDevice).map fun t => t.pending.length).getD 0

theorem pendingOut_eq {t : TransferSq} (ht : q.sqs .toDevice = some t) :
    pendingOut q = t.pending.length := by
  simp [pendingOut, ht]

/-- Consuming a completion makes progress. -/
theorem CompletionRoundEffect.pendingOut_lt {q' : BceVhciTransferQueue} (h : Sound q)
    {more : Bool} (heff : CompletionRoundEffect q .toDevice more q') (hmore : more = true) :
    pendingOut q' < pendingOut q := by
  obtain ⟨t, lost, ht, hlost⟩ := h.slots
  obtain ⟨t', ht', hless, -⟩ := heff.lost ht hlost
  rw [pendingOut_eq ht, pendingOut_eq ht']
  exact hless hmore

/-- **The completion handler.** Its rounds keep `I` as long as they go on and leave `J`,
which the delivery keeps. -/
theorem Sound.wp_completion {I J : BceVhciTransferQueue → Prop} (hI : ∀ q, I q → Sound q)
    (hJ : ∀ q, J q → Sound q)
    (hround : ∀ q more q', I q → CompletionRoundEffect q .toDevice more q' →
      (more = true → I q') ∧ (more = false → J q'))
    (hdeliver : ∀ q more q', J q → DeliverEffect q more q' → J q') (hq : I q) :
    wp (bceVhciTransferQueueCompletion .toDevice) E (fun _ q' => J q') q := by
  have hloop : ∀ rounds q, pendingOut q < rounds → I q →
      wp (bceVhciTransferQueueCompletionLoop .toDevice rounds) E (fun _ q' => J q') q := by
    intro rounds
    induction rounds with
    | zero => exact fun q hlt => absurd hlt (Nat.not_lt_zero _)
    | succ rounds ih =>
      intro q hlt hq
      unfold bceVhciTransferQueueCompletionLoop
      rw [wp_bind]
      refine wp_imp (hI q hq).completionRound fun more q' heff => ?_
      obtain ⟨hmore, hdone⟩ := hround q more q' hq heff
      rw [wp_ite]
      refine ⟨fun h => ih q' ?_ (hmore h), fun h => wp_pure.mpr (hdone (by simpa using h))⟩
      have hless := heff.pendingOut_lt (hI q hq) h
      omega
  obtain ⟨t, lost, ht, hlost⟩ := (hI q hq).slots
  have hbound : pendingOut q < t.sq.elCount := by
    have hlt := SqCredit.occupied_lt hlost
    rw [pendingOut_eq ht]
    omega
  unfold bceVhciTransferQueueCompletion
  simp only [wp_bind, wp_get, ht]
  refine wp_imp (hloop _ q hbound hq) fun _ q₁ hq₁ => wp_deliverPending (fun q hq => ?_) hq₁
  exact wp_imp (hJ q hq).deliverRound fun more q' heff => hdeliver q more q' hq heff

/-- The device completes an element of `sq_out` at most. -/
theorem deviceSends_spec {t : TransferSq} (ht : q.sqs .toDevice = some t) :
    wp deviceSends E (fun sent q' => (sent = false ∧ q' = q) ∨
      ∃ t₁ t', DeviceEffect t t₁ ∧ DeviceEffect t₁ t' ∧ q' = q.setSq .toDevice t') q := by
  unfold wp deviceSends
  rw [StateT.run, ht]
  dsimp only
  cases hin : t.inflight with
  | nil => exact .inl ⟨rfl, rfl⟩
  | cons e es =>
    have hdevice := DeviceEffect.complete ⟨BCE_COMPLETION_SUCCESS, e.length, 0⟩ hin
    simp only [Endpoint.deviceComplete, hin, Option.bind_some, Endpoint.acceptCompletion]
    cases hposted : t.posted with
    | nil =>
      rw [hposted, List.nil_append] at hdevice
      exact .inr ⟨_, _, hdevice, .accept rfl, rfl⟩
    | cons p ps =>
      rw [hposted, List.cons_append] at hdevice
      exact .inr ⟨_, _, hdevice, .accept rfl, rfl⟩

namespace AfterData

theorem wp_event (h : AfterData u urb es n q) (msg : BceVhciMessage) :
    wp (bceVhciTransferQueueEvent msg) E (fun _ q' => AfterData u urb es n q') q := by
  have hdeliver : wp bceVhciTransferQueueDeliverPending E
      (fun _ q' => AfterData u urb es n q') q :=
    wp_deliverPending (fun q hq => wp_imp hq.sound.deliverRound fun _ _ heff =>
      hq.deliverRound heff) h
  unfold bceVhciTransferQueueEvent
  rw [wp_bind]
  exact wp_imp hdeliver fun _ q₁ h₁ => wp_imp (h₁.sound.eventBody msg)
    fun _ q' heff => h₁.event heff

theorem wp_completion (h : AfterData u urb es n q) :
    wp (bceVhciTransferQueueCompletion .toDevice) E (fun _ q' => AfterData u urb es n q') q :=
  Sound.wp_completion (fun _ h => h.sound) (fun _ h => h.sound)
    (fun _ _ _ h heff => ⟨fun _ => h.completionRound heff, fun _ => h.completionRound heff⟩)
    (fun _ _ _ h heff => h.deliverRound heff) h

theorem wp_deviceSends (h : AfterData u urb es n q) :
    wp deviceSends E (fun _ q' => AfterData u urb es n q') q := by
  obtain ⟨t, lost, ht, hlost⟩ := h.sound.slots
  refine wp_imp (deviceSends_spec ht) ?_
  rintro sent q' (⟨-, rfl⟩ | ⟨t₁, t', hdev, hdev', rfl⟩)
  · exact h
  · exact h.setSq ht (hdev'.submitted.trans hdev.submitted) ((hlost.device hdev).device hdev')

theorem wp_sendAndComplete (h : AfterData u urb es n q) :
    wp sendAndComplete E (fun _ q' => AfterData u urb es n q') q := by
  unfold sendAndComplete
  rw [wp_bind]
  refine wp_imp h.wp_deviceSends fun sent q₁ h₁ => ?_
  rw [wp_ite]
  exact ⟨fun _ => h₁.wp_completion, fun _ => wp_pure.mpr h₁⟩

/-- **A request after the data phase** does nothing to the URB. -/
theorem wp_requestAndCompletion (h : AfterData u urb es n q) (msg : BceVhciMessage) :
    wp (requestAndCompletion msg) E (fun _ q' => AfterData u urb es n q') q := by
  unfold requestAndCompletion
  rw [wp_bind]
  exact wp_imp (h.wp_event msg) fun _ q₁ h₁ => h₁.wp_sendAndComplete

theorem wp_requests (msgs : List BceVhciMessage) :
    ∀ {q : BceVhciTransferQueue}, AfterData u urb es n q →
      wp (requests msgs) E (fun _ q' => AfterData u urb es n q') q := by
  induction msgs with
  | nil => exact fun h => wp_pure.mpr h
  | cons msg msgs ih =>
    intro q h
    unfold requests
    rw [wp_bind]
    exact wp_imp (h.wp_requestAndCompletion msg) fun _ q₁ h₁ => ih h₁

end AfterData

end Handlers

/-! ## The first request -/

/-- The bytes the first request gets. -/
def firstPiece (q : BceVhciTransferQueue) (u urb : Nat) (msg : BceVhciMessage) : TransferElement :=
  ⟨urb, .data, (q.urbs u).transferDma,
    min (q.urbs u).transferBufferLength (msg.param2 % 2 ^ 32)⟩

/-- The URB at `u` was sent in part: its elements on `sq_out` are `es`, the device is
done with them, and it waits for a completion nonetheless. -/
structure PartSent (u urb : Nat) (es : List TransferElement) (q : BceVhciTransferQueue) :
    Prop where
  sound : Sound q
  head : ∃ v, q.Head u urb v ∧ v.state = .waitingForCompletion
  evq : q.evq = []
  out : outElements q urb = es
  idle : ∃ t, q.sqs .toDevice = some t ∧ t.inflight = [] ∧ t.pending = []

/-- A slot of `sq_out` is given back. -/
theorem PartSent.notify {q : BceVhciTransferQueue} {u urb : Nat} {es : List TransferElement}
    (h : PartSent u urb es q) {t : TransferSq} {lost : Nat} (ht : q.sqs .toDevice = some t)
    (hlost : t.Lost (lost + 1)) : PartSent u urb es (q.notify .toDevice t) := by
  obtain ⟨v, hhead, hstate⟩ := h.head
  obtain ⟨t₀, ht₀, hinflight, hpending⟩ := h.idle
  obtain rfl := Option.some.inj (ht.symm.trans ht₀)
  exact {
    sound := h.sound.setSq ht hlost.notify
    head := ⟨v, hhead.of_eq rfl rfl rfl, hstate⟩
    evq := h.evq
    out := (outElements_setSq ht rfl urb).trans h.out
    idle := ⟨{ t with sq := bceNotifySubmissionComplete t.sq },
      by simp [BceVhciTransferQueue.notify], hinflight, hpending⟩ }

section First

variable {E : Fault → Prop} {s : Endpoint} {u urb : Nat} {v : BceVhciUrb} {msg : BceVhciMessage}

theorem DataPhase.sound (h : DataPhase s u urb v) {G : EndpointAction → Endpoint → Prop}
    (hreach : endpointSystem.Reachable G s) : Sound s.q := by
  have hown := reachable_owned hreach
  obtain ⟨t, ht, -⟩ := h.slots
  obtain ⟨lost, hlost⟩ := reachable_lost hreach .toDevice t ht
  exact ⟨hown.live, hown.urbList_nodup, (reachable_fitted hreach).linked, t, lost, ht, hlost⟩

/-- The first request is answered with all it asks for, up to the length of the URB. -/
theorem DataPhase.outElement_eq (h : DataPhase s u urb v) (msg : BceVhciMessage) :
    outElement s.q urb v msg.param2 = firstPiece s.q u urb msg := by
  -- the 32-bit difference of the length and the offset, which is 0
  have hmod : ((s.q.urbs u).transferBufferLength + 2 ^ 32 - 0) % 2 ^ 32 =
      (s.q.urbs u).transferBufferLength := by
    rw [Nat.sub_zero, Nat.add_mod_right, Nat.mod_eq_of_lt h.length.2]
  unfold outElement outLength firstPiece
  rw [h.unsent.1, h.head.urb_eq, hmod, Nat.add_zero]

theorem sentOut_settled_iff (hc : v.isControl = true) (k : Nat) :
    (v.sentOut k).Settled ↔ v.Failed := by
  simp [BceVhciUrb.Settled, BceVhciUrb.sentOut, BceVhciUrb.Failed, hc]

/-- A request is taken by the first URB if that waits for one. -/
theorem EventEffect.taken {q q' : BceVhciTransferQueue} (h : EventEffect q msg q')
    (hhead : q.Head u urb v) (hevq : q.evq = []) (hstate : v.state = .waitingForTransferRequest)
    (hmsg : msg.cmd = BCE_VHCI_CMD_TRANSFER_REQUEST) :
    ∃ r, r ≠ -EAGAIN ∧ UpdateEffect q urb v msg r q' := by
  cases h with
  | dropped hne => exact absurd hmsg hne
  | queued _ hor =>
    obtain ⟨us, hlist⟩ := hhead.first
    simp [hevq, hlist] at hor
  | deferred hhead' _ hup =>
    obtain ⟨rfl, rfl, rfl⟩ := hhead.unique hhead'
    cases hup with
    | deferred _ hnot => exact absurd ⟨.inl hstate, hmsg⟩ hnot
    | refused hr => exact absurd rfl hr
  | updated hhead' _ hup hr =>
    obtain ⟨rfl, rfl, rfl⟩ := hhead.unique hhead'
    exact ⟨_, hr, hup⟩

/-- **The first request** puts an element on `sq_out`; an error status received before
ends the URB then. -/
theorem DataPhase.wp_event (h : DataPhase s u urb v) (hsound : Sound s.q)
    (hmsg : msg.cmd = BCE_VHCI_CMD_TRANSFER_REQUEST) :
    wp (bceVhciTransferQueueEvent msg) E (fun _ q' => ∃ t, s.q.sqs .toDevice = some t ∧
      t.inflight = [] ∧ t.posted = [] ∧ t.pending = [] ∧ 0 < t.sq.availableCommands ∧
      ((v.Failed ∧ q' = (s.q.setSq .toDevice (t.put (firstPiece s.q u urb msg))).settle urb u
          v.receivedStatus) ∨
        (¬v.Failed ∧ q' = (s.q.setSq .toDevice (t.put (firstPiece s.q u urb msg))).setVurb urb
          (v.sentOut (firstPiece s.q u urb msg).length)))) s.q := by
  obtain ⟨t, ht, hpos, hinflight, hposted, hpending⟩ := h.slots
  have helement := h.outElement_eq msg
  have hlength : outLength s.q v msg.param2 = (firstPiece s.q u urb msg).length :=
    congrArg TransferElement.length helement
  unfold bceVhciTransferQueueEvent bceVhciTransferQueueDeliverPending
  rw [wp_bind, wp_bind, wp_get, h.evq]
  refine wp_pure.mpr (wp_imp (hsound.eventBody msg) fun _ q' heff => ?_)
  obtain ⟨r, hr, hup⟩ := heff.taken h.head h.evq h.state hmsg
  refine ⟨t, ht, hinflight, hposted, hpending, hpos, ?_⟩
  -- with a free slot and a request the only question is the status received before
  cases hup with
  | deferred => exact absurd rfl hr
  | refused _ _ _ ht' hle =>
    obtain rfl := Option.some.inj (ht.symm.trans ht')
    omega
  | setup _ hs => simp [h.state] at hs
  | out _ _ ht' _ hsettled =>
    obtain rfl := Option.some.inj (ht.symm.trans ht')
    rw [helement, hlength]
    exact .inr ⟨fun hf => hsettled hf.1 ((sentOut_settled_iff hf.1 _).mpr hf), rfl⟩
  | outSettled hc _ _ ht' _ hsettled =>
    obtain rfl := Option.some.inj (ht.symm.trans ht')
    rw [helement, h.head.urb_eq]
    exact .inl ⟨(sentOut_settled_iff hc _).mp hsettled, rfl⟩
  | status _ hs => rw [hmsg] at hs; exact absurd hs (by decide)
  | settled _ hs => rw [hmsg] at hs; exact absurd hs (by decide)

/-- The device sent the only element it had of the queue, and the completion is accepted. -/
def TransferSq.sends (t : TransferSq) (e : TransferElement) : TransferSq :=
  { t with
    sq := bceStoreCompletion t.sq ⟨0, e.length, t.sq.qid, t.sq.completionTail,
      BCE_COMPLETION_SUCCESS, BCE_COMPLETION_FLAG_PENDING⟩
    inflight := []
    posted := []
    pending := t.pending ++ [(e, ⟨BCE_COMPLETION_SUCCESS, e.length, 0⟩)] }

theorem wp_deviceSends_single {q : BceVhciTransferQueue} {t : TransferSq} {e : TransferElement}
    (ht : q.sqs .toDevice = some t) (hinflight : t.inflight = [e]) (hposted : t.posted = [])
    {Q : Bool → BceVhciTransferQueue → Prop} :
    wp deviceSends E Q q ↔ Q true (q.setSq .toDevice (t.sends e)) := by
  unfold wp deviceSends
  rw [StateT.run, ht]
  simp only [hinflight, Endpoint.deviceComplete, Option.bind_some, Endpoint.acceptCompletion,
    hposted, List.nil_append]
  rfl

theorem wp_deviceSends_none {q : BceVhciTransferQueue} {t : TransferSq}
    (ht : q.sqs .toDevice = some t) (hinflight : t.inflight = [])
    {Q : Bool → BceVhciTransferQueue → Prop} : wp deviceSends E Q q ↔ Q false q := by
  unfold wp deviceSends
  rw [StateT.run, ht]
  simp only [hinflight]

theorem TransferSq.sends_lost {t : TransferSq} {e : TransferElement} {lost : Nat}
    (h : t.Lost lost) (hinflight : t.inflight = [e]) (hposted : t.posted = []) :
    (t.sends e).Lost lost := by
  unfold TransferSq.Lost at h ⊢
  rw [hposted, hinflight] at h
  have hlength : (t.sends e).pending.length = t.pending.length + 1 := by
    simp [TransferSq.sends]
  rw [hlength]
  exact h.store _

/-- The completion is the next one when there was no other. -/
theorem TransferSq.sends_next {t : TransferSq} {e : TransferElement} {lost : Nat}
    (h : t.Lost lost) (hinflight : t.inflight = [e]) (hposted : t.posted = [])
    (hpending : t.pending = []) :
    ∃ sq, bceNextCompletion (t.sends e).sq = some (⟨BCE_COMPLETION_SUCCESS, e.length, 0⟩, sq) := by
  have hsends := TransferSq.sends_lost h hinflight hposted
  have hone : (t.sends e).pending.length = 0 + 1 := by
    simp [TransferSq.sends, hpending]
  unfold TransferSq.Lost at h hsends
  rw [hone] at hsends
  rw [hpending] at h
  obtain ⟨c, sq, hnext, hc, -⟩ := hsends.next_completion
  -- with nothing pending the index the driver reads is the one the device writes
  have hcidx : t.sq.completionCidx = t.sq.completionTail := h.cidx.trans h.ctail.symm
  refine ⟨sq, hnext.trans ?_⟩
  rw [hc]
  show some (Function.update _ _ _ t.sq.completionCidx, sq) = _
  rw [hcidx, Function.update_self]

/-- The first piece is sent, and the handler is about to hear of it. -/
structure PieceSent (u urb : Nat) (v : BceVhciUrb) (e : TransferElement) (n : Nat)
    (q : BceVhciTransferQueue) : Prop where
  sound : Sound q
  length : (q.urbs u).transferBufferLength = n
  head : q.Head u urb (v.sentOut e.length)
  evq : q.evq = []
  out : outElements q urb = [e]
  sq : ∃ t, q.sqs .toDevice = some t ∧ t.inflight = [] ∧ t.pending.length = 1 ∧
    q.nextCompletion .toDevice = some ⟨BCE_COMPLETION_SUCCESS, e.length, 0⟩

/-- The completion of the first piece ends the data phase if that was all of it. -/
theorem CompletionEffect.of_piece {q q' : BceVhciTransferQueue} {e : TransferElement}
    (hsound : Sound q) (hhead : q.Head u urb (v.sentOut e.length)) (hevq : q.evq = [])
    (hout : outElements q urb = [e])
    (hidle : ∃ t, q.sqs .toDevice = some t ∧ t.inflight = [] ∧ t.pending = [])
    (hdir : v.dir = .toDevice) (hreceive : v.receiveOffset = 0) (hfailed : ¬v.Failed)
    (he : e.length ≤ (q.urbs u).transferBufferLength)
    (hlt : (q.urbs u).transferBufferLength < 2 ^ 32)
    (heff : CompletionEffect q urb (v.sentOut e.length)
      ⟨BCE_COMPLETION_SUCCESS, e.length, 0⟩ q') :
    (e.length = (q.urbs u).transferBufferLength ∧ AfterData u urb [e] e.length q') ∨
      (e.length < (q.urbs u).transferBufferLength ∧ PartSent u urb [e] q') := by
  -- the URB has received what the piece sent
  have hreceived : (v.sentOut e.length).received ⟨BCE_COMPLETION_SUCCESS, e.length, 0⟩ =
      e.length := by
    show (v.receiveOffset + e.length) % 2 ^ 32 = _
    rw [hreceive, Nat.zero_add, Nat.mod_eq_of_lt (Nat.lt_of_le_of_lt he hlt)]
  have hdone : DataDone q (v.sentOut e.length) ⟨BCE_COMPLETION_SUCCESS, e.length, 0⟩ ↔
      e.length = (q.urbs u).transferBufferLength := by
    unfold DataDone
    rw [hreceived, hhead.urb_eq]
    show v.dir = .fromDevice ∨ _ ↔ _
    rw [hdir]
    constructor
    · rintro (h | h)
      · cases h
      · exact Nat.le_antisymm he h
    · exact fun h => .inr h.ge
  have hlength : ∀ n, (((q.setActualLength u n).urbs u).actualLength) = n := by
    simp [BceVhciTransferQueue.setActualLength]
  have hsound' := hsound.completion hhead heff
  cases heff with
  | ignored hs => exact absurd rfl hs
  | progress _ hnot =>
    refine .inr ⟨Nat.lt_of_le_of_ne he fun h => hnot (hdone.mpr h), hsound',
      ⟨_, ⟨⟨hhead.hcpriv, Function.update_self .., hhead.urb_eq⟩, hhead.first⟩, rfl⟩,
      hevq, hout, hidle⟩
  | dataDone _ _ h =>
    rw [hreceived, hhead.urb_eq] at hsound' ⊢
    refine .inl ⟨hdone.mp h, hsound', hout, hlength _, .inr
      ⟨_, ⟨⟨?_, Function.update_self .., rfl⟩, hhead.first⟩, rfl⟩⟩
    simpa [BceVhciTransferQueue.setActualLength] using hhead.hcpriv
  | done _ _ h =>
    rw [hreceived, hhead.urb_eq] at hsound' ⊢
    refine .inl ⟨hdone.mp h, hsound', hout, ?_, .inl ⟨Function.update_self .., ?_⟩⟩
    · simp [BceVhciTransferQueue.complete, BceVhciTransferQueue.setActualLength]
    · exact hsound.nodup.not_mem_erase
  | doneSettled _ _ h =>
    rw [hreceived, hhead.urb_eq]
    have hhead' : (q.setActualLength u e.length).Head u urb (v.sentOut e.length) := by
      refine ⟨⟨?_, hhead.vurb, hhead.urb_eq⟩, hhead.first⟩
      simpa [BceVhciTransferQueue.setActualLength] using hhead.hcpriv
    exact .inl ⟨hdone.mp h, .of_settle (hsound.setActualLength hhead _) hhead' hout (hlength _) _⟩
  -- an error received before would have ended the URB with its request
  | settled hc _ hs => exact absurd ((sentOut_settled_iff (v := v) hc _).mp hs) hfailed
  | startedIn _ hs => cases hs
  | startFailed _ hs => cases hs
  | startedOut _ hs => cases hs

/-- The handler hears of the first piece. -/
theorem PieceSent.completionRound {q q' : BceVhciTransferQueue} {e : TransferElement} {n : Nat}
    (h : PieceSent u urb v e n q) (hdir : v.dir = .toDevice) (hreceive : v.receiveOffset = 0)
    (hfailed : ¬v.Failed) (he : e.length ≤ n) (hlt : n < 2 ^ 32)
    {more : Bool} (heff : CompletionRoundEffect q .toDevice more q') :
    more = true ∧
      ((e.length = n ∧ AfterData u urb [e] e.length q') ∨
        (e.length < n ∧ PartSent u urb [e] q')) := by
  obtain rfl := h.length
  obtain ⟨t₀, ht₀, hinflight, hone, hc⟩ := h.sq
  obtain ⟨us, hlist⟩ := h.head.first
  have hnextC : ∀ {t : TransferSq} {c sq}, q.sqs .toDevice = some t →
      bceNextCompletion t.sq = some (c, sq) → c = ⟨BCE_COMPLETION_SUCCESS, e.length, 0⟩ :=
    fun ht hnext => Option.some.inj ((BceVhciTransferQueue.nextCompletion_eq
      ht hnext).symm.trans hc)
  cases heff with
  | idle ht hnext => simp [BceVhciTransferQueue.nextCompletion, ht, hnext] at hc
  | skipped ht hnext hskip =>
    rw [hnextC ht hnext, hlist] at hskip
    rcases hskip with hskip | hskip
    · exact absurd hskip (show BCE_COMPLETION_SUCCESS ≠ BCE_COMPLETION_ABORTED by decide)
    · cases hskip
  | @completed t t' c sq u' urb' v' q₁ ht hnext _ hhead heff ht' =>
    refine ⟨rfl, ?_⟩
    obtain rfl := Option.some.inj (ht.symm.trans ht₀)
    obtain ⟨lost, hlost⟩ : ∃ lost, t.Lost lost := by
      obtain ⟨t₁, lost, ht₁, hlost⟩ := h.sound.slots
      exact ⟨lost, Option.some.inj (ht₁.symm.trans ht) ▸ hlost⟩
    obtain ⟨rfl, rfl, rfl⟩ := h.head.unique hhead
    obtain rfl := hnextC ht hnext
    have hconsumed := (hlost.consume hnext).2
    have hsq : (q.consume .toDevice t sq).sqs .toDevice =
        some { t with sq := sq, pending := t.pending.tail } := by
      simp [BceVhciTransferQueue.consume]
    obtain ⟨t₁, es, ht₁, hadd, -⟩ := heff.adds.some hsq
    obtain rfl := Option.some.inj (ht'.symm.trans ht₁)
    -- the piece was the only completion
    have hempty : t.pending.tail = [] := List.length_eq_zero_iff.mp (by simp [hone])
    refine (heff.of_piece (h.sound.setSq ht hconsumed)
      (hhead.consume .toDevice t sq) h.evq
      ((outElements_setSq ht rfl urb).trans h.out) ⟨_, hsq, hinflight, hempty⟩ hdir hreceive
      hfailed he hlt).imp ?_ ?_
    · exact fun hd => ⟨hd.1, hd.2.setSq ht' rfl (hconsumed.added hadd).notify⟩
    · exact fun hd => ⟨hd.1, hd.2.notify ht' (hconsumed.added hadd)⟩

end First

/-! ## The requests of one URB -/

section Requests

variable {E : Fault → Prop} {s : Endpoint} {u urb : Nat} {v : BceVhciUrb} {msg : BceVhciMessage}

theorem PartSent.completionRound {q q' : BceVhciTransferQueue} {es : List TransferElement}
    (h : PartSent u urb es q) {more : Bool} (heff : CompletionRoundEffect q .toDevice more q') :
    PartSent u urb es q' := by
  obtain ⟨t, ht, hinflight, hpending⟩ := h.idle
  obtain ⟨t₀, lost, ht₀, hlost⟩ := h.sound.slots
  obtain rfl := Option.some.inj (ht.symm.trans ht₀)
  cases heff with
  | idle => exact h
  | skipped ht' hnext =>
    obtain rfl := Option.some.inj (ht.symm.trans ht')
    exact absurd hpending (hlost.consume hnext).1
  | completed ht' hnext =>
    obtain rfl := Option.some.inj (ht.symm.trans ht')
    exact absurd hpending (hlost.consume hnext).1

theorem PartSent.deliverRound {q q' : BceVhciTransferQueue} {es : List TransferElement}
    (h : PartSent u urb es q) {more : Bool} (heff : DeliverEffect q more q') :
    PartSent u urb es q' := by
  cases heff with
  | idle => exact h
  | blocked _ hevq => simp [h.evq] at hevq
  | delivered _ hevq => simp [h.evq] at hevq

/-- After the completion of the first piece. -/
inductive FirstOver (q₀ : BceVhciTransferQueue) (u urb : Nat) (v : BceVhciUrb)
    (msg : BceVhciMessage) (q : BceVhciTransferQueue) : Prop where
  | failed : v.Failed → AfterData u urb [firstPiece q₀ u urb msg] 0 q → FirstOver q₀ u urb v msg q
  | all : ¬v.Failed → (q₀.urbs u).transferBufferLength ≤ msg.param2 % 2 ^ 32 →
      AfterData u urb [firstPiece q₀ u urb msg] (q₀.urbs u).transferBufferLength q →
      FirstOver q₀ u urb v msg q
  | part : ¬v.Failed → msg.param2 % 2 ^ 32 < (q₀.urbs u).transferBufferLength →
      PartSent u urb [firstPiece q₀ u urb msg] q → FirstOver q₀ u urb v msg q

/-- What the first piece leads to. -/
theorem PieceSent.wp_completion {q : BceVhciTransferQueue} {e : TransferElement} {n : Nat}
    (h : PieceSent u urb v e n q) (hdir : v.dir = .toDevice) (hreceive : v.receiveOffset = 0)
    (hfailed : ¬v.Failed) (he : e.length ≤ n) (hlt : n < 2 ^ 32) :
    wp (bceVhciTransferQueueCompletion .toDevice) E (fun _ q' =>
      (e.length = n ∧ AfterData u urb [e] e.length q') ∨
        (e.length < n ∧ PartSent u urb [e] q')) q := by
  refine Sound.wp_completion
    (I := fun q' => PieceSent u urb v e n q' ∨ (e.length = n ∧ AfterData u urb [e] e.length q') ∨
      (e.length < n ∧ PartSent u urb [e] q')) ?_ ?_ ?_ ?_ (.inl h)
  · rintro q' (h | h | h)
    · exact h.sound
    · exact h.2.sound
    · exact h.2.sound
  · rintro q' (h | h)
    · exact h.2.sound
    · exact h.2.sound
  · -- the first round hears of the piece; the rounds after it keep what it found
    rintro q₁ more q' (h | h | h) heff
    · obtain ⟨rfl, hor⟩ := h.completionRound hdir hreceive hfailed he hlt heff
      exact ⟨fun _ => .inr hor, nofun⟩
    · have h' := And.intro h.1 (h.2.completionRound heff)
      exact ⟨fun _ => .inr (.inl h'), fun _ => .inl h'⟩
    · have h' := And.intro h.1 (h.2.completionRound heff)
      exact ⟨fun _ => .inr (.inr h'), fun _ => .inr h'⟩
  · rintro q₁ more q' (h | h) heff
    · exact .inl ⟨h.1, h.2.deliverRound heff⟩
    · exact .inr ⟨h.1, h.2.deliverRound heff⟩

/-- **The first request and its completion.** -/
theorem DataPhase.wp_first (h : DataPhase s u urb v) (hsound : Sound s.q)
    (hmsg : msg.cmd = BCE_VHCI_CMD_TRANSFER_REQUEST) :
    wp (requestAndCompletion msg) E (fun _ q' => FirstOver s.q u urb v msg q') s.q := by
  unfold requestAndCompletion
  rw [wp_bind]
  refine wp_imp (h.wp_event hsound hmsg) ?_
  rintro _ q₁ ⟨t, ht, hinflight, hposted, hpending, hpos, hor⟩
  obtain ⟨lost, hlost⟩ : ∃ lost, t.Lost lost := by
    obtain ⟨t₁, lost, ht₁, hlost⟩ := hsound.slots
    exact ⟨lost, Option.some.inj (ht₁.symm.trans ht) ▸ hlost⟩
  have hput := hlost.added (.of_put (firstPiece s.q u urb msg) hpos)
  have hsound₁ := hsound.setSq ht hput
  have hhead₁ : (s.q.setSq .toDevice (t.put (firstPiece s.q u urb msg))).Head u urb v :=
    ⟨⟨h.head.hcpriv, h.head.vurb, h.head.urb_eq⟩, h.head.first⟩
  have hout₁ : outElements (s.q.setSq .toDevice (t.put (firstPiece s.q u urb msg))) urb =
      [firstPiece s.q u urb msg] := by
    have hnone := h.unsent.2.2.1
    simp only [outElements, ht] at hnone
    simp only [outElements, BceVhciTransferQueue.setSq_sqs, Function.update_self,
      TransferSq.put_submitted]
    rw [List.filter_append, hnone]
    simp [firstPiece]
  rcases hor with ⟨hfailed, rfl⟩ | ⟨hfailed, rfl⟩
  · -- the URB ended when the request was handled
    have hafter := AfterData.of_settle hsound₁ hhead₁ hout₁ h.unsent.2.2.2 v.receivedStatus
    exact wp_imp hafter.wp_sendAndComplete fun _ q' h' => .failed hfailed h'
  · have hkind : SameKind v (v.sentOut (firstPiece s.q u urb msg).length) :=
      ⟨rfl, rfl, by simp [BceVhciUrb.sentOut]⟩
    have hsound₂ : Sound ((s.q.setSq .toDevice (t.put (firstPiece s.q u urb msg))).setVurb urb
        (v.sentOut (firstPiece s.q u urb msg).length)) := hsound₁.setVurb hhead₁ rfl hkind
    have hin : (t.put (firstPiece s.q u urb msg)).inflight = [firstPiece s.q u urb msg] := by
      simp [hinflight]
    obtain ⟨sq, hnext⟩ := TransferSq.sends_next hput hin hposted hpending
    have hsq : (s.q.setSq .toDevice (t.put (firstPiece s.q u urb msg))).sqs .toDevice =
        some (t.put (firstPiece s.q u urb msg)) := by simp
    unfold sendAndComplete
    rw [wp_bind, wp_deviceSends_single (q := (s.q.setSq .toDevice (t.put _)).setVurb urb _) hsq
      hin hposted, if_pos rfl]
    -- the device sends the piece, and the handler is about to hear of it
    have hpiece : PieceSent u urb v (firstPiece s.q u urb msg) (s.q.urbs u).transferBufferLength
        (((s.q.setSq .toDevice (t.put (firstPiece s.q u urb msg))).setVurb urb
          (v.sentOut (firstPiece s.q u urb msg).length)).setSq .toDevice
            ((t.put (firstPiece s.q u urb msg)).sends (firstPiece s.q u urb msg))) := {
      sound := hsound₂.setSq hsq (TransferSq.sends_lost hput hin hposted)
      length := rfl
      head := ⟨⟨h.head.hcpriv, Function.update_self .., h.head.urb_eq⟩, h.head.first⟩
      evq := h.evq
      out := (outElements_setSq hsq rfl urb).trans hout₁
      sq := ⟨(t.put (firstPiece s.q u urb msg)).sends (firstPiece s.q u urb msg), by simp, rfl,
        by simp [TransferSq.sends, hpending],
        BceVhciTransferQueue.nextCompletion_eq (by simp) hnext⟩ }
    refine wp_imp (hpiece.wp_completion h.dir h.unsent.2.1 hfailed (Nat.min_le_left ..)
      h.length.2) ?_
    rintro _ q' (⟨hall, h'⟩ | ⟨hpart, h'⟩)
    · exact .all hfailed (min_eq_left_iff.mp hall) (hall ▸ h')
    · refine .part hfailed ?_ h'
      have hlt : min (s.q.urbs u).transferBufferLength (msg.param2 % 2 ^ 32) <
        (s.q.urbs u).transferBufferLength := hpart
      omega

/-- A second request finds no URB that takes it. -/
theorem PartSent.wp_requestAndCompletion {q : BceVhciTransferQueue} {es : List TransferElement}
    (h : PartSent u urb es q) (hmsg : msg.cmd = BCE_VHCI_CMD_TRANSFER_REQUEST) :
    wp (requestAndCompletion msg) E (fun _ q' => outElements q' urb = es) q := by
  obtain ⟨v, hhead, hstate⟩ := h.head
  obtain ⟨us, hlist⟩ := hhead.first
  obtain ⟨t, ht, hinflight, -⟩ := h.idle
  have hevent : ∀ q', EventEffect q msg q' → q' = { q with evq := [msg] } := by
    intro q' heff
    cases heff with
    | dropped hne => exact absurd hmsg hne
    | queued _ hor => simp [h.evq, hlist] at hor
    | deferred _ _ hup =>
      cases hup with
      | deferred => rw [h.evq, List.nil_append]
      | refused hr => exact absurd rfl hr
    | @updated u' urb' v' r q' hhead' _ hup hr =>
      obtain ⟨rfl, rfl, rfl⟩ := hhead.unique hhead'
      cases hup with
      | deferred => exact absurd rfl hr
      | refused _ hacc => simp [BceVhciUrb.AcceptsRequest, hstate] at hacc
      | setup _ hs => simp [hstate] at hs
      | out hs => simp [hstate] at hs
      | outSettled _ hs => simp [hstate] at hs
      | status _ hs => rw [hmsg] at hs; exact absurd hs (by decide)
      | settled _ hs => rw [hmsg] at hs; exact absurd hs (by decide)
  unfold requestAndCompletion bceVhciTransferQueueEvent bceVhciTransferQueueDeliverPending
  rw [wp_bind, wp_bind, wp_bind, wp_get, h.evq]
  refine wp_pure.mpr (wp_imp (h.sound.eventBody msg) fun _ q' heff => ?_)
  obtain rfl := hevent q' heff
  unfold sendAndComplete
  rw [wp_bind]
  refine (wp_deviceSends_none (q := { q with evq := [msg] }) ht hinflight).mpr ?_
  rw [if_neg (by decide)]
  exact wp_pure.mpr h.out

end Requests

/-! ## Which requests get the data sent -/

section Sent

variable {q q' : BceVhciTransferQueue} {u urb n asked : Nat} {e : TransferElement}

/-- Only one window fits a list of one element. -/
theorem Windows.single_iff {addr : Nat} : Windows addr [e] n ↔ e.addr = addr ∧ e.length = n := by
  constructor
  · rintro (_ | ⟨haddr, hnil⟩)
    cases hnil
    exact ⟨haddr, rfl⟩
  · rintro ⟨haddr, rfl⟩
    exact .cons haddr (.nil _)

theorem AfterData.dataOver {es : List TransferElement} (h : AfterData u urb es n q) :
    DataOver q urb := by
  intro v hv
  rcases h.place with ⟨hfreed, -⟩ | ⟨v', hhead, hstate⟩
  · simp [hfreed] at hv
  · obtain rfl := Option.some.inj (hhead.vurb.symm.trans hv)
    exact hstate

theorem PartSent.not_over {es : List TransferElement} (h : PartSent u urb es q) :
    ¬DataOver q urb := by
  obtain ⟨v, hhead, hstate⟩ := h.head
  intro hover
  simp [hover v hhead.vurb] at hstate

theorem DataPhase.not_over {s : Endpoint} {v : BceVhciUrb} (h : DataPhase s u urb v) :
    ¬DataOver s.q urb := by
  intro hover
  have hstate := hover v h.head.vurb
  simp [h.state] at hstate

variable {msg msg₂ : BceVhciMessage} {msgs : List BceVhciMessage} {a b : PUnit}
  {q₁ q₂ : BceVhciTransferQueue}

theorem SentInPieces.first (h : SentInPieces q u urb (msg :: msgs))
    (hrun : (requestAndCompletion msg).run q = .ok (a, q₁)) :
    SentFor q u urb msg.param2 q₁ := by
  have hone := h [msg] ⟨msgs, rfl⟩
  have hasked : requested [msg] = msg.param2 := by simp [requested]
  rw [hasked] at hone
  unfold requests at hone
  rw [wp_bind] at hone
  have hsent := wp_ok hone hrun
  exact hsent

theorem SentInPieces.second (h : SentInPieces q u urb (msg :: msg₂ :: msgs))
    (hrun : (requestAndCompletion msg).run q = .ok (a, q₁))
    (hrun₂ : (requestAndCompletion msg₂).run q₁ = .ok (b, q₂)) :
    SentFor q u urb (msg.param2 + msg₂.param2) q₂ := by
  have htwo := h [msg, msg₂] ⟨msgs, rfl⟩
  have hasked : requested [msg, msg₂] = msg.param2 + msg₂.param2 := by simp [requested]
  rw [hasked] at htwo
  unfold requests at htwo
  rw [wp_bind] at htwo
  have hrest := wp_ok htwo hrun
  unfold requests at hrest
  rw [wp_bind] at hrest
  have hsent := wp_ok hrest hrun₂
  exact hsent

/-- A URB that was sent in part is never sent the rest. -/
theorem PartSent.not_sentInPieces (h : PartSent u urb [e] q₁) (hrun :
      (requestAndCompletion msg).run q = .ok (a, q₁))
    (hcmd : ∀ msg ∈ msgs, msg.cmd = BCE_VHCI_CMD_TRANSFER_REQUEST ∧ 0 < msg.param2)
    (hall : (q.urbs u).transferBufferLength ≤ requested (msg :: msgs))
    (he : e.length ≤ msg.param2) : ¬SentInPieces q u urb (msg :: msgs) := by
  intro hsent
  have hshort : msg.param2 < (q.urbs u).transferBufferLength := by
    by_contra hle
    exact h.not_over ((hsent.first hrun).ended.mpr (Nat.le_of_not_lt hle))
  cases msgs with
  | nil =>
    simp only [requested, List.map_cons, List.map_nil, List.sum_cons, List.sum_nil] at hall
    omega
  | cons msg₂ msgs =>
    obtain ⟨hcmd₂, hsize₂⟩ := hcmd msg₂ List.mem_cons_self
    -- the second request adds no window
    obtain ⟨_, q₂, hrun₂, hout⟩ := wp_exists (h.wp_requestAndCompletion hcmd₂)
    have hwindow := (hsent.second hrun hrun₂).windows
    rw [hout, Windows.single_iff] at hwindow
    have hlength := hwindow.2
    omega

/-- A first request for all of the data gets it sent, whatever follows. -/
theorem DataPhase.sentInPieces {s : Endpoint} {v : BceVhciUrb} (h : DataPhase s u urb v)
    (hfirst : wp (requestAndCompletion msg) (fun _ => False)
      (fun _ q' => FirstOver s.q u urb v msg q') s.q)
    (hle : (s.q.urbs u).transferBufferLength ≤ msg.param2 % 2 ^ 32) (hfailed : ¬v.Failed) :
    SentInPieces s.q u urb (msg :: msgs) := by
  have hpos := h.length.1
  intro asked hprefix
  cases asked with
  | nil =>
    have hzero : requested [] = 0 := rfl
    rw [hzero]
    refine wp_pure.mpr ⟨?_, fun _ => h.evq, ?_, fun hover => absurd hover h.not_over⟩
    · rw [h.unsent.2.2.1, Nat.zero_min]
      exact .nil _
    · exact ⟨fun hover => absurd hover h.not_over, fun hle => absurd hpos (Nat.not_lt.mpr hle)⟩
  | cons msg₁ asked =>
    obtain ⟨rfl, -⟩ := List.cons_prefix_cons.mp hprefix
    unfold requests
    rw [wp_bind]
    refine wp_imp hfirst fun _ q₁ hover => ?_
    cases hover with
    | failed hf => exact absurd hf hfailed
    | part _ hlt => omega
    | all _ _ hafter =>
      refine wp_imp (hafter.wp_requests asked) fun _ q' h' => ?_
      have hasked : (s.q.urbs u).transferBufferLength ≤ requested (msg₁ :: asked) := by
        have hmod := Nat.mod_le msg₁.param2 (2 ^ 32)
        simp only [requested, List.map_cons, List.sum_cons]
        omega
      refine ⟨?_, fun hlt => by omega, ⟨fun _ => hasked, fun _ => h'.dataOver⟩, fun _ => h'.length⟩
      rw [h'.out, Windows.single_iff]
      exact ⟨rfl, (Nat.min_eq_left hle).trans (Nat.min_eq_right hasked).symm⟩

end Sent

/-- **Sending a host-to-device URB in pieces.** In every reachable state in which the
data phase of a host-to-device URB begins, transfer requests for all of its data get it
sent, window by window, exactly when the first asks for all of it in its low 32 bits, and
no error status was received before. -/
theorem out_data_sent_iff {s : Endpoint} {u urb : Nat} {v : BceVhciUrb}
    (hreach : endpointSystem.Reachable (fun _ _ => True) s) (h : DataPhase s u urb v)
    {msgs : List BceVhciMessage}
    (hmsgs : ∀ msg ∈ msgs, msg.cmd = BCE_VHCI_CMD_TRANSFER_REQUEST ∧ 0 < msg.param2)
    (hall : (s.q.urbs u).transferBufferLength ≤ requested msgs) :
    SentInPieces s.q u urb msgs ↔
      (∃ msg ∈ msgs.head?, (s.q.urbs u).transferBufferLength ≤ msg.param2 % 2 ^ 32) ∧
        ¬v.Failed := by
  have hpos := h.length.1
  cases msgs with
  | nil =>
    simp only [requested, List.map_nil, List.sum_nil] at hall
    omega
  | cons msg msgs =>
    have hfirst : wp (requestAndCompletion msg) (fun _ => False)
        (fun _ q' => FirstOver s.q u urb v msg q') s.q :=
      h.wp_first (h.sound hreach) (hmsgs msg List.mem_cons_self).1
    constructor
    · intro hsent
      obtain ⟨_, q₁, hrun, hover⟩ := wp_exists hfirst
      cases hover with
      | failed _ hafter =>
        have hlength := (hsent.first hrun).length hafter.dataOver
        rw [hafter.length] at hlength
        omega
      | all hfailed hle => exact ⟨⟨msg, rfl, hle⟩, hfailed⟩
      | part _ _ hpart =>
        refine absurd hsent (hpart.not_sentInPieces hrun
          (fun msg hmem => hmsgs msg (List.mem_cons_of_mem _ hmem)) hall ?_)
        exact (Nat.min_le_right ..).trans (Nat.mod_le ..)
    · rintro ⟨⟨_, hmem, hle⟩, hfailed⟩
      obtain rfl := Option.some.inj hmem
      exact h.sentInPieces hfirst hle hfailed

/-- A host-to-device URB of eight bytes, with nothing of it sent. -/
def outUrb : Endpoint :=
  endpointSystem.after (fun _ _ => True) [.enqueue 0 ⟨false, 8, 0x1000, 0⟩ 0, .lockStep]
    (.fresh 0x02)

theorem outUrb_reachable : endpointSystem.Reachable (fun _ _ => True) outUrb :=
  .after (.of_init (Endpoint.fresh_init 0x02)) (by decide +kernel)

theorem outUrb_dataPhase :
    DataPhase outUrb 0 0 ⟨0, .toDevice, false, .waitingForTransferRequest, 0, 0, 0⟩ where
  lock := by decide +kernel
  active := by decide +kernel
  head := ⟨⟨by decide +kernel, by decide +kernel, rfl⟩, [], by decide +kernel⟩
  dir := rfl
  state := rfl
  length := by decide +kernel
  unsent := ⟨rfl, rfl, by decide +kernel, by decide +kernel⟩
  evq := by decide +kernel
  slots := by
    have hsq : (outUrb.q.sqs .toDevice).map (fun t => decide (0 < t.sq.availableCommands) &&
        t.inflight.isEmpty && t.posted.isEmpty && t.pending.isEmpty) = some true := by
      decide +kernel
    obtain ⟨t, ht, hidle⟩ := Option.map_eq_some_iff.mp hsq
    simp only [Bool.and_eq_true, decide_eq_true_eq, List.isEmpty_iff] at hidle
    exact ⟨t, ht, hidle.1.1.1, hidle.1.1.2, hidle.1.2, hidle.2⟩

/-- One request for all of it, and one too many. -/
theorem out_data_sent_of_one_request :
    SentInPieces outUrb.q 0 0 [⟨BCE_VHCI_CMD_TRANSFER_REQUEST, 0, 0, 8⟩,
      ⟨BCE_VHCI_CMD_TRANSFER_REQUEST, 0, 0, 5⟩] :=
  (out_data_sent_iff outUrb_reachable outUrb_dataPhase (by decide) (by decide +kernel)).mpr
    ⟨⟨_, rfl, by decide +kernel⟩, fun h => absurd h.1 (by decide)⟩

/-- A request for half of the data. -/
def halfRequest : BceVhciMessage := ⟨BCE_VHCI_CMD_TRANSFER_REQUEST, 0, 0, 4⟩

def halfSent : BceVhciTransferQueue := final (requests [halfRequest, halfRequest]) outUrb.q

/-- The second of two requests for half of the data is deferred for good. -/
theorem out_data_of_two_requests :
    ¬∀ s u urb v msgs, endpointSystem.Reachable (fun _ _ => True) s → DataPhase s u urb v →
      (∀ msg ∈ msgs, msg.cmd = BCE_VHCI_CMD_TRANSFER_REQUEST ∧ 0 < msg.param2) →
      (s.q.urbs u).transferBufferLength ≤ requested msgs → SentInPieces s.q u urb msgs := by
  intro h
  have hsent : SentInPieces outUrb.q 0 0 [halfRequest, halfRequest] :=
    h outUrb 0 0 _ _ outUrb_reachable outUrb_dataPhase (by decide) (by decide +kernel)
  have hrun : (requests [halfRequest, halfRequest]).run outUrb.q = .ok (⟨⟩, halfSent) :=
    run_eq_final (by decide +kernel)
  have hover := (wp_ok (hsent _ List.prefix_rfl) hrun).ended.mpr (by decide +kernel)
  have hvurb : halfSent.vurbs 0 = some ⟨0, .toDevice, false, .waitingForCompletion, 0, 4, 4⟩ := by
    decide +kernel
  exact absurd (hover _ hvurb) (by decide)

end BceDriver
