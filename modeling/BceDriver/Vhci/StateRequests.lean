import BceDriver.Vhci.FirstServed
import BceDriver.Vhci.PauseResume
import BceDriver.Vhci.Stall
import BceDriver.Vhci.Tables

/-!
# Answers to requests for a state (`vhci/vhci.c`)

`bce_vhci_handle_firmware_event` pauses or resumes the transfer queue and answers with
success, whatever the pause or the resume returned.

- `Answered`: an answer that can be believed; `Obeyed`: when it is given.
- `FailsDeferred`: a resume that succeeds stops the queue again if the first URB is a
  control transfer that only waited for a deferred request to end with its error.
- `stateRequest_answered_iff`: the result, in every reachable state of the queue.
-/

namespace BceDriver

open FaultState

/-- What `bce_vhci_handle_firmware_event` does to the transfer queue, and its answer. -/
def FirmwareAction.run (a : FirmwareAction) (reply : CommandOutcome) (abortedIn abortedOut : Nat) :
    TransferM Nat :=
  match a with
  | .resume _ => do
    let _ ← bceVhciTransferQueueResume reply
    modify fun q => { q with fwPaused := false }
    return BCE_VHCI_SUCCESS
  | .pause _ => do
    modify fun q => { q with fwPaused := true }
    let _ ← bceVhciTransferQueuePause reply abortedIn abortedOut
    return BCE_VHCI_SUCCESS
  | .stall _ => do
    modify fun q => { q with state := BCE_VHCI_ENDPOINT_STALLED, active := false, stalled := true }
    return BCE_VHCI_SUCCESS
  | .badArgument => return BCE_VHCI_BAD_ARGUMENT

/-- The transfer queue a message names. -/
def BceVhciMessage.tqRef (msg : BceVhciMessage) : TqRef :=
  ⟨msg.param1 % 256, bceVhciEndpointIndex (msg.param1 / 256 % 256)⟩

/-- If the answer is success, the queue is in the state that was asked for. -/
def Answered (msg : BceVhciMessage) (answer : Nat) (q' : BceVhciTransferQueue) : Prop :=
  answer = BCE_VHCI_SUCCESS → q'.state = msg.param2 ∧
    (msg.param2 = BCE_VHCI_ENDPOINT_ACTIVE → q'.active = true) ∧
    (msg.param2 = BCE_VHCI_ENDPOINT_PAUSED → q'.active = false)

/-- The URB is a control transfer with an error status, and ends once it has sent what
the next request asks for. -/
def BceVhciUrb.ErrorKnown (v : BceVhciUrb) : Prop :=
  v.isControl = true ∧ v.state = .waitingForTransferRequest ∧ v.receivedStatus ≠ 0 ∧
    v.receivedStatus ≠ BCE_VHCI_SUCCESS

instance (v : BceVhciUrb) : Decidable v.ErrorKnown := inferInstanceAs (Decidable (_ ∧ _))

/-- The first URB ends with an error when the deferred messages are delivered. -/
def FailsDeferred (q : BceVhciTransferQueue) : Prop :=
  (∃ v ∈ q.headVurb, v.ErrorKnown) ∧
    (∃ msg ∈ q.evq.head?, msg.cmd = BCE_VHCI_CMD_TRANSFER_REQUEST) ∧ OutSlot q

instance (q : BceVhciTransferQueue) : Decidable (FailsDeferred q) :=
  @instDecidableAnd _ _ inferInstance inferInstance

/-- The state is the one asked for once the reply is there; and for a resume, it
succeeds and leaves no error to be found, or fails on a queue that is active already. -/
def Obeyed (requested : Nat) (reply : CommandOutcome) (q : BceVhciTransferQueue) : Prop :=
  (q.replied reply).state = requested ∧
    (requested = BCE_VHCI_ENDPOINT_ACTIVE →
      if reply.status = 0 then ¬FailsDeferred q else q.active = true)

instance (requested : Nat) (reply : CommandOutcome) (q : BceVhciTransferQueue) :
    Decidable (Obeyed requested reply q) :=
  @instDecidableAnd _ _ inferInstance inferInstance

/-! ## What keeps the state -/

section State

variable {q q' : BceVhciTransferQueue} {urb : Nat} {v : BceVhciUrb}

theorem StartedIn.state {timeout : Nat} (h : StartedIn timeout q urb v q') :
    q'.state = q.state := by
  obtain ⟨t, -, -, hq'⟩ := h.slot
  rw [hq']
  rfl

theorem Waited.state (h : Waited q q') : q'.state = q.state := by
  rw [h.frame]

theorem ResumeEffect.state (h : ResumeEffect q urb v q') : q'.state = q.state := by
  cases h with
  | unchanged => rfl
  | init _ h =>
    cases h with
    | control => rfl
    | out => rfl
    | startedIn _ _ h => exact h.state
    | failed _ _ h => exact h.waited.state
  | restarted _ h => exact h.state
  | failed _ h => exact h.waited.state

theorem settle_state (q : BceVhciTransferQueue) (urb u receivedStatus : Nat) :
    (q.settle urb u receivedStatus).state = q.state := by
  unfold BceVhciTransferQueue.settle
  split
  · rfl
  · rfl

theorem UpdateEffect.state {msg : BceVhciMessage} {r : Int} (h : UpdateEffect q urb v msg r q') :
    q'.state = q.state := by
  cases h with
  | outSettled => exact settle_state ..
  | settled => exact settle_state ..
  | _ => rfl

theorem DeliverEffect.state {more : Bool} (h : DeliverEffect q more q') : q'.state = q.state := by
  cases h with
  | idle => rfl
  | blocked _ _ h => exact h.state
  | delivered _ _ h => exact h.state

/-- Resuming a URB puts nothing on `sq_out`. -/
theorem Waited.outSlot_iff (h : Waited q q') : OutSlot q' ↔ OutSlot q := by
  unfold OutSlot
  constructor
  · rintro ⟨t', ht', hpos⟩
    cases ht : q.sqs .toDevice with
    | none =>
      rw [(h.none_iff .toDevice).mpr ht] at ht'
      cases ht'
    | some t =>
      obtain ⟨tokens, waiting, rfl⟩ := h.sqs .toDevice t t' ht ht'
      exact ⟨t, rfl, hpos⟩
  · rintro ⟨t, ht, hpos⟩
    cases ht' : q'.sqs .toDevice with
    | none =>
      rw [(h.none_iff .toDevice).mp ht'] at ht
      cases ht
    | some t' =>
      obtain ⟨tokens, waiting, rfl⟩ := h.sqs .toDevice t t' ht ht'
      exact ⟨_, rfl, hpos⟩

theorem StartedIn.outSlot_iff (h : StartedIn 0 q urb v q') : OutSlot q' ↔ OutSlot q := by
  obtain ⟨t, -, -, hq'⟩ := h.slot
  -- a transfer in takes its slot from the other queue
  have hsq : q'.sqs .toDevice = q.sqs .toDevice := by
    rw [hq']
    simp
  unfold OutSlot
  rw [hsq]

theorem ResumeEffect.outSlot_iff (h : ResumeEffect q urb v q') : OutSlot q' ↔ OutSlot q := by
  cases h with
  | unchanged => exact Iff.rfl
  | init _ h =>
    cases h with
    | control => exact Iff.rfl
    | out => exact Iff.rfl
    | startedIn _ _ h => exact h.outSlot_iff
    | failed _ _ h => exact h.waited.outSlot_iff
  | restarted _ h => exact h.outSlot_iff
  | @failed q₁ _ h =>
    have hcomplete : OutSlot (q₁.complete urb v.urb (-ENOMEM)) ↔ OutSlot q₁ := Iff.rfl
    exact hcomplete.trans h.waited.outSlot_iff

end State

/-! ## The delivery -/

section Delivery

variable {E : Fault → Prop} {q q' : BceVhciTransferQueue} {u urb : Nat} {v : BceVhciUrb}

/-- No control status is deferred for a control transfer. -/
def NoStatusDeferred (q : BceVhciTransferQueue) : Prop :=
  ∀ v ∈ q.headVurb, v.isControl = true →
    ∀ msg ∈ q.evq, msg.cmd ≠ BCE_VHCI_CMD_CONTROL_TRANSFER_STATUS

theorem BceVhciUrb.ErrorKnown.settled (h : v.ErrorKnown) (length : Nat) :
    (v.sentOut length).Settled :=
  ⟨h.2.2.1, .inr ⟨h.2.2.2, by simp [BceVhciUrb.sentOut], by simp [BceVhciUrb.sentOut]⟩⟩

/-- The round that delivers to a URB with a known error stops the queue. -/
theorem DeliverEffect.of_fails {more : Bool} (hfails : FailsDeferred q)
    (h : DeliverEffect q more q') : more = true ∧ q'.active = false := by
  obtain ⟨⟨v₀, hv₀, hknown⟩, ⟨msg₀, hmsg₀, hreq⟩, t₀, ht₀, hpos⟩ := hfails
  have hurb : ∀ {u urb : Nat} {v : BceVhciUrb}, q.Head u urb v → v₀ = v := by
    intro u urb v hhead
    exact Option.some.inj (hv₀.symm.trans hhead.headVurb)
  have hmsg : ∀ {msg : BceVhciMessage} {msgs : List BceVhciMessage}, q.evq = msg :: msgs →
      msg₀ = msg := by
    intro msg msgs hevq
    rw [hevq] at hmsg₀
    exact (Option.some.inj hmsg₀).symm
  have hstatus : msg₀.cmd ≠ BCE_VHCI_CMD_CONTROL_TRANSFER_STATUS := by
    rw [hreq]
    decide
  -- the URB and the message of the round are those of the error
  cases h with
  | idle hnone =>
    rcases hnone with hnone | hnone
    · simp [BceVhciTransferQueue.headVurb, hnone] at hv₀
    · simp [hnone] at hmsg₀
  | blocked hhead hevq hup =>
    obtain rfl := hurb hhead
    obtain rfl := hmsg hevq
    cases hup with
    | deferred _ hnot => exact absurd ⟨.inl hknown.2.1, hreq⟩ hnot
    | refused hr => exact absurd rfl hr
  | delivered hhead hevq hup hr =>
    obtain rfl := hurb hhead
    obtain rfl := hmsg hevq
    refine ⟨rfl, ?_⟩
    cases hup with
    | deferred => exact absurd rfl hr
    | refused _ _ _ ht hle =>
      obtain rfl := Option.some.inj (ht₀.symm.trans ht)
      omega
    | setup _ hs =>
      rw [hknown.2.1] at hs
      cases hs
    -- data is sent although the URB is about to end
    | out _ _ _ _ hnot => exact absurd (hknown.settled _) (hnot hknown.1)
    -- data is sent, and the error that was known before stalls the queue
    | outSettled =>
      simp [BceVhciTransferQueue.settle, hknown.2.2.2, BceVhciTransferQueue.complete,
        BceVhciTransferQueue.stall]
    | status _ hcmd => exact absurd hcmd hstatus
    | settled _ hcmd => exact absurd hcmd hstatus

/-- What the delivery keeps as long as no error is found. -/
structure Delivering (state : Nat) (q : BceVhciTransferQueue) : Prop where
  live : q.Live
  nodup : q.urbList.Nodup
  state : q.state = state
  active : q.active = true
  noStatus : NoStatusDeferred q
  noError : ¬FailsDeferred q

/-- The queue whose first URB changed, with one message less, if that URB has no error
now. -/
theorem noError_of_head {v' : BceVhciUrb} (hhead : q'.headVurb = some v') (h : ¬v'.ErrorKnown) :
    ¬FailsDeferred q' := by
  rintro ⟨⟨v₁, hv₁, hknown⟩, -⟩
  obtain rfl := Option.some.inj (hhead.symm.trans hv₁)
  exact h hknown

/-- What a message that is delivered does if there is no error to find: the first URB
sends something, or no slot is free. -/
theorem Delivering.update {state u : Nat} {msg : BceVhciMessage} {msgs : List BceVhciMessage}
    {r : Int} {q₁ : BceVhciTransferQueue} (h : Delivering state q) (hhead : q.Head u urb v)
    (hevq : q.evq = msg :: msgs) (hup : UpdateEffect q urb v msg r q₁) (hr : r ≠ -EAGAIN) :
    (q₁ = q ∧ ∃ t, q.sqs .toDevice = some t ∧ t.sq.availableCommands ≤ 0) ∨
      ∃ t v', q₁ = (q.setSq .toDevice t).setVurb urb v' ∧ v'.urb = v.urb ∧
        v'.isControl = v.isControl ∧ ¬v'.ErrorKnown := by
  have hfirst := hhead.headVurb
  have hstatus : v.isControl = true → msg.cmd ≠ BCE_VHCI_CMD_CONTROL_TRANSFER_STATUS :=
    fun hc => h.noStatus v hfirst hc msg (by simp [hevq])
  cases hup with
  | deferred => exact absurd rfl hr
  | refused _ _ _ ht hle => exact .inl ⟨rfl, _, ht, hle⟩
  | setup => exact .inr ⟨_, _, rfl, rfl, rfl, by simp [BceVhciUrb.ErrorKnown]⟩
  | out =>
    exact .inr ⟨_, _, rfl, rfl, rfl, by simp [BceVhciUrb.ErrorKnown, BceVhciUrb.sentOut]⟩
  -- the status that settles the URB was known before the round
  | @outSettled t hc hs hcmd ht hpos hsettled =>
    obtain ⟨hne, hdone | ⟨herr, -⟩⟩ := hsettled
    · simp [BceVhciUrb.sentOut] at hdone
    · exact absurd ⟨⟨v, hfirst, hc, hs, hne, herr⟩, ⟨msg, by simp [hevq], hcmd⟩, t, ht, hpos⟩
        h.noError
  | status hc hcmd => exact absurd hcmd (hstatus hc)
  | settled hc hcmd => exact absurd hcmd (hstatus hc)

theorem Delivering.round {state : Nat} {more : Bool} (h : Delivering state q)
    (heff : DeliverEffect q more q') : Delivering state q' := by
  obtain ⟨hlive, hnodup⟩ := heff.heap.live h.live h.nodup
  have hstate := heff.state.trans h.state
  cases heff with
  | idle => exact h
  | blocked _ _ hup =>
    cases hup with
    | deferred => exact h
    | refused hr => exact absurd rfl hr
  | @delivered u urb v msg msgs r q₁ hhead hevq hup hr =>
    have hfirst := hhead.headVurb
    have htail : v.isControl = true → ∀ msg ∈ q.evq.tail,
        msg.cmd ≠ BCE_VHCI_CMD_CONTROL_TRANSFER_STATUS :=
      fun hc msg hmem => h.noStatus v hfirst hc msg (List.mem_of_mem_tail hmem)
    rcases h.update hhead hevq hup hr with ⟨rfl, t, ht, hle⟩ | ⟨t, v', rfl, -, hkind, herror⟩
    · -- no slot is free, so the next message cannot be sent either
      refine ⟨hlive, hnodup, hstate, h.active, fun v₁ hv₁ hc => ?_, ?_⟩
      · obtain rfl := Option.some.inj (hfirst.symm.trans hv₁)
        exact htail hc
      · rintro ⟨-, -, t', ht', hpos⟩
        obtain rfl := Option.some.inj (ht.symm.trans ht')
        omega
    · -- the URB stays the first
      obtain ⟨us, hlist⟩ := hhead.first
      have hhead' : ({ (q.setSq .toDevice t).setVurb urb v' with
          evq := q.evq.tail } : BceVhciTransferQueue).headVurb = some v' := by
        simp [BceVhciTransferQueue.headVurb, hlist, hhead.hcpriv]
      refine ⟨hlive, hnodup, hstate, h.active, fun v₁ hv₁ hc => ?_, noError_of_head hhead' herror⟩
      obtain rfl := Option.some.inj (hhead'.symm.trans hv₁)
      exact htail (hkind.symm.trans hc)

/-- **The delivery.** It leaves an active queue active unless it finds an error. -/
theorem deliverPending_active (hlive : q.Live) (hnodup : q.urbList.Nodup)
    (hactive : q.active = true) (hstatus : NoStatusDeferred q) :
    wp bceVhciTransferQueueDeliverPending (fun _ => True)
      (fun _ q' => q'.state = q.state ∧ (q'.active = true ↔ ¬FailsDeferred q)) q := by
  by_cases hfails : FailsDeferred q
  · -- the first round stops the queue, and the others leave it
    have hne : q.evq ≠ [] := by
      rintro hnil
      obtain ⟨-, ⟨msg, hmsg, -⟩, -⟩ := hfails
      simp [hnil] at hmsg
    obtain ⟨rounds, hrounds⟩ := Nat.exists_eq_succ_of_ne_zero (mt List.length_eq_zero_iff.mp hne)
    unfold bceVhciTransferQueueDeliverPending
    rw [wp_bind, wp_get, hrounds]
    unfold bceVhciTransferQueueDeliverPendingLoop
    rw [wp_bind]
    refine wp_imp (deliverRound_spec hlive fun _ _ _ _ _ _ _ => trivial) fun more q₁ heff => ?_
    obtain ⟨rfl, hstopped⟩ := heff.of_fails hfails
    obtain ⟨hlive₁, hnodup₁⟩ := heff.heap.live hlive hnodup
    rw [if_pos rfl]
    refine wp_imp (wp_deliverLoop (I := fun q' => q'.Live ∧ q'.urbList.Nodup ∧
      q'.state = q.state ∧ q'.active = false) ?_ rounds
      ⟨hlive₁, hnodup₁, heff.state, hstopped⟩) fun _ q' hq' => ?_
    · rintro q₂ ⟨hlive₂, hnodup₂, hstate₂, hstopped₂⟩
      refine wp_imp (deliverRound_spec hlive₂ fun _ _ _ _ _ _ _ => trivial) fun more q₃ heff => ?_
      obtain ⟨hlive₃, hnodup₃⟩ := heff.heap.live hlive₂ hnodup₂
      refine ⟨hlive₃, hnodup₃, heff.state.trans hstate₂, ?_⟩
      rcases heff.stalls with ⟨hsame, -⟩ | ⟨hstopped₃, -⟩
      · exact hsame.trans hstopped₂
      · exact hstopped₃
    · refine ⟨hq'.2.2.1, fun hact => ?_, fun hnot => absurd hfails hnot⟩
      rw [hq'.2.2.2] at hact
      cases hact
  · refine wp_imp (wp_deliverPending (I := Delivering q.state) (fun q₁ h₁ => ?_)
      ⟨hlive, hnodup, rfl, hactive, hstatus, hfails⟩) fun _ q' hq' => ?_
    · exact wp_imp (deliverRound_spec h₁.live fun _ _ _ _ _ _ _ => trivial)
        fun _ _ heff => h₁.round heff
    · exact ⟨hq'.state, fun _ => hfails, fun _ => hq'.active⟩

end Delivery

/-! ## The resume -/

section Resume

variable {q q' : BceVhciTransferQueue} {u urb : Nat} {v : BceVhciUrb} {reply : CommandOutcome}

theorem Live.head_of_headVurb (hlive : q.Live) (h : q.headVurb = some v) :
    ∃ u urb, q.Head u urb v := by
  cases hlist : q.urbList with
  | nil => simp [BceVhciTransferQueue.headVurb, hlist] at h
  | cons u us =>
    obtain ⟨urb, v', hhead⟩ := hlive.head hlist
    obtain rfl := Option.some.inj (hhead.headVurb.symm.trans h)
    exact ⟨u, urb, hhead⟩

/-- A URB with a known error after its visit had it before. -/
theorem ResumeEffect.errorKnown (hv : q.vurbs urb = some v) (h : ResumeEffect q urb v q')
    {v' : BceVhciUrb} (hv' : q'.vurbs urb = some v') (hknown : v'.ErrorKnown) : v' = v := by
  -- a started transfer waits for its completion, not for a request
  have hstarted : StartedIn 0 q urb v q' → False := by
    intro hs
    obtain ⟨t, -, -, hq'⟩ := hs.slot
    rw [hq'] at hv'
    have hat : { v with sendOffset := v.receiveOffset, state := .waitingForCompletion } = v' := by
      simpa using hv'
    have hstate := hknown.2.1
    rw [← hat] at hstate
    cases hstate
  cases h with
  | unchanged => exact Option.some.inj (hv'.symm.trans hv)
  | init _ h =>
    cases h with
    | control =>
      have hat : { v with state := .controlWaitingForSetupRequest } = v' := by simpa using hv'
      have hstate := hknown.2.1
      rw [← hat] at hstate
      cases hstate
    | out hc =>
      have hat : { v with state := outStartState q v } = v' := by simpa using hv'
      have hcontrol := hknown.1
      rw [← hat] at hcontrol
      rw [hc] at hcontrol
      cases hcontrol
    | startedIn _ _ hs => exact (hstarted hs).elim
    | failed _ _ hf =>
      rw [hf.waited.vurbs] at hv'
      exact Option.some.inj (hv'.symm.trans hv)
  | restarted _ hs => exact (hstarted hs).elim
  | @failed q₁ _ hf =>
    have hnone : (q₁.complete urb v.urb (-ENOMEM)).vurbs urb = none := Function.update_self ..
    rw [hnone] at hv'
    cases hv'

/-- The first URB stays the first, with its error. -/
theorem ResumeEffect.head (hhas : q.Has u urb v) (h : ResumeEffect q urb v q') {u₀ urb₀ : Nat}
    {v₀ : BceVhciUrb} (hhead : q.Head u₀ urb₀ v₀) (hknown : v₀.ErrorKnown) :
    q'.Head u₀ urb₀ v₀ := by
  obtain ⟨us, hlist⟩ := hhead.first
  by_cases hu : u = u₀
  · subst hu
    obtain ⟨rfl, rfl⟩ := hhas.unique hhead.toHas
    have hstate := hknown.2.1
    obtain rfl := h.same (by rw [hstate]; decide) (by rw [hstate]; decide)
    exact hhead
  · refine ⟨h.other hhas hhead.toHas (Ne.symm hu), ?_⟩
    rcases h.heap hhas.vurb with hheap | hheap
    · exact ⟨us, hheap.urbList.trans hlist⟩
    · refine ⟨us.erase u, ?_⟩
      rw [hheap.urbList, hhas.urb_eq, hlist, List.erase_cons_tail (by simpa using Ne.symm hu)]

/-- What the loop keeps of the queue `q` it began with. -/
structure Revisiting (q : BceVhciTransferQueue) (us : List Nat) (q' : BceVhciTransferQueue) :
    Prop where
  live : q'.Live
  nodup : q'.urbList.Nodup
  linked : ∀ u ∈ us, u ∈ q'.urbList
  usNodup : us.Nodup
  state : q'.state = q.state
  active : q'.active = q.active
  evq : q'.evq = q.evq
  slot : OutSlot q' ↔ OutSlot q
  kind : EveryLinked (fun _ _ v => v.isControl = q.isControl) q'
  known : EveryLinked (fun _ _ v => v.ErrorKnown → q.headVurb = some v) q'
  kept : ∀ u urb v, q.Head u urb v → v.ErrorKnown → q'.Head u urb v

theorem Revisiting.start (hserved : FirstServed q) (hlive : q.Live) (hnodup : q.urbList.Nodup) :
    Revisiting q q.urbList q where
  live := hlive
  nodup := hnodup
  linked := fun _ hu => hu
  usNodup := hnodup
  state := rfl
  active := rfl
  evq := rfl
  slot := Iff.rfl
  kind := fun u hu urb v hhas => (hserved.urbs u hu urb v hhas).1
  known := by
    intro u hu urb v hhas hknown
    obtain ⟨hcontrol, hwaits⟩ := hserved.urbs u hu urb v hhas
    -- only the first URB can wait for the request of its data
    have hfirst : q.urbList.head? = some v.urb := by
      by_contra hne
      have hstate := hknown.2.1
      rcases hwaits (hcontrol.symm.trans hknown.1) hne with hn | hn <;> simp [hstate] at hn
    rw [hhas.urb_eq] at hfirst
    exact BceVhciTransferQueue.Head.headVurb ⟨hhas, List.head?_eq_some_iff.mp hfirst⟩
  kept := fun _ _ _ hhead _ => hhead

theorem Revisiting.round {q₁ q₂ : BceVhciTransferQueue} {us : List Nat}
    (h : Revisiting q (u :: us) q₁) (hhas : q₁.Has u urb v) (heff : ResumeEffect q₁ urb v q₂) :
    Revisiting q us q₂ := by
  obtain ⟨hlive, hnodup⟩ := live_of_heap hhas (heff.heap hhas.vurb) h.live h.nodup
  obtain ⟨hu, hus⟩ := List.nodup_cons.mp h.usNodup
  have hmem : u ∈ q₁.urbList := h.linked u List.mem_cons_self
  obtain ⟨x, hx, hkind⟩ := heff.sameKind hhas.vurb
  have htouch : Touches q₁ urb x q₂ := .of_heap h.nodup (heff.heap hhas.vurb) hx
  refine ⟨hlive, hnodup, fun u' hu' => ?_, hus, heff.state.trans h.state,
    heff.flags.1.trans h.active, heff.evq.trans h.evq, heff.outSlot_iff.trans h.slot, ?_, ?_,
    fun u₀ urb₀ v₀ hhead hknown => heff.head hhas (h.kept _ _ _ hhead hknown) hknown⟩
  · refine heff.linked hhas (h.linked u' (List.mem_cons_of_mem _ hu')) ?_
    rintro rfl
    exact hu hu'
  · exact h.kind.touches htouch (fun _ _ _ hk => hk) fun v' hv' =>
      (hkind v' hv').isControl.trans (h.kind u hmem urb v hhas)
  · refine h.known.touches htouch (fun _ _ _ hk => hk) fun v' hv' hknown => ?_
    have hat : q₂.vurbs urb = some v' := by
      rw [hx, Function.update_self]
      exact hv'
    obtain rfl := heff.errorKnown hhas.vurb hat hknown
    exact h.known u hmem urb v' hhas hknown

/-- After the loop the delivery finds an error exactly if it would have before. -/
theorem Revisiting.failsDeferred_iff (h : Revisiting q [] q') (hlive : q.Live) :
    FailsDeferred q' ↔ FailsDeferred q := by
  unfold FailsDeferred
  rw [h.evq, h.slot]
  refine and_congr_left fun _ => ⟨?_, ?_⟩
  · rintro ⟨v, hv, hknown⟩
    obtain ⟨u, urb, hhead⟩ := Live.head_of_headVurb h.live hv
    exact ⟨v, h.known u (Head.mem hhead) urb v hhead.toHas hknown, hknown⟩
  · rintro ⟨v, hv, hknown⟩
    obtain ⟨u, urb, hhead⟩ := Live.head_of_headVurb hlive hv
    exact ⟨v, (h.kept u urb v hhead hknown).headVurb, hknown⟩

theorem Revisiting.noStatus (h : Revisiting q [] q') (hserved : FirstServed q) :
    NoStatusDeferred q' := by
  intro v hv hc msg hmsg
  obtain ⟨u, urb, hhead⟩ := Live.head_of_headVurb h.live hv
  have hkind := h.kind u (Head.mem hhead) urb v hhead.toHas
  exact hserved.evq (hkind.symm.trans hc) msg (h.evq ▸ hmsg)

theorem resumeCommand_zero_iff {E : Fault → Prop} :
    wp (bceVhciTransferQueueResumeCommand reply) E (fun r q' => q' = q.replied reply ∧
      (r = 0 ↔ reply.status = 0 ∧ q'.state = BCE_VHCI_ENDPOINT_ACTIVE)) q := by
  unfold bceVhciTransferQueueResumeCommand
  rw [wp_bind, wp_setState, wp_ite]
  refine ⟨fun hne => wp_pure.mpr ⟨rfl, iff_of_false hne fun h => hne h.1⟩, fun hzero => ?_⟩
  rw [wp_bind, wp_get, wp_ite]
  exact ⟨fun hne => wp_pure.mpr ⟨rfl, iff_of_false (by decide) fun h => hne h.2⟩,
    fun hs => wp_pure.mpr ⟨rfl, iff_of_true rfl ⟨not_not.mp hzero, not_not.mp hs⟩⟩⟩

/-- **The resume.** What is left of the queue is what was asked for exactly if the request
is obeyed. -/
theorem resume_obeyed_iff (hserved : FirstServed q) (hlive : q.Live) (hnodup : q.urbList.Nodup) :
    wp (bceVhciTransferQueueResume reply) (fun _ => True) (fun _ q' =>
      (q'.state = BCE_VHCI_ENDPOINT_ACTIVE ∧ q'.active = true) ↔
        Obeyed BCE_VHCI_ENDPOINT_ACTIVE reply q) q := by
  unfold bceVhciTransferQueueResume
  rw [wp_bind]
  refine wp_imp resumeCommand_zero_iff fun r q₁ hq₁ => ?_
  obtain ⟨hreplied, hzero⟩ := hq₁
  obtain ⟨state, hstate⟩ := q.replied_eq reply
  rw [wp_ite]
  refine ⟨fun hne => wp_pure.mpr ?_, fun hz => ?_⟩
  · -- the command failed: the flag is as it was
    have hactive : q₁.active = q.active := by rw [hreplied, hstate]
    have hfailed : q₁.state = BCE_VHCI_ENDPOINT_ACTIVE → reply.status ≠ 0 :=
      fun hs hok => hne (hzero.mpr ⟨hok, hs⟩)
    unfold Obeyed
    rw [← hreplied, hactive]
    constructor
    · rintro ⟨hs, ha⟩
      refine ⟨hs, fun _ => ?_⟩
      rw [if_neg (hfailed hs)]
      exact ha
    · rintro ⟨hs, ha⟩
      have hact := ha rfl
      rw [if_neg (hfailed hs)] at hact
      exact ⟨hs, hact⟩
  · -- the command succeeded: the queue is active while its URBs are visited again
    obtain ⟨hok, hs⟩ := hzero.mp (not_not.mp hz)
    have hheap : SameHeap q { q₁ with active := true } := by
      rw [hreplied, hstate]
      exact ⟨rfl, rfl, fun _ => rfl, fun _ => rfl, fun _ => rfl, rfl⟩
    have hserved' : FirstServed { q₁ with active := true } := by
      rw [hreplied, hstate]
      exact ⟨hserved.urbs.of_eq rfl rfl rfl rfl, hserved.evq⟩
    have hfails : FailsDeferred { q₁ with active := true } ↔ FailsDeferred q := by
      rw [hreplied, hstate]
      exact Iff.rfl
    have hlive' := hheap.live hlive
    unfold bceVhciTransferQueueActivate
    rw [wp_bind, wp_bind, wp_modify, wp_bind, wp_get, wp_pure, wp_bind]
    refine wp_imp (wp_resumeLoop (I := Revisiting { q₁ with active := true }) ?_ _
      (.start hserved' hlive' (hheap.urbList ▸ hnodup))) fun _ q₂ hq₂ => ?_
    · rintro u us q₃ h₃
      obtain ⟨urb, v, hhas⟩ := h₃.live u (h₃.linked u List.mem_cons_self)
      exact wp_imp (resumeUrb_spec hhas fun _ _ => trivial) fun _ _ heff => h₃.round hhas heff
    rw [wp_bind]
    refine wp_imp (deliverPending_active hq₂.live hq₂.nodup hq₂.active (hq₂.noStatus hserved'))
      fun _ q₃ hq₃ => wp_pure.mpr ?_
    -- only the delivery can stop the queue again
    have hstate₃ : q₃.state = BCE_VHCI_ENDPOINT_ACTIVE := (hq₃.1.trans hq₂.state).trans hs
    unfold Obeyed
    rw [← hreplied, hq₃.2, hq₂.failsDeferred_iff hlive', hfails, if_pos hok]
    exact ⟨fun h => ⟨hs, fun _ => h.2⟩, fun h => ⟨hstate₃, h.2 rfl⟩⟩

theorem flush_flags {E : Fault → Prop} {d : DmaDataDirection} {aborted : Nat} :
    wp (bceCmdFlushMemoryQueue d aborted) E
      (fun _ q' => q'.state = q.state ∧ q'.active = q.active) q := by
  rw [wp_flush]
  cases q.sqs d with
  | some t => exact ⟨rfl, rfl⟩
  | none => exact ⟨rfl, rfl⟩

/-- **The pause.** The queue is stopped, and the state is what the reply says. -/
theorem pause_state {abortedIn abortedOut : Nat} :
    wp (bceVhciTransferQueuePause reply abortedIn abortedOut) (fun _ => True)
      (fun _ q' => q'.state = (q.replied reply).state ∧ q'.active = false) q := by
  unfold bceVhciTransferQueuePause bceVhciTransferQueueDeactivate bceVhciTransferQueueRemovePending
  rw [wp_bind, wp_modify, wp_bind, wp_modify, wp_bind]
  refine wp_imp pauseCommand_spec fun r q₁ hq₁ => ?_
  -- neither the command nor the flushes start the queue
  have hq : q₁.state = (q.replied reply).state ∧ q₁.active = false := by
    rw [hq₁.1]
    exact ⟨rfl, rfl⟩
  rw [wp_ite]
  refine ⟨fun _ => wp_pure.mpr hq, fun _ => ?_⟩
  rw [wp_bind]
  refine wp_imp flush_flags fun _ q₂ hq₂ => ?_
  rw [wp_bind]
  refine wp_imp flush_flags fun _ q₃ hq₃ => wp_pure.mpr ?_
  exact ⟨hq₃.1.trans (hq₂.1.trans hq.1), hq₃.2.trans (hq₂.2.trans hq.2)⟩

end Resume

/-! ## The answer -/

section Answer

variable {s : BceVhci} {msg : BceVhciMessage}

theorem findTransferQueue_eq {param1 : Nat} {found : Option TqRef}
    (h : findTransferQueue param1 s = .ok found) :
    let ref : TqRef := ⟨param1 % 256, bceVhciEndpointIndex (param1 / 256 % 256)⟩
    (found = some ref ∧ s.HasTq ref) ∨ (found = none ∧ ¬s.HasTq ref) := by
  intro ref
  unfold findTransferQueue at h
  obtain ⟨dev, hget, h⟩ := Except.bind_eq_ok_iff.mp h
  rw [Table.get_eq_ok_iff] at hget
  cases dev with
  | none =>
    cases h
    refine .inr ⟨rfl, ?_⟩
    rintro ⟨dev, hdev, -⟩
    cases hget.symm.trans hdev
  | some dev =>
    simp only at h
    split at h
    · next hbit =>
      cases h
      refine .inr ⟨rfl, ?_⟩
      rintro ⟨dev', hdev, hbit', -⟩
      obtain rfl := Option.some.inj (Option.some.inj (hget.symm.trans hdev))
      simp [ref, hbit'] at hbit
    · next hbit =>
      obtain ⟨t, -, h⟩ := Except.bind_eq_ok_iff.mp h
      cases h
      exact .inl ⟨rfl, dev, hget, by simpa using hbit, bceVhciEndpointIndex_lt _⟩

/-- What a request for a state is taken for. -/
theorem stateRequest_action {a : FirmwareAction}
    (hcmd : msg.cmd = BCE_VHCI_CMD_ENDPOINT_REQUEST_STATE)
    (h : bceVhciHandleFirmwareEvent msg s = .ok a) :
    (a = .badArgument ∧ (s.HasTq msg.tqRef → msg.param2 ≠ BCE_VHCI_ENDPOINT_ACTIVE ∧
        msg.param2 ≠ BCE_VHCI_ENDPOINT_PAUSED)) ∨
      (s.HasTq msg.tqRef ∧ ((msg.param2 = BCE_VHCI_ENDPOINT_ACTIVE ∧ a = .resume msg.tqRef) ∨
        (msg.param2 = BCE_VHCI_ENDPOINT_PAUSED ∧ a = .pause msg.tqRef))) := by
  unfold bceVhciHandleFirmwareEvent at h
  rw [if_pos (.inl hcmd)] at h
  obtain ⟨found, hfind, h⟩ := Except.bind_eq_ok_iff.mp h
  obtain ⟨rfl, hhas⟩ | ⟨rfl, hnot⟩ := findTransferQueue_eq hfind
  · simp only [if_pos hcmd] at h
    split at h
    · next hactive =>
      cases h
      exact .inr ⟨hhas, .inl ⟨hactive, rfl⟩⟩
    next hactive =>
    split at h
    · next hpaused =>
      cases h
      exact .inr ⟨hhas, .inr ⟨hpaused, rfl⟩⟩
    next hpaused =>
    cases h
    exact .inl ⟨rfl, fun _ => ⟨hactive, hpaused⟩⟩
  · cases h
    exact .inl ⟨rfl, fun hhas => absurd hhas hnot⟩

end Answer

/-- **Answers to requests for a state.** For every reachable state of the transfer queue,
every controller, and every outcome of the command and the flushes: once a request for a
state is handled, the answer can be believed exactly if the request is obeyed, unless it
names no transfer queue, or a state other than active and paused. -/
theorem stateRequest_answered_iff {e : Endpoint}
    (h : endpointSystem.Reachable (fun _ _ => True) e) {s : BceVhci} {msg : BceVhciMessage}
    {a : FirmwareAction} {reply : CommandOutcome} {abortedIn abortedOut answer : Nat}
    {q' : BceVhciTransferQueue} (hcmd : msg.cmd = BCE_VHCI_CMD_ENDPOINT_REQUEST_STATE)
    (hfind : bceVhciHandleFirmwareEvent msg s = .ok a)
    (hrun : (a.run reply abortedIn abortedOut).run e.q = .ok (answer, q')) :
    Answered msg answer q' ↔ (s.HasTq msg.tqRef →
      msg.param2 = BCE_VHCI_ENDPOINT_ACTIVE ∨ msg.param2 = BCE_VHCI_ENDPOINT_PAUSED →
        Obeyed msg.param2 reply e.q) := by
  have howned := reachable_owned h
  obtain ⟨rfl, hbad⟩ | ⟨hhas, ⟨hactive, rfl⟩ | ⟨hpaused, rfl⟩⟩ := stateRequest_action hcmd hfind
  · -- the answer is an error, and the request is none for a queue there is
    cases hrun
    refine iff_of_true (fun hsuccess => absurd hsuccess (by decide)) fun hhas hstate => ?_
    exact absurd hstate (not_or.mpr (hbad hhas))
  · -- the answer to a resume is success, whatever came of it
    have hspec : wp ((FirmwareAction.resume msg.tqRef).run reply abortedIn abortedOut)
        (fun _ => True) (fun answer q' => answer = BCE_VHCI_SUCCESS ∧
          ((q'.state = BCE_VHCI_ENDPOINT_ACTIVE ∧ q'.active = true) ↔
            Obeyed BCE_VHCI_ENDPOINT_ACTIVE reply e.q)) e.q := by
      unfold FirmwareAction.run
      rw [wp_bind]
      refine wp_imp (resume_obeyed_iff (reachable_firstServed h) howned.live howned.urbList_nodup)
        fun _ q₁ hq₁ => ?_
      rw [wp_bind, wp_modify, wp_pure]
      exact ⟨rfl, hq₁⟩
    obtain ⟨rfl, hobeyed⟩ := wp_ok hspec hrun
    unfold Answered
    rw [hactive, ← hobeyed]
    exact ⟨fun hans _ _ => ⟨(hans rfl).1, (hans rfl).2.1 rfl⟩,
      fun hobeys _ => ⟨(hobeys hhas (.inl rfl)).1, fun _ => (hobeys hhas (.inl rfl)).2, nofun⟩⟩
  · -- so is the answer to a pause
    have hspec : wp ((FirmwareAction.pause msg.tqRef).run reply abortedIn abortedOut)
        (fun _ => True) (fun answer q' => answer = BCE_VHCI_SUCCESS ∧
          q'.state = (e.q.replied reply).state ∧ q'.active = false) e.q := by
      unfold FirmwareAction.run
      rw [wp_bind, wp_modify, wp_bind]
      exact wp_imp pause_state fun _ q₁ hq₁ => wp_pure.mpr ⟨rfl, hq₁.1, hq₁.2⟩
    obtain ⟨rfl, hstate, hstopped⟩ := wp_ok hspec hrun
    unfold Answered Obeyed
    rw [hpaused, hstate]
    exact ⟨fun hans _ _ => ⟨(hans rfl).1, nofun⟩,
      fun hobeys _ => ⟨(hobeys hhas (.inr rfl)).1, nofun, fun _ => hstopped⟩⟩

/-! ## Two pauses -/

/-- A controller with the endpoint `0x81` of device 1. -/
def oneEndpoint : BceVhci :=
  { BceVhci.zero with
    devices := BceVhci.zero.devices.set 1
      (some { BceVhciDevice.zero with tqMask := setBit BceVhciDevice.zero.tqMask 0x11 }) }

def pauseRequest : BceVhciMessage :=
  ⟨BCE_VHCI_CMD_ENDPOINT_REQUEST_STATE, 0, 0x8101, BCE_VHCI_ENDPOINT_PAUSED⟩

/-- The request is handled, with this reply to the command. -/
def pauseHandled (reply : CommandOutcome) : TransferM Nat :=
  (FirmwareAction.pause pauseRequest.tqRef).run reply 0 0

theorem stateRequest_answered_of_pause :
    Answered pauseRequest BCE_VHCI_SUCCESS
      (final (pauseHandled ⟨0, BCE_VHCI_ENDPOINT_PAUSED⟩) (Endpoint.fresh 0x81).q) := by
  have hfind : bceVhciHandleFirmwareEvent pauseRequest oneEndpoint =
      .ok (.pause pauseRequest.tqRef) := by decide +kernel
  have hrun := run_eq_final (m := pauseHandled ⟨0, BCE_VHCI_ENDPOINT_PAUSED⟩)
    (s := (Endpoint.fresh 0x81).q) (a := BCE_VHCI_SUCCESS) (by decide +kernel)
  refine (stateRequest_answered_iff (.of_init (Endpoint.fresh_init 0x81)) rfl hfind hrun).mpr ?_
  exact fun _ _ => ⟨rfl, nofun⟩

/-- The command fails with an internal error: the answer is success, and the queue is
still recorded as active. -/
theorem failed_pause_answered :
    bceVhciHandleFirmwareEvent pauseRequest oneEndpoint = .ok (.pause pauseRequest.tqRef) ∧
      returned (pauseHandled ⟨BCE_VHCI_INTERNAL_ERROR, 0⟩) (Endpoint.fresh 0x81).q =
        some BCE_VHCI_SUCCESS ∧
      ¬Answered pauseRequest BCE_VHCI_SUCCESS
        (final (pauseHandled ⟨BCE_VHCI_INTERNAL_ERROR, 0⟩) (Endpoint.fresh 0x81).q) := by
  refine ⟨by decide +kernel, by decide +kernel, fun hans => ?_⟩
  have hstate : (final (pauseHandled ⟨BCE_VHCI_INTERNAL_ERROR, 0⟩) (Endpoint.fresh 0x81).q).state =
    BCE_VHCI_ENDPOINT_ACTIVE := by decide +kernel
  have hpaused := (hans rfl).1
  rw [hstate] at hpaused
  cases hpaused

end BceDriver
